/-
  What raw input has to look like, written out as a list.

  `Scene.ofRaw` walks through an object and stops at the first part that it cannot read.  Here the
  same demands stand side by side.  An EXPECTATION is a place, the value found there, and what is
  demanded of it; `Field.expectations` lists those of one field, and `expectations` those of a
  whole object, field by field in the order of `Field.all`.  The list does not depend on what
  becomes of its members: a value that is no list has no items of which anything is demanded, a
  value that is no object has no parts, and an expectation stands in the list whether an earlier
  one is met or not.

  Beside the demands stands the CONTENT of an object (`Scene.content`), which is what every field
  comes to if nothing is wrong.  It is put together from total functions that refuse nothing.

  Reading is these two and no more: `ofEntries_eq_expecting` says that an object reads as its
  content if all its expectations are met, and otherwise fails with the fault of the first that is
  not.  The proof follows the reader.  `expecting es a` is the reading that the list `es` and the
  content `a` amount to, every reader of a part is shown to be one (`text_eq_expecting`,
  `choice_eq_expecting`, `castEntry_eq_expecting`, …), and `expecting_bind` puts two of them in a
  row by appending their lists.
-/
import ScenePrompt.Scene.Normalize

namespace ScenePrompt

/-! ## Views of a value that refuse nothing -/

theorem Text.trim_empty : Text.trim "" = "" := rfl

namespace Json

/-- The text of a value, trimmed; what is no text has the empty one. -/
def trimmed : Json → String
  | .str s => Text.trim s
  | _ => ""

/-- The items of a value; what is no list has none. -/
def items : Json → List Json
  | .arr vs => vs
  | _ => []

/-- The entries of a value; what is no object has none. -/
def entries : Json → Entries
  | .obj es => es
  | _ => []

/-- The value under a key of an object; what is absent is nothing. -/
def part (v : Json) (key : String) : Json := (v.entries.get? key).getD .null

@[simp]
theorem trimmed_str (s : String) : (Json.str s).trimmed = Text.trim s := rfl

@[simp]
theorem items_arr (vs : List Json) : (Json.arr vs).items = vs := rfl

@[simp]
theorem items_texts (xs : List String) : (Json.texts xs).items = xs.map Json.str := rfl

/-- The text of a value has been trimmed, so trimming it once more changes nothing.  This is why a
    scene can be read again after it was written out. -/
theorem trim_trimmed (v : Json) : Text.trim v.trimmed = v.trimmed := by
  cases v with
  | str s => exact Text.trim_trim s
  | _ => exact Text.trim_empty

end Json

/-! ## Expectations -/

/-- What may be demanded of a value.  Nothing at all (`null`) meets every demand. -/
inductive Demand where
  /-- a text -/
  | text
  /-- a list -/
  | list
  /-- a text, or an object -/
  | castEntry
  /-- a text that trims and lower-cases to a known name or to nothing -/
  | choice (known : List String)

/-- A demand on the value at a place. -/
structure Expectation where
  place : Place
  demand : Demand
  value : Json

namespace Expectation

/-- The value is what it should be.  A value that is no text passes as a choice: that it should
    be a text is demanded apart. -/
def met (e : Expectation) : Bool :=
  match e.demand with
  | .text => match e.value with
    | .null | .str _ => true
    | _ => false
  | .list => match e.value with
    | .null | .arr _ => true
    | _ => false
  | .castEntry => match e.value with
    | .null | .str _ | .obj _ => true
    | _ => false
  | .choice known =>
    Text.lower e.value.trimmed == "" || known.contains (Text.lower e.value.trimmed)

/-- What is wrong when the value is not what it should be. -/
def fault (e : Expectation) : MalformedScene :=
  match e.demand with
  | .text => .notText e.place e.value.kind
  | .list => .notList e.place e.value.kind
  | .castEntry => .notCastEntry e.place e.value.kind
  | .choice known => .notChoice e.place known (Text.lower e.value.trimmed)

/-- The expectations of all items of a list, the first item being number `i`. -/
def each (item : Nat → Json → List Expectation) : Nat → List Json → List Expectation
  | _, [] => []
  | i, v :: vs => item i v ++ each item (i + 1) vs

/-- An item of the field `name` is a text. -/
def textItem (name : String) (i : Nat) (v : Json) : List Expectation :=
  [{ place := .item name i, demand := .text, value := v }]

/-- The parts of a cast entry that are read, in this order. -/
def castParts : List String := ["name", "description", "wardrobe"]

/-- An item of the cast is a name or an object, and the parts of an object are texts. -/
def castItem (i : Nat) (v : Json) : List Expectation :=
  { place := .item Field.cast.name i, demand := .castEntry, value := v } ::
    castParts.map fun key =>
      { place := .part Field.cast.name i key, demand := .text, value := v.part key }

/-- The first expectation that is not met. -/
def firstUnmet (es : List Expectation) : Option Expectation := es.find? fun e => !e.met

/-- No expectation is the first unmet one exactly if all of them are met. -/
theorem firstUnmet_eq_none_iff {es : List Expectation} :
    firstUnmet es = none ↔ ∀ e ∈ es, e.met = true := by
  simp [firstUnmet]

/-- The first unmet expectation of two lists in a row is that of the first list if it has one, and
    else that of the second. -/
theorem firstUnmet_append (es es' : List Expectation) :
    firstUnmet (es ++ es') = (firstUnmet es).or (firstUnmet es') := by
  -- `find?` stops at the first hit, whichever list it is in
  rw [firstUnmet, List.find?_append]
  rfl

end Expectation

open Expectation

/-- What is expected of the value of a field. -/
def Field.expectations (f : Field) (v : Json) : List Expectation :=
  let demanding (demand : Demand) : Expectation := { place := .field f.name, demand, value := v }
  match f with
  | .sceneHeart | .mechanicLock | .focusTarget => [demanding .text]
  | .framing => [demanding .text, demanding (.choice framings)]
  | .lens => [demanding .text, demanding (.choice lenses)]
  | .cast => demanding .list :: each castItem 0 v.items
  | .environmentAnchors =>
    demanding .list :: each (textItem f.name) 0 (v.items.take anchorSlots)
  | .microDetails => demanding .list :: each (textItem f.name) 0 v.items

/-- What is expected of an object, field by field. -/
def expectations (entries : Entries) : List Expectation :=
  Field.all.flatMap fun f => f.expectations (f.rawValue entries)

/-! ## Content -/

/-- What a cast entry comes to. -/
def CastMember.content : Json → CastMember
  | .obj entries =>
    { name := ((Json.obj entries).part "name").trimmed
      description := ((Json.obj entries).part "description").trimmed
      wardrobe := ((Json.obj entries).part "wardrobe").trimmed }
  | v => { name := v.trimmed }

/-- What an object comes to. -/
def Scene.content (entries : Entries) : Scene :=
  let anchors :=
    ((Field.environmentAnchors.rawValue entries).items.take anchorSlots).map Json.trimmed
  { sceneHeart := (Field.sceneHeart.rawValue entries).trimmed
    framing := Text.lower (Field.framing.rawValue entries).trimmed
    lens := Text.lower (Field.lens.rawValue entries).trimmed
    cast := ((Field.cast.rawValue entries).items.map CastMember.content).filter (·.name ≠ "")
    environmentAnchors := anchors ++ List.replicate (anchorSlots - anchors.length) ""
    microDetails :=
      ((Field.microDetails.rawValue entries).items.map Json.trimmed).filter (· ≠ "")
    mechanicLock := (Field.mechanicLock.rawValue entries).trimmed
    focusTarget := (Field.focusTarget.rawValue entries).trimmed }

/-! ## Readings that expectations and content amount to -/

namespace Reading

variable {α β : Type}

/-- The content if all expectations are met, and else the fault of the first that is not. -/
def expecting (es : List Expectation) (a : α) : Reading α :=
  match firstUnmet es with
  | none => .ok a
  | some e => .error e.fault

/-- The reading succeeds exactly if every expectation is met, and then with the content; a reading
    that fails has none. -/
theorem expecting_eq_ok_iff {es : List Expectation} {a b : α} :
    expecting es a = .ok b ↔ (∀ e ∈ es, e.met = true) ∧ a = b := by
  rw [← firstUnmet_eq_none_iff, expecting]
  cases firstUnmet es with
  | none => simp
  | some e => simp

/-- The reading fails exactly with the fault of the first expectation that is not met. -/
theorem expecting_eq_error_iff {es : List Expectation} {a : α} {m : MalformedScene} :
    expecting es a = .error m ↔ ∃ e, firstUnmet es = some e ∧ e.fault = m := by
  rw [expecting]
  cases firstUnmet es with
  | none => simp
  | some e => simp

/-- One reading after another: the expectations of the second come after those of the first. -/
theorem expecting_bind {es es' : List Expectation} {a : α} {b : β} {f : α → Reading β}
    (h : f a = expecting es' b) : (expecting es a >>= f) = expecting (es ++ es') b := by
  unfold expecting
  rw [firstUnmet_append]
  cases firstUnmet es with
  | none => exact h
  | some e => rfl

/-- What is done with the content of a reading adds no expectation. -/
theorem expecting_bind_ok (es : List Expectation) (a : α) (g : α → β) :
    (expecting es a >>= fun x => .ok (g x)) = expecting es (g a) := by
  unfold expecting
  cases firstUnmet es with
  | none => rfl
  | some e => rfl

/-! ## Every reader is one -/

/-- A text is one expectation, and its content is the trimmed text.  Null reads as the empty
    text. -/
theorem text_eq_expecting (place : Place) (v : Json) :
    text place v = expecting [{ place, demand := .text, value := v }] v.trimmed := by
  cases v <;> rfl

/-- A list is one expectation, and its content is its items.  Null has none. -/
theorem list_eq_expecting (place : Place) (v : Json) :
    list place v = expecting [{ place, demand := .list, value := v }] v.items := by
  cases v <;> rfl

/-- A choice is read as a text first, and only then looked up. -/
theorem choice_eq_expecting (place : Place) (known : List String) (v : Json) :
    choice place known v =
      expecting [{ place, demand := .text, value := v },
        { place, demand := .choice known, value := v }] (Text.lower v.trimmed) := by
  -- the first expectation is that of the text; what follows is about the lower-cased text
  unfold choice
  rw [text_eq_expecting]
  refine expecting_bind ?_
  by_cases h : Text.lower v.trimmed = "" ∨ Text.lower v.trimmed ∈ known
  · -- a known name, or no name at all
    have hmet : ({ place, demand := .choice known, value := v } : Expectation).met = true := by
      simpa [met] using h
    rw [if_pos h]
    exact (expecting_eq_ok_iff.2 ⟨by simpa using hmet, rfl⟩).symm
  · -- an unknown name: the expectation is the first unmet one, and its fault the reader's
    have hmet : ({ place, demand := .choice known, value := v } : Expectation).met = false := by
      simpa [met] using h
    rw [if_neg h]
    show _ = expecting [{ place, demand := .choice known, value := v }] _
    unfold expecting firstUnmet
    rw [List.find?_cons_of_pos (by simp [hmet])]
    rfl

/-- The items of a list of texts are expected one by one, under their numbers, and each is read
    before the next one is looked at. -/
theorem textsFrom_eq_expecting (name : String) (i : Nat) (vs : List Json) :
    textsFrom name i vs = expecting (each (textItem name) i vs) (vs.map Json.trimmed) := by
  induction vs generalizing i with
  | nil => rfl
  | cons v vs ih =>
    unfold textsFrom
    rw [text_eq_expecting]
    refine expecting_bind ?_
    rw [ih]
    exact expecting_bind_ok _ _ _

/-- A part of a cast entry that is an object is a text at the place of the part, and a part that is
    absent reads like null. -/
theorem castPart_eq_expecting (i : Nat) (entries : Entries) (key : String) :
    castPart i entries key =
      expecting [{ place := .part Field.cast.name i key, demand := .text
                   value := (Json.obj entries).part key }]
        ((Json.obj entries).part key).trimmed :=
  text_eq_expecting _ _

/-- A cast entry is expected to be a name or an object.  Only of an object are parts expected, and a
    name alone has none. -/
theorem castEntry_eq_expecting (i : Nat) (v : Json) :
    castEntry i v = expecting (castItem i v) (CastMember.content v) := by
  cases v with
  | obj entries =>
    have hentry : castEntry i (.obj entries) =
        expecting (castParts.map fun key =>
          { place := .part Field.cast.name i key, demand := .text
            value := (Json.obj entries).part key }) (CastMember.content (.obj entries)) := by
      unfold castEntry
      -- name, description and wardrobe, in this order
      simp only [castPart_eq_expecting]
      exact expecting_bind (expecting_bind (expecting_bind rfl))
    rw [hentry]
    -- the entry itself is an object, so nothing is wrong with it
    rfl
  | _ => rfl

/-- Cast entries are expected one by one: all parts of one entry come before the next entry. -/
theorem castFrom_eq_expecting (i : Nat) (vs : List Json) :
    castFrom i vs = expecting (each castItem i vs) (vs.map CastMember.content) := by
  induction vs generalizing i with
  | nil => rfl
  | cons v vs ih =>
    unfold castFrom
    rw [castEntry_eq_expecting]
    refine expecting_bind ?_
    rw [ih]
    exact expecting_bind_ok _ _ _

/-- The members without a name are dropped after all entries were read, so what is wrong with one of
    them is reported although it would be dropped. -/
theorem cast_eq_expecting (v : Json) :
    cast v = expecting (Field.cast.expectations v)
      ((v.items.map CastMember.content).filter (·.name ≠ "")) := by
  unfold cast
  rw [list_eq_expecting]
  refine expecting_bind ?_
  rw [castFrom_eq_expecting]
  exact expecting_bind_ok _ _ _

/-- Blank micro-details are dropped after all of them were read. -/
theorem microDetails_eq_expecting (v : Json) :
    microDetails v = expecting (Field.microDetails.expectations v)
      ((v.items.map Json.trimmed).filter (· ≠ "")) := by
  unfold microDetails
  rw [list_eq_expecting]
  refine expecting_bind ?_
  rw [textsFrom_eq_expecting]
  exact expecting_bind_ok _ _ _

/-- The items that belong into slots are read and padded; the others are not looked at. -/
theorem anchors_eq_expecting (slots : Int) (v : Json) :
    anchors slots v =
      expecting ({ place := .field Field.environmentAnchors.name, demand := .list, value := v } ::
          each (textItem Field.environmentAnchors.name) 0 (slotted slots v.items))
        ((slotted slots v.items).map Json.trimmed ++
          List.replicate (slots - (slotted slots v.items).length).toNat "") := by
  unfold anchors
  rw [list_eq_expecting]
  refine expecting_bind ?_
  -- padding is done with what was read, so it adds no expectation
  rw [textsFrom_eq_expecting, expecting_bind_ok _ _ fun filled =>
    filled ++ List.replicate (slots - filled.length).toNat ""]
  rw [List.length_map]

/-- With a number of slots that is no negative one, these are the first items. -/
theorem slotted_natCast (n : Nat) (vs : List Json) : slotted n vs = vs.take n := by
  unfold slotted
  rw [if_pos (Int.natCast_nonneg n), Int.toNat_natCast]

end Reading

open Reading

/-- The expectations of an object, field by field.  The list is written out because the reader of an
    object reads its eight fields in a row. -/
theorem expectations_eq (entries : Entries) :
    expectations entries =
      Field.sceneHeart.expectations (Field.sceneHeart.rawValue entries) ++
      (Field.framing.expectations (Field.framing.rawValue entries) ++
      (Field.lens.expectations (Field.lens.rawValue entries) ++
      (Field.cast.expectations (Field.cast.rawValue entries) ++
      (Field.environmentAnchors.expectations (Field.environmentAnchors.rawValue entries) ++
      (Field.microDetails.expectations (Field.microDetails.rawValue entries) ++
      (Field.mechanicLock.expectations (Field.mechanicLock.rawValue entries) ++
      (Field.focusTarget.expectations (Field.focusTarget.rawValue entries) ++ []))))))) := rfl

/-- The five slots of a scene. -/
theorem Reading.anchorSlots_eq_expecting (v : Json) :
    anchors anchorSlots v = expecting (Field.environmentAnchors.expectations v)
      ((v.items.take anchorSlots).map Json.trimmed ++
        List.replicate (anchorSlots - ((v.items.take anchorSlots).map Json.trimmed).length)
          "") := by
  rw [anchors_eq_expecting, slotted_natCast, List.length_map]
  congr 3
  omega

/-- An object is read as its content, unless one of its expectations is not met. -/
theorem Scene.ofEntries_eq_expecting (entries : Entries) :
    Scene.ofEntries entries = expecting (expectations entries) (Scene.content entries) := by
  unfold Scene.ofEntries
  simp only [text_eq_expecting, choice_eq_expecting, cast_eq_expecting, microDetails_eq_expecting,
    anchorSlots_eq_expecting]
  rw [expectations_eq]
  -- eight parts in a row, and nothing is expected of putting them together
  iterate 8 refine expecting_bind ?_
  rfl

end ScenePrompt
