/-
  Values that say the same in other ways.

  Much of how a value is written does not matter: blanks around its texts, wherever in it they stand
  (`Json.Padded`); and, field by field, the letter case of a name that is chosen, blank entries of a
  list that has no places, a cast entry that is a name alone, anchors that come to nothing or stand
  beyond the slots (`Field.Restyled`).

  Of a value a field wants to know two things: whether it is acceptable and what it comes to.
  Values that agree in both READ ALIKE (`Field.ReadsAlike`), and each way of rewriting a value is
  shown to keep both.  Acceptable is said of every item, so an item may be exchanged for one that is
  as acceptable, and an acceptable one may be put in (`forall_mem_replaced`, `forall_mem_inserted`).
  What a list comes to is what its items come to: blank ones come to nothing and are dropped, if
  places do not matter; where they do, nothing is what the slots are padded with anyway.
-/
import ScenePrompt.Proofs.Scene.Acceptance
import ScenePrompt.Proofs.Text.LetterCase

namespace ScenePrompt

/-! ## What a field comes to -/

namespace Json

/-- The cast members that a value comes to. -/
def members (v : Json) : List CastMember :=
  (v.items.map CastMember.content).filter (·.name ≠ "")

/-- The texts that a value comes to in slots. -/
def slots (v : Json) : List String :=
  let anchors := (v.items.take anchorSlots).map trimmed
  anchors ++ List.replicate (anchorSlots - anchors.length) ""

/-- The texts that a value comes to where blank ones are dropped. -/
def details (v : Json) : List String := (v.items.map trimmed).filter (· ≠ "")

end Json

/-- The two values come to the same in the field, as far as they are acceptable. -/
def Field.SameContent (f : Field) (v w : Json) : Prop :=
  match f with
  | .sceneHeart | .mechanicLock | .focusTarget => v.trimmed = w.trimmed
  | .framing | .lens => Text.lower v.trimmed = Text.lower w.trimmed
  | .cast => v.members = w.members
  | .environmentAnchors => v.slots = w.slots
  | .microDetails => v.details = w.details

/-- The field accepts both values or neither, and they come to the same. -/
structure Field.ReadsAlike (f : Field) (v w : Json) : Prop where
  accepts_iff : f.Accepts v ↔ f.Accepts w
  content_eq : f.SameContent v w

namespace Field

variable {f : Field} {u v w : Json}

theorem SameContent.symm (h : f.SameContent v w) : f.SameContent w v := by
  cases f <;> exact Eq.symm h

theorem SameContent.trans (h : f.SameContent u v) (h' : f.SameContent v w) :
    f.SameContent u w := by
  cases f <;> exact Eq.trans h h'

theorem ReadsAlike.refl (f : Field) (v : Json) : f.ReadsAlike v v :=
  ⟨Iff.rfl, by cases f <;> exact rfl⟩

theorem ReadsAlike.symm (h : f.ReadsAlike v w) : f.ReadsAlike w v :=
  ⟨h.accepts_iff.symm, h.content_eq.symm⟩

theorem ReadsAlike.trans (h : f.ReadsAlike u v) (h' : f.ReadsAlike v w) : f.ReadsAlike u w :=
  ⟨h.accepts_iff.trans h'.accepts_iff, h.content_eq.trans h'.content_eq⟩

end Field

/-- Objects whose fields come to the same have the same content. -/
theorem Scene.content_congr {es es' : Entries}
    (h : ∀ f : Field, f.SameContent (f.rawValue es) (f.rawValue es')) :
    Scene.content es = Scene.content es' := by
  have hparts : ∀ entries : Entries, Scene.content entries =
      { sceneHeart := (Field.sceneHeart.rawValue entries).trimmed
        framing := Text.lower (Field.framing.rawValue entries).trimmed
        lens := Text.lower (Field.lens.rawValue entries).trimmed
        cast := (Field.cast.rawValue entries).members
        environmentAnchors := (Field.environmentAnchors.rawValue entries).slots
        microDetails := (Field.microDetails.rawValue entries).details
        mechanicLock := (Field.mechanicLock.rawValue entries).trimmed
        focusTarget := (Field.focusTarget.rawValue entries).trimmed } := fun _ => rfl
  have hheart : (Field.sceneHeart.rawValue es).trimmed = _ := h .sceneHeart
  have hframing : Text.lower (Field.framing.rawValue es).trimmed = _ := h .framing
  have hlens : Text.lower (Field.lens.rawValue es).trimmed = _ := h .lens
  have hcast : (Field.cast.rawValue es).members = _ := h .cast
  have hanchors : (Field.environmentAnchors.rawValue es).slots = _ := h .environmentAnchors
  have hdetails : (Field.microDetails.rawValue es).details = _ := h .microDetails
  have hlock : (Field.mechanicLock.rawValue es).trimmed = _ := h .mechanicLock
  have htarget : (Field.focusTarget.rawValue es).trimmed = _ := h .focusTarget
  rw [hparts, hparts, hheart, hframing, hlens, hcast, hanchors, hdetails, hlock, htarget]

/-- Objects whose fields read alike are read as the same scene. -/
theorem Scene.ofRaw_eq_ok_of_readsAlike {es es' : Entries} {s : Scene}
    (h : ∀ f : Field, f.ReadsAlike (f.rawValue es) (f.rawValue es'))
    (hs : Scene.ofRaw (.obj es) = .ok s) : Scene.ofRaw (.obj es') = .ok s := by
  obtain ⟨hfields, rfl⟩ := Scene.ofRaw_obj_eq_ok_iff.1 hs
  refine Scene.ofRaw_obj_eq_ok_iff.2 ⟨?_, ?_⟩
  · intro f
    exact (h f).accepts_iff.1 (hfields f)
  · exact (Scene.content_congr fun f => (h f).content_eq).symm

/-! ## Items of lists -/

section items

variable {α β : Type} {xs ys : List α} {v w : α}

/-- An item may be exchanged for one that comes to the same. -/
theorem map_replaced {g : α → β} (h : g v = g w) :
    (xs ++ v :: ys).map g = (xs ++ w :: ys).map g := by
  simp [h]

/-- An item may be exchanged for one that is as acceptable. -/
theorem forall_mem_replaced {P : α → Prop} (h : P v ↔ P w) :
    (∀ x ∈ xs ++ v :: ys, P x) ↔ ∀ x ∈ xs ++ w :: ys, P x := by
  simp only [List.forall_mem_append, List.forall_mem_cons, h]

/-- An item that is exchanged for another stands where that one stood. -/
theorem forall_mem_take_replaced {P : α → Prop} (h : P v ↔ P w) (n : Nat) :
    (∀ x ∈ (xs ++ v :: ys).take n, P x) ↔ ∀ x ∈ (xs ++ w :: ys).take n, P x := by
  induction xs generalizing n with
  | nil => cases n <;> simp [h]
  | cons x xs ih => cases n <;> simp [ih]

/-- An acceptable item may be put in, or taken out. -/
theorem forall_mem_inserted {P : α → Prop} (h : P v) :
    (∀ x ∈ xs ++ v :: ys, P x) ↔ ∀ x ∈ xs ++ ys, P x := by
  simp only [List.forall_mem_append, List.forall_mem_cons, h, true_and]

/-- An item that comes to nothing is not missed. -/
theorem filter_map_inserted {g : α → β} {p : β → Bool} (h : p (g v) = false) :
    ((xs ++ v :: ys).map g).filter p = ((xs ++ ys).map g).filter p := by
  simp [h]

end items

/-- The last entry under some keys, when one entry of an object gets another value: the value that
    is read is this one, or it is the same as before. -/
theorem Entries.lastOf_replaced (p : String → Bool) (xs : Entries) (k : String) (v w : Json)
    (ys : Entries) :
    lastOf p (xs ++ (k, v) :: ys) = lastOf p (xs ++ (k, w) :: ys) ∨
      p k = true ∧ lastOf p (xs ++ (k, v) :: ys) = some v ∧
        lastOf p (xs ++ (k, w) :: ys) = some w := by
  simp only [lastOf_append, lastOf_cons]
  -- an entry further back, if there is one that is asked for, comes before this one
  cases lastOf p ys with
  | some later => exact Or.inl rfl
  | none =>
    by_cases hk : p k = true
    · exact Or.inr ⟨hk, by simp [hk], by simp [hk]⟩
    · exact Or.inl (by simp [hk])

/-! ## Blanks around texts -/

namespace Json

/-- Blanks are put around a text, wherever in the value it stands, or nothing is done. -/
inductive Padded : Json → Json → Prop
  | same (v : Json) : Padded v v
  | text {bs es : List Char} (s : String) :
    (∀ c ∈ bs, Text.isBlank c = true) → (∀ c ∈ es, Text.isBlank c = true) →
    Padded (.str s) (.str (String.ofList bs ++ s ++ String.ofList es))
  | item {v w : Json} (xs ys : List Json) :
    Padded v w → Padded (.arr (xs ++ v :: ys)) (.arr (xs ++ w :: ys))
  | entry {v w : Json} (xs : Entries) (k : String) (ys : Entries) :
    Padded v w → Padded (.obj (xs ++ (k, v) :: ys)) (.obj (xs ++ (k, w) :: ys))

namespace Padded

variable {v w : Json}

/-- Blanks around a text are trimmed, and other values come to no text before and after. -/
theorem trimmed_eq (h : Padded v w) : v.trimmed = w.trimmed := by
  cases h with
  | same => rfl
  | @text bs es s hbs hes =>
    show Text.trim s = Text.trim (String.ofList bs ++ s ++ String.ofList es)
    have hwhole : (String.ofList bs ++ s ++ String.ofList es).toList = bs ++ s.toList ++ es := by
      simp
    rw [← String.toList_inj, Text.toList_trim, Text.toList_trim, hwhole,
      Text.trimChars_surround hbs hes]
  | item => rfl
  | entry => rfl

/-- A text stays a text, and what is none stays none. -/
theorem isText_iff (h : Padded v w) : v.IsText ↔ w.IsText := by
  cases h <;> simp [IsText]

end Padded

/-- A choice is a text that comes to nothing or to a known name. -/
theorem isChoice_iff {known : List String} {v : Json} :
    v.IsChoice known ↔
      v.IsText ∧ (Text.lower v.trimmed = "" ∨ Text.lower v.trimmed ∈ known) := by
  cases v <;> simp [IsChoice, IsText, trimmed, Expectation.lower_empty]

namespace Padded

variable {v w : Json}

/-- A choice stays one, since it is judged by its trim. -/
theorem isChoice_iff (h : Padded v w) (known : List String) :
    v.IsChoice known ↔ w.IsChoice known := by
  rw [Json.isChoice_iff, Json.isChoice_iff, h.isText_iff, h.trimmed_eq]

/-- The parts of an object are padded where its entries are. -/
theorem part (h : Padded v w) (xs : Entries) (k : String) (ys : Entries) (key : String) :
    Padded ((Json.obj (xs ++ (k, v) :: ys)).part key)
      ((Json.obj (xs ++ (k, w) :: ys)).part key) := by
  show Padded ((Entries.lastOf (· == key) (xs ++ (k, v) :: ys)).getD .null)
    ((Entries.lastOf (· == key) (xs ++ (k, w) :: ys)).getD .null)
  rcases Entries.lastOf_replaced (· == key) xs k v w ys with hsame | ⟨-, hv, hw⟩
  · rw [hsame]
    exact .same _
  · rw [hv, hw]
    exact h

/-- A cast entry stays acceptable: a name is a name, and of an object the parts are judged one by
    one. -/
theorem isCastEntry_iff (h : Padded v w) : v.IsCastEntry ↔ w.IsCastEntry := by
  cases h with
  | same => rfl
  | text => simp [IsCastEntry]
  | item => simp [IsCastEntry]
  | entry xs k ys h =>
    have hname := (h.part xs k ys "name").isText_iff
    have hdescription := (h.part xs k ys "description").isText_iff
    have hwardrobe := (h.part xs k ys "wardrobe").isText_iff
    simp only [IsCastEntry, reduceCtorEq, false_or, exists_false, obj.injEq, exists_eq_left']
    rw [hname, hdescription, hwardrobe]

/-- A cast entry comes to the same member, because name, description and wardrobe are all
    trimmed. -/
theorem castContent_eq (h : Padded v w) : CastMember.content v = CastMember.content w := by
  cases h with
  | same => rfl
  | text s hbs hes =>
    have htrimmed := (text s hbs hes).trimmed_eq
    exact congrArg (fun name => CastMember.mk name "" "") htrimmed
  | item => rfl
  | entry xs k ys h =>
    have hname := (h.part xs k ys "name").trimmed_eq
    have hdescription := (h.part xs k ys "description").trimmed_eq
    have hwardrobe := (h.part xs k ys "wardrobe").trimmed_eq
    show CastMember.mk _ _ _ = CastMember.mk _ _ _
    rw [hname, hdescription, hwardrobe]

end Padded

end Json

/-- Blanks around texts do not show in any field. -/
theorem Json.Padded.readsAlike {v w : Json} (h : v.Padded w) (f : Field) : f.ReadsAlike v w := by
  -- field by field; in the lists, the item that was padded is exchanged
  have haccepts : f.Accepts v ↔ f.Accepts w := by
    cases f with
    | sceneHeart | mechanicLock | focusTarget => exact h.isText_iff
    | framing => exact h.isChoice_iff _
    | lens => exact h.isChoice_iff _
    | cast =>
      cases h with
      | item xs ys h => simpa [Field.Accepts] using forall_mem_replaced h.isCastEntry_iff
      | _ => simp [Field.Accepts]
    | environmentAnchors =>
      cases h with
      | item xs ys h => simpa [Field.Accepts] using forall_mem_take_replaced h.isText_iff 5
      | _ => simp [Field.Accepts]
    | microDetails =>
      cases h with
      | item xs ys h => simpa [Field.Accepts] using forall_mem_replaced h.isText_iff
      | _ => simp [Field.Accepts]
  have hcontent : f.SameContent v w := by
    cases f with
    | sceneHeart | mechanicLock | focusTarget => exact h.trimmed_eq
    | framing | lens => exact congrArg Text.lower h.trimmed_eq
    | cast =>
      cases h with
      | item xs ys h => exact congrArg (List.filter _) (map_replaced h.castContent_eq)
      | _ => exact rfl
    | environmentAnchors =>
      cases h with
      | item xs ys h =>
        have hmap : (xs ++ _ :: ys).map trimmed = (xs ++ _ :: ys).map trimmed :=
          map_replaced h.trimmed_eq
        show slots _ = slots _
        simp only [slots, items_arr, List.map_take, hmap]
      | _ => exact rfl
    | microDetails =>
      cases h with
      | item xs ys h => exact congrArg (List.filter _) (map_replaced h.trimmed_eq)
      | _ => exact rfl
  exact ⟨haccepts, hcontent⟩

/-! ## Ways of rewriting the value of a field -/

namespace Json

/-- Nothing, or a text of blanks. -/
def IsBlank (v : Json) : Prop := v = .null ∨ ∃ s, v = .str s ∧ Text.isBlankText s = true

/-- A cast entry that has no name: a blank one, or an object with a blank name whose other parts
    are acceptable. -/
def IsBlankMember (v : Json) : Prop :=
  v.IsBlank ∨ ∃ es, v = .obj es ∧ (v.part "name").IsBlank ∧ (v.part "description").IsText ∧
    (v.part "wardrobe").IsText

/-- Blank values are acceptable as texts. -/
theorem IsBlank.isText {v : Json} (h : v.IsBlank) : v.IsText := by
  rcases h with rfl | ⟨s, rfl, -⟩
  · exact Or.inl rfl
  · exact Or.inr ⟨s, rfl⟩

theorem IsBlank.trimmed_eq {v : Json} (h : v.IsBlank) : v.trimmed = "" := by
  rcases h with rfl | ⟨s, rfl, hblank⟩
  · rfl
  · exact Text.trim_eq_empty.2 hblank

/-- Nameless entries are acceptable in a cast. -/
theorem IsBlankMember.isCastEntry {v : Json} (h : v.IsBlankMember) : v.IsCastEntry := by
  rcases h with (rfl | ⟨s, rfl, -⟩) | ⟨es, rfl, hname, hdescription, hwardrobe⟩
  · exact Or.inl rfl
  · exact Or.inr (Or.inl ⟨s, rfl⟩)
  · exact Or.inr (Or.inr ⟨es, rfl, hname.isText, hdescription, hwardrobe⟩)

/-- They come to a member without a name, whatever else is said of it. -/
theorem IsBlankMember.name_eq {v : Json} (h : v.IsBlankMember) :
    (CastMember.content v).name = "" := by
  rcases h with hblank | ⟨es, rfl, hname, -⟩
  · have htrimmed := hblank.trimmed_eq
    rcases hblank with rfl | ⟨s, rfl, -⟩
    · rfl
    · exact htrimmed
  · exact hname.trimmed_eq

end Json

namespace Field

/-- What a field may hold and still say nothing: a text that is blank, a list that is empty. -/
def IsEmpty (f : Field) (v : Json) : Prop :=
  match f with
  | .cast | .environmentAnchors | .microDetails => v = .null ∨ v = .arr []
  | .sceneHeart | .framing | .lens | .mechanicLock | .focusTarget => v.IsBlank

/-- Ways of rewriting the value of a field, each in one direction. -/
inductive Restyled : Field → Json → Json → Prop
  /-- the ASCII letters of a name that is chosen change their case -/
  | recased {f : Field} {s t : String} :
    f = .framing ∨ f = .lens → s.toList.map Char.toLower = t.toList.map Char.toLower →
    Restyled f (.str s) (.str t)
  /-- a blank entry is put somewhere into the cast -/
  | blankMember {b : Json} (xs ys : List Json) :
    b.IsBlankMember → Restyled .cast (.arr (xs ++ ys)) (.arr (xs ++ b :: ys))
  /-- a name in the cast becomes an object that has nothing but the name -/
  | nameAlone (xs : List Json) (name : String) (ys : List Json) :
    Restyled .cast (.arr (xs ++ .str name :: ys)) (.arr (xs ++ .obj [("name", .str name)] :: ys))
  /-- a blank entry is put somewhere among the micro-details -/
  | blankDetail {b : Json} (xs ys : List Json) :
    b.IsBlank → Restyled .microDetails (.arr (xs ++ ys)) (.arr (xs ++ b :: ys))
  /-- a blank anchor is appended while there are slots left -/
  | blankAnchor {b : Json} (xs : List Json) :
    xs.length < 5 → b.IsBlank → Restyled .environmentAnchors (.arr xs) (.arr (xs ++ [b]))
  /-- anything is appended when there are none -/
  | beyondSlots (xs ys : List Json) :
    5 ≤ xs.length → Restyled .environmentAnchors (.arr xs) (.arr (xs ++ ys))

/-- What says nothing reads like nothing. -/
theorem IsEmpty.readsAlike_null {f : Field} {v : Json} (h : f.IsEmpty v) :
    f.ReadsAlike .null v := by
  have hblank : v.IsBlank → Json.null.IsText ∧ v.IsText ∧ Json.null.trimmed = v.trimmed :=
    fun hv => ⟨Or.inl rfl, hv.isText, hv.trimmed_eq.symm⟩
  cases f with
  | cast | environmentAnchors | microDetails =>
    rcases h with rfl | rfl
    · exact .refl _ _
    · exact ⟨by simp [Accepts], rfl⟩
  | sceneHeart | mechanicLock | focusTarget =>
    obtain ⟨hnull, hv, htrimmed⟩ := hblank h
    exact ⟨iff_of_true hnull hv, htrimmed⟩
  | framing | lens =>
    obtain ⟨hnull, hv, htrimmed⟩ := hblank h
    refine ⟨?_, congrArg Text.lower htrimmed⟩
    show Json.IsChoice _ _ ↔ Json.IsChoice _ _
    rw [Json.isChoice_iff, Json.isChoice_iff, htrimmed]
    simp [hnull, hv]

/-- A chosen name is lower-cased before it is looked at. -/
theorem readsAlike_recased {f : Field} {s t : String} (hf : f = .framing ∨ f = .lens)
    (h : s.toList.map Char.toLower = t.toList.map Char.toLower) :
    f.ReadsAlike (.str s) (.str t) := by
  have hlower : Text.lower (Json.str s).trimmed = Text.lower (Json.str t).trimmed :=
    Text.lower_trim_congr h
  have hchoice : ∀ known, (Json.str s).IsChoice known ↔ (Json.str t).IsChoice known := by
    intro known
    rw [Json.isChoice_iff, Json.isChoice_iff, hlower]
    simp [Json.IsText]
  rcases hf with rfl | rfl
  · exact ⟨hchoice _, hlower⟩
  · exact ⟨hchoice _, hlower⟩

/-- Members without a name are dropped. -/
theorem readsAlike_blankMember {b : Json} (h : b.IsBlankMember) (xs ys : List Json) :
    Field.cast.ReadsAlike (.arr (xs ++ ys)) (.arr (xs ++ b :: ys)) := by
  constructor
  · simpa [Accepts] using (forall_mem_inserted h.isCastEntry).symm
  · show Json.members _ = Json.members _
    exact (filter_map_inserted (by simp [h.name_eq])).symm

/-- A name is a member whose other parts are empty. -/
theorem readsAlike_nameAlone (xs : List Json) (name : String) (ys : List Json) :
    Field.cast.ReadsAlike (.arr (xs ++ .str name :: ys))
      (.arr (xs ++ .obj [("name", .str name)] :: ys)) := by
  have hname : (Json.str name).IsCastEntry := Or.inr (Or.inl ⟨name, rfl⟩)
  have hobject : (Json.obj [("name", .str name)]).IsCastEntry :=
    Or.inr (Or.inr ⟨_, rfl, Or.inr ⟨name, rfl⟩, Or.inl rfl, Or.inl rfl⟩)
  constructor
  · simpa [Accepts] using forall_mem_replaced (iff_of_true hname hobject)
  · show Json.members _ = Json.members _
    exact congrArg (List.filter _) (map_replaced rfl)

/-- Blank details are dropped. -/
theorem readsAlike_blankDetail {b : Json} (h : b.IsBlank) (xs ys : List Json) :
    Field.microDetails.ReadsAlike (.arr (xs ++ ys)) (.arr (xs ++ b :: ys)) := by
  constructor
  · simpa [Accepts] using (forall_mem_inserted h.isText).symm
  · show Json.details _ = Json.details _
    exact (filter_map_inserted (by simp [h.trimmed_eq])).symm

/-- A slot that is filled with nothing is like one that is not filled. -/
theorem readsAlike_blankAnchor {b : Json} (h : b.IsBlank) {xs : List Json} (hxs : xs.length < 5) :
    Field.environmentAnchors.ReadsAlike (.arr xs) (.arr (xs ++ [b])) := by
  have hshort : xs.take 5 = xs := List.take_of_length_le (Nat.le_of_lt hxs)
  have hlong : (xs ++ [b]).take 5 = xs ++ [b] := by
    refine List.take_of_length_le ?_
    rw [List.length_append, List.length_singleton]
    exact hxs
  constructor
  · have hsame : (∀ x ∈ xs ++ [b], x.IsText) ↔ ∀ x ∈ xs ++ [], x.IsText :=
      forall_mem_inserted h.isText
    simpa [Accepts, hshort, hlong] using hsame.symm
  · -- the blank anchor is one of those that the slots would be padded with
    have hpadding : List.replicate (5 - xs.length) "" =
        "" :: List.replicate (5 - (xs.length + 1)) "" := by
      have hroom : 5 - xs.length = 5 - (xs.length + 1) + 1 := by omega
      rw [hroom, List.replicate_succ]
    show Json.slots _ = Json.slots _
    unfold Json.slots anchorSlots
    simp only [Json.items_arr, hshort, hlong, List.map_append, List.map_cons, List.map_nil,
      List.length_append, List.length_map, List.length_cons, List.length_nil, h.trimmed_eq,
      List.append_assoc, List.singleton_append, hpadding]

/-- What stands beyond the slots is not looked at, so it may be anything, acceptable or not. -/
theorem readsAlike_beyondSlots {xs : List Json} (hxs : 5 ≤ xs.length) (ys : List Json) :
    Field.environmentAnchors.ReadsAlike (.arr xs) (.arr (xs ++ ys)) := by
  have htake : (xs ++ ys).take 5 = xs.take 5 := List.take_append_of_le_length hxs
  constructor
  · simp [Accepts, htake]
  · show Json.slots _ = Json.slots _
    unfold Json.slots anchorSlots
    simp only [Json.items_arr, htake]

/-- **However a value is rewritten, it reads alike.** -/
theorem Restyled.readsAlike {f : Field} {v w : Json} (h : f.Restyled v w) : f.ReadsAlike v w := by
  cases h with
  | recased hf hcase => exact readsAlike_recased hf hcase
  | blankMember xs ys hb => exact readsAlike_blankMember hb xs ys
  | nameAlone xs name ys => exact readsAlike_nameAlone xs name ys
  | blankDetail xs ys hb => exact readsAlike_blankDetail hb xs ys
  | blankAnchor xs hxs hb => exact readsAlike_blankAnchor hb hxs
  | beyondSlots xs ys hxs => exact readsAlike_beyondSlots hxs ys

end Field

end ScenePrompt
