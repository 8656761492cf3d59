/-
  Which raw input is accepted, and what is said of the rest.

  `Acceptable` says in so many words what raw input must look like: it is nothing at all, or an
  object every field of which is absent, null or of the field's own shape (`Field.Accepts`).  The
  shapes are not of one piece.  Of the anchors only the first five are looked at, of micro-details
  and cast entries every one; the parts of a cast entry must be texts even if the entry is going to
  be dropped; a text is no list.

  Acceptable input and no other is read (`ofRaw_eq_ok_iff`), and what it reads as is its content.
  The bridge is the list of expectations: all of them are met exactly when every field is
  acceptable (`met_expectations_iff`).  Input that is not acceptable is refused at the first
  expectation that it does not meet, in a message that begins with the place.  How a place has to
  be written is said once more, apart from the function that writes it (`Place.Opens`), so that a
  message which left the place out would not do.

  What is read out of acceptable input passes the schemas of scenes and of cast members
  (`content_wellFormed`), so putting a scene together out of its parts cannot fail either.
-/
import ScenePrompt.Proofs.Scene.Expectation
import ScenePrompt.Schema.Scene

namespace ScenePrompt

open Expectation Reading

/-! ## Acceptable values -/

namespace Json

/-- Nothing, or a text. -/
def IsText (v : Json) : Prop := v = .null ∨ ∃ s, v = .str s

/-- A list of texts holds texts. -/
theorem isText_of_mem_texts {xs : List String} {v : Json} (hv : v ∈ xs.map Json.str) :
    v.IsText := by
  obtain ⟨x, -, rfl⟩ := List.mem_map.1 hv
  exact Or.inr ⟨x, rfl⟩

/-- Nothing, or a text that comes to nothing or to a known name when it is trimmed and
    lower-cased. -/
def IsChoice (known : List String) (v : Json) : Prop :=
  v = .null ∨
    ∃ s, v = .str s ∧ (Text.lower (Text.trim s) = "" ∨ Text.lower (Text.trim s) ∈ known)

/-- Nothing, a name, or an object whose name, description and wardrobe are nothing or texts. -/
def IsCastEntry (v : Json) : Prop :=
  v = .null ∨ (∃ s, v = .str s) ∨
    ∃ es, v = .obj es ∧ (v.part "name").IsText ∧ (v.part "description").IsText ∧
      (v.part "wardrobe").IsText

end Json

/-- The value is of the field's shape. -/
def Field.Accepts (f : Field) (v : Json) : Prop :=
  match f with
  | .sceneHeart | .mechanicLock | .focusTarget => v.IsText
  | .framing => v.IsChoice ["tight", "medium", "wide"]
  | .lens => v.IsChoice ["shallow", "deep"]
  | .cast => v = .null ∨ ∃ vs, v = .arr vs ∧ ∀ x ∈ vs, x.IsCastEntry
  | .environmentAnchors => v = .null ∨ ∃ vs, v = .arr vs ∧ ∀ x ∈ vs.take 5, x.IsText
  | .microDetails => v = .null ∨ ∃ vs, v = .arr vs ∧ ∀ x ∈ vs, x.IsText

/-- The input is nothing, or an object all fields of which are of their shapes. -/
def Acceptable (raw : Json) : Prop :=
  raw = .null ∨ ∃ entries, raw = .obj entries ∧ ∀ f : Field, f.Accepts (f.rawValue entries)

/-! ## Expectations that are met -/

namespace Expectation

theorem lower_empty : Text.lower "" = "" := rfl

/-- A value meets the demand for a text exactly if it is one, or null. -/
theorem met_text_iff (place : Place) (v : Json) :
    ({ place, demand := .text, value := v } : Expectation).met = true ↔ v.IsText := by
  cases v <;> simp [met, Json.IsText]

/-- A choice is two demands at one place. -/
theorem met_choice_iff (place : Place) (known : List String) (v : Json) :
    (∀ e ∈ ([{ place, demand := .text, value := v },
        { place, demand := .choice known, value := v }] : List Expectation), e.met = true) ↔
      v.IsChoice known := by
  rw [List.forall_mem_cons, List.forall_mem_singleton, met_text_iff]
  cases v <;> simp [met, Json.IsText, Json.IsChoice, Json.trimmed, lower_empty]

/-- All items of a list meet what is expected of them exactly when each has the property that its
    own expectations amount to. -/
theorem met_each_iff {item : Nat → Json → List Expectation} {P : Json → Prop}
    (h : ∀ i v, (∀ e ∈ item i v, e.met = true) ↔ P v) (i : Nat) (vs : List Json) :
    (∀ e ∈ each item i vs, e.met = true) ↔ ∀ v ∈ vs, P v := by
  induction vs generalizing i with
  | nil => simp [each]
  | cons v vs ih =>
    simp only [each, List.forall_mem_append, List.forall_mem_cons, ih, h]

/-- A list field meets its expectations exactly when it is nothing, or a list whose items, as far
    as they are looked at, meet theirs. -/
theorem met_list_iff {item : Nat → Json → List Expectation} {P : Json → Prop}
    (h : ∀ i v, (∀ e ∈ item i v, e.met = true) ↔ P v) (seen : List Json → List Json)
    (hseen : seen [] = []) (place : Place) (v : Json) :
    (∀ e ∈ ({ place, demand := .list, value := v } : Expectation) :: each item 0 (seen v.items),
      e.met = true) ↔ v = .null ∨ ∃ vs, v = .arr vs ∧ ∀ x ∈ seen vs, P x := by
  rw [List.forall_mem_cons, met_each_iff h]
  -- only an array has items; any other value but null fails the demand for a list
  cases v <;> simp [met, Json.items, hseen]

/-- What is expected of an item of a list of texts amounts to its being a text or null. -/
theorem met_textItem_iff (name : String) (i : Nat) (v : Json) :
    (∀ e ∈ textItem name i v, e.met = true) ↔ v.IsText := by
  rw [textItem, List.forall_mem_singleton, met_text_iff]

/-- What is expected of an item of the cast, the entry and its three parts, amounts to its being a
    cast entry. -/
theorem met_castItem_iff (i : Nat) (v : Json) :
    (∀ e ∈ castItem i v, e.met = true) ↔ v.IsCastEntry := by
  unfold castItem castParts
  simp only [List.map_cons, List.map_nil, List.forall_mem_cons, met_text_iff]
  -- what is no object has no parts, so nothing is wrong with them
  cases v <;>
    simp [met, Json.IsCastEntry, Json.IsText, Json.part, Json.entries, Entries.get?]

end Expectation

/-- The expectations of a field are met exactly when its value is of the field's shape. -/
theorem Field.met_expectations_iff (f : Field) (v : Json) :
    (∀ e ∈ f.expectations v, e.met = true) ↔ f.Accepts v := by
  cases f with
  | sceneHeart | mechanicLock | focusTarget =>
    exact List.forall_mem_singleton.trans (met_text_iff _ v)
  | framing | lens =>
    exact met_choice_iff _ _ v
  | cast => exact met_list_iff met_castItem_iff id rfl _ v
  | environmentAnchors => exact met_list_iff (met_textItem_iff _) (List.take 5) rfl _ v
  | microDetails => exact met_list_iff (met_textItem_iff _) id rfl _ v

/-- All expectations of an object are met exactly if each field is of its own shape.  This joins the
    list, which knows an order, to `Acceptable`, which knows none. -/
theorem met_expectations_iff (entries : Entries) :
    (∀ e ∈ expectations entries, e.met = true) ↔ ∀ f : Field, f.Accepts (f.rawValue entries) := by
  constructor
  · intro h f
    refine (f.met_expectations_iff _).1 fun e he => h e ?_
    exact List.mem_flatMap.2 ⟨f, f.mem_all, he⟩
  · intro h e he
    obtain ⟨f, -, hf⟩ := List.mem_flatMap.1 he
    exact (f.met_expectations_iff _).2 (h f) e hf

/-! ## Reading raw input -/

/-- Raw input is read exactly if it is acceptable, and then as its content. -/
theorem Scene.ofRaw_eq_ok_iff {raw : Json} {s : Scene} :
    Scene.ofRaw raw = .ok s ↔ Acceptable raw ∧ Scene.content raw.entries = s := by
  have hentries : ∀ entries, Scene.ofEntries entries = .ok s ↔
      (∀ f : Field, f.Accepts (f.rawValue entries)) ∧ Scene.content entries = s := fun entries => by
    rw [Scene.ofEntries_eq_expecting, expecting_eq_ok_iff, met_expectations_iff]
  unfold Acceptable
  cases raw with
  | null =>
    -- nothing at all is read like an object without entries, which has all fields absent
    have hnull : ∀ f : Field, f.Accepts (f.rawValue []) := fun f => by
      cases f <;> exact Or.inl rfl
    refine (hentries []).trans ?_
    simp [hnull, Json.entries]
  | obj entries =>
    refine (hentries entries).trans ?_
    simp [Json.entries]
  | _ => simp [Scene.ofRaw, rawEntries, bind, Except.bind]

/-- An object is read exactly if all its fields are of their shapes. -/
theorem Scene.ofRaw_obj_eq_ok_iff {es : Entries} {s : Scene} :
    Scene.ofRaw (.obj es) = .ok s ↔
      (∀ f : Field, f.Accepts (f.rawValue es)) ∧ Scene.content es = s := by
  rw [Scene.ofRaw_eq_ok_iff]
  simp [Acceptable, Json.entries]

/-- Nothing is padded or left over: the slots are five. -/
theorem Scene.length_content_environmentAnchors (entries : Entries) :
    (Scene.content entries).environmentAnchors.length = anchorSlots := by
  have h : ∀ vs : List Json, ((vs.take anchorSlots).map Json.trimmed).length ≤ anchorSlots :=
    fun vs => by
      rw [List.length_map]
      exact List.length_take_le _ _
  have h' := h (Field.environmentAnchors.rawValue entries).items
  simp only [Scene.content, List.length_append, List.length_replicate]
  omega

/-- The content of acceptable fields is what a scene must be. -/
theorem Scene.content_wellFormed {entries : Entries}
    (h : ∀ f : Field, f.Accepts (f.rawValue entries)) : (Scene.content entries).WellFormed := by
  have hchoice : ∀ (known : List String) (v : Json), v.IsChoice known →
      Text.lower v.trimmed = "" ∨ Text.lower v.trimmed ∈ known := by
    intro known v hv
    -- a choice that is accepted comes to nothing or to a known name
    rcases hv with rfl | ⟨s, rfl, hs⟩
    · exact Or.inl rfl
    · exact hs
  refine ⟨hchoice _ _ (h .framing), hchoice _ _ (h .lens), ?_,
    Scene.length_content_environmentAnchors entries⟩
  intro m hm
  simpa using (List.mem_filter.1 hm).2

/-- Whatever is read is what a scene must be. -/
theorem Scene.wellFormed_of_ofRaw {raw : Json} {s : Scene} (h : Scene.ofRaw raw = .ok s) :
    s.WellFormed := by
  obtain ⟨hacceptable, rfl⟩ := Scene.ofRaw_eq_ok_iff.1 h
  rcases hacceptable with rfl | ⟨entries, rfl, hfields⟩
  · decide
  · exact Scene.content_wellFormed hfields

/-- Every cast member that is kept has a name. -/
theorem Reading.name_ne_empty_of_cast {v : Json} {ms : List CastMember}
    (h : Reading.cast v = .ok ms) : ∀ m ∈ ms, m.name ≠ "" := by
  rw [cast_eq_expecting, expecting_eq_ok_iff] at h
  obtain ⟨-, rfl⟩ := h
  intro m hm
  simpa using (List.mem_filter.1 hm).2

/-- Input that is no object, nor nothing at all, is refused as a whole. -/
theorem Scene.ofRaw_of_not_object {raw : Json} (hnull : raw ≠ .null)
    (hobj : ∀ entries, raw ≠ .obj entries) :
    Scene.ofRaw raw = .error (.notObject raw.kind) := by
  cases raw with
  | null => exact absurd rfl hnull
  | obj entries => exact absurd rfl (hobj entries)
  | _ => rfl

/-- An object that is not acceptable is refused at the first expectation that it does not meet. -/
theorem Scene.ofRaw_of_not_accepts {entries : Entries}
    (h : ¬ ∀ f : Field, f.Accepts (f.rawValue entries)) :
    ∃ before e after, expectations entries = before ++ e :: after ∧
      (∀ x ∈ before, x.met = true) ∧ e.met = false ∧
      Scene.ofRaw (.obj entries) = .error e.fault := by
  -- if no expectation were unmet, all fields would be acceptable
  have hsome : firstUnmet (expectations entries) ≠ none := by
    rw [Ne, firstUnmet_eq_none_iff, met_expectations_iff]
    exact h
  obtain ⟨e, he⟩ := Option.ne_none_iff_exists'.1 hsome
  have hread : Scene.ofRaw (.obj entries) = .error e.fault :=
    (Scene.ofEntries_eq_expecting entries).trans (expecting_eq_error_iff.2 ⟨e, he, rfl⟩)
  obtain ⟨hunmet, before, after, hsplit, hbefore⟩ := List.find?_eq_some_iff_append.1 he
  refine ⟨before, e, after, hsplit, ?_, ?_, hread⟩
  · intro x hx
    simpa using hbefore x hx
  · simpa using hunmet

/-! ## How a fault names its place -/

/-- `place.Opens message`: the message begins with the place, and then says what has to be there.  A
    field is written as its name, an item with its number in brackets behind the name of the field
    (`cast[1]`), and a part of an item with a dot and its key behind that (`cast[1].wardrobe`).  The
    relation does not mention `Place.text`, which writes the places: it is what `Place.text` is held
    against. -/
inductive Place.Opens : Place → String → Prop
  | field (name rest : String) : Opens (.field name) (name ++ " must be " ++ rest)
  | item (name : String) (i : Nat) (rest : String) :
    Opens (.item name i) (name ++ "[" ++ toString i ++ "] must be " ++ rest)
  | part (name : String) (i : Nat) (key rest : String) :
    Opens (.part name i key) (name ++ "[" ++ toString i ++ "]." ++ key ++ " must be " ++ rest)

/-- `Place.text` writes a place the way it has to be written, whatever follows. -/
theorem Place.opens_text (place : Place) (rest : String) :
    place.Opens (place.text ++ (" must be " ++ rest)) := by
  cases place with
  | field name =>
    rw [← String.append_assoc]
    exact .field name rest
  | item name i =>
    have hspelled : (Place.item name i).text ++ (" must be " ++ rest) =
        name ++ "[" ++ toString i ++ "] must be " ++ rest := by
      -- the closing bracket is the last letter of the place, and stands in front of the demand
      have hbracket : "] must be " = "]" ++ " must be " := by decide
      rw [hbracket, text]
      simp only [String.append_assoc]
    rw [hspelled]
    exact .item name i rest
  | part name i key =>
    rw [← String.append_assoc]
    exact .part name i key rest

/-- Every demand is worded as something that the value must be: the four wordings of
    `MalformedScene.message` differ in what comes after that. -/
theorem append_mustBe {wording what : String} (h : wording = " must be " ++ what)
    (place found : String) :
    place ++ wording ++ found = place ++ (" must be " ++ (what ++ found)) := by
  rw [h, String.append_assoc, String.append_assoc]

/-- A fault is worded with its place first, whichever demand it is that the value does not meet. -/
theorem Expectation.opens_message_fault (e : Expectation) : e.place.Opens e.fault.message := by
  obtain ⟨place, demand, v⟩ := e
  have hopens : ∀ {message : String},
      (∃ rest, message = place.text ++ (" must be " ++ rest)) → place.Opens message := by
    rintro message ⟨rest, rfl⟩
    exact place.opens_text rest
  cases demand with
  | text =>
    have h : " must be a string or null, got " = " must be " ++ "a string or null, got " := by
      decide
    exact hopens ⟨_, append_mustBe h place.text v.kind.name⟩
  | list =>
    have h : " must be a list, got " = " must be " ++ "a list, got " := by decide
    exact hopens ⟨_, append_mustBe h place.text v.kind.name⟩
  | castEntry =>
    have h : " must be a string or an object, got " =
        " must be " ++ "a string or an object, got " := by decide
    exact hopens ⟨_, append_mustBe h place.text v.kind.name⟩
  | choice known =>
    -- here the known names and the text that was given come after the demand
    have h : " must be one of " = " must be " ++ "one of " := by decide
    refine hopens ⟨_, Eq.trans ?_ (append_mustBe h place.text
      (String.intercalate ", " known ++ ("; got '" ++ (Text.lower v.trimmed ++ "'"))))⟩
    show place.text ++ " must be one of " ++ String.intercalate ", " known ++ "; got '" ++
      Text.lower v.trimmed ++ "'" = _
    simp only [String.append_assoc]

/-! ## The exact border -/

/-- **Exactly acceptable input is read.**  What is read passes the schema of scenes, and the cast
    members that are kept that of cast members, so no scene is refused after it was read.
    All other input is refused: as a whole if it is no object, and else at the first place, in the
    order of the expectations, where the value is not what it should be; the message begins with
    that place, spelled as `name`, `name[i]` or `name[i].part`.  The names that are meant, the order
    they come in and the keys they go by are written out at the end. -/
theorem Scene.ofRaw_isOk_iff_acceptable (raw : Json) :
    ((∃ s, Scene.ofRaw raw = .ok s) ↔ Acceptable raw) ∧
    (∀ s, Scene.ofRaw raw = .ok s → Scene.check s.toJson = .ok s) ∧
    (∀ v ms, Reading.cast v = .ok ms → ∀ m ∈ ms, CastMember.check m.toJson = .ok m) ∧
    (¬ Acceptable raw →
      (∃ entries before e after, raw = .obj entries ∧
        expectations entries = before ++ e :: after ∧
        (∀ x ∈ before, x.met = true) ∧ e.met = false ∧
        Scene.ofRaw raw = .error e.fault ∧ e.place.Opens e.fault.message) ∨
      ((∀ entries, raw ≠ .obj entries) ∧ Scene.ofRaw raw = .error (.notObject raw.kind) ∧
        (MalformedScene.notObject raw.kind).message =
          "Scene input must be a mapping, got " ++ raw.kind.name)) ∧
    Field.all.map (fun f => (f.name, f.spellings)) =
      [("scene_heart", ["scene_heart", "sceneHeart"]), ("framing", ["framing"]),
        ("lens", ["lens"]), ("cast", ["cast"]),
        ("environment_anchors", ["environment_anchors", "environmentAnchors"]),
        ("micro_details", ["micro_details", "microDetails"]),
        ("mechanic_lock", ["mechanic_lock", "mechanicLock"]),
        ("focus_target", ["focus_target", "focusTarget"])] := by
  refine ⟨?_, ?_, ?_, ?_, rfl⟩
  · constructor
    · rintro ⟨s, hs⟩
      exact (Scene.ofRaw_eq_ok_iff.1 hs).1
    · intro h
      exact ⟨_, Scene.ofRaw_eq_ok_iff.2 ⟨h, rfl⟩⟩
  · intro s hs
    exact Scene.check_toJson (Scene.wellFormed_of_ofRaw hs)
  · intro v ms hms m hm
    exact CastMember.check_toJson (name_ne_empty_of_cast hms m hm)
  · intro hnot
    by_cases hobj : ∃ entries, raw = .obj entries
    · -- an object: some field is not of its shape, so some expectation is the first unmet one
      obtain ⟨entries, rfl⟩ := hobj
      have hfields : ¬ ∀ f : Field, f.Accepts (f.rawValue entries) := fun h =>
        hnot (Or.inr ⟨entries, rfl, h⟩)
      obtain ⟨before, e, after, hsplit, hbefore, hunmet, hread⟩ :=
        Scene.ofRaw_of_not_accepts hfields
      exact Or.inl ⟨entries, before, e, after, rfl, hsplit, hbefore, hunmet, hread,
        e.opens_message_fault⟩
    · -- no object: null would be acceptable, so it is something else
      have hne : ∀ entries, raw ≠ .obj entries := fun entries h => hobj ⟨entries, h⟩
      have hnull : raw ≠ .null := fun h => hnot (Or.inl h)
      exact Or.inr ⟨hne, Scene.ofRaw_of_not_object hnull hne, rfl⟩

/-- A number beyond the slots does no harm, but one in a cast entry does, though the entry has a
    blank name and would be dropped. -/
def spoiled : Json :=
  .obj [("environmentAnchors", .arr [.null, .str "lamp", .null, .null, .null, .int 6]),
    ("cast", .arr [.str "Fennel", .obj [("name", .str " "), ("wardrobe", .int 3)]]),
    ("microDetails", .int 7)]

/-- It is refused because of the cast, which comes before the micro-details, in these words. -/
theorem spoiled_refused :
    ¬ Acceptable spoiled ∧ (¬ ∃ s, Scene.ofRaw spoiled = .ok s) ∧
      ∃ e : Expectation, e.met = false ∧ e.place = .part "cast" 1 "wardrobe" ∧
        Scene.ofRaw spoiled = .error e.fault ∧ e.place.Opens e.fault.message ∧
        e.fault.message = "cast[1].wardrobe must be a string or null, got int" := by
  have hread : Scene.ofRaw spoiled = .error (.notText (.part "cast" 1 "wardrobe") .whole) := rfl
  obtain ⟨hiff, -, -, hrefused, -⟩ := Scene.ofRaw_isOk_iff_acceptable spoiled
  have hnone : ¬ ∃ s, Scene.ofRaw spoiled = .ok s := by
    rintro ⟨s, hs⟩
    rw [hread] at hs
    cases hs
  have hnot : ¬ Acceptable spoiled := fun h => hnone (hiff.2 h)
  refine ⟨hnot, hnone, ?_⟩
  rcases hrefused hnot with ⟨_, _, e, _, -, -, -, hunmet, hfault, hopens⟩ | ⟨hobj, -⟩
  · have he : e.fault = .notText (.part "cast" 1 "wardrobe") .whole :=
      Except.error.inj (hfault.symm.trans hread)
    refine ⟨e, hunmet, ?_, hfault, hopens, ?_⟩
    · -- of the four sorts of faults only that of a text names a place of this one
      obtain ⟨place, demand, v⟩ := e
      cases demand with
      | text => exact (MalformedScene.notText.inj he).1
      | list | castEntry | choice known => cases he
    · rw [he]
      decide +kernel
  · exact absurd rfl (hobj _)

end ScenePrompt
