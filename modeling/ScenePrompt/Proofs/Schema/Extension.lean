/-
  What is written is read back, whatever is added to it.

  Scenes, validations and answers to a compile are handed on as objects, and those who hand them on
  may add entries of their own: a note at a diagnostic, or a prompt at an answer that has none.
  `Json.ExtendsTo` says that one value comes from another in this way — every object may have got
  entries under further keys, at any depth, and nothing else has changed.

  A check reads a value STEADILY if it reads the same from everything that the value extends to
  (`Reads`).  Texts and truth values extend to nothing else, arrays are read steadily if their items
  are, and an entry of an object is if its value is (`Reads.requiredEntry`, `Reads.optionalEntry`).
  What is written out has every entry that its schema looks for, so the entries that are added are
  entries that the schema does not know, and nobody looks at them.  That is the argument for cast
  members, scenes, diagnostics and validations alike.

  An answer to a compile has one more turn to it.  Which of the two schemas it is held against
  depends on its entry `status`, and which entries are known depends on that; but `status` is always
  written, so an added entry cannot take its place, and an entry of the other sort is as unknown as
  any.
-/
import Mathlib.Data.List.Forall2
import ScenePrompt.Proofs.Scene.Acceptance
import ScenePrompt.Proofs.Scene.Spelling
import ScenePrompt.Schema.Catalogue

namespace ScenePrompt

open Schema Checked Entries

/-! ## Added entries -/

/-- The second value is the first one with entries added to its objects, at any depth, under keys
    that they do not have. -/
inductive Json.ExtendsTo : Json → Json → Prop
  | refl (v : Json) : ExtendsTo v v
  | arr {vs ws : List Json} (h : List.Forall₂ ExtendsTo vs ws) : ExtendsTo (.arr vs) (.arr ws)
  | obj {es es' : Entries}
      (h : ∀ k v, get? es k = some v → Option.Rel ExtendsTo (some v) (get? es' k)) :
      ExtendsTo (.obj es) (.obj es')

/-- Every entry of the first object is one of the second, as it was or extended. -/
def Entries.ExtendTo (es es' : Entries) : Prop :=
  ∀ k v, get? es k = some v → ∃ w, get? es' k = some w ∧ v.ExtendsTo w

/-- An entry that is found is there. -/
theorem Entries.exists_mem_of_lastOf {p : String → Bool} {es : Entries} {v : Json}
    (h : lastOf p es = some v) : ∃ e ∈ es, p e.1 = true ∧ e.2 = v := by
  induction es with
  | nil => cases h
  | cons e rest ih =>
    rw [lastOf_cons] at h
    -- a later entry decides, or there is none and this one does
    rcases Option.or_eq_some_iff.1 h with hrest | ⟨-, hhere⟩
    · obtain ⟨e', he', hp⟩ := ih hrest
      exact ⟨e', List.mem_cons_of_mem _ he', hp⟩
    · by_cases hp : p e.1 = true
      · rw [if_pos hp] at hhere
        exact ⟨e, List.mem_cons_self, hp, Option.some.inj hhere⟩
      · rw [if_neg hp] at hhere
        cases hhere

/-- Entries are extended to others if each of them, as it stands in the list, is found there or
    extended.  An entry that is hidden by a later one is asked for too, so this is more than is
    needed. -/
theorem Entries.extendTo_of_forall_mem {es es' : Entries}
    (h : ∀ e ∈ es, ∃ w, get? es' e.1 = some w ∧ e.2.ExtendsTo w) : es.ExtendTo es' := by
  intro k v hv
  obtain ⟨e, he, hk, rfl⟩ := exists_mem_of_lastOf hv
  obtain rfl : e.1 = k := by simpa using hk
  exact h e he

namespace Json.ExtendsTo

/-- A text has no entries, so it is extended to itself alone. -/
theorem str_iff {s : String} {w : Json} : (Json.str s).ExtendsTo w ↔ w = .str s := by
  constructor
  · rintro ⟨⟩
    rfl
  · rintro rfl
    exact .refl _

theorem bool_iff {b : Bool} {w : Json} : (Json.bool b).ExtendsTo w ↔ w = .bool b := by
  constructor
  · rintro ⟨⟩
    rfl
  · rintro rfl
    exact .refl _

/-- An array is extended item by item; no item is added. -/
theorem arr_iff {vs : List Json} {w : Json} :
    (Json.arr vs).ExtendsTo w ↔ ∃ ws, w = .arr ws ∧ List.Forall₂ ExtendsTo vs ws := by
  constructor
  · intro h
    cases h with
    | refl => exact ⟨vs, rfl, List.forall₂_same.2 fun v _ => .refl v⟩
    | arr h => exact ⟨_, rfl, h⟩
  · rintro ⟨ws, rfl, h⟩
    exact .arr h

/-- An object is extended to an object that has its entries, each as it was or extended. -/
theorem obj_iff {es : Entries} {w : Json} :
    (Json.obj es).ExtendsTo w ↔ ∃ es', w = .obj es' ∧ es.ExtendTo es' := by
  constructor
  · intro h
    cases h with
    | refl => exact ⟨es, rfl, fun k v hv => ⟨v, hv, .refl v⟩⟩
    | @obj _ es' h =>
      refine ⟨es', rfl, fun k v hv => ?_⟩
      have hk := h k v hv
      generalize get? es' k = o at hk ⊢
      cases hk with
      | some hw => exact ⟨_, rfl, hw⟩
  · rintro ⟨es', rfl, h⟩
    refine .obj fun k v hv => ?_
    obtain ⟨w, hw, hvw⟩ := h k v hv
    rw [hw]
    exact .some hvw

/-- Writing keys that an object does not have extends it. -/
theorem of_putAll {es ws : Entries} (h : ∀ w ∈ ws, w.1 ∉ keys es) :
    (Json.obj es).ExtendsTo (.obj (putAll es ws)) := by
  refine obj_iff.2 ⟨_, rfl, fun k v hv => ⟨v, ?_, .refl v⟩⟩
  obtain ⟨e, he, hk, -⟩ := exists_mem_of_lastOf hv
  obtain rfl : e.1 = k := by simpa using hk
  have hmem : e.1 ∈ keys es := List.mem_map_of_mem he
  -- a key that is written is none of the old ones, so the old entries are found as before
  have hother : ∀ w ∈ ws, (w.1 == e.1) = false := by
    intro w hw
    have hne : w.1 ≠ e.1 := fun hkey => h w hw (hkey ▸ hmem)
    simpa using hne
  exact (lastOf_putAll_of_forall_not hother es).trans hv

end Json.ExtendsTo

/-! ## Steady reading -/

namespace Schema

variable {α : Type}

/-- The check reads `x` from the value and from everything that the value extends to. -/
def Reads (check : Check α) (v : Json) (x : α) : Prop := ∀ w, v.ExtendsTo w → check w = .ok x

variable {check : Check α}

/-- What is read steadily is read from the value as it stands. -/
theorem Reads.here {v : Json} {x : α} (h : Reads check v x) : check v = .ok x := h v (.refl v)

/-- A text that is read is read steadily. -/
theorem Reads.of_str {s : String} {x : α} (h : check (.str s) = .ok x) : Reads check (.str s) x := by
  intro w hw
  rw [Json.ExtendsTo.str_iff.1 hw]
  exact h

/-- So is a truth value. -/
theorem Reads.of_bool {b : Bool} {x : α} (h : check (.bool b) = .ok x) :
    Reads check (.bool b) x := by
  intro w hw
  rw [Json.ExtendsTo.bool_iff.1 hw]
  exact h

/-- An array is read steadily if its items are. -/
theorem Reads.tupleOf {write : α → Json} {xs : List α}
    (h : ∀ x ∈ xs, Reads check (write x) x) : Reads (tupleOf check) (.arr (xs.map write)) xs := by
  intro w hw
  obtain ⟨ws, rfl, hws⟩ := Json.ExtendsTo.arr_iff.1 hw
  refine eachFrom_eq_ok_iff.2 ?_
  -- by induction on the items, along the items that they were extended to
  clear hw
  induction xs generalizing ws with
  | nil =>
    cases hws
    rfl
  | cons x xs ih =>
    obtain ⟨hx, hxs⟩ := List.forall_mem_cons.1 h
    obtain ⟨w, ws', hitem, hrest, rfl⟩ := List.forall₂_cons_left_iff.1 hws
    rw [List.map_cons, List.map_cons, hx w hitem, ih hxs ws' hrest]

/-- A tuple is read steadily if its items are and it has all its places. -/
theorem Reads.tupleOfSize {size : Nat} {write : α → Json} {xs : List α} (hsize : xs.length = size)
    (h : ∀ x ∈ xs, Reads check (write x) x) :
    Reads (tupleOfSize size check) (.arr (xs.map write)) xs := by
  intro w hw
  obtain ⟨ws, rfl, hws⟩ := Json.ExtendsTo.arr_iff.1 hw
  have heach : eachFrom check 0 ws = .ok xs := Reads.tupleOf h _ hw
  -- no item was added, so the tuple is neither too long nor too short
  have hlength : ws.length = size := by
    rw [← hws.length_eq, List.length_map, hsize]
  simp [Schema.tupleOfSize, heach, hlength, missingFrom, Except.map]

/-- An object is read steadily if its entries are. -/
theorem Reads.object {style : ObjectStyle} {name : String} {entriesCheck : Entries → Checked α}
    {es : Entries} {x : α} (h : ∀ es', es.ExtendTo es' → entriesCheck es' = .ok x) :
    Reads (object style name entriesCheck) (.obj es) x := by
  intro w hw
  obtain ⟨es', rfl, hes'⟩ := Json.ExtendsTo.obj_iff.1 hw
  exact h es' hes'

variable {es es' : Entries} {v : Json} {x : α}

/-- An entry that is written is read from whatever the object was extended to: it is still found
    under its key, and its value is read steadily. -/
theorem Reads.requiredEntry (h : Reads check v x) (key : String) (hv : get? es key = some v)
    (hes : es.ExtendTo es') : requiredEntry es' [key] check = .ok x := by
  obtain ⟨w, hw, hvw⟩ := hes key v hv
  simp [Schema.requiredEntry, firstPresent?, hw, h w hvw]

/-- The default of an optional entry is never taken, because the entry is written. -/
theorem Reads.optionalEntry {default : α} (h : Reads check v x) (key : String)
    (hv : get? es key = some v) (hes : es.ExtendTo es') :
    optionalEntry es' [key] default check = .ok x := by
  obtain ⟨w, hw, hvw⟩ := hes key v hv
  simp [Schema.optionalEntry, firstPresent?, hw, h w hvw]

end Schema

/-! ## Scenes -/

/-- A cast member with a name is read back from whatever it was extended to. -/
theorem CastMember.reads_toJson {m : CastMember} (h : m.name ≠ "") :
    Reads CastMember.check m.toJson m := by
  refine Reads.object fun es' hes => ?_
  have hname : Reads nonemptyText (.str m.name) m.name :=
    .of_str (by simp [nonemptyText, text, h])
  have hdescription : Reads text (.str m.description) m.description := .of_str rfl
  have hwardrobe : Reads text (.str m.wardrobe) m.wardrobe := .of_str rfl
  rw [hname.requiredEntry "name" rfl hes, hdescription.optionalEntry "description" rfl hes,
    hwardrobe.optionalEntry "wardrobe" rfl hes]
  rfl

/-- A well-formed scene is read back from whatever it was extended to. -/
theorem Scene.reads_toJson {s : Scene} (h : s.WellFormed) : Reads Scene.check s.toJson s := by
  refine Reads.object fun es' hes => ?_
  have htext : ∀ t, Reads text (.str t) t := fun t => .of_str rfl
  have hframing : Reads (choiceOrEmpty framings) (.str s.framing) s.framing :=
    .of_str (choiceOrEmpty_of_mem h.framing_mem)
  have hlens : Reads (choiceOrEmpty lenses) (.str s.lens) s.lens :=
    .of_str (choiceOrEmpty_of_mem h.lens_mem)
  have hcast : Reads (tupleOf CastMember.check) (.arr (s.cast.map CastMember.toJson)) s.cast :=
    .tupleOf fun m hm => CastMember.reads_toJson (h.name_ne_empty m hm)
  have hanchors : Reads (tupleOfSize anchorSlots text) (.texts s.environmentAnchors)
      s.environmentAnchors := .tupleOfSize h.slots_eq fun x _ => htext x
  have hdetails : Reads (tupleOf text) (.texts s.microDetails) s.microDetails :=
    .tupleOf fun x _ => htext x
  -- one entry after another, in the order of `Field.all`
  simp only [(htext s.sceneHeart).optionalEntry Field.sceneHeart.name rfl hes,
    hframing.optionalEntry Field.framing.name rfl hes, hlens.optionalEntry Field.lens.name rfl hes,
    hcast.optionalEntry Field.cast.name rfl hes,
    hanchors.optionalEntry Field.environmentAnchors.name rfl hes,
    hdetails.optionalEntry Field.microDetails.name rfl hes,
    (htext s.mechanicLock).optionalEntry Field.mechanicLock.name rfl hes,
    (htext s.focusTarget).optionalEntry Field.focusTarget.name rfl hes]
  rfl

/-! ## Results -/

/-- A finding is read back; its two labels are written by their names. -/
theorem Diagnostic.reads_toJson (d : Diagnostic) : Reads Diagnostic.check d.toJson d := by
  refine Reads.object fun es' hes => ?_
  have hseverity : Reads (oneOf Severity.named) (.str d.severity.name) d.severity :=
    .of_str (Diagnostic.oneOf_severity d.severity)
  have hmessage : Reads text (.str d.message) d.message := .of_str rfl
  have hfield : Reads (oneOf Field.named) (.str d.field.name) d.field :=
    .of_str (Diagnostic.oneOf_field d.field)
  have hid : Reads text (.str d.ruleId) d.ruleId := .of_str rfl
  rw [hseverity.requiredEntry "severity" rfl hes, hmessage.requiredEntry "message" rfl hes,
    hfield.requiredEntry "field" rfl hes, hid.requiredEntry "rule_id" rfl hes]
  rfl

/-- A list of findings is read back in its order. -/
theorem reads_diagnostics (ds : List Diagnostic) :
    Reads diagnosticsCheck (.arr (ds.map Diagnostic.toJson)) ds :=
  .tupleOf fun d _ => d.reads_toJson

/-- A validation is read back, with its flag as it was written. -/
theorem Validation.reads_toJson (v : Validation) : Reads Validation.check v.toJson v := by
  refine Reads.object fun es' hes => ?_
  have hflag : Reads truth (.bool v.canCompile) v.canCompile := .of_bool rfl
  rw [(reads_diagnostics v.diagnostics).optionalEntry "diagnostics" rfl hes,
    hflag.requiredEntry "can_compile" rfl hes]
  rfl

/-- A prompt with advice is read back by its own schema. -/
theorem CompileResult.readsOk (prompt : String) (warnings : List Diagnostic) :
    Reads checkOk (ok prompt warnings).toJson (ok prompt warnings) := by
  refine Reads.object fun es' hes => ?_
  have hstatus : Reads (choice ["ok"]) (.str "ok") "ok" := .of_str rfl
  have hprompt : Reads text (.str prompt) prompt := .of_str rfl
  rw [hstatus.optionalEntry "status" rfl hes, hprompt.requiredEntry "prompt" rfl hes,
    (reads_diagnostics warnings).optionalEntry "warnings" rfl hes]
  rfl

/-- What stands in the way of a scene is read back by its own schema, a prompt beside it being an
    entry like any other that the schema does not know. -/
theorem CompileResult.readsBlocked (errors warnings : List Diagnostic) :
    Reads checkBlocked (blocked errors warnings).toJson (blocked errors warnings) := by
  refine Reads.object fun es' hes => ?_
  have hstatus : Reads (choice ["blocked"]) (.str "blocked") "blocked" := .of_str rfl
  rw [hstatus.optionalEntry "status" rfl hes,
    (reads_diagnostics errors).requiredEntry "errors" rfl hes,
    (reads_diagnostics warnings).optionalEntry "warnings" rfl hes]
  rfl

/-- The entry that tells the two sorts apart is still there when others are added. -/
theorem Entries.ExtendTo.get?_str {es es' : Entries} (h : es.ExtendTo es') {k s : String}
    (hk : get? es k = some (.str s)) : get? es' k = some (.str s) := by
  obtain ⟨w, hw, hextends⟩ := h k _ hk
  rw [hw, Json.ExtendsTo.str_iff.1 hextends]

/-- An answer is read back, as an answer of the same sort, from whatever it was extended to. -/
theorem CompileResult.reads_toJson (r : CompileResult) : Reads CompileResult.check r.toJson r := by
  intro w hw
  -- the entry that tells the sorts apart is found first, and with it the schema
  cases r with
  | ok prompt warnings =>
    have hread := readsOk prompt warnings w hw
    obtain ⟨es', rfl, hes⟩ := Json.ExtendsTo.obj_iff.1 hw
    have hstatus : get? es' "status" = some (.str "ok") := hes.get?_str rfl
    simp [check, hstatus, hread]
  | blocked errors warnings =>
    have hread := readsBlocked errors warnings w hw
    obtain ⟨es', rfl, hes⟩ := Json.ExtendsTo.obj_iff.1 hw
    have hstatus : get? es' "status" = some (.str "blocked") := hes.get?_str rfl
    simp [check, hstatus, hread]

/-! ## Results survive -/

/-- The check reads `x` from an object as it stands, from the object with entries put beside its own,
    and from whatever else it extends to. -/
structure Schema.Survives {α : Type} (check : Check α) (v : Json) (x : α) : Prop where
  asWritten : check v = .ok x
  withMore : ∀ ws : Entries, (∀ w ∈ ws, w.1 ∉ keys v.entries) →
    check (.obj (putAll v.entries ws)) = .ok x
  extended : ∀ w, v.ExtendsTo w → check w = .ok x

/-- What is read steadily from an object survives. -/
theorem Schema.Reads.survives {α : Type} {check : Check α} {es : Entries} {x : α}
    (h : Reads check (.obj es) x) : Survives check (.obj es) x :=
  ⟨h.here, fun _ hws => h _ (.of_putAll hws), h⟩

/-- An instance has the entries that follow from what was read. -/
theorem Schema.Reads.plain {α : Type} {check : Check α} {v : Json} {x : α} (h : Reads check v x)
    (name : String) (frozen : Bool) (toJson : α → Json) (derived : α → Entries) :
    Reads (NamedSchema.plain name frozen check toJson derived).check v
      { sort := name, value := toJson x, derived := derived x } := by
  intro w hw
  show (check w).map _ = _
  rw [h w hw]
  rfl

/-- **Results survive being handed on.**  Whatever compiling answers, under any rules and in any
    layout, is read back from its object as the same answer of the same sort, with its prompt, its
    errors and its warnings in their order; whatever a validation finds is read back as the same
    validation, with the errors and warnings that follow from it; and whatever is read out of raw
    input is read back as the same scene.  Entries that were added to the object, or to an object
    within it, under keys that it does not have — those of the other sort of answer among them —
    change nothing. -/
theorem results_survive_serialisation :
    (∀ (rules : List Rule) (defaultMode : String) (mode : Option String) (raw : Json)
      (r : CompileResult), compile rules defaultMode mode raw = .ok r →
        Survives CompileResult.check r.toJson r) ∧
    (∀ (rules : List Rule) (s : Scene) (v : Validation), validate rules s = .ok v →
      Survives Validation.check v.toJson v ∧
      ∃ schema, NamedSchema.find? "ValidationResult" = some schema ∧
        Survives schema.check v.toJson
          { sort := "ValidationResult", value := v.toJson
            derived := [("errors", .arr (v.errors.map Diagnostic.toJson)),
              ("warnings", .arr (v.warnings.map Diagnostic.toJson))] }) ∧
    (∀ (raw : Json) (s : Scene), Scene.ofRaw raw = .ok s → Survives Scene.check s.toJson s) := by
  refine ⟨?_, ?_, ?_⟩
  · intro rules defaultMode mode raw r _
    have hread := r.reads_toJson
    cases r with
    | ok prompt warnings => exact hread.survives
    | blocked errors warnings => exact hread.survives
  · intro rules s v _
    -- the schema is found by its name, and the instance has the errors and warnings that follow
    refine ⟨v.reads_toJson.survives, _, rfl, ?_⟩
    exact (v.reads_toJson.plain "ValidationResult" true Validation.toJson
      NamedSchema.validationDerived).survives
  · intro raw s hs
    exact (Scene.reads_toJson (Scene.wellFormed_of_ofRaw hs)).survives

/-- What stands in the way of a scene. -/
def tooDark : Diagnostic :=
  { severity := .hard, message := "Too dark.", field := .sceneHeart, ruleId := "tone" }

/-- A piece of advice. -/
def tooLate : Diagnostic :=
  { severity := .soft, message := "Too late.", field := .lens, ruleId := "hour" }

/-- Two rules, which say this of every scene. -/
def gloomTable : List Rule :=
  [Rule.declared "tone" "hard" "scene_heart" (.ok ["Too dark."]),
    Rule.declared "hour" "soft" "lens" (.ok ["Too late."])]

/-- Their answer with a prompt beside the errors, and with a note at the advice. -/
def notedGloom : Json :=
  .obj [("prompt", .str "A lamp."), ("status", .str "blocked"),
    ("errors", .arr [tooDark.toJson]),
    ("warnings", .arr [.obj [("severity", .str "soft"), ("message", .str "Too late."),
      ("note", .null), ("field", .str "lens"), ("rule_id", .str "hour")]])]

/-- The answer with the prompt and the note is an extension of the one without them. -/
theorem gloom_extendsTo_noted :
    (CompileResult.blocked [tooDark] [tooLate]).toJson.ExtendsTo notedGloom := by
  refine Json.ExtendsTo.obj_iff.2 ⟨_, rfl, extendTo_of_forall_mem ?_⟩
  simp only [List.forall_mem_cons, List.not_mem_nil, false_imp_iff, implies_true, and_true]
  refine ⟨⟨_, rfl, .refl _⟩, ⟨_, rfl, .refl _⟩, ⟨_, rfl, .arr (.cons ?_ .nil)⟩⟩
  -- the advice with its note
  refine Json.ExtendsTo.obj_iff.2 ⟨_, rfl, extendTo_of_forall_mem ?_⟩
  simp only [List.forall_mem_cons, List.not_mem_nil, false_imp_iff, implies_true, and_true]
  exact ⟨⟨_, rfl, .refl _⟩, ⟨_, rfl, .refl _⟩, ⟨_, rfl, .refl _⟩, ⟨_, rfl, .refl _⟩⟩

/-- An answer, a validation and a scene are read back, the answer also with a prompt beside its
    errors, a note within its advice, and an entry of the wrong sort. -/
theorem gloom_survives :
    compile gloomTable "compact" none .null = .ok (.blocked [tooDark] [tooLate]) ∧
      CompileResult.check notedGloom = .ok (.blocked [tooDark] [tooLate]) ∧
      CompileResult.check (.obj (putAll (CompileResult.blocked [tooDark] [tooLate]).toJson.entries
        [("prompt", .int 3), ("filled_anchors", .null)])) = .ok (.blocked [tooDark] [tooLate]) ∧
      validate gloomTable {} = .ok (.ofDiagnostics [tooDark, tooLate]) ∧
      Validation.check (Validation.ofDiagnostics [tooDark, tooLate]).toJson =
        .ok (.ofDiagnostics [tooDark, tooLate]) ∧
      Scene.ofRaw (.obj [("lens", .str " DEEP")]) = .ok { lens := "deep" } ∧
      Scene.check (Scene.toJson { lens := "deep" }) = .ok { lens := "deep" } := by
  obtain ⟨hcompiled, hvalidated, hread⟩ := results_survive_serialisation
  have hgloom : compile gloomTable "compact" none .null = .ok (.blocked [tooDark] [tooLate]) := rfl
  have hsurvives := hcompiled gloomTable "compact" none .null _ hgloom
  have hvalid : validate gloomTable {} = .ok (.ofDiagnostics [tooDark, tooLate]) := rfl
  have hdeep : Scene.ofRaw (.obj [("lens", .str " DEEP")]) = .ok { lens := "deep" } := rfl
  exact ⟨hgloom, hsurvives.extended notedGloom gloom_extendsTo_noted,
    hsurvives.withMore _ (by decide), hvalid, (hvalidated gloomTable {} _ hvalid).1.asWritten, hdeep,
    (hread _ _ hdeep).asWritten⟩

end ScenePrompt
