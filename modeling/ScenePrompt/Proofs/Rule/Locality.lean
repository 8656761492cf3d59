/-
  Findings stay with their field.

  Every rule declares a field, and its findings carry it.  Nothing makes a rule keep to that field:
  its check is handed the whole scene.  A rule that does keep to it is LOCAL (`Rule.Local`) — two
  scenes that agree on the field it declares are one and the same to it, whatever else they say.

  The built-in rules are local, each for a reason of its own (`Rule.local_of_mem_table`).  From
  there on the table does not matter.  A change in one field of a scene leaves alone what the rules
  about the other fields emit; and since a finding carries the field of its rule, the findings about
  other fields are just what these rules emit, in the order of the table
  (`filter_field_flatMap_emission_congr`).  While a scene is being edited, findings come and go only
  beside the field that is edited.
-/
import Mathlib.Data.List.Basic
import ScenePrompt.Proofs.Rule.Failure

namespace ScenePrompt

/-! ## Scenes that agree -/

/-- The scenes say the same in the field. -/
def Scene.AgreeOn (f : Field) (s s' : Scene) : Prop :=
  match f with
  | .sceneHeart => s.sceneHeart = s'.sceneHeart
  | .framing => s.framing = s'.framing
  | .lens => s.lens = s'.lens
  | .cast => s.cast = s'.cast
  | .environmentAnchors => s.environmentAnchors = s'.environmentAnchors
  | .microDetails => s.microDetails = s'.microDetails
  | .mechanicLock => s.mechanicLock = s'.mechanicLock
  | .focusTarget => s.focusTarget = s'.focusTarget

/-- The scenes say the same in all fields but one. -/
def Scene.DifferOnlyIn (f : Field) (s s' : Scene) : Prop := ∀ g, g ≠ f → AgreeOn g s s'

theorem Scene.filledAnchors_congr {s s' : Scene}
    (h : s.environmentAnchors = s'.environmentAnchors) : s.filledAnchors = s'.filledAnchors := by
  unfold filledAnchors
  rw [h]

/-! ## Local rules -/

namespace Rule

/-- The rule does not look beyond the field that it declares. -/
def Local (r : Rule) : Prop :=
  ∀ s s' : Scene, s.AgreeOn r.field s' → r.check s = r.check s'

section checks

variable {s s' : Scene}

/-- How many slots are filled is all that counts for the rule that counts them. -/
theorem checkAnchorCount_congr (h : s.filledAnchors = s'.filledAnchors) :
    checkAnchorCount s = checkAnchorCount s' := by
  unfold checkAnchorCount Scene.filledAnchorCount
  rw [h]

/-- The rule that looks for vague anchors sees the filled ones only as well. -/
theorem checkSpecificity_congr (h : s.filledAnchors = s'.filledAnchors) :
    checkSpecificity s = checkSpecificity s' := by
  unfold checkSpecificity
  rw [h]

end checks

/-- The built-in rules are local. -/
theorem local_of_mem_table {t : Thresholds} {r : Rule} (hr : r ∈ table t) : r.Local := by
  have hsound : ∀ (check : Scene → List String) (s s' : Scene), check s = check s' →
      sound check s = sound check s' := fun check s s' h => congrArg Except.ok h
  simp only [table, List.mem_cons, List.not_mem_nil, or_false] at hr
  -- rule by rule, since each keeps to its field in its own way; the agreement comes down to one
  -- equation between two fields
  rcases hr with rfl | rfl | rfl | rfl | rfl | rfl | rfl | rfl
  · -- scene_heart_presence
    intro s s' (h : s.sceneHeart = s'.sceneHeart)
    refine hsound _ s s' ?_
    unfold checkHeartPresence
    rw [h]
  · -- anchor_count
    intro s s' (h : s.environmentAnchors = s'.environmentAnchors)
    exact checkAnchorCount_congr (Scene.filledAnchors_congr h)
  · -- anchor_slot_priority
    intro s s' (h : s.environmentAnchors = s'.environmentAnchors)
    show checkSlotPriority s = checkSlotPriority s'
    unfold checkSlotPriority
    rw [h]
  · -- mechanic_lock_shape
    intro s s' (h : s.mechanicLock = s'.mechanicLock)
    refine hsound _ s s' ?_
    unfold checkLockShape
    rw [h]
  · -- focus_target_shape
    intro s s' (h : s.focusTarget = s'.focusTarget)
    refine hsound _ s s' ?_
    unfold checkFocusShape
    rw [h]
  · -- micro_detail_richness
    intro s s' (h : s.microDetails = s'.microDetails)
    refine hsound _ s s' ?_
    unfold checkDetailRichness
    rw [h]
  · -- scene_heart_single_action
    intro s s' (h : s.sceneHeart = s'.sceneHeart)
    refine hsound _ s s' ?_
    unfold checkSingleAction
    rw [h]
  · -- anchor_specificity
    intro s s' (h : s.environmentAnchors = s'.environmentAnchors)
    exact hsound _ s s' (checkSpecificity_congr (Scene.filledAnchors_congr h))

/-- A rule that a change does not touch emits after it what it did before. -/
theorem emission_congr {r : Rule} {s s' : Scene} (h : r.check s = r.check s') :
    r.emission s = r.emission s' := by
  unfold emission messages
  rw [h]

/-- Conversely, the messages can be told from what is emitted. -/
theorem check_eq_of_emission_eq {r : Rule} {s s' : Scene} (hok : (r.check s).isOk = true)
    (hok' : (r.check s').isOk = true) (h : r.emission s = r.emission s') :
    r.check s = r.check s' := by
  cases hcheck : r.check s with
  | error fault =>
    rw [hcheck] at hok
    cases hok
  | ok ms =>
    cases hcheck' : r.check s' with
    | error fault =>
      rw [hcheck'] at hok'
      cases hok'
    | ok ms' =>
      have hmessage : Function.LeftInverse Diagnostic.message r.diagnostic := fun _ => rfl
      rw [emission_of_check hcheck, emission_of_check hcheck'] at h
      exact congrArg Except.ok (List.map_injective_iff.2 hmessage.injective h)

theorem run_congr {r : Rule} {s s' : Scene} (h : r.check s = r.check s') : r.run s = r.run s' := by
  unfold run findings
  rw [h]

end Rule

/-! ## Two runs of one table -/

/-- Rules that do not tell two scenes apart emit the same about both. -/
theorem flatMap_emission_congr {rules : List Rule} {s s' : Scene}
    (h : ∀ r ∈ rules, r.check s = r.check s') :
    rules.flatMap (·.emission s) = rules.flatMap (·.emission s') :=
  List.flatMap_congr fun r hr => Rule.emission_congr (h r hr)

/-- Of local rules the findings about other fields are the same before and after a change in one
    field. -/
theorem filter_field_flatMap_emission_congr {rules : List Rule} (hlocal : ∀ r ∈ rules, r.Local)
    {f : Field} {s s' : Scene} (h : s.DifferOnlyIn f s') :
    (rules.flatMap (·.emission s)).filter (·.field ≠ f) =
      (rules.flatMap (·.emission s')).filter (·.field ≠ f) := by
  -- findings carry the field of their rule, so leaving out findings is leaving out rules
  have helsewhere : ∀ u : Scene, (rules.flatMap (·.emission u)).filter (·.field ≠ f) =
      (rules.filter (·.field ≠ f)).flatMap (·.emission u) :=
    filter_flatMap_emission (fun _ _ => rfl) rules
  rw [helsewhere, helsewhere]
  refine flatMap_emission_congr fun r hr => ?_
  obtain ⟨hmem, hfield⟩ := List.mem_filter.1 hr
  exact hlocal r hmem s s' (h r.field (by simpa using hfield))

/-- **Findings stay with their field.**  A built-in rule, under any thresholds, says the same about
    scenes that agree on the field it declares, and about scenes that were read it does say
    something: it does not break.  Hence input that reads as scenes which differ in one field only
    is validated with the same findings about all other fields, in the same order. -/
theorem findings_stay_with_field :
    (∀ (t : Thresholds), ∀ r ∈ Rule.table t,
      (∀ s s' : Scene, s.AgreeOn r.field s' → r.run s = r.run s') ∧
      ∀ (raw : Json) (s : Scene), Scene.ofRaw raw = .ok s → ∃ ds, r.run s = .ok ds) ∧
    (∀ (raw raw' : Json) (s s' : Scene), Scene.ofRaw raw = .ok s → Scene.ofRaw raw' = .ok s' →
      ∀ f : Field, s.DifferOnlyIn f s' → ∀ t : Thresholds,
        ∃ v v', validateRaw (Rule.table t) raw = .ok v ∧ validateRaw (Rule.table t) raw' = .ok v' ∧
          v.diagnostics.filter (·.field ≠ f) = v'.diagnostics.filter (·.field ≠ f)) := by
  constructor
  · intro t r hr
    refine ⟨fun s s' h => Rule.run_congr (Rule.local_of_mem_table hr s s' h), ?_⟩
    intro raw s hs
    have hslots := (Scene.wellFormed_of_ofRaw hs).slots_eq
    exact ⟨r.emission s, Rule.run_eq_ok_iff.2 ⟨Rule.isOk_of_mem_table hslots t r hr, rfl⟩⟩
  · intro raw raw' s s' hs hs' f h t
    obtain ⟨v, hv⟩ := exists_validate_table_of_ofRaw hs t
    obtain ⟨v', hv'⟩ := exists_validate_table_of_ofRaw hs' t
    refine ⟨v, v', (validateRaw_of_ofRaw hs).trans hv, (validateRaw_of_ofRaw hs').trans hv', ?_⟩
    obtain ⟨-, rfl⟩ := validate_eq_ok_iff.1 hv
    obtain ⟨-, rfl⟩ := validate_eq_ok_iff.1 hv'
    exact filter_field_flatMap_emission_congr (fun r hr => Rule.local_of_mem_table hr) h

/-- A fox that does two things, among these anchors. -/
def den (anchors : List Json) : Json :=
  .obj [("sceneHeart", .str "A fox reads, then naps"), ("environmentAnchors", .arr anchors)]

/-- What the den reads as. -/
def denScene (anchors : List String) : Scene :=
  { sceneHeart := "A fox reads, then naps", environmentAnchors := anchors }

/-- With an anchor out of place and a vague one the den has two findings more; the others have not
    changed, and no rule about the heart has noticed. -/
theorem den_findings :
    (∃ v v', validateRaw (Rule.table {}) (den [.str "lamp", .str "mug", .str "rug"]) = .ok v ∧
      validateRaw (Rule.table {}) (den [.str "lamp", .str " ", .str "Things", .str "rug"]) =
        .ok v' ∧
      v.diagnostics.length = 4 ∧ v'.diagnostics.length = 6 ∧
      v.diagnostics.filter (·.field ≠ .environmentAnchors) =
        v'.diagnostics.filter (·.field ≠ .environmentAnchors)) ∧
    ∀ r ∈ Rule.table {}, r.field = .sceneHeart →
      ∃ ds, r.run (denScene ["lamp", "mug", "rug", "", ""]) = .ok ds ∧
        r.run (denScene ["lamp", "", "Things", "rug", ""]) = .ok ds := by
  obtain ⟨hrule, hruns⟩ := findings_stay_with_field
  have hread : Scene.ofRaw (den [.str "lamp", .str "mug", .str "rug"]) =
      .ok (denScene ["lamp", "mug", "rug", "", ""]) := rfl
  have hread' : Scene.ofRaw (den [.str "lamp", .str " ", .str "Things", .str "rug"]) =
      .ok (denScene ["lamp", "", "Things", "rug", ""]) := rfl
  have hdiffer : (denScene ["lamp", "mug", "rug", "", ""]).DifferOnlyIn .environmentAnchors
      (denScene ["lamp", "", "Things", "rug", ""]) := by
    intro g hg
    cases g with
    | environmentAnchors => exact absurd rfl hg
    | _ => rfl
  constructor
  · obtain ⟨v, v', hv, hv', hsame⟩ := hruns _ _ _ _ hread hread' .environmentAnchors hdiffer {}
    refine ⟨v, v', hv, hv', ?_, ?_, hsame⟩
    · have hcount : (validateRaw (Rule.table {}) (den [.str "lamp", .str "mug", .str "rug"])).map
          (·.diagnostics.length) = .ok 4 := by decide +kernel
      rw [hv] at hcount
      exact Except.ok.inj hcount
    · have hcount : (validateRaw (Rule.table {})
          (den [.str "lamp", .str " ", .str "Things", .str "rug"])).map
          (·.diagnostics.length) = .ok 6 := by decide +kernel
      rw [hv'] at hcount
      exact Except.ok.inj hcount
  · intro r hr hfield
    have hagree : (denScene ["lamp", "mug", "rug", "", ""]).AgreeOn r.field
        (denScene ["lamp", "", "Things", "rug", ""]) := by
      rw [hfield]
      rfl
    obtain ⟨ds, hds⟩ := (hrule {} r hr).2 _ _ hread
    exact ⟨ds, hds, ((hrule {} r hr).1 _ _ hagree).symm.trans hds⟩

end ScenePrompt
