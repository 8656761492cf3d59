/-
  Which part of the anchor slots is seen, and by whom.

  Of the anchor slots most of the program sees the FILLED ANCHORS only: the texts with ink in them,
  in slot order.  The rule that counts anchors, the rule that looks for vague ones and the renderer
  all go by them.  Two scenes that are the same but for their slots, and have the same filled
  anchors in them (`Scene.SameFilled`), are therefore one scene to all of these: they have the same
  prompts, in every layout (`SameFilled.prompt_eq`), and the same findings of every rule but one.

  That one is ANCHOR SLOT PRIORITY, which is about the places where anchors stand.  Its findings can
  be told by their rule identifier, and without them the findings about the two scenes are the same
  (`SameFilled.filter_emission_eq`).  They are soft, so the verdict and the errors are the same in
  any case.
-/
import ScenePrompt.Proofs.Rule.Locality

namespace ScenePrompt

/-- The scenes say the same but for their slots, and in these the same anchors are filled, in the
    same order. -/
structure Scene.SameFilled (s s' : Scene) : Prop where
  elsewhere : s.DifferOnlyIn .environmentAnchors s'
  filledAnchors_eq : s.filledAnchors = s'.filledAnchors

/-! ## The rule that sees the slots themselves -/

/-- There is one rule of that name in the table. -/
theorem Rule.check_of_id_eq (t : Thresholds) :
    ∀ r ∈ table t, r.id = "anchor_slot_priority" → r.check = checkSlotPriority := by
  simp [table]

/-- It is one rule exactly, so the findings of that identifier are what this rule emits. -/
theorem Rule.exists_filter_id_eq (t : Thresholds) :
    ∃ r ∈ table t, r.check = checkSlotPriority ∧
      (table t).filter (·.id = "anchor_slot_priority") = [r] := by
  simp [table]

/-- The other two rules about anchors see the filled ones only. -/
theorem Rule.check_of_field_eq (t : Thresholds) :
    ∀ r ∈ table t, r.field = .environmentAnchors → r.id ≠ "anchor_slot_priority" →
      r.check = checkAnchorCount ∨ r.check = sound checkSpecificity := by
  simp [table]

namespace Scene.SameFilled

variable {s s' : Scene}

/-! ## What the rules see -/

/-- A built-in rule of another identifier gives the same messages about both scenes: the rules about
    anchors see the filled ones, and the rules about other fields do not see the slots at all. -/
theorem check_eq (h : s.SameFilled s') {t : Thresholds} {r : Rule} (hr : r ∈ Rule.table t)
    (hid : r.id ≠ "anchor_slot_priority") : r.check s = r.check s' := by
  by_cases hfield : r.field = .environmentAnchors
  · rcases Rule.check_of_field_eq t r hr hfield hid with hcheck | hcheck
    · rw [hcheck]
      exact Rule.checkAnchorCount_congr h.filledAnchors_eq
    · rw [hcheck]
      exact congrArg Except.ok (Rule.checkSpecificity_congr h.filledAnchors_eq)
  · exact Rule.local_of_mem_table hr s s' (h.elsewhere r.field hfield)

/-- Apart from what is said about slot priority, the built-in rules say the same. -/
theorem filter_emission_eq (h : s.SameFilled s') (t : Thresholds) :
    ((Rule.table t).flatMap (·.emission s)).filter (·.ruleId ≠ "anchor_slot_priority") =
      ((Rule.table t).flatMap (·.emission s')).filter (·.ruleId ≠ "anchor_slot_priority") := by
  have hothers : ∀ u : Scene,
      ((Rule.table t).flatMap (·.emission u)).filter (·.ruleId ≠ "anchor_slot_priority") =
        ((Rule.table t).filter (·.id ≠ "anchor_slot_priority")).flatMap (·.emission u) :=
    filter_flatMap_emission (fun _ _ => rfl) (Rule.table t)
  rw [hothers, hothers]
  refine flatMap_emission_congr fun r hr => ?_
  obtain ⟨hmem, hid⟩ := List.mem_filter.1 hr
  exact h.check_eq hmem (by simpa using hid)

/-- Of two such scenes all the same is said if the same is said about slot priority. -/
theorem validation_eq_iff (h : s.SameFilled s') {t : Thresholds} {v v' : Validation}
    (hv : validate (Rule.table t) s = .ok v) (hv' : validate (Rule.table t) s' = .ok v') :
    v' = v ↔ Rule.checkSlotPriority s' = Rule.checkSlotPriority s := by
  obtain ⟨r, hr, hpriority, hone⟩ := Rule.exists_filter_id_eq t
  obtain ⟨hok, rfl⟩ := validate_eq_ok_iff.1 hv
  obtain ⟨hok', rfl⟩ := validate_eq_ok_iff.1 hv'
  constructor
  · intro heq
    -- of each validation, keep what slot priority emits: that is where the two may differ
    have hsaid : ∀ u : Scene, ((Rule.table t).flatMap (·.emission u)).filter
        (·.ruleId = "anchor_slot_priority") =
          ((Rule.table t).filter (·.id = "anchor_slot_priority")).flatMap (·.emission u) :=
      filter_flatMap_emission (fun _ _ => rfl) (Rule.table t)
    rw [hone] at hsaid
    simp only [List.flatMap_singleton] at hsaid
    have hemission := congrArg
      (fun v => v.diagnostics.filter (·.ruleId = "anchor_slot_priority")) heq
    rw [← hpriority]
    exact Rule.check_eq_of_emission_eq (hok' r hr) (hok r hr)
      ((hsaid s').symm.trans (hemission.trans (hsaid s)))
  · intro hsame
    refine congrArg Validation.ofDiagnostics (flatMap_emission_congr fun r hr => ?_)
    by_cases hid : r.id = "anchor_slot_priority"
    · rw [Rule.check_of_id_eq t r hr hid]
      exact hsame
    · exact (h.check_eq hr hid).symm

/-- The gate does not see where anchors stand. -/
theorem errors_eq (h : s.SameFilled s') (hslots : s.environmentAnchors.length = anchorSlots)
    (hslots' : s'.environmentAnchors.length = anchorSlots) {t : Thresholds} {v v' : Validation}
    (hv : validate (Rule.table t) s = .ok v) (hv' : validate (Rule.table t) s' = .ok v') :
    v.errors = v'.errors := by
  have hheart : s.sceneHeart = s'.sceneHeart := h.elsewhere .sceneHeart (by decide)
  have hcount : s.filledAnchorCount = s'.filledAnchorCount :=
    congrArg List.length h.filledAnchors_eq
  rw [errors_of_validate_table hslots hv, errors_of_validate_table hslots' hv', hheart, hcount]

/-! ## What the renderer sees -/

/-- The prompts are the same in every layout, since anchors are rendered as the filled ones in their
    order. -/
theorem prompt_eq (h : s.SameFilled s') (l : Layout) : s.prompt l = s'.prompt l := by
  have hheart : s.sceneHeart = s'.sceneHeart := h.elsewhere .sceneHeart (by decide)
  have hframing : s.framing = s'.framing := h.elsewhere .framing (by decide)
  have hlens : s.lens = s'.lens := h.elsewhere .lens (by decide)
  have hcast : s.cast = s'.cast := h.elsewhere .cast (by decide)
  have hdetails : s.microDetails = s'.microDetails := h.elsewhere .microDetails (by decide)
  have hlock : s.mechanicLock = s'.mechanicLock := h.elsewhere .mechanicLock (by decide)
  have htarget : s.focusTarget = s'.focusTarget := h.elsewhere .focusTarget (by decide)
  unfold Scene.prompt Scene.sections Scene.opticsPhrases
  rw [hheart, hframing, hlens, hcast, h.filledAnchors_eq, hdetails, hlock, htarget]

end Scene.SameFilled

/-- Two runs of a table agree on the verdict if they agree on the errors. -/
theorem canCompile_eq_of_errors_eq {rules rules' : List Rule} {s s' : Scene} {v v' : Validation}
    (hv : validate rules s = .ok v) (hv' : validate rules' s' = .ok v')
    (h : v.errors = v'.errors) : v.canCompile = v'.canCompile := by
  rw [Bool.eq_iff_iff, canCompile_of_validate hv, canCompile_of_validate hv', h]

end ScenePrompt
