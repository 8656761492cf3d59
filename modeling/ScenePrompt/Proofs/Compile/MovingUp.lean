/-
  Following the advice on slot priority.

  The rule on anchor slot priority advises to move anchors into the first slots when an optional
  slot is filled while a required one is empty.  To MOVE UP the anchors of a scene (`Scene.movedUp`)
  is to do so thoroughly: the filled ones go, in their order, into the first slots, and the blank
  ones stand behind them.

  This is safe, because the filled anchors are the same and in the same order, and but for that one
  rule nobody sees more of the slots (`Scene.SameFilled`).  And it is enough: if three anchors are
  filled or more, no required slot is empty any more; and if there are fewer, no optional slot is
  filled (`checkSlotPriority_movedUp`).  So a compile of the scene with its anchors moved up comes
  to what it came to before, without that one piece of advice (`compileScene_movedUp`).

  The scene with its anchors moved up is in normal form if the scene is — its slots hold the same
  texts — and is therefore compiled as it stands.
-/
import ScenePrompt.Proofs.Prompt.Scaffold
import ScenePrompt.Proofs.Rule.Silence
import ScenePrompt.Proofs.Rule.Slots

namespace ScenePrompt

open Outcome

/-! ## Moving up -/

namespace Scene

/-- The scene with its filled anchors, in their order, in the first slots and the blank ones behind
    them. -/
def movedUp (s : Scene) : Scene :=
  { s with environmentAnchors := s.filledAnchors ++ s.environmentAnchors.filter Text.isBlankText }

/-- The slots hold the same texts as before. -/
theorem movedUp_perm (s : Scene) : s.movedUp.environmentAnchors.Perm s.environmentAnchors :=
  List.perm_append_comm.trans (List.filter_append_perm Text.isBlankText s.environmentAnchors)

/-- The filled anchors are the same as before, in the same order. -/
theorem sameFilled_movedUp (s : Scene) : s.SameFilled s.movedUp := by
  constructor
  · intro g hg
    cases g with
    | environmentAnchors => exact absurd rfl hg
    | _ => rfl
  · -- the blank slots that were put behind the others do not count as filled
    have hnone : (s.environmentAnchors.filter Text.isBlankText).filter
        (fun anchor => !Text.isBlankText anchor) = [] := by
      rw [List.filter_eq_nil_iff]
      intro anchor hanchor
      simp [(List.mem_filter.1 hanchor).2]
    show _ = (s.filledAnchors ++ _).filter _
    rw [List.filter_append, hnone, List.append_nil]
    exact (List.filter_eq_self.2 fun anchor hanchor => (List.mem_filter.1 hanchor).2).symm

variable {s : Scene}

/-- There are still five slots, and nothing else was touched. -/
theorem WellFormed.movedUp (h : s.WellFormed) : s.movedUp.WellFormed :=
  ⟨h.framing_mem, h.lens_mem, h.name_ne_empty, s.movedUp_perm.length_eq.trans h.slots_eq⟩

/-- The texts in the slots are the same, so they are trimmed as they were. -/
theorem NormalForm.movedUp (h : s.NormalForm) : s.movedUp.NormalForm :=
  { h with anchors_trimmed := fun a ha => h.anchors_trimmed a (s.movedUp_perm.mem_iff.1 ha) }

/-- There is nothing left to advise. -/
theorem checkSlotPriority_movedUp (hwell : s.WellFormed) (h : s.NormalForm) :
    Rule.checkSlotPriority s.movedUp = .ok [] := by
  rw [Rule.checkSlotPriority_eq_ok_nil_iff hwell.movedUp.slots_eq]
  show (∀ a ∈ (s.filledAnchors ++ _).take 3, _) ∨ ∀ a ∈ (s.filledAnchors ++ _).drop 3, _
  -- the rule is silent if no required slot is empty, or no optional one is filled
  rcases Nat.le_total 3 s.filledAnchors.length with hmany | hfew
  · -- the required slots are filled
    refine Or.inl fun a ha => ?_
    rw [List.take_append_of_le_length hmany] at ha
    exact s.filledAnchors_ne_empty a (List.mem_of_mem_take ha)
  · -- the optional slots are blank, and blank slots are empty
    refine Or.inr fun a ha => ?_
    rw [List.drop_append, List.drop_of_length_le hfew, List.nil_append] at ha
    obtain ⟨hmem, hblank⟩ := List.mem_filter.1 (List.mem_of_mem_drop ha)
    rw [← h.anchors_trimmed a hmem, Text.trim_eq_empty]
    exact hblank

end Scene

/-! ## What the rules say afterwards -/

/-- The findings are those about the scene as it was, without those on slot priority. -/
theorem flatMap_emission_movedUp {s : Scene} (hwell : s.WellFormed) (h : s.NormalForm)
    (t : Thresholds) :
    (Rule.table t).flatMap (·.emission s.movedUp) =
      ((Rule.table t).flatMap (·.emission s)).filter (·.ruleId ≠ "anchor_slot_priority") := by
  rw [s.sameFilled_movedUp.filter_emission_eq t, eq_comm, List.filter_eq_self]
  intro d hd
  obtain ⟨r, hr, hd⟩ := List.mem_flatMap.1 hd
  rw [decide_eq_true_eq]
  intro hid
  obtain ⟨m, -, rfl⟩ := List.mem_map.1 hd
  -- the one rule with this identifier is silent
  have hcheck : r.check s.movedUp = .ok [] :=
    (congrFun (Rule.check_of_id_eq t r hr hid) s.movedUp).trans
      (Scene.checkSlotPriority_movedUp hwell h)
  rw [Rule.emission_of_check hcheck] at hd
  cases hd

/-! ## Answers without a piece of advice -/

/-- The same answer, without what one rule had to advise. -/
def CompileResult.withoutAdvice (id : String) : CompileResult → CompileResult
  | ok prompt warnings => .ok prompt (warnings.filter (·.ruleId ≠ id))
  | blocked errors warnings => .blocked errors (warnings.filter (·.ruleId ≠ id))

/-- Scenes with the same filled anchors have the same prompt in every mode, and none in the same
    modes. -/
theorem Scene.SameFilled.format_eq {s s' : Scene} (h : s.SameFilled s') (mode : String) :
    s.format mode = s'.format mode := by
  unfold Scene.format
  simp only [h.prompt_eq]

/-- A compile after moving up comes to what it came to before, but for the advice on slot
    priority. -/
theorem compileScene_movedUp {s : Scene} (hwell : s.WellFormed) (h : s.NormalForm) (t : Thresholds)
    (mode : String) :
    compileScene (Rule.table t) mode s.movedUp =
      (compileScene (Rule.table t) mode s).map (·.withoutAdvice "anchor_slot_priority") := by
  have hslots := hwell.slots_eq
  have hslots' := hwell.movedUp.slots_eq
  obtain ⟨v, hv⟩ := exists_validate_table hslots t
  obtain ⟨v', hv'⟩ := exists_validate_table hslots' t
  have herrors : v.errors = v'.errors := s.sameFilled_movedUp.errors_eq hslots hslots' hv hv'
  -- the errors are untouched, and with them the verdict
  have hverdict : v.canCompile = v'.canCompile := canCompile_eq_of_errors_eq hv hv' herrors
  have hwarnings : v'.warnings = v.warnings.filter (·.ruleId ≠ "anchor_slot_priority") := by
    obtain ⟨-, rfl⟩ := validate_eq_ok_iff.1 hv
    obtain ⟨-, rfl⟩ := validate_eq_ok_iff.1 hv'
    show ((Rule.table t).flatMap (·.emission s.movedUp)).filter Diagnostic.isSoft =
      (((Rule.table t).flatMap (·.emission s)).filter Diagnostic.isSoft).filter _
    rw [flatMap_emission_movedUp hwell h t, List.filter_comm]
  rw [compileScene_of_validate hv, compileScene_of_validate hv', ← hverdict, ← herrors, hwarnings,
    s.sameFilled_movedUp.format_eq mode]
  -- blocked: the same errors; passed: the same prompt, or no layout for either
  cases v.canCompile with
  | false => rfl
  | true => cases s.movedUp.format mode <;> rfl

/-- **Following the advice on slot priority is safe, and it is enough.**  Whatever was read, under
    any thresholds and in any mode: with its anchors moved up the scene is compiled to an answer of
    the same sort, with the same errors or the very same prompt, and with the same warnings except
    those on slot priority, of which there are none any more.  In a known mode there is an
    answer. -/
theorem moving_up_silences_slot_priority (raw : Json) (s : Scene) (h : Scene.ofRaw raw = .ok s)
    (t : Thresholds) (defaultMode : String) (mode : Option String) :
    compile (Rule.table t) defaultMode mode s.toJson =
        compile (Rule.table t) defaultMode mode raw ∧
      compile (Rule.table t) defaultMode mode s.movedUp.toJson =
        (compile (Rule.table t) defaultMode mode s.toJson).map
          (·.withoutAdvice "anchor_slot_priority") ∧
      (effectiveMode defaultMode mode ∈ Layout.names →
        ∃ result, compile (Rule.table t) defaultMode mode s.toJson = .ok result) ∧
      Rule.checkSlotPriority s.movedUp = .ok [] := by
  have hwell : s.WellFormed := Scene.wellFormed_of_ofRaw h
  have hnormal : s.NormalForm := Scene.normalForm_of_ofRaw h
  have hread : Scene.ofRaw s.toJson = .ok s := Scene.renormalize_of_ofRaw h
  -- the scene with its anchors moved up is read as it stands
  have hread' : Scene.ofRaw s.movedUp.toJson = .ok s.movedUp :=
    Scene.renormalize_of_normalForm hwell.movedUp hnormal.movedUp
  refine ⟨?_, ?_, ?_, Scene.checkSlotPriority_movedUp hwell hnormal⟩
  · rw [compile_eq_compileScene hread, compile_eq_compileScene h]
  · rw [compile_eq_compileScene hread, compile_eq_compileScene hread']
    exact compileScene_movedUp hwell hnormal t (effectiveMode defaultMode mode)
  · intro hmode
    obtain ⟨l, hl⟩ := Layout.mem_names_iff.1 hmode
    obtain ⟨v, hv⟩ := exists_validate_table_of_ofRaw h t
    rw [compile_of_ofRaw hread hl.symm, hv]
    exact ⟨_, rfl⟩

/-- Three anchors with gaps between them. -/
def attic : Json :=
  .obj [("sceneHeart", .str "Dust in the light"),
    ("environmentAnchors", .arr [.null, .str "trunk", .str " ", .str "lamp", .str "rope"])]

/-- What it reads as. -/
def atticScene : Scene :=
  { sceneHeart := "Dust in the light", environmentAnchors := ["", "trunk", "", "lamp", "rope"] }

/-- The advice is followed: one warning of four is gone, the prompt is the same. -/
theorem attic_moved_up :
    Scene.ofRaw attic = .ok atticScene ∧
      atticScene.movedUp.environmentAnchors = ["trunk", "lamp", "rope", "", ""] ∧
      ∃ prompt warnings warnings',
        compile (Rule.table {}) "compact" none attic = .ok (.ok prompt warnings) ∧
        compile (Rule.table {}) "compact" none atticScene.movedUp.toJson =
          .ok (.ok prompt warnings') ∧
        warnings.length = 4 ∧ warnings'.length = 3 ∧
        warnings' = warnings.filter (·.ruleId ≠ "anchor_slot_priority") := by
  have hread : Scene.ofRaw attic = .ok atticScene := rfl
  obtain ⟨hraw, hmoved, hknown, -⟩ :=
    moving_up_silences_slot_priority attic atticScene hread {} "compact" none
  obtain ⟨result, hresult⟩ := hknown (by decide)
  have hpasses : (compile (Rule.table {}) "compact" none attic).map
      (fun result => match result with
        | .ok _ warnings => some (warnings.length,
            (warnings.filter (·.ruleId ≠ "anchor_slot_priority")).length)
        | .blocked _ _ => none) = .ok (some (4, 3)) := by decide +kernel
  rw [← hraw, hresult] at hpasses
  cases result with
  | blocked errors warnings => cases Except.ok.inj hpasses
  | ok prompt warnings =>
    obtain ⟨hfour, hthree⟩ := Prod.mk.inj (Option.some.inj (Except.ok.inj hpasses))
    rw [hresult] at hmoved
    exact ⟨hread, rfl, prompt, warnings, _, hraw.symm.trans hresult, hmoved, hfour, hthree, rfl⟩

end ScenePrompt
