/-
  The three paths from raw input, and why they agree.

  Input may be VALIDATED, for feedback while it is written; it may be COMPILED, into a prompt or
  into what stands in the way; or it may be read and the scene then RENDERED, which is refused for
  a scene that does not pass.  The gate stands on each path separately.  All three read the same
  scene and run the same table over it, so what there is to compare is what each makes of one
  validation: `compileScene_name` and `Scene.render_name` say so of the last two.

  What they make of it follows from the validation being one that findings amount to: if nothing
  is hard the warnings are all the findings, and else there is an error.  Three OUTCOMES are left,
  `Fails`, `Passes` and `Blocked`, and just one of them is the case (`exactlyOne_outcome`).

  A prompt is written from the scene alone.  A table has a say in whether there is a prompt and
  never in what it is (`prompt_of_compile`).
-/
import ScenePrompt.Compile
import ScenePrompt.Proofs.Outcome

namespace ScenePrompt

open Outcome

/-! ## Layouts under their names -/

/-- The names of layouts are those two that some layout has. -/
theorem Layout.mem_names_iff {mode : String} :
    mode ∈ Layout.names ↔ ∃ l : Layout, l.name = mode := by
  constructor
  · intro h
    rcases List.mem_cons.1 h with rfl | h
    · exact ⟨.compact, rfl⟩
    · exact ⟨.expanded, (List.mem_singleton.1 h).symm⟩
  · rintro ⟨l, rfl⟩
    cases l <;> decide

/-- A layout that is asked for is the one that is used. -/
theorem effectiveMode_name (defaultMode : String) (l : Layout) :
    effectiveMode defaultMode (some l.name) = l.name := by
  cases l <;> rfl

/-! ## Splitting findings by severity -/

/-- `Split ds errors warnings`: each of the findings `ds` has gone into the list of its severity,
    and both lists keep the order. -/
inductive Split : List Diagnostic → List Diagnostic → List Diagnostic → Prop
  | nil : Split [] [] []
  | hard {d : Diagnostic} {ds errors warnings : List Diagnostic} :
    d.severity = .hard → Split ds errors warnings → Split (d :: ds) (d :: errors) warnings
  | soft {d : Diagnostic} {ds errors warnings : List Diagnostic} :
    d.severity = .soft → Split ds errors warnings → Split (d :: ds) errors (d :: warnings)

namespace Validation

/-- The errors and warnings of a validation split its findings. -/
theorem split (v : Validation) : Split v.diagnostics v.errors v.warnings := by
  unfold errors warnings
  induction v.diagnostics with
  | nil => exact .nil
  | cons d ds ih =>
    cases hd : d.severity with
    | hard =>
      -- a hard finding goes to the errors and is left out of the warnings
      have hhard : d.isHard = true := decide_eq_true hd
      have hsoft : ¬ d.isSoft = true := by unfold Diagnostic.isSoft; rw [hd]; decide
      rw [List.filter_cons_of_pos hhard, List.filter_cons_of_neg hsoft]
      exact .hard hd ih
    | soft =>
      -- a soft one the other way round
      have hsoft : d.isSoft = true := decide_eq_true hd
      have hhard : ¬ d.isHard = true := by unfold Diagnostic.isHard; rw [hd]; decide
      rw [List.filter_cons_of_neg hhard, List.filter_cons_of_pos hsoft]
      exact .soft hd ih

/-- Where nothing is hard all findings are warnings. -/
theorem warnings_eq_diagnostics {v : Validation} (h : v.errors = []) :
    v.warnings = v.diagnostics := by
  refine List.filter_eq_self.2 fun d hd => ?_
  have hnot : d.isHard = false := Bool.eq_false_iff.2 (List.filter_eq_nil_iff.1 h d hd)
  rw [d.isSoft_eq_not_isHard, hnot]
  rfl

/-- What a compile answers with after this validation, the prompt being `prompt` if there is
    one. -/
def answer (v : Validation) (prompt : String) : CompileResult :=
  if v.canCompile then .ok prompt v.warnings else .blocked v.errors v.warnings

/-- What rendering comes to after this validation: the prompt, or a refusal in the names of the
    rules that the errors come from. -/
def rendering (v : Validation) (prompt : String) : Except Fault String :=
  if v.canCompile then .ok prompt else .error (.unrenderable (v.errors.map (·.ruleId)))

end Validation

/-- A run sets the flag of its validation by its errors. -/
theorem canCompile_of_validate {rules : List Rule} {s : Scene} {v : Validation}
    (h : validate rules s = .ok v) : v.canCompile = true ↔ v.errors = [] := by
  obtain ⟨ds, -, rfl⟩ := map_eq_ok_iff.1 h
  exact Validation.canCompile_ofDiagnostics

/-! ## The three paths -/

/-- A prompt by the longer way: the input is read and the scene then rendered. -/
def renderRaw (rules : List Rule) (mode : String) (raw : Json) : Except Fault String := do
  let s ← (Scene.ofRaw raw).mapError .malformed
  s.render rules mode

/-- Under the name of a layout a scene is formatted in that layout. -/
theorem Scene.format_name (s : Scene) (l : Layout) : s.format l.name = .ok (s.prompt l) := by
  unfold Scene.format
  rw [Layout.ofName?_name]

/-- What a compile makes of a validation, in any mode. -/
theorem compileScene_of_validate {rules : List Rule} {s : Scene} {v : Validation}
    (hv : validate rules s = .ok v) (mode : String) :
    compileScene rules mode s =
      if v.canCompile then (s.format mode).map fun prompt => .ok prompt v.warnings
      else .ok (.blocked v.errors v.warnings) := by
  unfold compileScene
  rw [hv]
  show (if v.canCompile then
      s.format mode >>= fun prompt => Except.ok (CompileResult.ok prompt v.warnings)
    else Except.ok (CompileResult.blocked v.errors v.warnings)) = _
  cases s.format mode <;> rfl

/-- A compile makes an answer of the validation. -/
theorem compileScene_name (rules : List Rule) (l : Layout) (s : Scene) :
    compileScene rules l.name s = (validate rules s).map fun v => v.answer (s.prompt l) := by
  cases hv : validate rules s with
  | error fault =>
    unfold compileScene
    rw [hv]
    rfl
  | ok v =>
    rw [compileScene_of_validate hv, Scene.format_name]
    show (if v.canCompile then Except.ok (CompileResult.ok _ _) else _) = Except.ok (v.answer _)
    rw [Validation.answer, apply_ite Except.ok]

/-- Rendering makes a prompt or a refusal of it. -/
theorem Scene.render_name (rules : List Rule) (l : Layout) (s : Scene) :
    s.render rules l.name = validate rules s >>= fun v => v.rendering (s.prompt l) := by
  unfold Scene.render Validation.rendering
  rw [Scene.format_name]

section paths

variable {rules : List Rule} {defaultMode : String} {mode : Option String} {l : Layout} {raw : Json}
  {s : Scene}

/-- Input that was read is validated as the scene it reads as. -/
theorem validateRaw_of_ofRaw (h : Scene.ofRaw raw = .ok s) :
    validateRaw rules raw = validate rules s := by
  unfold validateRaw
  rw [h]
  rfl

/-- Input that was read is compiled as the scene it reads as, in the layout that is to be used. -/
theorem compile_eq_compileScene (h : Scene.ofRaw raw = .ok s) :
    compile rules defaultMode mode raw =
      compileScene rules (effectiveMode defaultMode mode) s := by
  unfold compile
  rw [h]
  rfl

/-- In a layout that exists, compiling what was read makes an answer of its validation.  This is the
    form in which the compile is compared with the other two paths. -/
theorem compile_of_ofRaw (h : Scene.ofRaw raw = .ok s)
    (hmode : effectiveMode defaultMode mode = l.name) :
    compile rules defaultMode mode raw = (validate rules s).map fun v => v.answer (s.prompt l) := by
  rw [compile_eq_compileScene h, hmode, compileScene_name]

/-- Rendering what was read makes a prompt or a refusal of the same validation. -/
theorem renderRaw_of_ofRaw (h : Scene.ofRaw raw = .ok s) :
    renderRaw rules l.name raw = validate rules s >>= fun v => v.rendering (s.prompt l) := by
  unfold renderRaw
  rw [h]
  exact Scene.render_name rules l s

/-- A prompt is that of the scene, whatever the table. -/
theorem prompt_of_compile {prompt : String} {warnings : List Diagnostic}
    (hs : Scene.ofRaw raw = .ok s) (hmode : effectiveMode defaultMode mode = l.name)
    (h : compile rules defaultMode mode raw = .ok (.ok prompt warnings)) : prompt = s.prompt l := by
  rw [compile_of_ofRaw hs hmode] at h
  obtain ⟨v, -, hanswer⟩ := map_eq_ok_iff.1 h
  unfold Validation.answer at hanswer
  split at hanswer
  · exact (CompileResult.ok.inj hanswer).1.symm
  · exact absurd hanswer (by simp)

/-- Where there is a prompt there is a scene that it was written from. -/
theorem exists_ofRaw_of_compile {answer : CompileResult}
    (h : compile rules defaultMode mode raw = .ok answer) : ∃ s, Scene.ofRaw raw = .ok s := by
  obtain ⟨s, hs, -⟩ := bind_eq_ok_iff.1 h
  exact ⟨s, mapError_eq_ok_iff.1 hs⟩

end paths

/-! ## Outcomes -/

/-- Just one of three things is the case. -/
def ExactlyOne (p q r : Prop) : Prop := (p ∨ q ∨ r) ∧ ¬ (p ∧ q) ∧ ¬ (p ∧ r) ∧ ¬ (q ∧ r)

/-- All three paths fail, with one and the same fault. -/
def Fails (rules : List Rule) (defaultMode : String) (l : Layout) (raw : Json) : Prop :=
  ∃ fault, validateRaw rules raw = .error fault ∧
    compile rules defaultMode (some l.name) raw = .error fault ∧
    renderRaw rules l.name raw = .error fault

/-- The scene passes: the compile warns of all findings, and its prompt is the one rendered. -/
def Passes (rules : List Rule) (defaultMode : String) (l : Layout) (raw : Json) : Prop :=
  ∃ v prompt, validateRaw rules raw = .ok v ∧ v.canCompile = true ∧
    compile rules defaultMode (some l.name) raw = .ok (.ok prompt v.diagnostics) ∧
    renderRaw rules l.name raw = .ok prompt

/-- The scene is stopped: the compile answers with the findings, split, and rendering is refused
    in the names of the rules that the errors come from.  The refusal says so: its message lists
    the names in this order, with commas between them. -/
def Blocked (rules : List Rule) (defaultMode : String) (l : Layout) (raw : Json) : Prop :=
  ∃ v errors warnings, validateRaw rules raw = .ok v ∧ v.canCompile = false ∧
    compile rules defaultMode (some l.name) raw = .ok (.blocked errors warnings) ∧
    errors ≠ [] ∧ Split v.diagnostics errors warnings ∧
    renderRaw rules l.name raw = .error (.unrenderable (errors.map (·.ruleId))) ∧
    (Fault.unrenderable (errors.map (·.ruleId))).message =
      "Cannot render a scene that fails validation (" ++
        String.intercalate ", " (errors.map (·.ruleId)) ++ ")"

section outcomes

variable {rules : List Rule} {defaultMode : String} {l : Layout} {raw : Json}

/-- What fails while it is read fails on all paths. -/
theorem fails_of_ofRaw {cause : MalformedScene} (h : Scene.ofRaw raw = .error cause) :
    Fails rules defaultMode l raw := by
  refine ⟨.malformed cause, ?_, ?_, ?_⟩
  · unfold validateRaw; rw [h]; rfl
  · unfold compile; rw [h]; rfl
  · unfold renderRaw; rw [h]; rfl

variable {s : Scene}

/-- A table that breaks on the scene breaks all paths. -/
theorem fails_of_validate {fault : Fault} (hs : Scene.ofRaw raw = .ok s)
    (h : validate rules s = .error fault) : Fails rules defaultMode l raw := by
  refine ⟨fault, ?_, ?_, ?_⟩
  · rw [validateRaw_of_ofRaw hs, h]
  · rw [compile_of_ofRaw hs (effectiveMode_name _ l), h]
    rfl
  · rw [renderRaw_of_ofRaw hs, h]
    rfl

/-- A scene whose validation lets it pass passes on all three paths.  Nothing is hard then, so the
    warnings of the compile are all the findings. -/
theorem passes_of_validate {v : Validation} (hs : Scene.ofRaw raw = .ok s)
    (h : validate rules s = .ok v) (hv : v.canCompile = true) : Passes rules defaultMode l raw := by
  have hwarnings : v.warnings = v.diagnostics :=
    Validation.warnings_eq_diagnostics ((canCompile_of_validate h).1 hv)
  have hanswer : v.answer (s.prompt l) = .ok (s.prompt l) v.diagnostics := by
    rw [Validation.answer, if_pos hv, hwarnings]
  refine ⟨v, s.prompt l, ?_, hv, ?_, ?_⟩
  · rw [validateRaw_of_ofRaw hs, h]
  · rw [compile_of_ofRaw hs (effectiveMode_name _ l), h, ← hanswer]
    rfl
  · rw [renderRaw_of_ofRaw hs, h]
    exact if_pos hv

/-- A scene whose validation stops it is stopped on all three paths, and there is an error, because
    the flag was set by the errors. -/
theorem blocked_of_validate {v : Validation} (hs : Scene.ofRaw raw = .ok s)
    (h : validate rules s = .ok v) (hv : v.canCompile = false) :
    Blocked rules defaultMode l raw := by
  have hno : ¬ v.canCompile = true := by rw [hv]; decide
  have herrors : v.errors ≠ [] := fun hnil => hno ((canCompile_of_validate h).2 hnil)
  have hanswer : v.answer (s.prompt l) = .blocked v.errors v.warnings := if_neg hno
  refine ⟨v, v.errors, v.warnings, ?_, hv, ?_, herrors, v.split, ?_, rfl⟩
  · rw [validateRaw_of_ofRaw hs, h]
  · rw [compile_of_ofRaw hs (effectiveMode_name _ l), h, ← hanswer]
    rfl
  · rw [renderRaw_of_ofRaw hs, h]
    exact if_neg hno

/-- One of the outcomes is the case. -/
theorem outcome (rules : List Rule) (defaultMode : String) (l : Layout) (raw : Json) :
    Fails rules defaultMode l raw ∨ Passes rules defaultMode l raw ∨
      Blocked rules defaultMode l raw := by
  cases hs : Scene.ofRaw raw with
  -- either nothing was read, or a rule failed, or the flag decides
  | error cause => exact Or.inl (fails_of_ofRaw hs)
  | ok s =>
    cases h : validate rules s with
    | error fault => exact Or.inl (fails_of_validate hs h)
    | ok v =>
      cases hv : v.canCompile with
      | true => exact Or.inr (Or.inl (passes_of_validate hs h hv))
      | false => exact Or.inr (Or.inr (blocked_of_validate hs h hv))

/-- The outcomes exclude each other: the validation alone tells them apart. -/
theorem exactlyOne_outcome (rules : List Rule) (defaultMode : String) (l : Layout) (raw : Json) :
    ExactlyOne (Fails rules defaultMode l raw) (Passes rules defaultMode l raw)
      (Blocked rules defaultMode l raw) := by
  refine ⟨outcome rules defaultMode l raw, ?_, ?_, ?_⟩
  · rintro ⟨⟨fault, hfail, -⟩, ⟨v, prompt, hv, -⟩⟩
    rw [hfail] at hv
    exact absurd hv (by simp)
  · rintro ⟨⟨fault, hfail, -⟩, ⟨v, errors, warnings, hv, -⟩⟩
    rw [hfail] at hv
    exact absurd hv (by simp)
  · rintro ⟨⟨v, prompt, hv, hpass, -⟩, ⟨v', errors, warnings, hv', hstop, -⟩⟩
    -- there is one validation, and its flag is true or false
    obtain rfl : v = v' := Except.ok.inj (hv.symm.trans hv')
    rw [hpass] at hstop
    exact absurd hstop (by decide)

end outcomes

/-- **The three paths agree.**  Under any table and in either layout all of them fail with the same
    fault, or all let the scene pass, with the same prompt and all findings as warnings, or all stop
    it for the same errors; and only one of these at a time.  A scene that two tables let pass has
    the same prompt under both. -/
theorem validate_compile_render_agree (rules : List Rule) (defaultMode : String) (l : Layout)
    (raw : Json) :
    ExactlyOne (Fails rules defaultMode l raw) (Passes rules defaultMode l raw)
      (Blocked rules defaultMode l raw) ∧
    ∀ (rules' : List Rule) (defaultMode' : String) (raw' : Json) (prompt prompt' : String)
      (warnings warnings' : List Diagnostic), Scene.ofRaw raw = Scene.ofRaw raw' →
      compile rules defaultMode (some l.name) raw = .ok (.ok prompt warnings) →
      compile rules' defaultMode' (some l.name) raw' = .ok (.ok prompt' warnings') →
      prompt = prompt' := by
  refine ⟨exactlyOne_outcome rules defaultMode l raw, ?_⟩
  intro rules' defaultMode' raw' prompt prompt' warnings warnings' hsame h h'
  obtain ⟨s, hs⟩ := exists_ofRaw_of_compile h
  have hs' : Scene.ofRaw raw' = .ok s := hsame.symm.trans hs
  -- both prompts are that of the one scene, written without a look at the table
  rw [prompt_of_compile hs (effectiveMode_name _ l) h,
    prompt_of_compile hs' (effectiveMode_name _ l) h']

/-- A table of one rule, which says this of every scene or breaks. -/
def toneTable (severity : String) (outcome : Except String (List String)) : List Rule :=
  [Rule.declared "tone" severity "scene_heart" outcome]

/-- A scene that has two hearts, of which the later counts. -/
def dusk : Json := .obj [("scene_heart", .str "Noon"), ("sceneHeart", .str " Dusk ")]

/-- One scene and three tables, one for each outcome; advice does not show in the prompt. -/
theorem dusk_outcomes :
    (Passes (toneTable "soft" (.ok ["Too dark.", "Too late."])) "" .expanded dusk ∧
      Blocked (toneTable "hard" (.ok ["Too dark.", "Too late."])) "" .expanded dusk ∧
      Fails (toneTable "soft" (.error "no light")) "" .expanded dusk) ∧
    ¬ Fails (toneTable "soft" (.ok ["Too dark.", "Too late."])) "" .expanded dusk ∧
    ∃ prompt prompt' warnings warnings',
      compile (toneTable "soft" (.ok ["Too dark."])) "" (some "expanded") dusk =
        .ok (.ok prompt warnings) ∧
      compile [] "compact" (some "expanded") dusk = .ok (.ok prompt' warnings') ∧
      warnings ≠ warnings' ∧ prompt = prompt' := by
  have hpasses : Passes (toneTable "soft" (.ok ["Too dark.", "Too late."])) "" .expanded dusk :=
    ⟨_, _, rfl, rfl, rfl, rfl⟩
  have hone := validate_compile_render_agree (toneTable "soft" (.ok ["Too dark.", "Too late."])) ""
    .expanded dusk
  have hsame := validate_compile_render_agree (toneTable "soft" (.ok ["Too dark."])) "" .expanded
    dusk
  refine ⟨⟨hpasses, ?_, ?_⟩, fun hfails => hone.1.2.1 ⟨hfails, hpasses⟩, ?_⟩
  · exact ⟨_, _, _, rfl, rfl, rfl, by decide, .hard rfl (.hard rfl .nil), rfl, rfl⟩
  · exact ⟨.rule "tone" (.raised "no light"), rfl, rfl, rfl⟩
  · refine ⟨_, _, _, _, rfl, rfl, by decide, ?_⟩
    exact hsame.2 [] "compact" dusk _ _ _ _ rfl rfl rfl

end ScenePrompt
