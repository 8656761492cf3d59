/-
  Which of several things that are wrong is reported.

  On the way from raw input to a prompt four things may go wrong: the input cannot be read, a rule
  breaks, a hard rule has something to say, or there is no layout of the name that is WANTED
  (`Wanted`).  They may all be wrong at once, and then the first of them in this order is what a
  compile comes to.  Of several rules that break it is the first in the table (`FirstToRaise`),
  whatever the rules before it had to say and the rules behind it would have done.

  A compile is three steps one after another, so each step is taken apart on its own
  (`Scene.format_eq_error_iff`, `compileScene_eq_error_iff`, `compileScene_eq_blocked_iff`), and the
  order of the steps is the order of the faults.  A fault of one step is never one of another sort:
  only reading gives `malformed`, only the rules give `rule`, and only the layout `unknownMode`.
  Hence a rule that calls the reader, and lets through what that fails with, breaks like any other
  rule; of the fault it let through nothing but the wording is left (`Rule.lettingThrough`).

  A name that is none for a layout is the caller's mistake, and a rule declared with labels that no
  finding can carry fails in a way that is nobody's report; all other faults are defects of the
  compiler or of what it was given (`Fault.IsDefect`).  Labelled rules fail by raising only, so of
  them every fault is a defect once the layout exists (`isDefect_of_compile`).
-/
import Mathlib.Data.List.Basic
import ScenePrompt.Proofs.Rule.Failure

namespace ScenePrompt

open Outcome

/-! ## What is wanted, and what is wrong -/

/-- `Wanted defaultMode mode name`: the layout to use has this name.  It is the one asked for, and
    the default if none is asked for or one without a name. -/
inductive Wanted (defaultMode : String) : Option String → String → Prop
  | asked {name : String} : name ≠ "" → Wanted defaultMode (some name) name
  | unasked : Wanted defaultMode none defaultMode
  | nameless : Wanted defaultMode (some "") defaultMode

/-- The layout that is wanted is the one that `effectiveMode` names. -/
theorem wanted_iff {defaultMode name : String} {mode : Option String} :
    Wanted defaultMode mode name ↔ effectiveMode defaultMode mode = name := by
  constructor
  · intro h
    cases h with
    | asked hname => exact if_neg hname
    | unasked => rfl
    | nameless => rfl
  · rintro rfl
    cases mode with
    | none => exact .unasked
    | some name =>
      show Wanted defaultMode (some name) (if name = "" then defaultMode else name)
      split
      · next hempty =>
        subst hempty
        exact .nameless
      · next hname => exact .asked hname

/-- As long as the default and a name that is given are known, the wanted one is. -/
theorem Wanted.mem_names {defaultMode name : String} {mode : Option String}
    (h : Wanted defaultMode mode name) (hdefault : defaultMode ∈ Layout.names)
    (hmode : ∀ asked, mode = some asked → asked = "" ∨ asked ∈ Layout.names) :
    name ∈ Layout.names := by
  cases h with
  | asked hname => exact (hmode name rfl).resolve_left hname
  | unasked => exact hdefault
  | nameless => exact hdefault

/-- Of the rules that raise a text on the scene, the one of this identifier is the first in the
    table, and this is its text. -/
def FirstToRaise (rules : List Rule) (s : Scene) (id text : String) : Prop :=
  ∃ before r after, rules = before ++ r :: after ∧
    (∀ q ∈ before, ∀ other, q.check s ≠ .error (.raised other)) ∧
    r.check s = .error (.raised text) ∧ r.id = id

/-- Where a rule raises a text there is a first one that does. -/
theorem exists_firstToRaise {rules : List Rule} {s : Scene}
    (h : ∃ r ∈ rules, ∃ text, r.check s = .error (.raised text)) :
    ∃ id text, FirstToRaise rules s id text := by
  induction rules with
  | nil =>
    obtain ⟨r, hr, -⟩ := h
    cases hr
  | cons q rules ih =>
    by_cases hq : ∃ text, q.check s = .error (.raised text)
    · -- the head raises, and nothing stands before it
      obtain ⟨text, htext⟩ := hq
      exact ⟨q.id, text, [], q, rules, rfl, List.forall_mem_nil _, htext, rfl⟩
    · -- it does not, so it joins those before the first one further on
      have hquiet : ∀ other, q.check s ≠ .error (.raised other) := not_exists.1 hq
      have hrest : ∃ r ∈ rules, ∃ text, r.check s = .error (.raised text) := by
        obtain ⟨r, hr, text, htext⟩ := h
        rcases List.mem_cons.1 hr with rfl | hr
        · exact absurd htext (hquiet text)
        · exact ⟨r, hr, text, htext⟩
      obtain ⟨id, text, before, r, after, rfl, hbefore, htext, hid⟩ := ih hrest
      exact ⟨id, text, q :: before, r, after, rfl, List.forall_mem_cons.2 ⟨hquiet, hbefore⟩,
        htext, hid⟩

/-- A check made of a computation that may fail in any way.  What it fails with is let through, and
    so the rule has raised the wording of it. -/
def Rule.lettingThrough (compute : Scene → Except Fault (List String)) (s : Scene) :
    Except RuleFault (List String) :=
  (compute s).mapError fun fault => .raised fault.message

/-- Such a check fails with texts only. -/
theorem Rule.labelled_of_lettingThrough {r : Rule} (compute : Scene → Except Fault (List String))
    (h : r.check = lettingThrough compute) : r.Labelled := by
  intro s vs hcheck
  rw [h] at hcheck
  obtain ⟨fault, -, hraised⟩ := mapError_eq_error_iff.1 hcheck
  cases hraised

/-- The fault is a defect: input that cannot be read, a rule that raised a text, or a scene that may
    not be rendered.  It is none if a caller names a layout that does not exist, nor if the findings
    of a rule could not be put together because of its labels. -/
def Fault.IsDefect : Fault → Prop
  | .malformed _ | .rule _ (.raised _) | .unrenderable _ => True
  | .unknownMode _ | .rule _ (.mislabelled _) => False

/-! ## The steps of a compile -/

section steps

variable {rules : List Rule} {s : Scene} {fault : Fault}

/-- Formatting fails only for a name that no layout has, and the fault names it. -/
theorem Scene.format_eq_error_iff {mode : String} :
    s.format mode = .error fault ↔ mode ∉ Layout.names ∧ .unknownMode mode = fault := by
  unfold format
  cases hname : Layout.ofName? mode with
  | some l =>
    have hmem : mode ∈ Layout.names := by
      have hsome := Layout.ofName?_isSome_iff.1 (Option.isSome_iff_exists.2 ⟨l, hname⟩)
      rcases hsome with rfl | rfl <;> decide
    show Except.ok (s.prompt l) = .error fault ↔ _
    simp [hmem]
  | none =>
    have hnot : mode ∉ Layout.names := by
      intro hmem
      obtain ⟨l, rfl⟩ := Layout.mem_names_iff.1 hmem
      rw [Layout.ofName?_name] at hname
      cases hname
    show Except.error (Fault.unknownMode mode) = .error fault ↔ _
    simp [hnot]

/-- A scene fails to be compiled if the rules fail on it, or if they let it pass and its layout
    does not exist. -/
theorem compileScene_eq_error_iff {mode : String} :
    compileScene rules mode s = .error fault ↔
      validate rules s = .error fault ∨
        ∃ v, validate rules s = .ok v ∧ v.canCompile = true ∧ mode ∉ Layout.names ∧
          .unknownMode mode = fault := by
  cases hv : validate rules s with
  | error first =>
    -- the rules come first, so their fault is the compile's
    have hcompile : compileScene rules mode s = .error first := by
      unfold compileScene
      rw [hv]
      rfl
    rw [hcompile]
    simp
  | ok v =>
    rw [compileScene_of_validate hv]
    cases hpass : v.canCompile with
    | true =>
      rw [if_pos rfl, map_eq_error_iff, Scene.format_eq_error_iff]
      simp [hpass]
    | false =>
      -- a blocked scene is an answer, whatever the layout
      rw [if_neg (by decide)]
      simp [hpass]

/-- A run finds an error if a hard rule has something to say. -/
theorem errors_ne_nil_iff {v : Validation} (hv : validate rules s = .ok v) :
    v.errors ≠ [] ↔ ∃ r ∈ rules, r.severity = .hard ∧ ∃ m ms, r.check s = .ok (m :: ms) := by
  obtain ⟨hok, rfl⟩ := validate_eq_ok_iff.1 hv
  have hspeaks : ∀ r ∈ rules, (r.emission s ≠ [] ↔ ∃ m ms, r.check s = .ok (m :: ms)) := by
    intro r hr
    cases hcheck : r.check s with
    | error e =>
      have hsound := hok r hr
      rw [hcheck] at hsound
      cases hsound
    | ok ms =>
      rw [Rule.emission_of_check hcheck]
      cases ms <;> simp
  show (List.flatMap _ rules).filter Diagnostic.isHard ≠ [] ↔ _
  -- the errors are what the hard rules emit, so there is one if one of these rules emits anything
  rw [filter_isHard_flatMap_emission, Ne, List.flatMap_eq_nil_iff, not_forall]
  constructor
  · rintro ⟨r, hr⟩
    obtain ⟨hmem, hsome⟩ := Classical.not_imp.1 hr
    obtain ⟨hrule, hhard⟩ := List.mem_filter.1 hmem
    exact ⟨r, hrule, of_decide_eq_true hhard, (hspeaks r hrule).1 hsome⟩
  · rintro ⟨r, hrule, hhard, hsays⟩
    refine ⟨r, Classical.not_imp.2 ⟨?_, (hspeaks r hrule).2 hsays⟩⟩
    exact List.mem_filter.2 ⟨hrule, decide_eq_true hhard⟩

/-- A validation has no errors if every hard rule kept silent. -/
theorem errors_eq_nil_of_silent {v : Validation} (hv : validate rules s = .ok v)
    (hsilent : ∀ r ∈ rules, r.severity = .hard → r.check s = .ok []) : v.errors = [] := by
  by_contra hsome
  obtain ⟨r, hr, hhard, m, ms, hsays⟩ := (errors_ne_nil_iff hv).1 hsome
  rw [hsilent r hr hhard] at hsays
  cases hsays

/-- A scene that the rules do not fail on is stopped by the hard ones alone, in any layout. -/
theorem compileScene_eq_blocked_iff {v : Validation} (hv : validate rules s = .ok v)
    (mode : String) :
    (∃ errors warnings, compileScene rules mode s = .ok (.blocked errors warnings)) ↔
      v.errors ≠ [] := by
  rw [compileScene_of_validate hv]
  cases hpass : v.canCompile with
  | true =>
    have hnone : v.errors = [] := (canCompile_of_validate hv).1 hpass
    rw [if_pos rfl]
    refine iff_of_false ?_ (by rw [hnone]; decide)
    rintro ⟨errors, warnings, h⟩
    obtain ⟨prompt, -, hanswer⟩ := map_eq_ok_iff.1 h
    cases hanswer
  | false =>
    have hsome : v.errors ≠ [] := by
      intro hnone
      rw [(canCompile_of_validate hv).2 hnone] at hpass
      cases hpass
    rw [if_neg (by decide)]
    exact iff_of_true ⟨v.errors, v.warnings, rfl⟩ hsome

/-- A scene that nothing stops gets its prompt if its layout exists. -/
theorem compileScene_eq_ok_iff {v : Validation} (hv : validate rules s = .ok v)
    (hnone : v.errors = []) (mode : String) :
    (∃ prompt warnings, compileScene rules mode s = .ok (.ok prompt warnings)) ↔
      mode ∈ Layout.names := by
  rw [compileScene_of_validate hv, if_pos ((canCompile_of_validate hv).2 hnone)]
  constructor
  · rintro ⟨prompt, warnings, h⟩
    obtain ⟨text, htext, -⟩ := map_eq_ok_iff.1 h
    by_contra hunknown
    rw [Scene.format_eq_error_iff.2 ⟨hunknown, rfl⟩] at htext
    cases htext
  · intro hknown
    obtain ⟨l, rfl⟩ := Layout.mem_names_iff.1 hknown
    rw [Scene.format_name]
    exact ⟨s.prompt l, v.warnings, rfl⟩

/-- Labelled rules fail with what the first of them raises. -/
theorem validate_eq_raised_iff (hlabelled : ∀ r ∈ rules, r.Labelled) {id text : String} :
    validate rules s = .error (.rule id (.raised text)) ↔ FirstToRaise rules s id text := by
  rw [validate_eq_error_iff]
  constructor
  · rintro ⟨before, r, after, e, rfl, hbefore, he, hfault⟩
    cases hfault
    refine ⟨before, r, after, rfl, ?_, he, rfl⟩
    intro q hq
    exact ((hlabelled q (List.mem_append_left _ hq)).isOk_check_iff s).1 (hbefore q hq)
  · rintro ⟨before, r, after, rfl, hbefore, he, rfl⟩
    refine ⟨before, r, after, .raised text, rfl, ?_, he, rfl⟩
    intro q hq
    exact ((hlabelled q (List.mem_append_left _ hq)).isOk_check_iff s).2 (hbefore q hq)

/-- Labelled rules that raise no text do not fail. -/
theorem exists_validate_of_not_raised (hlabelled : ∀ r ∈ rules, r.Labelled)
    (hsound : ∀ r ∈ rules, ∀ text, r.check s ≠ .error (.raised text)) :
    ∃ v, validate rules s = .ok v := by
  have hok : ∀ r ∈ rules, (r.check s).isOk = true := by
    intro r hr
    exact ((hlabelled r hr).isOk_check_iff s).2 (hsound r hr)
  exact ⟨_, validate_eq_ok_iff.2 ⟨hok, rfl⟩⟩

/-- The faults of a run are faults of rules. -/
theorem exists_rule_of_validate_error (h : validate rules s = .error fault) :
    ∃ id e, .rule id e = fault := by
  obtain ⟨r, -, e, -, hfault⟩ := exists_mem_of_validate_error h
  exact ⟨r.id, e, hfault⟩

end steps

/-! ## All of them one after another -/

section compile

variable {rules : List Rule} {defaultMode : String} {mode : Option String} {raw : Json}

/-- Input that cannot be read is reported as such, and nothing else is. -/
theorem compile_eq_malformed_iff {cause : MalformedScene} :
    compile rules defaultMode mode raw = .error (.malformed cause) ↔
      Scene.ofRaw raw = .error cause := by
  cases hs : Scene.ofRaw raw with
  | error first =>
    have hcompile : compile rules defaultMode mode raw = .error (.malformed first) := by
      unfold compile
      rw [hs]
      rfl
    rw [hcompile]
    simp
  | ok s =>
    -- once the input was read, no fault of a later step is one of reading
    rw [compile_eq_compileScene hs, compileScene_eq_error_iff]
    refine iff_of_false ?_ (by simp)
    rintro (hrules | ⟨v, -, -, -, hmode⟩)
    · obtain ⟨id, e, hrule⟩ := exists_rule_of_validate_error hrules
      cases hrule
    · cases hmode

/-- The rules come next: a scene that was read has the faults that they have. -/
theorem compile_eq_rule_iff {s : Scene} (hs : Scene.ofRaw raw = .ok s) {id : String}
    {e : RuleFault} :
    compile rules defaultMode mode raw = .error (.rule id e) ↔
      validate rules s = .error (.rule id e) := by
  rw [compile_eq_compileScene hs, compileScene_eq_error_iff]
  constructor
  · rintro (hrules | ⟨v, -, -, -, hmode⟩)
    · exact hrules
    · cases hmode
  · exact Or.inl

/-- A layout that does not exist is reported of scenes that nothing stops. -/
theorem compile_eq_unknownMode_iff {s : Scene} {v : Validation} (hs : Scene.ofRaw raw = .ok s)
    (hv : validate rules s = .ok v) (hnone : v.errors = []) {name : String} :
    compile rules defaultMode mode raw = .error (.unknownMode name) ↔
      effectiveMode defaultMode mode = name ∧ name ∉ Layout.names := by
  rw [compile_eq_compileScene hs, compileScene_eq_error_iff, hv]
  constructor
  · rintro (hrules | ⟨v', -, -, hunknown, hname⟩)
    · cases hrules
    · cases hname
      exact ⟨rfl, hunknown⟩
  · rintro ⟨rfl, hunknown⟩
    exact Or.inr ⟨v, rfl, (canCompile_of_validate hv).2 hnone, hunknown, rfl⟩

/-- In a layout that exists, and with labelled rules, every fault is a defect. -/
theorem isDefect_of_compile {fault : Fault} (hlabelled : ∀ r ∈ rules, r.Labelled)
    (hmode : effectiveMode defaultMode mode ∈ Layout.names)
    (h : compile rules defaultMode mode raw = .error fault) : fault.IsDefect := by
  cases hs : Scene.ofRaw raw with
  | error cause =>
    rw [compile_eq_malformed_iff.2 hs] at h
    cases h
    exact trivial
  | ok s =>
    rw [compile_eq_compileScene hs, compileScene_eq_error_iff] at h
    rcases h with hrules | ⟨v, -, -, hunknown, -⟩
    · -- the rule that failed is one of the table, so what it did was raise a text
      obtain ⟨r, hr, e, he, rfl⟩ := exists_mem_of_validate_error hrules
      cases e with
      | raised text => exact trivial
      | mislabelled vs => exact absurd he (hlabelled r hr s vs)
    · exact absurd hmode hunknown

end compile

/-- **The first fault is the one reported.**  Whatever the table, the layouts and the input are, a
    compile reports input that cannot be read; of what is read, if a rule raises a text, the first
    one that does, with its identifier and its text, and be it a text of the reader; if none does,
    it stops the scene if and only if a hard rule has something to say, in whatever layout; and if
    none has, it reports the name of the layout that is wanted if and only if there is none of it,
    and else gives a prompt.  As long as both names are known every fault is a defect. -/
theorem compile_reports_first_fault (rules : List Rule) (hlabelled : ∀ r ∈ rules, r.Labelled)
    (defaultMode : String) (mode : Option String) (raw : Json) :
    (∀ cause, compile rules defaultMode mode raw = .error (.malformed cause) ↔
      Scene.ofRaw raw = .error cause) ∧
    (∀ s, Scene.ofRaw raw = .ok s →
      (∀ id text, compile rules defaultMode mode raw = .error (.rule id (.raised text)) ↔
        FirstToRaise rules s id text) ∧
      ((∃ r ∈ rules, ∃ text, r.check s = .error (.raised text)) →
        ∃ id text, FirstToRaise rules s id text ∧
          compile rules defaultMode mode raw = .error (.rule id (.raised text))) ∧
      (∀ before r after compute cause, rules = before ++ r :: after →
        (∀ q ∈ before, ∀ text, q.check s ≠ .error (.raised text)) →
        r.check = Rule.lettingThrough compute → compute s = .error (.malformed cause) →
        compile rules defaultMode mode raw = .error (.rule r.id (.raised cause.message))) ∧
      ((∀ r ∈ rules, ∀ text, r.check s ≠ .error (.raised text)) →
        ((∃ errors warnings,
            compile rules defaultMode mode raw = .ok (.blocked errors warnings)) ↔
          ∃ r ∈ rules, r.severity = .hard ∧ ∃ m ms, r.check s = .ok (m :: ms)) ∧
        ((∀ r ∈ rules, r.severity = .hard → r.check s = .ok []) →
          ∀ name, Wanted defaultMode mode name →
            (∀ other, compile rules defaultMode mode raw = .error (.unknownMode other) ↔
              name = other ∧ ¬ (other = "compact" ∨ other = "expanded")) ∧
            ((∃ prompt warnings,
                compile rules defaultMode mode raw = .ok (.ok prompt warnings)) ↔
              name = "compact" ∨ name = "expanded")))) ∧
    (defaultMode ∈ Layout.names → (∀ name, mode = some name → name = "" ∨ name ∈ Layout.names) →
      ∀ fault, compile rules defaultMode mode raw = .error fault → fault.IsDefect) := by
  have hnames : ∀ name, name ∈ Layout.names ↔ name = "compact" ∨ name = "expanded" := by
    intro name
    exact List.mem_pair
  refine ⟨fun cause => compile_eq_malformed_iff, ?_, ?_⟩
  · intro s hs
    have hraised : ∀ id text, compile rules defaultMode mode raw =
        .error (.rule id (.raised text)) ↔ FirstToRaise rules s id text := by
      intro id text
      rw [compile_eq_rule_iff hs, validate_eq_raised_iff hlabelled]
    refine ⟨hraised, ?_, ?_, ?_⟩
    · intro hraises
      obtain ⟨id, text, hfirst⟩ := exists_firstToRaise hraises
      exact ⟨id, text, hfirst, (hraised id text).2 hfirst⟩
    · intro before r after compute cause hsplit hbefore hcheck hcause
      refine (hraised r.id cause.message).2 ⟨before, r, after, hsplit, hbefore, ?_, rfl⟩
      -- what the computation failed with is kept as a text
      rw [hcheck, Rule.lettingThrough, hcause]
      rfl
    · intro hsound
      obtain ⟨v, hv⟩ := exists_validate_of_not_raised hlabelled hsound
      refine ⟨?_, ?_⟩
      · rw [compile_eq_compileScene hs, compileScene_eq_blocked_iff hv, errors_ne_nil_iff hv]
      · intro hsilent name hwanted
        -- no hard rule has anything to say, so only the layout is left to go wrong
        have hnone := errors_eq_nil_of_silent hv hsilent
        have hname := wanted_iff.1 hwanted
        refine ⟨?_, ?_⟩
        · intro other
          rw [compile_eq_unknownMode_iff hs hv hnone, hname, hnames]
        · rw [compile_eq_compileScene hs, hname, compileScene_eq_ok_iff hv hnone, hnames]
  · intro hdefault hmode fault hfault
    exact isDefect_of_compile hlabelled ((wanted_iff.2 rfl).mem_names hdefault hmode) hfault

/-- Takes a number for a scene and has nothing to say about it. -/
def misreading (_ : Scene) : Except Fault (List String) :=
  ((Scene.ofRaw (.int 3)).mapError .malformed).map fun _ => []

/-- A rule that lets through what the reader says to that. -/
def echoRule : Rule :=
  { id := "echo", severity := .soft, field := .cast, check := Rule.lettingThrough misreading }

/-- A hard rule with something to say, one that breaks, and another that would. -/
def stormTable : List Rule :=
  toneTable "hard" (.ok ["Too dark."]) ++ echoRule :: toneTable "soft" (.error "no light")

/-- With each thing put right the next one is reported: a number in place of a scene, the echo of
    one, the hard finding, and last the missing layout. -/
theorem storm_reported_in_order :
    compile stormTable "verse" (some "poem") (.int 3) = .error (.malformed (.notObject .whole)) ∧
    compile stormTable "verse" (some "poem") dusk =
      .error (.rule "echo" (.raised "Scene input must be a mapping, got int")) ∧
    (∃ errors warnings,
      compile (toneTable "hard" (.ok ["Too dark."])) "verse" (some "poem") dusk =
        .ok (.blocked errors warnings)) ∧
    (compile (toneTable "soft" (.ok ["Too dark."])) "verse" (some "") dusk =
        .error (.unknownMode "verse") ∧
      ¬ (Fault.unknownMode "verse").IsDefect) ∧
    (∃ prompt warnings, compile (toneTable "soft" (.ok ["Too dark."])) "expanded" none dusk =
      .ok (.ok prompt warnings)) ∧
    ∀ fault, compile stormTable "compact" (some "") dusk = .error fault → fault.IsDefect := by
  have htone : ∀ severity outcome, severity = "hard" ∨ severity = "soft" →
      ∀ r ∈ toneTable severity outcome, r.Labelled := by
    intro severity outcome hseverity r hr
    obtain rfl := List.mem_singleton.1 hr
    rcases hseverity with rfl | rfl
    · exact Rule.labelled_declared rfl outcome
    · exact Rule.labelled_declared rfl outcome
  have hstorm : ∀ r ∈ stormTable, r.Labelled := by
    intro r hr
    rcases List.mem_append.1 hr with hr | hr
    · exact htone "hard" _ (Or.inl rfl) r hr
    · rcases List.mem_cons.1 hr with rfl | hr
      · exact Rule.labelled_of_lettingThrough misreading rfl
      · exact htone "soft" _ (Or.inr rfl) r hr
  have hsound : ∀ severity, severity = "hard" ∨ severity = "soft" →
      ∀ r ∈ toneTable severity (.ok ["Too dark."]), ∀ s text,
        r.check s ≠ .error (.raised text) := by
    intro severity hseverity r hr s text hraised
    obtain rfl := List.mem_singleton.1 hr
    rcases hseverity with rfl | rfl
    · cases hraised
    · cases hraised
  have hsilent : ∀ r ∈ toneTable "soft" (.ok ["Too dark."]), ∀ s,
      r.severity = .hard → r.check s = .ok [] := by
    intro r hr s hhard
    obtain rfl := List.mem_singleton.1 hr
    cases hhard
  obtain ⟨s, hs⟩ : ∃ s, Scene.ofRaw dusk = .ok s := ⟨_, rfl⟩
  refine ⟨?_, ?_, ?_, ⟨?_, fun h => h⟩, ?_, ?_⟩
  · obtain ⟨hmalformed, -, -⟩ :=
      compile_reports_first_fault stormTable hstorm "verse" (some "poem") (.int 3)
    exact (hmalformed _).2 rfl
  · obtain ⟨-, hread, -⟩ :=
      compile_reports_first_fault stormTable hstorm "verse" (some "poem") dusk
    obtain ⟨-, -, hechoed, -⟩ := hread s hs
    exact hechoed (toneTable "hard" (.ok ["Too dark."])) echoRule _ misreading _ rfl
      (fun q hq text => hsound "hard" (Or.inl rfl) q hq s text) rfl rfl
  · obtain ⟨-, hread, -⟩ := compile_reports_first_fault (toneTable "hard" (.ok ["Too dark."]))
      (htone "hard" _ (Or.inl rfl)) "verse" (some "poem") dusk
    obtain ⟨-, -, -, hstopped⟩ := hread s hs
    obtain ⟨hblocked, -⟩ := hstopped fun r hr text => hsound "hard" (Or.inl rfl) r hr s text
    exact hblocked.2 ⟨_, List.mem_singleton_self _, rfl, "Too dark.", [], rfl⟩
  · obtain ⟨-, hread, -⟩ := compile_reports_first_fault (toneTable "soft" (.ok ["Too dark."]))
      (htone "soft" _ (Or.inr rfl)) "verse" (some "") dusk
    obtain ⟨-, -, -, hstopped⟩ := hread s hs
    obtain ⟨-, hpassed⟩ := hstopped fun r hr text => hsound "soft" (Or.inr rfl) r hr s text
    obtain ⟨hunknown, -⟩ := hpassed (fun r hr => hsilent r hr s) "verse" .nameless
    exact (hunknown "verse").2 ⟨rfl, by decide⟩
  · obtain ⟨-, hread, -⟩ := compile_reports_first_fault (toneTable "soft" (.ok ["Too dark."]))
      (htone "soft" _ (Or.inr rfl)) "expanded" none dusk
    obtain ⟨-, -, -, hstopped⟩ := hread s hs
    obtain ⟨-, hpassed⟩ := hstopped fun r hr text => hsound "soft" (Or.inr rfl) r hr s text
    obtain ⟨-, hprompt⟩ := hpassed (fun r hr => hsilent r hr s) "expanded" .unasked
    exact hprompt.2 (Or.inr rfl)
  · obtain ⟨-, -, hdefect⟩ :=
      compile_reports_first_fault stormTable hstorm "compact" (some "") dusk
    exact hdefect (by decide) fun name hname => Or.inl (Option.some.inj hname).symm

end ScenePrompt
