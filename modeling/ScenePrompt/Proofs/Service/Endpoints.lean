/-
  The two endpoints for scenes, and why they answer alike.

  A scene may be sent to be validated, as the whole body of a request, or to be compiled, as one
  entry of the body beside the layout that is wanted.  On both ways it is held against the schema
  of drafts, the draft is written out and read, and the same table is run over the scene.  What
  comes of it depends on the body alone and on the rules, and three things may happen:

  1. the body is REFUSED (`Refused`): it is no draft, or a draft whose framing or lens is no known
     name.  The answer has status 422.
  2. the scene is read and a rule BREAKS on it (`Breaks`).  The answer has status 500 and is
     always the same one, so that nobody learns which rule broke and why.
  3. otherwise the answer has status 200 and tells what was found.

  Just one of them is the case (`refused_or_readsAs`, `not_refused_of_readsAs`,
  `Rule.validate_or_breaks`), so it is enough to find in each of them two answers of the right
  sort (`AnswerAlike.of_refused`, `AnswerAlike.of_breaks`, `AnswerAlike.of_sameFindings`).  A
  layout plays no part: the request names one that exists or leaves it to the default, which
  exists as well.

  A rule that was declared with labels that no finding can carry fails in a way of its own, which
  is nobody's answer; here all rules are `Labelled`.  Of the built-in rules none breaks on a scene
  that was read, so with them only the statuses 200 and 422 are left.
-/
import ScenePrompt.Proofs.Compile.Gate
import ScenePrompt.Proofs.Rule.Failure
import ScenePrompt.Proofs.Scene.Draft
import ScenePrompt.Schema.Result
import ScenePrompt.Service

namespace ScenePrompt

open Schema Checked Outcome

/-! ## Requests -/

/-- A request that posts a body to a route. -/
def Request.post (route : Route) (body : Option Json) : Request :=
  { method := "POST", path := route.path, body }

/-- Each route is found again under its own path. -/
theorem Route.ofPath?_path (route : Route) : ofPath? route.path = some route := by
  cases route <;> decide +kernel

theorem Service.respond_post_validate (svc : Service) (body : Option Json) :
    svc.respond (.post .validate body) = svc.validateBody body := by
  have hroute : Route.ofPath? (Request.post .validate body).path = some .validate :=
    Route.ofPath?_path .validate
  unfold respond
  rw [hroute]
  rfl

theorem Service.respond_post_compile (svc : Service) (body : Option Json) :
    svc.respond (.post .compile body) = svc.compileBody body := by
  have hroute : Route.ofPath? (Request.post .compile body).path = some .compile :=
    Route.ofPath?_path .compile
  unfold respond
  rw [hroute]
  rfl

section withBody

variable {α : Type} {check : Check α} {go : α → Except Fault Response} {v : Json}

/-- A body that fits its schema is answered by what follows. -/
theorem Service.withBody_of_ok {a : α} (h : check v = .ok a) :
    withBody check (some v) go = go a := by
  unfold withBody
  simp only [h]

/-- A body that does not is answered with its violations. -/
theorem Service.withBody_of_error {vs : List Violation} (h : check v = .error vs) :
    withBody check (some v) go = .ok (.ofViolations vs) := by
  unfold withBody
  simp only [h]

/-- What holds of every complaint about a body, and of every answer that follows if the body fits,
    holds of the answer. -/
theorem Service.exists_withBody {P : Response → Prop}
    (hcomplaint : ∀ vs, P (.ofViolations vs)) {body : Option Json}
    (hgo : ∀ v a, body = some v → check v = .ok a → ∃ r, go a = .ok r ∧ P r) :
    ∃ r, withBody check body go = .ok r ∧ P r := by
  cases body with
  -- no body at all is complained about like one that does not fit
  | none => exact ⟨.ofViolations [{ cause := .missing }], rfl, hcomplaint _⟩
  | some v =>
    cases hcheck : check v with
    | error vs => exact ⟨.ofViolations vs, withBody_of_error hcheck, hcomplaint vs⟩
    | ok a =>
      rw [withBody_of_ok hcheck]
      exact hgo v a rfl hcheck

end withBody

/-- The object asks to compile `v`, in a layout that exists or in none. -/
structure CompileRequest.AsksFor (v : Json) (es : Entries) : Prop where
  scene_eq : Entries.get? es "scene" = some v
  mode_eq : ∀ key ∈ ["output_mode", "outputMode"], ∀ mode, Entries.get? es key = some mode →
    mode = .null ∨ mode = .str "compact" ∨ mode = .str "expanded"

/-- An optional entry is let through if each of its spellings is absent or let through. -/
theorem Schema.exists_optionalEntry_of_forall {α : Type} {es : Entries} {spellings : List String}
    {default : α} {check : Check α}
    (h : ∀ key ∈ spellings, ∀ v, Entries.get? es key = some v → ∃ a, check v = .ok a) :
    ∃ a, optionalEntry es spellings default check = .ok a := by
  unfold optionalEntry
  induction spellings with
  | nil => exact ⟨default, rfl⟩
  | cons key spellings ih =>
    obtain ⟨hkey, hrest⟩ := List.forall_mem_cons.1 h
    -- the first spelling that is present decides, so go through them in order
    unfold Entries.firstPresent?
    cases hfound : Entries.get? es key with
    | none => exact ih hrest
    | some v =>
      obtain ⟨a, ha⟩ := hkey v hfound
      exact ⟨a, under_eq_ok_iff.2 ha⟩

/-- Such an object is a request if and only if `v` is a draft, and what is wrong with it is what is
    wrong with `v`. -/
theorem CompileRequest.check_of_asksFor (style : ObjectStyle) {v : Json} {es : Entries}
    (h : AsksFor v es) :
    ∃ mode, check style (.obj es) =
      ((SceneDraft.check style v).under (.key "scene")).map fun d => ⟨d, mode⟩ := by
  have hmodes : ∀ key ∈ ["output_mode", "outputMode"], ∀ mode, Entries.get? es key = some mode →
      ∃ layout, nullable (oneOf Layout.named) mode = .ok layout := by
    intro key hkey mode hmode
    rcases h.mode_eq key hkey mode hmode with rfl | rfl | rfl
    · exact ⟨none, rfl⟩
    · exact ⟨some .compact, rfl⟩
    · exact ⟨some .expanded, rfl⟩
  obtain ⟨mode, hmode⟩ := exists_optionalEntry_of_forall hmodes
  have hscene : optionalEntry es ["scene"] {} (SceneDraft.check style) =
      (SceneDraft.check style v).under (.key "scene") := by
    unfold optionalEntry Entries.firstPresent?
    rw [h.scene_eq]
  refine ⟨mode, ?_⟩
  show ap ((optionalEntry es ["scene"] {} (SceneDraft.check style)).map CompileRequest.mk)
    (optionalEntry es _ none _) = _
  rw [hscene, hmode]
  -- the layout is let through, so only what is wrong with `v` is left
  cases SceneDraft.check style v <;> rfl

/-- The layout of a request exists, because its default does. -/
theorem CompileRequest.exists_layout (request : CompileRequest) {defaultMode : String}
    (hdefault : defaultMode ∈ Layout.names) :
    ∃ l : Layout, effectiveMode defaultMode request.modeName = l.name := by
  have hmode : ∀ m, request.modeName = some m → m ∈ Layout.names := by
    intro m hm
    obtain ⟨l, -, rfl⟩ := Option.map_eq_some_iff.1 hm
    exact Layout.mem_names_iff.2 ⟨l, rfl⟩
  obtain ⟨l, hl⟩ := Layout.mem_names_iff.1 (effectiveMode_mem_names hdefault hmode)
  exact ⟨l, hl.symm⟩

/-! ## What becomes of a body -/

/-- The body is refused: it is no draft, or its framing or its lens is no known name. -/
def Refused (v : Json) : Prop :=
  (∀ d, SceneDraft.check .attributes v ≠ .ok d) ∨
    ∃ d, SceneDraft.check .attributes v = .ok d ∧ ¬ d.ChoicesKnown

/-- The body is read as the scene, by way of a draft. -/
def ReadsAs (v : Json) (s : Scene) : Prop :=
  ∃ d, SceneDraft.check .attributes v = .ok d ∧ Scene.ofRaw d.toJson = .ok s

/-- A rule raises a text on the scene that the body is read as. -/
def Breaks (rules : List Rule) (v : Json) : Prop :=
  ∃ s, ReadsAs v s ∧ ∃ r ∈ rules, ∃ text, r.check s = .error (.raised text)

section bodies

variable {v : Json} {s s' : Scene} {d : SceneDraft}

/-- A body is read as one scene at most: neither holding it against the schema nor reading the draft
    leaves a choice. -/
theorem ReadsAs.unique (h : ReadsAs v s) (h' : ReadsAs v s') : s = s' := by
  obtain ⟨d, hd, hs⟩ := h
  obtain ⟨d', hd', hs'⟩ := h'
  obtain rfl : d = d' := Except.ok.inj (hd.symm.trans hd')
  exact Except.ok.inj (hs.symm.trans hs')

/-- What is read is not refused.  The draft was read, so its framing and its lens are known. -/
theorem not_refused_of_readsAs (h : ReadsAs v s) : ¬ Refused v := by
  obtain ⟨d, hd, hs⟩ := h
  rintro (hnone | ⟨d', hd', hunknown⟩)
  · exact hnone d hd
  · obtain rfl : d = d' := Except.ok.inj (hd.symm.trans hd')
    exact hunknown (d.exists_ofRaw_iff.1 ⟨s, hs⟩)

/-- A body that is refused may be a draft, but not one that can be read. -/
theorem Refused.malformed (h : Refused v) (hd : SceneDraft.check .attributes v = .ok d) :
    ∃ cause, Scene.ofRaw d.toJson = .error cause := by
  cases hs : Scene.ofRaw d.toJson with
  | error cause => exact ⟨cause, rfl⟩
  | ok s => exact absurd h (not_refused_of_readsAs ⟨d, hd, hs⟩)

/-- A body is refused or read, and there is nothing else: a draft whose framing and lens are known
    can always be read. -/
theorem refused_or_readsAs (v : Json) : Refused v ∨ ∃ s, ReadsAs v s := by
  cases hd : SceneDraft.check .attributes v with
  | error vs =>
    refine Or.inl (Or.inl fun d h => ?_)
    rw [hd] at h
    cases h
  | ok d =>
    -- a draft: its two choices decide
    by_cases hknown : d.ChoicesKnown
    · obtain ⟨s, hs⟩ := d.exists_ofRaw_iff.2 hknown
      exact Or.inr ⟨s, d, hd, hs⟩
    · exact Or.inl (Or.inr ⟨d, hd, hknown⟩)

/-- A rule breaks on scenes only, so a body on which one breaks was not refused. -/
theorem not_refused_of_breaks {rules : List Rule} (h : Breaks rules v) : ¬ Refused v := by
  obtain ⟨s, hs, -⟩ := h
  exact not_refused_of_readsAs hs

/-- On a body that was read it is the scene that decides whether a rule breaks. -/
theorem breaks_iff_of_readsAs {rules : List Rule} (h : ReadsAs v s) :
    Breaks rules v ↔ ∃ r ∈ rules, ∃ text, r.check s = .error (.raised text) := by
  constructor
  · rintro ⟨s', hs', hraised⟩
    rwa [h.unique hs']
  · intro hraised
    exact ⟨s, h, hraised⟩

end bodies

/-! ## Running the rules -/

/-- Labelled rules give a validation, or one of them raises a text. -/
theorem Rule.validate_or_breaks {rules : List Rule} (hlabelled : ∀ r ∈ rules, r.Labelled)
    (s : Scene) :
    (∃ v, validate rules s = .ok v ∧
      ¬ ∃ r ∈ rules, ∃ text, r.check s = .error (.raised text)) ∨
    ∃ id text, validate rules s = .error (.rule id (.raised text)) ∧
      ∃ r ∈ rules, ∃ text, r.check s = .error (.raised text) := by
  cases h : validate rules s with
  | ok v =>
    refine Or.inl ⟨v, rfl, ?_⟩
    rintro ⟨r, hr, text, hraised⟩
    obtain ⟨fault, hfault⟩ := exists_validate_error hr hraised
    rw [h] at hfault
    cases hfault
  | error fault =>
    obtain ⟨r, hr, e, he, rfl⟩ := exists_mem_of_validate_error h
    cases e with
    | raised text => exact Or.inr ⟨r.id, text, rfl, r, hr, text, he⟩
    -- labelled rules do not fail in this way
    | mislabelled vs => exact absurd he (hlabelled r hr s vs)

/-! ## The two answers -/

/-- The answer to whatever broke a rule. -/
def Response.broken : Response := detail 500 (.str "Internal compiler error")

/-- What an answer lists under a key.  An answer without that key lists nothing: a prompt comes
    without errors. -/
def Response.listed (r : Response) (key : String) : List Json := (r.body.part key).items

/-- A finding, as an answer tells it, is of the severity of this name. -/
def Json.isOfSeverity (name : String) (finding : Json) : Bool :=
  match finding.part "severity" with
  | .str severity => severity == name
  | _ => false

/-- Both answers tell the same findings.  One is a validation and the other the answer to a compile,
    each read back by its own schema, and the second is a prompt exactly if the flag of the first
    says so.  What they tell is compared as it stands in the two bodies: the errors and the warnings
    of the one are the hard and the soft ones among the diagnostics of the other, in their order. -/
structure SameFindings (judged compiled : Response) : Prop where
  judged_told : ∃ v : Validation, judged = { status := 200, body := v.toJson } ∧
    Validation.check judged.body = .ok v
  compiled_told : ∃ result : CompileResult, compiled = { status := 200, body := result.toJson } ∧
    CompileResult.check compiled.body = .ok result
  passes_iff : Entries.get? judged.body.entries "can_compile" = some (.bool true) ↔
    Entries.get? compiled.body.entries "status" = some (.str "ok")
  errors_eq : compiled.listed "errors" =
    (judged.listed "diagnostics").filter (Json.isOfSeverity "hard")
  warnings_eq : compiled.listed "warnings" =
    (judged.listed "diagnostics").filter (Json.isOfSeverity "soft")

/-- The answers to a validation and to a compile of the same body are alike. -/
structure AnswerAlike (rules : List Rule) (v : Json) (judged compiled : Response) : Prop where
  judged_refused : judged.status = 422 ↔ Refused v
  compiled_refused : compiled.status = 422 ↔ Refused v
  judged_broken : judged.status = 500 ↔ Breaks rules v
  compiled_broken : compiled.status = 500 ↔ Breaks rules v
  broken : Breaks rules v → judged = .broken ∧ compiled = .broken
  sameFindings : ¬ Refused v → ¬ Breaks rules v → SameFindings judged compiled

namespace AnswerAlike

variable {rules : List Rule} {v : Json} {judged compiled : Response}

/-- Two answers of status 422 are alike if the body is refused.  The other two cases do not
    arise. -/
theorem of_refused (h : Refused v) (hjudged : judged.status = 422)
    (hcompiled : compiled.status = 422) : AnswerAlike rules v judged compiled := by
  have hsound : ¬ Breaks rules v := fun hbreaks => not_refused_of_breaks hbreaks h
  refine ⟨iff_of_true hjudged h, iff_of_true hcompiled h, ?_, ?_, ?_, ?_⟩
  · exact iff_of_false (by omega) hsound
  · exact iff_of_false (by omega) hsound
  · exact fun hbreaks => absurd hbreaks hsound
  · exact fun hread => absurd h hread

theorem of_breaks (h : Breaks rules v) : AnswerAlike rules v .broken .broken := by
  have hread : ¬ Refused v := not_refused_of_breaks h
  have hstatus : Response.broken.status = 500 := rfl
  refine ⟨iff_of_false (by omega) hread, iff_of_false (by omega) hread, ?_, ?_, ?_, ?_⟩
  · exact iff_of_true hstatus h
  · exact iff_of_true hstatus h
  · exact fun _ => ⟨rfl, rfl⟩
  · exact fun _ hsound => absurd h hsound

/-- Two answers that tell the same findings are alike, if the body was read and no rule broke.
    Their status is 200, so neither is that of a refusal or of a broken rule. -/
theorem of_sameFindings (hread : ¬ Refused v) (hsound : ¬ Breaks rules v)
    (h : SameFindings judged compiled) : AnswerAlike rules v judged compiled := by
  obtain ⟨hjudged, hcompiled⟩ : judged.status = 200 ∧ compiled.status = 200 := by
    obtain ⟨⟨findings, rfl, -⟩, ⟨result, rfl, -⟩, -⟩ := h
    exact ⟨rfl, rfl⟩
  refine ⟨iff_of_false (by omega) hread, iff_of_false (by omega) hread, ?_, ?_, ?_, ?_⟩
  · exact iff_of_false (by omega) hsound
  · exact iff_of_false (by omega) hsound
  · exact fun hbreaks => absurd hbreaks hsound
  · exact fun _ _ => h

end AnswerAlike

/-- The findings of one severity, among findings that are written out, are those of this severity,
    written out. -/
theorem Diagnostic.filter_isOfSeverity_toJson (severity : Severity) (ds : List Diagnostic) :
    (ds.map toJson).filter (Json.isOfSeverity severity.name) =
      (ds.filter (·.severity = severity)).map toJson := by
  rw [List.filter_map]
  refine congrArg _ (List.filter_congr fun d _ => ?_)
  -- what the object says of its severity is the name of the severity
  show (d.severity.name == severity.name) = decide (d.severity = severity)
  cases d.severity <;> cases severity <;> decide

/-- The findings of a run are told alike by the validation and by the answer made of it. -/
theorem sameFindings_answer {rules : List Rule} {s : Scene} {v : Validation}
    (h : validate rules s = .ok v) (prompt : String) :
    SameFindings { status := 200, body := v.toJson }
      { status := 200, body := (v.answer prompt).toJson } := by
  have hflag : Entries.get? v.toJson.entries "can_compile" = some (.bool v.canCompile) := rfl
  have hlisted : Response.listed { status := 200, body := v.toJson } "diagnostics" =
      v.diagnostics.map Diagnostic.toJson := rfl
  refine ⟨⟨v, rfl, v.check_toJson⟩, ⟨v.answer prompt, rfl, (v.answer prompt).check_toJson⟩, ?_, ?_,
    ?_⟩
  · rw [hflag]
    unfold Validation.answer
    cases v.canCompile with
    | true => exact iff_of_true rfl rfl
    | false =>
      refine iff_of_false (fun h => by cases h) ?_
      show ¬ some (Json.str "blocked") = some (.str "ok")
      simp
  · rw [hlisted]
    refine Eq.trans ?_ (Diagnostic.filter_isOfSeverity_toJson .hard v.diagnostics).symm
    unfold Validation.answer
    cases hpass : v.canCompile with
    | true =>
      have hnone : v.diagnostics.filter (·.severity = .hard) = [] :=
        (canCompile_of_validate h).1 hpass
      rw [hnone]
      rfl
    | false => rfl
  · rw [hlisted]
    refine Eq.trans ?_ (Diagnostic.filter_isOfSeverity_toJson .soft v.diagnostics).symm
    unfold Validation.answer
    cases v.canCompile <;> rfl

section answers

variable {svc : Service} {v : Json} {es : Entries} {s : Scene}

/-- A body that is refused is not validated.  It may be no draft, or a draft that cannot be read;
    the answers differ in what they complain about and not in their status. -/
theorem Service.validateBody_of_refused (h : Refused v) :
    ∃ r, svc.validateBody (some v) = .ok r ∧ r.status = 422 := by
  refine exists_withBody (fun _ => rfl) ?_
  intro body d hbody hd
  cases hbody
  -- a draft that is refused is malformed as a scene, which has the status of a complaint as well
  obtain ⟨cause, hs⟩ := h.malformed hd
  refine ⟨.detail 422 (.str cause.message), ?_, rfl⟩
  rw [validateRaw, hs]
  rfl

/-- Nor is it compiled, whichever layout was asked for. -/
theorem Service.compileBody_of_refused (h : Refused v) (hasks : CompileRequest.AsksFor v es) :
    ∃ r, svc.compileBody (some (.obj es)) = .ok r ∧ r.status = 422 := by
  obtain ⟨mode, hcheck⟩ := CompileRequest.check_of_asksFor .attributes hasks
  refine exists_withBody (fun _ => rfl) ?_
  intro body request hbody hrequest
  cases hbody
  rw [hcheck] at hrequest
  obtain ⟨d, hd, rfl⟩ := map_eq_ok_iff.1 hrequest
  obtain ⟨cause, hs⟩ := h.malformed (under_eq_ok_iff.1 hd)
  refine ⟨.detail 422 (.str cause.message), ?_, rfl⟩
  rw [compile, hs]
  rfl

/-- A body that is read is validated as the scene is. -/
theorem Service.validateBody_of_readsAs (h : ReadsAs v s) :
    svc.validateBody (some v) = Response.ofResult Validation.toJson (validate svc.rules s) := by
  obtain ⟨d, hd, hs⟩ := h
  unfold validateBody
  rw [withBody_of_ok hd, validateRaw_of_ofRaw hs]

/-- It is compiled as the scene is, in some layout. -/
theorem Service.compileBody_of_readsAs (h : ReadsAs v s) (hasks : CompileRequest.AsksFor v es)
    (hdefault : svc.settings.defaultOutputMode ∈ Layout.names) :
    ∃ l : Layout, svc.compileBody (some (.obj es)) = Response.ofResult CompileResult.toJson
      ((validate svc.rules s).map fun findings => findings.answer (s.prompt l)) := by
  obtain ⟨d, hd, hs⟩ := h
  obtain ⟨mode, hrequest⟩ := CompileRequest.check_of_asksFor .attributes hasks
  rw [hd] at hrequest
  obtain ⟨l, hl⟩ := (CompileRequest.mk d mode).exists_layout hdefault
  refine ⟨l, ?_⟩
  unfold compileBody
  rw [withBody_of_ok hrequest, compile_of_ofRaw hs hl]

/-- What the two endpoints answer to the same body is alike. -/
theorem exists_answerAlike (hlabelled : ∀ r ∈ svc.rules, r.Labelled)
    (hdefault : svc.settings.defaultOutputMode ∈ Layout.names)
    (hasks : CompileRequest.AsksFor v es) :
    ∃ judged compiled, svc.validateBody (some v) = .ok judged ∧
      svc.compileBody (some (.obj es)) = .ok compiled ∧
      AnswerAlike svc.rules v judged compiled := by
  -- the three cases: refused; read and judged; read and a rule broke
  rcases refused_or_readsAs v with hrefused | ⟨s, hs⟩
  · obtain ⟨judged, hjudged, hstatus⟩ := svc.validateBody_of_refused hrefused
    obtain ⟨compiled, hcompiled, hstatus'⟩ := svc.compileBody_of_refused hrefused hasks
    exact ⟨judged, compiled, hjudged, hcompiled, .of_refused hrefused hstatus hstatus'⟩
  · obtain ⟨l, hcompile⟩ := svc.compileBody_of_readsAs hs hasks hdefault
    have hvalidate := svc.validateBody_of_readsAs hs
    rcases Rule.validate_or_breaks hlabelled s with
      ⟨findings, hfindings, hsound⟩ | ⟨id, text, hfault, hraised⟩
    · rw [hfindings] at hvalidate hcompile
      refine ⟨_, _, hvalidate, hcompile, ?_⟩
      exact .of_sameFindings (not_refused_of_readsAs hs) (mt (breaks_iff_of_readsAs hs).1 hsound)
        (sameFindings_answer hfindings (s.prompt l))
    · rw [hfault] at hvalidate hcompile
      refine ⟨.broken, .broken, hvalidate, hcompile, ?_⟩
      exact .of_breaks ((breaks_iff_of_readsAs hs).2 hraised)

end answers

/-! ## The built-in rules -/

/-- The service answers, with a result or with a complaint about the body. -/
def Answered (outcome : Except Fault Response) : Prop :=
  ∃ r, outcome = .ok r ∧ (r.status = 200 ∨ r.status = 422)

/-- What can only be malformed is answered. -/
theorem answered_ofResult {α : Type} {toJson : α → Json} {outcome : Except Fault α}
    (h : (∃ a, outcome = .ok a) ∨ ∃ cause, outcome = .error (.malformed cause)) :
    Answered (Response.ofResult toJson outcome) := by
  rcases h with ⟨a, rfl⟩ | ⟨cause, rfl⟩
  · exact ⟨_, rfl, Or.inl rfl⟩
  · exact ⟨_, rfl, Or.inr rfl⟩

section builtIn

variable {svc : Service} {t : Thresholds}

/-- With the built-in rules every body that is sent to be validated is answered. -/
theorem Service.answered_validateBody (hrules : svc.rules = Rule.table t) (body : Option Json) :
    Answered (svc.validateBody body) := by
  refine exists_withBody (fun _ => Or.inr rfl) ?_
  intro v d _ _
  refine answered_ofResult ?_
  rw [hrules]
  exact validateRaw_table t d.toJson

/-- With the built-in rules every request to compile is answered, as long as the default layout
    exists; a layout that is asked for exists by the schema. -/
theorem Service.answered_compileBody (hrules : svc.rules = Rule.table t)
    (hdefault : svc.settings.defaultOutputMode ∈ Layout.names) (body : Option Json) :
    Answered (svc.compileBody body) := by
  refine exists_withBody (fun _ => Or.inr rfl) ?_
  intro v request _ _
  refine answered_ofResult ?_
  obtain ⟨l, hl⟩ := request.exists_layout hdefault
  rw [hrules]
  exact compile_table t (Layout.mem_names_iff.2 ⟨l, hl.symm⟩) request.scene.toJson

end builtIn

/-! ## The endpoints -/

/-- **The two endpoints answer alike.**  Whatever the body is, and whatever labelled rules the
    service judges by, the answers to the body and to a request to compile it have status 422 if
    and only if the body is refused, have status 500 and are the same if and only if a rule breaks
    on the scene, and else tell the same findings.  With the built-in rules every body is answered,
    with status 200 or 422. -/
theorem endpoints_answer_alike :
    (∀ (svc : Service) (v : Json) (es : Entries), (∀ r ∈ svc.rules, r.Labelled) →
      svc.settings.defaultOutputMode ∈ Layout.names → CompileRequest.AsksFor v es →
      ∃ judged compiled, svc.respond (.post .validate (some v)) = .ok judged ∧
        svc.respond (.post .compile (some (.obj es))) = .ok compiled ∧
        AnswerAlike svc.rules v judged compiled) ∧
    ∀ (svc : Service) (t : Thresholds), svc.rules = Rule.table t →
      svc.settings.defaultOutputMode ∈ Layout.names → ∀ body : Option Json,
        Answered (svc.respond (.post .validate body)) ∧
          Answered (svc.respond (.post .compile body)) := by
  refine ⟨?_, ?_⟩
  · intro svc v es hlabelled hdefault hasks
    rw [svc.respond_post_validate, svc.respond_post_compile]
    exact exists_answerAlike hlabelled hdefault hasks
  · intro svc t hrules hdefault body
    rw [svc.respond_post_validate, svc.respond_post_compile]
    exact ⟨svc.answered_validateBody hrules body, svc.answered_compileBody hrules hdefault body⟩

/-- A service with one rule, which says this of every scene or breaks. -/
def toneService (outcome : Except String (List String)) : Service :=
  { rules := toneTable "hard" outcome, listed := [] }

/-- A request to compile the scene with two hearts. -/
def duskRequest : Entries := [("outputMode", .str "expanded"), ("scene", dusk), ("mood", .int 3)]

/-- A request to compile what is a draft, but with a framing that is none. -/
def askewRequest : Entries := [("scene", .obj [("framing", .str " Askew")])]

/-- One scene and a service with one rule: it finds something, it breaks, it does not get as far,
    and the built-in rules complain about the framing. -/
theorem dusk_answered_alike :
    (∃ judged compiled,
      (toneService (.ok ["Too dark."])).respond (.post .validate (some dusk)) = .ok judged ∧
      (toneService (.ok ["Too dark."])).respond (.post .compile (some (.obj duskRequest))) =
        .ok compiled ∧ SameFindings judged compiled) ∧
    ((toneService (.error "no light")).respond (.post .validate (some dusk)) = .ok .broken ∧
      (toneService (.error "no light")).respond (.post .compile (some (.obj duskRequest))) =
        .ok .broken) ∧
    (∃ compiled,
      (toneService (.error "no light")).respond (.post .compile (some (.obj askewRequest))) =
        .ok compiled ∧ compiled.status = 422) ∧
    Answered ((Service.ofSettings {}).respond (.post .compile (some (.obj askewRequest)))) := by
  have hlabelled : ∀ outcome, ∀ r ∈ (toneService outcome).rules, r.Labelled := by
    intro outcome r hr
    obtain rfl := List.mem_singleton.1 hr
    exact Rule.labelled_declared rfl outcome
  have hasks : CompileRequest.AsksFor dusk duskRequest := by
    refine ⟨rfl, ?_⟩
    intro key hkey mode hmode
    rcases List.mem_pair.1 hkey with rfl | rfl
    · cases hmode
    · cases hmode
      exact Or.inr (Or.inr rfl)
  have hasks' : CompileRequest.AsksFor (.obj [("framing", .str " Askew")]) askewRequest := by
    refine ⟨rfl, ?_⟩
    intro key hkey mode hmode
    rcases List.mem_pair.1 hkey with rfl | rfl <;> cases hmode
  obtain ⟨hservice, hbuiltIn⟩ := endpoints_answer_alike
  have hread : ∃ s, ReadsAs dusk s := ⟨_, _, rfl, rfl⟩
  obtain ⟨s, hs⟩ := hread
  refine ⟨?_, ?_, ?_, ?_⟩
  · obtain ⟨judged, compiled, hjudged, hcompiled, halike⟩ :=
      hservice _ dusk duskRequest (hlabelled (.ok ["Too dark."])) (by decide) hasks
    have hsound : ¬ Breaks (toneService (.ok ["Too dark."])).rules dusk := by
      rintro ⟨s, -, r, hr, text, hraised⟩
      obtain rfl := List.mem_singleton.1 hr
      cases hraised
    exact ⟨judged, compiled, hjudged, hcompiled,
      halike.sameFindings (not_refused_of_readsAs hs) hsound⟩
  · obtain ⟨judged, compiled, hjudged, hcompiled, halike⟩ :=
      hservice _ dusk duskRequest (hlabelled (.error "no light")) (by decide) hasks
    have hbreaks : Breaks (toneService (.error "no light")).rules dusk :=
      ⟨s, hs, _, List.mem_singleton_self _, "no light", rfl⟩
    obtain ⟨rfl, rfl⟩ := halike.broken hbreaks
    exact ⟨hjudged, hcompiled⟩
  · obtain ⟨judged, compiled, -, hcompiled, halike⟩ :=
      hservice _ _ askewRequest (hlabelled (.error "no light")) (by decide) hasks'
    have hrefused : Refused (.obj [("framing", .str " Askew")]) := by
      refine Or.inr ⟨_, rfl, fun hknown => ?_⟩
      have hframing := hknown.1 " Askew" rfl
      exact absurd hframing (by decide +kernel)
    exact ⟨compiled, hcompiled, halike.compiled_refused.2 hrefused⟩
  · exact (hbuiltIn (Service.ofSettings {}) {} rfl (by decide) (some (.obj askewRequest))).2

end ScenePrompt
