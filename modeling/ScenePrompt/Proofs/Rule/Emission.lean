/-
  What a rule table emits about a scene.

  Running a table is a loop that may stop in the middle.  Seen from outside it is simpler: the
  findings are the EMISSIONS of the rules one after another, provided that no rule breaks
  (`diagnose_eq_ok_iff`).  A rule's emission is its messages under its own labels, so whether a
  finding is hard is decided by the rule it came from and by nothing it says; the errors of a run
  are what the hard rules emit (`filter_isHard_flatMap_emission`), whatever the soft ones have to
  say.

  Of the built-in table this leaves two rules to look at.  `gateErrors` states what they emit as a
  function of two facts alone, whether there is a heart and how many slots are filled, and
  `filter_isHard_table` says that these are all the hard findings about a scene with five slots.
-/
import ScenePrompt.Proofs.Outcome
import ScenePrompt.Rule.Table
import ScenePrompt.Validation

namespace ScenePrompt

open Outcome

/-! ## Running a table -/

namespace Rule

/-- The messages of a rule about a scene; a rule that breaks has none. -/
def messages (r : Rule) (s : Scene) : List String :=
  match r.check s with
  | .ok ms => ms
  | .error _ => []

/-- The findings that a rule's messages make. -/
def emission (r : Rule) (s : Scene) : List Diagnostic := (r.messages s).map r.diagnostic

/-- What a check gives, under the labels of its rule, is the emission. -/
theorem emission_of_check {r : Rule} {s : Scene} {ms : List String} (h : r.check s = .ok ms) :
    r.emission s = ms.map r.diagnostic := by
  rw [emission, messages, h]

/-- A rule that does not break gives its emission. -/
theorem run_eq_ok_iff {r : Rule} {s : Scene} {ds : List Diagnostic} :
    r.run s = .ok ds ↔ (r.check s).isOk = true ∧ r.emission s = ds := by
  unfold run findings
  rw [mapError_eq_ok_iff, map_eq_ok_iff]
  constructor
  · rintro ⟨ms, hms, rfl⟩
    exact ⟨by rw [hms]; rfl, emission_of_check hms⟩
  · rintro ⟨hok, rfl⟩
    cases hms : r.check s with
    | error fault =>
      rw [hms] at hok
      cases hok
    | ok ms => exact ⟨ms, rfl, (emission_of_check hms).symm⟩

/-- Where a property of findings is one of the rules they come from, all findings of a rule have it
    or none has. -/
theorem filter_emission {p : Rule → Bool} {q : Diagnostic → Bool}
    (hpq : ∀ (r : Rule) (m : String), q (r.diagnostic m) = p r) (r : Rule) (s : Scene) :
    (r.emission s).filter q = if p r then r.emission s else [] := by
  have hmem : ∀ d ∈ r.emission s, q d = p r := by
    intro d hd
    obtain ⟨m, -, rfl⟩ := List.mem_map.1 hd
    exact hpq r m
  cases hp : p r with
  | true => exact List.filter_eq_self.2 fun d hd => (hmem d hd).trans hp
  | false => exact List.filter_eq_nil_iff.2 fun d hd => by simp [hmem d hd, hp]

end Rule

/-- A run gives the emissions of all rules in the order of the table, if no rule breaks. -/
theorem diagnose_eq_ok_iff {rules : List Rule} {s : Scene} {ds : List Diagnostic} :
    diagnose rules s = .ok ds ↔
      (∀ r ∈ rules, (r.check s).isOk = true) ∧ rules.flatMap (·.emission s) = ds := by
  induction rules generalizing ds with
  | nil => simp [diagnose]
  | cons r rs ih =>
    rw [List.forall_mem_cons, List.flatMap_cons]
    constructor
    · intro h
      obtain ⟨ds₁, hrun, h⟩ := bind_eq_ok_iff.1 h
      obtain ⟨ds₂, hrest, h⟩ := bind_eq_ok_iff.1 h
      obtain ⟨hok, rfl⟩ := Rule.run_eq_ok_iff.1 hrun
      obtain ⟨hoks, rfl⟩ := ih.1 hrest
      exact ⟨⟨hok, hoks⟩, Except.ok.inj h⟩
    · rintro ⟨⟨hok, hoks⟩, rfl⟩
      have hrun : r.run s = .ok (r.emission s) := Rule.run_eq_ok_iff.2 ⟨hok, rfl⟩
      have hrest : diagnose rs s = .ok (rs.flatMap (·.emission s)) := ih.2 ⟨hoks, rfl⟩
      unfold diagnose
      rw [hrun, hrest]
      rfl

/-- So does a validation, which adds the verdict: it comes about if no rule breaks, and is then a
    function of the emissions alone.  All that is proved of validations starts here. -/
theorem validate_eq_ok_iff {rules : List Rule} {s : Scene} {v : Validation} :
    validate rules s = .ok v ↔
      (∀ r ∈ rules, (r.check s).isOk = true) ∧
        Validation.ofDiagnostics (rules.flatMap (·.emission s)) = v := by
  unfold validate
  rw [map_eq_ok_iff]
  constructor
  · rintro ⟨ds, hds, rfl⟩
    obtain ⟨hoks, rfl⟩ := diagnose_eq_ok_iff.1 hds
    exact ⟨hoks, rfl⟩
  · rintro ⟨hoks, rfl⟩
    exact ⟨_, diagnose_eq_ok_iff.2 ⟨hoks, rfl⟩, rfl⟩

/-- The findings that have a property of their rules are what the rules with it emit. -/
theorem filter_flatMap_emission {p : Rule → Bool} {q : Diagnostic → Bool}
    (hpq : ∀ (r : Rule) (m : String), q (r.diagnostic m) = p r) (rules : List Rule) (s : Scene) :
    (rules.flatMap (·.emission s)).filter q = (rules.filter p).flatMap (·.emission s) := by
  induction rules with
  | nil => rfl
  | cons r rs ih =>
    rw [List.flatMap_cons, List.filter_append, ih, Rule.filter_emission hpq]
    cases hp : p r with
    | true => rw [List.filter_cons_of_pos hp, List.flatMap_cons, if_pos rfl]
    | false => rw [List.filter_cons_of_neg (by simp [hp]), if_neg (by decide), List.nil_append]

/-- The hard findings of a run are what the hard rules emit. -/
theorem filter_isHard_flatMap_emission (rules : List Rule) (s : Scene) :
    (rules.flatMap (·.emission s)).filter Diagnostic.isHard =
      (rules.filter (·.severity = .hard)).flatMap (·.emission s) :=
  filter_flatMap_emission (fun _ _ => rfl) rules s

/-! ## The built-in table -/

/-- No built-in rule breaks on a scene with five slots. -/
theorem Rule.isOk_of_mem_table {s : Scene} (hslots : s.environmentAnchors.length = anchorSlots)
    (t : Thresholds) : ∀ r ∈ table t, (r.check s).isOk = true := by
  have hsound : ∀ check : Scene → List String, (sound check s).isOk = true := fun _ => rfl
  unfold table
  simp [hsound, checkAnchorCount_isOk hslots, checkSlotPriority_isOk hslots]

/-- Scenes with five slots are validated, whatever the thresholds and whatever else is in them. -/
theorem exists_validate_table {s : Scene} (hslots : s.environmentAnchors.length = anchorSlots)
    (t : Thresholds) : ∃ v, validate (Rule.table t) s = .ok v :=
  ⟨_, validate_eq_ok_iff.2 ⟨Rule.isOk_of_mem_table hslots t, rfl⟩⟩

/-- The finding about a scene without a heart. -/
def missingHeart : Diagnostic :=
  { severity := .hard, message := "Scene Heart is required.", field := .sceneHeart
    ruleId := "scene_heart_presence" }

/-- The finding about a scene with too few filled slots. -/
def missingAnchors (count : Nat) : Diagnostic :=
  { severity := .hard
    message := "At least 3 environment anchors are required (" ++ toString count ++
      " provided, " ++ toString (3 - count) ++ " more needed)."
    field := .environmentAnchors, ruleId := "anchor_count" }

/-- What the gate has to say about a scene with this heart and this many filled slots. -/
def gateErrors (heart : String) (count : Nat) : List Diagnostic :=
  (if heart = "" then [missingHeart] else []) ++
    (if count < 3 then [missingAnchors count] else [])

/-- Not more than five filled slots are no fault, and then the rule has its one message about fewer
    than three. -/
theorem Rule.checkAnchorCount_eq_ok {s : Scene} (h : s.filledAnchorCount ≤ anchorSlots) :
    checkAnchorCount s = .ok (if s.filledAnchorCount < 3 then
      [(missingAnchors s.filledAnchorCount).message] else []) := by
  unfold checkAnchorCount
  rw [if_neg (Nat.not_lt.2 h)]
  by_cases hfew : s.filledAnchorCount < 3
  · have hnot : ¬ minAnchors ≤ s.filledAnchorCount := Nat.not_le.2 hfew
    rw [if_pos hfew, if_neg hnot]
    rfl
  · have hle : minAnchors ≤ s.filledAnchorCount := Nat.not_lt.1 hfew
    rw [if_neg hfew, if_pos hle]

/-- The hard rules of the table are its first two, and this is what they emit. -/
theorem filter_isHard_table {s : Scene} (hslots : s.environmentAnchors.length = anchorSlots)
    (t : Thresholds) :
    ((Rule.table t).flatMap (·.emission s)).filter Diagnostic.isHard =
      gateErrors s.sceneHeart s.filledAnchorCount := by
  have hcount : s.filledAnchorCount ≤ anchorSlots := hslots ▸ s.filledAnchorCount_le
  -- of the table no more is used than which two rules come first and that no other is hard
  obtain ⟨heart, anchors, soft, htable, hheart, hanchors, hhard⟩ :
      ∃ heart anchors soft, Rule.table t = heart :: anchors :: soft ∧
        heart.emission s = (if s.sceneHeart = "" then [missingHeart] else []) ∧
        anchors.emission s =
          (if s.filledAnchorCount < 3 then [missingAnchors s.filledAnchorCount] else []) ∧
        (Rule.table t).filter (·.severity = .hard) = [heart, anchors] := by
    refine ⟨_, _, _, rfl, ?_, ?_, rfl⟩
    · refine (Rule.emission_of_check rfl).trans ?_
      unfold Rule.checkHeartPresence
      split <;> rfl
    · refine (Rule.emission_of_check (Rule.checkAnchorCount_eq_ok hcount)).trans ?_
      split <;> rfl
  rw [filter_isHard_flatMap_emission, hhard, List.flatMap_cons, List.flatMap_cons,
    List.flatMap_nil, List.append_nil, hheart, hanchors]
  rfl

/-- The errors of a run of the table are those of the gate. -/
theorem errors_of_validate_table {s : Scene} (hslots : s.environmentAnchors.length = anchorSlots)
    {t : Thresholds} {v : Validation} (hv : validate (Rule.table t) s = .ok v) :
    v.errors = gateErrors s.sceneHeart s.filledAnchorCount := by
  obtain ⟨-, rfl⟩ := validate_eq_ok_iff.1 hv
  exact filter_isHard_table hslots t

end ScenePrompt
