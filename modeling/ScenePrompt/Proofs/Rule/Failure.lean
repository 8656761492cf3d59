/-
  When a run of the rules fails, and whose fault it is.

  A run stops at the first rule that breaks.  `diagnose_eq_error_iff` says so of any table: the run
  fails if and only if the table can be cut in front of a rule that breaks so that no rule before
  the cut does, and the fault carries that rule's identifier.  What the rules behind it would have
  said is lost, and so is what the rules before it did say.

  Of the built-in rules only two can break at all.  ANCHOR COUNT breaks on more than five filled
  slots, ANCHOR SLOT PRIORITY on fewer than three slots, filled or not.  The two conditions look at
  a slot differently — a slot of blanks does not count as filled, but it is a slot — and still they
  exclude each other, since the filled slots are among the slots.  That settles which rule is named
  without any look at the order of the table.

  A scene that was read has five slots, so neither condition can arise on the way from raw input:
  there the built-in rules never fail, and whatever goes wrong is malformed input
  (`table_fails_only_on_impossible_scenes`).
-/
import ScenePrompt.Proofs.Compile.Agreement
import ScenePrompt.Proofs.Rule.Emission
import ScenePrompt.Proofs.Scene.Acceptance

namespace ScenePrompt

open Outcome

/-! ## The first rule that breaks -/

section run

variable {r : Rule} {rules : List Rule} {s : Scene} {fault : Fault}

/-- A rule fails with what its check breaks on, under its own identifier. -/
theorem Rule.run_eq_error_iff :
    r.run s = .error fault ↔ ∃ e, r.check s = .error e ∧ .rule r.id e = fault := by
  unfold run findings
  rw [mapError_eq_error_iff]
  simp only [map_eq_error_iff]

/-- A run fails at its first rule, or that rule does not break and the run fails later. -/
theorem diagnose_cons_eq_error_iff :
    diagnose (r :: rules) s = .error fault ↔
      (∃ e, r.check s = .error e ∧ .rule r.id e = fault) ∨
        (r.check s).isOk = true ∧ diagnose rules s = .error fault := by
  have hrun : diagnose (r :: rules) s =
      r.run s >>= fun ds => diagnose rules s >>= fun rest => .ok (ds ++ rest) := rfl
  rw [hrun, bind_eq_error_iff, Rule.run_eq_error_iff]
  refine or_congr_right ?_
  constructor
  · rintro ⟨ds, hds, h⟩
    refine ⟨(Rule.run_eq_ok_iff.1 hds).1, ?_⟩
    -- nothing can go wrong once the findings of both parts are there
    rcases bind_eq_error_iff.1 h with hrest | ⟨rest, -, hput⟩
    · exact hrest
    · cases hput
  · rintro ⟨hok, hrest⟩
    exact ⟨r.emission s, Rule.run_eq_ok_iff.2 ⟨hok, rfl⟩, bind_eq_error_iff.2 (Or.inl hrest)⟩

/-- **The first rule that breaks decides.**  A run fails with the fault of a rule before which no
    rule breaks. -/
theorem diagnose_eq_error_iff :
    diagnose rules s = .error fault ↔
      ∃ before r after e, rules = before ++ r :: after ∧
        (∀ q ∈ before, (q.check s).isOk = true) ∧ r.check s = .error e ∧ .rule r.id e = fault := by
  induction rules with
  | nil =>
    constructor
    · intro h
      cases h
    · rintro ⟨before, r, after, e, hsplit, -⟩
      cases before <;> cases hsplit
  | cons q rules ih =>
    rw [diagnose_cons_eq_error_iff, ih]
    constructor
    · rintro (⟨e, he, hfault⟩ | ⟨hq, before, r, after, e, hsplit, hbefore, he, hfault⟩)
      · -- cut in front of the first rule: it breaks itself
        exact ⟨[], q, rules, e, rfl, List.forall_mem_nil _, he, hfault⟩
      · -- the first rule goes in front of the cut that the rest has
        refine ⟨q :: before, r, after, e, ?_, ?_, he, hfault⟩
        · rw [hsplit, List.cons_append]
        · exact List.forall_mem_cons.2 ⟨hq, hbefore⟩
    · rintro ⟨before, r, after, e, hsplit, hbefore, he, hfault⟩
      cases before with
      | nil =>
        obtain ⟨rfl, rfl⟩ := List.cons.inj hsplit
        exact Or.inl ⟨e, he, hfault⟩
      | cons p before =>
        obtain ⟨rfl, hrest⟩ := List.cons.inj hsplit
        obtain ⟨hp, hothers⟩ := List.forall_mem_cons.1 hbefore
        exact Or.inr ⟨hp, before, r, after, e, hrest, hothers, he, hfault⟩

/-- A validation fails where the run does, since forming the verdict cannot go wrong. -/
theorem validate_eq_error_iff :
    validate rules s = .error fault ↔
      ∃ before r after e, rules = before ++ r :: after ∧
        (∀ q ∈ before, (q.check s).isOk = true) ∧ r.check s = .error e ∧ .rule r.id e = fault := by
  unfold validate
  rw [map_eq_error_iff, diagnose_eq_error_iff]

/-- A fault of a run is that of one of the rules. -/
theorem exists_mem_of_validate_error (h : validate rules s = .error fault) :
    ∃ r ∈ rules, ∃ e, r.check s = .error e ∧ .rule r.id e = fault := by
  obtain ⟨before, r, after, e, rfl, -, he, hfault⟩ := validate_eq_error_iff.1 h
  exact ⟨r, List.mem_append_right before List.mem_cons_self, e, he, hfault⟩

/-- A table fails if one of its rules breaks. -/
theorem exists_validate_error {e : RuleFault} (hr : r ∈ rules) (he : r.check s = .error e) :
    ∃ fault, validate rules s = .error fault := by
  cases h : validate rules s with
  | error fault => exact ⟨fault, rfl⟩
  | ok v =>
    have hok := (validate_eq_ok_iff.1 h).1 r hr
    rw [he] at hok
    cases hok

end run

/-! ## Rules that can only raise a text -/

/-- The rule was declared with labels that its findings can carry: if it fails, it raised a text. -/
def Rule.Labelled (r : Rule) : Prop := ∀ s vs, r.check s ≠ .error (.mislabelled vs)

/-- A rule whose labels are known by name is labelled. -/
theorem Rule.labelled_declared {id severity field : String} {labels : Severity × Field}
    (h : Diagnostic.labels severity field = .ok labels) (outcome : Except String (List String)) :
    (declared id severity field outcome).Labelled := by
  intro s vs hcheck
  unfold declared at hcheck
  rw [h] at hcheck
  obtain ⟨text, -, hraised⟩ := mapError_eq_error_iff.1 hcheck
  cases hraised

/-- A labelled rule that raises nothing does not break. -/
theorem Rule.Labelled.isOk_check_iff {r : Rule} (h : r.Labelled) (s : Scene) :
    (r.check s).isOk = true ↔ ∀ text, r.check s ≠ .error (.raised text) := by
  cases hcheck : r.check s with
  | ok ms =>
    refine iff_of_true rfl ?_
    intro text hraised
    cases hraised
  | error e =>
    cases e with
    | raised text =>
      refine iff_of_false (by intro hok; cases hok) ?_
      intro hnone
      exact hnone text rfl
    | mislabelled vs => exact absurd hcheck (h s vs)

/-! ## The two built-in rules that can break -/

/-- The fault of a scene with this many filled slots, which are too many. -/
def overfullFault (count : Nat) : Fault :=
  .rule "anchor_count"
    (.raised (toString count ++ " filled anchors exceed the 5 anchor slots"))

/-- The fault of a scene without the required slots. -/
def slotlessFault : Fault := .rule "anchor_slot_priority" (.raised "tuple index out of range")

section table

variable {s : Scene} {e : RuleFault}

/-- The rule that counts anchors breaks on more than five filled slots, and tells how many there
    are. -/
theorem Rule.checkAnchorCount_eq_error_iff :
    checkAnchorCount s = .error e ↔
      5 < s.filledAnchorCount ∧
        .rule "anchor_count" e = overfullFault s.filledAnchorCount := by
  have htext : " filled anchors exceed the 5 anchor slots" =
      " filled anchors exceed the " ++ ("5" ++ " anchor slots") := by decide
  unfold checkAnchorCount overfullFault
  -- `anchorSlots` is five, but only by unfolding it, which `simp` is not made to do
  by_cases hmany : anchorSlots < s.filledAnchorCount
  · have hfive : 5 < s.filledAnchorCount := hmany
    rw [if_pos hmany, htext]
    simp only [hfive, true_and, Except.error.injEq, Fault.rule.injEq, String.append_assoc]
    exact eq_comm
  · have hfive : ¬ 5 < s.filledAnchorCount := hmany
    rw [if_neg hmany]
    simp only [hfive, false_and, iff_false]
    split <;> simp

/-- The rule on slot priority breaks on fewer than three slots, whether they are filled or not. -/
theorem Rule.checkSlotPriority_eq_error_iff :
    checkSlotPriority s = .error e ↔
      s.environmentAnchors.length < 3 ∧ .rule "anchor_slot_priority" e = slotlessFault := by
  unfold checkSlotPriority slotlessFault
  by_cases hfew : s.environmentAnchors.length < requiredAnchorSlots
  · have hthree : s.environmentAnchors.length < 3 := hfew
    rw [if_pos hfew]
    simp only [hthree, true_and, Except.error.injEq, Fault.rule.injEq]
    exact eq_comm
  · have hthree : ¬ s.environmentAnchors.length < 3 := hfew
    rw [if_neg hfew]
    simp only [hthree, false_and, iff_false]
    split <;> simp

/-- The two rules of the table that can break, and what breaks them. -/
theorem Rule.check_eq_error_of_mem_table {t : Thresholds} {r : Rule} (hr : r ∈ table t)
    (he : r.check s = .error e) :
    r.id = "anchor_count" ∧ checkAnchorCount s = .error e ∨
      r.id = "anchor_slot_priority" ∧ checkSlotPriority s = .error e := by
  have hsound : ∀ check : Scene → List String, sound check s ≠ .error e := fun _ h => by cases h
  simp only [table, List.mem_cons, List.not_mem_nil, or_false] at hr
  -- by the place in the table: the second and the third can break
  rcases hr with rfl | rfl | rfl | rfl | rfl | rfl | rfl | rfl
  · exact absurd he (hsound _)
  · exact Or.inl ⟨rfl, he⟩
  · exact Or.inr ⟨rfl, he⟩
  all_goals exact absurd he (hsound _)

/-- Both of them are in the table. -/
theorem Rule.exists_mem_table (t : Thresholds) :
    (∃ r ∈ table t, r.check = checkAnchorCount) ∧ ∃ r ∈ table t, r.check = checkSlotPriority := by
  obtain ⟨first, second, third, rest, htable, hsecond, hthird⟩ :
      ∃ first second third rest, table t = first :: second :: third :: rest ∧
        second.check = checkAnchorCount ∧ third.check = checkSlotPriority :=
    ⟨_, _, _, _, rfl, rfl, rfl⟩
  rw [htable]
  exact ⟨⟨second, by simp, hsecond⟩, ⟨third, by simp, hthird⟩⟩

/-- A run of the built-in table fails on too many filled slots or on too few slots, and on nothing
    else. -/
theorem validate_table_eq_error_iff {t : Thresholds} {fault : Fault} :
    validate (Rule.table t) s = .error fault ↔
      5 < s.filledAnchorCount ∧ fault = overfullFault s.filledAnchorCount ∨
        s.environmentAnchors.length < 3 ∧ fault = slotlessFault := by
  have hfault : ∀ fault, validate (Rule.table t) s = .error fault →
      5 < s.filledAnchorCount ∧ fault = overfullFault s.filledAnchorCount ∨
        s.environmentAnchors.length < 3 ∧ fault = slotlessFault := by
    intro fault h
    obtain ⟨r, hr, e, he, rfl⟩ := exists_mem_of_validate_error h
    rcases Rule.check_eq_error_of_mem_table hr he with ⟨hid, hcheck⟩ | ⟨hid, hcheck⟩
    · rw [hid]
      exact Or.inl (Rule.checkAnchorCount_eq_error_iff.1 hcheck)
    · rw [hid]
      exact Or.inr (Rule.checkSlotPriority_eq_error_iff.1 hcheck)
  have hcount : s.filledAnchorCount ≤ s.environmentAnchors.length := s.filledAnchorCount_le
  obtain ⟨⟨anchors, hanchors, hanchorsCheck⟩, ⟨slots, hslots, hslotsCheck⟩⟩ :=
    Rule.exists_mem_table t
  refine ⟨hfault fault, ?_⟩
  -- the table fails in either case, and the other condition cannot hold as well
  rintro (⟨hmany, rfl⟩ | ⟨hfew, rfl⟩)
  · have hcheck := Rule.checkAnchorCount_eq_error_iff.2 ⟨hmany, rfl⟩
    rw [← hanchorsCheck] at hcheck
    obtain ⟨fault, h⟩ := exists_validate_error hanchors hcheck
    rcases hfault fault h with ⟨-, rfl⟩ | ⟨hfew, -⟩
    · exact h
    · omega
  · have hcheck := Rule.checkSlotPriority_eq_error_iff.2 ⟨hfew, rfl⟩
    rw [← hslotsCheck] at hcheck
    obtain ⟨fault, h⟩ := exists_validate_error hslots hcheck
    rcases hfault fault h with ⟨hmany, -⟩ | ⟨-, rfl⟩
    · omega
    · exact h

end table

/-! ## What comes from raw input -/

section raw

variable {raw : Json} {s : Scene}

/-- A scene that was read breaks no built-in rule. -/
theorem exists_validate_table_of_ofRaw (h : Scene.ofRaw raw = .ok s) (t : Thresholds) :
    ∃ v, validate (Rule.table t) s = .ok v :=
  exists_validate_table (Scene.wellFormed_of_ofRaw h).slots_eq t

/-- Raw input is validated, or else it is malformed: a scene that was read has five slots. -/
theorem validateRaw_table (t : Thresholds) (raw : Json) :
    (∃ v, validateRaw (Rule.table t) raw = .ok v) ∨
      ∃ cause, validateRaw (Rule.table t) raw = .error (.malformed cause) := by
  cases hs : Scene.ofRaw raw with
  | error cause =>
    refine Or.inr ⟨cause, ?_⟩
    unfold validateRaw
    rw [hs]
    rfl
  | ok s =>
    rw [validateRaw_of_ofRaw hs]
    exact Or.inl (exists_validate_table_of_ofRaw hs t)

/-- Raw input is compiled, in a layout that is known by name, or else it is malformed. -/
theorem compile_table (t : Thresholds) {defaultMode : String} {mode : Option String}
    (hmode : effectiveMode defaultMode mode ∈ Layout.names) (raw : Json) :
    (∃ result, compile (Rule.table t) defaultMode mode raw = .ok result) ∨
      ∃ cause, compile (Rule.table t) defaultMode mode raw = .error (.malformed cause) := by
  cases hs : Scene.ofRaw raw with
  | error cause =>
    refine Or.inr ⟨cause, ?_⟩
    unfold compile
    rw [hs]
    rfl
  | ok s =>
    obtain ⟨l, hl⟩ := Layout.mem_names_iff.1 hmode
    obtain ⟨v, hv⟩ := exists_validate_table_of_ofRaw hs t
    rw [compile_of_ofRaw hs hl.symm, hv]
    exact Or.inl ⟨_, rfl⟩

end raw

/-- **The built-in rules fail only on scenes that cannot be read.**  Whatever a scene holds, and
    whatever the thresholds are, a run of the built-in table fails if and only if more than five
    slots hold ink, and then by the rule that counts anchors, or there are fewer than three slots,
    and then by the rule that ranks them.  Hence raw input is validated and compiled, in a known
    layout, unless it is malformed; the two checks that can break do not break on it. -/
theorem table_fails_only_on_impossible_scenes :
    (∀ (s : Scene) (t : Thresholds) (fault : Fault),
      validate (Rule.table t) s = .error fault ↔
        5 < s.environmentAnchors.countP (fun anchor => !Text.isBlankText anchor) ∧
            fault = overfullFault
              (s.environmentAnchors.countP fun anchor => !Text.isBlankText anchor) ∨
          s.environmentAnchors.length < 3 ∧ fault = slotlessFault) ∧
    (∀ (raw : Json) (t : Thresholds),
      (∃ v, validateRaw (Rule.table t) raw = .ok v) ∨
        ∃ cause, validateRaw (Rule.table t) raw = .error (.malformed cause)) ∧
    (∀ (raw : Json) (t : Thresholds) (defaultMode : String) (mode : Option String),
      effectiveMode defaultMode mode ∈ Layout.names →
      (∃ result, compile (Rule.table t) defaultMode mode raw = .ok result) ∨
        ∃ cause, compile (Rule.table t) defaultMode mode raw = .error (.malformed cause)) ∧
    (∀ (raw : Json) (s : Scene), Scene.ofRaw raw = .ok s →
      ∀ e, Rule.checkAnchorCount s ≠ .error e ∧ Rule.checkSlotPriority s ≠ .error e) := by
  refine ⟨?_, fun raw t => validateRaw_table t raw, ?_, ?_⟩
  · intro s t fault
    rw [List.countP_eq_length_filter]
    exact validate_table_eq_error_iff
  · intro raw t defaultMode mode hmode
    exact compile_table t hmode raw
  · intro raw s hs e
    have hwell := Scene.wellFormed_of_ofRaw hs
    have hcount : s.filledAnchorCount ≤ 5 := hwell.filledAnchorCount_le
    have hslots : s.environmentAnchors.length = 5 := hwell.slots_eq
    refine ⟨fun h => ?_, fun h => ?_⟩
    · have hmany := (Rule.checkAnchorCount_eq_error_iff.1 h).1
      omega
    · have hfew := (Rule.checkSlotPriority_eq_error_iff.1 h).1
      omega

/-- Seven slots, of which one is blank. -/
def crowded : Scene := { environmentAnchors := ["a", " ", "b", "c", "d", "e", "f"] }

/-- Seven slots, of which two are blank. -/
def roomy : Scene := { environmentAnchors := ["a", " ", "b", "c", "\t", "e", "f"] }

/-- Two slots. -/
def cramped : Scene := { environmentAnchors := ["a", "b"] }

/-- Six filled slots are too many, but five are not, although there are seven slots in either case;
    two slots are too few, also for a table that asks for nothing else. -/
theorem crowded_and_cramped_fail :
    validate (Rule.table {}) crowded =
        .error (.rule "anchor_count" (.raised "6 filled anchors exceed the 5 anchor slots")) ∧
      (∀ fault, validate (Rule.table {}) roomy ≠ .error fault) ∧
      validate (Rule.table { minMicroDetails := -1 }) cramped =
        .error (.rule "anchor_slot_priority" (.raised "tuple index out of range")) ∧
      ((∃ result, compile (Rule.table {}) "" (some "compact") (.obj [("sceneHeart", .str "Dusk")]) =
          .ok result) ∨
        ∃ cause, compile (Rule.table {}) "" (some "compact") (.obj [("sceneHeart", .str "Dusk")]) =
          .error (.malformed cause)) ∧
      ∀ e, Rule.checkAnchorCount {} ≠ .error e ∧ Rule.checkSlotPriority {} ≠ .error e := by
  obtain ⟨hfails, -, hcompile, hunreachable⟩ := table_fails_only_on_impossible_scenes
  refine ⟨?_, ?_, ?_, ?_, ?_⟩
  · exact (hfails crowded {} _).2 (Or.inl ⟨by decide, by decide⟩)
  · intro fault h
    rcases (hfails roomy {} fault).1 h with ⟨hmany, -⟩ | ⟨hfew, -⟩
    · exact absurd hmany (by decide)
    · exact absurd hfew (by decide)
  · exact (hfails cramped _ _).2 (Or.inr ⟨by decide, rfl⟩)
  · exact hcompile _ {} "" (some "compact") (by decide)
  · exact hunreachable .null {} rfl

end ScenePrompt
