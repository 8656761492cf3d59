/-
  Tables put together, and tables put in another order.

  A run goes through its table rule by rule and never looks back, so a table that is two tables one
  after another is run by running the first and then the second (`diagnose_append`).  Everything
  about two tables is in that equation: if the first one fails the second is not looked at; if the
  second one fails the findings of the first are lost; and otherwise they are put in front of those
  of the second.

  The ORDER of a table shows in three places only: in which rule fails first, in how the findings
  are arranged, and hence in how the errors are.  It does not show in whether the table fails — it
  fails if one of its rules breaks — nor in which findings there are, nor in the verdict.  The
  errors are what the hard rules emit, so they are the same as long as the hard rules keep their
  order, wherever the soft ones have gone.

  A finding tells which rule it is from, and findings of later rules stand behind those of earlier
  ones: each can be given the POSITION of a rule whose labels it carries so that the positions never
  go down (`exists_positions`).
-/
import ScenePrompt.Proofs.Rule.Failure

namespace ScenePrompt

open Outcome

/-! ## One table after another -/

namespace Validation

/-- The findings of two runs one after another.  The scene can be compiled if both runs let it. -/
def append (v v' : Validation) : Validation :=
  { diagnostics := v.diagnostics ++ v'.diagnostics, canCompile := v.canCompile && v'.canCompile }

/-- Forming the verdict goes well with putting findings together. -/
theorem ofDiagnostics_append (ds ds' : List Diagnostic) :
    ofDiagnostics (ds ++ ds') = (ofDiagnostics ds).append (ofDiagnostics ds') := by
  unfold ofDiagnostics append
  rw [List.any_append, Bool.not_or]

end Validation

/-- A table made of two is run by running one after the other. -/
theorem diagnose_append (rules rules' : List Rule) (s : Scene) :
    diagnose (rules ++ rules') s =
      diagnose rules s >>= fun ds => (diagnose rules' s).map (ds ++ ·) := by
  induction rules with
  | nil =>
    show diagnose rules' s = (diagnose rules' s).map ([] ++ ·)
    cases diagnose rules' s <;> rfl
  | cons r rs ih =>
    show (r.run s >>= fun ds => diagnose (rs ++ rules') s >>= fun rest => .ok (ds ++ rest)) =
      (r.run s >>= fun ds => diagnose rs s >>= fun rest => .ok (ds ++ rest)) >>=
        fun ds => (diagnose rules' s).map (ds ++ ·)
    rw [ih]
    -- the first fault decides, so a fault of `r`, of the rest of its table and of the second table
    -- are looked at in this order
    cases r.run s with
    | error fault => rfl
    | ok ds =>
      cases diagnose rs s with
      | error fault => rfl
      | ok rest =>
        cases diagnose rules' s with
        | error fault => rfl
        | ok rest' => exact congrArg Except.ok (List.append_assoc ds rest rest').symm

/-- Validations of a table made of two are put together in the same way as runs, and both equations
    say at once what happens if either part fails. -/
theorem validate_append (rules rules' : List Rule) (s : Scene) :
    validate (rules ++ rules') s =
      validate rules s >>= fun v => (validate rules' s).map v.append := by
  unfold validate
  rw [diagnose_append]
  cases diagnose rules s with
  | error fault => rfl
  | ok ds =>
    cases diagnose rules' s with
    | error fault => rfl
    | ok ds' => exact congrArg Except.ok (Validation.ofDiagnostics_append ds ds')

/-! ## The same table in another order -/

section order

variable {rules rules' : List Rule} {s : Scene}

/-- A table fails exactly if one of its rules breaks. -/
theorem exists_validate_error_iff :
    (∃ fault, validate rules s = .error fault) ↔ ∃ r ∈ rules, ∃ e, r.check s = .error e := by
  constructor
  · rintro ⟨fault, h⟩
    obtain ⟨r, hr, e, he, -⟩ := exists_mem_of_validate_error h
    exact ⟨r, hr, e, he⟩
  · rintro ⟨r, hr, e, he⟩
    exact exists_validate_error hr he

/-- In whatever order its rules stand, a table fails or does not fail; but its fault may be
    another. -/
theorem exists_validate_error_perm (h : rules.Perm rules') :
    (∃ fault, validate rules s = .error fault) ↔ ∃ fault, validate rules' s = .error fault := by
  rw [exists_validate_error_iff, exists_validate_error_iff]
  simp only [h.mem_iff]

variable {v v' : Validation}

/-- The findings are the same but for their order. -/
theorem diagnostics_perm (h : rules.Perm rules') (hv : validate rules s = .ok v)
    (hv' : validate rules' s = .ok v') : v.diagnostics.Perm v'.diagnostics := by
  obtain ⟨-, rfl⟩ := validate_eq_ok_iff.1 hv
  obtain ⟨-, rfl⟩ := validate_eq_ok_iff.1 hv'
  exact h.flatMap_right (·.emission s)

/-- The verdict depends on which findings there are, not on where they stand. -/
theorem canCompile_eq_of_perm (h : v.diagnostics.Perm v'.diagnostics)
    (hv : validate rules s = .ok v) (hv' : validate rules' s = .ok v') :
    v.canCompile = v'.canCompile := by
  obtain ⟨-, rfl⟩ := validate_eq_ok_iff.1 hv
  obtain ⟨-, rfl⟩ := validate_eq_ok_iff.1 hv'
  exact congrArg Bool.not h.any_eq

/-- The errors of a run are what the hard rules emit. -/
theorem errors_of_validate (hv : validate rules s = .ok v) :
    v.errors = (rules.filter (·.severity = .hard)).flatMap (·.emission s) := by
  obtain ⟨-, rfl⟩ := validate_eq_ok_iff.1 hv
  exact filter_isHard_flatMap_emission rules s

end order

/-! ## Where findings are from -/

/-- The finding carries the labels of the rule. -/
def Diagnostic.IsFrom (r : Rule) (d : Diagnostic) : Prop :=
  d.ruleId = r.id ∧ d.severity = r.severity ∧ d.field = r.field

theorem Rule.isFrom_of_mem_emission {r : Rule} {s : Scene} {d : Diagnostic}
    (h : d ∈ r.emission s) : d.IsFrom r := by
  obtain ⟨m, -, rfl⟩ := List.mem_map.1 h
  exact ⟨rfl, rfl, rfl⟩

/-- What a table emits can be given positions in the table that never go down, each of them that of
    a rule whose labels the finding carries. -/
theorem exists_positions (rules : List Rule) (s : Scene) :
    ∃ placed : List (Diagnostic × Nat),
      placed.map Prod.fst = rules.flatMap (·.emission s) ∧
        (placed.map Prod.snd).Pairwise (· ≤ ·) ∧
        ∀ p ∈ placed, ∃ r, rules[p.2]? = some r ∧ p.1.IsFrom r := by
  induction rules with
  | nil => exact ⟨[], rfl, List.Pairwise.nil, List.forall_mem_nil _⟩
  | cons r rs ih =>
    obtain ⟨placed, hfst, hsnd, hfrom⟩ := ih
    -- the first rule is at position 0, and all others are one further than among themselves
    refine ⟨(r.emission s).map (·, 0) ++ placed.map fun p => (p.1, p.2 + 1), ?_, ?_, ?_⟩
    · rw [List.map_append, List.map_map, List.map_map, List.flatMap_cons, ← hfst]
      exact congrArg (· ++ _) (List.map_id _)
    · rw [List.map_append, List.map_map, List.map_map, List.pairwise_append]
      refine ⟨?_, ?_, ?_⟩
      · exact List.pairwise_map.2 (List.pairwise_of_forall fun _ _ => Nat.le_refl 0)
      · rw [List.pairwise_map] at hsnd ⊢
        exact hsnd.imp Nat.succ_le_succ
      · intro i hi j _
        obtain ⟨d, -, rfl⟩ := List.mem_map.1 hi
        exact Nat.zero_le j
    · intro p hp
      rcases List.mem_append.1 hp with hp | hp
      · obtain ⟨d, hd, rfl⟩ := List.mem_map.1 hp
        exact ⟨r, rfl, Rule.isFrom_of_mem_emission hd⟩
      · obtain ⟨q, hq, rfl⟩ := List.mem_map.1 hp
        exact hfrom q hq

/-- **Tables compose.**  Of two tables one after another the first that fails decides; if neither
    does, the findings are put one after another, and the scene can be compiled if it can be under
    both.  In another order the same table fails or does not fail as before, and if it does not, the
    findings are the same but for their order, the verdict is the same, and the errors are, in their
    order, as long as the hard rules are.  Every finding carries the labels of a rule of the table,
    and no finding stands behind one of a later rule. -/
theorem validate_composes :
    (∀ (s : Scene) (rules rules' : List Rule),
      (∀ fault, validate rules s = .error fault → validate (rules ++ rules') s = .error fault) ∧
      (∀ v fault, validate rules s = .ok v → validate rules' s = .error fault →
        validate (rules ++ rules') s = .error fault) ∧
      ∀ v v', validate rules s = .ok v → validate rules' s = .ok v' →
        validate (rules ++ rules') s =
          .ok { diagnostics := v.diagnostics ++ v'.diagnostics
                canCompile := v.canCompile && v'.canCompile }) ∧
    (∀ (s : Scene) (rules rules' : List Rule), rules.Perm rules' →
      ((∃ fault, validate rules s = .error fault) ↔ ∃ fault, validate rules' s = .error fault) ∧
      ∀ v v', validate rules s = .ok v → validate rules' s = .ok v' →
        v.canCompile = v'.canCompile ∧ v.diagnostics.Perm v'.diagnostics ∧
        (rules.filter (·.severity = .hard) = rules'.filter (·.severity = .hard) →
          v.errors = v'.errors)) ∧
    (∀ (s : Scene) (rules : List Rule) (v : Validation), validate rules s = .ok v →
      ∃ placed : List (Diagnostic × Nat),
        placed.map Prod.fst = v.diagnostics ∧ (placed.map Prod.snd).Pairwise (· ≤ ·) ∧
        ∀ p ∈ placed, ∃ r, rules[p.2]? = some r ∧ p.1.IsFrom r) := by
  refine ⟨?_, ?_, ?_⟩
  · intro s rules rules'
    rw [validate_append]
    refine ⟨?_, ?_, ?_⟩
    · intro fault h
      rw [h]
      rfl
    · intro v fault h h'
      rw [h, h']
      rfl
    · intro v v' h h'
      rw [h, h']
      rfl
  · intro s rules rules' h
    refine ⟨exists_validate_error_perm h, ?_⟩
    intro v v' hv hv'
    have hperm := diagnostics_perm h hv hv'
    refine ⟨canCompile_eq_of_perm hperm hv hv', hperm, ?_⟩
    intro hhard
    rw [errors_of_validate hv, errors_of_validate hv', hhard]
  · intro s rules v hv
    obtain ⟨-, rfl⟩ := validate_eq_ok_iff.1 hv
    exact exists_positions rules s

/-- A rule with two pieces of advice. -/
def dimTable : List Rule := toneTable "soft" (.ok ["Too dark.", "Too late."])

/-- A rule that lets nothing pass. -/
def coldTable : List Rule := toneTable "hard" (.ok ["Too cold."])

/-- A rule that breaks. -/
def blindTable : List Rule := toneTable "soft" (.error "no light")

/-- Advice is lost when a later rule breaks; where none does, the verdict is the graver one in
    either order, the errors are the same, and only the findings as a whole are arranged
    differently. -/
theorem tones_compose :
    validate (dimTable ++ blindTable) {} = .error (.rule "tone" (.raised "no light")) ∧
    validate (blindTable ++ coldTable) {} = .error (.rule "tone" (.raised "no light")) ∧
    ∃ v v', validate (dimTable ++ coldTable) {} = .ok v ∧
      validate (coldTable ++ dimTable) {} = .ok v' ∧ v.canCompile = false ∧
      v.canCompile = v'.canCompile ∧ v.diagnostics ≠ v'.diagnostics ∧
      v.diagnostics.Perm v'.diagnostics ∧ v.errors = v'.errors ∧
      ∃ placed : List (Diagnostic × Nat),
        placed.map Prod.fst = v.diagnostics ∧ (placed.map Prod.snd).Pairwise (· ≤ ·) ∧
        ∀ p ∈ placed, ∃ r, (dimTable ++ coldTable)[p.2]? = some r ∧ p.1.IsFrom r := by
  obtain ⟨happend, horder, hplaced⟩ := validate_composes
  obtain ⟨-, hsecond, -⟩ := happend {} dimTable blindTable
  obtain ⟨hfirst, -, -⟩ := happend {} blindTable coldTable
  obtain ⟨-, -, hboth⟩ := happend {} dimTable coldTable
  obtain ⟨-, -, hboth'⟩ := happend {} coldTable dimTable
  have hv := hboth _ _ rfl rfl
  have hv' := hboth' _ _ rfl rfl
  obtain ⟨-, hsame⟩ :=
    horder {} (dimTable ++ coldTable) (coldTable ++ dimTable) List.perm_append_comm
  obtain ⟨hverdict, hperm, herrors⟩ := hsame _ _ hv hv'
  refine ⟨hsecond _ _ rfl rfl, hfirst _ rfl, _, _, hv, hv', rfl, hverdict, ?_, hperm,
    herrors rfl, ?_⟩
  · decide
  · exact hplaced {} _ _ hv

end ScenePrompt
