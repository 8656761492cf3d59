/-
  What the schema of scenes lets through.

  `Scene.check` holds an object against the schema of scenes.  What it lets through is well formed
  (`wellFormed_of_check`), and every well-formed scene gets through when it is written as an object
  (`check_toJson`), so the scenes that the schema accepts are the well-formed ones and no others
  (`exists_check_eq_ok_iff`).

  A check of an object is a row of checks of its entries, and it succeeds only if all of them do.
  What an entry must have been is therefore found one entry at a time: a property that the default
  has, and that the entry's check guarantees, is a property of whatever was read
  (`of_optionalEntry`).
-/
import ScenePrompt.Proofs.Outcome
import ScenePrompt.Schema.Scene

namespace ScenePrompt

open Schema Checked Outcome

namespace Schema

variable {α : Type}

/-! ## Entries -/

/-- Whatever was read under a required entry was let through by the entry's check. -/
theorem of_requiredEntry {entries : Entries} {spellings : List String} {check : Check α}
    {P : α → Prop} (hcheck : ∀ v a, check v = .ok a → P a) {a : α}
    (h : requiredEntry entries spellings check = .ok a) : P a := by
  unfold requiredEntry at h
  cases hfound : entries.firstPresent? spellings with
  | none =>
    rw [hfound] at h
    cases under_eq_ok_iff.1 h
  | some kv =>
    rw [hfound] at h
    exact hcheck _ _ (under_eq_ok_iff.1 h)

/-- Whatever was read under an optional entry was let through by the entry's check, or is the
    default. -/
theorem of_optionalEntry {entries : Entries} {spellings : List String} {default : α}
    {check : Check α} {P : α → Prop} (hdefault : P default)
    (hcheck : ∀ v a, check v = .ok a → P a) {a : α}
    (h : optionalEntry entries spellings default check = .ok a) : P a := by
  unfold optionalEntry at h
  cases hfound : entries.firstPresent? spellings with
  | none =>
    rw [hfound] at h
    cases h
    exact hdefault
  | some kv =>
    rw [hfound] at h
    exact hcheck _ _ (under_eq_ok_iff.1 h)

/-! ## Texts and sequences -/

/-- A text that must not be empty is not.  It may be blank. -/
theorem ne_empty_of_nonemptyText (v : Json) (s : String) (h : nonemptyText v = .ok s) :
    s ≠ "" := by
  unfold nonemptyText at h
  split at h
  · split at h
    · cases h
    · rename_i t _ hne
      cases h
      exact hne
  · cases h

/-- A choice that may be left open is open or one of the choices. -/
theorem mem_of_choiceOrEmpty (choices : List String) (v : Json) (s : String)
    (h : choiceOrEmpty choices v = .ok s) : s = "" ∨ s ∈ choices := by
  unfold choiceOrEmpty at h
  split at h
  · split at h
    · rename_i t hmem
      cases h
      exact hmem.symm
    · cases h
  · cases h

/-- Every item that was read was let through by the items' check. -/
theorem of_eachFrom {check : Check α} {P : α → Prop} (hcheck : ∀ v a, check v = .ok a → P a)
    {i : Nat} {vs : List Json} {xs : List α} (h : eachFrom check i vs = .ok xs) :
    ∀ x ∈ xs, P x := by
  intro x hx
  have hmem : (.ok x : Checked α) ∈ vs.map check := by
    rw [eachFrom_eq_ok_iff.1 h]
    exact List.mem_map.2 ⟨x, hx, rfl⟩
  obtain ⟨v, -, hv⟩ := List.mem_map.1 hmem
  exact hcheck v x hv

theorem length_of_eachFrom {check : Check α} {i : Nat} {vs : List Json} {xs : List α}
    (h : eachFrom check i vs = .ok xs) : xs.length = vs.length := by
  have hlength := congrArg List.length (eachFrom_eq_ok_iff.1 h)
  simpa using hlength.symm

theorem of_tupleOf {check : Check α} {P : α → Prop} (hcheck : ∀ v a, check v = .ok a → P a)
    (v : Json) (xs : List α) (h : tupleOf check v = .ok xs) : ∀ x ∈ xs, P x := by
  cases v with
  | arr vs => exact of_eachFrom hcheck h
  | _ => cases h

/-- A tuple with a fixed number of places has them all. -/
theorem length_of_tupleOfSize {size : Nat} {check : Check α} (v : Json) (xs : List α)
    (h : tupleOfSize size check v = .ok xs) : xs.length = size := by
  cases v with
  | arr vs =>
    simp only [tupleOfSize] at h
    by_cases hlt : size < vs.length
    · rw [if_pos hlt] at h
      cases h
    · rw [if_neg hlt] at h
      obtain ⟨g, u, hg, hu, hxs⟩ := ap_eq_ok_iff.1 h
      obtain ⟨ys, hys, rfl⟩ := map_eq_ok_iff.1 hg
      -- a place that is missing is a violation
      have hmissing : size - vs.length = 0 := by
        cases hn : size - vs.length with
        | zero => rfl
        | succ n =>
          rw [hn] at hu
          cases hu
      have hlength := length_of_eachFrom hys
      have hsame : ys = xs := hxs
      rw [← hsame]
      omega
  | _ => cases h

end Schema

/-! ## Cast members and scenes -/

/-- A cast member that the schema lets through has a name. -/
theorem CastMember.name_ne_empty_of_check (v : Json) (m : CastMember)
    (h : CastMember.check v = .ok m) : m.name ≠ "" := by
  cases v with
  | obj entries =>
    obtain ⟨_, wardrobe, h2, -, rfl⟩ := ap_eq_ok_iff.1 h
    obtain ⟨_, description, h1, -, rfl⟩ := ap_eq_ok_iff.1 h2
    obtain ⟨name, hname, rfl⟩ := map_eq_ok_iff.1 h1
    exact of_requiredEntry ne_empty_of_nonemptyText hname
  | _ => cases h

/-- What the schema of scenes lets through is well formed. -/
theorem Scene.wellFormed_of_check {v : Json} {s : Scene} (h : Scene.check v = .ok s) :
    s.WellFormed := by
  cases v with
  | obj entries =>
    -- the fields from the last to the first, as the checks are nested
    obtain ⟨_, focusTarget, h7, -, rfl⟩ := ap_eq_ok_iff.1 h
    obtain ⟨_, mechanicLock, h6, -, rfl⟩ := ap_eq_ok_iff.1 h7
    obtain ⟨_, microDetails, h5, -, rfl⟩ := ap_eq_ok_iff.1 h6
    obtain ⟨_, anchors, h4, hanchors, rfl⟩ := ap_eq_ok_iff.1 h5
    obtain ⟨_, cast, h3, hcast, rfl⟩ := ap_eq_ok_iff.1 h4
    obtain ⟨_, lens, h2, hlens, rfl⟩ := ap_eq_ok_iff.1 h3
    obtain ⟨_, framing, h1, hframing, rfl⟩ := ap_eq_ok_iff.1 h2
    obtain ⟨sceneHeart, -, rfl⟩ := map_eq_ok_iff.1 h1
    refine ⟨?_, ?_, ?_, ?_⟩
    · exact of_optionalEntry (P := fun f => f = "" ∨ f ∈ framings) (Or.inl rfl)
        (mem_of_choiceOrEmpty _) hframing
    · exact of_optionalEntry (P := fun l => l = "" ∨ l ∈ lenses) (Or.inl rfl)
        (mem_of_choiceOrEmpty _) hlens
    · exact of_optionalEntry (P := fun ms => ∀ m ∈ ms, m.name ≠ "") (List.forall_mem_nil _)
        (of_tupleOf CastMember.name_ne_empty_of_check) hcast
    · exact of_optionalEntry (P := fun xs => xs.length = anchorSlots) (by simp)
        length_of_tupleOfSize hanchors
  | _ => cases h

/-- The scenes that the schema accepts are the well-formed ones. -/
theorem Scene.exists_check_eq_ok_iff {s : Scene} :
    (∃ v, Scene.check v = .ok s) ↔ s.WellFormed := by
  constructor
  · rintro ⟨v, hv⟩
    exact Scene.wellFormed_of_check hv
  · intro h
    exact ⟨s.toJson, Scene.check_toJson h⟩

end ScenePrompt
