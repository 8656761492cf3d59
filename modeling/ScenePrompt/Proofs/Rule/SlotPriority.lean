/-
  What is said about slot priority.

  The rule takes down the numbers of the required slots that are empty and of the optional ones that
  are not.  If there are slots of both kinds it has one message, and in the message both lists are
  written out (`checkSlotPriority_eq_ok`).

  The message can be read backwards.  A list of numbers is written with digits, commas and blanks
  (`isDigit_or_mem_of_mem_numberList`), so it ends in front of the first letter that follows it, and
  the two lists are found again (`numberLists_eq_of_priorityMessage_eq`).  How many numbers a list
  has shows in its commas (`count_comma_numberList`).  So when slots turn empty the message changes,
  unless there was nothing to say before and is nothing to say afterwards
  (`priorityMessages_eq_iff`).
-/
import ScenePrompt.Proofs.Rule.Emission

namespace ScenePrompt

namespace Rule

/-! ## The message -/

/-- What is said about empty required slots and filled optional ones. -/
def priorityMessage (blank filled : List Nat) : String :=
  "Required anchor slot(s) " ++ numberList blank ++ " are empty while optional slot(s) " ++
    numberList filled ++ " are filled; consider moving anchors into the first " ++
    toString requiredAnchorSlots ++ " slots."

/-- There is something to say only if there are slots of both kinds. -/
def priorityMessages (blank filled : List Nat) : List String :=
  if blank = [] ∨ filled = [] then [] else [priorityMessage blank filled]

/-- There is nothing to say when one of the lists is empty. -/
theorem priorityMessages_eq_nil_iff {blank filled : List Nat} :
    priorityMessages blank filled = [] ↔ blank = [] ∨ filled = [] := by
  unfold priorityMessages
  split
  · rename_i hquiet
    exact iff_of_true rfl hquiet
  · rename_i hloud
    exact iff_of_false (by simp) hloud

/-- With five slots the rule does not break, and what it says is made of two lists of slot numbers,
    counted from one: the required slots without text, and the optional ones with text. -/
theorem checkSlotPriority_eq_ok {s : Scene} (h : s.environmentAnchors.length = anchorSlots) :
    checkSlotPriority s = .ok (priorityMessages
      (slotNumbers (· = "") 1 (s.environmentAnchors.take 3))
      (slotNumbers (· ≠ "") 4 (s.environmentAnchors.drop 3))) := by
  have hslots : ¬ s.environmentAnchors.length < requiredAnchorSlots := by rw [h]; decide
  unfold checkSlotPriority priorityMessages
  rw [if_neg hslots]
  exact (apply_ite Except.ok _ _ _).symm

/-- No numbers are taken down when no slot satisfies `p`. -/
theorem slotNumbers_eq_nil_iff {p : String → Bool} {i : Nat} {slots : List String} :
    slotNumbers p i slots = [] ↔ ∀ slot ∈ slots, p slot = false := by
  induction slots generalizing i with
  | nil => simp [slotNumbers]
  | cons slot slots ih =>
    unfold slotNumbers
    cases hp : p slot <;> simp [hp, ih]

/-! ## Reading the message -/

/-- The characters of a list of numbers: their decimals, with a comma and a blank between. -/
theorem toList_numberList (ns : List Nat) :
    (numberList ns).toList = List.intercalate [',', ' '] (ns.map (Nat.toDigits 10)) := by
  simp [numberList, String.toList_intercalate, Function.comp_def]

theorem isDigit_of_mem_toDigits {c : Char} {n : Nat} (hc : c ∈ Nat.toDigits 10 n) :
    c.isDigit = true :=
  Nat.isDigit_of_mem_toDigits (by decide) (by decide) hc

/-- Numbers are listed in digits, with commas and blanks between. -/
theorem isDigit_or_mem_of_mem_numberList {c : Char} {ns : List Nat}
    (hc : c ∈ (numberList ns).toList) : c.isDigit = true ∨ c ∈ [',', ' '] := by
  rw [toList_numberList] at hc
  induction ns with
  | nil => cases hc
  | cons n ns ih =>
    cases ns with
    | nil => exact Or.inl (isDigit_of_mem_toDigits (by simpa using hc))
    | cons m ns =>
      rw [List.map_cons, List.map_cons, List.intercalate_cons_cons, List.mem_append,
        List.mem_append] at hc
      rcases hc with (hc | hc) | hc
      · exact Or.inl (isDigit_of_mem_toDigits hc)
      · exact Or.inr hc
      · exact ih hc

/-- There is a comma between any two numbers, and none besides. -/
theorem count_comma_numberList (n : Nat) (ns : List Nat) :
    (numberList (n :: ns)).toList.count ',' = ns.length := by
  have hdigits : ∀ k, (Nat.toDigits 10 k).count ',' = 0 := fun k =>
    List.count_eq_zero.2 fun hmem => absurd (isDigit_of_mem_toDigits hmem) (by decide)
  rw [toList_numberList]
  induction ns generalizing n with
  | nil => simp [hdigits]
  | cons m ns ih =>
    rw [List.map_cons, List.map_cons, List.intercalate_cons_cons, List.count_append,
      List.count_append, hdigits, ← List.map_cons, ih m]
    simp
    omega

/-- A shorter list of numbers, out of the same list, is written differently. -/
theorem numberList_inj {ns ms : List Nat} (hsub : ns.Sublist ms) (hns : ns ≠ [])
    (h : numberList ns = numberList ms) : ns = ms := by
  have hms : ms ≠ [] := fun hnil => hns (List.sublist_nil.1 (hnil ▸ hsub))
  obtain ⟨n, ns, rfl⟩ := List.exists_cons_of_ne_nil hns
  obtain ⟨m, ms, rfl⟩ := List.exists_cons_of_ne_nil hms
  -- as many commas are as many numbers, and a sublist of the same length is the list
  refine hsub.eq_of_length ?_
  rw [List.length_cons, List.length_cons, ← count_comma_numberList n ns, h,
    count_comma_numberList m ms]

/-- Where the words that follow begin with a blank and an `a`, a list of numbers ends in front of
    them. -/
theorem numberList_append_inj {ns ms : List Nat} {text xs ys : List Char}
    (htext : [' ', 'a'] <+: text)
    (h : (numberList ns).toList ++ (text ++ xs) = (numberList ms).toList ++ (text ++ ys)) :
    numberList ns = numberList ms ∧ xs = ys := by
  obtain ⟨text, rfl⟩ := htext
  -- up to the first `a` there is the list and one blank, since neither digits nor separators are an
  -- `a`
  have hends : ∀ (ns : List Nat) (rest : List Char),
      ((numberList ns).toList ++ (([' ', 'a'] ++ text) ++ rest)).takeWhile (· ≠ 'a') =
        (numberList ns).toList ++ [' '] := by
    intro ns rest
    have hnumbers : ∀ c ∈ (numberList ns).toList, decide (c ≠ 'a') = true := by
      intro c hc
      rw [decide_eq_true_eq]
      rintro rfl
      exact absurd (isDigit_or_mem_of_mem_numberList hc) (by decide)
    rw [List.takeWhile_append_of_pos hnumbers]
    rfl
  have hnumbers := congrArg (List.takeWhile (· ≠ 'a')) h
  rw [hends, hends, List.append_left_inj, String.toList_inj] at hnumbers
  rw [hnumbers, List.append_right_inj, List.append_right_inj] at h
  exact ⟨hnumbers, h⟩

/-- Both lists can be read off the message. -/
theorem numberLists_eq_of_priorityMessage_eq {blank blank' filled filled' : List Nat}
    (h : priorityMessage blank filled = priorityMessage blank' filled') :
    numberList blank = numberList blank' ∧ numberList filled = numberList filled' := by
  have hempty : [' ', 'a'] <+: " are empty while optional slot(s) ".toList := by decide +kernel
  have hfilled : [' ', 'a'] <+:
      " are filled; consider moving anchors into the first ".toList := by decide +kernel
  unfold priorityMessage at h
  rw [← String.toList_inj] at h
  simp only [String.toList_append, List.append_assoc] at h
  obtain ⟨hblank, h⟩ := numberList_append_inj hempty ((List.append_right_inj _).1 h)
  exact ⟨hblank, (numberList_append_inj hfilled h).1⟩

/-- Where more required slots are empty than before, and fewer optional ones filled, the same is
    said only if neither change matters: a required slot more, when no optional one is filled any
    longer; an optional one fewer, when no required one was empty to begin with. -/
theorem priorityMessages_eq_iff {blank blank' filled filled' : List Nat}
    (hblank : blank.Sublist blank') (hfilled : filled'.Sublist filled) :
    priorityMessages blank' filled' = priorityMessages blank filled ↔
      (blank ≠ blank' → filled' = []) ∧ (filled' ≠ filled → blank = []) := by
  unfold priorityMessages
  by_cases hquiet : blank = []
  · -- nothing was said
    subst hquiet
    simp only [true_or, if_true, implies_true, and_true]
    by_cases hstill : blank' = []
    · simp [hstill]
    · simp [hstill, Ne.symm hstill]
  · have hblank' : blank' ≠ [] := fun hnil => hquiet (List.sublist_nil.1 (hnil ▸ hblank))
    by_cases hnone : filled' = []
    · simp [hquiet, hnone, eq_comm]
    · -- something is said, and was before
      have hfilled' : filled ≠ [] := fun hnil => hnone (List.sublist_nil.1 (hnil ▸ hfilled))
      simp only [hquiet, hblank', hnone, hfilled', or_self, if_false, imp_false, ne_eq,
        Classical.not_not, List.cons.injEq, and_true]
      constructor
      · intro h
        obtain ⟨hblanks, hfilleds⟩ := numberLists_eq_of_priorityMessage_eq h
        exact ⟨numberList_inj hblank hquiet hblanks.symm, numberList_inj hfilled hnone hfilleds⟩
      · rintro ⟨rfl, rfl⟩
        rfl

end Rule

end ScenePrompt
