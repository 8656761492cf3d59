/-
  The maximal runs of a class of characters.

  A stretch of a text is a MAXIMAL RUN of a class (`IsRun`) if it holds characters of the class only,
  at least one of them, and cannot be made longer on either side: what stands before it ends, and
  what comes after it begins, with a character that is not of the class.  `runs` lists them from
  left to right.  It cuts the text at every character that is not of the class, and leaves out the
  pieces that are empty because two such characters stand side by side.

  Everything about `runs` follows from what one such character does to it: it keeps apart what stands
  on either side of it (`runs_append_cons`).  A text without one is a run by itself, or empty.

  The walk `runCount` counts the runs without listing them.  Where it goes on inside a run that has
  been counted, the first piece of what is left is the rest of that run, whether it is empty or
  not, and must not be counted again; hence the two parts of `runCount_pieces`.
-/
import Mathlib.Data.List.Basic
import ScenePrompt.Text.Run

namespace ScenePrompt.Text

variable {p : Char → Bool}

/-- The stretch is one of the text, in the class throughout, and can be made no longer. -/
def IsRun (p : Char → Bool) (run text : List Char) : Prop :=
  run ≠ [] ∧ (∀ c ∈ run, p c = true) ∧
    ∃ before after, text = before ++ (run ++ after) ∧
      (∀ c, before.getLast? = some c → p c = false) ∧ (∀ c, after.head? = some c → p c = false)

/-- The maximal runs of a class, from left to right. -/
def runs (p : Char → Bool) (text : List Char) : List (List Char) :=
  (text.splitOnP fun c => !p c).filter (· ≠ [])

/-! ## Runs on either side of a gap -/

/-- A character that is not of the class keeps the runs on its two sides apart. -/
theorem runs_append_cons {c : Char} (hc : p c = false) (before after : List Char) :
    runs p (before ++ c :: after) = runs p before ++ runs p after := by
  unfold runs
  rw [List.splitOnP_append_cons before after (by rw [hc]; rfl), List.filter_append]

theorem runs_nil : runs p [] = [] := by
  unfold runs
  rw [List.splitOnP_nil]
  rfl

/-- A text in the class throughout is its only run. -/
theorem runs_eq_singleton {text : List Char} (hne : text ≠ []) (h : ∀ c ∈ text, p c = true) :
    runs p text = [text] := by
  have hwhole : text.splitOnP (fun c => !p c) = [text] :=
    List.splitOnP_eq_singleton fun c hc => by rw [h c hc]; rfl
  unfold runs
  rw [hwhole, List.filter_cons_of_pos (by simpa using hne), List.filter_nil]

/-- A text is in the class throughout, or there is a first character in it that is not. -/
theorem forall_or_exists_gap (p : Char → Bool) (text : List Char) :
    (∀ c ∈ text, p c = true) ∨
      ∃ front c rest, text = front ++ c :: rest ∧ (∀ d ∈ front, p d = true) ∧ p c = false := by
  induction text with
  | nil => exact Or.inl (List.forall_mem_nil _)
  | cons c cs ih =>
    cases hc : p c with
    | false => exact Or.inr ⟨[], c, cs, rfl, List.forall_mem_nil _, hc⟩
    | true =>
      rcases ih with hall | ⟨front, d, rest, rfl, hfront, hd⟩
      · exact Or.inl (List.forall_mem_cons.2 ⟨hc, hall⟩)
      · exact Or.inr ⟨c :: front, d, rest, rfl, List.forall_mem_cons.2 ⟨hc, hfront⟩, hd⟩

/-! ## The runs listed are the maximal ones -/

/-- A run behind a gap is one of the whole text. -/
theorem IsRun.append_cons {run rest : List Char} (h : IsRun p run rest) {c : Char}
    (hc : p c = false) (front : List Char) : IsRun p run (front ++ c :: rest) := by
  obtain ⟨hne, hall, before, after, rfl, hbefore, hafter⟩ := h
  refine ⟨hne, hall, front ++ c :: before, after, ?_, ?_, hafter⟩
  · rw [List.append_assoc, List.cons_append]
  · intro d hd
    rw [List.getLast?_append_of_ne_nil _ (List.cons_ne_nil c before), List.getLast?_cons] at hd
    cases hlast : before.getLast? with
    | none =>
      rw [hlast] at hd
      obtain rfl : c = d := Option.some.inj hd
      exact hc
    | some e =>
      rw [hlast] at hd
      obtain rfl : e = d := Option.some.inj hd
      exact hbefore e hlast

/-- What is listed is a maximal run.  By induction on the length of the text, which is cut at its
    first gap: the front is one run or nothing, and the rest is shorter. -/
theorem isRun_of_mem_runs {run text : List Char} (h : run ∈ runs p text) : IsRun p run text := by
  rcases forall_or_exists_gap p text with hall | ⟨front, c, rest, rfl, hfront, hc⟩
  · by_cases hne : text = []
    · subst hne
      rw [runs_nil] at h
      cases h
    · rw [runs_eq_singleton hne hall] at h
      obtain rfl := List.mem_singleton.1 h
      exact ⟨hne, hall, [], [], by simp, by simp, by simp⟩
  · rw [runs_append_cons hc] at h
    rcases List.mem_append.1 h with h | h
    · -- nothing is left of the front but itself
      by_cases hne : front = []
      · subst hne
        rw [runs_nil] at h
        cases h
      · rw [runs_eq_singleton hne hfront] at h
        obtain rfl := List.mem_singleton.1 h
        exact ⟨hne, hfront, [], c :: rest, rfl, by simp, by simpa using hc⟩
    · exact (isRun_of_mem_runs h).append_cons hc front
termination_by text.length
decreasing_by
  rename_i hsplit _ _
  rw [hsplit]
  simp only [List.length_append, List.length_cons]
  omega

/-- A maximal run is listed: on both sides of it there is a gap or nothing, and gaps keep runs
    apart. -/
theorem mem_runs_of_isRun {run text : List Char} (h : IsRun p run text) : run ∈ runs p text := by
  obtain ⟨hne, hall, before, after, rfl, hbefore, hafter⟩ := h
  -- first what comes after the run, then what stands before it
  have hbehind : run ∈ runs p (run ++ after) := by
    cases after with
    | nil =>
      rw [List.append_nil, runs_eq_singleton hne hall]
      exact List.mem_singleton_self run
    | cons c after =>
      rw [runs_append_cons (hafter c rfl), runs_eq_singleton hne hall]
      exact List.mem_append_left _ (List.mem_singleton_self run)
  rcases List.eq_nil_or_concat before with rfl | ⟨front, c, rfl⟩
  · exact hbehind
  · rw [List.concat_eq_append] at hbefore ⊢
    have hc : p c = false := hbefore c List.getLast?_concat
    rw [List.append_assoc, List.singleton_append, runs_append_cons hc]
    exact List.mem_append_right _ hbehind

/-- **The runs that are listed are the maximal ones.** -/
theorem mem_runs_iff {run text : List Char} : run ∈ runs p text ↔ IsRun p run text :=
  ⟨isRun_of_mem_runs, mem_runs_of_isRun⟩

/-! ## Counting them -/

/-- The walk counts the pieces that are not empty; behind a character of the class it leaves out the
    first piece, which is the rest of a run that has been counted. -/
theorem runCount_pieces (p : Char → Bool) (text : List Char) :
    runCount p false text = (runs p text).length ∧
      runCount p true text =
        ((text.splitOnP fun c => !p c).tail.filter (· ≠ [])).length := by
  unfold runs
  induction text with
  | nil => exact ⟨rfl, rfl⟩
  | cons c cs ih =>
    obtain ⟨ihOut, ihIn⟩ := ih
    obtain ⟨piece, pieces, hpieces⟩ :=
      List.exists_cons_of_ne_nil (List.splitOnP_ne_nil (fun c => !p c) cs)
    rw [hpieces] at ihOut ihIn
    rw [List.splitOnP_cons_eq_if_modifyHead, hpieces]
    -- a gap opens a new piece; a character of the class makes the first piece longer, which counts
    -- once
    cases hc : p c with
    | false => simp [runCount, hc, ihOut]
    | true => simp [runCount, hc, ihIn, Nat.add_comm]

/-- **The walk counts the maximal runs.** -/
theorem runCount_eq_length_runs (p : Char → Bool) (text : List Char) :
    runCount p false text = (runs p text).length :=
  (runCount_pieces p text).1

end ScenePrompt.Text
