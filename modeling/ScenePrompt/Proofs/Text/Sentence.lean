/-
  What the count of sentences counts.

  A sentence is closed by a maximal run of terminal marks, and what stands behind the last run is
  one more if there is any ink in it, a sentence that was left open.  `countSentences` makes one walk
  over a text and carries two flags.  That the walk counts the runs, and looks at the right ink, is
  seen by cutting the text behind its last mark (`forall_or_exists_last_mark`):

  * up to and with a mark the walk counts runs and nothing else, as every sentence is closed
    (`countFrom_append_mark`);
  * where there are no marks it only looks for ink (`countFrom_of_no_mark`);
  * behind a mark it starts afresh, unless the run goes on (`countFrom_append_of_mark`).

  The last of these is additivity.  The other laws compare two texts that differ in one part, and
  there it is enough that the walk gives the same for the two parts under any flags, whatever stands
  in front of them (`countFrom_append_congr`).

  One may count in other ways: `countByCutting` trims the text, cuts it at the runs and looks at what
  is left behind the last one.  It comes to the same.
-/
import Mathlib.Data.List.DropRight
import ScenePrompt.Proofs.Text.Run
import ScenePrompt.Text.Sentence

namespace ScenePrompt.Text

/-! ## Marks in a text -/

/-- What stands behind the last mark, and the whole text if there is none. -/
def afterLastMark (text : List Char) : List Char := text.rtakeWhile fun c => !isTerminal c

/-- The text ends with a mark. -/
def EndsInMark (s : String) : Prop := ∃ front c, s.toList = front ++ [c] ∧ isTerminal c = true

/-- The text begins with a mark. -/
def BeginsWithMark (s : String) : Prop := ∃ c rest, s.toList = c :: rest ∧ isTerminal c = true

/-- Some character of the text is no blank. -/
def HasInk (text : List Char) : Prop := ∃ c ∈ text, isBlank c = false

instance (text : List Char) : Decidable (HasInk text) :=
  decidable_of_iff ((text.any fun c => !isBlank c) = true) (by simp [HasInk])

@[simp]
theorem not_hasInk_nil : ¬ HasInk [] := by simp [HasInk]

@[simp]
theorem hasInk_cons {c : Char} {cs : List Char} :
    HasInk (c :: cs) ↔ isBlank c = false ∨ HasInk cs := by simp [HasInk]

theorem not_hasInk_iff {text : List Char} : ¬ HasInk text ↔ ∀ c ∈ text, isBlank c = true := by
  simp [HasInk]

/-- The count made piece by piece: the text is trimmed and cut at its runs of marks; there are as
    many sentences as runs, or one if there are none, and one more if the last piece is not blank. -/
def countByCutting (s : String) : Nat :=
  let trimmed := trim s
  if trimmed = "" then 0
  else
    let ends := runs isTerminal trimmed.toList
    if ends = [] then 1
    else ends.length + if trim (String.ofList (afterLastMark trimmed.toList)) = "" then 0 else 1

/-- A text has no marks, or there is a last one. -/
theorem forall_or_exists_last_mark (text : List Char) :
    (∀ c ∈ text, isTerminal c = false) ∨
      ∃ front c tail, text = front ++ c :: tail ∧ isTerminal c = true ∧
        ∀ d ∈ tail, isTerminal d = false := by
  induction text with
  | nil => exact Or.inl (List.forall_mem_nil _)
  | cons c cs ih =>
    rcases ih with hnone | ⟨front, d, tail, rfl, hd, htail⟩
    · cases hc : isTerminal c with
      | true => exact Or.inr ⟨[], c, cs, rfl, hc, hnone⟩
      | false => exact Or.inl (List.forall_mem_cons.2 ⟨hc, hnone⟩)
    · exact Or.inr ⟨c :: front, d, tail, rfl, hd, htail⟩

/-- Without a mark the whole text stands behind the last one. -/
theorem afterLastMark_of_no_mark {text : List Char} (h : ∀ c ∈ text, isTerminal c = false) :
    afterLastMark text = text := by
  refine List.rtakeWhile_eq_self_iff.2 ?_
  intro c hc
  rw [h c hc]
  rfl

/-- What stands behind a mark, and has no mark in it, is what stands behind the last one. -/
theorem afterLastMark_append {c : Char} (hc : isTerminal c = true) {tail : List Char}
    (htail : ∀ d ∈ tail, isTerminal d = false) (front : List Char) :
    afterLastMark (front ++ c :: tail) = tail := by
  have hreverse : (front ++ c :: tail).reverse = tail.reverse ++ c :: front.reverse := by simp
  unfold afterLastMark List.rtakeWhile
  rw [hreverse, List.takeWhile_append_of_pos, List.takeWhile_cons_of_neg, List.append_nil,
    List.reverse_reverse]
  · simp [hc]
  · intro d hd
    rw [htail d (List.mem_reverse.1 hd)]
    rfl

/-! ## The walk over parts of a text -/

section walk

variable {openInk inMarks : Bool} {c : Char}

/-- Where there are no marks the walk only looks for ink. -/
theorem countFrom_of_no_mark {text : List Char} (h : ∀ c ∈ text, isTerminal c = false) :
    countFrom openInk inMarks text =
      if openInk = true ∨ HasInk text then 1 else 0 := by
  induction text generalizing openInk inMarks with
  | nil => simp [countFrom]
  | cons c cs ih =>
    obtain ⟨hc, hcs⟩ := List.forall_mem_cons.1 h
    rw [countFrom, if_neg (by rw [hc]; decide), ih hcs]
    cases openInk <;> cases hblank : isBlank c <;> simp [hblank]

/-- Up to and with a mark the walk counts the runs. -/
theorem countFrom_append_mark (hc : isTerminal c = true) (front : List Char) :
    countFrom openInk inMarks (front ++ [c]) = runCount isTerminal inMarks (front ++ [c]) := by
  induction front generalizing openInk inMarks with
  | nil => cases inMarks <;> simp [countFrom, runCount, hc]
  | cons d front ih =>
    rw [List.cons_append, countFrom, runCount]
    -- a mark opens a run or goes on with one, and in between there is nothing to count
    cases hd : isTerminal d with
    | true =>
      rw [if_pos rfl, ih]
      cases inMarks <;> simp
    | false =>
      rw [if_neg (by decide), ih]
      simp

/-- Behind a mark a run goes on, or the walk starts afresh. -/
theorem countFrom_append_of_mark (hc : isTerminal c = true) {after : List Char}
    (hafter : ∀ d, after.head? = some d → isTerminal d = false) (front : List Char) :
    countFrom openInk inMarks (front ++ c :: after) =
      countFrom openInk inMarks (front ++ [c]) + countFrom false false after := by
  induction front generalizing openInk inMarks with
  | nil =>
    -- the flag of the run makes a difference to a mark only
    have hflag : countFrom false true after = countFrom false false after := by
      cases after with
      | nil => rfl
      | cons d after => simp [countFrom, hafter d rfl]
    simp [countFrom, hc, hflag]
  | cons d front ih =>
    rw [List.cons_append, List.cons_append, countFrom, countFrom]
    split
    · rw [ih, Nat.add_assoc]
    · exact ih

/-- Parts that the walk does not tell apart may stand in for each other. -/
theorem countFrom_append_congr {text text' : List Char}
    (h : ∀ openInk inMarks, countFrom openInk inMarks text = countFrom openInk inMarks text')
    (front : List Char) :
    countFrom openInk inMarks (front ++ text) = countFrom openInk inMarks (front ++ text') := by
  induction front generalizing openInk inMarks with
  | nil => exact h openInk inMarks
  | cons d front ih =>
    rw [List.cons_append, List.cons_append, countFrom, countFrom, ih, ih]

/-- No blank is a mark. -/
theorem isTerminal_of_isBlank (hc : isBlank c = true) : isTerminal c = false := by
  cases hmark : isTerminal c with
  | false => rfl
  | true =>
    rw [isBlank_of_isTerminal hmark] at hc
    cases hc

/-- Blanks in front of a text leave no trace. -/
theorem countFrom_blank_append {bs : List Char} (hbs : ∀ c ∈ bs, isBlank c = true)
    (text : List Char) : countFrom false false (bs ++ text) = countFrom false false text := by
  induction bs with
  | nil => rfl
  | cons b bs ih =>
    obtain ⟨hb, hrest⟩ := List.forall_mem_cons.1 hbs
    rw [List.cons_append, countFrom, if_neg (by rw [isTerminal_of_isBlank hb]; decide), hb]
    exact ih hrest

/-- Nor do they behind it. -/
theorem countFrom_append_blank {bs : List Char} (hbs : ∀ c ∈ bs, isBlank c = true)
    (text : List Char) :
    countFrom openInk inMarks (text ++ bs) = countFrom openInk inMarks text := by
  have hmarks : ∀ c ∈ bs, isTerminal c = false := fun c hc => isTerminal_of_isBlank (hbs c hc)
  have hnone : ∀ openInk inMarks, countFrom openInk inMarks bs = countFrom openInk inMarks [] := by
    intro openInk inMarks
    rw [countFrom_of_no_mark hmarks]
    cases openInk with
    | true => rfl
    | false =>
      refine if_neg ?_
      rintro (hopen | ⟨c, hc, hink⟩)
      · cases hopen
      · rw [hbs c hc] at hink
        cases hink
  rw [countFrom_append_congr hnone, List.append_nil]

/-- Within a run further marks count for nothing. -/
theorem countFrom_marks_append {marks : List Char} (hmarks : ∀ c ∈ marks, isTerminal c = true)
    (text : List Char) : countFrom false true (marks ++ text) = countFrom false true text := by
  induction marks with
  | nil => rfl
  | cons m marks ih =>
    obtain ⟨hm, hrest⟩ := List.forall_mem_cons.1 hmarks
    rw [List.cons_append, countFrom, if_pos hm, ih hrest]
    exact Nat.zero_add _

/-- Marks behind a mark lengthen its run. -/
theorem countFrom_mark_marks (hc : isTerminal c = true) {marks : List Char}
    (hmarks : ∀ c ∈ marks, isTerminal c = true) (text : List Char) :
    countFrom openInk inMarks (c :: (marks ++ text)) = countFrom openInk inMarks (c :: text) := by
  rw [countFrom, if_pos hc, countFrom, if_pos hc, countFrom_marks_append hmarks]

/-- So do marks in front of one. -/
theorem countFrom_marks_mark (hc : isTerminal c = true) {marks : List Char}
    (hmarks : ∀ c ∈ marks, isTerminal c = true) (text : List Char) :
    countFrom openInk inMarks (marks ++ c :: text) = countFrom openInk inMarks (c :: text) := by
  cases marks with
  | nil => rfl
  | cons m marks =>
    obtain ⟨hm, hrest⟩ := List.forall_mem_cons.1 hmarks
    have hone : countFrom false true (c :: text) = countFrom false true text :=
      countFrom_marks_append (List.forall_mem_singleton.2 hc) text
    rw [List.cons_append, countFrom, if_pos hm, countFrom_marks_append hrest, hone, countFrom,
      if_pos hc]

end walk

/-! ## The count of a text -/

/-- **Sentences are the runs of marks, and the ink behind the last one.** -/
theorem countSentences_eq (s : String) :
    countSentences s = (runs isTerminal s.toList).length +
      if HasInk (afterLastMark s.toList) then 1 else 0 := by
  unfold countSentences
  rw [← runCount_eq_length_runs]
  rcases forall_or_exists_last_mark s.toList with hnone | ⟨front, c, tail, hsplit, hc, htail⟩
  · rw [countFrom_of_no_mark hnone, runCount_eq_zero hnone, afterLastMark_of_no_mark hnone]
    simp
  · have hhead : ∀ d, tail.head? = some d → isTerminal d = false :=
      fun d hd => htail d (List.mem_of_head? hd)
    have hruns : runCount isTerminal false (front ++ c :: tail) =
        runCount isTerminal false (front ++ [c]) := by
      rw [← List.singleton_append, ← List.append_assoc, runCount_append, runCount_eq_zero htail,
        Nat.add_zero]
    rw [hsplit, countFrom_append_of_mark hc hhead, countFrom_append_mark hc,
      countFrom_of_no_mark htail, hruns, afterLastMark_append hc htail]
    simp

/-- Blanks around a text make no difference. -/
theorem countSentences_surround {front back : String} (hfront : isBlankText front = true)
    (hback : isBlankText back = true) (s : String) :
    countSentences (front ++ s ++ back) = countSentences s := by
  unfold countSentences
  rw [String.toList_append, String.toList_append,
    countFrom_append_blank (isBlankText_iff.1 hback),
    countFrom_blank_append (isBlankText_iff.1 hfront)]

/-- Trimming a text does not change the number of its sentences. -/
theorem countSentences_trim (s : String) : countSentences (trim s) = countSentences s := by
  obtain ⟨bs, es, hbs, hes, hsplit⟩ := exists_append_trimChars s.toList
  unfold countSentences
  rw [toList_trim]
  conv => rhs; rw [hsplit, countFrom_append_blank hes, countFrom_blank_append hbs]

/-- Marks put next to a mark make no difference. -/
theorem countSentences_lengthen {front marks back : String}
    (hmarks : ∀ c ∈ marks.toList, isTerminal c = true)
    (hnext : EndsInMark front ∨ BeginsWithMark back) :
    countSentences (front ++ marks ++ back) = countSentences (front ++ back) := by
  unfold countSentences
  rw [String.toList_append, String.toList_append, String.toList_append, List.append_assoc]
  -- the marks are next to the mark in front of them or to the one behind
  rcases hnext with ⟨before, c, hfront, hc⟩ | ⟨c, rest, hback, hc⟩
  · rw [hfront, List.append_assoc, List.append_assoc]
    exact countFrom_append_congr (fun _ _ => countFrom_mark_marks hc hmarks _) before
  · rw [hback]
    exact countFrom_append_congr (fun _ _ => countFrom_marks_mark hc hmarks _) front.toList

/-- A text that goes on behind a mark, and not with one, has the sentences of both parts. -/
theorem countSentences_append {s s' : String} (hs : EndsInMark s) (hs' : ¬ BeginsWithMark s') :
    countSentences (s ++ s') = countSentences s + countSentences s' := by
  obtain ⟨front, c, hfront, hc⟩ := hs
  have hhead : ∀ d, s'.toList.head? = some d → isTerminal d = false := by
    intro d hd
    obtain ⟨rest, hrest⟩ := List.head?_eq_some_iff.1 hd
    exact Bool.eq_false_iff.2 fun hmark => hs' ⟨d, rest, hrest, hmark⟩
  unfold countSentences
  rw [String.toList_append, hfront, List.append_assoc, List.singleton_append]
  exact countFrom_append_of_mark hc hhead front

/-- Counting piece by piece comes to the same. -/
theorem countByCutting_eq (s : String) : countByCutting s = countSentences s := by
  have hopen : ∀ text : List Char, trim (String.ofList text) = "" ↔ ¬ HasInk text := by
    intro text
    rw [trim_eq_empty, isBlankText_iff, String.toList_ofList, not_hasInk_iff]
  unfold countByCutting
  rw [← countSentences_trim s]
  by_cases hempty : trim s = ""
  · rw [if_pos hempty, hempty]
    rfl
  · rw [if_neg hempty, countSentences_eq (trim s)]
    by_cases hends : runs isTerminal (trim s).toList = []
    · -- without an end the last piece is the whole text, and there is ink in it
      have hnone : ∀ c ∈ (trim s).toList, isTerminal c = false := by
        refine runCount_eq_zero_iff.1 ?_
        rw [runCount_eq_length_runs, hends]
        rfl
      have hink : HasInk (afterLastMark (trim s).toList) := by
        rw [afterLastMark_of_no_mark hnone]
        by_contra hblank
        refine hempty ?_
        rw [← trim_trim, ← String.ofList_toList (s := trim s)]
        exact (hopen _).2 hblank
      rw [if_pos hends, if_pos hink, hends]
      rfl
    · rw [if_neg hends]
      by_cases hink : HasInk (afterLastMark (trim s).toList)
      · rw [if_pos hink, if_neg fun hnone => (hopen _).1 hnone hink]
      · rw [if_neg hink, if_pos ((hopen _).2 hink)]

/-- **Counting sentences.**  A text has as many sentences as it has maximal runs of marks, and one
    more if and only if there is ink behind the last run, or anywhere if there is none; counting
    them piece by piece comes to the same.  It has none exactly if it is blank.  Blanks around a
    text and marks that lengthen a run make no difference; and a text that ends with a mark has its
    sentences besides those of any text that follows and does not begin with one.  The runs that are
    meant are the stretches of marks that can be made no longer. -/
theorem sentences_are_runs_and_open_ink :
    (∀ s : String, countSentences s = (runs isTerminal s.toList).length +
      if HasInk (afterLastMark s.toList) then 1 else 0) ∧
    (∀ s : String, countSentences s = countByCutting s) ∧
    (∀ s : String, countSentences s = 0 ↔ isBlankText s = true) ∧
    (∀ front s back : String, isBlankText front = true → isBlankText back = true →
      countSentences (front ++ s ++ back) = countSentences s) ∧
    (∀ front marks back : String, (∀ c ∈ marks.toList, isTerminal c = true) →
      EndsInMark front ∨ BeginsWithMark back →
      countSentences (front ++ marks ++ back) = countSentences (front ++ back)) ∧
    (∀ s s' : String, EndsInMark s → ¬ BeginsWithMark s' →
      countSentences (s ++ s') = countSentences s + countSentences s') ∧
    ∀ (s : String) (run : List Char),
      run ∈ runs isTerminal s.toList ↔ IsRun isTerminal run s.toList := by
  refine ⟨countSentences_eq, fun s => (countByCutting_eq s).symm,
    fun s => countSentences_eq_zero_iff, ?_, ?_, ?_, fun s run => mem_runs_iff⟩
  · intro front s back hfront hback
    exact countSentences_surround hfront hback s
  · intro front marks back hmarks hnext
    exact countSentences_lengthen hmarks hnext
  · intro s s' hs hs'
    exact countSentences_append hs hs'

/-- Three runs, between odd blanks and with an open sentence behind them; one of them made longer in
    its middle; and a text put behind a mark. -/
theorem whistle_sentences :
    countSentences "\u2003..a?! ! b\x1f\n" = 4 ∧
      countSentences "..a?" + 1 = countSentences ("..a?" ++ "!?." ++ "! b") ∧
      countSentences ("Wait?" ++ " \u3000so.") = 2 := by
  obtain ⟨-, -, -, hblank, hmarks, hadd, -⟩ := sentences_are_runs_and_open_ink
  refine ⟨?_, ?_, ?_⟩
  · exact (hblank "\u2003" "..a?! ! b" "\x1f\n" (by decide) (by decide)).trans (by decide +kernel)
  · have hends : EndsInMark "..a?" := ⟨"..a".toList, '?', by decide, by decide⟩
    have hmore : ∀ c ∈ "!?.".toList, isTerminal c = true := List.all_eq_true.1 (by decide)
    rw [hmarks "..a?" "!?." "! b" hmore (Or.inl hends)]
    decide +kernel
  · have hends : EndsInMark "Wait?" := ⟨"Wait".toList, '?', by decide, by decide⟩
    have hbegins : ¬ BeginsWithMark " \u3000so." := by
      rintro ⟨c, rest, hsplit, hc⟩
      have hhead : " \u3000so.".toList.head? = some ' ' := by decide
      rw [hsplit] at hhead
      obtain rfl : c = ' ' := Option.some.inj hhead
      exact absurd hc (by decide)
    rw [hadd _ _ hends hbegins]
    decide +kernel

end ScenePrompt.Text
