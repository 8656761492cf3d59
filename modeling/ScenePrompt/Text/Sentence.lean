/-
  Counting sentences.

  A sentence ends at a run of TERMINAL MARKS — full stops, exclamation and question marks — and
  a run counts once, however long: `Wait...` and `What?!` are one sentence each.  Text after the
  last run is a sentence that was left open, and counts if it holds any ink.

  `countSentences` is one walk over the characters.  It carries what the count needs to know of
  the past: whether the previous character was a mark (then a further mark only lengthens its
  run), and whether ink has been seen since the last mark (then the end of the text closes an
  open sentence).

  The count makes no use of grammar.  `e.g. a fox` has two marks apart from each other and hence
  counts as three sentences; the rule that asks for one sentence is a soft one for that reason.
-/
import ScenePrompt.Text.Run

namespace ScenePrompt.Text

/-- The marks that end a sentence. -/
def isTerminal (c : Char) : Bool := c == '.' || c == '!' || c == '?'

/-- Walk over a text: `openInk` — there is ink since the last mark; `inMarks` — the character
    just before was a mark. -/
def countFrom (openInk inMarks : Bool) : List Char → Nat
  | [] => if openInk then 1 else 0
  | c :: cs =>
    if isTerminal c then (if inMarks then 0 else 1) + countFrom false true cs
    else countFrom (openInk || !isBlank c) false cs

/-- The number of sentences of a text. -/
def countSentences (s : String) : Nat := countFrom false false s.toList

/-- A terminal mark is ink. -/
theorem isBlank_of_isTerminal {c : Char} (h : isTerminal c = true) : isBlank c = false := by
  simp only [isTerminal, Bool.or_eq_true, beq_iff_eq] at h
  rcases h with (rfl | rfl) | rfl <;> decide

/-- As long as no mark was seen, nothing is counted exactly when there is no ink. -/
theorem countFrom_eq_zero_iff (openInk : Bool) (cs : List Char) :
    countFrom openInk false cs = 0 ↔ openInk = false ∧ ∀ c ∈ cs, isBlank c = true := by
  induction cs generalizing openInk with
  | nil => cases openInk <;> simp [countFrom]
  | cons c cs ih =>
    cases hc : isTerminal c with
    | true => simp [countFrom, hc, isBlank_of_isTerminal hc]
    | false => cases openInk <;> cases hb : isBlank c <;> simp [countFrom, hc, hb, ih]

/-- A text has no sentences exactly when it holds no ink. -/
theorem countSentences_eq_zero_iff {s : String} :
    countSentences s = 0 ↔ isBlankText s = true := by
  rw [countSentences, countFrom_eq_zero_iff, isBlankText_iff]
  simp

example : countSentences "Wait... what?! A fox" = 3 := by decide +kernel
example : countSentences " \u2003\n" = 0 := by decide +kernel
example : countSentences "e.g. a fox" = 3 := by decide +kernel

end ScenePrompt.Text
