/-
  Maximal runs of characters of one class.

  Words are the maximal runs of ink in a text, and sentence ends are the maximal runs of
  terminal marks, so both are counted by the same walk.  `runCount p inside cs` is the number of
  maximal runs of `p` that BEGIN in `cs`; the flag says whether the character just before `cs`
  already belonged to a run, in which case a run that goes on is not counted again.

  A run is counted where it begins: at a character of the class whose predecessor is not of it.
-/
import ScenePrompt.Text.Blank

namespace ScenePrompt.Text

/-- The number of maximal runs of `p` that begin in the text; `inside` tells whether the text
    follows a character of the class. -/
def runCount (p : Char → Bool) (inside : Bool) : List Char → Nat
  | [] => 0
  | c :: cs => (if p c && !inside then 1 else 0) + runCount p (p c) cs

/-- The number of words: maximal runs of ink. -/
def wordCount (s : String) : Nat := runCount (fun c => !isBlank c) false s.toList

/-- A text without a character of the class has no run. -/
theorem runCount_eq_zero {p : Char → Bool} {cs : List Char} (h : ∀ c ∈ cs, p c = false)
    (inside : Bool) : runCount p inside cs = 0 := by
  induction cs generalizing inside with
  | nil => rfl
  | cons c cs ih =>
    have hc : p c = false := h c (by simp)
    simp [runCount, hc, ih (fun d hd => h d (by simp [hd]))]

/-- Runs of a text in two parts: those of the first, and those of the second as it follows the
    first. -/
theorem runCount_append (p : Char → Bool) (inside : Bool) (as bs : List Char) :
    runCount p inside (as ++ bs) =
      runCount p inside as + runCount p ((as.getLast?.map p).getD inside) bs := by
  induction as generalizing inside with
  | nil => simp [runCount]
  | cons a as ih =>
    rw [List.cons_append, runCount, runCount, ih]
    cases as with
    | nil => simp [runCount]
    | cons b bs => simp [List.getLast?_cons, Nat.add_assoc]

/-- Where none goes on from before, there is no run exactly if no character is of the class. -/
theorem runCount_eq_zero_iff {p : Char → Bool} {cs : List Char} :
    runCount p false cs = 0 ↔ ∀ c ∈ cs, p c = false := by
  refine ⟨?_, fun h => runCount_eq_zero h false⟩
  induction cs with
  | nil => simp
  | cons c cs ih =>
    cases hc : p c with
    | true => simp [runCount, hc]
    | false => simpa [runCount, hc] using ih

/-- A text has no words exactly if it is blank. -/
theorem wordCount_eq_zero_iff {s : String} : wordCount s = 0 ↔ isBlankText s = true := by
  rw [wordCount, runCount_eq_zero_iff, isBlankText_iff]
  simp only [Bool.not_eq_false']

example : wordCount " fox  eyes\u3000only\n" = 3 := by decide +kernel

end ScenePrompt.Text
