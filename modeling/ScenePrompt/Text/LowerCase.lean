/-
  Lower-casing of a whole text.

  Framing and lens are chosen by name, in any letter case, so their names are lower-cased before
  they are compared; a name that is still unknown is shown to the user in its lower-cased form.
  Hence the map has to be Unicode's full one and not ASCII's:

  * a letter goes to the lower-case form of `CaseTable`, and stays if it has none;
  * U+0130, the Turkish capital I with a dot, becomes `i` and a combining dot;
  * a capital sigma becomes the FINAL sigma when a letter with case stands before it and none
    after it, case-ignorable characters being looked through on both sides.

  An ASCII character becomes core's lower-case form of it, whatever stands around it
  (`lowerBetween_of_ascii`): the surroundings matter to a sigma only.
-/
import ScenePrompt.Text.CaseTable

namespace ScenePrompt.Text

/-! ## Single letters -/

/-- The shift of a code point under the first run that holds it. -/
def lowerShift (n : Nat) : Option Int :=
  lowerRuns.findSome? fun (first, last, stride, shift) =>
    if first ≤ n && n ≤ last && (n - first) % stride == 0 then some shift else none

/-- The lower-case form of one letter, where that is one letter. -/
def lowerChar (c : Char) : Char :=
  if c.toNat < 0x80 then c.toLower
  else match lowerShift c.toNat with
    | some shift => Char.ofNat ((c.toNat : Int) + shift).toNat
    | none => c

/-! ## Surroundings -/

/-- The nearest character that is not looked through has case. -/
def casedNext (cs : List Char) : Bool :=
  match cs.dropWhile fun c => inRanges caseIgnorableRanges c.toNat with
  | [] => false
  | c :: _ => inRanges casedRanges c.toNat

/-- The lower-case form of `c`, standing between `before` (nearest character first) and `after`. -/
def lowerBetween (before : List Char) (c : Char) (after : List Char) : List Char :=
  if c == '\u03A3' then
    [if casedNext before && !casedNext after then '\u03C2' else '\u03C3']
  else if c == '\u0130' then ['i', '\u0307']
  else [lowerChar c]

/-! ## Whole texts -/

/-- Lower-case a list of characters that follows `before`. -/
def lowerAfter (before : List Char) : List Char → List Char
  | [] => []
  | c :: cs => lowerBetween before c cs ++ lowerAfter (c :: before) cs

/-- Lower-case a list of characters. -/
def lowerChars (cs : List Char) : List Char := lowerAfter [] cs

/-- Lower-case a text. -/
def lower (s : String) : String := String.ofList (lowerChars s.toList)

/-- An ASCII character between any others becomes core's lower-case form of it. -/
theorem lowerBetween_of_ascii {c : Char} (h : c.toNat < 0x80) (before after : List Char) :
    lowerBetween before c after = [c.toLower] := by
  have h1 : c ≠ '\u03A3' := by rintro rfl; revert h; decide
  have h2 : c ≠ '\u0130' := by rintro rfl; revert h; decide
  simp [lowerBetween, h1, h2, lowerChar, h]

/-- The characters of a lower-cased text. -/
@[simp]
theorem toList_lower (s : String) : (lower s).toList = lowerChars s.toList := by
  simp [lower]

example : lower "WiDe" = "wide" := by decide +kernel
example : lower "ΟΔΟΣ" = "οδος" := by decide +kernel
example : lower "\u0130" = "i\u0307" := by decide +kernel

end ScenePrompt.Text
