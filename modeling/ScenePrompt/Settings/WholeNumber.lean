/-
  Whole numbers in settings.

  Settings come from a program as values or from the environment as texts, and a whole number is
  read from either:

  * a whole number is itself, and a truth value is one or nought;
  * a number with a fraction is taken if it is whole and small enough for a machine word;
  * a text is taken if, once tidied, it is a NUMERAL: a minus at most, then a nought on its own or
    digits of which the first is not a nought.  The digits are the ASCII ones.

  Tidying forgives what people type around a numeral, in this order:

  1. White_Space at both ends;
  2. one sign in front, if a digit follows it — a minus is put back at the end;
  3. noughts in front, with any low lines among them, up to a digit, a minus or a point;
  4. a fraction of noughts;
  5. low lines between digits, one at a time.

  A numeral is read only up to a number of digits, whatever its sign; a longer one is a violation
  of its own, even if something else follows it.  Everything else is a violation that says what
  kind of thing was found.
-/
import ScenePrompt.Schema.Check
import ScenePrompt.Text.Blank

namespace ScenePrompt.WholeNumber

open Schema Checked

/-! ## Tidying a text -/

/-- Drop the White_Space at both ends. -/
def strip (cs : List Char) : List Char :=
  ((cs.dropWhile Text.isWhiteSpace).reverse.dropWhile Text.isWhiteSpace).reverse

/-- Whether a text begins with a digit. -/
def beginsWithDigit (cs : List Char) : Bool := cs.head?.any Char.isDigit

/-- Whether a text that begins with a digit had a minus in front, and the text without its sign. -/
def unsigned? : List Char → Option (Bool × List Char)
  | [] => none
  | c :: cs =>
    if c == '+' || c == '-' then if beginsWithDigit cs then some (c == '-', cs) else none
    else if c.isDigit then some (false, c :: cs)
    else none

/-- What follows noughts and low lines, of which `last` is the latest.  It is kept in front of a
    point, and where nothing follows. -/
def afterNoughts? (last : Char) : List Char → Option (List Char)
  | [] => some [last]
  | c :: cs =>
    if c == '0' || c == '_' then afterNoughts? c cs
    else if c == '-' || c.isDigit then some (c :: cs)
    else if c == '.' then some (last :: c :: cs)
    else none

/-- Drop the noughts in front. -/
def dropNoughts? : List Char → Option (List Char)
  | '0' :: cs => afterNoughts? '0' cs
  | cs => some cs

/-- Drop a fraction, if it consists of noughts. -/
def dropFraction (cs : List Char) : List Char :=
  let fraction := (cs.dropWhile (· != '.')).drop 1
  if !fraction.isEmpty && fraction.all (· == '0') then cs.takeWhile (· != '.') else cs

/-- Whether low lines stand one at a time, and never at the end; `fresh` says that the character
    before was a low line, or that there was none. -/
def separates (fresh : Bool) : List Char → Bool
  | [] => !fresh
  | c :: cs => if c == '_' then !fresh && separates true cs else separates false cs

/-- Drop the low lines, if they separate. -/
def dropLowLines (cs : List Char) : List Char :=
  if separates true cs then cs.filter (· != '_') else cs

/-- What is left of a text, which is a numeral if the text spells a whole number. -/
def tidied? (s : String) : Option (List Char) := do
  let (negative, cs) ← unsigned? (strip s.toList)
  let cs ← dropNoughts? cs
  let cs := dropLowLines (dropFraction cs)
  some (if negative then '-' :: cs else cs)

/-! ## Numerals -/

/-- The number of digits up to which a numeral is read. -/
def mostDigits : Nat := 4300

/-- Read a numeral without its sign. -/
def magnitude (cs : List Char) : Checked Nat :=
  let digits := cs.takeWhile Char.isDigit
  if digits.isEmpty then fail .unreadableInt
  else if digits.head? = some '0' then if cs = ['0'] then .ok 0 else fail .unreadableInt
  else if mostDigits < digits.length then fail .oversizedInt
  else if digits.length < cs.length then fail .unreadableInt
  else .ok (Nat.ofDigitChars 10 digits 0)

/-- Read a numeral. -/
def numeral : List Char → Checked Int
  | '-' :: cs => (magnitude cs).map fun n => -(n : Int)
  | cs => (magnitude cs).map fun n => (n : Int)

/-- The whole number that a text spells. -/
def spelled (s : String) : Checked Int :=
  match tidied? s with
  | some cs => numeral cs
  | none => fail .unreadableInt

/-! ## Values -/

/-- Read a whole number. -/
def check : Check Int
  | .int n => .ok n
  | .bool b => .ok (if b then 1 else 0)
  | .decimal x => match x.integral with
    | .infinite => fail .notFinite
    | .fractional => fail .fractionalInt
    | .whole n => if -wordLimit < n ∧ n < wordLimit then .ok n else fail .oversizedInt
  | .nonFinite _ => fail .notFinite
  | .str s => spelled s
  | _ => fail .notInt

/-- Read a whole number that is no smaller than `low`. -/
def atLeast (low : Int) (v : Json) : Checked Int :=
  match check v with
  | .ok n => if n < low then fail (.belowMinimum low) else .ok n
  | .error vs => .error vs

/-- Read a whole number from `low` to `high`. -/
def between (low high : Int) (v : Json) : Checked Int :=
  match atLeast low v with
  | .ok n => if high < n then fail (.aboveMaximum high) else .ok n
  | .error vs => .error vs

/-- A text is read as a number within bounds only if it spells one. -/
theorem atLeast_of_ok {low n : Int} {v : Json} (h : atLeast low v = .ok n) :
    check v = .ok n ∧ low ≤ n := by
  unfold atLeast at h
  split at h
  · next m hm =>
    by_cases hlt : m < low
    · simp [hlt, fail] at h
    · simp only [hlt, if_false, Except.ok.injEq] at h
      subst h
      exact ⟨hm, by omega⟩
  · simp at h

example : (spelled " +1_000.00 ").toOption = some 1000 := by decide +kernel
example : (spelled "0_0__12").toOption = some 12 := by decide +kernel
example : (spelled "0-5").toOption = some (-5) ∧ (spelled "-0-5").toOption = none := by
  decide +kernel
example : (spelled "3.").toOption = none ∧ (spelled "1__0").toOption = none := by decide +kernel

end ScenePrompt.WholeNumber
