/-
  Numbers written with a fraction or an exponent.

  A JSON number such as `2.50` or `1e3` is kept as it was written: a `Decimal` is a sign, a whole
  mantissa and a power of ten.  Nothing in a scene is such a number, so almost everywhere the only
  thing said about one is that it stands where text should stand.  Settings are the exception:
  `3.0` is an acceptable count and `2.5` is not.

  What a number with a fraction MEANS is the nearest double (IEEE 754 binary64, ties to even), so
  `2.00000000000000000001` means 2 and is whole.  `Decimal.double` finds that value in exact
  arithmetic, as a significand and a power of two: take the power of two that leaves 53 binary
  digits before the point (but no less than -1074, where the doubles end), and round.
  `Decimal.integral` then says whether the value is a whole number, and which.

  Where a number has to be shown, `Decimal.shortest` finds the one with the FEWEST DIGITS among
  those that mean the same double.  It tries the powers of ten from the coarsest on down; if any
  multiple of a power means the double, then so does one of the two multiples next to its value,
  and of two that do the nearer is taken.
-/

namespace ScenePrompt

/-- The number `mantissa * 10 ^ exponent`, or its negative. -/
structure Decimal where
  negative : Bool := false
  mantissa : Nat
  exponent : Int
  deriving DecidableEq, Repr

/-- Divide and round to the nearest whole number, a tie to the even neighbour. -/
def roundEven (num den : Nat) : Nat :=
  let q := num / den
  let r := num % den
  if 2 * r < den then q else if den < 2 * r then q + 1 else q + q % 2

/-- A finite double, as `significand * 2 ^ exponent`, without its sign; or too large for one. -/
inductive Double where
  | finite (significand : Nat) (exponent : Int)
  | infinite
  deriving DecidableEq, Repr

/-- The double that a rounded significand makes: rounding up may have given it a 54th digit, which
    is a nought, or nothing may be left of it. -/
def Double.ofRounded (significand : Nat) (exponent : Int) : Double :=
  if significand = 0 then .finite 0 0
  else if significand = Nat.pow 2 53 then .finite (Nat.pow 2 52) (exponent + 1)
  else .finite significand exponent

namespace Decimal

/-- Numerator and denominator of `m * b ^ e`. -/
def fraction (m : Nat) (b : Nat) (e : Int) : Nat × Nat :=
  if 0 ≤ e then (m * Nat.pow b e.toNat, 1) else (m, Nat.pow b (-e).toNat)

/-- The power of two that leaves 53 binary digits of `num / den` before the point, or -1074 if
    that is larger. -/
def binaryExponent (num den : Nat) : Int :=
  let guess : Int := (num.log2 : Int) - den.log2 - 52
  let (n, d) := fraction den 2 guess
  let exact := if num * d < n * Nat.pow 2 52 then guess - 1 else guess
  max exact (-1074)

/-- The number of decimal digits before the point, or minus the number of noughts behind it. -/
def size (x : Decimal) : Int := (Nat.toDigits 10 x.mantissa).length + x.exponent

/-- The double nearest to the number.  Numbers far outside the range of doubles are told by their
    length alone, before any power is computed. -/
def double (x : Decimal) : Double :=
  if x.mantissa == 0 || x.size < -330 then .finite 0 0
  else if 330 < x.size then .infinite
  else
    -- the number is num / den; scaled by 2 ^ (-e) it has 53 binary digits before the point
    let (num, den) := fraction x.mantissa 10 x.exponent
    let e := binaryExponent num den
    let (n, d) := fraction den 2 e
    let significand := roundEven (num * d) n
    if Nat.pow 2 1024 ≤ (fraction significand 2 e).1 / (fraction significand 2 e).2 then .infinite
    else .ofRounded significand e

/-! ## Whole numbers -/

/-- What kind of number a double is, where counts are concerned. -/
inductive Integrality where
  /-- too large to be a number at all -/
  | infinite
  /-- not whole -/
  | fractional
  /-- the whole number `n` -/
  | whole (n : Int)
  deriving DecidableEq, Repr

/-- Whether the number, read as a double, is whole. -/
def integral (x : Decimal) : Integrality :=
  match x.double with
  | .infinite => .infinite
  | .finite significand e =>
    let (num, den) := fraction significand 2 e
    if num % den == 0 then
      let magnitude : Int := num / den
      .whole (if x.negative then -magnitude else magnitude)
    else .fractional

/-! ## The fewest digits -/

/-- The multiples of `10 ^ p` on either side of `num / den`, the nearer first; both are given by
    their factor. -/
def neighbours (num den : Nat) (p : Int) : List Nat :=
  let (n, d) := fraction den 10 p
  let below := num * d / n
  let twice := 2 * (num * d % n)
  if twice < n ∨ (twice = n ∧ below % 2 = 0) then [below, below + 1] else [below + 1, below]

/-- Look for a multiple of `10 ^ p` that means the double `num / den`, then of the next smaller
    power, and so on for `tries` powers in all. -/
def coarsest? (num den : Nat) (target : Double) : Nat → Int → Option Decimal
  | 0, _ => none
  | tries + 1, p =>
    match (neighbours num den p).find? fun m => double ⟨false, m, p⟩ = target with
    | some m => some ⟨false, m, p⟩
    | none => coarsest? num den target tries (p - 1)

/-- The number with the fewest digits that means the same double, or nothing if that is too large.
    Seventeen digits tell any two doubles apart, so the powers tried are enough. -/
def shortest (x : Decimal) : Option Decimal :=
  match x.double with
  | .infinite => none
  | .finite significand e =>
    if significand = 0 then some { x with mantissa := 0, exponent := 0 }
    else
      let (num, den) := fraction significand 2 e
      (coarsest? num den x.double 20 x.size).map fun y => { y with negative := x.negative }

example : integral ⟨false, 30, -1⟩ = .whole 3 ∧ integral ⟨true, 25, -1⟩ = .fractional := by
  decide +kernel
example : integral ⟨false, 1, 3⟩ = .whole 1000 ∧ integral ⟨false, 1, 400⟩ = .infinite := by
  decide +kernel
example : integral ⟨false, 200000000000000000001, -20⟩ = .whole 2 := by decide +kernel
example : double ⟨false, 1, -1⟩ = .finite 7205759403792794 (-56) := by decide +kernel
example : shortest ⟨false, 10000000000000000555, -20⟩ = some ⟨false, 1, -1⟩ := by decide +kernel
example : shortest ⟨true, 30000000000000004, -17⟩ = some ⟨true, 30000000000000004, -17⟩ := by
  decide +kernel
example : shortest ⟨false, 49, -325⟩ = some ⟨false, 5, -324⟩ := by decide +kernel

end Decimal

end ScenePrompt
