/-
  Values written into messages.

  A message that quotes a value it did not expect writes it plainly: a text as it stands, `None`
  for nothing, truth values with a capital, whole numbers in digits.  Arrays and objects are
  written with brackets, and texts inside them in quotes — single ones, unless the text holds a
  single quote and no double one.  Inside quotes a character that is not printable is escaped: by
  a letter if it is a line feed, a tab or a carriage return, and by its code point otherwise, in
  two, four or eight hexadecimal digits as it needs.

  A number with a fraction is written with the fewest digits that mean the same double:
  positionally, with at least one digit after the point, while its leading digit stands between
  the fifth place after the point and the sixteenth before it, and with an exponent of at least
  two digits otherwise.
-/
import ScenePrompt.Json.Basic
import ScenePrompt.Text.Hexadecimal
import ScenePrompt.Text.Printable

namespace ScenePrompt.Json

/-! ## Numbers with a fraction -/

/-- Take trailing zeros off a mantissa, at most `fuel` of them, and count them. -/
def stripZeros : Nat → Nat → Nat × Nat
  | 0, m => (m, 0)
  | fuel + 1, m =>
    if m % 10 == 0 && m != 0 then
      let (n, k) := stripZeros fuel (m / 10)
      (n, k + 1)
    else (m, 0)

/-- A number with a fraction, without its sign. -/
def plainMagnitude (m : Nat) (exponent : Int) : String :=
  let (m, zeros) := stripZeros (Nat.toDigits 10 m).length m
  let e := if m = 0 then 0 else exponent + zeros
  let ds := Nat.toDigits 10 m
  let point := (ds.length : Int) + e
  let text :=
    if -4 < point ∧ point ≤ 16 then
      if point ≤ 0 then '0' :: '.' :: List.replicate (-point).toNat '0' ++ ds
      else if ds.length ≤ point.toNat then
        ds ++ List.replicate (point.toNat - ds.length) '0' ++ ['.', '0']
      else ds.take point.toNat ++ '.' :: ds.drop point.toNat
    else
      let power := Nat.toDigits 10 (point - 1).natAbs
      let power := if power.length < 2 then '0' :: power else power
      ds.take 1 ++ (if ds.length = 1 then [] else '.' :: ds.drop 1) ++
        'e' :: (if point ≤ 0 then '-' else '+') :: power
  String.ofList text

/-- A number with a fraction. -/
def plainDecimal (x : Decimal) : String :=
  (if x.negative then "-" else "") ++
    match x.shortest with
    | some y => plainMagnitude y.mantissa y.exponent
    | none => "inf"

/-- A number that no digits spell. -/
def plainNonFinite : NonFinite → String
  | .infinity => "inf"
  | .negativeInfinity => "-inf"
  | .notANumber => "nan"

/-! ## Texts in quotes -/

/-- The characters that stand for one character inside quotes. -/
def plainEscape (quote c : Char) : List Char :=
  if c == quote || c == '\\' then ['\\', c]
  else if c == '\n' then ['\\', 'n']
  else if c == '\t' then ['\\', 't']
  else if c == '\r' then ['\\', 'r']
  else if Text.isPrintable c then [c]
  else if c.toNat < 0x100 then '\\' :: 'x' :: Text.hexDigits 2 c.toNat
  else if c.toNat < 0x10000 then '\\' :: 'u' :: Text.hexDigits 4 c.toNat
  else '\\' :: 'U' :: Text.hexDigits 8 c.toNat

/-- A text in quotes. -/
def plainQuoted (s : String) : String :=
  let cs := s.toList
  let quote := if cs.contains '\x27' && !cs.contains '\x22' then '\x22' else '\x27'
  String.ofList (quote :: cs.flatMap (plainEscape quote) ++ [quote])

/-! ## Values -/

mutual

/-- A value inside another. -/
def plainInside : Json → String
  | .null => "None"
  | .bool b => if b then "True" else "False"
  | .int n => toString n
  | .decimal x => plainDecimal x
  | .nonFinite x => plainNonFinite x
  | .str s => plainQuoted s
  | .arr items => "[" ++ String.intercalate ", " (plainItems items) ++ "]"
  | .obj entries => "\x7b" ++ String.intercalate ", " (plainEntries entries) ++ "\x7d"

/-- The items of an array. -/
def plainItems : List Json → List String
  | [] => []
  | v :: vs => plainInside v :: plainItems vs

/-- The entries of an object. -/
def plainEntries : List (String × Json) → List String
  | [] => []
  | (k, v) :: es => (plainQuoted k ++ ": " ++ plainInside v) :: plainEntries es

end

/-- A value on its own. -/
def plain : Json → String
  | .str s => s
  | v => plainInside v

example : plain (.decimal ⟨false, 150, -2⟩) = "1.5" := by decide +kernel
example : plain (.decimal ⟨true, 1, 20⟩) = "-1e+20" := by decide +kernel
example : plain (.decimal ⟨false, 1, -4⟩) = "0.0001" := by decide +kernel
example : plainQuoted "\u00AD\u3000é\n" = "'\\xad\\u3000é\\n'" := by decide +kernel
example : plain (.decimal ⟨false, 12, -6⟩) = "1.2e-05" := by decide +kernel

end ScenePrompt.Json
