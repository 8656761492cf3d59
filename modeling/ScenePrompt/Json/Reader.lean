/-
  Reading JSON text.

  The reader is a recursive descent over a list of characters.  Every step hands back the value it
  read together with the characters it left, and takes a bound on the number of nested steps.  Of
  two nested steps at least one has consumed a character, so a bound that begins at twice the
  length of the text stays above the number of characters left, and `read?` never runs out.

  Whole numbers are read exactly, of any size.  A number with a fraction or an exponent is kept as
  a `Decimal`.  An object that repeats a key keeps the key's first place and its last value, as
  `Entries.ofPairs` has it.  An escaped pair of surrogates is one character, and a text with half of
  such a pair is refused, since no `Json` value stands for it.  The numbers that no digits spell are
  read by name: `Infinity`, `-Infinity` and `NaN`.
-/
import ScenePrompt.Json.Basic

namespace ScenePrompt.Json.Reader

/-! ## Characters -/

/-- Drop what may stand between the parts of a JSON text. -/
def skip (cs : List Char) : List Char :=
  cs.dropWhile fun c => c == ' ' || c == '\t' || c == '\n' || c == '\r'

/-- The value of a hexadecimal digit. -/
def hexDigit? (c : Char) : Option Nat :=
  if c.isDigit then some (c.toNat - 0x30)
  else if 'a' ≤ c ∧ c ≤ 'f' then some (c.toNat - 0x61 + 10)
  else if 'A' ≤ c ∧ c ≤ 'F' then some (c.toNat - 0x41 + 10)
  else none

/-- Four hexadecimal digits. -/
def hex4? : List Char → Option (Nat × List Char)
  | a :: b :: c :: d :: rest => do
    let a ← hexDigit? a
    let b ← hexDigit? b
    let c ← hexDigit? c
    let d ← hexDigit? d
    some (((a * 16 + b) * 16 + c) * 16 + d, rest)
  | _ => none

/-- A character given by its UTF-16 units: one unit, or a high and a low surrogate. -/
def unit? (cs : List Char) : Option (Char × List Char) :=
  match hex4? cs with
  | none => none
  | some (high, rest) =>
    if 0xD800 ≤ high ∧ high < 0xDC00 then
      match rest with
      | '\\' :: 'u' :: more =>
        match hex4? more with
        | some (low, rest) =>
          if 0xDC00 ≤ low ∧ low < 0xE000 then
            some (Char.ofNat (0x10000 + (high - 0xD800) * 0x400 + (low - 0xDC00)), rest)
          else none
        | none => none
      | _ => none
    -- half of a pair is no character
    else if 0xDC00 ≤ high ∧ high < 0xE000 then none
    else some (Char.ofNat high, rest)

/-- The character after a backslash. -/
def escaped? : List Char → Option (Char × List Char)
  | 'n' :: rest => some ('\n', rest)
  | 't' :: rest => some ('\t', rest)
  | 'r' :: rest => some ('\r', rest)
  | 'b' :: rest => some ('\x08', rest)
  | 'f' :: rest => some ('\x0C', rest)
  | 'u' :: rest => unit? rest
  | c :: rest => if c == '\x22' || c == '\\' || c == '/' then some (c, rest) else none
  | [] => none

/-- The rest of a string, after its opening quote, with at most the given number of characters. -/
def stringRest : Nat → List Char → Option (List Char × List Char)
  | 0, _ => none
  | _ + 1, [] => none
  | fuel + 1, c :: cs =>
    if c == '\x22' then some ([], cs)
    else if c == '\\' then do
      let (d, rest) ← escaped? cs
      let (ds, rest) ← stringRest fuel rest
      some (d :: ds, rest)
    else do
      let (ds, rest) ← stringRest fuel cs
      some (c :: ds, rest)

/-! ## Numbers -/

/-- The number that a list of digits spells. -/
def digits (ds : List Char) : Nat := ds.foldl (fun n d => n * 10 + (d.toNat - 0x30)) 0

/-- The exponent part of a number, if there is one. -/
def exponent? : List Char → Option (Int × List Char)
  | e :: cs =>
    if e == 'e' || e == 'E' then
      let (sign, cs) : Int × List Char := match cs with
        | '-' :: rest => (-1, rest)
        | '+' :: rest => (1, rest)
        | rest => (1, rest)
      let ds := cs.takeWhile Char.isDigit
      if ds.isEmpty then none else some (sign * digits ds, cs.dropWhile Char.isDigit)
    else none
  | [] => none

/-- The fraction part of a number, if there is one: its digits. -/
def fraction? : List Char → Option (List Char × List Char)
  | '.' :: cs =>
    let ds := cs.takeWhile Char.isDigit
    if ds.isEmpty then none else some (ds, cs.dropWhile Char.isDigit)
  | _ => none

/-- A number. -/
def number? (cs : List Char) : Option (Json × List Char) :=
  let (negative, cs) : Bool × List Char := match cs with
    | '-' :: rest => (true, rest)
    | rest => (false, rest)
  let whole := cs.takeWhile Char.isDigit
  let rest := cs.dropWhile Char.isDigit
  if whole.isEmpty then none
  else match fraction? rest with
    | some (ds, rest) =>
      let mantissa := digits (whole ++ ds)
      match exponent? rest with
      | some (e, rest) => some (.decimal ⟨negative, mantissa, e - ds.length⟩, rest)
      | none => some (.decimal ⟨negative, mantissa, -(ds.length : Int)⟩, rest)
    | none =>
      match exponent? rest with
      | some (e, rest) => some (.decimal ⟨negative, digits whole, e⟩, rest)
      | none =>
        let n : Int := digits whole
        some (.int (if negative then -n else n), rest)

/-! ## Values -/

mutual

/-- A value, with at most the given number of nested steps. -/
def value? : Nat → List Char → Option (Json × List Char)
  | 0, _ => none
  | fuel + 1, cs =>
    match skip cs with
    | 'n' :: 'u' :: 'l' :: 'l' :: rest => some (.null, rest)
    | 't' :: 'r' :: 'u' :: 'e' :: rest => some (.bool true, rest)
    | 'f' :: 'a' :: 'l' :: 's' :: 'e' :: rest => some (.bool false, rest)
    | 'N' :: 'a' :: 'N' :: rest => some (.nonFinite .notANumber, rest)
    | 'I' :: 'n' :: 'f' :: 'i' :: 'n' :: 'i' :: 't' :: 'y' :: rest =>
      some (.nonFinite .infinity, rest)
    | '-' :: 'I' :: 'n' :: 'f' :: 'i' :: 'n' :: 'i' :: 't' :: 'y' :: rest =>
      some (.nonFinite .negativeInfinity, rest)
    -- a bound that is enough for the whole rest is enough for the string in front of it
    | '\x22' :: rest => do
      let (s, rest) ← stringRest fuel rest
      some (.str (String.ofList s), rest)
    | '[' :: rest =>
      match skip rest with
      | ']' :: rest => some (.arr [], rest)
      | rest => do
        let (vs, rest) ← items? fuel rest
        some (.arr vs, rest)
    | '\x7b' :: rest =>
      match skip rest with
      | '\x7d' :: rest => some (.obj [], rest)
      | rest => do
        let (es, rest) ← entries? fuel rest
        some (.obj (Entries.ofPairs es), rest)
    | rest => number? rest

/-- The items of an array and its closing bracket. -/
def items? : Nat → List Char → Option (List Json × List Char)
  | 0, _ => none
  | fuel + 1, cs => do
    let (v, rest) ← value? fuel cs
    match skip rest with
    | ',' :: rest =>
      let (vs, rest) ← items? fuel rest
      some (v :: vs, rest)
    | ']' :: rest => some ([v], rest)
    | _ => none

/-- The entries of an object and its closing brace. -/
def entries? : Nat → List Char → Option (List (String × Json) × List Char)
  | 0, _ => none
  | fuel + 1, cs =>
    match skip cs with
    | '\x22' :: rest => do
      let (k, rest) ← stringRest fuel rest
      match skip rest with
      | ':' :: rest =>
        let (v, rest) ← value? fuel rest
        match skip rest with
        | ',' :: rest =>
          let (es, rest) ← entries? fuel rest
          some ((String.ofList k, v) :: es, rest)
        | '\x7d' :: rest => some ([(String.ofList k, v)], rest)
        | _ => none
      | _ => none
    | _ => none

end

end ScenePrompt.Json.Reader

namespace ScenePrompt.Json

/-- Read a text that holds one JSON value and nothing else. -/
def read? (s : String) : Option Json :=
  match Reader.value? (2 * s.toList.length + 2) s.toList with
  | some (v, rest) => if (Reader.skip rest).isEmpty then some v else none
  | none => none

end ScenePrompt.Json
