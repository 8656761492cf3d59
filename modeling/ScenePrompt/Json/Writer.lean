/-
  Writing JSON text.

  Values are written on one line without spaces, entries in the order in which the object holds
  them.  Text stands as it is, except for what JSON requires to be escaped — the quote, the
  backslash and the control characters — and the three further characters that some readers take
  for line ends (U+0085, U+2028, U+2029), so that a written value is one line for every reader.
-/
import ScenePrompt.Json.Basic
import ScenePrompt.Text.Hexadecimal

namespace ScenePrompt.Json

/-- The characters that stand for one character inside a written string. -/
def escape (c : Char) : List Char :=
  if c == '\x22' || c == '\\' then ['\\', c]
  else if c.toNat < 0x20 || c == '\u0085' || c == '\u2028' || c == '\u2029' then
    '\\' :: 'u' :: Text.hexDigits 4 c.toNat
  else [c]

/-- A string with its quotes. -/
def quoted (s : String) : String :=
  String.ofList ('\x22' :: s.toList.flatMap escape ++ ['\x22'])

/-- The names of the numbers that no digits spell. -/
def nonFiniteName : NonFinite → String
  | .infinity => "Infinity"
  | .negativeInfinity => "-Infinity"
  | .notANumber => "NaN"

mutual

/-- The text of a value. -/
def write : Json → String
  | .null => "null"
  | .bool b => if b then "true" else "false"
  | .int n => toString n
  | .decimal x =>
    (if x.negative then "-" else "") ++ toString x.mantissa ++ "e" ++ toString x.exponent
  | .nonFinite x => nonFiniteName x
  | .str s => quoted s
  | .arr items => "[" ++ String.intercalate "," (writeItems items) ++ "]"
  | .obj entries => "\x7b" ++ String.intercalate "," (writeEntries entries) ++ "\x7d"

/-- The texts of the items of an array. -/
def writeItems : List Json → List String
  | [] => []
  | v :: vs => write v :: writeItems vs

/-- The texts of the entries of an object. -/
def writeEntries : List (String × Json) → List String
  | [] => []
  | (k, v) :: es => (quoted k ++ ":" ++ write v) :: writeEntries es

end

end ScenePrompt.Json
