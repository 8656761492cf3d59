/-
  Code points in hexadecimal digits.

  An escaped character is written by its code point, in a number of digits that the kind of escape
  fixes.  `hexDigits` writes the LAST so many digits of a number, in lower case and with noughts in
  front of a small one, so the length of an escape depends on its kind alone.
-/

namespace ScenePrompt.Text

/-- The last `width` hexadecimal digits of a number. -/
def hexDigits : Nat → Nat → List Char
  | 0, _ => []
  | width + 1, n => hexDigits width (n / 16) ++ [Nat.digitChar (n % 16)]

example : hexDigits 4 0xAD = ['0', '0', 'a', 'd'] := by decide +kernel

end ScenePrompt.Text
