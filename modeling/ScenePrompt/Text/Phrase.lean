/-
  Finding phrases in a text as whole words.

  A phrase OCCURS AS WHOLE WORDS at a place of a text when its letters stand there in a row and no
  word character touches it on either side; `then` occurs in `and then.` and not in `athena`.
  Phrases are made of lower-case ASCII letters with single spaces between words, and letters are
  compared without regard to case.

  Three letters have case partners outside ASCII, and these count as the same letter: the two
  Turkish letters U+0130 and U+0131 for `i`, the long s U+017F for `s`, the Kelvin sign U+212A
  for `k`.  All four are letters, so a match never ends next to one by accident.

  `occursAsWords` walks the text once and carries whether the character just before is a word
  character; `occursInside` looks for a run of characters anywhere, for signs such as an arrow
  that need no word around them; `isSameText` compares whole texts.
-/
import ScenePrompt.Text.Alphanumeric

namespace ScenePrompt.Text

/-! ## Letters up to case -/

/-- `c` is the lower-case letter `p` in either case; any other `p` stands for itself. -/
def isSameLetter (p c : Char) : Bool :=
  c == p || c.toLower == p || (p == 'i' && (c == '\u0130' || c == '\u0131')) ||
    (p == 's' && c == '\u017F') || (p == 'k' && c == '\u212A')

/-- The whole text is the phrase, up to case. -/
def isSameText : List Char → List Char → Bool
  | [], [] => true
  | p :: ps, c :: cs => isSameLetter p c && isSameText ps cs
  | _, _ => false

/-- Every character is the same letter as itself. -/
@[simp]
theorem isSameLetter_self (p : Char) : isSameLetter p p = true := by simp [isSameLetter]

/-- Every text is the same as itself. -/
theorem isSameText_self (p : List Char) : isSameText p p = true := by
  induction p with
  | nil => rfl
  | cons c cs ih => simp [isSameText, ih]

/-! ## Phrases inside a text -/

/-- The text goes on with a word character. -/
def startsInWord : List Char → Bool
  | [] => false
  | c :: _ => isWordChar c

/-- The text begins with the phrase, and the phrase's last word ends there. -/
def startsWithWords : List Char → List Char → Bool
  | [], rest => !startsInWord rest
  | p :: ps, c :: cs => isSameLetter p c && startsWithWords ps cs
  | _ :: _, [] => false

/-- One of the phrases occurs as whole words in the text; `afterWord` tells whether the text
    follows a word character. -/
def occursAsWords (phrases : List (List Char)) (afterWord : Bool) : List Char → Bool
  | [] => false
  | c :: cs =>
    (!afterWord && phrases.any (startsWithWords · (c :: cs))) ||
      occursAsWords phrases (isWordChar c) cs

/-- The run of characters stands somewhere in the text, exactly as written. -/
def occursInside (run : List Char) : List Char → Bool
  | [] => run.isEmpty
  | c :: cs => run.isPrefixOf (c :: cs) || occursInside run cs

example : occursAsWords ["so that".toList] false "Glass tips SO that".toList = true := by
  decide +kernel
example : occursAsWords ["then".toList] false "Athena, lengthen, then_".toList = false := by
  decide +kernel
example : occursInside "->".toList "a-->b".toList = true := by decide +kernel

end ScenePrompt.Text
