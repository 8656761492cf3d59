/-
  Classes of characters given by tables of code points.

  Unicode describes a class as an ascending list of ranges `(first, last)`, both ends included.
  `inRanges` asks whether a code point lies in one of them.  The tables of this folder list what
  lies beyond ASCII only where ASCII has a shorter rule, so the rule is tried first and ordinary
  English text never walks a table.

  `RangesAscend` is the shape every table has — each range is non-empty and lies strictly below
  the next — and the table modules close by checking it of themselves.
-/

namespace ScenePrompt.Text

/-- Some range of the table holds the code point. -/
def inRanges (table : List (Nat × Nat)) (n : Nat) : Bool :=
  table.any fun r => r.1 ≤ n && n ≤ r.2

/-- The ranges are non-empty, and each lies strictly below the next. -/
def RangesAscend : List (Nat × Nat) → Bool
  | [] => true
  | [r] => r.1 ≤ r.2
  | r :: s :: rest => r.1 ≤ r.2 && r.2 < s.1 && RangesAscend (s :: rest)

end ScenePrompt.Text
