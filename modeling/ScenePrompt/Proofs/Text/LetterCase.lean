/-
  The letter case of ASCII.

  A framing or a lens may be written in capitals, and lower-casing is there to undo this.  Core's
  `Char.toLower` changes the twenty-six capitals of ASCII and nothing else
  (`toLower_eq_self_or_capital`), so two texts that differ in the case of ASCII letters only are two
  texts with the same image under it, and what does not tell a text from its image does not tell
  the two apart.

  Neither trimming nor the full lower-casing does.  A capital is as little a blank as its small
  letter is.  For the full map one letter would be enough to spoil this, the sigma, which looks at
  its surroundings: it asks whether a letter with case stands near, and through which characters
  to look, and ASCII capitals answer both questions as their small letters do (`casedNext_map`).
-/
import ScenePrompt.Text.Blank
import ScenePrompt.Text.LowerCase

namespace ScenePrompt.Text

/-- The code points of the capitals of ASCII. -/
def capitals : List Nat := List.range' 65 26

/-- A character that is not its own lower-case form is a capital of ASCII. -/
theorem toLower_eq_self_or_capital (c : Char) : c.toLower = c ∨ c.toNat ∈ capitals := by
  by_cases h : c.val ≥ 'A'.val ∧ c.val ≤ 'Z'.val
  · right
    have hfirst : 65 ≤ c.toNat := h.1
    have hlast : c.toNat ≤ 90 := h.2
    rw [capitals, List.mem_range'_1]
    omega
  · exact Or.inl (dif_neg h)

/-- What holds of the capitals and their small letters holds of every character and its lower-case
    form, if nothing can be told from itself. -/
theorem eq_of_forall_capitals {α : Type} {f : Char → α}
    (h : ∀ n ∈ capitals, f (Char.ofNat n).toLower = f (Char.ofNat n)) (c : Char) :
    f c.toLower = f c := by
  rcases toLower_eq_self_or_capital c with hself | hcapital
  · rw [hself]
  · rw [← Char.ofNat_toNat c]
    exact h c.toNat hcapital

/-! ## Trimming -/

theorem isBlank_toLower (c : Char) : isBlank c.toLower = isBlank c :=
  eq_of_forall_capitals (by decide) c

/-- The blanks in front of a text are where they were when its letters are made small. -/
theorem trimFront_map_toLower (cs : List Char) :
    trimFront (cs.map Char.toLower) = (trimFront cs).map Char.toLower := by
  have hblank : isBlank ∘ Char.toLower = isBlank := funext isBlank_toLower
  rw [trimFront, List.dropWhile_map, hblank]
  rfl

/-- Trimming does not look at the letter case. -/
theorem trimChars_map_toLower (cs : List Char) :
    trimChars (cs.map Char.toLower) = (trimChars cs).map Char.toLower := by
  rw [trimChars, trimFront_map_toLower, ← List.map_reverse, trimFront_map_toLower,
    ← List.map_reverse]
  rfl

/-! ## Lower-casing -/

/-- The surroundings of a letter are the same whatever case their ASCII letters have. -/
theorem casedNext_map (cs : List Char) : casedNext (cs.map Char.toLower) = casedNext cs := by
  have hignorable : ∀ c : Char,
      inRanges caseIgnorableRanges c.toLower.toNat = inRanges caseIgnorableRanges c.toNat :=
    eq_of_forall_capitals (f := fun c => inRanges caseIgnorableRanges c.toNat) (by decide +kernel)
  have hcased : ∀ c : Char, inRanges casedRanges c.toLower.toNat = inRanges casedRanges c.toNat :=
    eq_of_forall_capitals (f := fun c => inRanges casedRanges c.toNat) (by decide +kernel)
  have hthrough : (fun c : Char => inRanges caseIgnorableRanges c.toNat) ∘ Char.toLower =
      fun c => inRanges caseIgnorableRanges c.toNat := funext hignorable
  unfold casedNext
  rw [List.dropWhile_map, hthrough]
  cases cs.dropWhile fun c => inRanges caseIgnorableRanges c.toNat with
  | nil => rfl
  | cons c rest => exact hcased c

/-- A character in the same surroundings, all with their ASCII letters made small, has the same
    lower-case form.  The sigma is the only one to look around, and it sees the same. -/
theorem lowerBetween_map (before : List Char) (c : Char) (after : List Char) :
    lowerBetween (before.map Char.toLower) c.toLower (after.map Char.toLower) =
      lowerBetween before c after := by
  rcases toLower_eq_self_or_capital c with hself | hcapital
  · rw [hself, lowerBetween, casedNext_map, casedNext_map]
    rfl
  · have hsmall : ∀ n ∈ capitals, (Char.ofNat n).toLower.toNat < 0x80 ∧
        (Char.ofNat n).toLower.toLower = (Char.ofNat n).toLower := by decide
    obtain ⟨hascii, htwice⟩ := hsmall c.toNat hcapital
    rw [Char.ofNat_toNat] at hascii htwice
    have hcapitalAscii : c.toNat < 0x80 :=
      (by decide : ∀ n ∈ capitals, n < 0x80) c.toNat hcapital
    rw [lowerBetween_of_ascii hascii, lowerBetween_of_ascii hcapitalAscii, htwice]

/-- The full lower-casing gives the same for a text whose ASCII letters were made small before. -/
theorem lowerAfter_map (before cs : List Char) :
    lowerAfter (before.map Char.toLower) (cs.map Char.toLower) = lowerAfter before cs := by
  induction cs generalizing before with
  | nil => rfl
  | cons c cs ih =>
    rw [List.map_cons, lowerAfter, lowerAfter, lowerBetween_map, ← List.map_cons, ih]

/-- **Lower-casing undoes the case of ASCII letters.**  Texts that differ in it only have the same
    lower-case form once they are trimmed. -/
theorem lower_trim_congr {s t : String}
    (h : s.toList.map Char.toLower = t.toList.map Char.toLower) :
    lower (trim s) = lower (trim t) := by
  -- the form is a function of the text with its ASCII letters made small
  have hform : ∀ u : String, (lower (trim u)).toList =
      lowerAfter [] (trimChars (u.toList.map Char.toLower)) := by
    intro u
    rw [toList_lower, toList_trim, trimChars_map_toLower, lowerChars, ← lowerAfter_map]
    rfl
  rw [← String.toList_inj, hform, hform, h]

end ScenePrompt.Text
