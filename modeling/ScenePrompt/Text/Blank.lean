/-
  Blank characters, and the trimming of texts.

  Everything a scene says is text typed by hand, so a field may arrive padded with blanks of any
  script.  A BLANK is a character of the Unicode class White_Space, or one of the four
  information separators U+001C … U+001F, which end a line or a field in older encodings and carry
  no ink either.  The class is written out as a table because core's `Char.isWhitespace` knows the
  ASCII blanks only.

  `trimChars` drops the blanks at both ends of a list of characters; `trim` does the same on a
  `String`.  The two facts every caller relies on are

  * `trim_trim`       — a trimmed text is left alone by a second trim;
  * `trim_eq_empty`   — nothing is left exactly when the text held blanks only.

  A text is therefore either blank, and trims to the empty text, or begins and ends with ink.
-/

namespace ScenePrompt.Text

/-! ## The class of blanks -/

/-- The Unicode class White_Space. -/
def isWhiteSpace (c : Char) : Bool :=
  let n := c.toNat
  (9 ≤ n && n ≤ 13) || n == 32 || n == 0x85 || n == 0xA0 || n == 0x1680 ||
    (0x2000 ≤ n && n ≤ 0x200A) || n == 0x2028 || n == 0x2029 || n == 0x202F || n == 0x205F ||
    n == 0x3000

/-- Characters that leave no ink: the class White_Space and the four information separators. -/
def isBlank (c : Char) : Bool := isWhiteSpace c || (28 ≤ c.toNat && c.toNat ≤ 31)

/-! ## Trimming a list of characters -/

/-- Drop the blanks in front. -/
def trimFront (cs : List Char) : List Char := cs.dropWhile isBlank

/-- Drop the blanks at both ends. -/
def trimChars (cs : List Char) : List Char := (trimFront (trimFront cs).reverse).reverse

/-- What is left after dropping the leading blanks is empty or starts with ink. -/
theorem head_trimFront {cs r : List Char} {c : Char} (h : trimFront cs = c :: r) :
    isBlank c = false := by
  induction cs with
  | nil => simp [trimFront] at h
  | cons d ds ih =>
    cases hd : isBlank d with
    | true => exact ih (by simpa [trimFront, List.dropWhile_cons, hd] using h)
    | false =>
      simp only [trimFront, List.dropWhile_cons, hd] at h
      cases h
      exact hd

/-- A list that starts with ink loses nothing in front. -/
theorem trimFront_cons_of_ink {c : Char} {r : List Char} (h : isBlank c = false) :
    trimFront (c :: r) = c :: r := by
  simp [trimFront, h]

/-- In front there is nothing more to drop. -/
theorem trimFront_trimFront (cs : List Char) : trimFront (trimFront cs) = trimFront cs := by
  cases h : trimFront cs with
  | nil => rfl
  | cons c r => exact trimFront_cons_of_ink (head_trimFront h)

/-- Nothing is left in front exactly when all characters are blank. -/
theorem trimFront_eq_nil {cs : List Char} : trimFront cs = [] ↔ ∀ c ∈ cs, isBlank c = true := by
  induction cs with
  | nil => simp [trimFront]
  | cons d ds ih =>
    rw [trimFront] at ih ⊢
    cases hd : isBlank d with
    | true =>
      rw [List.dropWhile_cons_of_pos hd, ih]
      simp [hd]
    | false => simp [hd]

/-- Leading blanks in front of any text are dropped. -/
theorem trimFront_append_of_blank {bs : List Char} (h : ∀ c ∈ bs, isBlank c = true)
    (cs : List Char) : trimFront (bs ++ cs) = trimFront cs := by
  induction bs with
  | nil => rfl
  | cons b bs ih =>
    have hb : isBlank b = true := h b (by simp)
    simpa [trimFront, List.dropWhile_cons, hb] using ih fun c hc => h c (by simp [hc])

/-- A text is its leading blanks followed by what the trim leaves. -/
theorem exists_append_trimFront (cs : List Char) :
    ∃ bs, (∀ c ∈ bs, isBlank c = true) ∧ cs = bs ++ trimFront cs :=
  ⟨cs.takeWhile isBlank, fun _ hc => List.all_eq_true.1 List.all_takeWhile _ hc,
    List.takeWhile_append_dropWhile.symm⟩

/-- The trim leaves nothing exactly when all characters are blank. -/
theorem trimChars_eq_nil {cs : List Char} : trimChars cs = [] ↔ ∀ c ∈ cs, isBlank c = true := by
  constructor
  · intro h
    have h1 : trimFront (trimFront cs).reverse = [] := by simpa [trimChars] using h
    have h2 : ∀ c ∈ trimFront cs, isBlank c = true := fun c hc =>
      trimFront_eq_nil.1 h1 c (by simpa using hc)
    have h3 : trimFront (trimFront cs) = [] := trimFront_eq_nil.2 h2
    rw [trimFront_trimFront] at h3
    exact trimFront_eq_nil.1 h3
  · intro h
    rw [trimChars, trimFront_eq_nil.2 h]
    rfl

/-- The trim of a text, with the blanks it dropped on either side. -/
theorem exists_append_trimChars (cs : List Char) :
    ∃ bs es, (∀ c ∈ bs, isBlank c = true) ∧ (∀ c ∈ es, isBlank c = true) ∧
      cs = bs ++ trimChars cs ++ es := by
  obtain ⟨bs, hbs, hcs⟩ := exists_append_trimFront cs
  obtain ⟨es, hes, hrev⟩ := exists_append_trimFront (trimFront cs).reverse
  refine ⟨bs, es.reverse, hbs, fun c hc => hes c (by simpa using hc), ?_⟩
  have h : trimFront cs = trimChars cs ++ es.reverse := by
    simpa [trimChars] using congrArg List.reverse hrev
  rw [List.append_assoc, ← h]
  exact hcs

/-- A list that starts and ends with ink is its own trim. -/
theorem trimChars_eq_self_of_ink {cs : List Char} (hfront : trimFront cs = cs)
    (hback : trimFront cs.reverse = cs.reverse) : trimChars cs = cs := by
  simp [trimChars, hfront, hback]

/-- A trimmed list has no blanks in front. -/
theorem trimFront_trimChars (cs : List Char) : trimFront (trimChars cs) = trimChars cs := by
  cases h : trimChars cs with
  | nil => rfl
  | cons c r =>
    obtain ⟨es, -, hes⟩ := exists_append_trimFront (trimFront cs).reverse
    have h1 : trimFront cs = trimChars cs ++ es.reverse := by
      simpa [trimChars] using congrArg List.reverse hes
    exact trimFront_cons_of_ink (head_trimFront (r := r ++ es.reverse) (by rw [h1, h]; rfl))

/-- Nor has it any at its end. -/
theorem trimFront_reverse_trimChars (cs : List Char) :
    trimFront (trimChars cs).reverse = (trimChars cs).reverse := by
  simp [trimChars, trimFront_trimFront]

/-- Trimming twice is trimming once. -/
theorem trimChars_trimChars (cs : List Char) : trimChars (trimChars cs) = trimChars cs :=
  trimChars_eq_self_of_ink (trimFront_trimChars cs) (trimFront_reverse_trimChars cs)

/-- A trimmed list does not begin with a blank. -/
theorem isBlank_of_head?_trimmed {cs : List Char} (h : trimChars cs = cs) {c : Char}
    (hc : cs.head? = some c) : isBlank c = false := by
  obtain ⟨rest, rfl⟩ := List.head?_eq_some_iff.1 hc
  have hfront := trimFront_trimChars (c :: rest)
  rw [h] at hfront
  exact head_trimFront hfront

/-- Nor does it end with one. -/
theorem isBlank_of_getLast?_trimmed {cs : List Char} (h : trimChars cs = cs) {c : Char}
    (hc : cs.getLast? = some c) : isBlank c = false := by
  rw [← List.head?_reverse] at hc
  obtain ⟨rest, hrest⟩ := List.head?_eq_some_iff.1 hc
  have hback := trimFront_reverse_trimChars cs
  rw [h, hrest] at hback
  exact head_trimFront hback

/-- Blanks around a text make no difference to its trim. -/
theorem trimChars_surround {bs es : List Char} (hbs : ∀ c ∈ bs, isBlank c = true)
    (hes : ∀ c ∈ es, isBlank c = true) (cs : List Char) :
    trimChars (bs ++ cs ++ es) = trimChars cs := by
  have hrev : ∀ c ∈ es.reverse, isBlank c = true := fun c hc => hes c (by simpa using hc)
  cases hcs : trimFront cs with
  | nil =>
    have hall : ∀ c ∈ cs, isBlank c = true := trimFront_eq_nil.1 hcs
    have hleft : trimChars cs = [] := trimChars_eq_nil.2 hall
    rw [hleft]
    refine trimChars_eq_nil.2 fun c hc => ?_
    rcases List.mem_append.1 hc with hc | hc
    · rcases List.mem_append.1 hc with hc | hc
      · exact hbs c hc
      · exact hall c hc
    · exact hes c hc
  | cons c r =>
    have h1 : trimFront (bs ++ cs ++ es) = trimFront cs ++ es := by
      rw [List.append_assoc, trimFront_append_of_blank hbs]
      obtain ⟨as, has, hsplit⟩ := exists_append_trimFront cs
      have h2 : trimFront (cs ++ es) = trimFront (trimFront cs ++ es) := by
        conv => lhs; rw [hsplit, List.append_assoc]
        rw [trimFront_append_of_blank has]
      rw [h2, hcs, List.cons_append]
      exact trimFront_cons_of_ink (head_trimFront hcs)
    simp only [trimChars, h1, List.reverse_append]
    rw [trimFront_append_of_blank hrev]

/-! ## Trimming a text -/

/-- Drop the blanks at both ends of a text. -/
def trim (s : String) : String := String.ofList (trimChars s.toList)

/-- The text holds blanks only; the empty text does too. -/
def isBlankText (s : String) : Bool := s.toList.all isBlank

/-- The characters of a trimmed text. -/
@[simp]
theorem toList_trim (s : String) : (trim s).toList = trimChars s.toList := by
  simp [trim]

/-- A trimmed text is left alone by a second trim. -/
theorem trim_trim (s : String) : trim (trim s) = trim s := by
  rw [← String.toList_inj]
  simp [trimChars_trimChars]

theorem isBlankText_iff {s : String} : isBlankText s = true ↔ ∀ c ∈ s.toList, isBlank c = true := by
  simp [isBlankText]

/-- Nothing is left exactly when the text is blank. -/
theorem trim_eq_empty {s : String} : trim s = "" ↔ isBlankText s = true := by
  rw [← String.toList_inj, isBlankText_iff, ← trimChars_eq_nil]
  simp

end ScenePrompt.Text
