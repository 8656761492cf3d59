/-
  Line breaks and blank lines.

  Two line breaks in a row make a BLANK LINE.  A text may be cut at its blank lines (`cutBlocks`) as
  it may be cut at its line breaks; but whereas a line break is what it is wherever it stands, three
  in a row hold two blank lines and only the first of these is a place to cut.  So a text made of
  parts need not fall into the pieces of its parts: a part that ends in a line break moves the cut
  behind it to the left.

  Parts that begin and end with something else, and are not empty, are SOLID.  Between solid parts
  all is well: a blank line of the whole is one of a part (`hasBlankLine_append`,
  `hasBlankLine_joinLines`), and a text joined by blank lines is cut into the pieces of its parts,
  one after another (`cutBlocks_intercalate`).

  That a text has as many pieces as parts is then a matter of counting: each part has at least one
  piece, so none can have two (`length_flatMap_eq_length_iff`).
-/
import ScenePrompt.Text.Blank

namespace ScenePrompt.Text

/-! ## Blank lines -/

/-- Two line breaks in a row occur in the text. -/
def HasBlankLine (cs : List Char) : Prop := ['\n', '\n'] <:+: cs

instance (cs : List Char) : Decidable (HasBlankLine cs) := inferInstanceAs (Decidable (_ <:+: _))

/-- Cut a text at its double line breaks, from left to right; a line break that has been used is not
    used again. -/
def cutBlocks : List Char → List (List Char)
  | [] => [[]]
  | [c] => [[c]]
  | c :: d :: cs =>
    if c = '\n' ∧ d = '\n' then [] :: cutBlocks cs
    else (cutBlocks (d :: cs)).modifyHead (c :: ·)

/-- There is a piece in any case: what is not cut is one piece, and the empty text is one that is
    empty. -/
theorem cutBlocks_ne_nil (cs : List Char) : cutBlocks cs ≠ [] := by
  induction cs using cutBlocks.induct with
  | case1 => exact List.cons_ne_nil _ _
  | case2 c => exact List.cons_ne_nil _ _
  | case3 c d cs hbreak ih =>
    rw [cutBlocks, if_pos hbreak]
    exact List.cons_ne_nil _ _
  | case4 c d cs hbreak ih =>
    rw [cutBlocks, if_neg hbreak]
    intro hnil
    exact ih (List.modifyHead_eq_nil_iff.1 hnil)

/-- A blank line is at the very beginning or in what follows the first character. -/
theorem hasBlankLine_cons_cons {c d : Char} {cs : List Char} :
    HasBlankLine (c :: d :: cs) ↔ (c = '\n' ∧ d = '\n') ∨ HasBlankLine (d :: cs) := by
  unfold HasBlankLine
  rw [List.infix_cons_iff, List.cons_prefix_cons, List.cons_prefix_cons]
  simp [eq_comm]

/-- A text is cut exactly where it has a blank line. -/
theorem length_cutBlocks_eq_one_iff (cs : List Char) :
    (cutBlocks cs).length = 1 ↔ ¬ HasBlankLine cs := by
  induction cs using cutBlocks.induct with
  | case1 => decide
  | case2 c =>
    have hnone : ¬ HasBlankLine [c] := fun h => absurd h.length_le (by simp)
    simp [cutBlocks, hnone]
  | case3 c d cs hbreak ih =>
    have hpos : 0 < (cutBlocks cs).length := List.length_pos_iff.2 (cutBlocks_ne_nil cs)
    rw [cutBlocks, if_pos hbreak, List.length_cons, hasBlankLine_cons_cons]
    constructor
    · intro h
      omega
    · intro h
      exact absurd (Or.inl hbreak) h
  | case4 c d cs hbreak ih =>
    rw [cutBlocks, if_neg hbreak, List.length_modifyHead, ih, hasBlankLine_cons_cons]
    simp [hbreak]

/-- A text that is not cut is its only piece. -/
theorem cutBlocks_eq_singleton {cs : List Char} (h : ¬ HasBlankLine cs) : cutBlocks cs = [cs] := by
  induction cs using cutBlocks.induct with
  | case1 => rfl
  | case2 c => rfl
  | case3 c d cs hbreak ih => exact absurd (hasBlankLine_cons_cons.2 (Or.inl hbreak)) h
  | case4 c d cs hbreak ih =>
    rw [cutBlocks, if_neg hbreak, ih fun hrest => h (hasBlankLine_cons_cons.2 (Or.inr hrest))]
    rfl

/-- Behind a text that does not end in a line break a blank line is a place to cut. -/
theorem cutBlocks_append {xs : List Char} (h : xs.getLast? ≠ some '\n') (ys : List Char) :
    cutBlocks (xs ++ '\n' :: '\n' :: ys) = cutBlocks xs ++ cutBlocks ys := by
  induction xs using cutBlocks.induct with
  | case1 => simp [cutBlocks]
  | case2 c =>
    have hc : c ≠ '\n' := fun hc => h (by rw [hc]; rfl)
    simp [cutBlocks, hc]
  | case3 c d cs hbreak ih =>
    have hlast : cs.getLast? ≠ some '\n' := by
      cases cs with
      | nil => simp
      | cons e cs => rwa [List.getLast?_cons_cons, List.getLast?_cons_cons] at h
    show cutBlocks (c :: d :: (cs ++ '\n' :: '\n' :: ys)) = _
    rw [cutBlocks, cutBlocks, if_pos hbreak, if_pos hbreak, ih hlast]
    rfl
  | case4 c d cs hbreak ih =>
    rw [List.getLast?_cons_cons] at h
    have hrest : cutBlocks (d :: (cs ++ '\n' :: '\n' :: ys)) =
        cutBlocks (d :: cs) ++ cutBlocks ys := ih h
    -- the first character goes into the first piece, on both sides
    obtain ⟨piece, pieces, hpieces⟩ := List.exists_cons_of_ne_nil (cutBlocks_ne_nil (d :: cs))
    show cutBlocks (c :: d :: (cs ++ '\n' :: '\n' :: ys)) = _
    rw [cutBlocks, cutBlocks, if_neg hbreak, if_neg hbreak, hrest, hpieces]
    rfl

/-! ## Solid texts -/

/-- The text is not empty and neither begins nor ends with a line break. -/
structure Solid (cs : List Char) : Prop where
  ne_nil : cs ≠ []
  head_ne : cs.head? ≠ some '\n'
  last_ne : cs.getLast? ≠ some '\n'

/-- What a trim leaves is solid, if it leaves anything. -/
theorem solid_of_trim_eq {s : String} (h : trim s = s) (hne : s ≠ "") : Solid s.toList := by
  have htrimmed : trimChars s.toList = s.toList := by rw [← toList_trim, h]
  have hbreak : isBlank '\n' ≠ false := by decide
  refine ⟨?_, ?_, ?_⟩
  · intro hnil
    exact hne (String.toList_inj.1 hnil)
  · intro hhead
    exact hbreak (isBlank_of_head?_trimmed htrimmed hhead)
  · intro hlast
    exact hbreak (isBlank_of_getLast?_trimmed htrimmed hlast)

/-- A text in which there is no line break at all is solid if there is anything in it. -/
theorem solid_of_not_mem {cs : List Char} (hne : cs ≠ []) (h : '\n' ∉ cs) : Solid cs := by
  refine ⟨hne, ?_, ?_⟩
  · intro hhead
    exact h (List.mem_of_head? hhead)
  · intro hlast
    exact h (List.mem_of_getLast? hlast)

/-- Nothing, or a solid text. -/
def Sound (cs : List Char) : Prop := cs = [] ∨ Solid cs

theorem sound_of_not_mem {cs : List Char} (h : '\n' ∉ cs) : Sound cs := by
  by_cases hne : cs = []
  · exact Or.inl hne
  · exact Or.inr (solid_of_not_mem hne h)

/-- A trimmed text is sound; there may be line breaks within it. -/
theorem sound_of_trim_eq {s : String} (h : trim s = s) : Sound s.toList := by
  by_cases hne : s = ""
  · rw [hne]
    exact Or.inl rfl
  · exact Or.inr (solid_of_trim_eq h hne)

/-- It takes two line breaks to make a blank line. -/
theorem not_hasBlankLine_of_not_mem {cs : List Char} (h : '\n' ∉ cs) : ¬ HasBlankLine cs :=
  fun hblank => h (hblank.subset (List.mem_cons_self ..))

section append

variable {xs ys : List Char}

/-- Whatever stands between solid texts, the whole is solid. -/
theorem Solid.surround (hx : Solid xs) (between : List Char) (hy : Solid ys) :
    Solid (xs ++ (between ++ ys)) := by
  obtain ⟨x, xs, rfl⟩ := List.exists_cons_of_ne_nil hx.ne_nil
  have hlast : ys.getLast? = some (ys.getLast hy.ne_nil) := List.getLast?_eq_some_getLast hy.ne_nil
  refine ⟨List.cons_ne_nil _ _, hx.head_ne, ?_⟩
  have hy' := hy.last_ne
  rw [hlast] at hy'
  rwa [List.getLast?_append, List.getLast?_append, hlast]

/-- A solid text stays solid if nothing or something solid comes behind it. -/
theorem Solid.append (hx : Solid xs) (hy : Sound ys) : Solid (xs ++ ys) := by
  rcases hy with rfl | hy
  · rwa [List.append_nil]
  · exact hx.surround [] hy

theorem Sound.append (hx : Sound xs) (hy : Sound ys) : Sound (xs ++ ys) := by
  rcases hx with rfl | hx
  · exact hy
  · exact Or.inr (hx.append hy)

theorem Sound.last_ne (hx : Sound xs) : xs.getLast? ≠ some '\n' := by
  rcases hx with rfl | hx
  · simp
  · exact hx.last_ne

/-- A blank line of two parts is one of either, unless it is made of the end of the first and the
    beginning of the second. -/
theorem hasBlankLine_append (h : xs.getLast? ≠ some '\n' ∨ ys.head? ≠ some '\n') :
    HasBlankLine (xs ++ ys) ↔ HasBlankLine xs ∨ HasBlankLine ys := by
  unfold HasBlankLine
  rw [List.infix_append_iff]
  constructor
  · rintro (hx | hy | ⟨front, back, hsplit, hfront, hback⟩)
    · exact Or.inl hx
    · exact Or.inr hy
    · -- of the two breaks none is in the first part, one is, or both are
      rcases front with _ | ⟨a, _ | ⟨b, front⟩⟩
      · rw [List.nil_append] at hsplit
        exact Or.inr (hsplit ▸ hback.isInfix)
      · -- one line break on either side
        obtain ⟨rfl, rfl⟩ : '\n' = a ∧ ['\n'] = back := by simpa using hsplit
        obtain ⟨start, rfl⟩ := hfront
        obtain ⟨rest, rfl⟩ := hback
        simp at h
      · obtain ⟨rfl, rfl, rfl, rfl⟩ : '\n' = a ∧ '\n' = b ∧ front = [] ∧ back = [] := by
          simpa [eq_comm] using hsplit
        exact Or.inl hfront.isInfix
  · rintro (hx | hy)
    · exact Or.inl hx
    · exact Or.inr (Or.inl hy)

/-- Text without line breaks in front makes no difference. -/
theorem hasBlankLine_append_of_not_mem (h : '\n' ∉ xs) :
    HasBlankLine (xs ++ ys) ↔ HasBlankLine ys := by
  have hlast : xs.getLast? ≠ some '\n' := fun hlast => h (List.mem_of_getLast? hlast)
  rw [hasBlankLine_append (Or.inl hlast)]
  simp [not_hasBlankLine_of_not_mem h]

/-- Nor does text without line breaks behind. -/
theorem hasBlankLine_append_of_not_mem_right (h : '\n' ∉ ys) :
    HasBlankLine (xs ++ ys) ↔ HasBlankLine xs := by
  have hhead : ys.head? ≠ some '\n' := fun hhead => h (List.mem_of_head? hhead)
  rw [hasBlankLine_append (Or.inr hhead)]
  simp [not_hasBlankLine_of_not_mem h]

/-- A line break between solid parts makes no blank line. -/
theorem hasBlankLine_append_lineBreak (hx : Solid xs) (hy : Solid ys) :
    HasBlankLine (xs ++ '\n' :: ys) ↔ HasBlankLine xs ∨ HasBlankLine ys := by
  have hbreak : HasBlankLine ('\n' :: ys) ↔ HasBlankLine ys := by
    obtain ⟨y, ys, rfl⟩ := List.exists_cons_of_ne_nil hy.ne_nil
    have hne : y ≠ '\n' := fun h => hy.head_ne (by rw [h]; rfl)
    rw [hasBlankLine_cons_cons]
    simp [hne]
  rw [hasBlankLine_append (Or.inl hx.last_ne), hbreak]

end append

/-! ## Joined texts -/

section joined

variable {css : List (List Char)}

/-- Solid lines joined by line breaks are solid. -/
theorem solid_joinLines (hne : css ≠ []) (h : ∀ cs ∈ css, Solid cs) :
    Solid (List.intercalate ['\n'] css) := by
  induction css with
  | nil => exact absurd rfl hne
  | cons cs css ih =>
    have hfirst : Solid cs := h cs (List.mem_cons_self ..)
    cases css with
    | nil => simpa using hfirst
    | cons cs' css =>
      have hrest := ih (List.cons_ne_nil _ _) fun x hx => h x (List.mem_cons_of_mem cs hx)
      rw [List.intercalate_cons_cons, List.append_assoc]
      exact hfirst.surround ['\n'] hrest

/-- Joining solid lines makes no blank line that was not in one of them. -/
theorem hasBlankLine_joinLines (h : ∀ cs ∈ css, Solid cs) :
    HasBlankLine (List.intercalate ['\n'] css) ↔ ∃ cs ∈ css, HasBlankLine cs := by
  induction css with
  | nil =>
    have hnone : ¬ HasBlankLine [] := by decide
    simp [hnone]
  | cons cs css ih =>
    have hfirst : Solid cs := h cs (List.mem_cons_self ..)
    have htail : ∀ x ∈ css, Solid x := fun x hx => h x (List.mem_cons_of_mem cs hx)
    cases css with
    | nil => simp
    | cons cs' css =>
      have hrest := solid_joinLines (List.cons_ne_nil _ _) htail
      rw [List.intercalate_cons_cons, List.append_assoc, List.singleton_append,
        hasBlankLine_append_lineBreak hfirst hrest, ih htail]
      simp only [List.mem_cons, exists_eq_or_imp]

/-- What is joined by blank lines falls into the pieces of its parts. -/
theorem cutBlocks_intercalate (hne : css ≠ []) (h : ∀ cs ∈ css, cs.getLast? ≠ some '\n') :
    cutBlocks (List.intercalate ['\n', '\n'] css) = css.flatMap cutBlocks := by
  induction css with
  | nil => exact absurd rfl hne
  | cons cs css ih =>
    cases css with
    | nil => simp
    | cons cs' css =>
      have hrest := ih (List.cons_ne_nil _ _) fun x hx => h x (List.mem_cons_of_mem cs hx)
      rw [List.intercalate_cons_cons, List.append_assoc]
      show cutBlocks (cs ++ '\n' :: '\n' :: List.intercalate _ _) = _
      rw [cutBlocks_append (h cs (List.mem_cons_self ..)), hrest]
      rfl

/-- What is joined by line breaks falls into the lines of its parts. -/
theorem splitOn_intercalate_lineBreak (hne : css ≠ []) :
    (List.intercalate ['\n'] css).splitOn '\n' = css.flatMap (List.splitOn '\n') := by
  induction css with
  | nil => exact absurd rfl hne
  | cons cs css ih =>
    cases css with
    | nil => simp
    | cons cs' css =>
      have hrest := ih (List.cons_ne_nil _ _)
      rw [List.intercalate_cons_cons, List.append_assoc, List.singleton_append]
      unfold List.splitOn at hrest ⊢
      rw [List.splitOnP_append_cons _ _ (by decide), hrest]
      rfl

end joined

/-! ## Counting pieces -/

/-- A list has as many pieces as things in it only if each thing is a single piece. -/
theorem length_flatMap_eq_length_iff {α β : Type} {f : α → List β} {xs : List α}
    (h : ∀ x ∈ xs, f x ≠ []) :
    (xs.flatMap f).length = xs.length ↔ ∀ x ∈ xs, (f x).length = 1 := by
  -- no fewer pieces than things, so one thing with two of them would be one too many
  have hatLeast : ∀ ys : List α, (∀ y ∈ ys, f y ≠ []) → ys.length ≤ (ys.flatMap f).length := by
    intro ys hys
    induction ys with
    | nil => exact Nat.le_refl 0
    | cons y ys ih =>
      have hpos := List.length_pos_iff.2 (hys y (List.mem_cons_self ..))
      have hrest := ih fun z hz => hys z (List.mem_cons_of_mem y hz)
      rw [List.flatMap_cons, List.length_append, List.length_cons]
      omega
  induction xs with
  | nil => simp
  | cons x xs ih =>
    have hpos := List.length_pos_iff.2 (h x (List.mem_cons_self ..))
    have htail : ∀ y ∈ xs, f y ≠ [] := fun y hy => h y (List.mem_cons_of_mem x hy)
    have hrest := hatLeast xs htail
    have hiff := ih htail
    rw [List.flatMap_cons, List.length_append, List.length_cons, List.forall_mem_cons]
    constructor
    · intro heq
      exact ⟨by omega, hiff.1 (by omega)⟩
    · rintro ⟨hone, hall⟩
      have heq := hiff.2 hall
      omega

/-- A text is a single piece if it is not split at all. -/
theorem length_splitOn_eq_one_iff (c : Char) (cs : List Char) :
    (cs.splitOn c).length = 1 ↔ c ∉ cs := by
  constructor
  · intro h hmem
    obtain ⟨xs, ys, rfl⟩ := List.append_of_mem hmem
    have hx := List.length_pos_iff.2 (List.splitOn_ne_nil c xs)
    have hy := List.length_pos_iff.2 (List.splitOn_ne_nil c ys)
    unfold List.splitOn at h hx hy
    rw [List.splitOnP_append_cons _ _ (by simp), List.length_append] at h
    omega
  · intro h
    rw [List.splitOn_eq_singleton h]
    rfl

end ScenePrompt.Text
