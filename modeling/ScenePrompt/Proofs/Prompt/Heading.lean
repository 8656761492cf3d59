/-
  Finding the headings of a prompt.

  A heading is known by its label, and a label may stand anywhere: `Heading.foundIn` goes over a
  text and notes every place where one begins, so that a heading which occurs twice is found twice
  and one that a user typed is found as well.

  It is the scaffold of a prompt that is searched, where no user has typed anything.  No label
  reaches over the end of a line, so the search may be done line by line
  (`foundIn_append_lineBreak`), and hence gap by gap: a scaffold is what comes of cutting the
  template at its holes, and with a line break in every hole there is but one text to go over
  (`Template.foundIn_scaffold`).  Every label has a capital A in it, and besides the headings
  themselves nothing in a prompt has one.
-/
import ScenePrompt.Prompt.Layout
import ScenePrompt.Proofs.Prompt.Template

namespace ScenePrompt

/-! ## Headings -/

namespace Heading

/-- The headings with whose labels the text begins. -/
def startingHere (cs : List Char) : List Heading :=
  all.filter fun h => h.label.toList.isPrefixOf cs

/-- The headings whose labels occur in the text, from left to right, each as often as it does. -/
def foundIn : List Char → List Heading
  | [] => []
  | c :: cs => startingHere (c :: cs) ++ foundIn cs

/-- Whether a text without line breaks stands at the beginning of another is decided on its first
    line. -/
theorem isPrefixOf_append_lineBreak {p : List Char} (hp : '\n' ∉ p) (xs ys : List Char) :
    p.isPrefixOf (xs ++ '\n' :: ys) = p.isPrefixOf xs := by
  induction p generalizing xs with
  | nil => rfl
  | cons c p ih =>
    -- the line break ends the comparison just as the end of the first line does
    have hc : c ≠ '\n' := fun h => hp (h ▸ List.mem_cons_self ..)
    have hrest : '\n' ∉ p := fun h => hp (List.mem_cons_of_mem c h)
    cases xs with
    | nil => simp [List.isPrefixOf, hc]
    | cons x xs => simp [List.isPrefixOf, ih hrest]

/-- No label reaches over the end of a line. -/
theorem startingHere_append_lineBreak (xs ys : List Char) :
    startingHere (xs ++ '\n' :: ys) = startingHere xs := by
  refine List.filter_congr fun h _ => ?_
  -- none of the seven labels has a line break in it
  have hlabel : '\n' ∉ h.label.toList := by cases h <;> decide
  exact isPrefixOf_append_lineBreak hlabel xs ys

/-- What is found in lines is found line by line. -/
theorem foundIn_append_lineBreak (xs ys : List Char) :
    foundIn (xs ++ '\n' :: ys) = foundIn xs ++ foundIn ys := by
  induction xs with
  | nil =>
    have hnone : startingHere ('\n' :: ys) = [] := startingHere_append_lineBreak [] ys
    show startingHere ('\n' :: ys) ++ foundIn ys = _
    rw [hnone]
    rfl
  | cons x xs ih =>
    have hstart : startingHere (x :: (xs ++ '\n' :: ys)) = startingHere (x :: xs) :=
      startingHere_append_lineBreak (x :: xs) ys
    show startingHere (x :: (xs ++ '\n' :: ys)) ++ foundIn (xs ++ '\n' :: ys) = _
    rw [hstart, ih, ← List.append_assoc]
    rfl

/-- No label begins with a line break. -/
theorem foundIn_lineBreak (ys : List Char) : foundIn ('\n' :: ys) = foundIn ys :=
  foundIn_append_lineBreak [] ys

/-- In lines one under another each line is searched by itself. -/
theorem foundIn_intercalate (css : List (List Char)) :
    foundIn (List.intercalate ['\n'] css) = css.flatMap foundIn := by
  induction css with
  | nil => rfl
  | cons cs css ih =>
    cases css with
    | nil => simp
    | cons cs' css =>
      rw [List.intercalate_cons_cons, List.append_assoc, List.singleton_append,
        foundIn_append_lineBreak, ih]
      rfl

/-- Every label has a capital A in it, so there is none in a text that has not. -/
theorem foundIn_eq_nil {cs : List Char} (h : 'A' ∉ cs) : foundIn cs = [] := by
  induction cs with
  | nil => rfl
  | cons c cs ih =>
    have hstart : startingHere (c :: cs) = [] := by
      refine List.filter_eq_nil_iff.2 fun hd _ hprefix => ?_
      -- all of them have a capital A
      have hlabel : 'A' ∈ hd.label.toList := by cases hd <;> decide
      exact h ((List.isPrefixOf_iff_prefix.1 hprefix).subset hlabel)
    show startingHere (c :: cs) ++ foundIn cs = []
    rw [hstart, ih fun hmem => h (List.mem_cons_of_mem c hmem)]
    rfl

/-- In the line of a heading its own label is found, once, and no other. -/
theorem foundIn_headingLine (l : Layout) (h : Heading) :
    foundIn (l.headingLine h).toList = [h] := by
  cases l <;> cases h <;> decide +kernel

end Heading

/-- A piece of a template, a hole being a line break. -/
def Piece.unfilled : Piece → List Char
  | fixed x => x.toList
  | hole => ['\n']

/-- A template with a line break in every hole. -/
def Template.unfilled (t : Template) : List Char := t.flatMap Piece.unfilled

namespace Template

theorem unfilled_cons (p : Piece) (t : Template) :
    unfilled (p :: t) = p.unfilled ++ unfilled t :=
  List.flatMap_cons

theorem unfilled_append (t u : Template) : (t ++ u).unfilled = t.unfilled ++ u.unfilled :=
  List.flatMap_append

/-- A scaffold is what is left when the unfilled template is cut at its holes. -/
theorem intercalate_scaffold (t : Template) :
    List.intercalate ['\n'] (t.scaffold.map String.toList) = t.unfilled := by
  induction t with
  | nil => rfl
  | cons p t ih =>
    obtain ⟨gap, gaps, hgaps⟩ := List.exists_cons_of_ne_nil (Template.scaffold_ne_nil t)
    rw [hgaps, List.map_cons] at ih
    cases p with
    | fixed x =>
      show List.intercalate ['\n'] (((scaffold t).modifyHead (x ++ ·)).map String.toList) =
        x.toList ++ unfilled t
      rw [hgaps, ← ih]
      -- a fixed piece is put in front of the first gap
      cases gaps <;> simp
    | hole =>
      show List.intercalate ['\n'] ([] :: (scaffold t).map String.toList) = '\n' :: unfilled t
      -- a hole opens an empty gap, and the cut is the line break in it
      rw [hgaps, ← ih, List.map_cons, List.intercalate_cons_cons]
      rfl

/-- To search the texts of a scaffold one by one is to search the template with line breaks in its
    holes. -/
theorem foundIn_scaffold (t : Template) :
    (t.scaffold.flatMap fun x => Heading.foundIn x.toList) = Heading.foundIn t.unfilled := by
  rw [← t.intercalate_scaffold, Heading.foundIn_intercalate, List.flatMap_map]

/-- Between templates that are joined by blank lines nothing is found. -/
theorem foundIn_join (ts : List Template) :
    Heading.foundIn (join "\n\n" ts).unfilled = ts.flatMap fun t => Heading.foundIn t.unfilled := by
  induction ts with
  | nil => rfl
  | cons t ts ih =>
    cases ts with
    | nil => simp [join]
    | cons u ts =>
      have hjoin : (join "\n\n" (t :: u :: ts)).unfilled =
          t.unfilled ++ '\n' :: '\n' :: (join "\n\n" (u :: ts)).unfilled := by
        show unfilled (List.intercalate _ _) = _
        rw [List.intercalate_cons_cons, unfilled_append, unfilled_append, List.append_assoc]
        rfl
      rw [hjoin, Heading.foundIn_append_lineBreak, Heading.foundIn_lineBreak, ih]
      rfl

/-- What occurs in joined templates occurs in one of them or in what joins them. -/
theorem mem_unfilled_join {separator : String} {ts : List Template} {c : Char}
    (h : c ∈ (join separator ts).unfilled) :
    c ∈ separator.toList ∨ ∃ t ∈ ts, c ∈ t.unfilled := by
  cases ts with
  | nil => cases h
  | cons t after =>
    rw [join_cons, unfilled_append] at h
    rcases List.mem_append.1 h with h | h
    · exact Or.inr ⟨t, List.mem_cons_self .., h⟩
    · obtain ⟨p, hp, hc⟩ := List.mem_flatMap.1 h
      obtain ⟨u, hu, hp⟩ := List.mem_flatMap.1 hp
      rcases List.mem_cons.1 hp with rfl | hp
      · exact Or.inl hc
      · exact Or.inr ⟨u, List.mem_cons_of_mem t hu, List.mem_flatMap.2 ⟨p, hp, hc⟩⟩

end Template

end ScenePrompt
