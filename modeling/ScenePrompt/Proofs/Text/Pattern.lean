/-
  Patterns with alternatives and edges, and what a search for one finds.

  A PATTERN is made of letters, parts that follow each other, and alternatives, and may ask for an
  EDGE: the start or the end of the text, or a word edge, a place with a word character on one side
  and none on the other.

  A search tries the pattern at every place of the text, from left to right.  At one place it tries
  the alternatives in the order written, each together with all that follows it in the pattern;
  where the rest fails it comes back and takes the next one.  This is what `tryAt` does: it is given
  what is to come (`goOn`) and asks it in each alternative anew.  Hence no alternative that fits too
  early can hide a later one, and

  * a pattern without edges fits a place where one of the texts that it spells out stands
    (`tryAt_iff`);
  * between two word edges it finds these texts as whole words (`foundIn_word_iff`), provided that
    they begin and end with word characters;
  * between the two ends of the text it is the whole of it (`matchesStart_whole_iff`);
  * neither the order nor the grouping of the alternatives matters (`Reordered.tryAt_eq`).

  The proofs about `tryAt` are by induction on the pattern with `goOn` left open.  It has to be: the
  first of two parts goes on with the second one.
-/
import ScenePrompt.Proofs.Text.Phrase

namespace ScenePrompt.Text

/-! ## Patterns and the search -/

/-- A place in a text: what stands before it, nearest character first, and what comes after it. -/
structure Cursor where
  before : List Char
  after : List Char

/-- What is to be found in a text. -/
inductive Pattern where
  /-- one letter, in either case -/
  | letter (p : Char)
  /-- the empty text -/
  | nothing
  /-- no text at all -/
  | never
  /-- the first, and right after it the second -/
  | seq (p q : Pattern)
  /-- the first, or else the second -/
  | either (p q : Pattern)
  /-- a place with a word character on one side only -/
  | wordEdge
  /-- the start of the text -/
  | textStart
  /-- the end of the text, or the place in front of a line feed that ends it -/
  | textEnd

namespace Pattern

/-- Try the pattern at the cursor and go on behind it.  Where what is to come fails, the next
    alternative is tried. -/
def tryAt : Pattern → (Cursor → Bool) → Cursor → Bool
  | letter _, _, ⟨_, []⟩ => false
  | letter p, goOn, ⟨before, c :: after⟩ => isSameLetter p c && goOn ⟨c :: before, after⟩
  | nothing, goOn, k => goOn k
  | never, _, _ => false
  | seq p q, goOn, k => p.tryAt (q.tryAt goOn) k
  | either p q, goOn, k => p.tryAt goOn k || q.tryAt goOn k
  | wordEdge, goOn, k => (startsInWord k.before != startsInWord k.after) && goOn k
  | textStart, goOn, k => k.before.isEmpty && goOn k
  | textEnd, goOn, k => (k.after.isEmpty || k.after == ['\n']) && goOn k

/-- The pattern fits at the cursor, whatever follows. -/
def fitsAt (p : Pattern) (k : Cursor) : Bool := p.tryAt (fun _ => true) k

/-- The pattern fits at some place of the text that follows `before`. -/
def searchFrom (p : Pattern) (before : List Char) : List Char → Bool
  | [] => p.fitsAt ⟨before, []⟩
  | c :: after => p.fitsAt ⟨before, c :: after⟩ || p.searchFrom (c :: before) after

/-- The pattern fits somewhere in the text. -/
def foundIn (p : Pattern) (text : List Char) : Bool := p.searchFrom [] text

/-- The pattern fits where the text begins. -/
def matchesStart (p : Pattern) (text : List Char) : Bool := p.fitsAt ⟨[], text⟩

/-! ## Writing patterns down -/

/-- The letters one after another. -/
def letters : List Char → Pattern
  | [] => nothing
  | c :: cs => seq (letter c) (letters cs)

/-- A text as it stands, in any letter case. -/
def phrase (s : String) : Pattern := letters s.toList

/-- The first of the patterns that leads to a match. -/
def anyOf : List Pattern → Pattern
  | [] => never
  | p :: ps => either p (anyOf ps)

/-- The pattern if it can be had, and nothing otherwise. -/
def optional (p : Pattern) : Pattern := either p nothing

/-- A stem with one of the endings or with none. -/
def stem (s : String) (endings : List String) : Pattern :=
  seq (phrase s) (optional (anyOf (endings.map phrase)))

/-- The pattern between two word edges. -/
def word (p : Pattern) : Pattern := seq wordEdge (seq p wordEdge)

/-! ## What a pattern spells out -/

/-- No part of the pattern asks what stands around it. -/
def isPlain : Pattern → Bool
  | letter _ | nothing | never => true
  | seq p q | either p q => p.isPlain && q.isPlain
  | wordEdge | textStart | textEnd => false

/-- The texts that the pattern spells out; an edge has no letters. -/
def spellings : Pattern → List (List Char)
  | letter p => [[p]]
  | nothing | wordEdge | textStart | textEnd => [[]]
  | never => []
  | seq p q => p.spellings.flatMap fun v => q.spellings.map (v ++ ·)
  | either p q => p.spellings ++ q.spellings

theorem spellings_letters (cs : List Char) : (letters cs).spellings = [cs] := by
  induction cs with
  | nil => rfl
  | cons c cs ih => simp [letters, spellings, ih]

theorem isPlain_letters (cs : List Char) : (letters cs).isPlain = true := by
  induction cs with
  | nil => rfl
  | cons c cs ih => simp [letters, isPlain, ih]

variable {p : Pattern} {goOn : Cursor → Bool} {k : Cursor} {text : List Char}

/-- **A pattern without edges fits where one of its spellings stands**, and the search then goes on
    right behind it. -/
theorem tryAt_iff (hp : p.isPlain = true) :
    p.tryAt goOn k = true ↔ ∃ w ∈ p.spellings, ∃ middle after, k.after = middle ++ after ∧
      IsSameText w middle ∧ goOn ⟨middle.reverse ++ k.before, after⟩ = true := by
  induction p generalizing goOn k with
  | letter p =>
    obtain ⟨before, after⟩ := k
    simp only [spellings, List.mem_singleton, exists_eq_left]
    cases after with
    | nil =>
      constructor
      · intro h
        cases h
      · rintro ⟨middle, after, hsplit, hsame, -⟩
        rw [(List.append_eq_nil_iff.1 hsplit.symm).1] at hsame
        cases hsame
    | cons c rest =>
      rw [tryAt, Bool.and_eq_true]
      constructor
      · rintro ⟨hletter, hrest⟩
        exact ⟨[c], rest, rfl, .cons hletter .nil, hrest⟩
      · rintro ⟨middle, after, hsplit, hsame, hrest⟩
        cases hsame with
        | cons hletter hnil =>
          cases hnil
          obtain ⟨rfl, rfl⟩ := List.cons.inj hsplit
          exact ⟨hletter, hrest⟩
  | nothing =>
    obtain ⟨before, after⟩ := k
    simp only [spellings, List.mem_singleton, exists_eq_left, tryAt]
    constructor
    · intro h
      exact ⟨[], after, rfl, .nil, h⟩
    · rintro ⟨middle, rest, hsplit, hsame, hrest⟩
      cases hsame
      obtain rfl : after = rest := hsplit
      exact hrest
  | never => simp [tryAt, spellings]
  | seq p q ihp ihq =>
    obtain ⟨hplainp, hplainq⟩ := (Bool.and_eq_true _ _).to_iff.1 hp
    simp only [tryAt, ihp hplainp, ihq hplainq, spellings, List.mem_flatMap, List.mem_map]
    constructor
    · rintro ⟨v, hv, front, after, hsplit, hfront, w, hw, middle, rest, rfl, hmiddle, hrest⟩
      refine ⟨v ++ w, ⟨v, hv, w, hw, rfl⟩, front ++ middle, rest, ?_,
        isSameText_append_iff.2 ⟨front, middle, rfl, hfront, hmiddle⟩, ?_⟩
      · rw [hsplit, List.append_assoc]
      · rw [List.reverse_append, List.append_assoc]
        exact hrest
    · rintro ⟨-, ⟨v, hv, w, hw, rfl⟩, both, rest, hsplit, hsame, hrest⟩
      obtain ⟨front, middle, rfl, hfront, hmiddle⟩ := isSameText_append_iff.1 hsame
      rw [List.reverse_append, List.append_assoc] at hrest
      exact ⟨v, hv, front, middle ++ rest, by rw [hsplit, List.append_assoc], hfront,
        w, hw, middle, rest, rfl, hmiddle, hrest⟩
  | either p q ihp ihq =>
    obtain ⟨hplainp, hplainq⟩ := (Bool.and_eq_true _ _).to_iff.1 hp
    rw [tryAt, Bool.or_eq_true, ihp hplainp, ihq hplainq, spellings]
    simp only [List.mem_append, or_and_right, exists_or]
  | wordEdge | textStart | textEnd => cases hp

/-! ## Searching -/

/-- The search finds a pattern if the text can be cut where it fits. -/
theorem searchFrom_iff {before : List Char} :
    p.searchFrom before text = true ↔
      ∃ front rest, text = front ++ rest ∧ p.fitsAt ⟨front.reverse ++ before, rest⟩ = true := by
  induction text generalizing before with
  | nil =>
    constructor
    · intro h
      exact ⟨[], [], rfl, h⟩
    · rintro ⟨front, rest, hsplit, h⟩
      obtain ⟨rfl, rfl⟩ := List.append_eq_nil_iff.1 hsplit.symm
      exact h
  | cons c cs ih =>
    rw [searchFrom, Bool.or_eq_true, ih]
    constructor
    · rintro (h | ⟨front, rest, rfl, h⟩)
      · exact ⟨[], c :: cs, rfl, h⟩
      · refine ⟨c :: front, rest, rfl, ?_⟩
        rwa [List.reverse_cons, List.append_assoc]
    · rintro ⟨front, rest, hsplit, h⟩
      cases front with
      | nil =>
        obtain rfl : c :: cs = rest := hsplit
        exact Or.inl h
      | cons d front =>
        obtain ⟨rfl, hcs⟩ := List.cons.inj hsplit
        rw [List.reverse_cons, List.append_assoc] at h
        exact Or.inr ⟨front, rest, hcs, h⟩

/-- A pattern is found in a text if the text can be cut in front of a place where it fits. -/
theorem foundIn_iff :
    p.foundIn text = true ↔
      ∃ front rest, text = front ++ rest ∧ p.fitsAt ⟨front.reverse, rest⟩ = true := by
  rw [foundIn, searchFrom_iff]
  simp only [List.append_nil]

/-- One of several alternatives is found if any of them is. -/
theorem foundIn_anyOf_iff {ps : List Pattern} :
    (anyOf ps).foundIn text = true ↔ ∃ p ∈ ps, p.foundIn text = true := by
  simp only [foundIn_iff, fitsAt]
  induction ps with
  | nil => simp [anyOf, tryAt]
  | cons p ps ih =>
    simp only [anyOf, tryAt, Bool.or_eq_true, and_or_left, exists_or, ih, List.mem_cons,
      exists_eq_or_imp]

/-- A text is found where it stands, in any letter case. -/
theorem foundIn_phrase_iff {s : String} :
    (phrase s).foundIn text = true ↔
      ∃ front middle after, text = front ++ (middle ++ after) ∧ IsSameText s.toList middle := by
  simp only [foundIn_iff, fitsAt, phrase, tryAt_iff (isPlain_letters _), spellings_letters,
    List.mem_singleton, exists_eq_left, and_true]
  constructor
  · rintro ⟨front, -, hsplit, middle, after, rfl, hsame⟩
    exact ⟨front, middle, after, hsplit, hsame⟩
  · rintro ⟨front, middle, after, hsplit, hsame⟩
    exact ⟨front, middle ++ after, hsplit, middle, after, rfl, hsame⟩

/-- A sign is found where it stands. -/
theorem foundIn_sign_iff {sign : String} (h : ∀ c ∈ sign.toList, IsCaseless c) :
    (phrase sign).foundIn text = true ↔ sign.toList <:+: text := by
  simp only [foundIn_phrase_iff, isSameText_iff_eq_of_caseless h]
  constructor
  · rintro ⟨front, middle, after, rfl, rfl⟩
    exact ⟨front, after, List.append_assoc front sign.toList after⟩
  · rintro ⟨front, after, rfl⟩
    exact ⟨front, sign.toList, after, List.append_assoc front sign.toList after, rfl⟩

/-! ## Whole words -/

/-- Behind a text stands its last character. -/
theorem startsInWord_reverse_append (text before : List Char) :
    startsInWord (text.reverse ++ before) = endsInWord (startsInWord before) text := by
  induction text generalizing before with
  | nil => rfl
  | cons c cs ih =>
    rw [List.reverse_cons, List.append_assoc, ih, endsInWord_cons]
    rfl

/-- The phrase begins and ends with a word character. -/
def IsBounded (w : List Char) : Prop := startsInWord w = true ∧ endsInWord false w = true

instance (w : List Char) : Decidable (IsBounded w) := inferInstanceAs (Decidable (_ ∧ _))

/-- Where such a phrase stands, a word character comes next in front of it, and there is one right
    behind us at its end. -/
theorem IsBounded.startsInWord_append {w middle : List Char} (hw : IsBounded w)
    (h : IsSameText w middle) (before after : List Char) :
    startsInWord (middle ++ after) = true ∧ startsInWord (middle.reverse ++ before) = true := by
  obtain ⟨hstarts, hends⟩ := hw
  rw [startsInWord_reverse_append, h.endsInWord_eq]
  cases h with
  | nil => cases hstarts
  | cons hletter _ =>
    rw [endsInWord_cons] at hends ⊢
    exact ⟨(isWordChar_of_isSameLetter hletter).trans hstarts, hends⟩

/-- **A pattern between two word edges finds its spellings as whole words**, if they begin and end
    with word characters. -/
theorem foundIn_word_iff (hp : p.isPlain = true) (hbounded : ∀ w ∈ p.spellings, IsBounded w) :
    (word p).foundIn text = true ↔ ∃ w ∈ p.spellings, OccursAsWords w text := by
  simp only [foundIn_iff, fitsAt, word, tryAt, tryAt_iff hp, Bool.and_eq_true, bne_iff_ne, and_true]
  constructor
  · rintro ⟨front, -, rfl, hfirst, w, hw, middle, after, rfl, hsame, hlast⟩
    -- the edges are where the phrase begins and ends, since its ends are word characters
    obtain ⟨hnext, hbehind⟩ := (hbounded w hw).startsInWord_append hsame front.reverse after
    rw [hnext, ← List.append_nil front.reverse, startsInWord_reverse_append] at hfirst
    rw [hbehind] at hlast
    exact ⟨w, hw, front, middle, after, rfl, hsame, Bool.eq_false_iff.2 hfirst,
      Bool.eq_false_iff.2 hlast.symm⟩
  · rintro ⟨w, hw, front, middle, after, rfl, hsame, hbefore, hafter⟩
    obtain ⟨hnext, hbehind⟩ := (hbounded w hw).startsInWord_append hsame front.reverse after
    refine ⟨front, middle ++ after, rfl, ?_, w, hw, middle, after, rfl, hsame, ?_⟩
    · rw [hnext, ← List.append_nil front.reverse, startsInWord_reverse_append]
      exact Bool.eq_false_iff.1 hbefore
    · rw [hbehind, hafter]
      decide

-- the bare stem fits first and is given up for the ending
example : (word (either (phrase "push") (phrase "pushes"))).foundIn "It PUSHES.".toList = true := by
  decide +kernel

/-! ## Whole texts -/

/-- A pattern between the two ends of a text is the whole text, but for a line feed that ends it. -/
theorem matchesStart_whole_iff (hp : p.isPlain = true) :
    (seq textStart (seq p textEnd)).matchesStart text = true ↔
      ∃ w ∈ p.spellings, ∃ body, (text = body ∨ text = body ++ ['\n']) ∧ IsSameText w body := by
  simp only [matchesStart, fitsAt, tryAt, tryAt_iff hp, List.isEmpty_nil, Bool.true_and,
    Bool.and_true, Bool.or_eq_true, List.isEmpty_iff, beq_iff_eq]
  constructor
  · rintro ⟨w, hw, body, after, rfl, hsame, rfl | rfl⟩
    · exact ⟨w, hw, body, Or.inl (List.append_nil body), hsame⟩
    · exact ⟨w, hw, body, Or.inr rfl, hsame⟩
  · rintro ⟨w, hw, body, rfl | rfl, hsame⟩
    · exact ⟨w, hw, text, [], (List.append_nil text).symm, hsame, Or.inl rfl⟩
    · exact ⟨w, hw, body, ['\n'], rfl, hsame, Or.inr rfl⟩

/-! ## The order of alternatives -/

/-- The patterns differ in the order and the grouping of their alternatives only. -/
inductive Reordered : Pattern → Pattern → Prop where
  | refl (p : Pattern) : Reordered p p
  | symm {p q : Pattern} : Reordered p q → Reordered q p
  | trans {p q r : Pattern} : Reordered p q → Reordered q r → Reordered p r
  | swap (p q : Pattern) : Reordered (either p q) (either q p)
  | regroup (p q r : Pattern) : Reordered (either p (either q r)) (either (either p q) r)
  | seq {p p' q q' : Pattern} : Reordered p p' → Reordered q q' → Reordered (seq p q) (seq p' q')
  | either {p p' q q' : Pattern} :
      Reordered p p' → Reordered q q' → Reordered (either p q) (either p' q')

/-- **The order of alternatives does not matter**, at whatever place and whatever follows. -/
theorem Reordered.tryAt_eq {p q : Pattern} (h : Reordered p q) : p.tryAt = q.tryAt := by
  induction h with
  | refl p => rfl
  | symm _ ih => exact ih.symm
  | trans _ _ ihpq ihqr => exact ihpq.trans ihqr
  | swap p q =>
    funext goOn k
    exact Bool.or_comm _ _
  | regroup p q r =>
    funext goOn k
    exact (Bool.or_assoc _ _ _).symm
  | seq _ _ ihp ihq =>
    funext goOn k
    rw [tryAt, tryAt, ihp, ihq]
  | either _ _ ihp ihq =>
    funext goOn k
    rw [tryAt, tryAt, ihp, ihq]

/-- So a search finds the one where it finds the other. -/
theorem Reordered.foundIn_eq {p q : Pattern} (h : Reordered p q) (text : List Char) :
    p.foundIn text = q.foundIn text := by
  rw [Bool.eq_iff_iff, foundIn_iff, foundIn_iff]
  simp only [fitsAt, h.tryAt_eq]

theorem Reordered.matchesStart_eq {p q : Pattern} (h : Reordered p q) (text : List Char) :
    p.matchesStart text = q.matchesStart text := by
  rw [matchesStart, matchesStart, fitsAt, fitsAt, h.tryAt_eq]

/-- Alternatives listed in another order. -/
theorem reordered_anyOf_of_perm {ps qs : List Pattern} (h : ps.Perm qs) :
    Reordered (anyOf ps) (anyOf qs) := by
  induction h with
  | nil => exact .refl _
  | cons p _ ih => exact .either (.refl p) ih
  | swap p q ps =>
    -- the two are brought together, exchanged, and set apart again
    have htogether := Reordered.regroup q p (anyOf ps)
    have hexchanged := Reordered.either (.swap q p) (.refl (anyOf ps))
    exact (htogether.trans hexchanged).trans (Reordered.regroup p q (anyOf ps)).symm
  | trans _ _ ihpq ihqr => exact ihpq.trans ihqr

end Pattern

end ScenePrompt.Text
