/-
  What it means that a phrase occurs in a text.

  The walks behind the vocabularies answer yes or no, each in one pass that carries what it needs to
  know of the past.  Here stands what they look for, with no walk in it:

  * a phrase OCCURS AS WORDS (`OccursAsWords`) where the text can be cut in three, so that the
    middle is the phrase in any letter case and no word character touches it on either side;
  * a text IS a name in any letter case (`IsSameText`) when the two agree letter by letter;
  * the WORDS of a text (`words`) are what is left of it when it is cut at every blank and the
    empty pieces are thrown away.

  Letter case never turns a word character into anything else (`isWordChar_of_isSameLetter`), so a
  phrase and a text that is the same begin and end words alike.  For a phrase that is a single word
  this says where it occurs: it is one of the maximal runs of word characters
  (`occursAsWords_iff_exists_isRun`).

  The walk over a text with its flag `afterWord` is the search for a cut: the flag is what has been
  seen of the part in front (`endsInWord`), and the place where the walk finds the phrase is where
  the middle begins (`occursAsWords_iff_exists_append`).  A phrase may begin at one place only to
  fail, and be found at a later one, so the walk goes on in both cases.
-/
import Mathlib.Data.List.Forall2
import ScenePrompt.Proofs.Text.LetterCase
import ScenePrompt.Proofs.Text.Run
import ScenePrompt.Text.Vocabulary

namespace ScenePrompt.Text

/-! ## Letters up to case -/

/-- The two texts agree letter by letter, in any letter case. -/
def IsSameText (phrase text : List Char) : Prop :=
  List.Forall₂ (fun p c => isSameLetter p c = true) phrase text

/-- The comparison letter by letter that runs is this one. -/
theorem isSameText_iff {phrase text : List Char} :
    isSameText phrase text = true ↔ IsSameText phrase text := by
  unfold IsSameText
  induction phrase generalizing text with
  | nil => cases text <;> simp [isSameText]
  | cons p ps ih =>
    cases text with
    | nil => simp [isSameText]
    | cons c cs => simp [isSameText, ih]

/-- The capitals of ASCII and their small letters are word characters alike, and the partners that
    a letter has beyond ASCII are letters as well. -/
theorem isWordChar_of_isSameLetter {p c : Char} (h : isSameLetter p c = true) :
    isWordChar c = isWordChar p := by
  have hsmall : isWordChar c.toLower = isWordChar c := eq_of_forall_capitals (by decide +kernel) c
  have hbeyond : isWordChar '\u0130' = true ∧ isWordChar '\u0131' = true ∧
      isWordChar '\u017F' = true ∧ isWordChar '\u212A' = true := by decide +kernel
  obtain ⟨hdotted, hdotless, hlong, hkelvin⟩ := hbeyond
  have hletter : (((c = p ∨ c.toLower = p) ∨ p = 'i' ∧ (c = '\u0130' ∨ c = '\u0131')) ∨
      p = 's' ∧ c = '\u017F') ∨ p = 'k' ∧ c = '\u212A' := by simpa [isSameLetter] using h
  -- the letter itself, its capital, or one of its partners beyond ASCII
  rcases hletter with (((rfl | rfl) | ⟨rfl, rfl | rfl⟩) | ⟨rfl, rfl⟩) | ⟨rfl, rfl⟩
  · rfl
  · exact hsmall.symm
  · rw [hdotted]; rfl
  · rw [hdotless]; rfl
  · rw [hlong]; rfl
  · rw [hkelvin]; rfl

/-- The character is the same letter as itself and no other. -/
def IsCaseless (p : Char) : Prop := ∀ c, isSameLetter p c = true → c = p

/-- A character is caseless if no capital has it as its small letter, and it is none of the three
    letters with partners beyond ASCII. -/
theorem isCaseless_of_forall_capitals {p : Char}
    (hcapitals : ∀ n ∈ capitals, (Char.ofNat n).toLower ≠ p)
    (hbeyond : p ≠ 'i' ∧ p ≠ 's' ∧ p ≠ 'k') : IsCaseless p := by
  intro c h
  obtain ⟨hi, hs, hk⟩ := hbeyond
  have hletter : c = p ∨ c.toLower = p := by simpa [isSameLetter, hi, hs, hk] using h
  rcases hletter with heq | hlower
  · exact heq
  · rcases toLower_eq_self_or_capital c with hself | hcapital
    · rw [← hself, hlower]
    · rw [← Char.ofNat_toNat c] at hlower
      exact absurd hlower (hcapitals c.toNat hcapital)

theorem isCaseless_lineFeed : IsCaseless '\n' :=
  isCaseless_of_forall_capitals (by decide) (by decide)

/-- A text without letters is written in one way only. -/
theorem isSameText_iff_eq_of_caseless {sign text : List Char} (h : ∀ p ∈ sign, IsCaseless p) :
    IsSameText sign text ↔ text = sign := by
  constructor
  · intro hsame
    induction hsame with
    | nil => rfl
    | cons hletter _ ih =>
      obtain ⟨hp, hrest⟩ := List.forall_mem_cons.1 h
      rw [hp _ hletter, ih hrest]
  · rintro rfl
    exact isSameText_iff.1 (isSameText_self text)

/-- What is the same as two texts put together can be cut into the one and the other. -/
theorem isSameText_append_iff {v w text : List Char} :
    IsSameText (v ++ w) text ↔
      ∃ front rest, text = front ++ rest ∧ IsSameText v front ∧ IsSameText w rest := by
  constructor
  · intro h
    have hfront := List.forall₂_take v.length h
    have hrest := List.forall₂_drop v.length h
    rw [List.take_left] at hfront
    rw [List.drop_left] at hrest
    exact ⟨_, _, (List.take_append_drop v.length text).symm, hfront, hrest⟩
  · rintro ⟨front, rest, rfl, hfront, hrest⟩
    exact List.rel_append hfront hrest

/-! ## Phrases between other text -/

/-- The text ends with a word character; an empty one does if what stands before it does. -/
def endsInWord (afterWord : Bool) (text : List Char) : Bool :=
  (text.getLast?.map isWordChar).getD afterWord

theorem endsInWord_cons (afterWord : Bool) (c : Char) (cs : List Char) :
    endsInWord afterWord (c :: cs) = endsInWord (isWordChar c) cs := by
  cases cs with
  | nil => rfl
  | cons d ds => simp [endsInWord, List.getLast?_cons]

/-- At the beginning of a text: it does not end in a word if it is empty or its last character is
    none of a word. -/
theorem endsInWord_eq_false_iff {text : List Char} :
    endsInWord false text = false ↔ ∀ c, text.getLast? = some c → isWordChar c = false := by
  unfold endsInWord
  cases text.getLast? <;> simp

/-- And it does not start in one if it is empty or its first character is none of a word. -/
theorem startsInWord_eq_false_iff {text : List Char} :
    startsInWord text = false ↔ ∀ c, text.head? = some c → isWordChar c = false := by
  cases text <;> simp [startsInWord]

/-- Whether a text ends with a word character does not depend on its letter case. -/
theorem IsSameText.endsInWord_eq {phrase text : List Char} (h : IsSameText phrase text)
    (afterWord : Bool) : endsInWord afterWord text = endsInWord afterWord phrase := by
  induction h generalizing afterWord with
  | nil => rfl
  | cons hletter _ ih =>
    rw [endsInWord_cons, endsInWord_cons, ih, isWordChar_of_isSameLetter hletter]

/-- What is the same as a word consists of word characters too. -/
theorem IsSameText.forall_isWordChar {word text : List Char} (h : IsSameText word text)
    (hword : ∀ p ∈ word, isWordChar p = true) : ∀ c ∈ text, isWordChar c = true := by
  induction h with
  | nil => exact List.forall_mem_nil _
  | cons hletter _ ih =>
    obtain ⟨hp, hrest⟩ := List.forall_mem_cons.1 hword
    rw [← isWordChar_of_isSameLetter hletter] at hp
    exact List.forall_mem_cons.2 ⟨hp, ih hrest⟩

/-- The phrase stands in the text, in any letter case, and no word character touches it. -/
def OccursAsWords (phrase text : List Char) : Prop :=
  ∃ before middle after, text = before ++ (middle ++ after) ∧ IsSameText phrase middle ∧
    endsInWord false before = false ∧ startsInWord after = false

/-- A text begins with a phrase as whole words if a part in front is the phrase and what follows
    goes on with no word character. -/
theorem startsWithWords_iff {phrase text : List Char} :
    startsWithWords phrase text = true ↔
      ∃ middle after, text = middle ++ after ∧ IsSameText phrase middle ∧
        startsInWord after = false := by
  induction phrase generalizing text with
  | nil =>
    constructor
    · intro h
      exact ⟨[], text, rfl, .nil, by simpa [startsWithWords] using h⟩
    · rintro ⟨middle, after, rfl, hsame, hafter⟩
      cases hsame
      simpa [startsWithWords] using hafter
  | cons p ps ih =>
    cases text with
    | nil =>
      constructor
      · intro h
        cases h
      · rintro ⟨middle, after, hsplit, hsame, -⟩
        cases hsame
        cases hsplit
    | cons c cs =>
      rw [startsWithWords, Bool.and_eq_true, ih]
      constructor
      · rintro ⟨hletter, middle, after, rfl, hsame, hafter⟩
        exact ⟨c :: middle, after, rfl, .cons hletter hsame, hafter⟩
      · rintro ⟨middle, after, hsplit, hsame, hafter⟩
        cases hsame with
        | cons hletter hrest =>
          obtain ⟨rfl, hcs⟩ := List.cons.inj hsplit
          exact ⟨hletter, _, after, hcs, hrest, hafter⟩

/-- The walk finds a phrase if the text can be cut in front of one, after no word character. -/
theorem occursAsWords_iff_exists_append {phrases : List (List Char)} {afterWord : Bool}
    {text : List Char} :
    occursAsWords phrases afterWord text = true ↔
      ∃ p ∈ phrases, ∃ before rest, text = before ++ rest ∧ rest ≠ [] ∧
        endsInWord afterWord before = false ∧ startsWithWords p rest = true := by
  induction text generalizing afterWord with
  | nil =>
    constructor
    · intro h
      cases h
    · rintro ⟨p, -, before, rest, hsplit, hne, -⟩
      exact absurd (List.append_eq_nil_iff.1 hsplit.symm).2 hne
  | cons c cs ih =>
    rw [occursAsWords, Bool.or_eq_true, Bool.and_eq_true, Bool.not_eq_true', List.any_eq_true, ih]
    constructor
    · rintro (⟨hword, p, hp, hstarts⟩ | ⟨p, hp, before, rest, rfl, hne, hbefore, hstarts⟩)
      · exact ⟨p, hp, [], c :: cs, rfl, List.cons_ne_nil c cs, hword, hstarts⟩
      · refine ⟨p, hp, c :: before, rest, rfl, hne, ?_, hstarts⟩
        rw [endsInWord_cons, hbefore]
    · rintro ⟨p, hp, before, rest, hsplit, hne, hbefore, hstarts⟩
      cases before with
      | nil =>
        -- the phrase begins right here
        rw [List.nil_append] at hsplit
        exact Or.inl ⟨hbefore, p, hp, hsplit ▸ hstarts⟩
      | cons d before =>
        obtain ⟨rfl, hcs⟩ := List.cons.inj hsplit
        rw [endsInWord_cons] at hbefore
        exact Or.inr ⟨p, hp, before, rest, hcs, hne, hbefore, hstarts⟩

/-- **The walk finds what occurs as words**, of phrases that are not empty. -/
theorem occursAsWords_iff {phrases : List (List Char)} (hne : ∀ p ∈ phrases, p ≠ [])
    (text : List Char) :
    occursAsWords phrases false text = true ↔ ∃ p ∈ phrases, OccursAsWords p text := by
  rw [occursAsWords_iff_exists_append]
  constructor
  · rintro ⟨p, hp, before, rest, rfl, -, hbefore, hstarts⟩
    obtain ⟨middle, after, rfl, hsame, hafter⟩ := startsWithWords_iff.1 hstarts
    exact ⟨p, hp, before, middle, after, rfl, hsame, hbefore, hafter⟩
  · rintro ⟨p, hp, before, middle, after, rfl, hsame, hbefore, hafter⟩
    refine ⟨p, hp, before, middle ++ after, rfl, ?_, hbefore,
      startsWithWords_iff.2 ⟨middle, after, rfl, hsame, hafter⟩⟩
    intro hnil
    rw [(List.append_eq_nil_iff.1 hnil).1] at hsame
    cases hsame
    exact hne [] hp rfl

/-- **A single word occurs as words where it is one of the text's maximal runs of word
    characters.** -/
theorem occursAsWords_iff_exists_isRun {word : List Char} (hne : word ≠ [])
    (hword : ∀ p ∈ word, isWordChar p = true) (text : List Char) :
    OccursAsWords word text ↔ ∃ run, IsRun isWordChar run text ∧ IsSameText word run := by
  constructor
  · rintro ⟨before, run, after, hsplit, hsame, hbefore, hafter⟩
    -- the word is not empty, so the middle is not; it is maximal because nothing of a word touches
    -- it
    have hrun : run ≠ [] := by
      rintro rfl
      cases hsame
      exact hne rfl
    exact ⟨run, ⟨hrun, hsame.forall_isWordChar hword, before, after, hsplit,
      endsInWord_eq_false_iff.1 hbefore, startsInWord_eq_false_iff.1 hafter⟩, hsame⟩
  · rintro ⟨run, ⟨-, -, before, after, hsplit, hbefore, hafter⟩, hsame⟩
    exact ⟨before, run, after, hsplit, hsame, endsInWord_eq_false_iff.2 hbefore,
      startsInWord_eq_false_iff.2 hafter⟩

/-- The walk for a sign finds it if it is a stretch of the text, whatever touches it. -/
theorem occursInside_iff {run text : List Char} : occursInside run text = true ↔ run <:+: text := by
  induction text with
  | nil => simp [occursInside]
  | cons c cs ih => rw [occursInside, Bool.or_eq_true, ih, List.isPrefixOf_iff_prefix,
      List.infix_cons_iff]

/-! ## The vocabularies -/

/-- A sequence is told by one of the four words, as a whole word. -/
theorem hasSequencing_iff {s : String} :
    hasSequencing s = true ↔ ∃ word ∈ sequencingWords, OccursAsWords word.toList s.toList := by
  have hne : ∀ p ∈ sequencingWords.map String.toList, p ≠ [] := by decide
  rw [hasSequencing, occursAsWords_iff hne]
  simp only [List.mem_map, exists_exists_and_eq_and]

/-- A link is told by a sign anywhere, or by one of the phrases as whole words. -/
theorem hasCausalLink_iff {s : String} :
    hasCausalLink s = true ↔
      (∃ sign ∈ causalSigns, sign.toList <:+: s.toList) ∨
        ∃ phrase ∈ causalPhrases, OccursAsWords phrase.toList s.toList := by
  have hne : ∀ p ∈ causalPhrases.map String.toList, p ≠ [] := by decide
  rw [hasCausalLink, Bool.or_eq_true, occursAsWords_iff hne, List.any_eq_true]
  simp only [occursInside_iff, List.mem_map, exists_exists_and_eq_and]

/-- A placeholder with a line feed after it is one in front of a line feed. -/
theorem isSameText_append_lineFeed_iff {name text : List Char} :
    IsSameText (name ++ ['\n']) text ↔ ∃ body, text = body ++ ['\n'] ∧ IsSameText name body := by
  have hfeed : ∀ {rest}, IsSameText ['\n'] rest ↔ rest = ['\n'] := fun {rest} =>
    isSameText_iff_eq_of_caseless (List.forall_mem_singleton.2 isCaseless_lineFeed)
  rw [isSameText_append_iff]
  constructor
  · rintro ⟨body, rest, rfl, hname, hrest⟩
    exact ⟨body, by rw [hfeed.1 hrest], hname⟩
  · rintro ⟨body, rfl, hname⟩
    exact ⟨body, ['\n'], rfl, hname, hfeed.2 rfl⟩

/-- The placeholder with a line feed after it is no trimmed text. -/
theorem not_isSameText_append_lineFeed {name text : List Char} (h : trimChars text = text) :
    ¬ IsSameText (name ++ ['\n']) text := by
  intro hsame
  obtain ⟨body, rfl, -⟩ := isSameText_append_lineFeed_iff.1 hsame
  have hink : isBlank '\n' = false := isBlank_of_getLast?_trimmed h List.getLast?_concat
  exact absurd hink (by decide)

/-- A vague text is a placeholder and nothing more, except that a line feed may follow it: the end
    of a pattern looks over one. -/
theorem isVague_iff {s : String} :
    isVague s = true ↔ ∃ name ∈ vagueNames,
      IsSameText name.toList s.toList ∨ IsSameText (name.toList ++ ['\n']) s.toList := by
  rw [isVague, List.any_eq_true]
  simp only [Bool.or_eq_true, isSameText_iff]

/-- A trimmed text is vague if it is one of the placeholders. -/
theorem isVague_iff_of_trimmed {s : String} (h : trim s = s) :
    isVague s = true ↔ ∃ name ∈ vagueNames, IsSameText name.toList s.toList := by
  have htrimmed : trimChars s.toList = s.toList := by rw [← toList_trim, h]
  rw [isVague_iff]
  simp only [not_isSameText_append_lineFeed htrimmed, or_false]

/-! ## Words -/

/-- The words of a text: the pieces between its blanks that are not empty. -/
def words (s : String) : List (List Char) := (s.toList.splitOnP isBlank).filter (· ≠ [])

/-- Words are the maximal runs of ink. -/
theorem words_eq_runs (s : String) : words s = runs (fun c => !isBlank c) s.toList := by
  unfold words runs
  simp only [Bool.not_not]

/-- The count that runs, in one pass, is the number of the words. -/
theorem wordCount_eq_length_words (s : String) : wordCount s = (words s).length := by
  rw [wordCount, runCount_eq_length_runs, words_eq_runs]

end ScenePrompt.Text
