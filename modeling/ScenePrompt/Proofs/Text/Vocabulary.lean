/-
  The vocabularies as patterns, and what they mean.

  The rules think of a vocabulary as a pattern: alternatives with shared beginnings (`push` and
  `pushes`, `set off` and `sets off`), between word edges or between the ends of the text, and
  searched for with backtracking.  The functions that run know nothing of patterns; they walk over
  the text with a list of phrases.  Here the two meet in what both of them look for:

  * SEQUENCING — one of the text's maximal runs of word characters is one of four words;
  * A CAUSAL LINK — an arrow, or one of the words and phrases that the pattern spells out, with no
    word character before or after it;
  * A VAGUE NAME — the whole text, but for one line feed at its end, is one of seven names.

  Each time the pattern is opened by its meaning (`foundIn_word_iff`, `matchesStart_whole_iff`) and
  the walk by its own (`hasSequencing_iff`, `hasCausalLink_iff`, `isVague_iff`), and what is left is
  that the pattern spells out the words of the list, which is finite.
-/
import ScenePrompt.Proofs.Text.Pattern

namespace ScenePrompt.Text

open Pattern

/-! ## The patterns -/

/-- The words that tell of one thing after another. -/
def sequencingAlternatives : List Pattern :=
  [phrase "then", phrase "after", phrase "next", phrase "before"]

/-- One of them as a whole word. -/
def sequencingPattern : Pattern := word (anyOf sequencingAlternatives)

/-- The words and phrases for a cause and its effect, in the forms in which they are used. -/
def causalAlternatives : List Pattern :=
  [stem "cause" ["s", "d"], phrase "causing", phrase "because", phrase "so that", phrase "due to",
   phrase "thanks to", seq (stem "result" ["s"]) (phrase " in"), phrase "resulting in",
   stem "send" ["s"], phrase "sending", phrase "sent", stem "make" ["s"], phrase "making",
   phrase "made", stem "force" ["s"], phrase "forced", phrase "forcing",
   stem "push" ["es", "ed", "ing"], stem "pull" ["s", "ed", "ing"], stem "knock" ["s"],
   phrase "knocked", stem "tip" ["s"], phrase "tipped", stem "lift" ["s"], phrase "lifted",
   stem "drag" ["s"], phrase "dragged", stem "tug" ["s"], phrase "tugged", stem "snap" ["s"],
   phrase "snapped", stem "spill" ["s"], phrase "spilled", stem "scatter" ["s"],
   phrase "scattered", stem "splash" ["es", "ed"], stem "topple" ["s"], phrase "toppled",
   stem "shatter" ["s"], phrase "shattered", seq (stem "set" ["s"]) (phrase " off"),
   stem "trigger" ["s"], phrase "triggered"]

/-- An arrow anywhere, or one of the alternatives as whole words. -/
def causalPattern : Pattern := anyOf [phrase "->", phrase "→", word (anyOf causalAlternatives)]

/-- Placeholders that name no object. -/
def vagueAlternatives : List Pattern :=
  [phrase "stuff", phrase "things", phrase "items", phrase "objects", phrase "misc",
   stem "etc" ["."]]

/-- A placeholder as the whole text. -/
def vaguePattern : Pattern := seq textStart (seq (anyOf vagueAlternatives) textEnd)

/-! ## What the patterns spell out -/

/-! The words and phrases on the lists are the ones that the alternatives spell out, each of them
once.  They come in another order where an ending is tried before the bare stem. -/

theorem spellings_sequencingAlternatives :
    (anyOf sequencingAlternatives).spellings.Perm (sequencingWords.map String.toList) := by
  decide

theorem spellings_causalAlternatives :
    (anyOf causalAlternatives).spellings.Perm (causalPhrases.map String.toList) := by
  decide +kernel

theorem spellings_vagueAlternatives :
    (anyOf vagueAlternatives).spellings.Perm (vagueNames.map String.toList) := by
  decide

/-- Every sequencing word has a word character at both ends, so that word edges stand where it
    begins and where it ends. -/
theorem isBounded_of_mem_sequencingAlternatives :
    ∀ w ∈ (anyOf sequencingAlternatives).spellings, IsBounded w := by
  decide +kernel

/-- So does every causal phrase; the blanks in some of them are inside. -/
theorem isBounded_of_mem_causalAlternatives :
    ∀ w ∈ (anyOf causalAlternatives).spellings, IsBounded w := by
  decide +kernel

/-- The arrows have no letters. -/
theorem isCaseless_causalSigns : ∀ sign ∈ causalSigns, ∀ c ∈ sign.toList, IsCaseless c := by
  have hdash : IsCaseless '-' := isCaseless_of_forall_capitals (by decide) (by decide)
  have hpoint : IsCaseless '>' := isCaseless_of_forall_capitals (by decide) (by decide)
  have harrow : IsCaseless '→' := isCaseless_of_forall_capitals (by decide) (by decide)
  have hsigns : ∀ sign ∈ causalSigns, sign.toList ⊆ ['-', '>', '→'] := by decide
  intro sign hsign c hc
  have hcharacter : c = '-' ∨ c = '>' ∨ c = '→' := by simpa using hsigns sign hsign hc
  rcases hcharacter with rfl | rfl | rfl
  · exact hdash
  · exact hpoint
  · exact harrow

/-! ## Sequencing -/

/-- The search for the pattern answers as the walk over the text. -/
theorem foundIn_sequencingPattern (s : String) :
    sequencingPattern.foundIn s.toList = hasSequencing s := by
  have hplain : (anyOf sequencingAlternatives).isPlain = true := by decide
  rw [Bool.eq_iff_iff, hasSequencing_iff, sequencingPattern,
    foundIn_word_iff hplain isBounded_of_mem_sequencingAlternatives]
  simp only [spellings_sequencingAlternatives.mem_iff, List.mem_map, exists_exists_and_eq_and]

/-- A text tells of one thing after another if one of its words does. -/
theorem hasSequencing_iff_exists_isRun {s : String} :
    hasSequencing s = true ↔ ∃ word ∈ sequencingWords, ∃ run,
      IsRun isWordChar run s.toList ∧ IsSameText word.toList run := by
  have hwords : ∀ word ∈ sequencingWords, word.toList ≠ [] ∧
      word.toList.all isWordChar = true := by decide +kernel
  rw [hasSequencing_iff]
  -- each of the four is a single word, so that it is a run by itself
  refine exists_congr fun word => and_congr_right fun hword => ?_
  obtain ⟨hne, hletters⟩ := hwords word hword
  exact occursAsWords_iff_exists_isRun hne (List.all_eq_true.1 hletters) s.toList

/-! ## Causal links -/

/-- The search for a link finds an arrow wherever it stands, and the phrases as whole words. -/
theorem foundIn_causalPattern_iff {s : String} :
    causalPattern.foundIn s.toList = true ↔
      "->".toList <:+: s.toList ∨ "→".toList <:+: s.toList ∨
        ∃ w ∈ (anyOf causalAlternatives).spellings, OccursAsWords w s.toList := by
  have hplain : (anyOf causalAlternatives).isPlain = true := by decide +kernel
  have harrow := isCaseless_causalSigns "->" (by decide)
  have hsign := isCaseless_causalSigns "→" (by decide)
  rw [causalPattern, foundIn_anyOf_iff]
  simp only [List.mem_cons, List.not_mem_nil, or_false, exists_eq_or_imp, exists_eq_left,
    foundIn_sign_iff harrow, foundIn_sign_iff hsign,
    foundIn_word_iff hplain isBounded_of_mem_causalAlternatives]

theorem foundIn_causalPattern (s : String) :
    causalPattern.foundIn s.toList = hasCausalLink s := by
  rw [Bool.eq_iff_iff, foundIn_causalPattern_iff, hasCausalLink_iff, ← or_assoc]
  simp only [causalSigns, List.mem_cons, List.not_mem_nil, or_false, exists_eq_or_imp,
    exists_eq_left, spellings_causalAlternatives.mem_iff, List.mem_map, exists_exists_and_eq_and]

/-! ## Vague names -/

/-- The pattern fits where the text is a placeholder, and a line feed may follow. -/
theorem matchesStart_vaguePattern_iff {s : String} :
    vaguePattern.matchesStart s.toList = true ↔ ∃ name ∈ vagueNames,
      ∃ body, (s.toList = body ∨ s.toList = body ++ ['\n']) ∧ IsSameText name.toList body := by
  have hplain : (anyOf vagueAlternatives).isPlain = true := by decide
  rw [vaguePattern, matchesStart_whole_iff hplain]
  simp only [spellings_vagueAlternatives.mem_iff, List.mem_map, exists_exists_and_eq_and]

theorem matchesStart_vaguePattern (s : String) :
    vaguePattern.matchesStart s.toList = isVague s := by
  rw [Bool.eq_iff_iff, matchesStart_vaguePattern_iff, isVague_iff]
  simp only [isSameText_append_lineFeed_iff, or_and_right, exists_or, exists_eq_left']

/-! ## Together -/

/-- **The vocabularies mean whole words.**  On every text the function that runs answers as the
    search for its pattern does, in whatever order the alternatives are tried, and

    * a sequencing word is found if one of the maximal runs of word characters is one;
    * a causal link is found if there is an arrow, or if a word or phrase that the pattern spells out
      stands there with no word character on either side;
    * a name is vague if the text, with at most one line feed at its end left out, is one of the
      placeholders. -/
theorem vocabularies_mean_whole_words (s : String) :
    ((∀ p, Reordered sequencingPattern p → p.foundIn s.toList = hasSequencing s) ∧
      (hasSequencing s = true ↔
        ∃ name ∈ ["then", "after", "next", "before"], ∃ run,
          IsRun isWordChar run s.toList ∧ IsSameText name.toList run)) ∧
    ((∀ p, Reordered causalPattern p → p.foundIn s.toList = hasCausalLink s) ∧
      (hasCausalLink s = true ↔
        "->".toList <:+: s.toList ∨ "→".toList <:+: s.toList ∨
          ∃ w ∈ (anyOf causalAlternatives).spellings, OccursAsWords w s.toList)) ∧
    (∀ p, Reordered vaguePattern p → p.matchesStart s.toList = isVague s) ∧
      (isVague s = true ↔
        ∃ name ∈ ["stuff", "things", "items", "objects", "misc", "etc", "etc."], ∃ body,
          (s.toList = body ∨ s.toList = body ++ ['\n']) ∧ IsSameText name.toList body) := by
  refine ⟨⟨fun p hp => ?_, hasSequencing_iff_exists_isRun⟩, ⟨fun p hp => ?_, ?_⟩, fun p hp => ?_, ?_⟩
  · rw [← hp.foundIn_eq, foundIn_sequencingPattern]
  · rw [← hp.foundIn_eq, foundIn_causalPattern]
  · rw [← foundIn_causalPattern, foundIn_causalPattern_iff]
  · rw [← hp.matchesStart_eq, matchesStart_vaguePattern]
  · rw [← matchesStart_vaguePattern, matchesStart_vaguePattern_iff]
    rfl

/-- With the alternatives the other way round, the long s and a combining accent behind the word do
    not hide a link; in a placeholder a dotted capital I and a line feed make no difference. -/
theorem accented_push_found :
    (anyOf [phrase "->", phrase "→", word (anyOf causalAlternatives.reverse)]).foundIn
        "Wind pu\u017Fhes\u0301 sand".toList = true ∧
      hasSequencing "Wind pu\u017Fhes\u0301 sand" = false ∧
      vaguePattern.matchesStart "M\u0130sc\n".toList = true := by
  -- only the phrases are in another order; arrows and edges stay where they are
  have hreversed : Reordered causalPattern
      (anyOf [phrase "->", phrase "→", word (anyOf causalAlternatives.reverse)]) :=
    have hwords := reordered_anyOf_of_perm causalAlternatives.reverse_perm.symm
    .either (.refl _) (.either (.refl _)
      (.either (.seq (.refl _) (.seq hwords (.refl _))) (.refl _)))
  obtain ⟨-, ⟨hlink, -⟩, -⟩ := vocabularies_mean_whole_words "Wind pu\u017Fhes\u0301 sand"
  obtain ⟨-, -, hvague, -⟩ := vocabularies_mean_whole_words "M\u0130sc\n"
  refine ⟨?_, by decide +kernel, ?_⟩
  · rw [hlink _ hreversed]
    decide +kernel
  · rw [hvague _ (.refl _)]
    decide +kernel

end ScenePrompt.Text
