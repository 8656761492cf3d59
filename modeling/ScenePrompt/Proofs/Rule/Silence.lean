/-
  Scenes that the built-in rules have nothing to say about.

  Eight rules judge a scene, and a scene is CLEAN (`Scene.Clean`) when it gives none of them cause.
  What that takes is written down field by field, in terms of the texts alone: which words occur in
  the heart and in the lock, which anchors are placeholders, how many words and details there are.

  Most of the conditions are those of one rule, each of which is silent under a condition of its own
  (`checkLockShape_eq_nil_iff` and its likes).  Two are not.

  * That the REQUIRED SLOTS ARE ALL FILLED no rule asks for.  One wants three filled slots, wherever
    they are; the other wants no empty required slot beside a filled optional one.  But three filled
    slots among five cannot all be required ones unless every required one is filled, and if one of
    them is optional, the second rule says the same (`required_filled_iff`).
  * The heart is looked at by two rules, and the one that looks for a second action is silent about
    a scene without a heart.  It is the other one that is not.

  A threshold may be zero or negative.  Then the number of details does not matter, but one word of
  the focus target there must be, because an empty target has a message of its own.
-/
import ScenePrompt.Proofs.Rule.SlotPriority
import ScenePrompt.Proofs.Scene.NormalForm
import ScenePrompt.Proofs.Text.Phrase

namespace ScenePrompt

open Outcome

/-! ## Clean scenes -/

/-- The text holds one of the words `then`, `after`, `next` and `before`, in any letter case. -/
def Text.TellsSequence (text : String) : Prop :=
  ∃ word ∈ ["then", "after", "next", "before"], OccursAsWords word.toList text.toList

/-- The text holds an arrow, or a word or phrase that links a cause with its effect. -/
def Text.TellsCause (text : String) : Prop :=
  (∃ sign ∈ ["->", "→"], sign.toList <:+: text.toList) ∨
    ∃ phrase ∈ causalPhrases, OccursAsWords phrase.toList text.toList

/-- The text as a whole is a placeholder, in any letter case. -/
def Text.IsPlaceholder (text : String) : Prop :=
  ∃ name ∈ ["stuff", "things", "items", "objects", "misc", "etc", "etc."],
    IsSameText name.toList text.toList

/-- There is nothing to say about the scene. -/
structure Scene.Clean (t : Thresholds) (s : Scene) : Prop where
  heart_ne_empty : s.sceneHeart ≠ ""
  heart_oneAction : ¬ Text.TellsSequence s.sceneHeart
  required_filled : ∀ anchor ∈ s.environmentAnchors.take 3, Text.isBlankText anchor = false
  anchors_specific : ∀ anchor ∈ s.filledAnchors, ¬ Text.IsPlaceholder anchor
  lock_ne_empty : s.mechanicLock ≠ ""
  lock_oneSentence : Text.countSentences s.mechanicLock = 1
  lock_frozen : ¬ Text.TellsSequence s.mechanicLock
  lock_causal : Text.TellsCause s.mechanicLock
  target_words : max 1 t.minFocusTargetWords ≤ (Text.words s.focusTarget).length
  details_enough : t.minMicroDetails ≤ s.microDetails.length

/-! ## What silences each rule -/

namespace Rule

variable {s : Scene}

/-- There is a heart. -/
theorem checkHeartPresence_eq_nil_iff : checkHeartPresence s = [] ↔ s.sceneHeart ≠ "" := by
  unfold checkHeartPresence
  by_cases hempty : s.sceneHeart = "" <;> simp [hempty]

/-- Enough filled slots, as long as they are not too many. -/
theorem checkAnchorCount_eq_ok_nil_iff (h : s.filledAnchorCount ≤ anchorSlots) :
    checkAnchorCount s = .ok [] ↔ 3 ≤ s.filledAnchorCount := by
  rw [checkAnchorCount_eq_ok h]
  by_cases hfew : s.filledAnchorCount < 3
  · simp [hfew]
  · simp [hfew]
    omega

/-- No required slot is empty, or all optional ones are. -/
theorem checkSlotPriority_eq_ok_nil_iff (h : s.environmentAnchors.length = anchorSlots) :
    checkSlotPriority s = .ok [] ↔
      (∀ anchor ∈ s.environmentAnchors.take 3, anchor ≠ "") ∨
        ∀ anchor ∈ s.environmentAnchors.drop 3, anchor = "" := by
  rw [checkSlotPriority_eq_ok h, Except.ok.injEq, priorityMessages_eq_nil_iff,
    slotNumbers_eq_nil_iff, slotNumbers_eq_nil_iff]
  simp

/-- There is a lock, it is no more than one sentence, it tells no sequence, and it tells a cause. -/
theorem checkLockShape_eq_nil_iff :
    checkLockShape s = [] ↔
      s.mechanicLock ≠ "" ∧ Text.countSentences s.mechanicLock ≤ 1 ∧
        Text.hasSequencing s.mechanicLock = false ∧ Text.hasCausalLink s.mechanicLock = true := by
  unfold checkLockShape
  -- an empty lock is looked at no further, and neither is one of several sentences
  by_cases hempty : s.mechanicLock = ""
  · simp [hempty]
  · by_cases hmany : 1 < Text.countSentences s.mechanicLock
    · have hnot : ¬ Text.countSentences s.mechanicLock ≤ 1 := by omega
      simp [hempty, hmany, hnot]
    · have hone : Text.countSentences s.mechanicLock ≤ 1 := by omega
      cases hsequence : Text.hasSequencing s.mechanicLock <;>
        cases hcause : Text.hasCausalLink s.mechanicLock <;>
        simp [hempty, hmany, hone, hsequence, hcause]

/-- There is a target, and it has enough words.  If none are asked for, there must be one all the
    same. -/
theorem checkFocusShape_eq_nil_iff {minWords : Int} :
    checkFocusShape minWords s = [] ↔
      s.focusTarget ≠ "" ∧ minWords ≤ Text.wordCount s.focusTarget := by
  unfold checkFocusShape
  by_cases hempty : s.focusTarget = ""
  · simp [hempty]
  · by_cases hshort : (Text.wordCount s.focusTarget : Int) < minWords
    · have hnot : ¬ minWords ≤ (Text.wordCount s.focusTarget : Int) := by omega
      simp [hempty, hshort, hnot]
    · have henough : minWords ≤ (Text.wordCount s.focusTarget : Int) := by omega
      simp [hempty, hshort, henough]

/-- There are enough details, and there always are if the least number is negative. -/
theorem checkDetailRichness_eq_nil_iff {minDetails : Int} :
    checkDetailRichness minDetails s = [] ↔ minDetails ≤ s.microDetails.length := by
  unfold checkDetailRichness
  by_cases henough : minDetails ≤ s.microDetails.length <;> simp [henough]

/-- The heart tells no sequence.  That there is no heart at all is for another rule to say. -/
theorem checkSingleAction_eq_nil_iff :
    checkSingleAction s = [] ↔ s.sceneHeart = "" ∨ Text.hasSequencing s.sceneHeart = false := by
  unfold checkSingleAction
  by_cases hempty : s.sceneHeart = ""
  · simp [hempty]
  · cases hsequence : Text.hasSequencing s.sceneHeart <;> simp [hempty]

/-- None of the filled anchors is vague.  One vague anchor is enough for the message, which does not
    tell which it is. -/
theorem checkSpecificity_eq_nil_iff :
    checkSpecificity s = [] ↔ ∀ anchor ∈ s.filledAnchors, Text.isVague anchor = false := by
  unfold checkSpecificity
  cases hvague : s.filledAnchors.any Text.isVague with
  | true => simpa using hvague
  | false => simpa using hvague

/-- A rule emits nothing exactly when its check gives no message. -/
theorem emission_eq_nil_iff {r : Rule} (hok : (r.check s).isOk = true) :
    r.emission s = [] ↔ r.check s = .ok [] := by
  cases hcheck : r.check s with
  | error e =>
    rw [hcheck] at hok
    cases hok
  | ok ms => rw [emission_of_check hcheck, List.map_eq_nil_iff, Except.ok.injEq]

/-- The table is silent when all eight checks are. -/
theorem flatMap_emission_table_eq_nil_iff (hslots : s.environmentAnchors.length = anchorSlots)
    (t : Thresholds) :
    (table t).flatMap (·.emission s) = [] ↔
      checkHeartPresence s = [] ∧
        (checkAnchorCount s = .ok [] ∧ checkSlotPriority s = .ok []) ∧
        checkLockShape s = [] ∧ checkFocusShape t.minFocusTargetWords s = [] ∧
        checkDetailRichness t.minMicroDetails s = [] ∧ checkSingleAction s = [] ∧
        checkSpecificity s = [] := by
  have hsilent : (table t).flatMap (·.emission s) = [] ↔ ∀ r ∈ table t, r.check s = .ok [] := by
    rw [List.flatMap_eq_nil_iff]
    exact forall₂_congr fun r hr => emission_eq_nil_iff (isOk_of_mem_table hslots t r hr)
  have hsound : ∀ check : Scene → List String, sound check s = .ok [] ↔ check s = [] :=
    fun check => by rw [sound, Except.ok.injEq]
  rw [hsilent]
  simp [table, hsound, and_assoc]

end Rule

/-! ## The required slots -/

/-- Three filled slots among five, none of them optional unless the required ones are filled, are
    just the required ones filled. -/
theorem required_filled_iff {slots : List String} (h : slots.length = 5) (filled : String → Bool) :
    3 ≤ (slots.filter filled).length ∧
        ((∀ a ∈ slots.take 3, filled a = true) ∨ ∀ a ∈ slots.drop 3, filled a = false) ↔
      ∀ a ∈ slots.take 3, filled a = true := by
  have hlength : (slots.take 3).length = 3 := by
    rw [List.length_take, h]
    rfl
  have hcount : (slots.filter filled).length =
      (slots.take 3).countP filled + (slots.drop 3).countP filled := by
    rw [← List.countP_eq_length_filter, ← List.countP_append, List.take_append_drop]
  have hrequired : (∀ a ∈ slots.take 3, filled a = true) ↔ (slots.take 3).countP filled = 3 := by
    rw [← List.countP_eq_length, hlength]
  have hle : (slots.take 3).countP filled ≤ 3 := by
    have hcountP := List.countP_le_length (p := filled) (l := slots.take 3)
    rwa [hlength] at hcountP
  constructor
  · rintro ⟨hthree, hall | hnone⟩
    · exact hall
    · -- all three are among the required ones, of which there are no more
      have hoptional : (slots.drop 3).countP filled = 0 := by
        rw [List.countP_eq_zero]
        intro a ha
        simpa using hnone a ha
      exact hrequired.2 (by omega)
  · intro hall
    have hthree := hrequired.1 hall
    exact ⟨by omega, Or.inl hall⟩

/-! ## Clean scenes are the silent ones -/

section silent

variable {s : Scene}

/-- In normal form a slot holds ink unless it is empty. -/
theorem Scene.NormalForm.isBlankText_anchor (h : s.NormalForm) {anchor : String}
    (hanchor : anchor ∈ s.environmentAnchors) : Text.isBlankText anchor = false ↔ anchor ≠ "" := by
  have hblank : Text.isBlankText anchor = true ↔ anchor = "" := by
    rw [← Text.trim_eq_empty, h.anchors_trimmed anchor hanchor]
  rw [← Bool.not_eq_true, hblank]

/-- The two rules that look at where the anchors stand are silent exactly when the required slots
    are filled. -/
theorem Scene.anchors_silent_iff (hwell : s.WellFormed) (h : s.NormalForm) :
    Rule.checkAnchorCount s = .ok [] ∧ Rule.checkSlotPriority s = .ok [] ↔
      ∀ anchor ∈ s.environmentAnchors.take 3, Text.isBlankText anchor = false := by
  have hfilled : ∀ part : List String, (∀ a ∈ part, a ∈ s.environmentAnchors) →
      ((∀ a ∈ part, a ≠ "") ↔ ∀ a ∈ part, (!Text.isBlankText a) = true) := by
    intro part hpart
    refine forall₂_congr fun a ha => ?_
    rw [← h.isBlankText_anchor (hpart a ha), Bool.not_eq_true']
  have hblank : (∀ a ∈ s.environmentAnchors.drop 3, a = "") ↔
      ∀ a ∈ s.environmentAnchors.drop 3, (!Text.isBlankText a) = false := by
    refine forall₂_congr fun a ha => ?_
    rw [Bool.not_eq_false', ← Bool.not_eq_false, h.isBlankText_anchor (List.mem_of_mem_drop ha),
      not_not]
  -- one rule goes by the empty text and the other by blanks; the normal form makes that one
  -- condition
  rw [Rule.checkAnchorCount_eq_ok_nil_iff hwell.filledAnchorCount_le,
    Rule.checkSlotPriority_eq_ok_nil_iff hwell.slots_eq,
    hfilled _ fun a => List.mem_of_mem_take, hblank]
  refine (required_filled_iff hwell.slots_eq fun a => !Text.isBlankText a).trans ?_
  simp only [Bool.not_eq_true']

/-- A trimmed lock that is not empty has a sentence, so at most one is just one. -/
theorem Text.countSentences_le_one_iff {text : String} (htrimmed : trim text = text)
    (hne : text ≠ "") : countSentences text ≤ 1 ↔ countSentences text = 1 := by
  have hsome : countSentences text ≠ 0 := by
    rw [Ne, countSentences_eq_zero_iff, ← trim_eq_empty, htrimmed]
    exact hne
  omega

/-- A trimmed target has a word unless it is empty. -/
theorem Text.one_le_length_words_iff {text : String} (htrimmed : trim text = text) :
    1 ≤ (words text).length ↔ text ≠ "" := by
  rw [Nat.one_le_iff_ne_zero, ← wordCount_eq_length_words, Ne, wordCount_eq_zero_iff,
    ← trim_eq_empty, htrimmed]

theorem Text.hasSequencing_eq_false_iff {text : String} :
    hasSequencing text = false ↔ ¬ TellsSequence text := by
  rw [← Bool.not_eq_true, hasSequencing_iff]
  rfl

/-- **Clean scenes are the silent ones.**  Of a well-formed scene in normal form the built-in rules
    say nothing exactly when it is clean. -/
theorem Scene.silent_iff_clean (hwell : s.WellFormed) (h : s.NormalForm) (t : Thresholds) :
    (Rule.table t).flatMap (·.emission s) = [] ↔ s.Clean t := by
  have hvague : ∀ anchor ∈ s.filledAnchors,
      (Text.isVague anchor = false ↔ ¬ Text.IsPlaceholder anchor) := by
    intro anchor hanchor
    have htrimmed := h.anchors_trimmed anchor (List.mem_filter.1 hanchor).1
    rw [← Bool.not_eq_true, Text.isVague_iff_of_trimmed htrimmed]
    rfl
  have hcause : Text.hasCausalLink s.mechanicLock = true ↔ Text.TellsCause s.mechanicLock :=
    Text.hasCausalLink_iff
  rw [Rule.flatMap_emission_table_eq_nil_iff hwell.slots_eq, Rule.checkHeartPresence_eq_nil_iff,
    Scene.anchors_silent_iff hwell h, Rule.checkLockShape_eq_nil_iff,
    Rule.checkFocusShape_eq_nil_iff, Rule.checkDetailRichness_eq_nil_iff,
    Rule.checkSingleAction_eq_nil_iff, Rule.checkSpecificity_eq_nil_iff, hcause,
    Text.hasSequencing_eq_false_iff, Text.hasSequencing_eq_false_iff, forall₂_congr hvague,
    Text.wordCount_eq_length_words]
  -- what is left are the two conditions that come from two rules each, on the heart and on the
  -- target
  constructor
  · rintro ⟨hheart, hrequired, ⟨hlock, hsentences, hfrozen, hcausal⟩, ⟨htarget, hwords⟩, hdetails,
      haction, hspecific⟩
    have hword := (Text.one_le_length_words_iff h.focusTarget_trimmed).2 htarget
    exact
      { heart_ne_empty := hheart
        heart_oneAction := haction.resolve_left hheart
        required_filled := hrequired
        anchors_specific := hspecific
        lock_ne_empty := hlock
        lock_oneSentence :=
          (Text.countSentences_le_one_iff h.mechanicLock_trimmed hlock).1 hsentences
        lock_frozen := hfrozen
        lock_causal := hcausal
        target_words := by omega
        details_enough := hdetails }
  · intro hclean
    have hwords := hclean.target_words
    have htarget := (Text.one_le_length_words_iff h.focusTarget_trimmed).1 (by omega)
    exact ⟨hclean.heart_ne_empty, hclean.required_filled,
      ⟨hclean.lock_ne_empty, Nat.le_of_eq hclean.lock_oneSentence, hclean.lock_frozen,
        hclean.lock_causal⟩,
      ⟨htarget, by omega⟩, hclean.details_enough, Or.inr hclean.heart_oneAction,
      hclean.anchors_specific⟩

end silent

/-- **Nothing is said about clean scenes, and about no others.**  Whatever is read is validated by
    the built-in rules, with any thresholds, and there are no findings exactly when the scene that
    was read is clean. -/
theorem validate_table_silent_iff_clean (raw : Json) (s : Scene) (h : Scene.ofRaw raw = .ok s)
    (t : Thresholds) :
    ∃ v, validate (Rule.table t) s = .ok v ∧ (v.diagnostics = [] ↔ s.Clean t) := by
  have hwell : s.WellFormed := Scene.wellFormed_of_ofRaw h
  refine ⟨.ofDiagnostics ((Rule.table t).flatMap (·.emission s)), ?_, ?_⟩
  · exact validate_eq_ok_iff.2 ⟨Rule.isOk_of_mem_table hwell.slots_eq t, rfl⟩
  · exact Scene.silent_iff_clean hwell (Scene.normalForm_of_ofRaw h) t

/-- Raw input with these anchors and all there need be beside them. -/
def candlelit (anchors : List Json) : Json :=
  .obj [("sceneHeart", .str " A fox reads by candlelight "), ("environmentAnchors", .arr anchors),
    ("mechanicLock", .str "The draft CAUSES the flame to lean..."),
    ("focusTarget", .str "eyes\tonly")]

/-- What it reads as. -/
def candlelitScene (anchors : List String) : Scene :=
  { sceneHeart := "A fox reads by candlelight", environmentAnchors := anchors
    mechanicLock := "The draft CAUSES the flame to lean...", focusTarget := "eyes\tonly" }

/-- Three anchors are enough in the required slots, and are not with the third in an optional one;
    nor are two words, where three are wanted. -/
theorem candlelit_clean :
    Scene.ofRaw (candlelit [.str "chair", .str "mug", .str " rain "]) =
        .ok (candlelitScene ["chair", "mug", "rain", "", ""]) ∧
      (candlelitScene ["chair", "mug", "rain", "", ""]).Clean { minMicroDetails := -1 } ∧
      ¬ (candlelitScene ["chair", "mug", "rain", "", ""]).Clean
        { minMicroDetails := 0, minFocusTargetWords := 3 } ∧
      ¬ (candlelitScene ["chair", "mug", "", "rain", ""]).Clean { minMicroDetails := -1 } := by
  have hread : Scene.ofRaw (candlelit [.str "chair", .str "mug", .str " rain "]) =
      .ok (candlelitScene ["chair", "mug", "rain", "", ""]) := rfl
  have hread' : Scene.ofRaw (candlelit [.str "chair", .str "mug", .str " ", .str "rain"]) =
      .ok (candlelitScene ["chair", "mug", "", "rain", ""]) := rfl
  refine ⟨hread, ?_, ?_, ?_⟩
  · obtain ⟨v, hv, hsilent⟩ := validate_table_silent_iff_clean _ _ hread { minMicroDetails := -1 }
    have hnone : validate (Rule.table { minMicroDetails := -1 })
        (candlelitScene ["chair", "mug", "rain", "", ""]) = .ok { canCompile := true } := by
      decide +kernel
    cases hv.symm.trans hnone
    exact hsilent.1 rfl
  · obtain ⟨v, hv, hsilent⟩ := validate_table_silent_iff_clean _ _ hread
      { minMicroDetails := 0, minFocusTargetWords := 3 }
    intro hclean
    have hsome : (validate (Rule.table { minMicroDetails := 0, minFocusTargetWords := 3 })
        (candlelitScene ["chair", "mug", "rain", "", ""])).map (·.diagnostics) ≠ .ok [] := by
      decide +kernel
    rw [hv] at hsome
    exact hsome (congrArg Except.ok (hsilent.2 hclean))
  · obtain ⟨v, hv, hsilent⟩ := validate_table_silent_iff_clean _ _ hread' { minMicroDetails := -1 }
    intro hclean
    have hsome : (validate (Rule.table { minMicroDetails := -1 })
        (candlelitScene ["chair", "mug", "", "rain", ""])).map (·.diagnostics) ≠ .ok [] := by
      decide +kernel
    rw [hv] at hsome
    exact hsome (congrArg Except.ok (hsilent.2 hclean))

end ScenePrompt
