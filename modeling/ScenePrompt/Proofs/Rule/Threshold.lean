/-
  What raising a threshold changes.

  Two rules of the table are tuned by a number, the one on micro-details by the least number of
  details and the one on focus targets by the least number of words.  With a higher number each of
  them says what it said and perhaps more, and all other rules are the same under any thresholds.

  The two tables are compared rule by rule (`Rule.table_forall₂`): the rules at one place have one
  identifier, and the second is no less talkative than the first.  That is enough for the
  identifiers of the findings, which are those of the rules, each as often as its rule has a message
  (`Rule.map_ruleId_emission`): what is emitted by the first table is a sublist of what is emitted
  by the second.  The findings themselves are not, since the message about details tells how many
  were wanted.

  When a rule comes to speak is read off its check.  Details are counted, and so are words, but an
  EMPTY target is spoken of under every threshold, so that it never comes to be.
-/
import ScenePrompt.Proofs.Rule.Silence
import ScenePrompt.Proofs.Rule.Slots

namespace ScenePrompt

/-! ## Identifiers of findings -/

/-- The rules that the findings come from, one entry for each finding. -/
def Validation.ruleIds (v : Validation) : List String := v.diagnostics.map (·.ruleId)

namespace Rule

variable {s : Scene}

/-- The findings of a rule carry its identifier, as often as it has a message. -/
theorem map_ruleId_emission (r : Rule) (s : Scene) :
    (r.emission s).map (·.ruleId) = List.replicate (r.messages s).length r.id := by
  unfold emission
  rw [List.map_map, ← List.map_const']
  rfl

/-- Where every rule of one table has no more to say than the one at its place in another, of the
    same identifier, the identifiers that the first emits are a sublist of those of the second. -/
theorem map_ruleId_flatMap_emission_sublist {rules rules' : List Rule}
    (h : List.Forall₂
      (fun r r' => r.id = r'.id ∧ (r.messages s).length ≤ (r'.messages s).length) rules rules') :
    ((rules.flatMap (·.emission s)).map (·.ruleId)).Sublist
      ((rules'.flatMap (·.emission s)).map (·.ruleId)) := by
  induction h with
  | nil => exact List.Sublist.slnil
  | @cons r r' rules rules' hrule _ ih =>
    obtain ⟨hid, hlength⟩ := hrule
    rw [List.flatMap_cons, List.flatMap_cons, List.map_append, List.map_append,
      map_ruleId_emission, map_ruleId_emission, hid]
    exact (List.replicate_sublist_replicate r'.id |>.2 hlength).append ih

/-- An identifier is emitted if a rule that has it has something to say. -/
theorem mem_map_ruleId_flatMap_emission {rules : List Rule} {id : String} :
    id ∈ (rules.flatMap (·.emission s)).map (·.ruleId) ↔
      ∃ r ∈ rules, r.id = id ∧ r.messages s ≠ [] := by
  rw [List.map_flatMap, List.mem_flatMap]
  simp only [map_ruleId_emission, List.mem_replicate, Ne, List.length_eq_zero_iff]
  constructor
  · rintro ⟨r, hr, hsays, rfl⟩
    exact ⟨r, hr, rfl, hsays⟩
  · rintro ⟨r, hr, rfl, hsays⟩
    exact ⟨r, hr, hsays, rfl⟩

/-! ## The two rules that are tuned -/

/-- Asking for more details, there is a message where there was one. -/
theorem length_checkDetailRichness_mono {a a' : Int} (h : a ≤ a') (s : Scene) :
    (checkDetailRichness a s).length ≤ (checkDetailRichness a' s).length := by
  unfold checkDetailRichness
  by_cases henough : a ≤ s.microDetails.length
  · rw [if_pos henough]
    exact Nat.zero_le _
  · have hnot : ¬ a' ≤ s.microDetails.length := by omega
    rw [if_neg henough, if_neg hnot]
    exact Nat.le_refl 1

/-- Asking for more words, there is a message where there was one; about an empty target it is the
    same message under any number. -/
theorem length_checkFocusShape_mono {b b' : Int} (h : b ≤ b') (s : Scene) :
    (checkFocusShape b s).length ≤ (checkFocusShape b' s).length := by
  unfold checkFocusShape
  by_cases hempty : s.focusTarget = ""
  · simp only [if_pos hempty, Nat.le_refl]
  · rw [if_neg hempty, if_neg hempty]
    -- a target too short for the lower number is too short for the higher one
    by_cases hshort : (Text.wordCount s.focusTarget : Int) < b
    · have hshort' : (Text.wordCount s.focusTarget : Int) < b' := by omega
      simp only [if_pos hshort, if_pos hshort', Nat.le_refl]
    · rw [if_neg hshort]
      exact Nat.zero_le _

/-- Under higher thresholds the same rules stand at the same places, and none has less to say. -/
theorem table_forall₂ {t t' : Thresholds} (hdetails : t.minMicroDetails ≤ t'.minMicroDetails)
    (hwords : t.minFocusTargetWords ≤ t'.minFocusTargetWords) (s : Scene) :
    List.Forall₂ (fun r r' => r.id = r'.id ∧ (r.messages s).length ≤ (r'.messages s).length)
      (table t) (table t') := by
  have hsame : ∀ r : Rule, r.id = r.id ∧ (r.messages s).length ≤ (r.messages s).length :=
    fun r => ⟨rfl, Nat.le_refl _⟩
  refine .cons (hsame _) (.cons (hsame _) (.cons (hsame _) (.cons (hsame _) (.cons ⟨rfl, ?_⟩
    (.cons ⟨rfl, ?_⟩ (.cons (hsame _) (.cons (hsame _) .nil)))))))
  · exact length_checkFocusShape_mono hwords s
  · exact length_checkDetailRichness_mono hdetails s

/-- Without the two rules that are tuned, the table is the same under any thresholds. -/
theorem filter_table_eq (t t' : Thresholds) :
    (table t).filter (fun r => r.id ≠ "micro_detail_richness" ∧ r.id ≠ "focus_target_shape") =
      (table t').filter
        (fun r => r.id ≠ "micro_detail_richness" ∧ r.id ≠ "focus_target_shape") := by
  rfl

/-- Sparse details are spoken of if there are fewer than the least number. -/
theorem detailRichness_speaks_iff (t : Thresholds) :
    "micro_detail_richness" ∈ ((table t).flatMap (·.emission s)).map (·.ruleId) ↔
      s.microDetails.length < t.minMicroDetails := by
  rw [mem_map_ruleId_flatMap_emission]
  have hspeaks : (∃ r ∈ table t, r.id = "micro_detail_richness" ∧ r.messages s ≠ []) ↔
      checkDetailRichness t.minMicroDetails s ≠ [] := by
    simp [table, messages, sound]
  rw [hspeaks, Ne, checkDetailRichness_eq_nil_iff]
  omega

/-- The target is spoken of if it is empty, or has fewer words than the least number. -/
theorem focusShape_speaks_iff (t : Thresholds) :
    "focus_target_shape" ∈ ((table t).flatMap (·.emission s)).map (·.ruleId) ↔
      s.focusTarget = "" ∨ (Text.words s.focusTarget).length < t.minFocusTargetWords := by
  rw [mem_map_ruleId_flatMap_emission]
  have hspeaks : (∃ r ∈ table t, r.id = "focus_target_shape" ∧ r.messages s ≠ []) ↔
      checkFocusShape t.minFocusTargetWords s ≠ [] := by
    simp [table, messages, sound]
  rw [hspeaks, Ne, checkFocusShape_eq_nil_iff, Text.wordCount_eq_length_words]
  by_cases hempty : s.focusTarget = ""
  · simp [hempty]
  · simp [hempty]

end Rule

/-! ## Two runs under two thresholds -/

/-- **Raising a threshold hides nothing and touches nothing else.**  Of a scene that was read, under
    thresholds of any size of which the second are no lower than the first, the identifiers of the
    findings under the first are a sublist of those under the second; the verdict, the errors and
    all findings of other rules are the same; sparse details are newly spoken of exactly if their
    number reaches the first threshold and not the second, and a target exactly if it is not empty
    and the number of its words does. -/
theorem thresholds_act_where_declared (raw : Json) (s : Scene) (h : Scene.ofRaw raw = .ok s)
    (a a' b b' : Int) (hdetails : a ≤ a') (hwords : b ≤ b') :
    ∃ v v', validate (Rule.table { minMicroDetails := a, minFocusTargetWords := b }) s = .ok v ∧
      validate (Rule.table { minMicroDetails := a', minFocusTargetWords := b' }) s = .ok v' ∧
      v.ruleIds.Sublist v'.ruleIds ∧
      (v.canCompile = v'.canCompile ∧ v.errors = v'.errors ∧
        v.diagnostics.filter
            (fun d => d.ruleId ≠ "micro_detail_richness" ∧ d.ruleId ≠ "focus_target_shape") =
          v'.diagnostics.filter
            (fun d => d.ruleId ≠ "micro_detail_richness" ∧ d.ruleId ≠ "focus_target_shape")) ∧
      ("micro_detail_richness" ∉ v.ruleIds ∧ "micro_detail_richness" ∈ v'.ruleIds ↔
        a ≤ s.microDetails.length ∧ s.microDetails.length < a') ∧
      ("focus_target_shape" ∉ v.ruleIds ∧ "focus_target_shape" ∈ v'.ruleIds ↔
        s.focusTarget ≠ "" ∧ b ≤ (Text.words s.focusTarget).length ∧
          (Text.words s.focusTarget).length < b') := by
  obtain ⟨v, hv⟩ := exists_validate_table_of_ofRaw h
    { minMicroDetails := a, minFocusTargetWords := b }
  obtain ⟨v', hv'⟩ := exists_validate_table_of_ofRaw h
    { minMicroDetails := a', minFocusTargetWords := b' }
  have hslots := (Scene.wellFormed_of_ofRaw h).slots_eq
  have herrors : v.errors = v'.errors := by
    rw [errors_of_validate_table hslots hv, errors_of_validate_table hslots hv']
  have hverdict := canCompile_eq_of_errors_eq hv hv' herrors
  obtain ⟨-, rfl⟩ := validate_eq_ok_iff.1 hv
  obtain ⟨-, rfl⟩ := validate_eq_ok_iff.1 hv'
  refine ⟨_, _, hv, hv', ?_, ⟨hverdict, herrors, ?_⟩, ?_, ?_⟩
  · exact Rule.map_ruleId_flatMap_emission_sublist (Rule.table_forall₂ hdetails hwords s)
  · have hothers : ∀ t : Thresholds, ((Rule.table t).flatMap (·.emission s)).filter
          (fun d => d.ruleId ≠ "micro_detail_richness" ∧ d.ruleId ≠ "focus_target_shape") =
        ((Rule.table t).filter
          (fun r => r.id ≠ "micro_detail_richness" ∧ r.id ≠ "focus_target_shape")).flatMap
            (·.emission s) :=
      fun t => filter_flatMap_emission (fun _ _ => rfl) (Rule.table t) s
    exact (hothers _).trans ((congrArg _ (Rule.filter_table_eq _ _)).trans (hothers _).symm)
  · have hspeaks := Rule.detailRichness_speaks_iff (s := s)
      { minMicroDetails := a, minFocusTargetWords := b }
    have hspeaks' := Rule.detailRichness_speaks_iff (s := s)
      { minMicroDetails := a', minFocusTargetWords := b' }
    exact (and_congr (not_congr hspeaks) hspeaks').trans (by rw [Int.not_lt])
  · have hspeaks := Rule.focusShape_speaks_iff (s := s)
      { minMicroDetails := a, minFocusTargetWords := b }
    have hspeaks' := Rule.focusShape_speaks_iff (s := s)
      { minMicroDetails := a', minFocusTargetWords := b' }
    refine (and_congr (not_congr hspeaks) hspeaks').trans ?_
    -- an empty target was spoken of before, so it cannot be what is newly spoken of
    constructor
    · rintro ⟨hsilent, hempty | hshort⟩
      · exact absurd (Or.inl hempty) hsilent
      · obtain ⟨hne, hlong⟩ := not_or.1 hsilent
        exact ⟨hne, Int.not_lt.1 hlong, hshort⟩
    · rintro ⟨hne, hlong, hshort⟩
      exact ⟨not_or.2 ⟨hne, Int.not_lt.2 hlong⟩, Or.inr hshort⟩

/-- Two details, and a target of two words between odd blanks or one of nothing but blanks. -/
def hedge (target : String) : Json :=
  .obj [("micro_details", .arr [.str "moss", .str " ", .str "a snail"]), ("focusTarget", .str target)]

/-- With one more wanted of each, both rules come to speak; of an empty target there was talk
    before, although no words were wanted. -/
theorem hedge_newly_spoken_of :
    (∃ v v', validateRaw (Rule.table { minMicroDetails := 2, minFocusTargetWords := 2 })
        (hedge " wet\u3000leaves ") = .ok v ∧
      validateRaw (Rule.table { minMicroDetails := 3, minFocusTargetWords := 3 })
        (hedge " wet\u3000leaves ") = .ok v' ∧
      v.ruleIds.Sublist v'.ruleIds ∧ v.errors = v'.errors ∧
      ("micro_detail_richness" ∉ v.ruleIds ∧ "micro_detail_richness" ∈ v'.ruleIds) ∧
      ("focus_target_shape" ∉ v.ruleIds ∧ "focus_target_shape" ∈ v'.ruleIds)) ∧
    ∃ v v', validateRaw (Rule.table { minMicroDetails := -7, minFocusTargetWords := -1 })
        (hedge "\t") = .ok v ∧
      validateRaw (Rule.table { minMicroDetails := 2, minFocusTargetWords := 9 })
        (hedge "\t") = .ok v' ∧
      ¬ ("micro_detail_richness" ∉ v.ruleIds ∧ "micro_detail_richness" ∈ v'.ruleIds) ∧
      ¬ ("focus_target_shape" ∉ v.ruleIds ∧ "focus_target_shape" ∈ v'.ruleIds) := by
  have hread : Scene.ofRaw (hedge " wet\u3000leaves ") =
      .ok { microDetails := ["moss", "a snail"], focusTarget := "wet\u3000leaves" } := rfl
  have hread' : Scene.ofRaw (hedge "\t") = .ok { microDetails := ["moss", "a snail"] } := rfl
  constructor
  · obtain ⟨v, v', hv, hv', hids, ⟨-, herrors, -⟩, hdetails, htarget⟩ :=
      thresholds_act_where_declared _ _ hread 2 3 2 3 (by decide) (by decide)
    refine ⟨v, v', (validateRaw_of_ofRaw hread).trans hv, (validateRaw_of_ofRaw hread).trans hv',
      hids, herrors, hdetails.2 (by decide), htarget.2 (by decide)⟩
  · obtain ⟨v, v', hv, hv', -, -, hdetails, htarget⟩ :=
      thresholds_act_where_declared _ _ hread' (-7) 2 (-1) 9 (by decide) (by decide)
    refine ⟨v, v', (validateRaw_of_ofRaw hread').trans hv,
      (validateRaw_of_ofRaw hread').trans hv', ?_, ?_⟩
    · exact fun hnew => absurd (hdetails.1 hnew) (by decide)
    · exact fun hnew => absurd (htarget.1 hnew) (by decide)

end ScenePrompt
