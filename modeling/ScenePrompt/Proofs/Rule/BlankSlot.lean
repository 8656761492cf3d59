/-
  Blank slots.

  A slot of nothing but blanks is as good as an empty one: the filled anchors leave it out, and with
  them the two rules that go by the filled anchors, and the renderer.  EMPTYING blank slots
  (`Scene.Emptied`) makes no difference to any of these, however many are emptied.

  To the rule on SLOT PRIORITY it does.  That rule takes a slot for empty only if its text is the
  empty text, so a blank slot is to it a filled one, and emptying the slot shows.  Of the two lists
  of slot numbers that its message is made of, emptying makes that of the empty required slots
  longer and that of the filled optional ones shorter (`slotNumbers_sublist`), and the message
  tells.  The findings stay as they were just in these cases (`checkSlotPriority_eq_iff`):

  * no required slot was emptied, or no optional slot holds any text afterwards; and
  * no optional slot was emptied, or no required slot was empty before.

  A scene that was read has no slot to be emptied, since its slots are trimmed.  Scenes that come
  through the schema are not trimmed, and among them are some about which the findings do change.
-/
import Mathlib.Data.List.Forall2
import ScenePrompt.Proofs.Rule.SlotPriority
import ScenePrompt.Proofs.Rule.Slots
import ScenePrompt.Proofs.Schema.Scene

namespace ScenePrompt

/-! ## Emptying blank slots -/

/-- The slot is as it was, or it was blank and is empty now. -/
def SlotEmptied (slot slot' : String) : Prop :=
  slot' = slot ∨ Text.isBlankText slot = true ∧ slot' = ""

/-- Some blank slots of the scene have been emptied, and all else is as it was. -/
structure Scene.Emptied (s s' : Scene) : Prop where
  elsewhere : s.DifferOnlyIn .environmentAnchors s'
  slots : List.Forall₂ SlotEmptied s.environmentAnchors s'.environmentAnchors

/-- Emptied slots were blank, so they were not among the filled ones before either. -/
theorem filter_filled_of_emptied {slots slots' : List String}
    (h : List.Forall₂ SlotEmptied slots slots') :
    slots.filter (fun slot => !Text.isBlankText slot) =
      slots'.filter (fun slot => !Text.isBlankText slot) := by
  induction h with
  | nil => rfl
  | @cons slot slot' slots slots' hslot _ ih =>
    rcases hslot with rfl | ⟨hblank, rfl⟩
    · rw [List.filter_cons, List.filter_cons, ih]
    · rw [List.filter_cons, List.filter_cons, hblank, ih]
      rfl

/-- Whoever goes by the filled anchors does not notice. -/
theorem Scene.Emptied.sameFilled {s s' : Scene} (h : s.Emptied s') : s.SameFilled s' :=
  ⟨h.elsewhere, filter_filled_of_emptied h.slots⟩

/-! ## Slot numbers -/

section numbers

variable {p : String → Bool} {R : String → String → Prop} {slots slots' : List String}

/-- Slots that come to satisfy `p`, while none ceases to, add to the numbers. -/
theorem Rule.slotNumbers_sublist (hp : ∀ a a', R a a' → p a = true → p a' = true)
    (h : List.Forall₂ R slots slots') (i : Nat) :
    (slotNumbers p i slots).Sublist (slotNumbers p i slots') := by
  induction h generalizing i with
  | nil => exact List.Sublist.slnil
  | @cons slot slot' slots slots' hslot _ ih =>
    unfold slotNumbers
    -- a number that was taken down is taken down again; a new one may come in between
    cases hbefore : p slot with
    | true =>
      rw [hp slot slot' hslot hbefore]
      exact (ih (i + 1)).cons_cons i
    | false =>
      cases p slot' with
      | true => exact (ih (i + 1)).cons i
      | false => exact ih (i + 1)

/-- If the numbers stay the same, then no slot has come to satisfy `p`. -/
theorem Rule.forall₂_of_slotNumbers_eq (hp : ∀ a a', R a a' → p a = true → p a' = true)
    (h : List.Forall₂ R slots slots') (i : Nat)
    (heq : slotNumbers p i slots = slotNumbers p i slots') :
    List.Forall₂ (fun a a' => R a a' ∧ p a = p a') slots slots' := by
  induction h generalizing i with
  | nil => exact .nil
  | @cons slot slot' slots slots' hslot hslots ih =>
    unfold slotNumbers at heq
    cases hbefore : p slot with
    | true =>
      have hafter := hp slot slot' hslot hbefore
      rw [hbefore, hafter] at heq
      exact .cons ⟨hslot, hbefore.trans hafter.symm⟩ (ih (i + 1) (List.cons.inj heq).2)
    | false =>
      cases hafter : p slot' with
      | true =>
        -- there is one number more than before
        have hle := (slotNumbers_sublist hp hslots (i + 1)).length_le
        rw [hbefore, hafter] at heq
        have hlength := congrArg List.length heq
        simp only [Bool.false_eq_true, if_false, if_true, List.length_cons] at hlength
        omega
      | false =>
        rw [hbefore, hafter] at heq
        exact .cons ⟨hslot, hbefore.trans hafter.symm⟩ (ih (i + 1) heq)

end numbers

/-! ## Slots that were emptied -/

section slots

variable {slots slots' : List String}

theorem SlotEmptied.empty_of_empty (slot slot' : String) (h : SlotEmptied slot slot')
    (hempty : decide (slot = "") = true) : decide (slot' = "") = true := by
  rcases h with rfl | ⟨-, rfl⟩
  · exact hempty
  · rfl

theorem SlotEmptied.filled_of_filled (slot' slot : String) (h : SlotEmptied slot slot')
    (hfilled : decide (slot' ≠ "") = true) : decide (slot ≠ "") = true := by
  rcases h with rfl | ⟨-, rfl⟩
  · exact hfilled
  · cases hfilled

/-- A slot that is empty after only if it was empty before has not been emptied. -/
theorem SlotEmptied.eq_of_decide_eq {slot slot' : String} (h : SlotEmptied slot slot')
    (hsame : decide (slot = "") = decide (slot' = "")) : slot = slot' := by
  rcases h with rfl | ⟨-, rfl⟩
  · rfl
  · exact of_decide_eq_true (hsame.trans rfl)

/-- The numbers of the empty slots tell whether slots were emptied. -/
theorem Rule.blankNumbers_eq_iff (h : List.Forall₂ SlotEmptied slots slots') (i : Nat) :
    slotNumbers (· = "") i slots = slotNumbers (· = "") i slots' ↔ slots = slots' := by
  constructor
  · intro heq
    rw [← List.forall₂_eq_eq_eq]
    exact (forall₂_of_slotNumbers_eq SlotEmptied.empty_of_empty h i heq).imp
      fun _ _ hslot => hslot.1.eq_of_decide_eq hslot.2
  · rintro rfl
    rfl

/-- So do the numbers of the others. -/
theorem Rule.filledNumbers_eq_iff (h : List.Forall₂ SlotEmptied slots slots') (i : Nat) :
    slotNumbers (· ≠ "") i slots' = slotNumbers (· ≠ "") i slots ↔ slots' = slots := by
  constructor
  · intro heq
    have hflip : List.Forall₂ (fun slot' slot => SlotEmptied slot slot') slots' slots := h.flip
    rw [← List.forall₂_eq_eq_eq]
    refine (forall₂_of_slotNumbers_eq SlotEmptied.filled_of_filled hflip i heq).imp ?_
    rintro slot' slot ⟨hslot, hsame⟩
    simp only [ne_eq, decide_not, Bool.not_inj_iff] at hsame
    exact (hslot.eq_of_decide_eq hsame.symm).symm
  · rintro rfl
    rfl

end slots

/-! ## What the findings tell -/

/-- About slot priority the same is said before and after in these cases, and in no others. -/
theorem checkSlotPriority_eq_iff {s s' : Scene} (h : s.Emptied s')
    (hslots : s.environmentAnchors.length = anchorSlots)
    (hslots' : s'.environmentAnchors.length = anchorSlots) :
    Rule.checkSlotPriority s' = Rule.checkSlotPriority s ↔
      (s.environmentAnchors.take 3 ≠ s'.environmentAnchors.take 3 →
        ∀ anchor ∈ s'.environmentAnchors.drop 3, anchor = "") ∧
      (s'.environmentAnchors.drop 3 ≠ s.environmentAnchors.drop 3 →
        ∀ anchor ∈ s.environmentAnchors.take 3, anchor ≠ "") := by
  -- required and optional slots change separately, and in opposite directions
  have hrequired := List.forall₂_take 3 h.slots
  have hoptional := List.forall₂_drop 3 h.slots
  have hmore := Rule.slotNumbers_sublist SlotEmptied.empty_of_empty hrequired 1
  have hfewer := Rule.slotNumbers_sublist SlotEmptied.filled_of_filled hoptional.flip 4
  rw [Rule.checkSlotPriority_eq_ok hslots, Rule.checkSlotPriority_eq_ok hslots', Except.ok.injEq,
    Rule.priorityMessages_eq_iff hmore hfewer, Ne, Rule.blankNumbers_eq_iff hrequired 1, Ne,
    Rule.filledNumbers_eq_iff hoptional 4, Rule.slotNumbers_eq_nil_iff,
    Rule.slotNumbers_eq_nil_iff]
  simp

theorem Scene.Emptied.length_eq {s s' : Scene} (h : s.Emptied s') :
    s'.environmentAnchors.length = s.environmentAnchors.length := h.slots.length_eq.symm

/-- **Blank slots count as empty, but not to slot priority.**  In every scene that the schema
    accepts, emptying blank slots leaves the filled anchors alone, and the prompt in every layout.
    Both scenes are validated by the built-in rules, with any thresholds; the verdict is the same,
    the errors are the same, and so is all that is not said about slot priority.  The findings as a
    whole are the same only if the emptied slots are of no concern to that rule. -/
theorem blank_slots_count_as_empty_but_for_priority (record : Json) (s s' : Scene)
    (hs : Scene.check record = .ok s) (h : s.Emptied s') :
    s'.filledAnchors = s.filledAnchors ∧ (∀ l : Layout, s'.prompt l = s.prompt l) ∧
      ∀ t : Thresholds, ∃ v v', validate (Rule.table t) s = .ok v ∧
        validate (Rule.table t) s' = .ok v' ∧
        v'.canCompile = v.canCompile ∧ v'.errors = v.errors ∧
        v'.diagnostics.filter (·.ruleId ≠ "anchor_slot_priority") =
          v.diagnostics.filter (·.ruleId ≠ "anchor_slot_priority") ∧
        (v' = v ↔
          (s.environmentAnchors.take 3 ≠ s'.environmentAnchors.take 3 →
            ∀ anchor ∈ s'.environmentAnchors.drop 3, anchor = "") ∧
          (s'.environmentAnchors.drop 3 ≠ s.environmentAnchors.drop 3 →
            ∀ anchor ∈ s.environmentAnchors.take 3, anchor ≠ "")) := by
  have hfilled := h.sameFilled
  have hslots := (Scene.wellFormed_of_check hs).slots_eq
  have hslots' := h.length_eq.trans hslots
  refine ⟨hfilled.filledAnchors_eq.symm, fun l => (hfilled.prompt_eq l).symm, fun t => ?_⟩
  obtain ⟨v, hv⟩ := exists_validate_table hslots t
  obtain ⟨v', hv'⟩ := exists_validate_table hslots' t
  have herrors := hfilled.errors_eq hslots hslots' hv hv'
  refine ⟨v, v', hv, hv', (canCompile_eq_of_errors_eq hv hv' herrors).symm, herrors.symm, ?_, ?_⟩
  · obtain ⟨-, rfl⟩ := validate_eq_ok_iff.1 hv
    obtain ⟨-, rfl⟩ := validate_eq_ok_iff.1 hv'
    exact (hfilled.filter_emission_eq t).symm
  · rw [hfilled.validation_eq_iff hv hv', checkSlotPriority_eq_iff h hslots hslots']

/-- A scene as the schema is given it, with these slots and hardly anything else. -/
def landing (slots : List String) : Json :=
  .obj [("scene_heart", .str "Dust in the light"), ("environment_anchors", .texts slots)]

/-- What it is accepted as. -/
def landingScene (slots : List String) : Scene :=
  { sceneHeart := "Dust in the light", environmentAnchors := slots }

/-- Landings that differ by emptied slots differ in nothing else. -/
theorem landingScene_emptied {slots slots' : List String}
    (h : List.Forall₂ SlotEmptied slots slots') :
    (landingScene slots).Emptied (landingScene slots') := by
  refine ⟨fun g hg => ?_, h⟩
  cases g with
  | environmentAnchors => exact absurd rfl hg
  | _ => rfl

/-- With its blank first slot emptied the landing can be compiled as before, but the findings
    change.  With the required slots filled and a blank optional one emptied they do not. -/
theorem landing_emptied :
    (∃ v v', validate (Rule.table {}) (landingScene [" ", "trunk", "lamp", "rope", ""]) = .ok v ∧
      validate (Rule.table {}) (landingScene ["", "trunk", "lamp", "rope", ""]) = .ok v' ∧
      v'.canCompile = v.canCompile ∧ v' ≠ v) ∧
    validate (Rule.table {}) (landingScene ["mug", "trunk", "lamp", "rope", "\t"]) =
      validate (Rule.table {}) (landingScene ["mug", "trunk", "lamp", "rope", ""]) := by
  have hsame : ∀ slot, SlotEmptied slot slot := fun _ => Or.inl rfl
  constructor
  · have hemptied : List.Forall₂ SlotEmptied [" ", "trunk", "lamp", "rope", ""]
        ["", "trunk", "lamp", "rope", ""] :=
      .cons (Or.inr ⟨by decide, rfl⟩) (List.forall₂_same.2 fun slot _ => hsame slot)
    have hread : Scene.check (landing [" ", "trunk", "lamp", "rope", ""]) =
        .ok (landingScene [" ", "trunk", "lamp", "rope", ""]) := rfl
    obtain ⟨-, -, hruns⟩ :=
      blank_slots_count_as_empty_but_for_priority _ _ _ hread (landingScene_emptied hemptied)
    obtain ⟨v, v', hv, hv', hverdict, -, -, hunnoticed⟩ := hruns {}
    refine ⟨v, v', hv, hv', hverdict, fun heq => ?_⟩
    exact absurd ((hunnoticed.1 heq).1 (by decide) "rope") (by decide)
  · have hemptied : List.Forall₂ SlotEmptied ["mug", "trunk", "lamp", "rope", "\t"]
        ["mug", "trunk", "lamp", "rope", ""] :=
      .cons (hsame _) (.cons (hsame _) (.cons (hsame _) (.cons (hsame _)
        (.cons (Or.inr ⟨by decide, rfl⟩) .nil))))
    have hread : Scene.check (landing ["mug", "trunk", "lamp", "rope", "\t"]) =
        .ok (landingScene ["mug", "trunk", "lamp", "rope", "\t"]) := rfl
    obtain ⟨-, -, hruns⟩ :=
      blank_slots_count_as_empty_but_for_priority _ _ _ hread (landingScene_emptied hemptied)
    obtain ⟨v, v', hv, hv', -, -, -, hunnoticed⟩ := hruns {}
    rw [hv, hv', hunnoticed.2 ⟨fun hchanged => absurd rfl hchanged, fun _ => by decide⟩]

/-- Blank slots do not count as empty everywhere. -/
theorem not_blank_slots_count_as_empty :
    ¬ ∀ (record : Json) (s s' : Scene), Scene.check record = .ok s → s.Emptied s' →
      s'.filledAnchors = s.filledAnchors ∧
      (∀ t : Thresholds, validate (Rule.table t) s' = validate (Rule.table t) s) ∧
      ∀ l : Layout, s'.prompt l = s.prompt l := by
  intro hclaim
  have hemptied : List.Forall₂ SlotEmptied [" ", "trunk", "lamp", "rope", ""]
      ["", "trunk", "lamp", "rope", ""] :=
    .cons (Or.inr ⟨by decide, rfl⟩) (List.forall₂_same.2 fun _ _ => Or.inl rfl)
  obtain ⟨-, hsame, -⟩ := hclaim (landing [" ", "trunk", "lamp", "rope", ""]) _ _ rfl
    (landingScene_emptied hemptied)
  exact absurd (hsame {}) (by decide +kernel)

end ScenePrompt
