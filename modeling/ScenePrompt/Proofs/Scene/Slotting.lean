/-
  Anchors in any number of slots.

  The reader of anchors is told how many slots there are: a scene has five, but nothing in the
  reading depends on that.  Seen slot by slot it is simple.  Slot `i` holds the text of item `i`,
  trimmed, and the empty text past the last item (`slotText`), so a list of anchors comes to
  `slotTexts n`, which is `slotText` at `0, …, n - 1` and knows neither cutting nor padding
  (`slotTexts_eq_append`).  Reading succeeds exactly if the items that fall into slots are texts or
  null, and the items beyond are never looked at (`anchors_arr_eq_ok_iff`, `anchors_congr_take`).

  What was slotted can be slotted again, in another number of slots.  A slot that is still there
  keeps its text, because the text is trimmed already, and a slot that was not there is empty
  (`slotText_slotTexts`).  So cutting further is the same as cutting at once, and slots that are
  added later are empty, whatever stood in the items that the first cut dropped.
-/
import ScenePrompt.Proofs.Scene.Acceptance

namespace ScenePrompt.Reading

open Expectation

/-! ## Slot by slot -/

/-- What stands in slot `i`: the text of item `i`, or nothing past the last item. -/
def slotText (vs : List Json) (i : Nat) : String := (vs[i]?.map Json.trimmed).getD ""

/-- What stands in the first `n` slots. -/
def slotTexts (n : Nat) (vs : List Json) : List String := (List.range n).map (slotText vs)

@[simp]
theorem length_slotTexts (n : Nat) (vs : List Json) : (slotTexts n vs).length = n := by
  simp [slotTexts]

/-- The text of a slot is found at its place. -/
theorem getElem?_slotTexts {n i : Nat} (h : i < n) (vs : List Json) :
    (slotTexts n vs)[i]? = some (slotText vs i) := by
  simp [slotTexts, h]

/-- Items are cut off, or empty slots put after them. -/
theorem slotTexts_eq_append (n : Nat) (vs : List Json) :
    slotTexts n vs = (vs.take n).map Json.trimmed ++ List.replicate (n - vs.length) "" := by
  have hlength : ((vs.take n).map Json.trimmed).length = min n vs.length := by simp
  refine List.ext_getElem (by simp; omega) ?_
  intro i hi hi'
  have hin : i < n := by simpa using hi
  rw [List.getElem_append]
  by_cases hitem : i < vs.length
  · have hfront : i < ((vs.take n).map Json.trimmed).length := by omega
    rw [dif_pos hfront]
    simp [slotTexts, slotText, hitem]
  · have hpast : ¬ i < ((vs.take n).map Json.trimmed).length := by omega
    rw [dif_neg hpast]
    simp [slotTexts, slotText, hitem]

/-- What stands in a slot has been trimmed; an empty slot has nothing to trim. -/
theorem trim_slotText (vs : List Json) (i : Nat) :
    Text.trim (slotText vs i) = slotText vs i := by
  unfold slotText
  cases vs[i]? with
  | none => exact Text.trim_empty
  | some v => exact v.trim_trimmed

/-- Slotted once more, the slots that were there keep their texts and the others are empty. -/
theorem slotText_slotTexts (m : Nat) (vs : List Json) (i : Nat) :
    slotText ((slotTexts m vs).map Json.str) i = if i < m then slotText vs i else "" := by
  -- a slot of the first number holds a trimmed text, and any other is past the end
  by_cases hi : i < m
  · have hitem : ((slotTexts m vs).map Json.str)[i]? = some (.str (slotText vs i)) := by
      rw [List.getElem?_map, getElem?_slotTexts hi]
      rfl
    rw [if_pos hi, slotText, hitem]
    exact trim_slotText vs i
  · have hnone : ((slotTexts m vs).map Json.str)[i]? = none := by
      simpa using hi
    rw [if_neg hi, slotText, hnone]
    rfl

/-- Cutting twice is cutting once. -/
theorem slotTexts_of_le {n m : Nat} (h : n ≤ m) (vs : List Json) :
    slotTexts n ((slotTexts m vs).map Json.str) = slotTexts n vs := by
  refine List.map_congr_left ?_
  intro i hi
  have him : i < m := Nat.lt_of_lt_of_le (List.mem_range.1 hi) h
  rw [slotText_slotTexts, if_pos him]

/-- Slots that are added later are empty. -/
theorem slotTexts_of_ge {n m : Nat} (h : m ≤ n) (vs : List Json) :
    slotTexts n ((slotTexts m vs).map Json.str) =
      slotTexts m vs ++ List.replicate (n - m) "" := by
  obtain ⟨k, rfl⟩ := Nat.exists_eq_add_of_le h
  -- the slots behind the first `m` are empty, and the first `m` are as they were
  have hadded : ∀ i : Nat, slotText ((slotTexts m vs).map Json.str) (m + i) = "" := by
    intro i
    rw [slotText_slotTexts, if_neg (by omega)]
  have hcut : slotTexts m ((slotTexts m vs).map Json.str) = slotTexts m vs :=
    slotTexts_of_le (Nat.le_refl m) vs
  unfold slotTexts at hadded hcut ⊢
  rw [List.range_add, List.map_append, hcut, List.map_map, Nat.add_sub_cancel_left]
  refine congrArg _ (List.eq_replicate_iff.2 ⟨by simp, ?_⟩)
  intro text htext
  obtain ⟨i, -, rfl⟩ := List.mem_map.1 htext
  exact hadded i

/-! ## Reading -/

/-- Anchors are read exactly if the items that fall into slots are texts, and then slot by slot. -/
theorem anchors_arr_eq_ok_iff {n : Nat} {vs : List Json} {t : List String} :
    anchors n (.arr vs) = .ok t ↔ (∀ v ∈ vs.take n, v.IsText) ∧ slotTexts n vs = t := by
  have hlist : ({ place := .field Field.environmentAnchors.name, demand := .list
                  value := .arr vs } : Expectation).met = true := rfl
  have hpadding : ((n : Int) - (vs.take n).length).toNat = n - vs.length := by
    rw [List.length_take]
    omega
  rw [anchors_eq_expecting, expecting_eq_ok_iff, List.forall_mem_cons, Json.items_arr,
    slotted_natCast, met_each_iff (met_textItem_iff _), slotTexts_eq_append, hpadding]
  simp only [hlist, true_and]

/-- Items beyond the slots are not looked at. -/
theorem anchors_congr_take {n : Nat} {vs ws : List Json} (h : vs.take n = ws.take n) :
    anchors n (.arr vs) = anchors n (.arr ws) := by
  rw [anchors_eq_expecting, anchors_eq_expecting, slotted_natCast, slotted_natCast, Json.items_arr,
    Json.items_arr, h]
  rfl

/-- Texts always fit into slots. -/
theorem anchors_texts (n : Nat) (xs : List String) :
    anchors n (.texts xs) = .ok (slotTexts n (xs.map Json.str)) := by
  refine anchors_arr_eq_ok_iff.2 ⟨?_, rfl⟩
  intro v hv
  exact Json.isText_of_mem_texts (List.mem_of_mem_take hv)

/-- **Slot by slot, for any number of slots.**  A list of anchors is read exactly if each of its
    first `n` items is a text or null; what the items beyond are makes no difference.  It gives `n`
    texts, item by item and trimmed, and empty ones past the end of the list.  Read again in another
    number of slots these texts give what the list itself gives, if there are no more slots than
    before, and otherwise themselves and empty slots after them. -/
theorem anchors_read_slot_by_slot (vs : List Json) (n : Nat) :
    ((∃ t, anchors n (.arr vs) = .ok t) ↔ ∀ v ∈ vs.take n, v = .null ∨ ∃ s, v = .str s) ∧
    (∀ ws : List Json, ws.take n = vs.take n → anchors n (.arr ws) = anchors n (.arr vs)) ∧
    (∀ t, anchors n (.arr vs) = .ok t →
      t.length = n ∧ ∀ i < n, t[i]? = some ((vs[i]?.map Json.trimmed).getD "")) ∧
    ∀ (m : Nat) (t : List String), anchors m (.arr vs) = .ok t →
      (n ≤ m → ∃ u, anchors n (.arr vs) = .ok u ∧ anchors n (.texts t) = .ok u) ∧
      (m ≤ n → anchors n (.texts t) = .ok (t ++ List.replicate (n - m) "")) := by
  refine ⟨?_, ?_, ?_, ?_⟩
  · constructor
    · rintro ⟨t, ht⟩
      exact (anchors_arr_eq_ok_iff.1 ht).1
    · intro h
      exact ⟨_, anchors_arr_eq_ok_iff.2 ⟨h, rfl⟩⟩
  · intro ws h
    exact anchors_congr_take h
  · intro t ht
    obtain ⟨-, rfl⟩ := anchors_arr_eq_ok_iff.1 ht
    exact ⟨length_slotTexts n vs, fun i hi => getElem?_slotTexts hi vs⟩
  · intro m t ht
    obtain ⟨htexts, rfl⟩ := anchors_arr_eq_ok_iff.1 ht
    constructor
    · intro h
      -- fewer slots, so fewer items that have to be texts
      have hfewer : ∀ v ∈ vs.take n, v.IsText := fun v hv =>
        htexts v (List.take_subset_take_left vs h hv)
      refine ⟨slotTexts n vs, anchors_arr_eq_ok_iff.2 ⟨hfewer, rfl⟩, ?_⟩
      rw [anchors_texts, slotTexts_of_le h]
    · intro h
      rw [anchors_texts, slotTexts_of_ge h]

/-- Four items, the last of which is no text and falls out of three slots. -/
def shelf : List Json := [.str " lamp", .null, .str "rug\t", .int 7]

/-- Three slots can be filled from the shelf and four cannot.  Cut to two or widened to five, the
    three come to what they should. -/
theorem shelf_slotted :
    anchors 3 (.arr shelf) = .ok ["lamp", "", "rug"] ∧
      (¬ ∃ t, anchors 4 (.arr shelf) = .ok t) ∧
      anchors 3 (.arr (shelf.take 3)) = anchors 3 (.arr shelf) ∧
      ((["lamp", "", "rug"] : List String).length = 3 ∧
        (["lamp", "", "rug"] : List String)[2]? = some "rug") ∧
      (∃ u, anchors 2 (.arr shelf) = .ok u ∧ anchors 2 (.texts ["lamp", "", "rug"]) = .ok u) ∧
      anchors 5 (.texts ["lamp", "", "rug"]) = .ok ["lamp", "", "rug", "", ""] := by
  have hread : anchors 3 (.arr shelf) = .ok ["lamp", "", "rug"] := rfl
  obtain ⟨-, hcongr, hslots, -⟩ := anchors_read_slot_by_slot shelf 3
  obtain ⟨hfour, -⟩ := anchors_read_slot_by_slot shelf 4
  obtain ⟨-, -, -, hnarrow⟩ := anchors_read_slot_by_slot shelf 2
  obtain ⟨-, -, -, hwiden⟩ := anchors_read_slot_by_slot shelf 5
  obtain ⟨hlength, htexts⟩ := hslots _ hread
  refine ⟨hread, ?_, hcongr _ rfl, ⟨hlength, htexts 2 (by decide)⟩,
    (hnarrow 3 _ hread).1 (by decide), (hwiden 3 _ hread).2 (by decide)⟩
  intro h
  have hseven : Json.int 7 ∈ shelf.take 4 := by simp [shelf]
  rcases hfour.1 h (.int 7) hseven with hnull | ⟨s, hs⟩
  · cases hnull
  · cases hs

end ScenePrompt.Reading
