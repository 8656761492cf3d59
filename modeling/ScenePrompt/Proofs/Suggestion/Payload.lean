/-
  Which answers of a provider are taken.

  A provider may send anything.  What it sends for a slot is the value under the editor's spelling of
  the slot if there is one, and otherwise the value under its name (`Slot.given?`).  An answer is
  taken for a category exactly if it is an object that gives for every slot an array of texts of the
  slot's size (`Category.Takes`), and the lists that come of it are these texts, one list for each
  slot (`Suggestions.parse_eq_ok_iff`).

  What was taken is taken again when it is written out.  A written set has each list under the name of
  its slot, no two slots of a category have one name, and no editor's spelling is the name of another
  slot, so each slot is given its own list (`Suggestions.filledBy_toJson`).
-/
import Mathlib.Data.List.Forall2
import ScenePrompt.Proofs.Scene.Draft
import ScenePrompt.Schema.Scene
import ScenePrompt.Suggestion

namespace ScenePrompt

open Schema Checked Outcome Entries

/-! ## Entries under two spellings, and arrays of texts -/

namespace Schema

variable {α : Type}

/-- A required entry under two spellings is the one under the first, if there is one. -/
theorem requiredEntry_pair_eq_ok_iff {es : Entries} {a b : String} {check : Check α} {x : α} :
    requiredEntry es [a, b] check = .ok x ↔
      ∃ v, (get? es a).or (get? es b) = some v ∧ check v = .ok x := by
  unfold requiredEntry firstPresent?
  -- the first spelling hides the second, whatever is under it
  cases get? es a with
  | some v => simp [under_eq_ok_iff]
  | none =>
    unfold firstPresent?
    cases get? es b with
    | some v => simp [under_eq_ok_iff]
    | none =>
      simp only [firstPresent?, Option.none_or, reduceCtorEq, false_and, exists_false, iff_false]
      intro h
      cases under_eq_ok_iff.1 h

/-- Items are let through as texts exactly if they are texts, and then as these. -/
theorem eachFrom_text_eq_ok_iff {i : Nat} {items : List Json} {xs : List String} :
    eachFrom text i items = .ok xs ↔ items = xs.map Json.str := by
  constructor
  · intro h
    have hlist : listOf text (.arr items) = .ok xs := eachFrom_eq_ok_iff.2 (eachFrom_eq_ok_iff.1 h)
    exact (Json.arr.inj (reproduces_text.listOf _ _ hlist)).symm
  · rintro rfl
    exact eachFrom_texts i xs

/-- An array of a fixed size is let through if it has that size and holds texts only. -/
theorem listOfSize_text_eq_ok_iff {n : Nat} {v : Json} {xs : List String} :
    listOfSize n text v = .ok xs ↔ v = .texts xs ∧ xs.length = n := by
  constructor
  · intro h
    cases v with
    | arr items =>
      simp only [listOfSize] at h
      -- too many items are refused before any of them is looked at
      by_cases hlong : n < items.length
      · rw [if_pos hlong] at h
        cases h
      · rw [if_neg hlong] at h
        cases heach : eachFrom text 0 items with
        | error vs => simp [heach] at h
        | ok ys =>
          obtain rfl := eachFrom_text_eq_ok_iff.1 heach
          rw [List.length_map] at hlong h
          -- and too few after all of them were
          by_cases hshort : ys.length < n
          · simp [heach, hshort, fail] at h
          · simp only [heach, hshort, if_false, Except.ok.injEq] at h
            subst h
            exact ⟨rfl, by omega⟩
    | _ => cases h
  · rintro ⟨rfl, rfl⟩
    simp [listOfSize, Json.texts, eachFrom_texts]

end Schema

/-! ## Slots that are filled -/

/-- What an answer gives for a slot: the value under the editor's spelling if it has one, and
    otherwise the value under the name. -/
def Slot.given? (slot : Slot) (es : Entries) : Option Json :=
  (get? es slot.editorName).or (get? es slot.name)

/-- The list under the slot's name is what the answer gives for the slot, and of the slot's size. -/
structure Slot.FilledBy (es : Entries) (slot : Slot) (list : String × List String) : Prop where
  name_eq : list.1 = slot.name
  size_eq : list.2.length = slot.size
  given_eq : slot.given? es = some (.texts list.2)

/-- The answer is an object that gives texts for every slot of the category, as many as it calls
    for. -/
def Category.Takes (c : Category) (payload : Json) : Prop :=
  ∃ es, payload = .obj es ∧
    ∀ slot ∈ c.slots, ∃ texts, slot.given? es = some (.texts texts) ∧ texts.length = slot.size

namespace Category

/-- A category is found under its name and under no other. -/
theorem ofName?_eq_some_iff {name : String} {c : Category} :
    ofName? name = some c ↔ c.name = name := by
  constructor
  · intro h
    simpa using List.find?_some h
  · rintro rfl
    exact ofName?_name c

/-- None is found exactly if no category has the name. -/
theorem ofName?_eq_none_iff {name : String} :
    ofName? name = none ↔ ∀ c : Category, c.name ≠ name := by
  rw [Option.eq_none_iff_forall_ne_some]
  exact forall_congr' fun c => not_congr ofName?_eq_some_iff

theorem name_injective {c c' : Category} (h : c.name = c'.name) : c = c' := by
  have hsame : some c = some c' := by rw [← ofName?_name c, h, ofName?_name]
  exact Option.some.inj hsame

/-- No two slots of a category have one name, so a written set has no key twice. -/
theorem nodup_slotNames (c : Category) : (c.slots.map Slot.name).Nodup := by
  cases c <;> decide

/-- No editor's spelling of a slot is the name of another slot. -/
theorem editorName_eq_or_not_mem (c : Category) :
    ∀ slot ∈ c.slots, slot.editorName = slot.name ∨ slot.editorName ∉ c.slots.map Slot.name := by
  cases c <;> decide

end Category

namespace Suggestions

/-- The slots are let through exactly by the lists that fill them, one after another. -/
theorem slotsCheck_eq_ok_iff {es : Entries} {slots : List Slot}
    {lists : List (String × List String)} :
    slotsCheck es slots = .ok lists ↔ List.Forall₂ (Slot.FilledBy es) slots lists := by
  induction slots generalizing lists with
  | nil =>
    rw [List.forall₂_nil_left_iff, slotsCheck, Except.ok.injEq]
    exact eq_comm
  | cons slot rest ih =>
    -- the first slot and the rest are checked side by side, and both must be let through
    rw [slotsCheck, ap_eq_ok_iff]
    constructor
    · rintro ⟨_, others, hfirst, hothers, rfl⟩
      obtain ⟨texts, htexts, rfl⟩ := map_eq_ok_iff.1 hfirst
      obtain ⟨v, hv, hlist⟩ := requiredEntry_pair_eq_ok_iff.1 htexts
      obtain ⟨rfl, hsize⟩ := listOfSize_text_eq_ok_iff.1 hlist
      exact .cons ⟨rfl, hsize, hv⟩ (ih.1 hothers)
    · intro h
      obtain ⟨⟨name, texts⟩, others, hfilled, hothers, rfl⟩ := List.forall₂_cons_left_iff.1 h
      obtain ⟨rfl, hsize, hgiven⟩ := hfilled
      refine ⟨_, others, map_eq_ok_iff.2 ⟨texts, ?_, rfl⟩, ih.2 hothers, rfl⟩
      exact requiredEntry_pair_eq_ok_iff.2
        ⟨_, hgiven, listOfSize_text_eq_ok_iff.2 ⟨rfl, hsize⟩⟩

/-- An answer fits a category exactly if it is an object whose lists fill the slots. -/
theorem check_eq_ok_iff {c : Category} {payload : Json} {set : Suggestions} :
    check c payload = .ok set ↔ set.category = c ∧
      ∃ es, payload = .obj es ∧ List.Forall₂ (Slot.FilledBy es) c.slots set.lists := by
  obtain ⟨category, lists⟩ := set
  cases payload with
  | obj es =>
    refine map_eq_ok_iff.trans ?_
    simp only [slotsCheck_eq_ok_iff, Suggestions.mk.injEq, Json.obj.injEq]
    constructor
    · rintro ⟨_, hfilled, rfl, rfl⟩
      exact ⟨rfl, es, rfl, hfilled⟩
    · rintro ⟨rfl, _, rfl, hfilled⟩
      exact ⟨lists, hfilled, rfl, rfl⟩
  | _ =>
    refine iff_of_false (fun h => ?_) ?_
    · cases h
    · rintro ⟨-, es, hobj, -⟩
      cases hobj

/-- An answer is taken exactly if its lists fill the slots of the category. -/
theorem parse_eq_ok_iff {name : String} {payload : Json} {set : Suggestions} :
    parse name payload = .ok set ↔ set.category.name = name ∧
      ∃ es, payload = .obj es ∧ List.Forall₂ (Slot.FilledBy es) set.category.slots set.lists := by
  unfold parse
  cases hname : Category.ofName? name with
  | none =>
    refine iff_of_false (fun h => nomatch h) ?_
    rintro ⟨hcategory, -⟩
    exact Category.ofName?_eq_none_iff.1 hname _ hcategory
  | some c =>
    obtain rfl := Category.ofName?_eq_some_iff.1 hname
    refine mapError_eq_ok_iff.trans (check_eq_ok_iff.trans ?_)
    constructor
    · rintro ⟨rfl, hfilled⟩
      exact ⟨rfl, hfilled⟩
    · rintro ⟨hcategory, hfilled⟩
      obtain rfl := Category.name_injective hcategory
      exact ⟨rfl, hfilled⟩

/-- Where every slot is given texts of its size, there are lists that fill the slots. -/
theorem exists_filledBy {es : Entries} {slots : List Slot}
    (h : ∀ slot ∈ slots, ∃ texts, slot.given? es = some (.texts texts) ∧ texts.length = slot.size) :
    ∃ lists, List.Forall₂ (Slot.FilledBy es) slots lists := by
  induction slots with
  | nil => exact ⟨[], .nil⟩
  | cons slot rest ih =>
    obtain ⟨⟨texts, hgiven, hsize⟩, hrest⟩ := List.forall_mem_cons.1 h
    obtain ⟨lists, hlists⟩ := ih hrest
    exact ⟨(slot.name, texts) :: lists, .cons ⟨rfl, hsize, hgiven⟩ hlists⟩

variable {es : Entries} {slots : List Slot} {lists : List (String × List String)}

/-- The lists that fill slots go by the names of the slots, in their order. -/
theorem names_of_filledBy (h : List.Forall₂ (Slot.FilledBy es) slots lists) :
    lists.map Prod.fst = slots.map Slot.name := by
  induction h with
  | nil => rfl
  | cons hfilled _ ih => rw [List.map_cons, List.map_cons, hfilled.name_eq, ih]

/-- The list under the name of a slot is what was given for the slot. -/
theorem lookup_of_filledBy (h : List.Forall₂ (Slot.FilledBy es) slots lists)
    (hnames : (slots.map Slot.name).Nodup) {slot : Slot} (hslot : slot ∈ slots) :
    ∃ texts, lists.lookup slot.name = some texts ∧ texts.length = slot.size ∧
      slot.given? es = some (.texts texts) := by
  induction h with
  | nil => cases hslot
  | @cons first list rest lists hfilled _ ih =>
    obtain ⟨name, texts⟩ := list
    obtain ⟨rfl, hsize, hgiven⟩ := hfilled
    obtain ⟨hnew, hrest⟩ := List.nodup_cons.1 hnames
    rcases List.mem_cons.1 hslot with rfl | hslot
    · exact ⟨texts, by simp, hsize, hgiven⟩
    · -- no later slot has the name of the first, so the search goes past it
      have hne : slot.name ≠ first.name := fun hname =>
        hnew (hname ▸ List.mem_map_of_mem hslot)
      obtain ⟨others, hlookup, hothers⟩ := ih hrest hslot
      refine ⟨others, ?_, hothers⟩
      rw [List.lookup_cons, beq_eq_false_iff_ne.2 hne]
      exact hlookup

/-! ## A set that is written out -/

/-- Where no key stands twice, every entry is found under its key. -/
theorem get?_of_mem {es : Entries} (h : (keys es).Nodup) {k : String} {v : Json}
    (hmem : (k, v) ∈ es) : get? es k = some v := by
  induction es with
  | nil => cases hmem
  | cons e rest ih =>
    obtain ⟨hnew, hrest⟩ := List.nodup_cons.1 h
    unfold get? at ih ⊢
    rw [lastOf_cons]
    rcases List.mem_cons.1 hmem with rfl | hmem
    · have hnone : lastOf (· == k) rest = none := get?_eq_none_iff.2 hnew
      simp [hnone]
    · rw [ih hrest hmem]
      rfl

/-- A written set gives every slot the list that filled it. -/
theorem filledBy_toJson {c : Category} (h : List.Forall₂ (Slot.FilledBy es) c.slots lists) :
    List.Forall₂ (Slot.FilledBy (toJson ⟨c, lists⟩).entries) c.slots lists := by
  have hkeys : keys (toJson ⟨c, lists⟩).entries = c.slots.map Slot.name := by
    rw [← names_of_filledBy h]
    exact List.map_map
  obtain ⟨hlength, hfilled⟩ := List.forall₂_iff_zip.1 h
  refine List.forall₂_iff_zip.2 ⟨hlength, ?_⟩
  intro slot list hpair
  obtain ⟨hname, hsize, -⟩ := hfilled hpair
  obtain ⟨hslot, hlist⟩ := List.of_mem_zip hpair
  have hfound : get? (toJson ⟨c, lists⟩).entries slot.name = some (.texts list.2) := by
    refine get?_of_mem (hkeys ▸ c.nodup_slotNames) ?_
    exact List.mem_map.2 ⟨list, hlist, congrArg (·, Json.texts list.2) hname⟩
  refine ⟨hname, hsize, ?_⟩
  unfold Slot.given?
  -- the editor's spelling is the name itself, or no key of the written set; it cannot hide the list
  rcases c.editorName_eq_or_not_mem slot hslot with heditor | habsent
  · rw [heditor, hfound]
    rfl
  · have hnone : get? (toJson ⟨c, lists⟩).entries slot.editorName = none :=
      get?_eq_none_iff.2 (hkeys ▸ habsent)
    rw [hnone, hfound]
    rfl

/-- What was taken is taken again when it is written out. -/
theorem parse_toJson {name : String} {payload : Json} {set : Suggestions}
    (h : parse name payload = .ok set) : parse name set.toJson = .ok set := by
  obtain ⟨hname, es, -, hfilled⟩ := parse_eq_ok_iff.1 h
  exact parse_eq_ok_iff.2 ⟨hname, _, rfl, filledBy_toJson hfilled⟩

/-- An answer is taken exactly if there is a category of the name that takes it. -/
theorem exists_parse_eq_ok_iff {name : String} {payload : Json} :
    (∃ set, parse name payload = .ok set) ↔
      ∃ c : Category, c.name = name ∧ c.Takes payload := by
  constructor
  · rintro ⟨set, hset⟩
    obtain ⟨hname, es, hobj, hfilled⟩ := parse_eq_ok_iff.1 hset
    refine ⟨set.category, hname, es, hobj, ?_⟩
    intro slot hslot
    obtain ⟨texts, -, hsize, hgiven⟩ :=
      lookup_of_filledBy hfilled set.category.nodup_slotNames hslot
    exact ⟨texts, hgiven, hsize⟩
  · rintro ⟨c, hname, es, hobj, hgiven⟩
    obtain ⟨lists, hlists⟩ := exists_filledBy hgiven
    exact ⟨⟨c, lists⟩, parse_eq_ok_iff.2 ⟨hname, es, hobj, hlists⟩⟩

/-- An answer that is not taken is refused because there is no such category, or because it does not
    fit the one there is. -/
theorem parse_eq_error_cases {name : String} {payload : Json} {e : SuggestionError}
    (h : parse name payload = .error e) :
    ((∀ c : Category, c.name ≠ name) ∧ e = .unknownCategory name) ∨
      ∃ (c : Category) (violations : List Violation), c.name = name ∧
        e = .invalid c violations := by
  unfold parse at h
  cases hname : Category.ofName? name with
  | none =>
    rw [hname] at h
    exact Or.inl ⟨Category.ofName?_eq_none_iff.1 hname, (Except.error.inj h).symm⟩
  | some c =>
    rw [hname] at h
    obtain ⟨violations, -, rfl⟩ := mapError_eq_error_iff.1 h
    exact Or.inr ⟨c, violations, Category.ofName?_eq_some_iff.1 hname, rfl⟩

end Suggestions

end ScenePrompt
