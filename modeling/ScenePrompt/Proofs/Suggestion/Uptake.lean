/-
  Suggestions put into a scene.

  A list of suggestions that was taken is put into the object of a scene under a spelling of its field,
  the only one that the object has (`Field.OnlyKey`).  The field then reads the list and every other
  field what it read before (`Field.rawValue_put_of_only`, `Field.rawValue_put_of_ne`), so a scene that
  was read is read still and differs in this field alone.

  The five anchors that are recommended fit the five slots: none is cut off, and no slot is padded
  (`Scene.ofRaw_put_anchors`).  Micro-details are as many as they are, and only the blank ones get lost
  (`Scene.ofRaw_put_microDetails`).
-/
import ScenePrompt.Proofs.Suggestion.Payload

namespace ScenePrompt

open Schema Entries

/-! ## One field is written -/

namespace Field

/-- The key is a spelling of the field, and the object has no other. -/
def OnlyKey (f : Field) (es : Entries) (key : String) : Prop :=
  f.isSpelling key = true ∧ ∀ k ∈ keys es, f.isSpelling k = true → k = key

instance (f : Field) (es : Entries) (key : String) : Decidable (f.OnlyKey es key) := by
  unfold OnlyKey
  infer_instance

variable {f : Field} {es : Entries} {key : String}

/-- A field that is written under its only key reads what was written. -/
theorem rawValue_put_of_only (hkeys : (keys es).Nodup) (hkey : f.OnlyKey es key) (v : Json) :
    f.rawValue (put key v es) = v := by
  obtain ⟨hspelling, honly⟩ := hkey
  have hnone : ∀ w ∈ ([] : Entries), f.isSpelling w.1 = false := List.forall_mem_nil _
  have hvalue : f.rawValue (put key v es) = f.newestValue (es ++ [(key, v)]) :=
    f.rawValue_putAll hkeys [(key, v)]
  rw [hvalue]
  -- a write is the latest one, so what decides is whether a newer spelling hides it
  rcases newestValue_of_last_assignment hspelling hnone es [] v with
    ⟨-, hnewest⟩ | ⟨other, hne, hnewest, -⟩
  · exact hnewest
  · -- there is no other spelling that could be newer
    obtain ⟨hmem, hother⟩ := mem_of_newestSpelling? hnewest
    rw [List.nil_append, keys_append] at hmem
    rcases List.mem_append.1 hmem with hold | hnew
    · exact absurd (honly other hold hother) hne
    · exact absurd (List.mem_singleton.1 hnew) hne

/-- The other fields read what they read before. -/
theorem rawValue_put_of_ne {g : Field} (hkey : f.isSpelling key = true) (hne : g ≠ f) (v : Json) :
    g.rawValue (put key v es) = g.rawValue es := by
  -- a key means one field, and this one means `f`
  have hother : g.isSpelling key = false := by
    cases hg : g.isSpelling key with
    | false => rfl
    | true => exact absurd (eq_of_isSpelling hg hkey) hne
  have hsame : lastOf g.isSpelling (putAll es [(key, v)]) = lastOf g.isSpelling es :=
    lastOf_putAll_of_forall_not (fun w hw => List.mem_singleton.1 hw ▸ hother) es
  exact congrArg (·.getD .null) hsame

end Field

namespace Scene

variable {f : Field} {es : Entries} {key : String} {s : Scene}

/-- What was read is read still when one field is given an acceptable value. -/
theorem ofRaw_put (hkeys : (keys es).Nodup) (hkey : f.OnlyKey es key) {v : Json} (hv : f.Accepts v)
    (hs : ofRaw (.obj es) = .ok s) :
    ofRaw (.obj (put key v es)) = .ok (content (put key v es)) := by
  obtain ⟨hfields, -⟩ := ofRaw_obj_eq_ok_iff.1 hs
  refine ofRaw_obj_eq_ok_iff.2 ⟨fun g => ?_, rfl⟩
  -- the field that is written is of its shape by hypothesis, the others as before
  by_cases hg : g = f
  · subst hg
    rw [Field.rawValue_put_of_only hkeys hkey]
    exact hv
  · rw [Field.rawValue_put_of_ne hkey.1 hg]
    exact hfields g

theorem map_trimmed_str (xs : List String) :
    (xs.map Json.str).map Json.trimmed = xs.map Text.trim := List.map_map

/-- As many anchors as there are slots fill the slots one by one. -/
theorem ofRaw_put_anchors (hkeys : (keys es).Nodup) (hkey : Field.environmentAnchors.OnlyKey es key)
    (hs : ofRaw (.obj es) = .ok s) {xs : List String} (hsize : xs.length = anchorSlots) :
    ofRaw (.obj (put key (.texts xs) es)) =
      .ok { s with environmentAnchors := xs.map Text.trim } := by
  have haccepts : Field.environmentAnchors.Accepts (.texts xs) :=
    Or.inr ⟨_, rfl, fun v hv => Json.isText_of_mem_texts (List.mem_of_mem_take hv)⟩
  -- there are as many texts as slots, so none is cut off
  have htake : (xs.map Json.str).take anchorSlots = xs.map Json.str :=
    List.take_of_length_le (by simp [hsize])
  have hother : ∀ g ≠ Field.environmentAnchors,
      g.rawValue (put key (.texts xs) es) = g.rawValue es := fun g hg =>
    Field.rawValue_put_of_ne hkey.1 hg _
  rw [ofRaw_put hkeys hkey haccepts hs, ← (ofRaw_obj_eq_ok_iff.1 hs).2]
  simp only [content, Field.rawValue_put_of_only hkeys hkey, hother, ne_eq, reduceCtorEq,
    not_false_eq_true, Json.items_texts, htake, map_trimmed_str, List.length_map, hsize,
    Nat.sub_self, List.replicate_zero, List.append_nil]

/-- Micro-details are put in trimmed, without the blank ones. -/
theorem ofRaw_put_microDetails (hkeys : (keys es).Nodup) (hkey : Field.microDetails.OnlyKey es key)
    (hs : ofRaw (.obj es) = .ok s) (xs : List String) :
    ofRaw (.obj (put key (.texts xs) es)) =
      .ok { s with microDetails := (xs.map Text.trim).filter (· ≠ "") } := by
  have haccepts : Field.microDetails.Accepts (.texts xs) :=
    Or.inr ⟨_, rfl, fun _ hv => Json.isText_of_mem_texts hv⟩
  have hother : ∀ g ≠ Field.microDetails,
      g.rawValue (put key (.texts xs) es) = g.rawValue es := fun g hg =>
    Field.rawValue_put_of_ne hkey.1 hg _
  rw [ofRaw_put hkeys hkey haccepts hs, ← (ofRaw_obj_eq_ok_iff.1 hs).2]
  simp only [content, Field.rawValue_put_of_only hkeys hkey, hother, ne_eq, reduceCtorEq,
    not_false_eq_true, Json.items_texts, map_trimmed_str]

end Scene

/-! ## From the answer of a provider to the scene -/

/-- Of a set that was taken for a category, the list of a slot is there and has the slot's size. -/
theorem Suggestions.exists_list?_of_parse (c : Category) {payload : Json} {set : Suggestions}
    (h : parse c.name payload = .ok set) {slot : Slot} (hslot : slot ∈ c.slots) :
    ∃ texts, set.list? slot.name = some texts ∧ texts.length = slot.size := by
  obtain ⟨hname, es, -, hfilled⟩ := parse_eq_ok_iff.1 h
  rw [Category.name_injective hname] at hfilled
  obtain ⟨texts, hlist, hsize, -⟩ := lookup_of_filledBy hfilled c.nodup_slotNames hslot
  exact ⟨texts, hlist, hsize⟩

/-- **From the answer to the scene.**  Whatever a provider answers for whatever category, it is refused
    with a reason or taken, and it is taken exactly if the category exists and the answer gives an
    array of texts for every list that the category calls for, of the right size.  The lists are these
    texts as they are, and written out they are taken again.  Of a set for anchors, the list that is
    recommended may be put into any scene that can be read, under the one key that the scene has for its
    anchors: the slots then hold these texts, trimmed, all of them, and nothing else has changed.  The
    same goes for the list of a set for micro-details, of which the blank ones are left out. -/
theorem suggestions_taken_and_taken_up (name : String) (payload : Json) :
    ((∃ set, Suggestions.parse name payload = .ok set) ↔
      ∃ c : Category, c.name = name ∧ c.Takes payload) ∧
    (∀ e, Suggestions.parse name payload = .error e →
      ((∀ c : Category, c.name ≠ name) ∧ e = .unknownCategory name) ∨
      ∃ (c : Category) (violations : List Violation), c.name = name ∧
        e = .invalid c violations) ∧
    ∀ set, Suggestions.parse name payload = .ok set →
      (set.category.name = name ∧
        set.lists.map Prod.fst = set.category.slots.map Slot.name ∧
        ∃ es, payload = .obj es ∧ ∀ slot ∈ set.category.slots, ∃ texts,
          set.list? slot.name = some texts ∧ slot.given? es = some (.texts texts)) ∧
      Suggestions.parse name set.toJson = .ok set ∧
      (name = "anchors" → ∃ picks, set.list? "recommended" = some picks ∧
        picks.length = anchorSlots ∧
        ∀ (es : Entries) (key : String) (s : Scene), (keys es).Nodup →
          Field.environmentAnchors.OnlyKey es key → Scene.ofRaw (.obj es) = .ok s →
          Scene.ofRaw (.obj (put key (.texts picks) es)) =
            .ok { s with environmentAnchors := picks.map Text.trim }) ∧
      (name = "micro_details" → ∃ details, set.list? "micro_details" = some details ∧
        ∀ (es : Entries) (key : String) (s : Scene), (keys es).Nodup →
          Field.microDetails.OnlyKey es key → Scene.ofRaw (.obj es) = .ok s →
          Scene.ofRaw (.obj (put key (.texts details) es)) =
            .ok { s with microDetails := (details.map Text.trim).filter (· ≠ "") }) := by
  refine ⟨Suggestions.exists_parse_eq_ok_iff, fun e => Suggestions.parse_eq_error_cases, ?_⟩
  intro set hset
  refine ⟨?_, Suggestions.parse_toJson hset, ?_, ?_⟩
  · obtain ⟨hname, es, hobj, hfilled⟩ := Suggestions.parse_eq_ok_iff.1 hset
    refine ⟨hname, Suggestions.names_of_filledBy hfilled, es, hobj, ?_⟩
    intro slot hslot
    obtain ⟨texts, hlist, -, hgiven⟩ :=
      Suggestions.lookup_of_filledBy hfilled set.category.nodup_slotNames hslot
    exact ⟨texts, hlist, hgiven⟩
  · rintro rfl
    have hslot : (⟨"recommended", "recommended", 5⟩ : Slot) ∈ Category.anchors.slots := by decide
    obtain ⟨picks, hlist, hsize⟩ := Suggestions.exists_list?_of_parse .anchors hset hslot
    exact ⟨picks, hlist, hsize, fun es key s hkeys hkey hs =>
      Scene.ofRaw_put_anchors hkeys hkey hs hsize⟩
  · rintro rfl
    have hslot : (⟨"micro_details", "microDetails", 12⟩ : Slot) ∈ Category.microDetails.slots := by
      decide
    obtain ⟨details, hlist, -⟩ := Suggestions.exists_list?_of_parse .microDetails hset hslot
    exact ⟨details, hlist, fun es key s hkeys hkey hs =>
      Scene.ofRaw_put_microDetails hkeys hkey hs details⟩

/-- What a provider answers about anchors; the null under the name is hidden by the editor's
    spelling. -/
def anchorAnswer : Json :=
  .obj [("anchor_candidates", .null), ("anchorCandidates", .texts (List.replicate 10 "lamp")),
    ("recommended", .texts [" lamp", "rug", "", "mug\t", "sill"])]

/-- What is taken of it. -/
def anchorSet : Suggestions :=
  { category := .anchors
    lists := [("anchor_candidates", List.replicate 10 "lamp"),
      ("recommended", [" lamp", "rug", "", "mug\t", "sill"])] }

/-- What it answers about micro-details. -/
def detailAnswer : Json := .obj [("micro_details", .texts (List.replicate 11 " " ++ ["dust "]))]

/-- What is taken of that. -/
def detailSet : Suggestions :=
  { category := .microDetails, lists := [("micro_details", List.replicate 11 " " ++ ["dust "])] }

/-- A scene without anchors. -/
def bareRoom : Entries := [("environmentAnchors", .null), ("lens", .str " DEEP")]

/-- A room without anchors is given those that were recommended, and a micro-detail out of twelve;
    what was offered for a category that does not exist is refused. -/
theorem bareRoom_furnished :
    Suggestions.parse "anchors" anchorAnswer = .ok anchorSet ∧
      Suggestions.parse "anchors" anchorSet.toJson = .ok anchorSet ∧
      Scene.ofRaw (.obj (put "environmentAnchors"
          (.texts [" lamp", "rug", "", "mug\t", "sill"]) bareRoom)) =
        .ok { lens := "deep", environmentAnchors := ["lamp", "rug", "", "mug", "sill"] } ∧
      Scene.ofRaw (.obj (put "micro_details" (.texts (List.replicate 11 " " ++ ["dust "])) bareRoom)) =
        .ok { lens := "deep", microDetails := ["dust"] } ∧
      Suggestions.parse "lighting" anchorAnswer = .error (.unknownCategory "lighting") ∧
      ∀ c : Category, c.name ≠ "lighting" := by
  have hset : Suggestions.parse "anchors" anchorAnswer = .ok anchorSet := rfl
  have hdetails : Suggestions.parse "micro_details" detailAnswer = .ok detailSet := rfl
  have hlighting : Suggestions.parse "lighting" anchorAnswer =
      .error (.unknownCategory "lighting") := rfl
  have hread : Scene.ofRaw (.obj bareRoom) = .ok { lens := "deep" } := rfl
  obtain ⟨-, hagain, hanchors, -⟩ :=
    (suggestions_taken_and_taken_up "anchors" anchorAnswer).2.2 _ hset
  obtain ⟨-, -, -, hmicro⟩ :=
    (suggestions_taken_and_taken_up "micro_details" detailAnswer).2.2 _ hdetails
  obtain ⟨-, hrefused, -⟩ := suggestions_taken_and_taken_up "lighting" anchorAnswer
  obtain ⟨picks, hpicks, -, hput⟩ := hanchors rfl
  obtain ⟨details, hlist, hputDetails⟩ := hmicro rfl
  obtain rfl : _ = picks := Option.some.inj hpicks
  obtain rfl : _ = details := Option.some.inj hlist
  refine ⟨hset, hagain, hput bareRoom _ _ (by decide) (by decide) hread,
    hputDetails bareRoom _ _ (by decide) (by decide) hread, hlighting, ?_⟩
  rcases hrefused _ hlighting with ⟨hnone, -⟩ | ⟨c, violations, -, hinvalid⟩
  · exact hnone
  · cases hinvalid

end ScenePrompt
