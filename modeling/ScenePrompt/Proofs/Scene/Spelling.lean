/-
  Which spelling of a field decides, and what assignments come to.

  An object may hold a field under both of its spellings, and then the entry that stands LAST is
  the one that is read.  Entries stand in the order in which their keys were first written: writing
  a key that is there already changes the value in place and does not move the entry.  So what
  decides between two spellings is not which of them was written last, but which of them was NEW
  last — `Field.newestSpelling?` — and once both are there, this never changes again.

  After any sequence of assignments, then, every field reads what its newest spelling was given most
  recently (`Field.rawValue_putAll`), and this is the most recent assignment to the field as long as
  that was made under the newest spelling.  An assignment under the older spelling is lost
  (`assignment_to_older_spelling_is_lost`): the object does not remember it, for the same object
  comes about when the two assignments are made the other way round.

  The proof has two halves.  Keys and values are those of the whole HISTORY, the entries that were
  there and the assignments after them, as far as single keys go: `get?_putAll` for the values,
  `keys_putAll` for the order.  And of an object's entries under several keys the last one counts,
  which is the value under the last of these keys (`lastOf_eq_bind_get?`).
-/
import Mathlib.Data.List.Induction
import ScenePrompt.Proofs.Scene.Alike
import ScenePrompt.Proofs.Scene.NormalForm

namespace ScenePrompt

/-! ## Writing several keys in turn -/

/-- A list without repetition has nothing to erase. -/
theorem eraseDups_of_nodup {ks : List String} (h : ks.Nodup) : ks.eraseDups = ks := by
  induction ks with
  | nil => rfl
  | cons k ks ih =>
    obtain ⟨hnot, hks⟩ := List.nodup_cons.1 h
    have hfilter : ks.filter (fun x => !x == k) = ks := by
      refine List.filter_eq_self.2 ?_
      intro x hx
      have hne : x ≠ k := fun hxk => hnot (hxk ▸ hx)
      simpa using hne
    rw [List.eraseDups_cons, hfilter, ih hks]

/-- A key that was written before is nothing new. -/
theorem eraseDups_append_cons_of_mem {ks : List String} {k : String} (h : k ∈ ks)
    (rest : List String) : (ks ++ k :: rest).eraseDups = (ks ++ rest).eraseDups := by
  have hcontains : ks.contains k = true := List.contains_iff_mem.2 h
  rw [List.eraseDups_append, List.eraseDups_append, List.cons_removeAll, hcontains]
  rfl

namespace Entries

theorem keys_append (es es' : Entries) : keys (es ++ es') = keys es ++ keys es' :=
  List.map_append

theorem putAll_cons (es : Entries) (w : String × Json) (ws : Entries) :
    putAll es (w :: ws) = putAll (put w.1 w.2 es) ws := rfl

/-- Each key by itself holds what it was given most recently. -/
theorem get?_putAll {es : Entries} (h : (keys es).Nodup) (ws : Entries) (key : String) :
    get? (putAll es ws) key = get? (es ++ ws) key := by
  induction ws generalizing es with
  | nil => rw [List.append_nil]; rfl
  | cons w ws ih =>
    have hput := get?_put h w.1 key w.2
    rw [putAll_cons, ih (nodup_keys_put h)]
    unfold get? at hput ⊢
    rw [lastOf_append, lastOf_append, hput, lastOf_cons, Option.or_assoc]
    by_cases hkey : key = w.1
    · simp [hkey]
    · have hne : ¬ w.1 = key := fun h => hkey h.symm
      simp [hkey, hne]

/-- The keys stand in the order in which each was first written. -/
theorem keys_putAll {es : Entries} (h : (keys es).Nodup) (ws : Entries) :
    keys (putAll es ws) = (keys (es ++ ws)).eraseDups := by
  induction ws generalizing es with
  | nil =>
    rw [List.append_nil, eraseDups_of_nodup h]
    rfl
  | cons w ws ih =>
    have hkeys : keys (es ++ w :: ws) = keys es ++ w.1 :: keys ws := keys_append es (w :: ws)
    rw [putAll_cons, ih (nodup_keys_put h), keys_append, keys_put, hkeys]
    by_cases hmem : w.1 ∈ keys es
    · rw [if_pos hmem, eraseDups_append_cons_of_mem hmem]
    · rw [if_neg hmem, List.append_assoc, List.singleton_append]

/-! ## Reading under several keys -/

/-- Of the entries under several keys the last one counts, and its value is the one under the last
    of these keys. -/
theorem lastOf_eq_bind_get? (p : String → Bool) (es : Entries) :
    lastOf p es = ((keys es).filter p).getLast?.bind (get? es) := by
  induction es using List.reverseRecOn with
  | nil => rfl
  | append_singleton es e ih =>
    obtain ⟨k, v⟩ := e
    have hkeys : keys (es ++ [(k, v)]) = keys es ++ [k] := keys_append es [(k, v)]
    rw [lastOf_append, hkeys, List.filter_append]
    by_cases hk : p k = true
    · -- the new entry is the last one
      rw [List.filter_cons_of_pos hk, List.filter_nil, List.getLast?_concat, Option.bind_some, get?,
        lastOf_append]
      simp [lastOf, hk]
    · rw [List.filter_cons_of_neg hk, List.filter_nil, List.append_nil]
      have hnone : lastOf p [(k, v)] = none := by simp [lastOf, hk]
      rw [hnone, Option.none_or, ih]
      refine Option.bind_congr ?_
      intro k' hk'
      have hp : p k' = true := (List.mem_filter.1 (List.mem_of_getLast? hk')).2
      have hne : ¬ k = k' := fun h => hk (h ▸ hp)
      unfold get?
      rw [lastOf_append]
      simp [lastOf, hne]

/-- What an assignment does to the reading under several keys: nothing, or its value is read. -/
theorem lastOf_put_cases (p : String → Bool) (key : String) (value : Json) (es : Entries) :
    lastOf p (put key value es) = lastOf p es ∨
      p key = true ∧ lastOf p (put key value es) = some value := by
  induction es with
  | nil =>
    by_cases hkey : p key = true
    · exact Or.inr ⟨hkey, by simp [put, lastOf, hkey]⟩
    · exact Or.inl (by simp [put, lastOf, hkey])
  | cons e rest ih =>
    obtain ⟨k, v⟩ := e
    -- the entry is here and is changed in its place, or it is further back or new
    by_cases hk : k = key
    · subst hk
      have hput : put k value ((k, v) :: rest) = (k, value) :: rest := if_pos rfl
      rw [hput, lastOf_cons, lastOf_cons]
      cases lastOf p rest with
      | some w => exact Or.inl rfl
      | none =>
        by_cases hkey : p k = true
        · exact Or.inr ⟨hkey, by simp [hkey]⟩
        · exact Or.inl (by simp [hkey])
    · have hput : put key value ((k, v) :: rest) = (k, v) :: put key value rest := if_neg hk
      rw [hput, lastOf_cons, lastOf_cons]
      rcases ih with hsame | ⟨hkey, hvalue⟩
      · exact Or.inl (by rw [hsame])
      · exact Or.inr ⟨hkey, by rw [hvalue]; rfl⟩

/-- Assignments to keys of another sort change nothing. -/
theorem lastOf_putAll_of_forall_not {p : String → Bool} {ws : Entries}
    (h : ∀ w ∈ ws, p w.1 = false) (es : Entries) : lastOf p (putAll es ws) = lastOf p es := by
  induction ws generalizing es with
  | nil => rfl
  | cons w ws ih =>
    obtain ⟨hw, hws⟩ := List.forall_mem_cons.1 h
    rw [putAll_cons, ih hws]
    rcases lastOf_put_cases p w.1 w.2 es with hsame | ⟨hkey, -⟩
    · exact hsame
    · rw [hw] at hkey
      cases hkey

end Entries

open Entries

/-! ## The newest spelling -/

namespace Field

/-- Of the spellings of a field among the keys that were written, the one that was new last. -/
def newestSpelling? (f : Field) (written : List String) : Option String :=
  (written.eraseDups.filter f.isSpelling).getLast?

/-- What the newest spelling of a field was given most recently, the history being the entries that
    were there and the assignments after them. -/
def newestValue (f : Field) (history : Entries) : Json :=
  ((f.newestSpelling? (keys history)).bind (get? history)).getD .null

/-- The newest spelling is a spelling, and was written. -/
theorem mem_of_newestSpelling? {f : Field} {written : List String} {key : String}
    (h : f.newestSpelling? written = some key) : key ∈ written ∧ f.isSpelling key = true := by
  obtain ⟨hmem, hspelling⟩ := List.mem_filter.1 (List.mem_of_getLast? h)
  exact ⟨List.mem_eraseDups.1 hmem, hspelling⟩

/-- A field that was written has a newest spelling. -/
theorem exists_newestSpelling? {f : Field} {written : List String} {key : String}
    (hmem : key ∈ written) (hkey : f.isSpelling key = true) :
    ∃ k, f.newestSpelling? written = some k := by
  have hne : written.eraseDups.filter f.isSpelling ≠ [] :=
    List.ne_nil_of_mem (List.mem_filter.2 ⟨List.mem_eraseDups.2 hmem, hkey⟩)
  exact Option.isSome_iff_exists.1 (List.getLast?_isSome.2 hne)

/-- After assignments a field reads what its newest spelling was given most recently. -/
theorem rawValue_putAll (f : Field) {es : Entries} (h : (keys es).Nodup) (ws : Entries) :
    f.rawValue (putAll es ws) = f.newestValue (es ++ ws) := by
  have hvalues : get? (putAll es ws) = get? (es ++ ws) := funext (get?_putAll h ws)
  unfold rawValue newestValue newestSpelling?
  rw [lastOf_eq_bind_get?, keys_putAll h, hvalues]

/-- No key means two fields. -/
theorem eq_of_isSpelling {f g : Field} {key : String} (hf : f.isSpelling key = true)
    (hg : g.isSpelling key = true) : f = g := by
  have hfield := spelled?_of_mem_spellings (List.contains_iff_mem.1 hf)
  rw [spelled?_of_mem_spellings (List.contains_iff_mem.1 hg)] at hfield
  exact (Option.some.inj hfield).symm

/-- The assignment is under a spelling of a field, and of the shape of that field. -/
def Fits (w : String × Json) : Prop := ∃ f : Field, f.isSpelling w.1 = true ∧ f.Accepts w.2

/-- An assignment that fits keeps every field acceptable. -/
theorem accepts_put {f : Field} {w : String × Json} (hw : Fits w) {es : Entries}
    (h : f.Accepts (f.rawValue es)) : f.Accepts (f.rawValue (put w.1 w.2 es)) := by
  obtain ⟨g, hspelling, haccepts⟩ := hw
  unfold rawValue at h ⊢
  rcases lastOf_put_cases f.isSpelling w.1 w.2 es with hsame | ⟨hkey, hvalue⟩
  · rw [hsame]
    exact h
  · rw [hvalue]
    obtain rfl := eq_of_isSpelling hspelling hkey
    exact haccepts

/-- So do any number of assignments that fit. -/
theorem accepts_putAll {f : Field} {ws : Entries} (hws : ∀ w ∈ ws, Fits w) {es : Entries}
    (h : f.Accepts (f.rawValue es)) : f.Accepts (f.rawValue (putAll es ws)) := by
  induction ws generalizing es with
  | nil => exact h
  | cons w ws ih =>
    obtain ⟨hw, hrest⟩ := List.forall_mem_cons.1 hws
    exact ih hrest (accepts_put hw h)

/-- What a spelling was given most recently, if no assignment after the one shown is to the
    field. -/
theorem get?_history {f : Field} {key k : String} {after : Entries} (hk : f.isSpelling k = true)
    (hafter : ∀ w ∈ after, f.isSpelling w.1 = false) (es before : Entries) (value : Json) :
    get? (es ++ (before ++ (key, value) :: after)) k =
      if k = key then some value else get? (es ++ before) k := by
  have hnone : lastOf (· == k) after = none := by
    refine lastOf_eq_none_iff.2 ?_
    intro k' hk'
    obtain ⟨w, hw, rfl⟩ := List.mem_map.1 hk'
    have hne : w.1 ≠ k := by
      rintro rfl
      rw [hafter w hw] at hk
      cases hk
    simpa using hne
  unfold get?
  rw [← List.append_assoc, lastOf_append, lastOf_cons, hnone, Option.none_or]
  by_cases hkey : k = key
  · simp [hkey]
  · have hne : ¬ key = k := fun h => hkey h.symm
    simp [hkey, hne]

/-- The most recent assignment to a field is read if its spelling is the newest; otherwise the
    field reads what the newest one had been given before. -/
theorem newestValue_of_last_assignment {f : Field} {key : String} {after : Entries}
    (hkey : f.isSpelling key = true) (hafter : ∀ w ∈ after, f.isSpelling w.1 = false)
    (es before : Entries) (value : Json) :
    let history := es ++ (before ++ (key, value) :: after)
    (f.newestSpelling? (keys history) = some key ∧ f.newestValue history = value) ∨
      ∃ other, other ≠ key ∧ f.newestSpelling? (keys history) = some other ∧
        f.newestValue history = (get? (es ++ before) other).getD .null := by
  intro history
  have hmem : key ∈ keys history := by
    simp only [history, keys_append]
    exact List.mem_append_right _ (List.mem_append_right _ List.mem_cons_self)
  obtain ⟨k, hk⟩ := exists_newestSpelling? hmem hkey
  have hvalue : f.newestValue history = (get? history k).getD .null := by
    unfold newestValue
    rw [hk]
    rfl
  rw [hvalue, get?_history (mem_of_newestSpelling? hk).2 hafter]
  by_cases hsame : k = key
  · subst hsame
    rw [if_pos rfl]
    exact Or.inl ⟨hk, rfl⟩
  · rw [if_neg hsame]
    exact Or.inr ⟨k, hsame, hk, rfl⟩

end Field

/-! ## What assignments come to -/

/-- **The newest spelling decides.**  Assignments leave an object that is read as if every field
    stood in it once, with what its newest spelling was given most recently; input that was read is
    read still.  For a field that was not assigned, this is what it held before.  For a field that
    was, it is the most recent assignment if that was made under the newest spelling, as it was
    wherever the field has only one, and what the newest spelling had been given before if it was
    made under the other. -/
theorem newest_spelling_decides (entries writes : Entries) (hkeys : (keys entries).Nodup)
    (hwrites : ∀ w ∈ writes, Field.Fits w) :
    Scene.ofRaw (.obj (putAll entries writes)) =
      Scene.ofRaw (.obj (Field.all.map fun f => (f.name, f.newestValue (entries ++ writes)))) ∧
    ((∃ s, Scene.ofRaw (.obj entries) = .ok s) →
      ∃ s, Scene.ofRaw (.obj (putAll entries writes)) = .ok s) ∧
    ∀ f : Field,
      ((∀ w ∈ writes, f.isSpelling w.1 = false) →
        f.newestValue (entries ++ writes) = f.rawValue entries) ∧
      ∀ (before : Entries) (key : String) (value : Json) (after : Entries),
        writes = before ++ (key, value) :: after → f.isSpelling key = true →
        (∀ w ∈ after, f.isSpelling w.1 = false) →
        ((f.newestSpelling? (keys (entries ++ writes)) = some key ∧
            f.newestValue (entries ++ writes) = value) ∨
          ∃ other, other ≠ key ∧ f.newestSpelling? (keys (entries ++ writes)) = some other ∧
            f.newestValue (entries ++ writes) = (get? (entries ++ before) other).getD .null) ∧
        ((∀ k ∈ keys (entries ++ writes), f.isSpelling k = true → k = key) →
          f.newestValue (entries ++ writes) = value) := by
  refine ⟨?_, ?_, ?_⟩
  · refine Scene.ofRaw_congr fun f => ?_
    rw [f.rawValue_map_all, f.rawValue_putAll hkeys]
    exact .refl f _
  · rintro ⟨s, hs⟩
    obtain ⟨hacceptable, -⟩ := Scene.ofRaw_eq_ok_iff.1 hs
    have hfields : ∀ f : Field, f.Accepts (f.rawValue entries) := by
      rcases hacceptable with hnull | ⟨es, hobj, h⟩
      · cases hnull
      · cases hobj
        exact h
    exact ⟨_, Scene.ofRaw_eq_ok_iff.2
      ⟨Or.inr ⟨_, rfl, fun f => Field.accepts_putAll hwrites (hfields f)⟩, rfl⟩⟩
  · intro f
    refine ⟨?_, ?_⟩
    · intro hnone
      rw [← f.rawValue_putAll hkeys]
      unfold Field.rawValue
      rw [lastOf_putAll_of_forall_not hnone]
    · rintro before key value after rfl hkey hafter
      have hlast := Field.newestValue_of_last_assignment hkey hafter entries before value
      refine ⟨hlast, ?_⟩
      intro honly
      rcases hlast with ⟨-, hvalue⟩ | ⟨other, hne, hnewest, -⟩
      · exact hvalue
      · obtain ⟨hmem, hspelling⟩ := Field.mem_of_newestSpelling? hnewest
        exact absurd (honly other hmem hspelling) hne

/-- A heart that is assigned three times, the third time under its first spelling. -/
def threeHearts : Entries :=
  [("sceneHeart", .str "Noon"), ("scene_heart", .str "Dusk"), ("sceneHeart", .str "Dawn")]

/-- The three are texts, under spellings of the heart. -/
theorem fits_of_mem_threeHearts : ∀ w ∈ threeHearts, Field.Fits w := by
  have hheart : ∀ key text, Field.sceneHeart.isSpelling key = true →
      Field.Fits (key, .str text) := fun key text hkey =>
    ⟨.sceneHeart, hkey, Or.inr ⟨text, rfl⟩⟩
  intro w hw
  simp only [threeHearts, List.mem_cons, List.not_mem_nil, or_false] at hw
  rcases hw with rfl | rfl | rfl
  · exact hheart _ _ (by decide)
  · exact hheart _ _ (by decide)
  · exact hheart _ _ (by decide)

/-- The scene has a lens beside its hearts, and is edited once more. -/
theorem threeHearts_read_as_dusk :
    Scene.ofRaw (.obj (putAll [("lens", .str "deep")] threeHearts)) =
        .ok { sceneHeart := "Dusk", lens := "deep" } ∧
      (∃ s, Scene.ofRaw (.obj (putAll [("lens", .str "deep")] threeHearts)) = .ok s) ∧
      Field.lens.newestValue (("lens", .str "deep") :: threeHearts) = .str "deep" ∧
      Field.sceneHeart.newestValue (("lens", .str "deep") :: threeHearts) = .str "Dusk" ∧
      Field.sceneHeart.newestValue (("sceneHeart", .null) :: threeHearts.take 1) = .str "Noon" := by
  obtain ⟨hread, hstill, hfields⟩ := newest_spelling_decides [("lens", .str "deep")] threeHearts
    (by decide) fits_of_mem_threeHearts
  obtain ⟨-, -, hone⟩ := newest_spelling_decides [("sceneHeart", .null)] (threeHearts.take 1)
    (by decide) fun w hw => fits_of_mem_threeHearts w (List.mem_of_mem_take hw)
  refine ⟨hread.trans rfl, hstill ⟨_, rfl⟩, ?_, ?_, ?_⟩
  · exact (hfields .lens).1 (by decide)
  · obtain ⟨hlast, -⟩ := (hfields .sceneHeart).2 (threeHearts.take 2) "sceneHeart" (.str "Dawn") []
      rfl (by decide) (List.forall_mem_nil _)
    rcases hlast with ⟨hnewest, -⟩ | ⟨other, -, hnewest, hvalue⟩
    · exact absurd hnewest (by decide)
    · cases Option.some.inj ((show _ = some "scene_heart" by decide).symm.trans hnewest)
      exact hvalue
  · exact ((hone .sceneHeart).2 [] "sceneHeart" (.str "Noon") [] rfl (by decide)
      (List.forall_mem_nil _)).2 (by decide)

/-- **The most recent assignment may be lost.**  The heart was last assigned `Dawn` and reads
    `Dusk`.  No reader could do better: the object is the same as after the assignments `Dawn` and
    `Dusk`, in this order. -/
theorem assignment_to_older_spelling_is_lost :
    (¬ ∀ entries writes : Entries, (keys entries).Nodup → (∀ w ∈ writes, Field.Fits w) →
        ∀ (f : Field) (value : Json), lastOf f.isSpelling writes = some value →
          f.Alike (f.rawValue (putAll entries writes)) value) ∧
      lastOf Field.sceneHeart.isSpelling threeHearts = some (.str "Dawn") ∧
      Scene.ofRaw (.obj (putAll [] threeHearts)) = .ok { sceneHeart := "Dusk" } ∧
      putAll [] threeHearts =
        putAll [] [("sceneHeart", .str "Dawn"), ("scene_heart", .str "Dusk")] := by
  refine ⟨?_, rfl, rfl, rfl⟩
  intro h
  have hdawn : Field.sceneHeart.Alike _ _ :=
    h [] threeHearts List.nodup_nil fits_of_mem_threeHearts .sceneHeart (.str "Dawn") rfl
  have htexts : (Except.ok "Dusk" : Reading String) = .ok "Dawn" := hdawn
  exact absurd (Except.ok.inj htexts) (by decide)

end ScenePrompt
