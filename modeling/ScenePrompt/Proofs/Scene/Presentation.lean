/-
  Presentation does not matter.

  One scene can be written in many ways.  `Edit` lists the ways of changing how an object is
  written, each in one direction: blanks put around a text anywhere in it, the value of a field
  rewritten, a field moved to its other spelling, a field that says nothing put in, a key put in
  that is no field.  Two objects are WRITTEN ALIKE when some of these changes, made one after
  another and forwards or backwards, lead from one to the other.

  A change of spelling is safe only if the field stands in the object once: of two entries for one
  field the later decides, and moving the earlier one behind it would show.  So what a change keeps
  is said together (`Keeps`): whether the object gives each field once, and, if it does, what every
  field reads.  That this is kept by one change is shown a constructor at a time
  (`Edit.keeps`); the relation is an equivalence, so it is kept by any number of changes, in either
  direction (`keeps_of_writtenAlike`).  Reading, and all that comes after it, sees no more.
-/
import Mathlib.Logic.Relation
import ScenePrompt.Proofs.Scene.Restyling
import ScenePrompt.Proofs.Scene.Spelling
import ScenePrompt.Rule.Table

namespace ScenePrompt

/-! ## Objects that give each field once -/

/-- No field has more than one entry, under whichever of its spellings. -/
def Entries.GivenOnce (es : Entries) : Prop := ∀ f : Field, es.keys.countP f.isSpelling ≤ 1

instance (es : Entries) : Decidable es.GivenOnce :=
  decidable_of_iff (∀ f ∈ Field.all, es.keys.countP f.isSpelling ≤ 1)
    ⟨fun h f => h f f.mem_all, fun h f _ => h f⟩

namespace Entries

section inserted

variable {p : String → Bool} {xs ys : Entries} {k : String}

theorem keys_inserted (xs : Entries) (k : String) (v : Json) (ys : Entries) :
    keys (xs ++ (k, v) :: ys) = keys xs ++ k :: keys ys :=
  keys_append xs ((k, v) :: ys)

/-- An entry that is put in adds to the count of its own keys and to no other. -/
theorem countP_keys_inserted (p : String → Bool) (xs : Entries) (k : String) (v : Json)
    (ys : Entries) :
    (keys (xs ++ (k, v) :: ys)).countP p =
      (keys (xs ++ ys)).countP p + if p k = true then 1 else 0 := by
  rw [keys_inserted, keys_append, List.countP_append, List.countP_append, List.countP_cons]
  omega

/-- An entry under a key that is not asked for is passed over. -/
theorem lastOf_inserted_of_not (hk : p k = false) (v : Json) :
    lastOf p (xs ++ (k, v) :: ys) = lastOf p (xs ++ ys) := by
  simp [lastOf_append, lastOf_cons, hk]

/-- The only entry under a key that is asked for is found, wherever it stands. -/
theorem lastOf_inserted_of_absent (hk : p k = true) (habsent : (keys (xs ++ ys)).countP p = 0)
    (v : Json) : lastOf p (xs ++ (k, v) :: ys) = some v := by
  have hnone : lastOf p (xs ++ ys) = none := by
    rw [lastOf_eq_none_iff]
    intro key hkey
    have hnot := List.countP_eq_zero.1 habsent key hkey
    simpa using hnot
  rw [lastOf_append, Option.or_eq_none_iff] at hnone
  rw [lastOf_append, lastOf_cons, hnone.1, hnone.2, if_pos hk]
  rfl

end inserted

/-- What stands beside the only entry of a field is of other fields. -/
theorem GivenOnce.countP_eq_zero {f : Field} {xs ys : Entries} {k : String} {v : Json}
    (h : GivenOnce (xs ++ (k, v) :: ys)) (hk : f.isSpelling k = true) :
    (keys (xs ++ ys)).countP f.isSpelling = 0 := by
  have hone := h f
  rw [countP_keys_inserted, if_pos hk] at hone
  omega

end Entries

/-! ## Changes to how an object is written -/

open Entries

/-- A change to how an object is written. -/
inductive Edit : Entries → Entries → Prop
  /-- blanks are put around a text -/
  | padded {v w : Json} (xs : Entries) (k : String) (ys : Entries) :
    v.Padded w → Edit (xs ++ (k, v) :: ys) (xs ++ (k, w) :: ys)
  /-- the value of a field is rewritten -/
  | restyled {f : Field} {k : String} {v w : Json} (xs ys : Entries) :
    f.isSpelling k = true → f.Restyled v w → Edit (xs ++ (k, v) :: ys) (xs ++ (k, w) :: ys)
  /-- a field goes to another of its spellings, and perhaps to another place -/
  | respelled {f : Field} {k k' : String} (xs ys xs' ys' : Entries) (v : Json) :
    f.isSpelling k = true → f.isSpelling k' = true → xs ++ ys = xs' ++ ys' →
    Edit (xs ++ (k, v) :: ys) (xs' ++ (k', v) :: ys')
  /-- a field that is absent is put in and says nothing -/
  | filled {f : Field} {k : String} {v : Json} (xs ys : Entries) :
    (∀ key ∈ keys (xs ++ ys), f.isSpelling key = false) → f.isSpelling k = true → f.IsEmpty v →
    Edit (xs ++ ys) (xs ++ (k, v) :: ys)
  /-- a key that is no field is put in -/
  | foreign {k : String} (xs : Entries) (v : Json) (ys : Entries) :
    (∀ f : Field, f.isSpelling k = false) → Edit (xs ++ ys) (xs ++ (k, v) :: ys)

/-- Changes lead from one object to the other, each made forwards or backwards. -/
def WrittenAlike : Entries → Entries → Prop := Relation.EqvGen Edit

/-! ## What a change keeps -/

/-- Both objects give each field once or neither does; and if they do, every field reads alike. -/
structure Keeps (es es' : Entries) : Prop where
  givenOnce_iff : es.GivenOnce ↔ es'.GivenOnce
  readsAlike : es.GivenOnce → ∀ f : Field, f.ReadsAlike (f.rawValue es) (f.rawValue es')

namespace Keeps

variable {es es' es'' : Entries}

theorem refl (es : Entries) : Keeps es es := ⟨Iff.rfl, fun _ f => .refl f _⟩

/-- What is kept is kept backwards as well.  This is why both objects are asked to give each field
    once or neither: a change made backwards starts from the other. -/
theorem symm (h : Keeps es es') : Keeps es' es :=
  ⟨h.givenOnce_iff.symm, fun honce f => (h.readsAlike (h.givenOnce_iff.2 honce) f).symm⟩

theorem trans (h : Keeps es es') (h' : Keeps es' es'') : Keeps es es'' := by
  refine ⟨h.givenOnce_iff.trans h'.givenOnce_iff, ?_⟩
  intro honce f
  exact (h.readsAlike honce f).trans (h'.readsAlike (h.givenOnce_iff.1 honce) f)

end Keeps

namespace Edit

/-- Another value under a key makes no difference but to the field of the key. -/
theorem keeps_of_replaced {k : String} {v w : Json} (xs ys : Entries)
    (h : ∀ f : Field, f.isSpelling k = true → f.ReadsAlike v w) :
    Keeps (xs ++ (k, v) :: ys) (xs ++ (k, w) :: ys) := by
  constructor
  · unfold GivenOnce
    rw [keys_inserted, keys_inserted]
  · intro _ f
    unfold Field.rawValue
    -- the field does not read this entry, or it reads the old value and then the new one
    rcases lastOf_replaced f.isSpelling xs k v w ys with hsame | ⟨hk, hv, hw⟩
    · rw [hsame]
      exact .refl f _
    · rw [hv, hw]
      exact h f hk

/-- The only entry of a field may go to another spelling and to another place, since no other entry
    of the field is there to come before it or after it. -/
theorem keeps_of_respelled {f : Field} {k k' : String} {xs ys xs' ys' : Entries} (v : Json)
    (hk : f.isSpelling k = true) (hk' : f.isSpelling k' = true) (hrest : xs ++ ys = xs' ++ ys') :
    Keeps (xs ++ (k, v) :: ys) (xs' ++ (k', v) :: ys') := by
  -- both keys are asked for by the same fields
  have hsame : ∀ g : Field, g.isSpelling k = g.isSpelling k' := by
    intro g
    rw [Bool.eq_iff_iff]
    constructor
    · intro hg
      rwa [Field.eq_of_isSpelling hg hk]
    · intro hg
      rwa [Field.eq_of_isSpelling hg hk']
  constructor
  · unfold GivenOnce
    simp only [countP_keys_inserted, hrest, hsame]
  · intro honce g
    unfold Field.rawValue
    -- for the field that moves, the moved entry is the only one at either place
    by_cases hg : g.isSpelling k = true
    · have habsent := honce.countP_eq_zero hg
      have habsent' := habsent
      rw [hrest] at habsent'
      rw [lastOf_inserted_of_absent hg habsent, lastOf_inserted_of_absent (hsame g ▸ hg) habsent']
      exact .refl g _
    · have hnot : g.isSpelling k = false := Bool.eq_false_iff.2 hg
      rw [lastOf_inserted_of_not hnot, lastOf_inserted_of_not (hsame g ▸ hnot), hrest]
      exact .refl g _

/-- An entry that says nothing, of a field that was absent, reads as the absence did. -/
theorem keeps_of_filled {f : Field} {k : String} {v : Json} {xs ys : Entries}
    (habsent : ∀ key ∈ keys (xs ++ ys), f.isSpelling key = false) (hk : f.isSpelling k = true)
    (hempty : f.IsEmpty v) : Keeps (xs ++ ys) (xs ++ (k, v) :: ys) := by
  have hnone : (keys (xs ++ ys)).countP f.isSpelling = 0 := by
    rw [List.countP_eq_zero]
    intro key hkey
    rw [habsent key hkey]
    decide
  have hother : ∀ g : Field, g ≠ f → g.isSpelling k = false := by
    intro g hne
    exact Bool.eq_false_iff.2 fun hg => hne (Field.eq_of_isSpelling hg hk)
  constructor
  · unfold GivenOnce
    refine forall_congr' fun g => ?_
    rw [countP_keys_inserted]
    by_cases hg : g = f
    · subst hg
      rw [if_pos hk, hnone]
      omega
    · simp [hother g hg]
  · intro _ g
    unfold Field.rawValue
    by_cases hg : g = f
    · subst hg
      have hnot : lastOf g.isSpelling (xs ++ ys) = none := lastOf_eq_none_iff.2 habsent
      rw [hnot, lastOf_inserted_of_absent hk hnone]
      exact hempty.readsAlike_null
    · rw [lastOf_inserted_of_not (hother g hg)]
      exact .refl g _

/-- A key that is no field is asked for by none. -/
theorem keeps_of_foreign {k : String} {xs ys : Entries} (v : Json)
    (hk : ∀ f : Field, f.isSpelling k = false) : Keeps (xs ++ ys) (xs ++ (k, v) :: ys) := by
  constructor
  · unfold GivenOnce
    simp [countP_keys_inserted, hk]
  · intro _ f
    unfold Field.rawValue
    rw [lastOf_inserted_of_not (hk f)]
    exact .refl f _

/-- One change keeps what every field reads. -/
theorem keeps {es es' : Entries} (h : Edit es es') : Keeps es es' := by
  cases h with
  | padded xs k ys hpadded => exact keeps_of_replaced xs ys fun f _ => hpadded.readsAlike f
  | restyled xs ys hk hrestyled =>
    refine keeps_of_replaced xs ys fun g hg => ?_
    rw [Field.eq_of_isSpelling hg hk]
    exact hrestyled.readsAlike
  | respelled xs ys xs' ys' v hk hk' hrest => exact keeps_of_respelled v hk hk' hrest
  | filled xs ys habsent hk hempty => exact keeps_of_filled habsent hk hempty
  | foreign xs v ys hk => exact keeps_of_foreign v hk

end Edit

/-- Any number of changes keeps it, forwards and backwards. -/
theorem keeps_of_writtenAlike {es es' : Entries} (h : WrittenAlike es es') : Keeps es es' := by
  induction h with
  | rel _ _ hedit => exact hedit.keeps
  | refl es => exact .refl es
  | symm _ _ _ ih => exact ih.symm
  | trans _ _ _ _ _ ih ih' => exact ih.trans ih'

/-- **Presentation does not matter.**  An object that is read and gives each field once, and any
    object written alike, are read as the same scene; so under every table and in every mode they
    are compiled with the same result. -/
theorem compile_of_writtenAlike (es es' : Entries) (s : Scene)
    (hread : Scene.ofRaw (.obj es) = .ok s) (honce : es.GivenOnce) (halike : WrittenAlike es es') :
    Scene.ofRaw (.obj es') = .ok s ∧
      ∀ (rules : List Rule) (defaultMode : String) (mode : Option String),
        compile rules defaultMode mode (.obj es') = compile rules defaultMode mode (.obj es) := by
  have hkeeps := keeps_of_writtenAlike halike
  have hread' : Scene.ofRaw (.obj es') = .ok s :=
    Scene.ofRaw_eq_ok_of_readsAlike (hkeeps.readsAlike honce) hread
  refine ⟨hread', ?_⟩
  intro rules defaultMode mode
  exact compile_congr (hread'.trans hread.symm) rules defaultMode mode

/-- The part of a scene that is going to be rewritten. -/
def lensCastAnchors (lens : String) (cast anchors : List Json) : Entries :=
  [("lens", .str lens), ("cast", .arr cast), ("environmentAnchors", .arr anchors)]

/-- The same part, and a heart behind it. -/
def dressedDusk (lens : String) (cast anchors : List Json) : Entries :=
  lensCastAnchors lens cast anchors ++ [("scene_heart", .str " Dusk ")]

/-- A scene with a field that says nothing. -/
def plainDusk : Entries :=
  ("framing", .null) :: ("sceneHeart", .str "Dusk") ::
    lensCastAnchors "deep" [.str "Fennel"] [.str "lamp"]

/-- The same scene in other words. -/
def fancyDusk : Entries :=
  ("note", .int 1) ::
    dressedDusk "DEEP" [.null, .obj [("name", .str "Fennel")]] [.str "lamp", .str "\t"]

/-- One change of every sort, the first of them backwards, leads from the plain object to the fancy
    one, and they compile the same. -/
theorem plainDusk_fancyDusk_alike :
    plainDusk.GivenOnce ∧ WrittenAlike plainDusk fancyDusk ∧
      Scene.ofRaw (.obj fancyDusk) = Scene.ofRaw (.obj plainDusk) ∧
      compile (Rule.table {}) "compact" none (.obj fancyDusk) =
        compile (Rule.table {}) "compact" none (.obj plainDusk) := by
  have honce : plainDusk.GivenOnce := by decide
  obtain ⟨s, hread⟩ : ∃ s, Scene.ofRaw (.obj plainDusk) = .ok s := ⟨_, rfl⟩
  have hdusk : String.ofList [' '] ++ "Dusk" ++ String.ofList [' '] = " Dusk " := by decide
  have hspace : ∀ c ∈ [' '], Text.isBlank c = true := List.forall_mem_singleton.2 rfl
  have hpadded : (Json.str "Dusk").Padded (.str " Dusk ") :=
    hdusk ▸ .text "Dusk" hspace hspace
  have hfree : ∀ f : Field, f.isSpelling "note" = false := by
    intro f
    cases f <;> decide
  let fennel : Json := .obj [("name", .str "Fennel")]
  -- one change of each sort; the first is made backwards
  have habsent : Edit plainDusk.tail plainDusk :=
    .filled (f := .framing) [] plainDusk.tail (by decide) (by decide) (Or.inl rfl)
  have hblanks : Edit plainDusk.tail (("sceneHeart", .str " Dusk ") :: plainDusk.tail.tail) :=
    .padded [] "sceneHeart" plainDusk.tail.tail hpadded
  have hspelling : Edit (("sceneHeart", .str " Dusk ") :: plainDusk.tail.tail)
      (dressedDusk "deep" [.str "Fennel"] [.str "lamp"]) :=
    .respelled (f := .sceneHeart) [] _ _ [] _ (by decide) (by decide) (List.append_nil _).symm
  have hcase : Edit (dressedDusk "deep" [.str "Fennel"] [.str "lamp"])
      (dressedDusk "DEEP" [.str "Fennel"] [.str "lamp"]) :=
    .restyled (f := .lens) [] _ (by decide) (.recased (Or.inr rfl) (by decide))
  have hname : Edit (dressedDusk "DEEP" [.str "Fennel"] [.str "lamp"])
      (dressedDusk "DEEP" [fennel] [.str "lamp"]) :=
    .restyled (f := .cast) [("lens", _)] _ (by decide) (.nameAlone [] "Fennel" [])
  have hmember : Edit (dressedDusk "DEEP" [fennel] [.str "lamp"])
      (dressedDusk "DEEP" [.null, fennel] [.str "lamp"]) :=
    .restyled (f := .cast) [("lens", _)] _ (by decide) (.blankMember [] _ (Or.inl (Or.inl rfl)))
  have hanchor : Edit (dressedDusk "DEEP" [.null, fennel] [.str "lamp"])
      (dressedDusk "DEEP" [.null, fennel] [.str "lamp", .str "\t"]) :=
    .restyled (f := .environmentAnchors) [("lens", _), ("cast", _)] _ (by decide)
      (.blankAnchor [.str "lamp"] (by decide) (Or.inr ⟨"\t", rfl, by decide⟩))
  have hnote : Edit (dressedDusk "DEEP" [.null, fennel] [.str "lamp", .str "\t"]) fancyDusk :=
    .foreign [] (.int 1) _ hfree
  have halike : WrittenAlike plainDusk fancyDusk :=
    .trans _ _ _ (.symm _ _ (.rel _ _ habsent)) (.trans _ _ _ (.rel _ _ hblanks)
      (.trans _ _ _ (.rel _ _ hspelling) (.trans _ _ _ (.rel _ _ hcase)
        (.trans _ _ _ (.rel _ _ hname) (.trans _ _ _ (.rel _ _ hmember)
          (.trans _ _ _ (.rel _ _ hanchor) (.rel _ _ hnote)))))))
  obtain ⟨hread', hcompile⟩ := compile_of_writtenAlike plainDusk fancyDusk s hread honce halike
  exact ⟨honce, halike, hread'.trans hread.symm, hcompile _ _ _⟩

end ScenePrompt
