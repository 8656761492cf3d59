/-
  A draft and the object that it was read from.

  The editor's object can be read in two ways.  It can be read as a scene at once, or it can first
  be held against the schema of drafts and the draft be written out and read.  The two ways look at
  the object differently.  The schema looks for a field under its name first and takes the editor's
  spelling only if that is absent, the reader takes the last entry under either; the schema forgets
  what it does not know, and writes null for what is absent.

  Still they come to the same, whenever each field stands under one spelling only
  (`draft_reads_as_its_object`).  Of two spellings there is then nothing to choose
  (`Field.rawValue_eq_firstPresent?`).  And what the schema lets through it lets through unchanged,
  in texts and in lists of texts.  Objects in the cast are the exception: they lose the parts that
  nobody reads, and are read alike without them (`CastEntry.castEntry_toJson`).

  A draft that was written out can hardly be malformed: the schema has looked at the shape of every
  field, and all that is left to fail is the name of a framing or of a lens
  (`SceneDraft.exists_ofRaw_iff`).
-/
import Mathlib.Data.List.Forall2
import ScenePrompt.Draft
import ScenePrompt.Proofs.Scene.Spelling

namespace ScenePrompt

open Schema Checked Outcome Entries

/-! ## One spelling of a field -/

/-- Where no spelling is present, none is found. -/
theorem Entries.firstPresent?_eq_none {es : Entries} {ks : List String}
    (h : ∀ k ∈ ks, get? es k = none) : firstPresent? es ks = none := by
  induction ks with
  | nil => rfl
  | cons k ks ih =>
    obtain ⟨hk, hks⟩ := List.forall_mem_cons.1 h
    unfold firstPresent?
    rw [hk]
    exact ih hks

/-- Where one of the spellings is present and no other, it is found. -/
theorem Entries.firstPresent?_of_only {es : Entries} {ks : List String} {key : String} {v : Json}
    (hmem : key ∈ ks) (hkey : get? es key = some v)
    (honly : ∀ k ∈ ks, k ≠ key → get? es k = none) : firstPresent? es ks = some (key, v) := by
  induction ks with
  | nil => cases hmem
  | cons k ks ih =>
    unfold firstPresent?
    by_cases hk : k = key
    · rw [hk, hkey]
    · have hnone : get? es k = none := honly k List.mem_cons_self hk
      have hrest : key ∈ ks := by
        rcases List.mem_cons.1 hmem with h | h
        · exact absurd h.symm hk
        · exact h
      rw [hnone]
      exact ih hrest fun k' hk' => honly k' (List.mem_cons_of_mem k hk')

/-- Nothing is found under a key exactly if no entry has it; an entry that holds null is found. -/
theorem Entries.get?_eq_none_iff {es : Entries} {key : String} :
    get? es key = none ↔ key ∉ keys es := by
  unfold get?
  rw [lastOf_eq_none_iff]
  constructor
  · intro h hmem
    simpa using h key hmem
  · intro h k hk
    have hne : k ≠ key := fun hkey => h (hkey ▸ hk)
    simpa using hne

/-- The object has no two keys that are different spellings of the field. -/
def Field.OneSpelling (f : Field) (es : Entries) : Prop :=
  ∀ k ∈ keys es, ∀ k' ∈ keys es, f.isSpelling k = true → f.isSpelling k' = true → k = k'

instance (f : Field) (es : Entries) : Decidable (f.OneSpelling es) := by
  unfold Field.OneSpelling
  infer_instance

/-- Under one spelling the first entry that is present is the last one. -/
theorem Field.rawValue_eq_firstPresent? {f : Field} {es : Entries} (h : f.OneSpelling es) :
    f.rawValue es = ((es.firstPresent? f.spellings).map Prod.snd).getD .null := by
  unfold rawValue
  rw [lastOf_eq_bind_get?]
  -- the last entry under any spelling: there is none, or it has the one spelling that is there
  cases hlast : ((keys es).filter f.isSpelling).getLast? with
  | none =>
    have hnone : (keys es).filter f.isSpelling = [] := List.getLast?_eq_none_iff.1 hlast
    have habsent : ∀ k ∈ f.spellings, get? es k = none := by
      intro k hk
      refine get?_eq_none_iff.2 fun hmem => ?_
      exact List.filter_eq_nil_iff.1 hnone k hmem (List.contains_iff_mem.2 hk)
    rw [firstPresent?_eq_none habsent]
    rfl
  | some key =>
    obtain ⟨hmem, hspelling⟩ := List.mem_filter.1 (List.mem_of_getLast? hlast)
    obtain ⟨v, hv⟩ := Option.ne_none_iff_exists'.1 fun hnone => get?_eq_none_iff.1 hnone hmem
    have honly : ∀ k ∈ f.spellings, k ≠ key → get? es k = none := by
      intro k hk hne
      refine get?_eq_none_iff.2 fun hkmem => hne ?_
      exact h k hkmem key hmem (List.contains_iff_mem.2 hk) hspelling
    rw [firstPresent?_of_only (List.contains_iff_mem.1 hspelling) hv honly]
    exact congrArg (·.getD .null) hv

/-! ## What a check lets through and how it is written -/

namespace Schema

variable {α : Type}

/-- What the check lets through is written as something that `R` relates to what was read. -/
def Reproduces (R : Json → Json → Prop) (check : Check α) (write : α → Json) : Prop :=
  ∀ v a, check v = .ok a → R (write a) v

/-- A text is written as it was read. -/
theorem reproduces_text : Reproduces Eq text Json.str := by
  intro v s h
  cases v with
  | str t =>
    cases h
    rfl
  | _ => cases h

variable {R : Json → Json → Prop} {check : Check α} {write : α → Json}

/-- With null let through besides, null is written as null. -/
theorem Reproduces.nullable (hnull : R .null .null) (h : Reproduces R check write) :
    Reproduces R (nullable check) fun o => o.elim .null write := by
  intro v o ho
  cases v with
  | null =>
    cases ho
    exact hnull
  | _ =>
    obtain ⟨a, ha, rfl⟩ := map_eq_ok_iff.1 ho
    exact h _ a ha

/-- What is let through as a list was one, and the items are written one by one. -/
theorem Reproduces.forall₂_of_listOf (h : Reproduces R check write) {v : Json} {xs : List α}
    (hxs : listOf check v = .ok xs) :
    ∃ items, v = .arr items ∧ List.Forall₂ R (xs.map write) items := by
  cases v with
  | arr items =>
    refine ⟨items, rfl, ?_⟩
    have heach : items.map check = xs.map .ok := eachFrom_eq_ok_iff.1 hxs
    clear hxs
    induction items generalizing xs with
    | nil =>
      obtain rfl : xs = [] := List.map_eq_nil_iff.1 heach.symm
      exact .nil
    | cons item items ih =>
      cases xs with
      | nil => cases heach
      | cons x xs =>
        obtain ⟨hitem, hrest⟩ := List.cons.inj heach
        exact .cons (h item x hitem) (ih hrest)
  | _ => cases hxs

/-- Where items are written as they were read, so are lists of them. -/
theorem Reproduces.listOf (h : Reproduces Eq check write) :
    Reproduces Eq (listOf check) fun xs => .arr (xs.map write) := by
  intro v xs hxs
  obtain ⟨items, rfl, hitems⟩ := h.forall₂_of_listOf hxs
  rw [List.forall₂_eq_eq_eq] at hitems
  exact congrArg Json.arr hitems

/-- An optional entry is written as the value that was found, and as null if none was. -/
theorem Reproduces.optionalEntry (hnull : R .null .null) (h : Reproduces R check write)
    {es : Entries} {spellings : List String} {o : Option α}
    (ho : optionalEntry es spellings none (Schema.nullable check) = .ok o) :
    R (o.elim .null write) (((es.firstPresent? spellings).map Prod.snd).getD .null) := by
  unfold Schema.optionalEntry at ho
  cases hfound : es.firstPresent? spellings with
  | none =>
    rw [hfound] at ho
    cases ho
    exact hnull
  | some kv =>
    rw [hfound] at ho
    exact h.nullable hnull _ o (under_eq_ok_iff.1 ho)

end Schema

/-- How an optional text is written, in the form in which `optionalEntry` needs it. -/
theorem Json.text?_eq_elim (o : Option String) : text? o = o.elim .null str := by
  cases o <;> rfl

/-! ## Cast entries -/

/-- A part of a cast member is written as what stood there. -/
theorem CastDraft.text?_eq_of_entry {es : Entries} {key : String} {o : Option String}
    (h : optionalEntry es [key] none (nullable text) = .ok o) :
    Json.text? o = (get? es key).getD .null := by
  have hkept : o.elim .null Json.str = ((es.firstPresent? [key]).map Prod.snd).getD .null :=
    reproduces_text.optionalEntry rfl h
  rw [Json.text?_eq_elim, hkept]
  unfold firstPresent?
  cases get? es key <;> rfl

/-- An object is no name, so the other arm of the union took it. -/
theorem CastEntry.exists_member_of_check {style : ObjectStyle} {es : Entries} {e : CastEntry}
    (h : CastEntry.check style (.obj es) = .ok e) :
    ∃ d, CastDraft.check style (.obj es) = .ok d ∧ CastEntry.member d = e := by
  simp only [CastEntry.check] at h
  split at h
  · rename_i d hd
    exact ⟨d, hd, Except.ok.inj h⟩
  · cases h

/-- A cast entry that was written out is read as the entry that it was made from. -/
theorem CastEntry.castEntry_toJson {style : ObjectStyle} {v : Json} {e : CastEntry}
    (h : CastEntry.check style v = .ok e) (i : Nat) :
    Reading.castEntry i e.toJson = Reading.castEntry i v := by
  cases v with
  | str s =>
    cases h
    rfl
  | obj es =>
    obtain ⟨d, hmember, rfl⟩ := CastEntry.exists_member_of_check h
    obtain ⟨_, wardrobe, h2, hwardrobe, rfl⟩ := ap_eq_ok_iff.1 hmember
    obtain ⟨_, description, h1, hdescription, rfl⟩ := ap_eq_ok_iff.1 h2
    obtain ⟨name, hname, rfl⟩ := map_eq_ok_iff.1 h1
    -- part by part: what was read under the key is written under it, and null if there was nothing
    have hparts : ∀ key text, Json.text? text = (get? es key).getD .null →
        Reading.text (.part Field.cast.name i key) (Json.text? text) =
          Reading.castPart i es key := by
      intro key text hkept
      rw [hkept]
      rfl
    unfold Reading.castEntry
    show (Reading.text _ (Json.text? name) >>= fun name =>
      Reading.text _ (Json.text? description) >>= fun description =>
      Reading.text _ (Json.text? wardrobe) >>= fun wardrobe => _) = _
    rw [hparts _ _ (CastDraft.text?_eq_of_entry hname),
      hparts _ _ (CastDraft.text?_eq_of_entry hdescription),
      hparts _ _ (CastDraft.text?_eq_of_entry hwardrobe)]
  | _ =>
    unfold CastEntry.check CastDraft.check at h
    cases style <;> cases h

/-- Cast entries that are read alike, one by one, are read alike in a row. -/
theorem Reading.castFrom_congr {vs ws : List Json}
    (h : List.Forall₂ (fun v w => ∀ i, castEntry i v = castEntry i w) vs ws) (i : Nat) :
    castFrom i vs = castFrom i ws := by
  induction h generalizing i with
  | nil => rfl
  | cons hitem _ ih =>
    unfold castFrom
    rw [hitem, ih]

/-- A cast that was written out is read as the cast was.  It need not be the same cast: parts of a
    member that nobody reads are gone, and parts that were absent have become null. -/
theorem reproduces_cast (style : ObjectStyle) :
    Reproduces Field.cast.Alike (listOf (CastEntry.check style)) fun es =>
      .arr (es.map CastEntry.toJson) := by
  have hentry : Reproduces (fun v w => ∀ i, Reading.castEntry i v = Reading.castEntry i w)
      (CastEntry.check style) CastEntry.toJson := fun v e h i => CastEntry.castEntry_toJson h i
  intro v es hes
  obtain ⟨items, rfl, hitems⟩ := hentry.forall₂_of_listOf hes
  show Reading.cast _ = Reading.cast _
  unfold Reading.cast Reading.list
  show (Reading.castFrom 0 _ >>= fun members => _) = Reading.castFrom 0 _ >>= fun members => _
  rw [Reading.castFrom_congr hitems 0]

/-! ## Drafts -/

namespace SceneDraft

/-- The value of a field as a draft is written. -/
def value (d : SceneDraft) (f : Field) : Json :=
  match f with
  | .sceneHeart => .text? d.sceneHeart
  | .framing => .text? d.framing
  | .lens => .text? d.lens
  | .cast => listJson CastEntry.toJson d.cast
  | .environmentAnchors => listJson Json.text? d.environmentAnchors
  | .microDetails => listJson Json.str d.microDetails
  | .mechanicLock => .text? d.mechanicLock
  | .focusTarget => .text? d.focusTarget

theorem rawValue_toJson (d : SceneDraft) (f : Field) : f.rawValue d.toJson.entries = d.value f :=
  f.rawValue_map_all d.value

/-- Every field of the draft is what the schema let through under that field. -/
structure ReadFrom (style : ObjectStyle) (es : Entries) (d : SceneDraft) : Prop where
  sceneHeart : entry es .sceneHeart text = .ok d.sceneHeart
  framing : entry es .framing text = .ok d.framing
  lens : entry es .lens text = .ok d.lens
  cast : entry es .cast (listOf (CastEntry.check style)) = .ok d.cast
  environmentAnchors : entry es .environmentAnchors (listOf (nullable text)) =
    .ok d.environmentAnchors
  microDetails : entry es .microDetails (listOf text) = .ok d.microDetails
  mechanicLock : entry es .mechanicLock text = .ok d.mechanicLock
  focusTarget : entry es .focusTarget text = .ok d.focusTarget

theorem readFrom_of_check {style : ObjectStyle} {es : Entries} {d : SceneDraft}
    (h : check style (.obj es) = .ok d) : d.ReadFrom style es := by
  -- the fields from the last to the first, as the checks are nested
  obtain ⟨_, focusTarget, h7, hfocusTarget, rfl⟩ := ap_eq_ok_iff.1 h
  obtain ⟨_, mechanicLock, h6, hmechanicLock, rfl⟩ := ap_eq_ok_iff.1 h7
  obtain ⟨_, microDetails, h5, hmicroDetails, rfl⟩ := ap_eq_ok_iff.1 h6
  obtain ⟨_, anchors, h4, hanchors, rfl⟩ := ap_eq_ok_iff.1 h5
  obtain ⟨_, cast, h3, hcast, rfl⟩ := ap_eq_ok_iff.1 h4
  obtain ⟨_, lens, h2, hlens, rfl⟩ := ap_eq_ok_iff.1 h3
  obtain ⟨_, framing, h1, hframing, rfl⟩ := ap_eq_ok_iff.1 h2
  obtain ⟨sceneHeart, hsceneHeart, rfl⟩ := map_eq_ok_iff.1 h1
  exact ⟨hsceneHeart, hframing, hlens, hcast, hanchors, hmicroDetails, hmechanicLock, hfocusTarget⟩

/-- An entry of a draft is written as what `R` relates to the value of its field. -/
theorem reproduces_entry {α : Type} {R : Json → Json → Prop} {check : Check α} {write : α → Json}
    (hnull : R .null .null) (h : Reproduces R check write) {es : Entries} {f : Field}
    (hone : f.OneSpelling es) {o : Option α} (ho : entry es f check = .ok o) :
    R (o.elim .null write) (f.rawValue es) := by
  rw [Field.rawValue_eq_firstPresent? hone]
  exact h.optionalEntry hnull ho

/-- How an optional list is written, in the form in which `optionalEntry` needs it. -/
theorem listJson_eq_elim {α : Type} (item : α → Json) (o : Option (List α)) :
    listJson item o = o.elim .null fun xs => .arr (xs.map item) := by
  cases o <;> rfl

/-- A field of a draft is read as the field of the object is. -/
theorem alike_value {style : ObjectStyle} {es : Entries} {d : SceneDraft}
    (h : d.ReadFrom style es) {f : Field} (hone : f.OneSpelling es) :
    f.Alike (d.value f) (f.rawValue es) := by
  have htext : ∀ o, entry es f text = .ok o → Json.text? o = f.rawValue es := by
    intro o ho
    rw [Json.text?_eq_elim]
    exact reproduces_entry rfl reproduces_text hone ho
  have hsame : d.value f = f.rawValue es → f.Alike (d.value f) (f.rawValue es) := by
    intro heq
    rw [heq]
    exact .refl f _
  cases f with
  | sceneHeart => exact hsame (htext _ h.sceneHeart)
  | framing => exact hsame (htext _ h.framing)
  | lens => exact hsame (htext _ h.lens)
  | cast =>
    -- members are read alike, although they are not written the same
    have hwritten : d.value .cast = _ := listJson_eq_elim _ _
    rw [hwritten]
    exact reproduces_entry (.refl .cast .null) (reproduces_cast style) hone h.cast
  | environmentAnchors =>
    refine hsame ((listJson_eq_elim _ _).trans ?_)
    have hitem : Json.text? = fun o => o.elim .null Json.str := funext Json.text?_eq_elim
    rw [hitem]
    exact reproduces_entry rfl (reproduces_text.nullable rfl).listOf hone h.environmentAnchors
  | microDetails =>
    refine hsame ((listJson_eq_elim _ _).trans ?_)
    exact reproduces_entry rfl reproduces_text.listOf hone h.microDetails
  | mechanicLock => exact hsame (htext _ h.mechanicLock)
  | focusTarget => exact hsame (htext _ h.focusTarget)

/-! ## How a draft can be malformed -/

/-- The framing and the lens, if there are any, come to nothing or to a known name when they are
    trimmed and lower-cased. -/
def ChoicesKnown (d : SceneDraft) : Prop :=
  (∀ t, d.framing = some t → Text.lower (Text.trim t) = "" ∨
    Text.lower (Text.trim t) ∈ ["tight", "medium", "wide"]) ∧
  ∀ t, d.lens = some t → Text.lower (Text.trim t) = "" ∨
    Text.lower (Text.trim t) ∈ ["shallow", "deep"]

theorem isText_text? (o : Option String) : (Json.text? o).IsText := by
  cases o with
  | none => exact Or.inl rfl
  | some s => exact Or.inr ⟨s, rfl⟩

/-- Of a choice the name has to be a known one, if there is a name. -/
theorem isChoice_text?_iff {known : List String} {o : Option String} :
    (Json.text? o).IsChoice known ↔
      ∀ t, o = some t → Text.lower (Text.trim t) = "" ∨ Text.lower (Text.trim t) ∈ known := by
  cases o with
  | none => exact iff_of_true (Or.inl rfl) fun t ht => by cases ht
  | some s => simp [Json.text?, Json.IsChoice]

/-- Names and members of a draft are written as acceptable cast entries. -/
theorem isCastEntry_toJson (e : CastEntry) : e.toJson.IsCastEntry := by
  cases e with
  | name s => exact Or.inr (Or.inl ⟨s, rfl⟩)
  | member d =>
    exact Or.inr (Or.inr ⟨_, rfl, isText_text? d.name, isText_text? d.description,
      isText_text? d.wardrobe⟩)

/-- A list of a draft is written as a list of items that each are what they should be. -/
theorem listJson_accepts {α : Type} {P : Json → Prop} {item : α → Json} (hitem : ∀ x, P (item x))
    (seen : List Json → List Json) (hseen : ∀ vs, ∀ v ∈ seen vs, v ∈ vs) (o : Option (List α)) :
    listJson item o = .null ∨ ∃ vs, listJson item o = .arr vs ∧ ∀ v ∈ seen vs, P v := by
  cases o with
  | none => exact Or.inl rfl
  | some xs =>
    refine Or.inr ⟨xs.map item, rfl, ?_⟩
    intro v hv
    obtain ⟨x, -, rfl⟩ := List.mem_map.1 (hseen _ v hv)
    exact hitem x

/-- All fields of a draft are of their shapes, except that its framing and its lens may be no
    known names. -/
theorem accepts_value_iff (d : SceneDraft) :
    (∀ f : Field, f.Accepts (d.value f)) ↔ d.ChoicesKnown := by
  constructor
  · intro h
    exact ⟨isChoice_text?_iff.1 (h .framing), isChoice_text?_iff.1 (h .lens)⟩
  · rintro ⟨hframing, hlens⟩ f
    cases f with
    | sceneHeart | mechanicLock | focusTarget => exact isText_text? _
    | framing => exact isChoice_text?_iff.2 hframing
    | lens => exact isChoice_text?_iff.2 hlens
    | cast => exact listJson_accepts isCastEntry_toJson id (fun _ _ => id) _
    | environmentAnchors =>
      exact listJson_accepts isText_text? (List.take 5) (fun _ _ => List.mem_of_mem_take) _
    | microDetails =>
      exact listJson_accepts (fun s => Or.inr ⟨s, rfl⟩) id (fun _ _ => id) _

/-- A draft that was written out is read unless its framing or its lens is no known name. -/
theorem exists_ofRaw_iff (d : SceneDraft) :
    (∃ s, Scene.ofRaw d.toJson = .ok s) ↔ d.ChoicesKnown := by
  rw [← d.accepts_value_iff]
  have hvalue : ∀ f : Field, f.rawValue d.toJson.entries = d.value f := d.rawValue_toJson
  constructor
  · rintro ⟨s, hs⟩ f
    rw [← hvalue]
    exact (Scene.ofRaw_obj_eq_ok_iff.1 hs).1 f
  · intro h
    refine ⟨_, Scene.ofRaw_obj_eq_ok_iff.2 ⟨fun f => ?_, rfl⟩⟩
    exact hvalue f ▸ h f

end SceneDraft

/-! ## The two ways -/

/-- **A draft reads as the object it was read from.**  If the schema of drafts accepts an object
    that gives each field under at most one spelling, then the draft written out and the object are
    read as the same scene, or fail with the same fault; hence they are validated and compiled
    alike, under any rules and in any layout. -/
theorem draft_reads_as_its_object (style : ObjectStyle) (es : Entries) (d : SceneDraft)
    (hcheck : SceneDraft.check style (.obj es) = .ok d) (hone : ∀ f : Field, f.OneSpelling es) :
    ((∃ s, Scene.ofRaw d.toJson = .ok s ∧ Scene.ofRaw (.obj es) = .ok s) ∨
      ∃ cause, Scene.ofRaw d.toJson = .error cause ∧ Scene.ofRaw (.obj es) = .error cause) ∧
    (∀ rules : List Rule, validateRaw rules d.toJson = validateRaw rules (.obj es)) ∧
    ∀ (rules : List Rule) (defaultMode : String) (mode : Option String),
      compile rules defaultMode mode d.toJson = compile rules defaultMode mode (.obj es) := by
  have hread : Scene.ofRaw d.toJson = Scene.ofRaw (.obj es) := by
    refine Scene.ofRaw_congr fun f => ?_
    have hvalue : f.rawValue d.toJson.entries = d.value f := d.rawValue_toJson f
    exact hvalue ▸ SceneDraft.alike_value (SceneDraft.readFrom_of_check hcheck) (hone f)
  refine ⟨?_, validateRaw_congr hread, compile_congr hread⟩
  rw [hread]
  cases Scene.ofRaw (.obj es) with
  | ok s => exact Or.inl ⟨s, rfl, rfl⟩
  | error cause => exact Or.inr ⟨cause, rfl, rfl⟩

/-- An object with one spelling of each field that it has, keys that nobody knows, a cast member
    without a name and an anchor beyond the slots. -/
def sketched : Entries :=
  [("sceneHeart", .str " Dusk "), ("mood", .int 3), ("micro_details", .null),
    ("cast", .arr [.str "Fennel", .obj [("age", .int 7), ("wardrobe", .str "scarf")]]),
    ("environmentAnchors", .arr [.null, .str "lamp", .null, .null, .null, .str "rug"])]

/-- The same with a framing that is none. -/
def misframed : Entries := ("framing", .str "Askew") :: sketched

/-- A draft is compiled as its object is, though it has lost two keys, a part of a cast member and
    the order of its fields.  Where the framing is no framing, both fail, with the fault spelled the
    same. -/
theorem sketched_reads_alike :
    (∃ d, SceneDraft.check .named (.obj sketched) = .ok d ∧
      compile [] "" (some "expanded") d.toJson = compile [] "" (some "expanded") (.obj sketched) ∧
      ∃ s, Scene.ofRaw d.toJson = .ok s ∧ Scene.ofRaw (.obj sketched) = .ok s) ∧
    ∃ d cause, SceneDraft.check .attributes (.obj misframed) = .ok d ∧
      Scene.ofRaw d.toJson = .error cause ∧ Scene.ofRaw (.obj misframed) = .error cause ∧
      cause = .notChoice (.field "framing") framings "askew" := by
  have hone : ∀ es, (∀ f ∈ Field.all, f.OneSpelling es) → ∀ f : Field, f.OneSpelling es :=
    fun es h f => h f f.mem_all
  refine ⟨⟨_, rfl, ?_, ?_⟩, ⟨_, .notChoice (.field "framing") framings "askew", rfl, ?_⟩⟩
  · exact (draft_reads_as_its_object .named sketched _ rfl
      (hone _ (by decide +kernel))).2.2 [] "" (some "expanded")
  · rcases (draft_reads_as_its_object .named sketched _ rfl
      (hone _ (by decide +kernel))).1 with h | ⟨cause, -, h⟩
    · exact h
    · cases h
  · rcases (draft_reads_as_its_object .attributes misframed _ rfl
      (hone _ (by decide +kernel))).1 with ⟨s, -, h⟩ | ⟨cause, h, h'⟩
    · cases h
    · have hcause : Scene.ofRaw (.obj misframed) =
          .error (.notChoice (.field "framing") framings "askew") := rfl
      rw [hcause] at h'
      cases h'
      exact ⟨h, hcause, rfl⟩

end ScenePrompt
