/-
  The compile gate.

  Of everything that raw input may say about a scene, two facts decide whether it is compiled:
  what its heart comes to when it is trimmed (`rawHeart`), and how many of its first five anchors
  hold ink (`rawFilledAnchors`).  Both are read off the input directly, by no path that a compile
  takes.

  On the way from there to an answer the input is read, eight rules have their say and the
  findings are sorted.  Reading keeps both facts (`sceneHeart_of_ofRaw`,
  `filledAnchorCount_of_ofRaw`): slots that are padded hold no ink.  No rule of the built-in table
  breaks on a scene that was read, because it has five slots.  And of the findings only those of the
  two hard rules are errors, whatever the soft rules make of the texts and thresholds
  (`filter_isHard_table`).  So the errors are `gateErrors` of the two facts, and the answer is a
  prompt if and only if there are none.
-/
import ScenePrompt.Proofs.Compile.Agreement
import ScenePrompt.Proofs.Rule.Emission
import ScenePrompt.Proofs.Scene.Acceptance
import ScenePrompt.Proofs.Schema.Settings

namespace ScenePrompt

open Outcome

/-! ## The two facts -/

/-- What the heart of raw input comes to. -/
def rawHeart (raw : Json) : String := (Field.sceneHeart.rawValue raw.entries).trimmed

/-- How many of the first five anchors of raw input are not blank. -/
def rawFilledAnchors (raw : Json) : Nat :=
  ((Field.environmentAnchors.rawValue raw.entries).items.take 5).countP (·.trimmed ≠ "")

section facts

variable {raw : Json} {s : Scene}

/-- Reading keeps the first fact: the heart of the scene is what the heart of the input comes to. -/
theorem Scene.sceneHeart_of_ofRaw (h : Scene.ofRaw raw = .ok s) : s.sceneHeart = rawHeart raw := by
  obtain ⟨-, rfl⟩ := Scene.ofRaw_eq_ok_iff.1 h
  rfl

/-- A trimmed text holds ink unless it is empty. -/
theorem Json.isBlankText_trimmed (v : Json) :
    (!Text.isBlankText v.trimmed) = decide (v.trimmed ≠ "") := by
  have h : Text.isBlankText v.trimmed = true ↔ v.trimmed = "" := by
    rw [← Text.trim_eq_empty, v.trim_trimmed]
  by_cases hv : v.trimmed = ""
  · rw [hv]
    rfl
  · have hink : Text.isBlankText v.trimmed = false := Bool.eq_false_iff.2 fun hb => hv (h.1 hb)
    rw [hink, decide_eq_true hv]
    rfl

/-- Reading keeps the second: as many slots hold ink as there are anchors among the first five that
    do.  Slots that are only padding hold none. -/
theorem Scene.filledAnchorCount_of_ofRaw (h : Scene.ofRaw raw = .ok s) :
    s.filledAnchorCount = rawFilledAnchors raw := by
  obtain ⟨-, rfl⟩ := Scene.ofRaw_eq_ok_iff.1 h
  -- the slots are the first five items, read, and padding behind them
  have hpadding : ∀ n, (List.replicate n "").countP (fun anchor => !Text.isBlankText anchor) = 0 :=
    fun n => by
      rw [List.countP_eq_zero]
      intro anchor hanchor
      rw [List.eq_of_mem_replicate hanchor]
      decide
  have hslots : ∀ vs : List Json,
      (vs.map Json.trimmed).countP (fun anchor => !Text.isBlankText anchor) =
        vs.countP (·.trimmed ≠ "") := fun vs => by
    rw [List.countP_map]
    exact List.countP_congr fun v _ => by
      show (!Text.isBlankText v.trimmed) = true ↔ _
      rw [v.isBlankText_trimmed]
  show (List.filter _ _).length = _
  rw [← List.countP_eq_length_filter, Scene.content, List.countP_append, hpadding, hslots]
  rfl

end facts

/-! ## Deciding by them -/

namespace CompileResult

/-- The answer is no prompt. -/
def isBlocked : CompileResult → Bool
  | ok _ _ => false
  | blocked _ _ => true

/-- What keeps the scene from being compiled. -/
def errors : CompileResult → List Diagnostic
  | ok _ _ => []
  | blocked errors _ => errors

end CompileResult

/-- The gate has no errors exactly if there is a heart and there are three anchors. -/
theorem gateErrors_eq_nil_iff {heart : String} {count : Nat} :
    gateErrors heart count = [] ↔ ¬ (heart = "" ∨ count < 3) := by
  unfold gateErrors
  -- each of the two conditions contributes its own error
  by_cases hheart : heart = ""
  · simp [hheart]
  · by_cases hfew : count < 3
    · simp [hfew]
    · simp [hheart, hfew]

/-- An answer is a prompt if and only if the validation has no errors, and it tells them. -/
theorem Validation.answer_gate {v : Validation} (hv : v.canCompile = true ↔ v.errors = [])
    (prompt : String) :
    ((v.answer prompt).isBlocked = true ↔ v.errors ≠ []) ∧ (v.answer prompt).errors = v.errors := by
  unfold Validation.answer
  -- the flag says which sort of answer it is, and the errors set the flag
  by_cases hpass : v.canCompile = true
  · rw [if_pos hpass]
    refine ⟨?_, (hv.1 hpass).symm⟩
    show false = true ↔ _
    simp [hv.1 hpass]
  · rw [if_neg hpass]
    refine ⟨?_, rfl⟩
    show true = true ↔ _
    simp [mt hv.2 hpass]

/-- The outcome is an answer, and the answer is what the two facts make it. -/
def GateDecides (raw : Json) (outcome : Except Fault CompileResult) : Prop :=
  ∃ result, outcome = .ok result ∧
    (result.isBlocked = true ↔ rawHeart raw = "" ∨ rawFilledAnchors raw < 3) ∧
    result.errors = gateErrors (rawHeart raw) (rawFilledAnchors raw)

/-- The built-in table lets the gate decide, whatever its thresholds. -/
theorem gateDecides_compile {raw : Json} {s : Scene} (hs : Scene.ofRaw raw = .ok s) (t : Thresholds)
    {defaultMode : String} {mode : Option String}
    (hmode : effectiveMode defaultMode mode ∈ Layout.names) :
    GateDecides raw (compile (Rule.table t) defaultMode mode raw) := by
  obtain ⟨l, hl⟩ := Layout.mem_names_iff.1 hmode
  have hslots : s.environmentAnchors.length = anchorSlots := (Scene.wellFormed_of_ofRaw hs).slots_eq
  obtain ⟨v, hv⟩ := exists_validate_table hslots t
  -- of all findings the errors are those of the two hard rules
  have herrors : v.errors = gateErrors (rawHeart raw) (rawFilledAnchors raw) := by
    rw [← Scene.sceneHeart_of_ofRaw hs, ← Scene.filledAnchorCount_of_ofRaw hs]
    exact errors_of_validate_table hslots hv
  obtain ⟨hblocked, htold⟩ := v.answer_gate (canCompile_of_validate hv) (s.prompt l)
  refine ⟨v.answer (s.prompt l), ?_, ?_, htold.trans herrors⟩
  · rw [compile_of_ofRaw hs hl.symm, hv]
    rfl
  · rw [hblocked, herrors, Ne, gateErrors_eq_nil_iff, Decidable.not_not]

/-- The layout that is used exists if the default and the one asked for do. -/
theorem effectiveMode_mem_names {defaultMode : String} {mode : Option String}
    (hdefault : defaultMode ∈ Layout.names) (hmode : ∀ m, mode = some m → m ∈ Layout.names) :
    effectiveMode defaultMode mode ∈ Layout.names := by
  cases mode with
  | none => exact hdefault
  | some m =>
    show (if m = "" then defaultMode else m) ∈ Layout.names
    split
    · exact hdefault
    · exact hmode m rfl

/-- Two answers that the same facts decide are alike. -/
theorem GateDecides.agree {raw raw' : Json} {outcome outcome' : Except Fault CompileResult}
    (h : GateDecides raw outcome) (h' : GateDecides raw' outcome')
    (hheart : rawHeart raw = "" ↔ rawHeart raw' = "")
    (hanchors : rawFilledAnchors raw = rawFilledAnchors raw') :
    ∃ result result', outcome = .ok result ∧ outcome' = .ok result' ∧
      result.isBlocked = result'.isBlocked ∧ result.errors = result'.errors := by
  obtain ⟨result, hresult, hblocked, herrors⟩ := h
  obtain ⟨result', hresult', hblocked', herrors'⟩ := h'
  refine ⟨result, result', hresult, hresult', ?_, ?_⟩
  · -- both flags are the same statement about the same two facts
    rw [Bool.eq_iff_iff, hblocked, hblocked', hheart, hanchors]
  · rw [herrors, herrors', gateErrors, gateErrors, hanchors]
    simp only [hheart]

/-! ## The gate -/

/-- **Two facts decide.**  Whatever is read is answered, under the built-in table with any
    thresholds and in any known layout: the answer is no prompt if and only if the heart is empty
    or fewer than three of the first five anchors hold ink, and the errors are those two and no
    others.  This holds of any settings that can be read, wherever they come from, and of any two
    scenes that agree on the two facts, whatever else they say and under whatever thresholds. -/
theorem compile_blocked_iff :
    (∀ (raw : Json) (s : Scene), Scene.ofRaw raw = .ok s →
      ∀ (t : Thresholds) (defaultMode : String) (mode : Option String),
        effectiveMode defaultMode mode ∈ Layout.names →
        GateDecides raw (compile (Rule.table t) defaultMode mode raw)) ∧
    (∀ (sources : Settings.Sources) (settings : Settings), Settings.load sources = .ok settings →
      ∀ (mode : Option String), (∀ m, mode = some m → m ∈ Layout.names) →
      ∀ (raw : Json) (s : Scene), Scene.ofRaw raw = .ok s →
        GateDecides raw
          (compile (Rule.table settings.thresholds) settings.defaultOutputMode mode raw)) ∧
    (∀ (raw raw' : Json) (s s' : Scene), Scene.ofRaw raw = .ok s → Scene.ofRaw raw' = .ok s' →
      (rawHeart raw = "" ↔ rawHeart raw' = "") → rawFilledAnchors raw = rawFilledAnchors raw' →
      ∀ (t t' : Thresholds) (defaultMode defaultMode' : String) (mode mode' : Option String),
        effectiveMode defaultMode mode ∈ Layout.names →
        effectiveMode defaultMode' mode' ∈ Layout.names →
        ∃ result result', compile (Rule.table t) defaultMode mode raw = .ok result ∧
          compile (Rule.table t') defaultMode' mode' raw' = .ok result' ∧
          result.isBlocked = result'.isBlocked ∧ result.errors = result'.errors) := by
  refine ⟨?_, ?_, ?_⟩
  · intro raw s hs t defaultMode mode hmode
    exact gateDecides_compile hs t hmode
  · intro sources settings hload mode hmode raw s hs
    -- settings that can be read name a layout that exists
    have hdefault := (Settings.valid_of_check hload).defaultOutputMode_mem
    exact gateDecides_compile hs settings.thresholds (effectiveMode_mem_names hdefault hmode)
  · intro raw raw' s s' hs hs' hheart hanchors t t' defaultMode defaultMode' mode mode' hmode hmode'
    have hdecided := gateDecides_compile hs t hmode
    have hdecided' := gateDecides_compile hs' t' hmode'
    exact hdecided.agree hdecided' hheart hanchors

/-- A scene with a blank heart and two filled slots; the third item with ink stands beyond the
    slots. -/
def sparse : Json :=
  .obj [("sceneHeart", .str " \t"), ("framing", .str " Wide "),
    ("environmentAnchors",
      .arr [.str " lamp ", .str "\n", .null, .str "sill", .str "", .str "rug"])]

/-- Another with the same two facts. -/
def sparser : Json := .obj [("environment_anchors", .arr [.null, .str "x", .str "x", .str "x"]),
  ("environmentAnchors", .arr [.str "things", .str "stuff"]), ("lens", .null)]

/-- Settings with one variable in the environment. -/
def sparseSources : Settings.Sources :=
  { environment := [("SCENECRAFT_MIN_MICRO_DETAILS", "+09")] }

/-- One scene under settings from the environment, two scenes with the same two facts, and the gate
    itself, all stopped for want of a heart and of a third anchor. -/
theorem sparse_blocked :
    (∃ result, compile (Rule.table { minMicroDetails := 9 }) "compact" none sparse = .ok result ∧
      result.isBlocked = true ∧ result.errors = [missingHeart, missingAnchors 2]) ∧
    (∃ result result',
      compile (Rule.table { minMicroDetails := -1 }) "compact" none sparse = .ok result ∧
      compile (Rule.table {}) "" (some "expanded") sparser = .ok result' ∧
      result.isBlocked = result'.isBlocked ∧ result.errors = result'.errors) ∧
    GateDecides sparse (compile (Rule.table {}) "compact" (some "expanded") sparse) := by
  have hload : Settings.load sparseSources = .ok { minMicroDetails := 9 } := rfl
  obtain ⟨s, hs⟩ : ∃ s, Scene.ofRaw sparse = .ok s := ⟨_, rfl⟩
  obtain ⟨s', hs'⟩ : ∃ s, Scene.ofRaw sparser = .ok s := ⟨_, rfl⟩
  have hblank : rawHeart sparse = "" := by decide
  have hblank' : rawHeart sparser = "" := by decide
  have hfilled : rawFilledAnchors sparse = rawFilledAnchors sparser := by decide
  obtain ⟨hgate, hsettings, hagree⟩ := compile_blocked_iff
  refine ⟨?_, ?_, ?_⟩
  · obtain ⟨result, hresult, hblocked, herrors⟩ :=
      hsettings sparseSources _ hload none (fun m hm => by cases hm) sparse s hs
    exact ⟨result, hresult, hblocked.2 (Or.inl hblank), herrors⟩
  · exact hagree sparse sparser s s' hs hs' (iff_of_true hblank hblank') hfilled _ _ _ _ _ _
      (by decide) (by decide)
  · exact hgate sparse s hs {} "compact" (some "expanded") (by decide)

end ScenePrompt
