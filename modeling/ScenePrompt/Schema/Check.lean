/-
  Holding a JSON value against a schema.

  A CHECK reads a value and answers either what it read or every violation it found.  Checks of
  the parts of a value are put together by `ap`, which does not stop at the first part that fails:
  violations are collected from left to right, so they come in the order in which the parts are
  declared, and depth first.  `ap` succeeds exactly when both parts do (`ap_eq_ok_iff`).

  Three conventions hold for entries of objects:

  * an entry may have several spellings; the first spelling that is PRESENT decides, whatever its
    value, and its own spelling stands in the path;
  * a required entry that is absent is reported under its first spelling, and an optional one
    takes its default, which is not checked;
  * entries that the schema does not know are ignored.
-/
import ScenePrompt.Schema.Violation

namespace ScenePrompt.Schema

/-- What was read, or every violation that was found. -/
abbrev Checked (α : Type) := Except (List Violation) α

/-- A way of reading a value. -/
abbrev Check (α : Type) := Json → Checked α

namespace Checked

variable {α β : Type}

/-- A single violation, here. -/
def fail (cause : Cause) : Checked α := .error [{ cause }]

/-- Apply what one part gave to what the next part gave, collecting the violations of both. -/
def ap (f : Checked (α → β)) (x : Checked α) : Checked β :=
  match f, x with
  | .ok g, .ok a => .ok (g a)
  | .ok _, .error vs => .error vs
  | .error us, .ok _ => .error us
  | .error us, .error vs => .error (us ++ vs)

/-- The same outcome, seen from one step further out. -/
def under (step : Step) (x : Checked α) : Checked α :=
  x.mapError (·.map (Violation.under step))

/-- Two parts are put together exactly when both are there. -/
theorem ap_eq_ok_iff {f : Checked (α → β)} {x : Checked α} {b : β} :
    ap f x = .ok b ↔ ∃ g a, f = .ok g ∧ x = .ok a ∧ g a = b := by
  cases f <;> cases x <;> simp [ap]

@[simp]
theorem ap_ok (g : α → β) (a : α) : ap (.ok g) (.ok a) = .ok (g a) := rfl

@[simp]
theorem under_ok (step : Step) (a : α) : under step (.ok a : Checked α) = .ok a := rfl

/-- A step in the path makes no difference to what succeeds. -/
theorem under_eq_ok_iff {step : Step} {x : Checked α} {a : α} :
    under step x = .ok a ↔ x = .ok a := by
  cases x with
  | error vs => exact ⟨(nomatch ·), (nomatch ·)⟩
  | ok b => exact Iff.rfl

end Checked

open Checked

variable {α β : Type}

/-! ## Single values -/

/-- Any text. -/
def text : Check String
  | .str s => .ok s
  | _ => fail .notString

/-- A text with at least one character. -/
def nonemptyText (v : Json) : Checked String :=
  match text v with
  | .ok s => if s = "" then fail .emptyString else .ok s
  | .error vs => .error vs

/-- One of the given texts. -/
def choice (choices : List String) : Check String
  | .str s => if s ∈ choices then .ok s else fail (.notChoice choices)
  | _ => fail (.notChoice choices)

/-- One of the named values. -/
def oneOf (table : List (String × α)) : Check α
  | .str s => match table.lookup s with
    | some a => .ok a
    | none => fail (.notChoice (table.map Prod.fst))
  | _ => fail (.notChoice (table.map Prod.fst))

/-- A value, or nothing. -/
def nullable (check : Check α) : Check (Option α)
  | .null => .ok none
  | v => (check v).map some

/-- The words that stand for a truth value, in any case of their ASCII letters. -/
def boolOfWord? (s : String) : Option Bool :=
  let word := s.map Char.toLower
  if ["0", "off", "f", "false", "n", "no"].contains word then some false
  else if ["1", "on", "t", "true", "y", "yes"].contains word then some true
  else none

/-- The first whole number that does not fit into a signed machine word. -/
def wordLimit : Int := 0x8000000000000000

/-- A whole number that stands for a truth value, if it is small enough to be considered. -/
def boolOfInt (n : Int) : Checked Bool :=
  if n = 0 then .ok false
  else if n = 1 then .ok true
  else if -wordLimit ≤ n ∧ n < wordLimit then fail .unreadableBool
  else fail .notBool

/-- A truth value, or a number or word that stands for one. -/
def truth : Check Bool
  | .bool b => .ok b
  | .str s => match boolOfWord? s with
    | some b => .ok b
    | none => fail .unreadableBool
  | .int n => boolOfInt n
  | .decimal x => match x.integral with
    | .whole n => if -wordLimit < n then boolOfInt n else fail .notBool
    | _ => fail .notBool
  | _ => fail .notBool

/-! ## Sequences -/

/-- Check every item, the first of them being number `i`. -/
def eachFrom (check : Check α) : Nat → List Json → Checked (List α)
  | _, [] => .ok []
  | i, v :: vs =>
    ap (((check v).under (.index i)).map List.cons) (eachFrom check (i + 1) vs)

/-- An array of any length. -/
def arrayOf (kind : Sequence) (check : Check α) : Check (List α)
  | .arr items => eachFrom check 0 items
  | _ => fail (.notSequence kind)

/-- An array of any length, reported as a list. -/
def listOf (check : Check α) : Check (List α) := arrayOf .list check

/-- An array of any length, reported as a tuple. -/
def tupleOf (check : Check α) : Check (List α) := arrayOf .tuple check

/-- An array of exactly `size` items.  Too many items are reported instead of what is wrong with
    them; too few only if nothing is wrong with them. -/
def listOfSize (size : Nat) (check : Check α) : Check (List α)
  | .arr items =>
    if size < items.length then fail (.tooMany .list size items.length)
    else match eachFrom check 0 items with
      | .ok xs => if items.length < size then fail (.tooFew .list size items.length) else .ok xs
      | .error vs => .error vs
  | _ => fail (.notSequence .list)

/-- The places from `i` on that are missing, `n` of them. -/
def missingFrom : Nat → Nat → List Violation
  | _, 0 => []
  | i, n + 1 => { cause := .missing, path := [.index i] } :: missingFrom (i + 1) n

/-- A tuple with exactly `size` places.  Too many items are reported instead of what is wrong with
    them; every missing place is reported after what is wrong with the present ones. -/
def tupleOfSize (size : Nat) (check : Check α) : Check (List α)
  | .arr items =>
    if size < items.length then fail (.tooMany .tuple size items.length)
    else
      -- the missing places count as one more part, checked after all items
      let absent : Checked Unit :=
        match missingFrom items.length (size - items.length) with
        | [] => .ok ()
        | vs => .error vs
      ap ((eachFrom check 0 items).map fun xs _ => xs) absent
  | _ => fail (.notSequence .tuple)

/-! ## Objects -/

/-- How a value that is no object is reported where one is expected: by the name of the sort of
    object, or as a value from which no entries can be taken. -/
inductive ObjectStyle where
  | named
  | attributes
  deriving DecidableEq, Repr

/-- An object whose entries are checked together. -/
def object (style : ObjectStyle) (name : String) (check : Entries → Checked α) : Check α
  | .obj entries => check entries
  | _ => match style with
    | .named => fail (.notInstance name)
    | .attributes => fail .notAttributes

/-- A required entry under the first of its spellings that is present. -/
def requiredEntry (entries : Entries) (spellings : List String) (check : Check α) : Checked α :=
  match entries.firstPresent? spellings with
  | some (key, v) => (check v).under (.key key)
  | none => (fail .missing).under (.key (spellings.headD ""))

/-- An optional entry under the first of its spellings that is present. -/
def optionalEntry (entries : Entries) (spellings : List String) (default : α) (check : Check α) :
    Checked α :=
  match entries.firstPresent? spellings with
  | some (key, v) => (check v).under (.key key)
  | none => .ok default

/-! ## What sequences accept -/

/-- Every item is accepted, and the results are theirs in order. -/
theorem eachFrom_eq_ok_iff {check : Check α} {i : Nat} {items : List Json} {xs : List α} :
    eachFrom check i items = .ok xs ↔ items.map check = xs.map .ok := by
  induction items generalizing i xs with
  | nil => cases xs <;> simp [eachFrom]
  | cons v vs ih =>
    rw [eachFrom, ap_eq_ok_iff]
    constructor
    · rintro ⟨g, a, hg, ha, rfl⟩
      cases hv : check v with
      | error e =>
        rw [hv] at hg
        exact nomatch hg
      | ok x =>
        simp only [hv, under_ok, Except.map, Except.ok.injEq] at hg
        subst hg
        simp [hv, ih.1 ha]
    · intro h
      cases xs with
      | nil => simp at h
      | cons x xs =>
        simp only [List.map_cons, List.cons.injEq] at h
        exact ⟨List.cons x, xs, by rw [h.1]; rfl, ih.2 h.2, rfl⟩

end ScenePrompt.Schema
