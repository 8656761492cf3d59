/-
  JSON values, and what is read out of an object.

  Scenes arrive as JSON from an editor or from another program, and nothing is known about their
  shape beforehand, so the value type is the dynamic one.  Two of its choices matter:

  * numbers come in two sorts — whole ones, of any size, and ones written with a fraction or an
    exponent — because messages tell the two apart.  To the second sort belong three values that
    many writers of JSON have names for and that no digits spell: the two infinities, and the
    result of an undefined computation;
  * an object is the LIST OF ITS ENTRIES in the order in which they were first written, because a
    scene may name one field in two spellings and the later entry decides.

  A text is a sequence of Unicode characters.  Some programs also pass texts on that hold half of a
  surrogate pair, which JSON can write down with an escape; no value here stands for such a text,
  so what happens to it is OUTSIDE THIS MODEL, and the reader refuses it (`Reader.unit?`).

  Everything read from an object goes through `Entries.lastOf`, the value of the last entry whose
  key satisfies a test: `get?` tests for one key, and the scene fields test for either spelling.
  `Entries.put` writes a key: a key that is present keeps its place and gets the new value, a new
  key goes to the end.  Objects built by `put` never hold a key twice (`nodup_keys_put`), and
  there `get?` reads back what `put` wrote (`get?_put`).
-/
import ScenePrompt.Json.Decimal

namespace ScenePrompt

/-- The numbers that no digits spell. -/
inductive NonFinite where
  | infinity | negativeInfinity | notANumber
  deriving DecidableEq, Repr

/-- A JSON value. -/
inductive Json where
  | null
  | bool (b : Bool)
  | int (n : Int)
  | decimal (x : Decimal)
  | nonFinite (x : NonFinite)
  | str (s : String)
  | arr (items : List Json)
  | obj (entries : List (String × Json))
  deriving Inhabited

/-- The entries of an object, in the order in which their keys were first written. -/
abbrev Entries := List (String × Json)

namespace Entries

/-! ## Reading -/

/-- The value of the last entry whose key satisfies `p`. -/
def lastOf (p : String → Bool) : Entries → Option Json
  | [] => none
  | (k, v) :: rest =>
    match lastOf p rest with
    | some w => some w
    | none => if p k then some v else none

/-- The value under a key. -/
def get? (entries : Entries) (key : String) : Option Json := lastOf (· == key) entries

/-- The keys, in order. -/
def keys (entries : Entries) : List String := entries.map Prod.fst

/-- The first of the spellings that is present, with its value. -/
def firstPresent? (entries : Entries) : List String → Option (String × Json)
  | [] => none
  | k :: ks =>
    match get? entries k with
    | some v => some (k, v)
    | none => firstPresent? entries ks

/-! ## Writing -/

/-- Write a key: in place if it is present, at the end if it is not. -/
def put (key : String) (value : Json) : Entries → Entries
  | [] => [(key, value)]
  | (k, v) :: rest => if k = key then (k, value) :: rest else (k, v) :: put key value rest

/-- Write several keys in turn. -/
def putAll (entries : Entries) (writes : Entries) : Entries :=
  writes.foldl (fun es w => put w.1 w.2 es) entries

/-- The entries that result from writing pairs in turn: a repeated key keeps its first place and
    its last value. -/
def ofPairs (pairs : List (String × Json)) : Entries := putAll [] pairs

/-! ## What was written is read back -/

@[simp]
theorem lastOf_nil (p : String → Bool) : lastOf p [] = none := rfl

/-- The first entry counts only if no later one does. -/
theorem lastOf_cons (p : String → Bool) (k : String) (v : Json) (rest : Entries) :
    lastOf p ((k, v) :: rest) = (lastOf p rest).or (if p k then some v else none) := by
  simp only [lastOf]
  cases lastOf p rest <;> rfl

/-- No entry has a key of the sort looked for. -/
theorem lastOf_eq_none_iff {p : String → Bool} {entries : Entries} :
    lastOf p entries = none ↔ ∀ k ∈ keys entries, p k = false := by
  induction entries with
  | nil => simp [keys]
  | cons e rest ih =>
    obtain ⟨k, v⟩ := e
    rw [lastOf_cons, Option.or_eq_none_iff, ih]
    cases hk : p k <;> simp [keys, hk]

/-- Appended entries decide where they say anything. -/
theorem lastOf_append (p : String → Bool) (xs ys : Entries) :
    lastOf p (xs ++ ys) = (lastOf p ys).or (lastOf p xs) := by
  induction xs with
  | nil => simp
  | cons e rest ih =>
    obtain ⟨k, v⟩ := e
    rw [List.cons_append, lastOf_cons, ih, lastOf_cons, Option.or_assoc]

/-- A key that is there keeps its place, and a new one goes to the end. -/
theorem keys_put (key : String) (value : Json) (entries : Entries) :
    keys (put key value entries) =
      if key ∈ keys entries then keys entries else keys entries ++ [key] := by
  induction entries with
  | nil => simp [put, keys]
  | cons e rest ih =>
    obtain ⟨k, v⟩ := e
    by_cases hk : k = key
    · subst hk
      simp [put, keys]
    · have hk' : key ≠ k := fun h => hk h.symm
      have hput : keys (put key value ((k, v) :: rest)) = k :: keys (put key value rest) := by
        simp [put, hk, keys]
      have hmem : key ∈ keys ((k, v) :: rest) ↔ key ∈ keys rest := by simp [keys, hk']
      rw [hput, ih]
      simp only [hmem]
      split <;> rfl

/-- Writing keeps the keys distinct. -/
theorem nodup_keys_put {key : String} {value : Json} {entries : Entries}
    (h : (keys entries).Nodup) : (keys (put key value entries)).Nodup := by
  rw [keys_put]
  by_cases hmem : key ∈ keys entries
  · rwa [if_pos hmem]
  · rw [if_neg hmem, List.nodup_append]
    refine ⟨h, by simp, ?_⟩
    intro a ha b hb
    rw [List.mem_singleton] at hb
    rintro rfl
    exact hmem (hb ▸ ha)

/-- Reading after a write, in an object whose keys are distinct. -/
theorem get?_put {entries : Entries} (h : (keys entries).Nodup) (key key' : String)
    (value : Json) :
    get? (put key value entries) key' = if key' = key then some value else get? entries key' := by
  induction entries with
  | nil =>
    by_cases hk : key' = key
    · subst hk
      simp [put, get?, lastOf]
    · have hk' : ¬ key = key' := fun h => hk h.symm
      simp [put, get?, lastOf, hk, hk']
  | cons e rest ih =>
    obtain ⟨k, v⟩ := e
    have hrest : (keys rest).Nodup := (List.nodup_cons.1 h).2
    have hnot : k ∉ keys rest := (List.nodup_cons.1 h).1
    have hread : lastOf (· == k) rest = none :=
      lastOf_eq_none_iff.2 fun x hx => by
        have : x ≠ k := fun hxk => hnot (hxk ▸ hx)
        simpa using this
    by_cases hk : k = key
    · subst hk
      by_cases hk' : key' = k
      · subst hk'
        simp [put, get?, lastOf_cons, hread]
      · have hk'' : ¬ k = key' := fun h => hk' h.symm
        simp [put, get?, lastOf_cons, hk', hk'']
    · have ih' := ih hrest
      simp only [get?] at ih' ⊢
      simp only [put, hk, if_false, lastOf_cons, ih']
      by_cases hk' : key' = key
      · simp [hk']
      · simp [hk']

end Entries

/-! ## Kinds of values -/

namespace Json

/-- The sort of a value, as messages name it. -/
inductive Kind where
  | null | boolean | whole | fractional | text | list | object
  deriving DecidableEq, Repr

/-- The name of a kind in messages. -/
def Kind.name : Kind → String
  | .null => "NoneType"
  | .boolean => "bool"
  | .whole => "int"
  | .fractional => "float"
  | .text => "str"
  | .list => "list"
  | .object => "dict"

/-- The kind of a value. -/
def kind : Json → Kind
  | .null => .null
  | .bool _ => .boolean
  | .int _ => .whole
  | .decimal _ => .fractional
  | .nonFinite _ => .fractional
  | .str _ => .text
  | .arr _ => .list
  | .obj _ => .object

/-- A list of texts as an array. -/
def texts (xs : List String) : Json := .arr (xs.map .str)

/-- A text, or null where there is none. -/
def text? : Option String → Json
  | none => .null
  | some s => .str s

end Json

end ScenePrompt
