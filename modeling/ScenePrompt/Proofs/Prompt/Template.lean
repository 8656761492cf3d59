/-
  Templates: texts with holes.

  A TEMPLATE is fixed text with HOLES in it, one for each value that is going to be filled in.  What
  is left of it when the holes are looked away from is its SCAFFOLD: the texts before the first
  hole, between one hole and the next, and after the last, neighbouring fixed pieces run together.
  Of a template with n holes these are n + 1 texts, some of them empty.

  `Renders t vs text` says that the template, with the values filled in one after another, reads as
  the text.  It is a relation and not a function so that there is nothing to say about too few or
  too many values, and it follows the template: texts are put together of parts, and so are the
  templates they render (`Renders.append`, `RendersAll.join`).  That a text renders a template is
  therefore shown part by part, and what is wanted of it — that it is the scaffold and the values,
  woven together (`Renders.weave_scaffold`) — once.
-/
namespace ScenePrompt

/-! ## Templates and their scaffolds -/

/-- A piece of a template. -/
inductive Piece where
  /-- a text that stands there whatever is filled in -/
  | fixed (text : String)
  /-- a place for a value -/
  | hole
  deriving DecidableEq, Repr

/-- A text with holes. -/
abbrev Template := List Piece

namespace Template

/-- The fixed texts around the holes. -/
def scaffold : Template → List String
  | [] => [""]
  | .fixed x :: t => (scaffold t).modifyHead (x ++ ·)
  | .hole :: t => "" :: scaffold t

/-- Templates one after another, with a fixed text between. -/
def join (separator : String) (ts : List Template) : Template :=
  List.intercalate [.fixed separator] ts

/-- A scaffold has a text at least: what stands behind the last hole. -/
theorem scaffold_ne_nil (t : Template) : t.scaffold ≠ [] := by
  induction t with
  | nil => exact List.cons_ne_nil _ _
  | cons p t ih =>
    cases p with
    | hole => exact List.cons_ne_nil _ _
    | fixed x =>
      show (scaffold t).modifyHead (x ++ ·) ≠ []
      cases h : scaffold t with
      | nil => exact absurd h ih
      | cons first rest => exact List.cons_ne_nil _ _

/-- Behind the first template each further one is preceded by a separator. -/
theorem join_cons (separator : String) (t : Template) (after : List Template) :
    join separator (t :: after) = t ++ after.flatMap (.fixed separator :: ·) := by
  unfold join
  induction after generalizing t with
  | nil => simp
  | cons u after ih =>
    rw [List.intercalate_cons_cons, ih u]
    simp

/-- In front of a template in a row each one is followed by a separator. -/
theorem join_append_cons (separator : String) (before : List Template) (t : Template)
    (after : List Template) :
    join separator (before ++ t :: after) =
      before.flatMap (· ++ [.fixed separator]) ++ (t ++ after.flatMap (.fixed separator :: ·)) := by
  induction before with
  | nil => exact join_cons separator t after
  | cons u before ih =>
    have hne : before ++ t :: after ≠ [] := by simp
    -- the first template is followed by others, so by a separator
    have hcons : join separator (u :: (before ++ t :: after)) =
        u ++ [.fixed separator] ++ join separator (before ++ t :: after) :=
      List.intercalate_cons_of_ne_nil hne
    rw [List.cons_append, hcons, ih]
    simp

end Template

/-! ## Weaving -/

/-- The scaffold and the values in turns, beginning with the scaffold. -/
def weave : List String → List String → String
  | [], _ => ""
  | gap :: gaps, [] => gap ++ weave gaps []
  | gap :: gaps, v :: vs => gap ++ (v ++ weave gaps vs)

/-- What is put in front of the first text of a scaffold stands in front of the whole. -/
theorem weave_modifyHead {gaps : List String} (h : gaps ≠ []) (x : String) (vs : List String) :
    weave (gaps.modifyHead (x ++ ·)) vs = x ++ weave gaps vs := by
  cases gaps with
  | nil => exact absurd rfl h
  | cons gap gaps => cases vs <;> simp [weave, String.append_assoc]

/-! ## Filling in -/

/-- The template, with these values in its holes, reads as the text. -/
inductive Renders : Template → List String → String → Prop
  | nil : Renders [] [] ""
  | fixed {t : Template} {vs : List String} {text : String} (x : String) :
    Renders t vs text → Renders (.fixed x :: t) vs (x ++ text)
  | hole {t : Template} {vs : List String} {text : String} (v : String) :
    Renders t vs text → Renders (.hole :: t) (v :: vs) (v ++ text)

namespace Renders

variable {t t' : Template} {vs vs' : List String} {text text' : String}

/-- Templates one behind the other render the texts one behind the other, and the values are filled
    in in the same order. -/
theorem append (h : Renders t vs text) (h' : Renders t' vs' text') :
    Renders (t ++ t') (vs ++ vs') (text ++ text') := by
  induction h with
  -- by induction on how the first text was rendered
  | nil => simpa using h'
  | fixed x _ ih =>
    rw [String.append_assoc]
    exact .fixed x ih
  | hole v _ ih =>
    rw [String.append_assoc]
    exact .hole v ih

/-- A hole on its own is filled by any value. -/
theorem value (v : String) : Renders [.hole] [v] v := by
  simpa using Renders.hole v .nil

/-- There is one text more in the scaffold than there are values. -/
theorem length_scaffold (h : Renders t vs text) : t.scaffold.length = vs.length + 1 := by
  induction h with
  | nil => rfl
  | fixed x _ ih =>
    show ((Template.scaffold _).modifyHead (x ++ ·)).length = _
    rw [List.length_modifyHead, ih]
  | hole v _ ih =>
    show (Template.scaffold _).length + 1 = _
    rw [ih, List.length_cons]

/-- What a template renders is its scaffold and the values, woven together. -/
theorem weave_scaffold (h : Renders t vs text) : weave t.scaffold vs = text := by
  induction h with
  | nil => rfl
  | @fixed t _ _ x _ ih =>
    show weave (t.scaffold.modifyHead (x ++ ·)) _ = _
    -- a fixed piece runs together with what stands behind it
    rw [weave_modifyHead t.scaffold_ne_nil, ih]
  | hole v _ ih =>
    show "" ++ (v ++ weave _ _) = _
    rw [ih, String.empty_append]

/-- A fixed text in front of a hole ends the scaffold text that stands there. -/
theorem exists_getElem?_scaffold (h : Renders t vs text) (x : String) (u : Template) :
    ∃ start, (t ++ .fixed x :: .hole :: u).scaffold[vs.length]? = some (start ++ x) := by
  induction h with
  | nil => exact ⟨"", by simp [Template.scaffold]⟩
  | @fixed t vs _ y _ ih =>
    obtain ⟨start, hstart⟩ := ih
    show ∃ start, (((t ++ .fixed x :: .hole :: u).scaffold).modifyHead (y ++ ·))[vs.length]? = _
    cases hs : (t ++ .fixed x :: .hole :: u).scaffold with
    | nil => exact absurd hs (Template.scaffold_ne_nil _)
    | cons gap gaps =>
      rw [hs] at hstart
      -- whether there is a hole before it decides if it is still in the first text of the scaffold
      cases hlength : vs.length with
      | zero =>
        -- the text in front of the first hole is where the fixed piece goes
        rw [hlength] at hstart
        obtain rfl : gap = start ++ x := Option.some.inj hstart
        exact ⟨y ++ start, by simp [String.append_assoc]⟩
      | succ n =>
        rw [hlength] at hstart
        exact ⟨start, hstart⟩
  | hole v _ ih => exact ih

end Renders

/-! ## Rows of templates -/

/-- Templates render texts one by one, each with its own share of the values. -/
inductive RendersAll : List Template → List String → List String → Prop
  | nil : RendersAll [] [] []
  | cons {t : Template} {vs : List String} {text : String} {ts : List Template}
      {vs' texts : List String} :
    Renders t vs text → RendersAll ts vs' texts → RendersAll (t :: ts) (vs ++ vs') (text :: texts)

namespace RendersAll

variable {ts ts' : List Template} {vs vs' texts texts' : List String}

/-- Rows one behind the other render their texts one behind the other. -/
theorem append (h : RendersAll ts vs texts) (h' : RendersAll ts' vs' texts') :
    RendersAll (ts ++ ts') (vs ++ vs') (texts ++ texts') := by
  induction h with
  | nil => exact h'
  | cons hfirst _ ih =>
    rw [List.append_assoc]
    exact .cons hfirst ih

theorem singleton {t : Template} {text : String} (h : Renders t vs text) :
    RendersAll [t] vs [text] := by
  simpa using RendersAll.cons h .nil

/-- The same template again and again, with one value each time. -/
theorem replicate {t : Template} {f : String → String} (h : ∀ v, Renders t [v] (f v))
    (vs : List String) : RendersAll (List.replicate vs.length t) vs (vs.map f) := by
  induction vs with
  | nil => exact .nil
  | cons v vs ih => exact .cons (h v) ih

/-- Rows made of rows, one for each of a list of things. -/
theorem flatMap {α : Type} {f : α → List Template} {g k : α → List String} {xs : List α}
    (h : ∀ x ∈ xs, RendersAll (f x) (g x) (k x)) :
    RendersAll (xs.flatMap f) (xs.flatMap g) (xs.flatMap k) := by
  induction xs with
  | nil => exact .nil
  | cons x xs ih =>
    have hfirst := h x (List.mem_cons_self ..)
    have hrest := ih fun y hy => h y (List.mem_cons_of_mem x hy)
    exact hfirst.append hrest

/-- Joined templates render joined texts. -/
theorem join (separator : String) (h : RendersAll ts vs texts) :
    Renders (Template.join separator ts) vs (String.intercalate separator texts) := by
  unfold Template.join
  induction h with
  | nil => exact .nil
  | @cons t vs text ts vs' texts hfirst hrest ih =>
    cases hrest with
    | nil => simpa using hfirst
    | cons hsecond hrest =>
      rw [List.intercalate_cons_cons, String.intercalate_cons_cons, List.append_assoc,
        String.append_assoc]
      exact hfirst.append (.fixed separator ih)

/-- Texts that are each followed by a separator hold no further values. -/
theorem exists_renders_flatMap (separator : String) (h : RendersAll ts vs texts) :
    ∃ text, Renders (ts.flatMap (· ++ [.fixed separator])) vs text := by
  induction h with
  | nil => exact ⟨"", .nil⟩
  | cons hfirst _ ih =>
    obtain ⟨text, htext⟩ := ih
    rw [List.flatMap_cons, List.append_assoc]
    exact ⟨_, hfirst.append (.fixed separator htext)⟩

end RendersAll

end ScenePrompt
