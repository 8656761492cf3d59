/-
  The vocabularies behind the soft rules.

  Three small word lists decide what the advisory rules notice:

  * SEQUENCING WORDS tell of one thing after another, where a prompt should freeze one moment;
  * CAUSAL CONNECTIVES carry a cause into a visible effect — verbs such as `spills` or `tipped`
    in the forms that people use, phrases such as `so that`, or a plain arrow;
  * VAGUE NAMES are placeholders where the name of an object should stand.

  The first two are looked for as whole words anywhere in a text.  A vague name has to be the
  whole text, apart from one line feed at its end; `things` is vague, `things on a shelf` is not.
-/
import ScenePrompt.Text.Phrase

namespace ScenePrompt.Text

/-! ## The lists -/

/-- Words that tell of one thing after another. -/
def sequencingWords : List String := ["then", "after", "next", "before"]

/-- Words and phrases that link a cause with its effect. -/
def causalPhrases : List String :=
  ["cause", "causes", "caused", "causing", "because", "so that", "due to", "thanks to",
   "result in", "results in", "resulting in",
   "send", "sends", "sending", "sent", "make", "makes", "making", "made",
   "force", "forces", "forced", "forcing", "push", "pushes", "pushed", "pushing",
   "pull", "pulls", "pulled", "pulling", "knock", "knocks", "knocked", "tip", "tips", "tipped",
   "lift", "lifts", "lifted", "drag", "drags", "dragged", "tug", "tugs", "tugged",
   "snap", "snaps", "snapped", "spill", "spills", "spilled", "scatter", "scatters", "scattered",
   "splash", "splashes", "splashed", "topple", "topples", "toppled",
   "shatter", "shatters", "shattered", "set off", "sets off", "trigger", "triggers", "triggered"]

/-- Signs that link a cause with its effect wherever they stand. -/
def causalSigns : List String := ["->", "→"]

/-- Placeholders that name no object. -/
def vagueNames : List String := ["stuff", "things", "items", "objects", "misc", "etc", "etc."]

/-! ## What the rules ask -/

/-- Some word of the text tells of one thing after another. -/
def hasSequencing (s : String) : Bool :=
  occursAsWords (sequencingWords.map String.toList) false s.toList

/-- The text links a cause with its effect. -/
def hasCausalLink (s : String) : Bool :=
  causalSigns.any (fun sign => occursInside sign.toList s.toList) ||
    occursAsWords (causalPhrases.map String.toList) false s.toList

/-- The text as a whole is a placeholder. -/
def isVague (s : String) : Bool :=
  vagueNames.any fun name =>
    isSameText name.toList s.toList || isSameText (name.toList ++ ['\n']) s.toList

example : hasSequencing "A fox reads, THEN sleeps" = true := by decide +kernel
example : hasCausalLink "Wind→dust" = true ∧ hasCausalLink "a causeway" = false := by
  decide +kernel
example : isVague "Things" = true ∧ isVague "things." = false := by decide +kernel

end ScenePrompt.Text
