/-
  Rules.

  A rule has an identifier, a severity and a field that all its findings carry, a description for
  people, and a check: a function from a scene to the messages it wants to emit, usually none or
  one.  Rules do not see each other's findings, so the order of a table is the order in which
  findings are shown and nothing else.

  A check may fail, in two ways that `RuleFault` keeps apart: it may RAISE a text, which is a
  defect of the rule; or it may have been declared with labels that no diagnostic can carry, which
  shows when it emits its first message.  `Rule.declared` makes a rule from labels given by name
  and is the only source of the second fault.
-/
import ScenePrompt.Diagnostic
import ScenePrompt.Scene.Basic

namespace ScenePrompt

/-- Why a rule gave no findings. -/
inductive RuleFault where
  /-- the check broke, with this text -/
  | raised (text : String)
  /-- the rule's labels are none that a diagnostic can carry -/
  | mislabelled (violations : List Schema.Violation)
  deriving DecidableEq, Repr

/-- One entry of a rule table. -/
structure Rule where
  id : String
  severity : Severity
  field : Field
  description : String := ""
  check : Scene → Except RuleFault (List String)

namespace Rule

/-- The finding that a message of the rule makes. -/
def diagnostic (r : Rule) (message : String) : Diagnostic :=
  { severity := r.severity, message, field := r.field, ruleId := r.id }

/-- The findings of a rule about a scene, one for each message, in their order. -/
def findings (r : Rule) (s : Scene) : Except RuleFault (List Diagnostic) :=
  (r.check s).map (·.map r.diagnostic)

/-- A rule that emits the same messages about every scene, or always raises the same text, with
    its labels given by name.  Labels that are none are a fault as soon as there is a message to
    carry them; the labels that the rule itself then has are never seen. -/
def declared (id severity field : String) (outcome : Except String (List String)) : Rule :=
  match Diagnostic.labels severity field with
  | .ok (severity, field) =>
    { id, severity, field, check := fun _ => outcome.mapError .raised }
  | .error violations =>
    { id, severity := .soft, field := .sceneHeart
      check := fun _ => match outcome with
        | .error text => .error (.raised text)
        | .ok [] => .ok []
        | .ok _ => .error (.mislabelled violations) }

end Rule

end ScenePrompt
