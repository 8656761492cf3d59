/-
  Faults: why no answer was given.

  A poor scene is not a fault — its shortcomings come back as diagnostics.  A fault means that the
  input could not be read, that a rule broke, or that the caller asked for something that is not
  to be had: a prompt of a scene that does not pass, or a layout that does not exist.

  `Fault.message` words a fault.  It is the only place where faults are worded.
-/
import ScenePrompt.Rule.Basic
import ScenePrompt.Scene.Normalize

namespace ScenePrompt

/-- Why no answer was given. -/
inductive Fault where
  /-- the raw input cannot be read -/
  | malformed (cause : MalformedScene)
  /-- the named rule gave no findings -/
  | rule (id : String) (fault : RuleFault)
  /-- a prompt was asked for although these rules have hard findings, one entry for each -/
  | unrenderable (ruleIds : List String)
  /-- there is no layout of this name -/
  | unknownMode (mode : String)
  deriving DecidableEq, Repr

namespace Fault

/-- The wording of a fault. -/
def message : Fault → String
  | malformed cause => cause.message
  | rule id (.raised text) => "Rule '" ++ id ++ "' failed: " ++ text
  | rule id (.mislabelled _) => "Rule '" ++ id ++ "' failed: its labels are unknown"
  | unrenderable ids =>
    "Cannot render a scene that fails validation (" ++ String.intercalate ", " ids ++ ")"
  | unknownMode mode => "Unknown output mode: " ++ mode

end Fault

end ScenePrompt
