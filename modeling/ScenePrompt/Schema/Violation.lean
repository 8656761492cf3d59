/-
  Violations of a schema.

  When a JSON value is held against a schema, everything that does not fit is reported at once: a
  list of violations, each with its CAUSE and the PATH from the outermost value to the offending
  one.  A cause has a short code, which programs compare, and a message, which people read; both
  are functions of the cause, so the wording is in one place.
-/
import ScenePrompt.Json.Basic

namespace ScenePrompt.Schema

/-! ## Causes -/

/-- What a sequence is called where its length is at fault. -/
inductive Sequence where
  | list | tuple
  deriving DecidableEq, Repr

/-- The name of a sort of sequence. -/
def Sequence.name : Sequence → String
  | .list => "List"
  | .tuple => "Tuple"

/-- Why a value does not fit. -/
inductive Cause where
  /-- a required entry is absent -/
  | missing
  | notString
  /-- a text that must not be empty is -/
  | emptyString
  /-- the value is none of the choices -/
  | notChoice (choices : List String)
  | notSequence (kind : Sequence)
  | tooMany (kind : Sequence) (limit found : Nat)
  | tooFew (kind : Sequence) (limit found : Nat)
  /-- an object of the named sort was expected -/
  | notInstance (name : String)
  /-- an object was expected from which entries can be taken -/
  | notAttributes
  | notBool
  /-- a value that stands for neither truth value -/
  | unreadableBool
  | notInt
  /-- a number that is not whole -/
  | fractionalInt
  /-- a text that spells no whole number -/
  | unreadableInt
  /-- a number or text too large to be read as a whole number -/
  | oversizedInt
  /-- a number beyond all doubles -/
  | notFinite
  | belowMinimum (n : Int)
  | aboveMaximum (n : Int)
  /-- a change to a value that admits none -/
  | frozen
  /-- the entry that says which alternative is meant is absent -/
  | noTag (key : String)
  /-- the entry that says which alternative is meant names none -/
  | unknownTag (key given : String) (expected : List String)
  /-- an entry that has no place -/
  | extra
  deriving DecidableEq, Repr

/-- Choices in quotes: commas between them, and `or` before the last. -/
def quotedChoices : List String → String
  | [] => ""
  | [a] => "'" ++ a ++ "'"
  | [a, b] => "'" ++ a ++ "' or '" ++ b ++ "'"
  | a :: b :: c :: rest => "'" ++ a ++ "', " ++ quotedChoices (b :: c :: rest)

/-- Names in quotes with commas between them. -/
def quotedNames (names : List String) : String :=
  String.intercalate ", " (names.map fun n => "'" ++ n ++ "'")

/-- The short code of a cause. -/
def Cause.code : Cause → String
  | .missing => "missing"
  | .notString => "string_type"
  | .emptyString => "string_too_short"
  | .notChoice _ => "literal_error"
  | .notSequence .list => "list_type"
  | .notSequence .tuple => "tuple_type"
  | .tooMany .. => "too_long"
  | .tooFew .. => "too_short"
  | .notInstance _ => "model_type"
  | .notAttributes => "model_attributes_type"
  | .notBool => "bool_type"
  | .unreadableBool => "bool_parsing"
  | .notInt => "int_type"
  | .fractionalInt => "int_from_float"
  | .unreadableInt => "int_parsing"
  | .oversizedInt => "int_parsing_size"
  | .notFinite => "finite_number"
  | .belowMinimum _ => "greater_than_equal"
  | .aboveMaximum _ => "less_than_equal"
  | .frozen => "frozen_instance"
  | .noTag _ => "union_tag_not_found"
  | .unknownTag .. => "union_tag_invalid"
  | .extra => "extra_forbidden"

/-- The message of a cause. -/
def Cause.message : Cause → String
  | .missing => "Field required"
  | .notString => "Input should be a valid string"
  | .emptyString => "String should have at least 1 character"
  | .notChoice choices => "Input should be " ++ quotedChoices choices
  | .notSequence .list => "Input should be a valid list"
  | .notSequence .tuple => "Input should be a valid tuple"
  | .tooMany kind limit found =>
    kind.name ++ " should have at most " ++ toString limit ++ " items after validation, not " ++
      toString found
  | .tooFew kind limit found =>
    kind.name ++ " should have at least " ++ toString limit ++ " items after validation, not " ++
      toString found
  | .notInstance name => "Input should be a valid dictionary or instance of " ++ name
  | .notAttributes => "Input should be a valid dictionary or object to extract fields from"
  | .notBool => "Input should be a valid boolean"
  | .unreadableBool => "Input should be a valid boolean, unable to interpret input"
  | .notInt => "Input should be a valid integer"
  | .fractionalInt => "Input should be a valid integer, got a number with a fractional part"
  | .unreadableInt =>
    "Input should be a valid integer, unable to parse string as an integer"
  | .oversizedInt => "Unable to parse input string as an integer, exceeded maximum size"
  | .notFinite => "Input should be a finite number"
  | .belowMinimum n => "Input should be greater than or equal to " ++ toString n
  | .aboveMaximum n => "Input should be less than or equal to " ++ toString n
  | .frozen => "Instance is frozen"
  | .noTag key => "Unable to extract tag using discriminator '" ++ key ++ "'"
  | .unknownTag key given expected =>
    "Input tag '" ++ given ++ "' found using '" ++ key ++
      "' does not match any of the expected tags: " ++ quotedNames expected
  | .extra => "Extra inputs are not permitted"

/-! ## Paths -/

/-- One step into a value. -/
inductive Step where
  | key (name : String)
  | index (i : Nat)
  deriving DecidableEq, Repr

/-- A cause at the end of a path. -/
structure Violation where
  cause : Cause
  path : List Step := []
  deriving DecidableEq, Repr

/-- The same violation, seen from one step further out. -/
def Violation.under (step : Step) (v : Violation) : Violation :=
  { v with path := step :: v.path }

/-- A step as a JSON value. -/
def Step.toJson : Step → Json
  | .key name => .str name
  | .index i => .int i

/-- A violation as an object: code, path and message. -/
def Violation.toJson (v : Violation) : Json :=
  .obj [("type", .str v.cause.code), ("loc", .arr (v.path.map Step.toJson)),
    ("msg", .str v.cause.message)]

example : (Cause.notChoice ["a", "b", "c"]).message = "Input should be 'a', 'b' or 'c'" := by
  decide +kernel

end ScenePrompt.Schema
