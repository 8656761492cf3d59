/-
  Where settings come from.

  A setting may be given in three places.  What a caller passes in comes first, then the variables
  of the environment, then the lines of a settings file; a place of higher rank hides what the
  others say, before any of it is checked.

  Names of settings may be written in any letter case everywhere; a caller who gives several
  spellings of one name is taken at the lower-case one, or else at the first.  Variables and lines
  put a prefix in front of the name.

  The three places differ in what they do with a name that is no setting.  The environment holds
  much that is none of the service's business, so there it is passed over.  A settings file is the
  service's own, so there it is reported, as a whole and in lower case — unless its value is
  empty, or it is the bare name of a setting without the prefix.  What a caller passes in is
  reported as it was spelled.

  Of the syntax of settings files only PLAIN LINES `NAME=value` are modelled, with blanks and
  remarks around them.  Readers of such files know more: a value in quotes, which may go over
  several lines, a leading `export`, and a reference to another variable in a value.  None of that
  is read here.  A quote and a dollar sign are characters like any other, and a line that begins
  with `export` assigns nothing.
-/
import ScenePrompt.Settings.Basic
import ScenePrompt.Text.LowerCase

namespace ScenePrompt.Settings

/-- What the name of a setting begins with in the environment and in a settings file. -/
def variableStem : String := "scenecraft_"

/-- The three places. -/
structure Sources where
  /-- what a caller passes in -/
  given : Entries := []
  /-- the variables of the environment -/
  environment : List (String × String) := []
  /-- the text of the settings file -/
  file : String := ""

/-! ## Lines of a settings file -/

/-- Split a text at every line feed and every carriage return. -/
def splitLines : List Char → List (List Char)
  | [] => [[]]
  | c :: cs =>
    if c == '\n' || c == '\r' then [] :: splitLines cs
    else match splitLines cs with
      | line :: rest => (c :: line) :: rest
      | [] => [[c]]

/-- A value up to a remark, which begins with a number sign after a blank; `blank` says whether
    the character before is one. -/
def beforeRemark (blank : Bool) : List Char → List Char
  | [] => []
  | c :: cs => if blank && c == '#' then [] else c :: beforeRemark (Text.isBlank c) cs

/-- The name and value that a line assigns.  A line assigns nothing if it has no equals sign, or
    if what stands before that is no single word: so does a line that begins with a number sign. -/
def assignment? (line : List Char) : Option (String × String) :=
  let name := Text.trimChars (line.takeWhile (· ≠ '='))
  let value := Text.trimChars ((line.dropWhile (· ≠ '=')).drop 1)
  if !line.contains '=' || name.isEmpty || name.any fun c => Text.isBlank c || c == '#' then none
  else some (String.ofList name, String.ofList (Text.trimChars (beforeRemark false value)))

/-- The assignments of a settings file, in order. -/
def assignments (file : String) : List (String × String) :=
  (splitLines file.toList).filterMap assignment?

/-! ## Entries -/

/-- Variables with their names in lower case.  A name that is repeated keeps its first place and
    its last value: first where it is repeated letter by letter, then where the case differs. -/
def lowerNames (assigned : List (String × String)) : Entries :=
  Entries.ofPairs ((Entries.ofPairs (assigned.map fun (name, value) =>
    (name, Json.str value))).map fun (name, value) => (Text.lower name, value))

/-- The settings among variables, under their own names. -/
def settingsOf (assigned : Entries) : Entries :=
  names.filterMap fun name =>
    (assigned.get? (variableStem ++ name)).map fun value => (name, value)

/-- The lines of a settings file that name no setting. -/
def strangers (assigned : Entries) : Entries :=
  assigned.filter fun (name, value) =>
    !names.contains name && !(names.map (variableStem ++ ·)).contains name &&
      (match value with
        | .str s => s ≠ ""
        | _ => true)

/-- What a caller passes in for a setting: under its own name, or else under the first of the
    spellings that differ from it in case. -/
def givenFor? (given : Entries) (name : String) : Option Json :=
  (given.get? name).or ((given.find? fun (key, _) => Text.lower key == name).map Prod.snd)

/-- What a caller passes in, with the settings under their own names in front. -/
def namedEntries (given : Entries) : Entries :=
  (names.filterMap fun name => (givenFor? given name).map fun value => (name, value)) ++
    given.filter fun (key, _) => !names.contains (Text.lower key)

/-- Everything that is said about settings: the file first, then what overrides it. -/
def entries (sources : Sources) : Entries :=
  -- written first what ranks last, so that a later write hides it in place
  let file := lowerNames (assignments sources.file)
  let environment := lowerNames sources.environment
  Entries.putAll
    (Entries.putAll (settingsOf file ++ strangers file) (settingsOf environment))
    (namedEntries sources.given)

/-- Read the settings. -/
def load (sources : Sources) : Schema.Checked Settings := check (entries sources)

example : assignments "A = b#c # d\r\n#E=f\nG H=i\nJ=" = [("A", "b#c"), ("J", "")] := by
  decide +kernel
example : (namedEntries [("LOG_LEVEL", .int 1), ("Log_Level", .int 2), ("X", .int 3)]).keys =
    ["log_level", "X"] := by
  decide +kernel
example : (givenFor? [("LOG_LEVEL", .null), ("Log_Level", .int 2)] "log_level").map Json.kind =
    some .null := by
  decide +kernel

end ScenePrompt.Settings
