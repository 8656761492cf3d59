/-
  Settings of the service.

  Two settings tune the rules, one names the layout that is used when nobody asks for another, and
  three say where the service listens and how much it logs.  The number of anchor slots and the
  minimum of anchors are not among them: the first carries meaning for the editor, the second is
  the compile gate.

  Settings are read from entries by `Settings.check`.  An entry that is absent takes its default;
  an entry that is no setting has no place and is reported after everything else.  The bounds on
  the two thresholds are the settings' own; the rules work with any whole numbers.
-/
import ScenePrompt.Prompt.Layout
import ScenePrompt.Rule.Table
import ScenePrompt.Settings.WholeNumber

namespace ScenePrompt

open Schema Checked

/-- The settings of the service. -/
structure Settings where
  minMicroDetails : Int := 3
  minFocusTargetWords : Int := 2
  defaultOutputMode : String := "compact"
  serverHost : String := "0.0.0.0"
  serverPort : Int := 7860
  logLevel : String := "INFO"
  deriving DecidableEq, Repr

namespace Settings

/-- The names of the settings. -/
def names : List String :=
  ["min_micro_details", "min_focus_target_words", "default_output_mode", "server_host",
    "server_port", "log_level"]

/-- The numbers that tune the rules. -/
def thresholds (s : Settings) : Thresholds :=
  { minMicroDetails := s.minMicroDetails, minFocusTargetWords := s.minFocusTargetWords }

/-- Settings as an object. -/
def toJson (s : Settings) : Json :=
  .obj [("min_micro_details", .int s.minMicroDetails),
    ("min_focus_target_words", .int s.minFocusTargetWords),
    ("default_output_mode", .str s.defaultOutputMode), ("server_host", .str s.serverHost),
    ("server_port", .int s.serverPort), ("log_level", .str s.logLevel)]

/-! ## Log levels -/

/-- The names of the log levels. -/
def logLevels : List String := ["DEBUG", "INFO", "WARNING", "ERROR"]

/-- The upper-case form of a character where that is made of ASCII letters, and the character
    itself elsewhere.  The names of the levels are ASCII, so no other letter can matter. -/
def upperChar (c : Char) : List Char :=
  match c with
  | '\u0131' => ['I']
  | '\u017F' => ['S']
  | '\u00DF' => ['S', 'S']
  | '\uFB00' => ['F', 'F']
  | '\uFB01' => ['F', 'I']
  | '\uFB02' => ['F', 'L']
  | '\uFB03' => ['F', 'F', 'I']
  | '\uFB04' => ['F', 'F', 'L']
  | '\uFB05' => ['S', 'T']
  | '\uFB06' => ['S', 'T']
  | c => [c.toUpper]

/-- A log level in any letter case, with blanks around it. -/
def logLevelCheck : Check String
  | .str s => choice logLevels
      (.str (String.ofList ((Text.trimChars s.toList).flatMap upperChar)))
  | v => choice logLevels v

/-! ## Reading -/

/-- Entries that are no setting are violations, in their order. -/
def extras (entries : Entries) : List Violation :=
  ((Entries.keys entries).filter fun k => !names.contains k).map fun k =>
    { cause := .extra, path := [.key k] }

/-- There is no entry that is no setting. -/
def extrasCheck (entries : Entries) : Checked Unit :=
  if extras entries = [] then .ok () else .error (extras entries)

/-- Read settings from entries. -/
def check (entries : Entries) : Checked Settings :=
  let fallback : Settings := {}
  ap (ap (ap (ap (ap (ap (
    (optionalEntry entries ["min_micro_details"] fallback.minMicroDetails
      (WholeNumber.atLeast 0)).map fun details words mode host portNumber level (_ : Unit) =>
        Settings.mk details words mode host portNumber level)
    (optionalEntry entries ["min_focus_target_words"] fallback.minFocusTargetWords
      (WholeNumber.atLeast 1)))
    (optionalEntry entries ["default_output_mode"] fallback.defaultOutputMode
      (choice Layout.names)))
    (optionalEntry entries ["server_host"] fallback.serverHost text))
    (optionalEntry entries ["server_port"] fallback.serverPort (WholeNumber.between 1024 65535)))
    (optionalEntry entries ["log_level"] fallback.logLevel logLevelCheck))
    (extrasCheck entries)

end Settings

end ScenePrompt
