/-
  The command line.

  The service is started with the settings of its environment and then answers requests: one JSON
  object with `method`, `path` and, for some, `body` on each line of the input, and one JSON object
  with `status` and `body` on each line of the output.

  Variables of the environment are looked for in upper case and in lower case, and a file `.env`
  in the working directory is read if there is one.  Settings that do not fit are reported, one
  violation a line, and nothing is started.  Before the first request the launch is announced on
  the error output: where the service is to be reached, as a server in front of it needs to know.
-/
import ScenePrompt.Json.Reader
import ScenePrompt.Json.Writer
import ScenePrompt.Service
import ScenePrompt.Settings.Source

namespace ScenePrompt

/-! ## Requests and responses as lines -/

/-- A request on a line. -/
def Request.ofLine? (line : String) : Option Request :=
  match Json.read? line with
  | some (.obj entries) =>
    match Entries.get? entries "method", Entries.get? entries "path" with
    | some (.str method), some (.str path) =>
      some { method, path, body := Entries.get? entries "body" }
    | _, _ => none
  | _ => none

/-- A response as a line. -/
def Response.toLine (r : Response) : String :=
  Json.write (.obj [("status", .int r.status), ("body", r.body)])

/-- The line that answers a line. -/
def Service.answer (svc : Service) (line : String) : String :=
  match Request.ofLine? line with
  | none => (Response.detail 400 (.str "Not a request")).toLine
  | some request => match svc.respond request with
    | .ok r => r.toLine
    | .error fault => (Response.detail 500 (.str fault.message)).toLine

/-! ## Starting -/

/-- The names under which the environment may hold settings. -/
def Settings.variableNames : List String :=
  let lower := Settings.names.map (Settings.variableStem ++ ·)
  lower.map (·.map Char.toUpper) ++ lower

/-- What the environment says. -/
def readSources : IO Settings.Sources := do
  let environment ← Settings.variableNames.filterMapM fun name => do
    return (← IO.getEnv name).map fun value => (name, value)
  let file ← try IO.FS.readFile ".env" catch _ => pure ""
  return { environment, file }

/-- Answer lines until the input ends. -/
partial def answerLines (svc : Service) (input output : IO.FS.Stream) : IO Unit := do
  let line ← input.getLine
  if line.isEmpty then return
  output.putStrLn (svc.answer line)
  output.flush
  answerLines svc input output

/-- Start the service. -/
def serve : IO UInt32 := do
  match Settings.load (← readSources) with
  | .error violations =>
    for v in violations do
      IO.eprintln (Json.write v.toJson)
    return 1
  | .ok settings =>
    IO.eprintln (Json.write settings.launch.toJson)
    answerLines (Service.ofSettings settings) (← IO.getStdin) (← IO.getStdout)
    return 0

end ScenePrompt

/-- The program. -/
def main : IO UInt32 := ScenePrompt.serve
