/-
  The service that the editor talks to.

  Three requests are answered, each at a path of its own:

      GET   /api/config           what can be chosen, and the rules
      POST  /api/scene/validate   the findings about a scene, for feedback while it is written
      POST  /api/scene/compile    a prompt, or what keeps the scene from being compiled

  The service keeps nothing between requests; every request carries its whole scene.  A blocked
  scene is an ordinary answer with status 200.  Other statuses say that no answer could be given:

  * 307 — nothing is known at this path, but something is without the slashes at its end;
  * 404 and 405 — nothing is known at this path, or not by this method;
  * 422 — the body does not fit its schema, with all violations, or the scene cannot be read;
  * 500 — a rule broke; which one and why is nobody else's business.

  Two faults are nobody's answer and leave the service as they are: a configured default layout
  that does not exist, and a rule with labels that no finding can carry.  Neither happens with
  settings that were read and with the built-in table.
-/
import ScenePrompt.Compile
import ScenePrompt.Draft
import ScenePrompt.Settings.Basic

namespace ScenePrompt

/-! ## Requests and responses -/

/-- A request; the body, if there is one, has been read already. -/
structure Request where
  method : String
  path : String
  body : Option Json := none

/-- A response. -/
structure Response where
  status : Nat
  body : Json

namespace Response

/-- A response that explains itself in its only entry. -/
def detail (status : Nat) (v : Json) : Response := { status, body := .obj [("detail", v)] }

/-- A response to a body that does not fit its schema. -/
def ofViolations (vs : List Schema.Violation) : Response :=
  detail 422 (.arr (vs.map fun v => (v.under (.key "body")).toJson))

/-- The response to a fault, if there is one. -/
def ofFault : Fault → Except Fault Response
  | .malformed cause => .ok (detail 422 (.str cause.message))
  | .rule _ (.raised _) => .ok (detail 500 (.str "Internal compiler error"))
  | .unrenderable _ => .ok (detail 500 (.str "Internal compiler error"))
  -- nobody's answer: a default layout that does not exist, or labels that no finding can carry
  | fault => .error fault

/-- The response to what was computed: its value, or the response to its fault. -/
def ofResult {α : Type} (toJson : α → Json) : Except Fault α → Except Fault Response
  | .ok a => .ok { status := 200, body := toJson a }
  | .error fault => ofFault fault

end Response

/-! ## Routes -/

/-- What can be asked of the service. -/
inductive Route where
  | config | validate | compile
  deriving DecidableEq, Repr

namespace Route

/-- All routes. -/
def all : List Route := [config, validate, compile]

/-- The path of a route. -/
def path : Route → String
  | config => "/api/config"
  | validate => "/api/scene/validate"
  | compile => "/api/scene/compile"

/-- The method of a route. -/
def method : Route → String
  | config => "GET"
  | validate => "POST"
  | compile => "POST"

/-- The route at a path, which may have a line feed at its end. -/
def ofPath? (path : String) : Option Route :=
  all.find? fun r => path == r.path || path == r.path ++ "\n"

/-- A path without the slashes at its end. -/
def withoutSlashes (path : String) : String :=
  String.ofList (path.toList.reverse.dropWhile (· == '/')).reverse

/-- Whether there is a route at the path without the slashes at its end. -/
def nearPath (path : String) : Bool := (ofPath? (withoutSlashes path)).isSome

end Route

/-! ## The service -/

/-- The version that the service reports. -/
def version : String := "0.1.0"

/-- What the service works with: its settings, the rules it judges by, and the rules it lists. -/
structure Service where
  settings : Settings := {}
  rules : List Rule
  listed : List Rule

namespace Service

/-- The service with the given settings and the built-in rules. -/
def ofSettings (settings : Settings) : Service :=
  { settings, rules := Rule.table settings.thresholds, listed := Rule.table settings.thresholds }

/-- What the editor needs to know. -/
def overview (svc : Service) : Json :=
  .obj [("version", .str version), ("framings", .texts framings), ("lenses", .texts lenses),
    ("output_modes", .texts Layout.names),
    ("default_output_mode", .str svc.settings.defaultOutputMode),
    ("anchor_slots", .int anchorSlots), ("required_anchor_slots", .int requiredAnchorSlots),
    ("rules", .arr (svc.listed.map (Rule.toJson "id")))]

/-- Read a body against a schema and go on with what was read. -/
def withBody {α : Type} (check : Schema.Check α) (body : Option Json)
    (go : α → Except Fault Response) : Except Fault Response :=
  match body with
  | none => .ok (Response.ofViolations [{ cause := .missing }])
  | some v => match check v with
    | .ok a => go a
    | .error vs => .ok (Response.ofViolations vs)

/-- The answer to a request to validate. -/
def validateBody (svc : Service) (body : Option Json) : Except Fault Response :=
  withBody (SceneDraft.check .attributes) body fun draft =>
    Response.ofResult Validation.toJson (validateRaw svc.rules draft.toJson)

/-- The answer to a request to compile. -/
def compileBody (svc : Service) (body : Option Json) : Except Fault Response :=
  withBody (CompileRequest.check .attributes) body fun request =>
    Response.ofResult CompileResult.toJson
      (ScenePrompt.compile svc.rules svc.settings.defaultOutputMode request.modeName
        request.scene.toJson)

/-- The answer to a request. -/
def respond (svc : Service) (request : Request) : Except Fault Response :=
  match Route.ofPath? request.path with
  | none =>
    if Route.nearPath request.path then .ok { status := 307, body := .null }
    else .ok (Response.detail 404 (.str "Not Found"))
  | some route =>
    if request.method = route.method then
      match route with
      | .config => .ok { status := 200, body := svc.overview }
      | .validate => svc.validateBody request.body
      | .compile => svc.compileBody request.body
    else .ok (Response.detail 405 (.str "Method Not Allowed"))

end Service

/-! ## Launching -/

/-- How a server is told to run the service. -/
structure Launch where
  target : String
  host : String
  portNumber : Int
  reload : Bool
  deriving DecidableEq, Repr

/-- The launch of the service with the given settings. -/
def Settings.launch (s : Settings) : Launch :=
  { target := "scenecraft.api.main:app", host := s.serverHost, portNumber := s.serverPort
    reload := false }

/-- A launch as an object: what is passed by position and what is passed by name. -/
def Launch.toJson (l : Launch) : Json :=
  .obj [("args", .arr [.str l.target]),
    ("kwargs", .obj [("host", .str l.host), ("port", .int l.portNumber),
      ("reload", .bool l.reload)])]

example : Route.all.map (fun r => Route.ofPath? r.path) = Route.all.map some := by
  decide +kernel

end ScenePrompt
