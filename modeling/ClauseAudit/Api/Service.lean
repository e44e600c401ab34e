import ClauseAudit.Api.Body
import ClauseAudit.Assessment.Simulation
import ClauseAudit.Language.Compile
import ClauseAudit.Language.Sample
import ClauseAudit.Logging.Registry
import ClauseAudit.Rule.Wire
import ClauseAudit.Settings.Basic

/-!
# The service

Routes that compile policies and simulate them. A request that cannot be served as it asks gets a
response with an error code, and is logged.
-/

namespace ClauseAudit.Api

structure Request where
  method : String
  path : String
  body : Option Body := none
  deriving DecidableEq, Repr

structure Response where
  status : Nat
  body : Json.Value
  deriving Repr

/-- Faults that no response tells of. -/
inductive Crash where
  /-- A number of a pattern is over the limit of the pattern language. -/
  | literal (fault : LiteralFault)
  /-- A response holds a number that standard JSON cannot. -/
  | notFinite

def Crash.message : Crash → String
  | literal fault => fault.message
  | notFinite => "Out of range float values are not JSON compliant"

structure Service where
  settings : Settings
  /-- Holds the service's logger. -/
  registry : Logging.Registry
  /-- The instant of universal time. -/
  now : Int

/-- Log lines and the response, or a crash. -/
structure Reply where
  lines : List String := []
  response : Except Crash Response

def loggerName : String := "policylab.api"

namespace Service

def start (settings : Settings) (now : Int) : Except Logging.LevelFault Service := do
  return { settings, now, registry := ← Logging.Registry.setUp {} loggerName settings.logging }

def log (s : Service) (level : Int) (message : String) (extras : Json.Fields) : List String :=
  match s.registry.log
      { logger := loggerName, level, template := .str message, extras, time := s.now } with
  | .ok line => if line.isEmpty then [] else [line]
  | .error _ => []

def ok (body : Json.Value) : Reply := { response := .ok ⟨200, body⟩ }

def crash (c : Crash) : Reply := { response := .error c }

def refuse (lines : List String) (code message : String) : Reply :=
  { lines, response := .ok ⟨400, .obj [("error", .str code), ("message", .str message)]⟩ }

/-- A response to a body that is not taken. -/
def invalid (s : Service) (path : String) : Refusal → Reply
  | .unparsable =>
    { response := .ok ⟨400, .obj [("detail", .str "There was an error parsing the body")]⟩ }
  | .issues details =>
    let body := .obj [("error", .str "VALIDATION_ERROR"),
      ("details", .arr (details.map Detail.toJson))]
    { lines := s.log 20 "request validation failed" [("path", .str path)]
      response := if isFinite body then .ok ⟨400, body⟩ else .error .notFinite }

def health (s : Service) : Reply :=
  ok (.obj [("status", .str "ok"), ("tool", .str s.settings.env.projectName)])

def templates : Reply :=
  ok (.obj [("policyDsl", .str Language.samplePolicy),
    ("contractText", .str Language.sampleContract)])

/-- Compiles a policy text; a diagnostic is logged and sent with the given code. -/
def withPolicy (s : Service) (dsl message code : String) (use : Policy → Reply) : Reply :=
  match Language.compile dsl (Time.universalText s.now) with
  | .ok policy => use policy
  | .error (.diagnostic d) => refuse (s.log 30 message [("error", .str d.message)]) code d.message
  | .error (.overflow fault) => crash (.literal fault)

def compile (s : Service) (path : String) (body : Option Body) : Reply :=
  match (do textField (← fieldsOf body) "dsl" s.settings.api.maxDslChars : Taken String) with
  | .error refusal => s.invalid path refusal
  | .ok dsl =>
    s.withPolicy dsl "dsl compile failed" "DSL_COMPILE_ERROR" fun policy =>
      ok (.obj [("compiledPolicy", policy.toJson)])

def simulate (s : Service) (path : String) (body : Option Body) : Reply :=
  let taken : Taken (String × String) := do
    let fields ← fieldsOf body
    Taken.both (textField fields "dsl" s.settings.api.maxDslChars)
      (textField fields "contractText" s.settings.api.maxContractChars)
  match taken with
  | .error refusal => s.invalid path refusal
  | .ok (dsl, contract) =>
    s.withPolicy dsl "simulation compile failed" "SIMULATION_ERROR" fun policy =>
      match policy.simulate contract with
      | .error fault => crash (.literal fault)
      | .ok result =>
        { lines := s.log 20 "simulation complete"
            [("risk_score", .int result.riskScore), ("verdict", .str result.verdict.name)]
          response := .ok ⟨200, .obj [("compiledPolicy", policy.toJson),
            ("simulation", result.toJson)]⟩ }

def simulateCompiled (s : Service) (path : String) (body : Option Body) : Reply :=
  let taken : Taken (Json.Value × String) := do
    let fields ← fieldsOf body
    Taken.both (objectField fields "compiledPolicy")
      (textField fields "contractText" s.settings.api.maxContractChars)
  match taken with
  | .error refusal => s.invalid path refusal
  | .ok (wire, contract) =>
    match Policy.ofJson wire with
    | .error fault =>
      match fault.overflow? with
      | some literal => crash (.literal literal)
      | none =>
        refuse (s.log 30 "compiled policy rejected" [("error", .str fault.message)])
          "SIMULATION_ERROR" fault.message
    | .ok policy =>
      match policy.simulate contract with
      | .error fault => crash (.literal fault)
      | .ok result => ok (.obj [("simulation", result.toJson)])

/-- The method of every path that is served, and how it is. -/
def routes : List (String × String × (Service → String → Option Body → Reply)) :=
  [("/health", "GET", fun s _ _ => s.health), ("/templates", "GET", fun _ _ _ => templates),
   ("/compile", "POST", compile), ("/simulate", "POST", simulate),
   ("/simulate/compiled", "POST", simulateCompiled)]

def barePath (path : String) : String := String.ofList (path.toList.takeWhile (· != '?'))

/-- A path with a slash more or less at its end. -/
def toggleSlash (path : String) : String :=
  match path.toList.reverse with
  | '/' :: rest => String.ofList rest.reverse
  | _ => path ++ "/"

/-- The path that is served for a request: a slash at the end may be too much. -/
def servedPath (path : String) : String :=
  let served := fun p => routes.any (·.1 == p)
  if !served path && path != "/" && served (toggleSlash path) then toggleSlash path else path

def serve (s : Service) (r : Request) : Reply :=
  let path := servedPath (barePath r.path)
  match routes.lookup path with
  | none => { response := .ok ⟨404, .obj [("detail", .str "Not Found")]⟩ }
  | some (method, handle) =>
    if r.method == method then handle s path r.body
    else { response := .ok ⟨405, .obj [("detail", .str "Method Not Allowed")]⟩ }

end Service

end ClauseAudit.Api
