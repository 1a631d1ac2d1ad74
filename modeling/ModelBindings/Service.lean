import ModelBindings.Package.Write
import ModelBindings.Service.Response

/-!
# The service

Requests come one on a line, each a JSON text, and are answered in order. A line that is no JSON is
passed over with a warning. A run that fails is answered with an error and leaves the service
running.

* `Service.handle` : the answer to one request.
* `Service.serve` : the answers to the requests of a text.
-/

set_option autoImplicit false

namespace ModelBindings.Service

/-- The variables of the surroundings by name. Whoever asks hands them over as a value, which should
be an object of texts. -/
abbrev Environment := Value

/-- The variable that asks for generation. -/
def enableVariable : Text := "GENERATE_PYTHON"

/-- The surroundings with the variable that asks for generation, if it is set. -/
def environmentOf (setting : Option Text) : Environment :=
  .object (setting.toList.map fun s => (enableVariable, .text s))

/-- The value of a variable says whether to generate. -/
def readVariable : Value → Except Fault Bool
  | .text s => .ok (Settings.saysYes s)
  | v => .error (.value (.lacks v "strip"))

/-- Whether the surroundings ask for generation; without the variable they do not. -/
def isEnabled (env : Environment) : Except Fault Bool :=
  match env with
  | .object ms =>
    match Association.get? enableVariable ms with
    | none => .ok false
    | some v => readVariable v
  | v => .error (.value (.lacks v "get"))

/-- A record of the service. -/
def record (level : Level) (message : Text) : Record :=
  ⟨level, .service, message⟩

/-! ## Parameters -/

/-- An absent value counts as an object without members. -/
def orEmpty (v : Value) : Value :=
  if v.isTruthy then v else .object []

/-- A member of a value that has to be an object. -/
def get (v : Value) (key : Text) : Except Fault Value :=
  match v with
  | .object ms => .ok ((Association.get? key ms).getD .null)
  | v => .error (.value (.lacks v "get"))

/-- What a request for generation asks for. -/
structure Order where
  settings : Settings
  /-- The document of the data model. -/
  document : Value

/-- The settings of a generator block; the surroundings alone say whether anything is written. -/
def readSettings (env : Environment) (generator : Value) : Except Fault Settings := do
  let options ← get generator "config"
  let settings ← Settings.readOptions (orEmpty options)
  let enabled ← isEnabled env
  let output ← get generator "output"
  let directory ← get (orEmpty output) "value"
  return { settings with enabled := .bool enabled, outputDir := directory }

/-- What the parameters of a request ask for. -/
def readOrder (env : Environment) (params : Value) : Except Fault Order := do
  let generator ← get params "generator"
  let settings ← readSettings env (orEmpty generator)
  let document ← get params "dmmf"
  return { settings, document := orEmpty document }

/-- Generate what the parameters of a request ask for. -/
def generate (env : Environment) (t : FileTree) (params : Value) : Outcome (List Path) :=
  match readOrder env params with
  | .error e => .fail t e
  | .ok order =>
    (Outcome.ofTraced t (Datamodel.read order.document)).bind fun t d =>
    Package.write order.settings d .null t

/-! ## Requests -/

/-- What the generator says of itself. -/
def manifest : Value :=
  .object [("manifest", .object [
    ("prettyName", .text "Prisma Pydantic Generator"),
    ("defaultOutput", .text "./generated/prisma_models")])]

/-- What a request leaves: the tree, the log records and the response. -/
structure Answer where
  tree : FileTree
  log : List Record
  response : Response

/-- The record of a run that failed. -/
def failureRecord (f : Fault) : Record :=
  if f.isExpected then record .error ("Generation failed: " ++ f.message)
  else record .error "Unexpected error during generation"

/-- The answer to a request for generation. -/
def answerRun (id : Value) (x : Outcome (List Path)) : Answer :=
  match x.result with
  | .ok _ => ⟨x.tree, x.log, ⟨id, .ok .null⟩⟩
  | .error f => ⟨x.tree, x.log ++ [failureRecord f], ⟨id, .error (.failed f)⟩⟩

/-- The answer to a method. -/
def answerMethod (env : Environment) (t : FileTree) (method id params : Value) : Answer :=
  if method.isText "getManifest" then ⟨t, [], ⟨id, .ok manifest⟩⟩
  else if method.isText "generate" then answerRun id (generate env t (orEmpty params))
  else ⟨t, [], ⟨id, .error (.unknownMethod method)⟩⟩

/-- The record of a request. -/
def receivedRecord (method id : Value) : Record :=
  record .debug ("Received " ++ method.display ++ " request " ++ id.display)

/-- The answer to one request. -/
def handle (env : Environment) (t : FileTree) (request : Value) : Answer :=
  match request with
  | .object _ =>
    let method := request.memberD "method" .null
    let id := request.memberD "id" .null
    let a := answerMethod env t method id (request.memberD "params" .null)
    { a with log := receivedRecord method id :: a.log }
  | v => ⟨t, [], ⟨.null, .error (.notObject v)⟩⟩

/-! ## Lines -/

/-- What the service puts out. -/
inductive Event where
  | record (r : Record)
  | response (r : Response)

/-- What an answer puts out: its records, then the response. -/
def Answer.events (a : Answer) : List Event :=
  a.log.map .record ++ [.response a.response]

/-- What serving leaves: the tree, what was put out, and how it ended. -/
structure Session where
  tree : FileTree
  events : List Event
  ending : Except Fault Unit

namespace Session

/-- The log records. -/
def log (s : Session) : List Record :=
  s.events.filterMap fun
    | .record r => some r
    | .response _ => none

/-- The responses. -/
def responses (s : Session) : List Response :=
  s.events.filterMap fun
    | .record _ => none
    | .response r => some r

/-- Everything that is put out as text: the records from a level up, and the responses. -/
def output (s : Session) (least : Level) : Text :=
  Text.concat (s.events.map fun
    | .record r => logLines least [r]
    | .response r => r.line)

end Session

/-- The warning for a line that is no JSON. -/
def ignoredRecord (line : List CodePoint) : Record :=
  record .warning ("Ignoring a line that is not JSON: " ++ Text.ofList (line.take 80))

/-- What the service does with a line. -/
inductive LineContent where
  | blank
  | malformed (line : List CodePoint)
  | request (v : Value)
  /-- A number in the line is too long to be read, or its values are nested too deep. -/
  | unreadable (e : Json.ReadError)

/-- What a line holds. -/
def readLine (line : List CodePoint) : LineContent :=
  match Text.strip line with
  | [] => .blank
  | cs =>
    match Json.read cs with
    | .ok v => .request v
    | .error (.malformed _ _ _ _) => .malformed cs
    | .error e => .unreadable e

/-- Answer the requests of lines in order. -/
def serveLines (env : Environment) (t : FileTree) : List (List CodePoint) → Session
  | [] => ⟨t, [], .ok ()⟩
  | l :: r =>
    match readLine l with
    | .blank => serveLines env t r
    | .malformed cs =>
      let s := serveLines env t r
      { s with events := .record (ignoredRecord cs) :: s.events }
    | .unreadable e => ⟨t, [], .error (.json e)⟩
    | .request v =>
      let a := handle env t v
      let s := serveLines env a.tree r
      { s with events := a.events ++ s.events }

/-- Answer the requests of a text, one on a line. -/
def serve (env : Environment) (t : FileTree) (input : Text) : Session :=
  serveLines env t (Text.segments '\n' input.toList)

end ModelBindings.Service
