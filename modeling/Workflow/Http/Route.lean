import Workflow.Document.Run
import Workflow.Document.Template
import Workflow.Engine.Call
import Workflow.Http.Message
import Workflow.Json.Reader

set_option autoImplicit false

namespace Workflow.Http

inductive Route where
  | health
  | templates
  | preview
  | template (id : String)
  | processes
  | process (id : String)
  | task (id task : String) (action : TaskAction)
  | stop (id : String)
  | resume (id : String)
  | assignees
deriving DecidableEq, Repr

-- An id at the end of a path is not empty; an empty one elsewhere is an id that names nothing.
def Route.ofSegments? : List String → Option Route
  | ["healthz"] => some .health
  | ["templates"] => some .templates
  | ["templates", "compile"] => some .preview
  | ["templates", id] => if id = "" then none else some (.template id)
  | ["processes"] => some .processes
  | ["processes", id] => if id = "" then none else some (.process id)
  | ["processes", owner, "tasks", id, action] =>
    (TaskAction.ofName? action).map (.task owner id)
  | ["processes", id, "stop"] => some (.stop id)
  | ["processes", id, "resume"] => some (.resume id)
  | ["assignees", "progress"] => some .assignees
  | _ => none

inductive Refusal where
  | rejected (status : Status)
  | fault (error : Error)
deriving DecidableEq

abbrev Understanding (α : Type) := Except Refusal α

inductive Question where
  | health
  | call (call : Engine.Call) (success : Status)
deriving DecidableEq

namespace Request

def pathId (segment : String) : Understanding Uuid :=
  match (segmentText? segment).bind Uuid.parse? with
  | some id => .ok id
  | none => .error (.rejected .badRequest)

-- The value at the front of the body; what follows it is ignored.
def document {α : Type} (request : Request) (shape : Shape α) : Understanding α :=
  if request.announcesJson then
    match shape.read Json.depthLimit (Json.outlineOf request.body).1 with
    | .ok value => .ok value
    | .error .malformed => .error (.rejected .badRequest)
    | .error .misshapen => .error (.rejected .unprocessable)
  else .error (.rejected .unsupportedMediaType)

def status (request : Request) : Understanding (Option ProcessStatus) :=
  match (request.target.fields.filter (·.1 = "status")).map (·.2) with
  | [] => .ok none
  | [text] =>
    match ProcessStatus.ofLower? text with
    | some status => .ok (some status)
    | none => .error (.fault (.request (.unknownStatus text)))
  | _ => .error (.rejected .badRequest)

def reasonRecord : Record (Option String) (Option String) :=
  Record.optional "reason" id Shape.text

-- The reason of a skip; a body that cannot be read counts as absent.
def reason (request : Request) : Option String :=
  match request.document reasonRecord.shape with
  | .ok reason => reason
  | .error _ => none

def taskMove (request : Request) (task : Uuid) : TaskAction → Move
  | .start => .start task
  | .complete => .complete task
  | .skip => .skip task request.reason

def question (request : Request) (route : Route) : Understanding Question :=
  let method := if request.method = .head then .get else request.method
  match route, method with
  | .health, .get => .ok .health
  | .templates, .get => .ok (.call .templates .ok)
  | .templates, .post => do
    let draft ← request.document Draft.record.shape
    return .call (.saveTemplate { draft with id := none }) .created
  | .preview, .post => do
    let graph ← request.document Graph.record.shape
    return .call (.preview graph) .ok
  | .template segment, .get => do return .call (.template (← pathId segment)) .ok
  | .template segment, .put => do
    let id ← pathId segment
    let draft ← request.document Draft.record.shape
    return .call (.saveTemplate { draft with id := some id }) .ok
  | .template segment, .delete => do return .call (.deleteTemplate (← pathId segment)) .noContent
  | .processes, .get => do return .call (.runs (← request.status)) .ok
  | .processes, .post => do
    let start ← request.document StartRequest.record.shape
    return .call (.start start) .created
  | .process segment, .get => do return .call (.run (← pathId segment)) .ok
  | .task segment task action, .post => do
    let id ← pathId segment
    let task ← pathId task
    return .call (.move id (request.taskMove task action)) .ok
  | .stop segment, .post => do
    let id ← pathId segment
    let stop ← request.document StopRequest.record.shape
    return .call (.move id (.stop stop)) .ok
  | .resume segment, .post => do
    let id ← pathId segment
    let resume ← request.document ResumeRequest.record.shape
    return .call (.move id (.resume resume)) .ok
  | .assignees, .get => .ok (.call .summary .ok)
  | _, _ => .error (.rejected .methodNotAllowed)

end Request

end Workflow.Http
