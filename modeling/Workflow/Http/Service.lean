import Workflow.Document.Answer
import Workflow.Http.Route

set_option autoImplicit false

namespace Workflow

namespace Http

def errorStatus (error : Error) : Status :=
  match error.kind with
  | .validation => .unprocessable
  | .conflict => .conflict
  | .notFound => .notFound
  | .other =>
    match error with
    | .directory _ => .unavailable
    | _ => .internalError

def violationMembers : Error → List (String × Json)
  | .graph (first :: rest) =>
    [("violations", .list ((first :: rest).map fun violation => .text violation.message))]
  | _ => []

def errorResponse (error : Error) : Response where
  status := errorStatus error
  body := .json (.record (("error", .text error.message) :: violationMembers error))

def refuse : Refusal → Response
  | .rejected status => ⟨status, .text ""⟩
  | .fault error => errorResponse error

def document (now : Instant) : Engine.Answer → Body
  | .compiled compiled => .json compiled.json
  | .template template => .json (Template.record.shape.write template)
  | .templates templates => .json (.list (templates.map Template.record.shape.write))
  | .deleted => .text ""
  | .started started =>
    .json (.record ((started.run.view now).members ++
      [("warnings", .list (started.warnings.map Warning.json))]))
  | .run run => .json (.record (run.view now).members)
  | .runs runs => .json (.list (runs.map fun run => run.process.json))
  | .rows rows => .json (.list (rows.map AssigneeRow.json))

variable {σ : Type}

def answerQuestion (engine : Engine σ) (question : Question) (world : World σ) :
    Response × World σ :=
  match question with
  | .health => (⟨.ok, .text "ok"⟩, world)
  | .call call success =>
    match engine.perform call world with
    | (.ok answer, world) => (⟨success, document world.clock answer⟩, world)
    | (.error error, world) => (errorResponse error, world)

def Response.cutFor (response : Response) (method : Method) : Response :=
  if method = .head then { response with body := .text "" } else response

def respond (engine : Engine σ) (request : Request) (world : World σ) : Response × World σ :=
  let (response, world) :=
    match Route.ofSegments? request.target.segments with
    | none => (refuse (.rejected .notFound), world)
    | some route =>
      match request.question route with
      | .error refusal => (refuse refusal, world)
      | .ok question => answerQuestion engine question world
  (response.cutFor request.method, world)

end Http

end Workflow
