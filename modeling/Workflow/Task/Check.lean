import Workflow.Error
import Workflow.Graph.Validation
import Workflow.Task.Template

set_option autoImplicit false

namespace Workflow

def TaskTemplate.edited (template edit : TaskTemplate) : TaskTemplate :=
  { template with
    predecessorIds := edit.predecessorIds
    predecessorMode := edit.predecessorMode }

def applyEdit (edit : TaskTemplate) : List TaskTemplate → Option (List TaskTemplate)
  | [] => none
  | first :: rest =>
    if first.id = edit.id then some (first.edited edit :: rest)
    else (applyEdit edit rest).map (first :: ·)

def applyEdits (templates : List TaskTemplate) : List TaskTemplate → Except Error (List TaskTemplate)
  | [] => .ok templates
  | edit :: rest =>
    match applyEdit edit templates with
    | some templates => applyEdits templates rest
    | none => .error (.request (.editedTask edit.id))

def listViolations (seen : List String) : List TaskTemplate → List Violation
  | [] => []
  | template :: rest =>
    (if template.id ∈ seen then [.repeatedNode template.id] else []) ++
      Violation.ofOffset template.id template.deadlineOffsetDays ++
      listViolations (template.id :: seen) rest

def badReference (ids : List String) (task : String) (listed : List String) :
    List String → Option (String × ReferenceProblem)
  | [] => none
  | predecessor :: rest =>
    if predecessor = task then some (predecessor, .itself)
    else if predecessor ∉ ids then some (predecessor, .unknown)
    else if predecessor ∈ listed then some (predecessor, .repeated)
    else badReference ids task (predecessor :: listed) rest

def badReferences (ids : List String) : List TaskTemplate → Option Error
  | [] => none
  | template :: rest =>
    match badReference ids template.id [] template.predecessorIds with
    | some (predecessor, problem) => some (.predecessor template.id predecessor problem)
    | none => badReferences ids rest

def check (templates : List TaskTemplate) : Except Error Unit :=
  let ids := templates.map TaskTemplate.id
  match listViolations [] templates with
  | [] =>
    match badReferences ids templates with
    | some error => .error error
    | none =>
      match findCycles ids (predecessorArcs templates) with
      | [] => .ok ()
      | cycles => .error (.graph (cycles.map .cycle))
  | violations => .error (.graph violations)

end Workflow
