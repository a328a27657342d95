import Workflow.Graph.Violation
import Workflow.Process.Status
import Workflow.Time.Rfc3339
import Workflow.Uuid

set_option autoImplicit false

namespace Workflow

inductive ReferenceProblem where
  | itself
  | unknown
  | repeated
deriving DecidableEq, Repr

def ReferenceProblem.message : ReferenceProblem → String
  | .itself => "a task cannot precede itself"
  | .unknown => "no such task in this template"
  | .repeated => "listed more than once"

inductive TaskAction where
  | start
  | complete
  | skip
deriving DecidableEq, Repr

def TaskAction.name : TaskAction → String
  | .start => "start"
  | .complete => "complete"
  | .skip => "skip"

def TaskAction.ofName? : String → Option TaskAction
  | "start" => some .start
  | "complete" => some .complete
  | "skip" => some .skip
  | _ => none

inductive ProcessAction where
  | suspend
  | abort
  | resume
  | advance
deriving DecidableEq, Repr

def ProcessAction.name : ProcessAction → String
  | .suspend => "suspend"
  | .abort => "abort"
  | .resume => "resume"
  | .advance => "advance tasks of"

inductive RequestFault where
  | blankTemplateTitle
  | nothingToSave
  | editedTask (id : String)
  | blankProcessTitle
  | blankStarter
  | noTasks (template : Uuid)
  | unknownAssigned (task : String)
  | tooManyAssignees (task : String) (limit : Nat)
  | unknownPlanned (task : String)
  | plannedTwice (task : String)
  | farDeadline (days : Nat) (anchor : Instant)
  | blankReason
  | blankActor
  | unknownStatus (text : String)
deriving DecidableEq

def RequestFault.message : RequestFault → String
  | .blankTemplateTitle => "template title must not be empty"
  | .nothingToSave => "a template needs a graph or a task list"
  | .editedTask id => s!"edited task '{id}' is not a task in the graph"
  | .blankProcessTitle => "process title must not be empty"
  | .blankStarter => "startedById must not be empty"
  | .noTasks template => s!"template {template.render} has no tasks"
  | .unknownAssigned task => s!"taskAssignees references unknown task template '{task}'"
  | .tooManyAssignees task limit => s!"task template '{task}' has more than {limit} assignees"
  | .unknownPlanned task => s!"taskPlans references unknown task template '{task}'"
  | .plannedTwice task => s!"taskPlans lists task template '{task}' twice"
  | .farDeadline days anchor =>
    s!"deadline {days} days after {anchor.display} is out of range"
  | .blankReason => "a reason is required to stop a process instance"
  | .blankActor => "actorId must not be empty"
  | .unknownStatus text => s!"unknown instance status: {text}"

inductive DirectoryFault where
  | unavailable (message : String)
  | rejected (message : String)
deriving DecidableEq

def DirectoryFault.message : DirectoryFault → String
  | .unavailable message => s!"service unavailable: {message}"
  | .rejected message => s!"service rejected request: {message}"

inductive MigrationFault where
  | dirty (version : Int)
  | missing (version : Int)
  | modified (version : Int)
deriving DecidableEq

def MigrationFault.message : MigrationFault → String
  | .dirty version =>
    s!"migration {version} is partially applied; fix and remove row from `_sqlx_migrations` table"
  | .missing version =>
    s!"migration {version} was previously applied but is missing in the resolved migrations"
  | .modified version => s!"migration {version} was previously applied but has been modified"

inductive TableFault where
  | refused (message : String)
  | noRow
  | migration (fault : MigrationFault)
deriving DecidableEq

def TableFault.message : TableFault → String
  | .refused message => s!"sqlx error: error returned from database: {message}"
  | .noRow => "row not found"
  | .migration fault => s!"migration error: {fault.message}"

inductive Error where
  | graph (violations : List Violation)
  | predecessor (task listed : String) (problem : ReferenceProblem)
  | request (fault : RequestFault)
  | task (action : TaskAction) (id : Uuid) (status : TaskStatus)
  | process (action : ProcessAction) (id : Uuid) (status : ProcessStatus)
  | noTemplate (id : Uuid)
  | noProcess (id : Uuid)
  | noTask (process task : Uuid)
  | tables (fault : TableFault)
  | document
  | directory (fault : DirectoryFault)
deriving DecidableEq

namespace Error

def message : Error → String
  | .graph violations =>
    "invalid process graph: " ++ "; ".intercalate (violations.map Violation.message)
  | .predecessor waiting listed problem =>
    s!"task '{waiting}' lists predecessor '{listed}': {problem.message}"
  | .request fault => s!"invalid request: {fault.message}"
  | .task action id status =>
    s!"cannot {action.name} task {id.render} while it is {status.lower}"
  | .process action id status =>
    s!"cannot {action.name} process instance {id.render} while it is {status.lower}"
  | .noTemplate id => s!"process template {id.render} not found"
  | .noProcess id => s!"process instance {id.render} not found"
  | .noTask owner id => s!"task {id.render} not found in process instance {owner.render}"
  | .tables fault => s!"database error: {fault.message}"
  | .document => "serialization error"
  | .directory fault => s!"user directory error: {fault.message}"

inductive Kind where
  | validation
  | conflict
  | notFound
  | other
deriving DecidableEq, Repr

def kind : Error → Kind
  | .graph _ => .validation
  | .predecessor _ _ _ => .validation
  | .request _ => .validation
  | .task _ _ _ => .conflict
  | .process _ _ _ => .conflict
  | .noTemplate _ => .notFound
  | .noProcess _ => .notFound
  | .noTask _ _ => .notFound
  | .tables _ => .other
  | .document => .other
  | .directory _ => .other

end Error

end Workflow
