import Workflow.Error
import Workflow.Process.Basic
import Workflow.Template

set_option autoImplicit false

namespace Workflow

abbrev Access (σ : Type) := ExceptT Error (StateM σ)

structure Repository (σ : Type) where
  saveTemplate : Template → Access σ Unit
  template? : Uuid → Access σ (Option Template)
  -- The most recently updated first.
  templates : Access σ (List Template)
  deleteTemplate : Uuid → Access σ Bool
  saveRun : Run → Instant → Access σ Unit
  run? : Uuid → Access σ (Option Run)
  -- The most recently started first, of one status or of all.
  runs : Option ProcessStatus → Access σ (List Run)

def newestFirst (a b : Instant × Uuid) : Bool := b.1 < a.1 || (a.1 = b.1 && a.2 ≤ b.2)

def sortNewest {α : Type} (key : α → Instant × Uuid) (xs : List α) : List α :=
  xs.mergeSort fun a b => newestFirst (key a) (key b)

def putEntry {α : Type} (key : α → Uuid) (entry : α) : List α → List α
  | [] => [entry]
  | first :: rest =>
    if key first = key entry then entry :: rest else first :: putEntry key entry rest

structure Shelf where
  templates : List Template := []
  runs : List Run := []
deriving DecidableEq

namespace Shelf

def template? (shelf : Shelf) (id : Uuid) : Option Template := shelf.templates.find? (·.id = id)

def run? (shelf : Shelf) (id : Uuid) : Option Run := shelf.runs.find? (·.id = id)

def putTemplate (shelf : Shelf) (template : Template) : Shelf :=
  { shelf with templates := putEntry Template.id template shelf.templates }

def putRun (shelf : Shelf) (run : Run) : Shelf :=
  { shelf with runs := putEntry Run.id run shelf.runs }

def removeTemplate (shelf : Shelf) (id : Uuid) : Shelf :=
  { shelf with templates := shelf.templates.filter (·.id ≠ id) }

def listTemplates (shelf : Shelf) : List Template :=
  sortNewest (fun template => (template.updatedAt, template.id)) shelf.templates

def hasStatus (status : Option ProcessStatus) (run : Run) : Bool :=
  match status with
  | none => true
  | some status => run.process.status = status

def listRuns (shelf : Shelf) (status : Option ProcessStatus) : List Run :=
  sortNewest (fun run => (run.process.startAt, run.id)) (shelf.runs.filter (hasStatus status))

def repository : Repository Shelf where
  saveTemplate template := modify (·.putTemplate template)
  template? id := return (← get).template? id
  templates := return (← get).listTemplates
  deleteTemplate id := do
    let found := ((← get).template? id).isSome
    modify (·.removeTemplate id)
    return found
  saveRun run _ := modify (·.putRun run)
  run? id := return (← get).run? id
  runs status := return (← get).listRuns status

end Shelf

end Workflow
