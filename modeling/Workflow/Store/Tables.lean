import Workflow.Store.Basic
import Workflow.Store.Row

/-!
The tables of templates and of runs, and the statements that reach them. A statement is refused when
its table does not exist or when a refusal was ordered; a refused statement changes no table. What the
tables keep of what is bound is up to them: real ones keep the text of a document, as `Json.reread`
does, and times without what is finer than a microsecond.
-/

set_option autoImplicit false

namespace Workflow

inductive Statement where
  | upsertTemplate (row : TemplateRow)
  | getTemplate (id : Uuid)
  | listTemplates
  | deleteTemplate (id : Uuid)
  | upsertRun (row : RunRow)
  | getRun (id : Uuid)
  | listRuns (status : Option String)

namespace Statement

def name : Statement → String
  | .upsertTemplate _ => "upsertTemplate"
  | .getTemplate _ => "getTemplate"
  | .listTemplates => "listTemplates"
  | .deleteTemplate _ => "deleteTemplate"
  | .upsertRun _ => "upsertRun"
  | .getRun _ => "getRun"
  | .listRuns _ => "listRuns"

def table : Statement → String
  | .upsertRun _ => "process_runs"
  | .getRun _ => "process_runs"
  | .listRuns _ => "process_runs"
  | _ => "process_templates"

def params : Statement → List Json
  | .upsertTemplate row => (TemplateRow.record.write row).map (·.2)
  | .getTemplate id => [Shape.uuid.write id]
  | .listTemplates => []
  | .deleteTemplate id => [Shape.uuid.write id]
  | .upsertRun row => (RunRow.record.write row).map (·.2)
  | .getRun id => [Shape.uuid.write id]
  | .listRuns status => [Shape.text.optional.write status]

end Statement

structure AppliedMigration where
  version : Int
  description : String
  success : Bool
  intact : Bool
deriving DecidableEq

structure Tables where
  exist : Bool := true
  templates : List TemplateRow := []
  runs : List RunRow := []
  applied : List AppliedMigration := []
  -- How many more statements succeed before one is refused, and with what text.
  refusal : Option (Nat × String) := none
  -- What was asked, the latest first, and whether it was refused.
  log : List (Statement × Bool) := []

abbrev TableAccess := ExceptT TableFault (StateM Tables)

structure Keeping where
  document : Json → Json
  time : Instant → Instant

namespace Keeping

def exact : Keeping := ⟨id, id⟩

def micros (document : Json → Json) : Keeping := ⟨document, Instant.wholeMicroseconds⟩

end Keeping

namespace Tables

def receive (statement : Statement) : TableAccess Unit := do
  let tables ← get
  let logged (refused : Bool) : Tables :=
    { tables with log := (statement, refused) :: tables.log }
  if !tables.exist then do
    set (logged true)
    throw (.refused s!"relation \"{statement.table}\" does not exist")
  else
    match tables.refusal with
    | some (0, message) => do
      set { logged true with refusal := none }
      throw (.refused message)
    | some (after + 1, message) => set { logged false with refusal := some (after, message) }
    | none => set (logged false)

def bindTemplate (keeping : Keeping) (row : TemplateRow) : TemplateRow :=
  { row with
    document := keeping.document row.document
    createdAt := keeping.time row.createdAt
    updatedAt := keeping.time row.updatedAt }

def bindRun (keeping : Keeping) (row : RunRow) : RunRow :=
  { row with
    document := keeping.document row.document
    startAt := keeping.time row.startAt
    updatedAt := keeping.time row.updatedAt }

def overwriteTemplate (row : TemplateRow) : List TemplateRow → List TemplateRow
  | [] => [row]
  | first :: rest =>
    if first.id = row.id then { row with createdAt := first.createdAt } :: rest
    else first :: overwriteTemplate row rest

def overwriteRun (row : RunRow) : List RunRow → List RunRow
  | [] => [row]
  | first :: rest =>
    if first.id = row.id then
      { row with
        templateId := first.templateId
        startedById := first.startedById
        startAt := first.startAt } :: rest
    else first :: overwriteRun row rest

def writeTemplate (keeping : Keeping) (row : TemplateRow) : TableAccess Unit := do
  let row := bindTemplate keeping row
  receive (.upsertTemplate row)
  modify fun tables => { tables with templates := overwriteTemplate row tables.templates }

def upsertTemplate (keep : Json → Json) : TemplateRow → TableAccess Unit :=
  writeTemplate (.micros keep)

def template? (id : Uuid) : TableAccess (Option TemplateRow) := do
  receive (.getTemplate id)
  return (← get).templates.find? (·.id = id)

def listTemplates : TableAccess (List TemplateRow) := do
  receive .listTemplates
  return sortNewest (fun row => (row.updatedAt, row.id)) (← get).templates

def deleteTemplate (id : Uuid) : TableAccess Unit := do
  receive (.deleteTemplate id)
  let tables ← get
  if tables.templates.any (·.id = id) then
    set { tables with templates := tables.templates.filter (·.id ≠ id) }
  else throw .noRow

def writeRun (keeping : Keeping) (row : RunRow) : TableAccess Unit := do
  let row := bindRun keeping row
  receive (.upsertRun row)
  modify fun tables => { tables with runs := overwriteRun row tables.runs }

def upsertRun (keep : Json → Json) : RunRow → TableAccess Unit := writeRun (.micros keep)

def run? (id : Uuid) : TableAccess (Option RunRow) := do
  receive (.getRun id)
  return (← get).runs.find? (·.id = id)

def listRuns (status : Option String) : TableAccess (List RunRow) := do
  receive (.listRuns status)
  let rows := (← get).runs.filter fun row => status.all (· = row.status)
  return sortNewest (fun row => (row.startAt, row.id)) rows

def lift {α : Type} (access : TableAccess α) : Access Tables α := fun tables =>
  match access.run tables with
  | (.ok a, tables) => (.ok a, tables)
  | (.error fault, tables) => (.error (.tables fault), tables)

def repositoryOf (keeping : Keeping) : Repository Tables where
  saveTemplate template := lift (writeTemplate keeping template.row)
  template? id := do
    match ← lift (template? id) with
    | some row => return some (← row.template)
    | none => return none
  templates := do
    let rows ← lift listTemplates
    rows.mapM fun row => row.template
  deleteTemplate id := fun tables =>
    match (deleteTemplate id).run tables with
    | (.ok (), tables) => (.ok true, tables)
    | (.error .noRow, tables) => (.ok false, tables)
    | (.error fault, tables) => (.error (.tables fault), tables)
  saveRun run savedAt := lift (writeRun keeping (run.row savedAt))
  run? id := do
    match ← lift (run? id) with
    | some row => return some (← row.run)
    | none => return none
  runs status := do
    let rows ← lift (listRuns (status.map ProcessStatus.lower))
    rows.mapM fun row => row.run

def repository (keep : Json → Json) : Repository Tables := repositoryOf (.micros keep)

def initVersion : Int := 1

-- What stands in the way, lowest version first: a failure, then an unknown version, then a change.
def migrationFault? (applied : List AppliedMigration) : Option MigrationFault :=
  match applied.find? fun entry => !entry.success with
  | some entry => some (.dirty entry.version)
  | none =>
    match applied.find? fun entry => entry.version ≠ initVersion with
    | some entry => some (.missing entry.version)
    | none =>
      (applied.find? fun entry => !entry.intact).map fun entry => .modified entry.version

def record (entry : AppliedMigration) : List AppliedMigration → List AppliedMigration
  | [] => [entry]
  | first :: rest =>
    if first.version = entry.version then entry :: rest
    else if entry.version < first.version then entry :: first :: rest
    else first :: record entry rest

def migrate : TableAccess (List AppliedMigration) := do
  let tables ← get
  match migrationFault? tables.applied with
  | some fault => throw (.migration fault)
  | none =>
    if tables.applied.any (·.version = initVersion) then return tables.applied
    else
      let applied := record ⟨initVersion, "init", true, true⟩ tables.applied
      set { tables with exist := true, applied }
      return applied

end Tables

end Workflow
