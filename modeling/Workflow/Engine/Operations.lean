import Workflow.Engine.Basic
import Workflow.Process.Progress
import Workflow.Process.Staffing
import Workflow.Process.Transition
import Workflow.Task.Check

set_option autoImplicit false

namespace Workflow

namespace Draft

def content (draft : Draft) (config : Config) : Except Error (Graph × List TaskTemplate) :=
  match draft.graph, draft.tasks with
  | some graph, none => do
    let compiled ← graph.compileWith config
    return (compiled.graph, compiled.tasks)
  | some graph, some edits => do
    let compiled ← graph.compileWith config
    let tasks ← applyEdits compiled.tasks edits
    return (compiled.graph, tasks)
  | none, some tasks => .ok ({}, tasks)
  | none, none => .error (.request .nothingToSave)

def checked (draft : Draft) (config : Config) : Except Error (Graph × List TaskTemplate) :=
  if Text.trim draft.title = "" then .error (.request .blankTemplateTitle)
  else do
    let (graph, tasks) ← draft.content config
    check tasks
    return (graph, tasks)

def template (draft : Draft) (graph : Graph) (tasks : List TaskTemplate) (id : Uuid)
    (createdAt updatedAt : Instant) : Template where
  id
  title := Text.trim draft.title
  description := draft.description
  type := draft.type
  tasks
  graph
  visibility := draft.visibility
  createdAt
  updatedAt

end Draft

namespace Engine

variable {σ : Type}

def preview (engine : Engine σ) (graph : Graph) : Act σ Compiled :=
  liftExcept (graph.compileWith engine.config)

def template (engine : Engine σ) (id : Uuid) : Act σ Template := do
  match ← ask (engine.repository.template? id) with
  | some template => return template
  | none => throw (.noTemplate id)

def templates (engine : Engine σ) : Act σ (List Template) := ask engine.repository.templates

-- Under a new id, or over the template that the draft names, which keeps its time of creation.
def saveTemplate (engine : Engine σ) (draft : Draft) : Act σ Template := do
  let (graph, tasks) ← liftExcept (draft.checked engine.config)
  let now ← now
  match draft.id with
  | some id =>
    let existing ← engine.template id
    let saved := draft.template graph tasks id existing.createdAt now
    ask (engine.repository.saveTemplate saved)
    return saved
  | none =>
    let ids ← engine.supply
    let saved := draft.template graph tasks (ids 0) now now
    ask (engine.repository.saveTemplate saved)
    draw 1
    return saved

def deleteTemplate (engine : Engine σ) (id : Uuid) : Act σ Unit := do
  if ← ask (engine.repository.deleteTemplate id) then return ()
  else throw (.noTemplate id)

end Engine

structure Started where
  run : Run
  warnings : List Warning
deriving DecidableEq

structure View where
  process : Process
  tasks : List Task
  report : Report
deriving DecidableEq

def Run.view (run : Run) (now : Instant) : View := ⟨run.process, run.tasks, run.report now⟩

namespace Engine

variable {σ : Type}

def start (engine : Engine σ) (request : StartRequest) : Act σ Started := do
  liftExcept request.checkWords
  let template ← engine.template request.templateId
  liftExcept (request.check template engine.config.maxFanOut)
  let (seeds, warnings) ← liftExcept (request.staff engine.directory template.tasks)
  let now ← now
  let ids ← engine.supply
  let (run, events) ← liftExcept (request.launch template seeds now ids)
  ask (engine.repository.saveRun run now)
  draw (run.tasks.length + 1)
  engine.publish events
  return { run, warnings }

def run (engine : Engine σ) (id : Uuid) : Act σ Run := do
  match ← ask (engine.repository.run? id) with
  | some run => return run
  | none => throw (.noProcess id)

def runs (engine : Engine σ) (status : Option ProcessStatus) : Act σ (List Run) :=
  ask (engine.repository.runs status)

def move (engine : Engine σ) (id : Uuid) (move : Move) : Act σ Run := do
  let run ← engine.run id
  let now ← now
  let (run, events) ← liftExcept (run.apply now move)
  ask (engine.repository.saveRun run now)
  engine.publish events
  return run

def summary (engine : Engine σ) : Act σ (List AssigneeRow) := do
  let active ← engine.runs (some .active)
  let suspended ← engine.runs (some .suspended)
  return summarize (active ++ suspended) (← now)

end Engine

end Workflow
