import Workflow.Engine.Operations

set_option autoImplicit false

namespace Workflow.Engine

inductive Call where
  | preview (graph : Graph)
  | saveTemplate (draft : Draft)
  | template (id : Uuid)
  | templates
  | deleteTemplate (id : Uuid)
  | start (request : StartRequest)
  | run (id : Uuid)
  | runs (status : Option ProcessStatus)
  | move (id : Uuid) (move : Move)
  | summary
deriving DecidableEq

inductive Answer where
  | compiled (compiled : Compiled)
  | template (template : Template)
  | templates (templates : List Template)
  | deleted
  | started (started : Started)
  | run (run : Run)
  | runs (runs : List Run)
  | rows (rows : List AssigneeRow)
deriving DecidableEq

variable {σ : Type}

def answer (engine : Engine σ) : Call → Act σ Answer
  | .preview graph => .compiled <$> engine.preview graph
  | .saveTemplate draft => .template <$> engine.saveTemplate draft
  | .template id => .template <$> engine.template id
  | .templates => .templates <$> engine.templates
  | .deleteTemplate id => (fun _ => .deleted) <$> engine.deleteTemplate id
  | .start request => .started <$> engine.start request
  | .run id => .run <$> engine.run id
  | .runs status => .runs <$> engine.runs status
  | .move id move => .run <$> engine.move id move
  | .summary => .rows <$> engine.summary

def perform (engine : Engine σ) (call : Call) (world : World σ) :
    Except Error Answer × World σ :=
  (engine.answer call).run.run world

def history (engine : Engine σ) (world : World σ) (calls : List Call) : World σ :=
  calls.foldl (fun world call => (engine.perform call world).2) world

structure Setting where
  directory : Directory := .listed []
  sink : Sink := .recording
  config : Config := {}
  ids : Nat → Uuid

def Setting.over (setting : Setting) (repository : Repository σ) : Engine σ where
  repository
  directory := setting.directory
  sink := setting.sink
  config := setting.config
  ids := setting.ids

def performAt (engine : Engine σ) (world : World σ) (now : Instant) (call : Call) :
    Except Error Answer × World σ :=
  engine.perform call { world with clock := now }

def session (engine : Engine σ) (world : World σ) :
    List (Instant × Call) → List (Except Error Answer) × World σ
  | [] => ([], world)
  | (now, call) :: rest =>
    let (answer, world) := engine.performAt world now call
    let (answers, world) := engine.session world rest
    (answer :: answers, world)

def outset (store : σ) : World σ := { store, clock := .epoch }

end Workflow.Engine
