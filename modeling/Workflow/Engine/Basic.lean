import Workflow.Directory
import Workflow.Graph.Compile
import Workflow.Process.Basic
import Workflow.Store.Basic

set_option autoImplicit false

namespace Workflow

inductive Sink where
  | recording
  -- Records an event and then reports that it was not delivered.
  | failing
  | log
deriving DecidableEq, Repr

def Sink.publish (sink : Sink) (record : List Event) (event : Event) : List Event × Bool :=
  match sink with
  | .recording => (record ++ [event], true)
  | .failing => (record ++ [event], false)
  | .log => (record, true)

structure World (σ : Type) where
  store : σ
  clock : Instant
  published : List Event := []
  drawn : Nat := 0

structure Engine (σ : Type) where
  repository : Repository σ
  directory : Directory := .listed []
  sink : Sink := .recording
  config : Config := {}
  ids : Nat → Uuid

abbrev Act (σ : Type) := ExceptT Error (StateM (World σ))

namespace Engine

variable {σ : Type}

def ask {α : Type} (access : Access σ α) : Act σ α := fun world =>
  let (answer, store) := access.run world.store
  (answer, { world with store })

def now : Act σ Instant := return (← get).clock

def supply (engine : Engine σ) : Act σ (Nat → Uuid) := do
  let drawn := (← get).drawn
  return fun number => engine.ids (drawn + number)

def draw (count : Nat) : Act σ Unit :=
  modify fun world => { world with drawn := world.drawn + count }

def publish (engine : Engine σ) (events : List Event) : Act σ Unit :=
  modify fun world =>
    { world with
      published := events.foldl (fun record event => (engine.sink.publish record event).1)
        world.published }

end Engine

end Workflow
