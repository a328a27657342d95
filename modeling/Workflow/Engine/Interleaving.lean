import Workflow.Process.Transition
import Workflow.Store.Basic

/-!
Moves made at the same time. A caller looks up the lock of its process, waits for it, reads the run,
moves it, saves it or is refused, gives the lock back, and forgets the lock of a run that is over.
Callers take their steps in any order. One that waits keeps the lock it looked up, also when that
lock is forgotten meanwhile and the next caller makes a new one.
-/

set_option autoImplicit false

namespace Workflow.Interleaving

structure Errand where
  process : Uuid
  move : Move
  time : Instant
deriving DecidableEq

inductive Phase where
  | arrived
  | waiting (lock : Nat)
  | entered (lock : Nat)
  | loaded (lock : Nat) (run : Run)
  | moved (lock : Nat) (run : Run)
  | leaving (lock : Nat) (answer : Except Error Run)
  | left (answer : Except Error Run)
  | served (answer : Except Error Run)

structure Shared where
  shelf : Shelf
  locks : Uuid → Option Nat := fun _ => none
  made : Nat := 0
  held : List Nat := []

namespace Shared

def setLock (shared : Shared) (process : Uuid) (lock : Option Nat) : Shared :=
  { shared with locks := fun id => if id = process then lock else shared.locks id }

def lockFor (shared : Shared) (process : Uuid) : Nat × Shared :=
  match shared.locks process with
  | some lock => (lock, shared)
  | none => (shared.made, { shared.setLock process (some shared.made) with made := shared.made + 1 })

def acquire? (shared : Shared) (lock : Nat) : Option Shared :=
  if lock ∈ shared.held then none else some { shared with held := lock :: shared.held }

def giveBack (shared : Shared) (lock : Nat) : Shared :=
  { shared with held := shared.held.filter (· ≠ lock) }

-- A run that is over refuses every move, so its lock can go.
def forget (shared : Shared) (process : Uuid) (answer : Except Error Run) : Shared :=
  match answer with
  | .ok run => if run.process.status.terminal then shared.setLock process none else shared
  | .error _ => shared

end Shared

def Errand.advance? (errand : Errand) (shared : Shared) : Phase → Option (Phase × Shared)
  | .arrived =>
    let (lock, shared) := shared.lockFor errand.process
    some (.waiting lock, shared)
  | .waiting lock => (shared.acquire? lock).map fun shared => (.entered lock, shared)
  | .entered lock =>
    match shared.shelf.run? errand.process with
    | some run => some (.loaded lock run, shared)
    | none => some (.leaving lock (.error (.noProcess errand.process)), shared)
  | .loaded lock run =>
    match run.apply errand.time errand.move with
    | .ok (run, _) => some (.moved lock run, shared)
    | .error error => some (.leaving lock (.error error), shared)
  | .moved lock run =>
    some (.leaving lock (.ok run), { shared with shelf := shared.shelf.putRun run })
  | .leaving lock answer => some (.left answer, shared.giveBack lock)
  | .left answer => some (.served answer, shared.forget errand.process answer)
  | .served _ => none

structure Caller where
  errand : Errand
  phase : Phase := .arrived

structure State where
  callers : List Caller
  shared : Shared

namespace State

def arrive (shelf : Shelf) (errands : List Errand) : State :=
  ⟨errands.map fun errand => { errand }, { shelf }⟩

def step? (state : State) (number : Nat) : Option State := do
  let caller ← state.callers[number]?
  let (phase, shared) ← caller.errand.advance? state.shared caller.phase
  return ⟨state.callers.set number { caller with phase }, shared⟩

def schedule? (state : State) : List Nat → Option State
  | [] => some state
  | number :: rest => (state.step? number).bind fun next => next.schedule? rest

end State

end Workflow.Interleaving
