set_option autoImplicit false

namespace Workflow

inductive ProcessStatus where
  | active
  | suspended
  | aborted
  | completed
deriving DecidableEq, Repr

namespace ProcessStatus

def terminal : ProcessStatus → Bool
  | .aborted => true
  | .completed => true
  | _ => false

def name : ProcessStatus → String
  | .active => "ACTIVE"
  | .suspended => "SUSPENDED"
  | .aborted => "ABORTED"
  | .completed => "COMPLETED"

def ofName? : String → Option ProcessStatus
  | "ACTIVE" => some .active
  | "SUSPENDED" => some .suspended
  | "ABORTED" => some .aborted
  | "COMPLETED" => some .completed
  | _ => none

def lower : ProcessStatus → String
  | .active => "active"
  | .suspended => "suspended"
  | .aborted => "aborted"
  | .completed => "completed"

def ofLower? : String → Option ProcessStatus
  | "active" => some .active
  | "suspended" => some .suspended
  | "aborted" => some .aborted
  | "completed" => some .completed
  | _ => none

theorem ofName?_name (status : ProcessStatus) : ofName? status.name = some status := by
  cases status <;> rfl

theorem ofLower?_lower (status : ProcessStatus) : ofLower? status.lower = some status := by
  cases status <;> rfl

end ProcessStatus

inductive TaskStatus where
  | notStarted
  | waiting
  | ready
  | inProgress
  | completed
  | skipped
deriving DecidableEq, Repr

namespace TaskStatus

def terminal : TaskStatus → Bool
  | .completed => true
  | .skipped => true
  | _ => false

def held : TaskStatus → Bool
  | .notStarted => true
  | .waiting => true
  | _ => false

def name : TaskStatus → String
  | .notStarted => "NOT_STARTED"
  | .waiting => "CHAIN_WAIT"
  | .ready => "READY"
  | .inProgress => "IN_PROGRESS"
  | .completed => "COMPLETED"
  | .skipped => "SKIPPED"

def ofName? : String → Option TaskStatus
  | "NOT_STARTED" => some .notStarted
  | "CHAIN_WAIT" => some .waiting
  | "READY" => some .ready
  | "IN_PROGRESS" => some .inProgress
  | "COMPLETED" => some .completed
  | "SKIPPED" => some .skipped
  | _ => none

def lower : TaskStatus → String
  | .notStarted => "not_started"
  | .waiting => "chain_wait"
  | .ready => "ready"
  | .inProgress => "in_progress"
  | .completed => "completed"
  | .skipped => "skipped"

theorem ofName?_name (status : TaskStatus) : ofName? status.name = some status := by
  cases status <;> rfl

end TaskStatus

inductive StopType where
  | suspended
  | aborted
deriving DecidableEq, Repr

namespace StopType

def name : StopType → String
  | .suspended => "SUSPENDED"
  | .aborted => "ABORTED"

def ofName? : String → Option StopType
  | "SUSPENDED" => some .suspended
  | "ABORTED" => some .aborted
  | _ => none

def lower : StopType → String
  | .suspended => "suspended"
  | .aborted => "aborted"

theorem ofName?_name (type : StopType) : ofName? type.name = some type := by
  cases type <;> rfl

end StopType

inductive LifecycleAction where
  | started
  | suspended
  | aborted
  | resumed
  | completed
deriving DecidableEq, Repr

namespace LifecycleAction

def name : LifecycleAction → String
  | .started => "STARTED"
  | .suspended => "SUSPENDED"
  | .aborted => "ABORTED"
  | .resumed => "RESUMED"
  | .completed => "COMPLETED"

def ofName? : String → Option LifecycleAction
  | "STARTED" => some .started
  | "SUSPENDED" => some .suspended
  | "ABORTED" => some .aborted
  | "RESUMED" => some .resumed
  | "COMPLETED" => some .completed
  | _ => none

theorem ofName?_name (action : LifecycleAction) : ofName? action.name = some action := by
  cases action <;> rfl

end LifecycleAction

end Workflow
