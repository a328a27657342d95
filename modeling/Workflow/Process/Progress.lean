import Workflow.Process.Basic

set_option autoImplicit false

namespace Workflow

def past (now : Instant) : Option Instant → Bool
  | some time => time < now
  | none => false

def Task.overdue (task : Task) (now : Instant) : Bool :=
  !task.status.terminal && past now task.deadlineAt

def Process.delayed (process : Process) (tasks : List Task) (now : Instant) : Bool :=
  (process.status = .active && past now process.expectedEndAt) || tasks.any (·.overdue now)

structure Counts where
  total : Nat := 0
  completed : Nat := 0
  skipped : Nat := 0
  inProgress : Nat := 0
  ready : Nat := 0
  waiting : Nat := 0
  overdue : Nat := 0
deriving DecidableEq, Repr

namespace Counts

instance : Zero Counts := ⟨{}⟩

instance : Add Counts where
  add a b :=
    { total := a.total + b.total
      completed := a.completed + b.completed
      skipped := a.skipped + b.skipped
      inProgress := a.inProgress + b.inProgress
      ready := a.ready + b.ready
      waiting := a.waiting + b.waiting
      overdue := a.overdue + b.overdue }

def record (counts : Counts) (task : Task) (now : Instant) : Counts :=
  let counted : Counts :=
    match task.status with
    | .completed => { counts with completed := counts.completed + 1 }
    | .skipped => { counts with skipped := counts.skipped + 1 }
    | .inProgress => { counts with inProgress := counts.inProgress + 1 }
    | .ready => { counts with ready := counts.ready + 1 }
    | .notStarted => { counts with waiting := counts.waiting + 1 }
    | .waiting => { counts with waiting := counts.waiting + 1 }
  { counted with
    total := counts.total + 1
    overdue := if task.overdue now then counts.overdue + 1 else counts.overdue }

end Counts

structure Group where
  organization : Option String
  assignee : Option String
deriving DecidableEq, Repr

def Task.group (task : Task) : Group := ⟨task.organization, task.assigneeId⟩

def optionBefore : Option String → Option String → Bool
  | none, some _ => true
  | some a, some b => a < b
  | _, none => false

def Group.before (a b : Group) : Bool :=
  optionBefore a.organization b.organization ||
    (a.organization = b.organization && optionBefore a.assignee b.assignee)

structure AssigneeRow where
  group : Group
  name : Option String := none
  counts : Counts := {}
deriving DecidableEq

namespace AssigneeRow

def record (row : AssigneeRow) (task : Task) (now : Instant) : AssigneeRow :=
  { row with
    name := row.name.or task.assigneeName
    counts := row.counts.record task now }

def completionRatio (row : AssigneeRow) : Double :=
  Double.share (row.counts.completed + row.counts.skipped) row.counts.total

end AssigneeRow

def recordTask (now : Instant) (task : Task) : List AssigneeRow → List AssigneeRow
  | [] => [({ group := task.group } : AssigneeRow).record task now]
  | first :: rest =>
    if task.group = first.group then first.record task now :: rest
    else if task.group.before first.group then
      ({ group := task.group } : AssigneeRow).record task now :: first :: rest
    else first :: recordTask now task rest

def recordTasks (now : Instant) (rows : List AssigneeRow) (tasks : List Task) : List AssigneeRow :=
  tasks.foldl (fun rows task => recordTask now task rows) rows

structure OrganizationRows where
  organization : Option String
  assignees : List AssigneeRow
deriving DecidableEq

-- A row joins the last organization if it is of it, and begins one if not.
def placeRow (organizations : List OrganizationRows) (row : AssigneeRow) : List OrganizationRows :=
  match organizations.getLast? with
  | some last =>
    if last.organization = row.group.organization then
      organizations.dropLast ++ [{ last with assignees := last.assignees ++ [row] }]
    else organizations ++ [⟨row.group.organization, [row]⟩]
  | none => [⟨row.group.organization, [row]⟩]

def byOrganization (rows : List AssigneeRow) : List OrganizationRows := rows.foldl placeRow []

structure Report where
  counts : Counts
  delayed : Bool
  allTerminal : Bool
  organizations : List OrganizationRows
deriving DecidableEq

def Run.report (run : Run) (now : Instant) : Report :=
  let rows := recordTasks now [] run.tasks
  { counts := rows.foldl (fun counts row => counts + row.counts) {}
    delayed := run.process.delayed run.tasks now
    allTerminal := run.allTerminal
    organizations := byOrganization rows }

def summarize (runs : List Run) (now : Instant) : List AssigneeRow :=
  runs.foldl (fun rows run => recordTasks now rows run.tasks) []

end Workflow
