import Mathlib.Algebra.BigOperators.Group.List.Basic
import Mathlib.Data.List.Induction
import Mathlib.Data.Prod.Lex
import Mathlib.Data.String.Basic
import Mathlib.Order.WithBot
import Workflow.Process.Progress

set_option autoImplicit false

namespace Workflow

def rank (name : Option String) : WithBot String := name

def Group.key (group : Group) : WithBot String ×ₗ WithBot String :=
  toLex (rank group.organization, rank group.assignee)

theorem option_before_iff (a b : Option String) : optionBefore a b = true ↔ rank a < rank b := by
  cases b with
  | none => cases a <;> exact iff_of_false Bool.false_ne_true not_lt_bot
  | some b =>
      cases a with
      | none => exact iff_of_true rfl (WithBot.bot_lt_coe b)
      | some a => exact decide_eq_true_iff.trans WithBot.coe_lt_coe.symm

theorem before_iff (a b : Group) : a.before b = true ↔ a.key < b.key := by
  rw [Group.before, Bool.or_eq_true, Bool.and_eq_true, option_before_iff, option_before_iff,
    decide_eq_true_iff]
  exact Iff.symm Prod.Lex.toLex_lt_toLex

theorem key_injective : Function.Injective Group.key := by
  intro a b same
  have parts := Prod.ext_iff.mp (toLex.injective same)
  cases a
  cases b
  exact congrArg₂ Group.mk parts.1 parts.2

def Task.Late (task : Task) (now : Instant) : Prop :=
  (task.status ≠ .completed ∧ task.status ≠ .skipped) ∧
    ∃ limit, task.deadlineAt = some limit ∧ limit < now

theorem past_iff (now : Instant) (time : Option Instant) :
    past now time = true ↔ ∃ limit, time = some limit ∧ limit < now := by
  cases time <;> simp [past]

theorem overdue_iff (task : Task) (now : Instant) : task.overdue now = true ↔ task.Late now := by
  rw [Task.overdue, Bool.and_eq_true, past_iff]
  refine and_congr_left' ?_
  cases task.status <;> simp [TaskStatus.terminal]

instance (task : Task) (now : Instant) : Decidable (task.Late now) :=
  decidable_of_iff _ (overdue_iff task now)

namespace Counts

def of (tasks : List Task) (now : Instant) : Counts where
  total := tasks.length
  completed := tasks.countP (·.status = .completed)
  skipped := tasks.countP (·.status = .skipped)
  inProgress := tasks.countP (·.status = .inProgress)
  ready := tasks.countP (·.status = .ready)
  waiting := tasks.countP fun task => task.status = .notStarted ∨ task.status = .waiting
  overdue := tasks.countP (·.overdue now)

theorem of_overdue (tasks : List Task) (now : Instant) :
    (of tasks now).overdue = tasks.countP fun task => task.Late now :=
  List.countP_congr fun task _ => (overdue_iff task now).trans decide_eq_true_iff.symm

theorem zero_eq : (0 : Counts) = {} := rfl

theorem add_eq (a b : Counts) : a + b =
    { total := a.total + b.total
      completed := a.completed + b.completed
      skipped := a.skipped + b.skipped
      inProgress := a.inProgress + b.inProgress
      ready := a.ready + b.ready
      waiting := a.waiting + b.waiting
      overdue := a.overdue + b.overdue } := rfl

instance : AddCommMonoid Counts where
  add_assoc a b c := by simp only [add_eq, Nat.add_assoc]
  zero_add a := by simp only [zero_eq, add_eq, Nat.zero_add]
  add_zero a := rfl
  add_comm a b := by simp only [add_eq, Nat.add_comm]
  nsmul := nsmulRec

theorem of_append (tasks more : List Task) (now : Instant) :
    of (tasks ++ more) now = of tasks now + of more now := by
  simp only [of, add_eq, List.length_append, List.countP_append]

theorem record_eq (counts : Counts) (task : Task) (now : Instant) :
    counts.record task now = counts + of [task] now := by
  cases status : task.status <;> cases late : task.overdue now <;>
    simp [record, of, add_eq, status, late]

theorem record_of (tasks : List Task) (task : Task) (now : Instant) :
    (of tasks now).record task now = of (tasks ++ [task]) now := by
  rw [record_eq, of_append]

structure Balanced (counts : Counts) : Prop where
  statuses : counts.total =
    counts.completed + counts.skipped + counts.inProgress + counts.ready + counts.waiting
  late : counts.overdue ≤ counts.inProgress + counts.ready + counts.waiting

theorem record_balanced {counts : Counts} (balanced : counts.Balanced) (task : Task) (now : Instant) :
    (counts.record task now).Balanced := by
  obtain ⟨statuses, late⟩ := balanced
  refine ⟨?_, ?_⟩
  · cases status : task.status <;> simp only [record, status] <;> omega
  · -- What is done is not late, and what is open is counted as such.
    cases status : task.status <;>
      simp only [record, Task.overdue, status, TaskStatus.terminal] <;> grind

theorem of_balanced (tasks : List Task) (now : Instant) : (of tasks now).Balanced := by
  induction tasks using List.reverseRecOn with
  | nil => exact ⟨rfl, Nat.le_refl 0⟩
  | append_singleton tasks task ih =>
      rw [← record_of]
      exact record_balanced ih task now

end Counts

namespace AssigneeRow

def of (tasks : List Task) (now : Instant) (group : Group) : AssigneeRow :=
  let own := tasks.filter (·.group = group)
  { group, name := own.findSome? Task.assigneeName, counts := Counts.of own now }

theorem record_own (tasks : List Task) (task : Task) (now : Instant) :
    (of tasks now task.group).record task now = of (tasks ++ [task]) now task.group := by
  have own : (tasks ++ [task]).filter (·.group = task.group) =
      tasks.filter (·.group = task.group) ++ [task] := by
    rw [List.filter_append, List.filter_cons_of_pos (by simp), List.filter_nil]
  rw [of, of, own, record, Counts.record_of, List.findSome?_append, List.findSome?_singleton]

theorem of_other {tasks : List Task} {task : Task} (now : Instant) {group : Group}
    (other : task.group ≠ group) : of (tasks ++ [task]) now group = of tasks now group := by
  have own : (tasks ++ [task]).filter (·.group = group) = tasks.filter (·.group = group) := by
    rw [List.filter_append, List.filter_cons_of_neg (by simpa using other), List.filter_nil,
      List.append_nil]
  rw [of, of, own]

theorem of_absent {tasks : List Task} (now : Instant) {group : Group}
    (absent : group ∉ tasks.map Task.group) : of tasks now group = { group := group } := by
  have own : tasks.filter (·.group = group) = [] :=
    List.filter_eq_nil_iff.mpr fun task member same =>
      absent (List.mem_map.mpr ⟨task, member, of_decide_eq_true same⟩)
  rw [of, own]
  rfl

end AssigneeRow

inductive Recorded (now : Instant) (task : Task) : List AssigneeRow → List AssigneeRow → Prop
  | added (before after : List AssigneeRow) (row : AssigneeRow) (same : task.group = row.group) :
      Recorded now task (before ++ row :: after) (before ++ row.record task now :: after)
  | begun (before after : List AssigneeRow)
      (below : ∀ row ∈ before, row.group.key < task.group.key)
      (above : ∀ row ∈ after, task.group.key < row.group.key) :
      Recorded now task (before ++ after)
        (before ++ ({ group := task.group } : AssigneeRow).record task now :: after)

theorem recorded_cons {now : Instant} {task : Task} {rows later : List AssigneeRow}
    {first : AssigneeRow} (below : first.group.key < task.group.key)
    (recorded : Recorded now task rows later) : Recorded now task (first :: rows) (first :: later) := by
  cases recorded with
  | added before after row same => exact .added (first :: before) after row same
  | begun before after lower above =>
      exact .begun (first :: before) after (List.forall_mem_cons.mpr ⟨below, lower⟩) above

def InOrder (rows : List AssigneeRow) : Prop :=
  rows.Pairwise fun a b => a.group.key < b.group.key

theorem record_task_recorded (now : Instant) (task : Task) (rows : List AssigneeRow)
    (ordered : InOrder rows) : Recorded now task rows (recordTask now task rows) := by
  induction rows with
  | nil => exact .begun [] [] (List.forall_mem_nil _) (List.forall_mem_nil _)
  | cons first rest ih =>
      obtain ⟨after, later⟩ := List.pairwise_cons.mp ordered
      rw [recordTask]
      by_cases same : task.group = first.group
      · rw [if_pos same]
        exact .added [] rest first same
      · rw [if_neg same]
        by_cases before : task.group.before first.group = true
        · rw [if_pos before]
          have less := (before_iff _ _).mp before
          exact .begun [] (first :: rest) (List.forall_mem_nil _)
            (List.forall_mem_cons.mpr ⟨less, fun row member => less.trans (after row member)⟩)
        · rw [if_neg before]
          have least := mt (before_iff _ _).mpr before
          have greater := lt_of_le_of_ne (not_lt.mp least) (Ne.symm (mt (key_injective ·) same))
          exact recorded_cons greater (ih later)

section Recorded

variable {now : Instant} {task : Task} {rows later : List AssigneeRow}

theorem recorded_ordered (recorded : Recorded now task rows later) (ordered : InOrder rows) :
    InOrder later := by
  cases recorded with
  | added before after row same =>
      obtain ⟨first, last, between⟩ := List.pairwise_append.mp ordered
      obtain ⟨above, rest⟩ := List.pairwise_cons.mp last
      refine List.pairwise_append.mpr ⟨first, List.pairwise_cons.mpr ⟨above, rest⟩, ?_⟩
      intro lower member
      obtain ⟨near, far⟩ := List.forall_mem_cons.mp (between lower member)
      exact List.forall_mem_cons.mpr ⟨near, far⟩
  | begun before after below above =>
      obtain ⟨first, last, between⟩ := List.pairwise_append.mp ordered
      refine List.pairwise_append.mpr ⟨first, List.pairwise_cons.mpr ⟨above, last⟩, ?_⟩
      intro lower member
      exact List.forall_mem_cons.mpr ⟨below lower member, between lower member⟩

theorem recorded_groups (recorded : Recorded now task rows later) (group : Group) :
    group ∈ later.map AssigneeRow.group ↔ group ∈ rows.map AssigneeRow.group ∨ group = task.group := by
  cases recorded with
  | added before after row same =>
      have kept : (before ++ row.record task now :: after).map AssigneeRow.group =
          (before ++ row :: after).map AssigneeRow.group := by
        rw [List.map_append, List.map_append]
        rfl
      have held : task.group ∈ (before ++ row :: after).map AssigneeRow.group :=
        same ▸ List.mem_map_of_mem (List.mem_append_right before List.mem_cons_self)
      rw [kept]
      exact (or_iff_left_of_imp fun own => own ▸ held).symm
  | begun before after below above =>
      rw [List.map_append, List.map_append, List.map_cons, List.mem_append, List.mem_append,
        List.mem_cons]
      exact or_left_comm.trans or_comm

theorem recorded_rows (recorded : Recorded now task rows later) (ordered : InOrder rows)
    (row : AssigneeRow) (member : row ∈ later) :
    (row ∈ rows ∧ task.group ≠ row.group) ∨
      (∃ old ∈ rows, task.group = old.group ∧ row = old.record task now) ∨
      (task.group ∉ rows.map AssigneeRow.group ∧
        row = ({ group := task.group } : AssigneeRow).record task now) := by
  cases recorded with
  | added before after own same =>
      obtain ⟨-, last, between⟩ := List.pairwise_append.mp ordered
      obtain ⟨above, -⟩ := List.pairwise_cons.mp last
      have key : own.group.key = task.group.key := congrArg Group.key same.symm
      rcases List.mem_append.mp member with lower | upper
      · have less := between row lower own List.mem_cons_self
        refine .inl ⟨List.mem_append_left _ lower, fun equal => ?_⟩
        exact (key ▸ less).ne (congrArg Group.key equal).symm
      · rcases List.mem_cons.mp upper with new | upper
        · exact .inr (.inl ⟨own, List.mem_append_right _ List.mem_cons_self, same, new⟩)
        · have less := above row upper
          refine .inl ⟨List.mem_append_right _ (List.mem_cons_of_mem _ upper), fun equal => ?_⟩
          exact (key ▸ less).ne (congrArg Group.key equal)
  | begun before after below above =>
      rcases List.mem_append.mp member with lower | upper
      · refine .inl ⟨List.mem_append_left _ lower, fun equal => ?_⟩
        exact (below row lower).ne (congrArg Group.key equal).symm
      · rcases List.mem_cons.mp upper with new | upper
        · refine .inr (.inr ⟨fun held => ?_, new⟩)
          obtain ⟨other, listed, equal⟩ := List.mem_map.mp held
          rcases List.mem_append.mp listed with lower | upper
          · exact (below other lower).ne (congrArg Group.key equal)
          · exact (above other upper).ne (congrArg Group.key equal).symm
        · refine .inl ⟨List.mem_append_right _ upper, fun equal => ?_⟩
          exact (above row upper).ne (congrArg Group.key equal)

theorem recorded_sum (recorded : Recorded now task rows later) :
    (later.map AssigneeRow.counts).sum =
      (rows.map AssigneeRow.counts).sum + Counts.of [task] now := by
  cases recorded with
  | added before after row same =>
      have own : (row.record task now).counts = row.counts + Counts.of [task] now :=
        Counts.record_eq row.counts task now
      simp only [List.map_append, List.map_cons, List.sum_append, List.sum_cons, own]
      ac_rfl
  | begun before after below above =>
      have own : (({ group := task.group } : AssigneeRow).record task now).counts =
          Counts.of [task] now := (Counts.record_eq {} task now).trans (zero_add _)
      simp only [List.map_append, List.map_cons, List.sum_append, List.sum_cons, own]
      ac_rfl

end Recorded

structure Tallied (tasks : List Task) (now : Instant) (rows : List AssigneeRow) : Prop where
  ordered : InOrder rows
  groups (group : Group) : group ∈ rows.map AssigneeRow.group ↔ group ∈ tasks.map Task.group
  own : ∀ row ∈ rows, row = AssigneeRow.of tasks now row.group
  sum : (rows.map AssigneeRow.counts).sum = Counts.of tasks now

theorem record_tallied {tasks : List Task} {now : Instant} {rows : List AssigneeRow}
    (tallied : Tallied tasks now rows) (task : Task) :
    Tallied (tasks ++ [task]) now (recordTask now task rows) := by
  have recorded := record_task_recorded now task rows tallied.ordered
  refine ⟨recorded_ordered recorded tallied.ordered, fun group => ?_, fun row member => ?_, ?_⟩
  · rw [recorded_groups recorded, tallied.groups, List.map_append, List.mem_append, List.map_singleton,
      List.mem_singleton]
  · rcases recorded_rows recorded tallied.ordered row member with
      ⟨held, other⟩ | ⟨old, held, same, rfl⟩ | ⟨absent, rfl⟩
    · exact (tallied.own row held).trans (AssigneeRow.of_other now other).symm
    · have before : old = AssigneeRow.of tasks now task.group := same ▸ tallied.own old held
      rw [before]
      exact AssigneeRow.record_own tasks task now
    · have before := AssigneeRow.of_absent now (mt (tallied.groups _).mpr absent)
      rw [← before]
      exact AssigneeRow.record_own tasks task now
  · rw [recorded_sum recorded, tallied.sum, Counts.of_append]

theorem record_tasks_tallied {before : List Task} {now : Instant} {rows : List AssigneeRow}
    (tallied : Tallied before now rows) (tasks : List Task) :
    Tallied (before ++ tasks) now (recordTasks now rows tasks) := by
  induction tasks generalizing before rows with
  | nil => exact (List.append_nil before).symm ▸ tallied
  | cons task rest ih =>
      have step := ih (record_tallied tallied task)
      rwa [List.append_assoc] at step

theorem no_tasks_tallied (now : Instant) : Tallied [] now [] :=
  ⟨.nil, fun _ => .rfl, List.forall_mem_nil _, rfl⟩

theorem run_tallied (tasks : List Task) (now : Instant) :
    Tallied tasks now (recordTasks now [] tasks) :=
  record_tasks_tallied (no_tasks_tallied now) tasks

theorem summarize_tallied (runs : List Run) (now : Instant) :
    Tallied (runs.flatMap Run.tasks) now (summarize runs now) := by
  have all := run_tallied (runs.flatMap Run.tasks) now
  rwa [recordTasks, List.foldl_flatMap] at all

end Workflow
