import Workflow.Engine.Operations
import Workflow.Proofs.Graph.Compiled
import Workflow.Proofs.Process.Frame
import Workflow.Proofs.Process.Launch
import Workflow.Proofs.Store.Rows

set_option autoImplicit false

namespace Workflow

-- Of an accepted draft only the ids and the order hints are left to be asked for.
def Draft.Portable (draft : Draft) (config : Config) : Prop :=
  ∀ graph tasks, draft.checked config = .ok (graph, tasks) →
    CleanIds tasks ∧ ∀ task ∈ tasks, task.orderHint < 2 ^ 32

theorem offset_narrow (offset : Option Nat) (bounded : ∀ days ∈ offset, days ≤ maxDeadlineOffset) :
    Narrow offset := by
  intro days given
  have small := bounded days given
  unfold maxDeadlineOffset at small
  omega

theorem content_drawn {draft : Draft} {config : Config} {graph : Graph} {tasks : List TaskTemplate}
    (made : draft.content config = .ok (graph, tasks)) :
    ∀ node ∈ graph.nodes, ∀ days ∈ node.deadlineOffsetDays, days ≤ maxDeadlineOffset := by
  unfold Draft.content at made
  split at made
  · obtain ⟨compiled, done, same⟩ := (bind_ok_iff _ _ _).mp made
    cases same
    exact (Graph.compile_with_drawn done).bounded
  · obtain ⟨compiled, done, edited⟩ := (bind_ok_iff _ _ _).mp made
    obtain ⟨_, _, same⟩ := (bind_ok_iff _ _ _).mp edited
    cases same
    exact (Graph.compile_with_drawn done).bounded
  · cases made
    simp
  · cases made

theorem checked_ok {draft : Draft} {config : Config} {graph : Graph} {tasks : List TaskTemplate}
    (accepted : draft.checked config = .ok (graph, tasks)) :
    draft.content config = .ok (graph, tasks) ∧ check tasks = .ok () := by
  unfold Draft.checked at accepted
  split at accepted
  · cases accepted
  · obtain ⟨⟨_, _⟩, made, rest⟩ := (bind_ok_iff _ _ _).mp accepted
    obtain ⟨_, sound, same⟩ := (bind_ok_iff _ _ _).mp rest
    cases same
    exact ⟨made, sound⟩

theorem draft_portable {draft : Draft} {config : Config} {graph : Graph}
    {tasks : List TaskTemplate} (portable : draft.Portable config)
    (accepted : draft.checked config = .ok (graph, tasks)) (id : Uuid)
    (createdAt updatedAt : Instant) :
    (draft.template graph tasks id createdAt updatedAt).Portable := by
  obtain ⟨clean, hints⟩ := portable graph tasks accepted
  obtain ⟨made, sound⟩ := checked_ok accepted
  have formed := (check_ok_iff tasks).mp sound
  refine ⟨⟨fun task member => ⟨offset_narrow _ (formed.bounded task member), hints task member⟩,
    fun node member => offset_narrow _ (content_drawn made node member)⟩, clean⟩

namespace Run

section Launch

variable {request : StartRequest} {template : Template} {seeds : List Seed} {now : Instant}
  {ids : Nat → Uuid} {run : Run} {events : List Event}

theorem launch_own (launched : request.launch template seeds now ids = .ok (run, events)) :
    run.id = ids 0 := by
  obtain ⟨_, _, rest⟩ := (bind_ok_iff _ _ _).mp launched
  rw [Run.id, (launch_templates rest).2]
  rfl

theorem launch_tasks (launched : request.launch template seeds now ids = .ok (run, events)) :
    run.templates = template.tasks := by
  obtain ⟨_, _, rest⟩ := (bind_ok_iff _ _ _).mp launched
  exact (launch_templates rest).1

theorem launch_portable (launched : request.launch template seeds now ids = .ok (run, events))
    (portable : template.Portable) : run.Portable := by
  refine ⟨?_, ?_⟩
  · rw [Narrow, launch_tasks launched]
    exact portable.narrow.tasks
  · rw [launch_tasks launched]
    exact portable.clean

end Launch

def origin (process : Process) : Uuid × Uuid × String × Instant :=
  (process.id, process.templateId, process.startedById, process.startAt)

theorem finish_origin (run : Run) (now : Instant) :
    origin (run.finish now).1.process = origin run.process := by
  unfold finish
  split <;> rfl

theorem settled_origin (run : Run) (task : Task) (event : Event) (now : Instant) :
    origin (run.settled task event now).1.process = origin run.process := by
  rw [settled_run, finish_origin]
  rfl

theorem makes_origin {run : Run} {now : Instant} {move : Move} {result : Run × List Event}
    (made : run.Makes now move result) : origin result.1.process = origin run.process := by
  cases made with
  | start => rfl
  | complete => exact settled_origin ..
  | skip => exact settled_origin ..
  | stop => rfl
  | resume => rfl

section Moves

variable {run next : Run} {now : Instant} {move : Move} {events : List Event}

theorem move_own (moved : run.apply now move = .ok (next, events)) : next.id = run.id :=
  congrArg Prod.fst (makes_origin ((run.apply_ok_iff now move _).mp moved))

theorem move_tasks (moved : run.apply now move = .ok (next, events)) :
    next.templates = run.templates :=
  run.makes_templates now move _ ((run.apply_ok_iff now move _).mp moved)

theorem move_same_start (moved : run.apply now move = .ok (next, events)) : next.SameStart run := by
  have origin := makes_origin ((run.apply_ok_iff now move _).mp moved)
  simp only [Run.origin, Prod.mk.injEq] at origin
  obtain ⟨_, template, starter, start⟩ := origin
  exact ⟨template.symm, starter.symm, start.symm⟩

theorem move_portable (moved : run.apply now move = .ok (next, events)) (portable : run.Portable) :
    next.Portable := by
  refine ⟨?_, ?_⟩
  · rw [Narrow, move_tasks moved]
    exact portable.narrow
  · rw [move_tasks moved]
    exact portable.clean

end Moves

end Run

end Workflow
