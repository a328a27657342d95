import Mathlib.Data.List.Permutation
import Workflow.Proofs.Process.Frame
import Workflow.Proofs.Process.Launch

set_option autoImplicit false

namespace Workflow

namespace Run

structure InStep (run : Run) : Prop where
  placed : ∀ task ∈ run.tasks, task.templateId ∈ run.templates.map TaskTemplate.id
  opened : ∀ task ∈ run.tasks, task.status ≠ .notStarted
  held : ∀ task ∈ run.tasks, task.status = .waiting → run.free task.templateId = false
  going : ∀ task ∈ run.tasks,
    task.status = .ready ∨ task.status = .inProgress ∨ task.status = .completed →
      run.free task.templateId = true

theorem put_open_in_step (run : Run) (id : Uuid) (old new : Task) (inStep : run.InStep)
    (found : run.task? id = some old) (same : new.templateId = old.templateId)
    (oldReady : old.status = .ready) (newStarted : new.status = .inProgress) :
    (run.putTask id new).InStep := by
  have free := run.put_free_open id old new found same (by simp [oldReady, TaskStatus.terminal])
    (by simp [newStarted, TaskStatus.terminal])
  obtain ⟨member, _⟩ := run.task_mem id old found
  constructor
  · intro task among
    rcases run.mem_put_task id old new task found among with rfl | before
    · exact same ▸ inStep.placed old member
    · exact inStep.placed task before
  · intro task among
    rcases run.mem_put_task id old new task found among with rfl | before
    · simp [newStarted]
    · exact inStep.opened task before
  · intro task among waiting
    rw [free]
    rcases run.mem_put_task id old new task found among with rfl | before
    · simp [newStarted] at waiting
    · exact inStep.held task before waiting
  · intro task among going
    rw [free]
    rcases run.mem_put_task id old new task found among with rfl | before
    · exact same ▸ inStep.going old member (.inl oldReady)
    · exact inStep.going task before going

-- When a task is done, what it frees depends on its template, and just those are released.
theorem settled_in_step (run : Run) (id : Uuid) (old new : Task) (event : Event) (now : Instant)
    (inStep : run.InStep) (found : run.task? id = some old) (sameId : new.id = id)
    (same : new.templateId = old.templateId) (unfinished : old.status.terminal = false)
    (done : new.status.terminal = true)
    (earned : new.status = .completed → run.free old.templateId = true) :
    (run.settled new event now).1.InStep := by
  have newStatus := (terminal_iff new.status).mp done
  have put : run.task? new.id = some old := sameId ▸ found
  have grows (template : String) (free : run.free template = true) :
      (run.settled new event now).1.free template = true :=
    (settled_free ..).trans (run.put_free_keeps new.id old new put same unfinished template free)
  have apart (template : String) (unlisted : template ∉ run.dependents new.templateId) :
      (run.settled new event now).1.free template = run.free template :=
    (settled_free ..).trans (run.put_free_elsewhere new.id old new put same template unlisted)
  have outcomes := run.mem_settled id old new event now found sameId done
  obtain ⟨member, _⟩ := run.task_mem id old found
  constructor
  · intro task among
    rw [settled_templates]
    rcases outcomes task among with rfl | ⟨before, earlier, _, _, _, rfl⟩ | ⟨earlier, _⟩
    · exact same ▸ inStep.placed old member
    · exact inStep.placed before earlier
    · exact inStep.placed task earlier
  · intro task among
    rcases outcomes task among with rfl | ⟨before, _, _, _, _, rfl⟩ | ⟨earlier, _⟩
    · rcases newStatus with is | is <;> simp [is]
    · simp
    · exact inStep.opened task earlier
  · intro task among waiting
    rcases outcomes task among with rfl | ⟨before, _, _, _, _, rfl⟩ | ⟨earlier, kept⟩
    · rcases newStatus with is | is <;> simp [is] at waiting
    · simp at waiting
    · -- Had it become free, then through a predecessor that lists it, and it would be released.
      cases free : (run.settled new event now).1.free task.templateId with
      | false => rfl
      | true =>
          have unlisted : task.templateId ∉ run.dependents new.templateId :=
            fun listed => kept ⟨listed, free, by simp [waiting, TaskStatus.held]⟩
          rw [apart task.templateId unlisted, inStep.held task earlier waiting] at free
          cases free
  · intro task among going
    rcases outcomes task among with rfl | ⟨before, _, _, free, _, rfl⟩ | ⟨earlier, _⟩
    · rcases newStatus with completed | skipped
      · exact grows _ (same ▸ earned completed)
      · simp [skipped] at going
    · exact free
    · exact grows _ (inStep.going task earlier going)

theorem may_complete_going (task : Task) (may : mayComplete task = true) :
    task.status = .ready ∨ task.status = .inProgress := by
  unfold mayComplete at may
  cases status : task.status <;> simp [status] at may <;> simp

theorem makes_in_step (run : Run) (now : Instant) (move : Move) (result : Run × List Event)
    (inStep : run.InStep) (made : run.Makes now move result) : result.1.InStep := by
  cases made with
  | start id task active found ready =>
      exact run.put_open_in_step id task (task.begun now) inStep found rfl ready rfl
  | complete id task active found may =>
      obtain ⟨member, same⟩ := run.task_mem id task found
      have going := may_complete_going task may
      have free := inStep.going task member (going.imp_right .inl)
      refine run.settled_in_step id task (task.done now) _ now inStep found same rfl ?_ rfl fun _ => free
      rcases going with is | is <;> simp [is, TaskStatus.terminal]
  | skip id reason task active found unfinished =>
      obtain ⟨_, same⟩ := run.task_mem id task found
      refine run.settled_in_step id task (task.passed now) _ now inStep found same rfl unfinished rfl ?_
      intro completed
      cases completed
  | stop request reason actor allowed =>
      exact ⟨inStep.placed, inStep.opened, inStep.held, inStep.going⟩
  | resume request suspended =>
      exact ⟨inStep.placed, inStep.opened, inStep.held, inStep.going⟩

variable {process : Process} {templates : List TaskTemplate} {seeds : List Seed} {ids : Nat → Uuid}
  {run : Run} {events : List Event}

theorem launch_open (launched : launch process templates seeds ids = .ok (run, events))
    (task : Task) (member : task ∈ run.tasks) : task.status = .waiting ∨ task.status = .ready := by
  rw [launch_status launched task member]
  cases run.waits task <;> simp

-- At the start no task is done, so every predecessor holds back, having a task at least.
theorem launch_unsatisfied (launched : launch process templates seeds ids = .ok (run, events))
    (mode : PredecessorMode) (predecessor : String)
    (known : predecessor ∈ templates.map TaskTemplate.id) :
    ¬ Satisfied run.tasks mode predecessor := by
  obtain ⟨template, among, same⟩ := List.mem_map.mp known
  obtain ⟨task, member, own⟩ := launch_staffed launched template among
  have begins := launch_open launched
  intro satisfied
  cases mode with
  | all =>
      rcases satisfied task member (own.trans same) with is | is <;>
        rcases begins task member with was | was <;> simp [was] at is
  | any =>
      rcases satisfied with ⟨other, among, _, is⟩ | skipped
      · rcases begins other among with was | was <;> simp [was] at is
      · have is := skipped task member (own.trans same)
        rcases begins task member with was | was <;> simp [was] at is

theorem launch_in_step (formed : WellFormed templates)
    (launched : launch process templates seeds ids = .ok (run, events)) : run.InStep := by
  obtain ⟨sameTemplates, _⟩ := launch_templates launched
  have found (task : Task) (member : task ∈ run.tasks) : ∃ template ∈ templates,
      run.template? task.templateId = some template ∧
        task.status = if template.hasPredecessors then .waiting else .ready := by
    obtain ⟨template, among, own⟩ := launch_placed launched task member
    have named : run.template? task.templateId = some template := by
      rw [← own]
      exact run.template_of_mem template (sameTemplates ▸ formed.distinct) (sameTemplates ▸ among)
    refine ⟨template, among, named, ?_⟩
    rw [launch_status launched task member, waits, named]
  constructor
  · intro task member
    obtain ⟨template, among, own⟩ := launch_placed launched task member
    exact sameTemplates ▸ List.mem_map.mpr ⟨template, among, own⟩
  · intro task member
    rcases launch_open launched task member with is | is <;> simp [is]
  · intro task member waiting
    obtain ⟨template, among, named, status⟩ := found task member
    have waits : template.hasPredecessors = true := by simpa [status] using waiting
    cases free : run.free task.templateId with
    | false => rfl
    | true =>
        obtain ⟨other, again, satisfied⟩ := (run.free_iff _).mp free
        cases named.symm.trans again
        cases listed : template.predecessorIds with
        | nil => simp [TaskTemplate.hasPredecessors, listed] at waits
        | cons predecessor rest =>
            have first : predecessor ∈ template.predecessorIds := by simp [listed]
            exact absurd (satisfied predecessor first)
              (launch_unsatisfied launched _ predecessor (formed.known template among first))
  · intro task member going
    obtain ⟨template, _, named, status⟩ := found task member
    refine (run.free_iff _).mpr ⟨template, named, fun predecessor listed => ?_⟩
    have waits : template.hasPredecessors = true := by
      cases ids : template.predecessorIds with
      | nil => simp [ids] at listed
      | cons => simp [TaskTemplate.hasPredecessors, ids]
    simp [status, waits] at going

theorem after_in_step (formed : WellFormed templates)
    (launched : launch process templates seeds ids = .ok (run, events))
    (moves : List (Instant × Move)) : (run.after moves).1.InStep :=
  after_keeps InStep makes_in_step run moves (launch_in_step formed launched)

end Run

theorem readiness_exact (process : Process) (templates : List TaskTemplate) (seeds : List Seed)
    (ids : Nat → Uuid) (run : Run) (events : List Event) (moves : List (Instant × Move))
    (accepted : check templates = .ok ())
    (launched : Run.launch process templates seeds ids = .ok (run, events)) :
    let tasks := (run.after moves).1.tasks
    ∀ task ∈ tasks, task.status ≠ .notStarted ∧ task.templateId ∈ templates.map TaskTemplate.id ∧
      ∀ template ∈ templates, template.id = task.templateId →
        (task.status = .waiting → ∃ predecessor ∈ template.predecessorIds,
          ¬ Satisfied tasks template.predecessorMode predecessor) ∧
        (task.status = .ready ∨ task.status = .inProgress ∨ task.status = .completed →
          ∀ predecessor ∈ template.predecessorIds,
            Satisfied tasks template.predecessorMode predecessor) := by
  intro tasks task member
  have formed := (check_ok_iff templates).mp accepted
  have inStep := Run.after_in_step formed launched moves
  have same : (run.after moves).1.templates = templates :=
    (run.after_templates moves).trans (Run.launch_templates launched).1
  refine ⟨inStep.opened task member, same ▸ inStep.placed task member, ?_⟩
  intro template among own
  have named : (run.after moves).1.template? task.templateId = some template := by
    rw [← own]
    exact Run.template_of_mem _ template (same.symm ▸ formed.distinct) (same.symm ▸ among)
  have free_iff : (run.after moves).1.free task.templateId = true ↔
      ∀ predecessor ∈ template.predecessorIds,
        Satisfied tasks template.predecessorMode predecessor := by
    rw [Run.free_iff, named]
    simp [tasks]
  constructor
  · intro waiting
    have shut := inStep.held task member waiting
    by_contra missing
    refine absurd (free_iff.mpr fun predecessor listed => ?_) (by simp [shut])
    by_contra unsatisfied
    exact missing ⟨predecessor, listed, unsatisfied⟩
  · intro going
    exact free_iff.mp (inStep.going task member going)

def signing : List TaskTemplate :=
  [{ id := "draft", name := "Draft" },
    { id := "sign", name := "Sign", predecessorIds := ["draft"] }]

def signingProcess : Process :=
  { id := ⟨1⟩
    templateId := ⟨2⟩
    title := "Contract"
    status := .active
    startAt := Instant.epoch
    startedById := "owner" }

def signingSeeds : List Seed := [{ templateId := "draft" }, { templateId := "draft" }]

def signingIds (number : Nat) : Uuid := ⟨BitVec.ofNat 128 (number + 3)⟩

def signingTask (number : Nat) (templateId name : String) (status : TaskStatus) : Task :=
  { id := signingIds number
    processId := signingProcess.id
    templateId
    name
    taskType := .plain
    status }

def signingRun : Run :=
  { process := signingProcess
    tasks := [signingTask 0 "draft" "Draft" .ready, signingTask 1 "draft" "Draft" .ready,
      signingTask 2 "sign" "Sign" .waiting]
    templates := signing }

theorem readiness_exact_one_draft :
    check signing = .ok () ∧ ∃ events,
      Run.launch signingProcess signing signingSeeds signingIds = .ok (signingRun, events) ∧
        let tasks := (signingRun.after [(Instant.epoch, .complete (signingIds 0))]).1.tasks
        signingTask 2 "sign" "Sign" .waiting ∈ tasks ∧ ¬ Satisfied tasks .all "draft" := by
  have accepted : check signing = .ok () := by cbv
  refine ⟨accepted, _, rfl, List.mem_of_getElem? (i := 2) rfl, ?_⟩
  obtain ⟨_, _, ready⟩ := readiness_exact signingProcess signing signingSeeds signingIds signingRun _
    [(Instant.epoch, .complete (signingIds 0))] accepted rfl _ (List.mem_of_getElem? (i := 2) rfl)
  obtain ⟨predecessor, listed, unsatisfied⟩ := (ready signing[1] (by simp [signing]) rfl).1 rfl
  have draft : predecessor = "draft" := by simpa [signing] using listed
  exact draft ▸ unsatisfied

end Workflow
