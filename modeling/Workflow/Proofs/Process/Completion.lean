import Workflow.Proofs.Process.Readiness

set_option autoImplicit false

namespace Workflow

def Move.forward : Move → Bool
  | .start _ => true
  | .complete _ => true
  | .resume _ => true
  | _ => false

namespace Run

def play (run : Run) : List (Instant × Move) → Except Error Run
  | [] => .ok run
  | (now, move) :: rest => do
    let (next, _) ← run.apply now move
    next.play rest

structure Steady (run : Run) : Prop where
  formed : WellFormed run.templates
  inStep : run.InStep
  ended : run.process.status = .completed ↔ run.allTerminal = true

theorem all_terminal_iff (run : Run) : run.allTerminal = true ↔
    ∀ task ∈ run.tasks, task.status = .completed ∨ task.status = .skipped := by
  simp only [allTerminal, List.all_eq_true, terminal_iff]

theorem open_not_all_terminal (run : Run) (task : Task) (member : task ∈ run.tasks)
    (unfinished : task.status.terminal = false) : run.allTerminal = false := by
  rw [← Bool.not_eq_true, allTerminal, List.all_eq_true]
  intro all
  have done := all task member
  rw [unfinished] at done
  cases done

theorem finish_ends (run : Run) (now : Instant) (active : run.process.status = .active) :
    ((run.finish now).1.process.status = .completed ↔ (run.finish now).1.allTerminal = true) ∧
      ((run.finish now).1.process.status = .completed ∨
        (run.finish now).1.process.status = .active) := by
  have same : (run.finish now).1.allTerminal = run.allTerminal := by
    rw [allTerminal, (run.finish_tasks now).1]
    rfl
  rw [finish_process, same]
  cases ended : run.allTerminal <;> simp [active]

theorem settled_ends (run : Run) (task : Task) (event : Event) (now : Instant)
    (active : run.process.status = .active) :
    ((run.settled task event now).1.process.status = .completed ↔
      (run.settled task event now).1.allTerminal = true) ∧
      ((run.settled task event now).1.process.status = .completed ∨
        (run.settled task event now).1.process.status = .active) := by
  rw [settled_run]
  exact finish_ends _ now active

theorem stop_rule_open (type : StopType) (status : ProcessStatus)
    (allowed : status ∈ (stopRule type).2.1) :
    status ≠ .completed ∧ (stopRule type).2.2.1 ≠ .completed := by
  cases type <;> cases status <;> simp [stopRule] at allowed ⊢

theorem makes_ended (run : Run) (now : Instant) (move : Move) (result : Run × List Event)
    (ended : run.process.status = .completed ↔ run.allTerminal = true)
    (made : run.Makes now move result) :
    result.1.process.status = .completed ↔ result.1.allTerminal = true := by
  cases made with
  | start id task active found ready =>
      obtain ⟨before, after, _, put, _⟩ := run.put_task_split id task (task.begun now) found
      have shut := open_not_all_terminal (run.putTask id (task.begun now)) (task.begun now)
        (by simp [put]) rfl
      have same : (run.putTask id (task.begun now)).process = run.process := rfl
      simp [shut, same, active]
  | complete id task active _ _ => exact (run.settled_ends _ _ now active).1
  | skip id reason task active _ _ => exact (run.settled_ends _ _ now active).1
  | stop request reason actor allowed =>
      obtain ⟨before, after⟩ := stop_rule_open request.stopType run.process.status allowed
      have unfinished : ¬ run.allTerminal = true := fun all => before (ended.mpr all)
      exact ⟨fun is => absurd is after, fun all => absurd all unfinished⟩
  | resume request suspended =>
      have unfinished : ¬ run.allTerminal = true := by
        rw [← ended, suspended]
        exact nofun
      exact ⟨nofun, fun all => absurd all unfinished⟩

theorem makes_steady (run : Run) (now : Instant) (move : Move) (result : Run × List Event)
    (steady : run.Steady) (made : run.Makes now move result) : result.1.Steady where
  formed := (makes_templates run now move result made).symm ▸ steady.formed
  inStep := makes_in_step run now move result steady.inStep made
  ended := makes_ended run now move result steady.ended made

theorem unsatisfied_open (tasks : List Task) (mode : PredecessorMode) (predecessor : String)
    (unsatisfied : ¬ Satisfied tasks mode predecessor) :
    ∃ task ∈ tasks, task.templateId = predecessor ∧ task.status.terminal = false := by
  by_contra missing
  have all (task : Task) (member : task ∈ tasks) (own : task.templateId = predecessor) :
      task.status = .completed ∨ task.status = .skipped := by
    apply (terminal_iff _).mp
    by_contra unfinished
    exact missing ⟨task, member, own, by simpa using unfinished⟩
  apply unsatisfied
  cases mode with
  | all => exact all
  | any =>
      by_cases someDone : ∃ task ∈ tasks, task.templateId = predecessor ∧ task.status = .completed
      · exact .inl someDone
      · refine .inr fun task member own => (all task member own).resolve_left ?_
        exact fun completed => someDone ⟨task, member, own, completed⟩

-- An open task that waits has an open task before it, and no cycle lets that go on for ever.
theorem some_task_going (run : Run) (formed : WellFormed run.templates) (inStep : run.InStep)
    (unfinished : run.allTerminal = false) :
    ∃ task ∈ run.tasks, task.status = .ready ∨ task.status = .inProgress := by
  have search := acyclic_induction (predecessorArcs run.templates)
    (run.templates.map TaskTemplate.id) formed.acyclic
    (fun id => ∀ task ∈ run.tasks, task.templateId = id → task.status.terminal = false →
      ∃ task ∈ run.tasks, task.status = .ready ∨ task.status = .inProgress) ?_
  · rw [← Bool.not_eq_true, allTerminal, List.all_eq_true] at unfinished
    push Not at unfinished
    obtain ⟨task, member, unfinished⟩ := unfinished
    exact search task.templateId (inStep.placed task member) task member rfl (by simpa using unfinished)
  · intro id listed earlier task member own unfinished
    cases status : task.status with
    | notStarted => exact absurd status (inStep.opened task member)
    | ready => exact ⟨task, member, .inl status⟩
    | inProgress => exact ⟨task, member, .inr status⟩
    | completed => simp [status, TaskStatus.terminal] at unfinished
    | skipped => simp [status, TaskStatus.terminal] at unfinished
    | waiting =>
        have shut := inStep.held task member status
        obtain ⟨template, among, same⟩ := List.mem_map.mp listed
        have named := run.template_of_mem template formed.distinct among
        have stuck : ¬ ∀ predecessor ∈ template.predecessorIds,
            Satisfied run.tasks template.predecessorMode predecessor := by
          intro satisfied
          have free := (run.free_iff task.templateId).mpr
            ⟨template, own.trans same.symm ▸ named, satisfied⟩
          rw [shut] at free
          cases free
        push Not at stuck
        obtain ⟨predecessor, before, unsatisfied⟩ := stuck
        obtain ⟨other, among', template', open'⟩ :=
          unsatisfied_open run.tasks template.predecessorMode predecessor unsatisfied
        have drawn : (predecessor, id) ∈ predecessorArcs run.templates :=
          (mem_predecessor_arcs run.templates predecessor id).mpr ⟨template, among, same, before⟩
        exact earlier predecessor (formed.known template among before) (.arc drawn)
          other among' template' open'

theorem task_of_mem (run : Run) (task : Task) (distinct : (run.tasks.map Task.id).Nodup)
    (member : task ∈ run.tasks) : run.task? task.id = some task :=
  find_key Task.id run.tasks task distinct member

theorem forward_step (run : Run) (now : Instant) (steady : run.Steady)
    (distinct : (run.tasks.map Task.id).Nodup) (active : run.process.status = .active) :
    ∃ move result, move.forward = true ∧ run.Makes now move result ∧
      result.1.remaining < run.remaining ∧
      (result.1.process.status = .completed ∨ result.1.process.status = .active) := by
  have unfinished : run.allTerminal = false := by
    rw [← Bool.not_eq_true, ← steady.ended, active]
    exact nofun
  obtain ⟨task, member, going⟩ := run.some_task_going steady.formed steady.inStep unfinished
  have found := run.task_of_mem task distinct member
  rcases going with ready | started
  · refine ⟨.start task.id, _, rfl, .start task.id task active found ready, ?_, .inr active⟩
    exact run.put_task_remaining task.id task (task.begun now) found (by simp [ready, Task.begun, TaskStatus.steps])
  · have may : mayComplete task = true := by simp [mayComplete, started]
    refine ⟨.complete task.id, _, rfl, .complete task.id task active found may, ?_, ?_⟩
    · exact run.settled_remaining task.id task (task.done now) _ now found rfl (by simp [started, Task.done, TaskStatus.steps])
    · exact (run.settled_ends (task.done now) _ now active).2

theorem play_cons (run last : Run) (now : Instant) (move : Move) (result : Run × List Event)
    (rest : List (Instant × Move)) (made : run.Makes now move result)
    (played : result.1.play rest = .ok last) : run.play ((now, move) :: rest) = .ok last := by
  rw [play, (run.apply_ok_iff now move result).mpr made]
  exact played

theorem active_completes (run : Run) (now : Instant) (steady : run.Steady)
    (distinct : (run.tasks.map Task.id).Nodup) (active : run.process.status = .active) :
    ∃ moves : List Move, (∀ move ∈ moves, move.forward = true) ∧
      ∃ last, run.play (moves.map (now, ·)) = .ok last ∧ last.process.status = .completed := by
  induction work : run.remaining using Nat.strongRecOn generalizing run with
  | ind size ih =>
      obtain ⟨move, result, forward, made, fewer, status⟩ :=
        run.forward_step now steady distinct active
      rcases status with completed | active
      · refine ⟨[move], by simpa using forward, result.1, ?_, completed⟩
        exact run.play_cons result.1 now move result [] made rfl
      · have nextSteady := run.makes_steady now move result steady made
        have nextDistinct : (result.1.tasks.map Task.id).Nodup :=
          (run.makes_ids now move result made).symm ▸ distinct
        obtain ⟨moves, allForward, last, played, completed⟩ :=
          ih result.1.remaining (work ▸ fewer) result.1 nextSteady nextDistinct active rfl
        refine ⟨move :: moves, List.forall_mem_cons.mpr ⟨forward, allForward⟩, last, ?_, completed⟩
        exact run.play_cons last now move result _ made played

theorem suspended_completes (run : Run) (now : Instant) (steady : run.Steady)
    (distinct : (run.tasks.map Task.id).Nodup) (suspended : run.process.status = .suspended) :
    ∃ moves : List Move, (∀ move ∈ moves, move.forward = true) ∧
      ∃ last, run.play (moves.map (now, ·)) = .ok last ∧ last.process.status = .completed := by
  have made : run.Makes now (.resume { actorId := "" }) _ := .resume _ suspended
  obtain ⟨moves, allForward, last, played, completed⟩ := active_completes _ now
    (run.makes_steady now _ _ steady made) distinct rfl
  refine ⟨.resume { actorId := "" } :: moves,
    List.forall_mem_cons.mpr ⟨rfl, allForward⟩, last, ?_, completed⟩
  exact run.play_cons last now _ _ _ made played

variable {process : Process} {templates : List TaskTemplate} {seeds : List Seed} {ids : Nat → Uuid}
  {run : Run} {events : List Event}

theorem launch_steady (formed : WellFormed templates) (nonempty : templates ≠ [])
    (launched : launch process templates seeds ids = .ok (run, events)) : run.Steady := by
  obtain ⟨sameTemplates, sameProcess⟩ := launch_templates launched
  refine ⟨sameTemplates ▸ formed, launch_in_step formed launched, ?_⟩
  obtain ⟨template, among⟩ := List.exists_mem_of_ne_nil templates nonempty
  obtain ⟨task, member, _⟩ := launch_staffed launched template among
  have unfinished : run.allTerminal = false := by
    apply run.open_not_all_terminal task member
    rcases launch_open launched task member with is | is <;> simp [is, TaskStatus.terminal]
  simp [sameProcess, unfinished]

theorem after_steady (formed : WellFormed templates) (nonempty : templates ≠ [])
    (launched : launch process templates seeds ids = .ok (run, events))
    (moves : List (Instant × Move)) : (run.after moves).1.Steady :=
  after_keeps Steady makes_steady run moves (launch_steady formed nonempty launched)

end Run

theorem no_deadlock (process : Process) (templates : List TaskTemplate) (seeds : List Seed)
    (ids : Nat → Uuid) (run : Run) (events : List Event) (moves : List (Instant × Move))
    (nonempty : templates ≠ []) (accepted : check templates = .ok ())
    (launched : Run.launch process templates seeds ids = .ok (run, events)) :
    let state := (run.after moves).1
    (state.process.status = .active →
      ∃ task ∈ state.tasks, task.status = .ready ∨ task.status = .inProgress) ∧
    (state.process.status = .completed ↔
      ∀ task ∈ state.tasks, task.status = .completed ∨ task.status = .skipped) ∧
    ((run.tasks.map Task.id).Nodup →
      state.process.status = .active ∨ state.process.status = .suspended →
        ∀ now, ∃ path : List Move, (∀ move ∈ path, move.forward = true) ∧
          ∃ last, state.play (path.map (now, ·)) = .ok last ∧ last.process.status = .completed) := by
  intro state
  have formed := (check_ok_iff templates).mp accepted
  have steady : state.Steady := Run.after_steady formed nonempty launched moves
  refine ⟨?_, ?_, ?_⟩
  · intro active
    apply state.some_task_going steady.formed steady.inStep
    rw [← Bool.not_eq_true, ← steady.ended, active]
    exact nofun
  · rw [steady.ended, Run.all_terminal_iff]
  · intro distinct unfinished now
    have stillDistinct : (state.tasks.map Task.id).Nodup := (run.after_ids moves).symm ▸ distinct
    rcases unfinished with active | suspended
    · exact state.active_completes now steady stillDistinct active
    · exact state.suspended_completes now steady stillDistinct suspended

def signingPaused : List (Instant × Move) :=
  [(Instant.epoch, .complete (signingIds 0)),
    (Instant.epoch, .stop { actorId := "owner", stopType := .suspended, reason := "holidays" })]

theorem no_deadlock_paused :
    signing ≠ [] ∧ check signing = .ok () ∧ ∃ events,
      Run.launch signingProcess signing signingSeeds signingIds = .ok (signingRun, events) ∧
        (signingRun.after signingPaused).1.process.status = .suspended ∧
          ∃ path : List Move, (∀ move ∈ path, move.forward = true) ∧
            ∃ last, (signingRun.after signingPaused).1.play (path.map (Instant.epoch, ·)) = .ok last ∧
              last.process.status = .completed := by
  have nonempty : signing ≠ [] := by simp [signing]
  have accepted : check signing = .ok () := by cbv
  have suspended : (signingRun.after signingPaused).1.process.status = .suspended := by cbv
  obtain ⟨_, _, finish⟩ := no_deadlock signingProcess signing signingSeeds signingIds signingRun _
    signingPaused nonempty accepted rfl
  exact ⟨nonempty, accepted, _, rfl, suspended, finish (by decide) (.inr suspended) Instant.epoch⟩

end Workflow
