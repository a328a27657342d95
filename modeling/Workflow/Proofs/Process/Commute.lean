import Workflow.Proofs.Process.Completion
import Workflow.Proofs.Process.Turns

set_option autoImplicit false

namespace Workflow

namespace Task

section

variable {now : Instant} {move : Move} {old new : Task}

theorem turns_id (turns : old.Turns now move new) : new.id = old.id := by
  cases turns <;> rfl

theorem turns_same (turns : old.Turns now move new) : new.templateId = old.templateId := by
  cases turns <;> rfl

theorem turns_unheld (turns : old.Turns now move new) : new.status.held = false := by
  cases turns <;> rfl

theorem turns_unfinished (turns : old.Turns now move new) : old.status.terminal = false :=
  (not_terminal_iff _).mpr (turns_done now move old new turns)

end

end Task

namespace Run

theorem put_first_swap (tasks : List Task) (one other : Task) (apart : one.id ≠ other.id) :
    putFirst other.id other (putFirst one.id one tasks) =
      putFirst one.id one (putFirst other.id other tasks) := by
  induction tasks with
  | nil => rfl
  | cons first rest ih =>
      by_cases here : first.id = one.id
      · simp [putFirst, here, apart]
      · by_cases there : first.id = other.id
        · simp [putFirst, there, apart.symm]
        · simp [putFirst, here, there, ih]

theorem put_first_map (id : Uuid) (task : Task) (tasks : List Task) (change : Task → Task)
    (ids : ∀ task, (change task).id = task.id) (same : change task = task) :
    putFirst id task (tasks.map change) = (putFirst id task tasks).map change := by
  induction tasks with
  | nil => rfl
  | cons first rest ih =>
      by_cases here : first.id = id
      · simp [putFirst, ids, here, same]
      · simp [putFirst, ids, here, ih]

theorem put_first_find (tasks : List Task) (id : Uuid) (task : Task) (apart : task.id ≠ id) :
    (putFirst task.id task tasks).find? (·.id = id) = tasks.find? (·.id = id) := by
  induction tasks with
  | nil => rfl
  | cons first rest ih =>
      by_cases here : first.id = task.id
      · simp [putFirst, here, apart]
      · by_cases there : first.id = id
        · subst there
          simp [putFirst, here]
        · simp [putFirst, here, there, ih]

def opens (run : Run) (task : Task) : List String :=
  if task.status.terminal then run.dependents task.templateId else []

def taking (run : Run) (task : Task) : Run :=
  ((run.putTask task.id task).releaseAll (run.opens task)).1

theorem freed_mem (run : Run) (ids others : List String) (same : ∀ id, id ∈ ids ↔ id ∈ others) :
    run.freed ids = run.freed others := by
  funext task
  simp only [freed, same]

theorem freed_free (run other : Run) (ids : List String) (same : ∀ id, run.free id = other.free id) :
    run.freed ids = other.freed ids := by
  funext task
  simp only [freed, same]

theorem finish_open (run : Run) (now : Instant) (task : Task) (member : task ∈ run.tasks)
    (unfinished : task.status.terminal = false) : (run.finish now).1 = run := by
  unfold finish
  rw [run.open_not_all_terminal task member unfinished]
  simp

theorem freed_id (run : Run) (ids : List String) (task : Task) : (run.freed ids task).id = task.id :=
  freed_field Task.id (fun _ _ _ _ => rfl) run ids task

section

variable {run : Run} {now : Instant} {move : Move} {old new : Task}

theorem freed_turns (run : Run) (ids : List String) (turns : old.Turns now move new) :
    (run.freed ids old).Turns now move new := by
  rcases run.freed_cases ids old with ⟨_, _, held, same⟩ | ⟨_, same⟩
  · rw [same]
    cases turns with
    | start ready => simp [ready, TaskStatus.held] at held
    | complete going => rcases going with is | ⟨is, _⟩ <;> simp [is, TaskStatus.held] at held
    | skip reason => exact @Task.Turns.skip now { old with status := .ready } reason (by simp)
  · rw [same]
    exact turns

theorem put_free_turns (id : String) (found : run.task? new.id = some old) (turns : old.Turns now move new)
    (unlisted : id ∉ run.opens new) : (run.putTask new.id new).free id = run.free id := by
  have same := Task.turns_same turns
  unfold opens at unlisted
  cases done : new.status.terminal with
  | true =>
      rw [done, if_pos rfl] at unlisted
      exact run.put_free_elsewhere new.id old new found same id unlisted
  | false => exact run.put_free_open new.id old new found same (Task.turns_unfinished turns) done id

theorem taking_open (found : run.task? new.id = some old) (still : new.status.terminal = false) :
    ((run.taking new).finish now).1 = run.putTask new.id new := by
  have kept : run.taking new = run.putTask new.id new := by
    unfold taking opens
    rw [still, if_neg Bool.false_ne_true]
    rfl
  obtain ⟨before, after, _, put, _⟩ := run.put_task_split new.id old new found
  rw [kept]
  exact finish_open _ now new (by simp [put]) still

theorem taking_settled (event : Event) (done : new.status.terminal = true) :
    (run.settled new event now).1 = ((run.taking new).finish now).1 := by
  rw [taking, opens, if_pos done]
  rfl

theorem turns_apply (active : run.process.status = .active) (found : run.task? new.id = some old)
    (turns : old.Turns now move new) :
    ∃ events, run.apply now move = .ok (((run.taking new).finish now).1, events) := by
  cases turns with
  | start ready =>
      rw [taking_open found rfl]
      exact ⟨_, (run.apply_ok_iff now _ _).mpr (.start old.id old active found ready)⟩
  | complete going =>
      rw [← taking_settled (old.doneEvent now) rfl]
      have may := (may_complete_iff old).mpr going
      exact ⟨_, (run.apply_ok_iff now _ _).mpr (.complete old.id old active found may)⟩
  | skip reason unfinished =>
      rw [← taking_settled (old.passedEvent reason) rfl]
      have still := (not_terminal_iff _).mpr unfinished
      exact ⟨_, (run.apply_ok_iff now _ _).mpr (.skip old.id reason old active found still)⟩

end

-- Two releases one after the other are one of both lists, when all that the first of them judges by
-- still holds at the second, and nothing has become free that the second does not go through.
theorem freed_twice (early late : Run) (ids others : List String) (task : Task)
    (grows : early.free task.templateId = true → late.free task.templateId = true)
    (apart : task.templateId ∉ others → late.free task.templateId = early.free task.templateId) :
    late.freed others (early.freed ids task) = late.freed (ids ++ others) task := by
  rcases early.freed_cases ids task with ⟨listed, free, held, same⟩ | ⟨kept, same⟩
  · have both : task.templateId ∈ ids ++ others := List.mem_append_left others listed
    rw [same, freed, if_neg (by simp [TaskStatus.held]), freed, if_pos ⟨both, grows free, held⟩]
  · rw [same]
    by_cases listed : task.templateId ∈ others
    · simp [freed, listed]
    · rw [freed, if_neg fun all => listed all.1, freed, if_neg fun all => kept ?_]
      obtain ⟨among, free, held⟩ := all
      exact ⟨(List.mem_append.mp among).resolve_right listed, apart listed ▸ free, held⟩

section

variable {run : Run} {now : Instant} {first second : Move} {oldOne one oldOther other : Task}

theorem put_found (apart : one.id ≠ other.id) (found : run.task? other.id = some oldOther) :
    (run.putTask one.id one).task? other.id = some oldOther :=
  (put_first_find run.tasks other.id one apart).trans found

theorem taking_found (apart : one.id ≠ other.id) (found : run.task? other.id = some oldOther) :
    (run.taking one).task? other.id =
      some ((run.putTask one.id one).freed (run.opens one) oldOther) := by
  have same : (run.taking one).tasks =
      (run.putTask one.id one).tasks.map ((run.putTask one.id one).freed (run.opens one)) := by
    rw [taking, release_all_run]
  have ids : (fun task : Task => decide (task.id = other.id)) ∘
      (run.putTask one.id one).freed (run.opens one) = fun task => decide (task.id = other.id) := by
    funext task
    simp [freed_id]
  rw [task?, same, List.find?_map, ids]
  exact congrArg _ (put_found apart found)

-- The task that is put later was open, so the release before it has not touched its place.
theorem taking_put (turns : oldOther.Turns now second other) :
    (run.taking one).putTask other.id other =
      let early := run.putTask one.id one
      let late := early.putTask other.id other
      { late with tasks := late.tasks.map (early.freed (run.opens one)) } := by
  have stays : (run.putTask one.id one).freed (run.opens one) other = other := by
    simp [freed, Task.turns_unheld turns]
  have moved := put_first_map other.id other (run.putTask one.id one).tasks
    ((run.putTask one.id one).freed (run.opens one)) (freed_id _ _) stays
  rw [taking, release_all_run, putTask, moved]
  rfl

-- The second release goes again through all that the first one had to hold back for the other task.
theorem taking_twice (apart : one.id ≠ other.id) (found : run.task? other.id = some oldOther)
    (turns : oldOther.Turns now second other) :
    (run.taking one).taking other =
      (((run.putTask one.id one).putTask other.id other).releaseAll
        (run.opens one ++ run.opens other)).1 := by
  let early := run.putTask one.id one
  let late := early.putTask other.id other
  have known : early.task? other.id = some oldOther := put_found apart found
  have same : (run.taking one).opens other = run.opens other := by
    rw [taking, release_all_run]
    rfl
  have judged : ({ late with tasks := late.tasks.map (early.freed (run.opens one)) } : Run).freed
      (run.opens other) = late.freed (run.opens other) :=
    freed_free _ late _ (late.free_judged early _)
  have both (task : Task) : late.freed (run.opens other) (early.freed (run.opens one) task) =
      late.freed (run.opens one ++ run.opens other) task :=
    freed_twice early late _ _ task
      (early.put_free_keeps other.id oldOther other known (Task.turns_same turns)
        (Task.turns_unfinished turns) _)
      (put_free_turns _ known turns)
  rw [taking, taking_put turns, same, release_all_run, release_all_run, judged, List.map_map]
  exact congrArg (fun tasks => { late with tasks }) (List.map_congr_left fun task _ => both task)

theorem taking_swap (apart : one.id ≠ other.id) (foundOne : run.task? one.id = some oldOne)
    (foundOther : run.task? other.id = some oldOther) (turnsOne : oldOne.Turns now first one)
    (turnsOther : oldOther.Turns now second other) :
    (run.taking one).taking other = (run.taking other).taking one := by
  have put : (run.putTask one.id one).putTask other.id other =
      (run.putTask other.id other).putTask one.id one :=
    congrArg (fun tasks => { run with tasks }) (put_first_swap run.tasks one other apart)
  have listed (id : String) : id ∈ run.opens one ++ run.opens other ↔
      id ∈ run.opens other ++ run.opens one := by
    rw [List.mem_append, List.mem_append]
    exact or_comm
  rw [taking_twice apart foundOther turnsOther, taking_twice apart.symm foundOne turnsOne, put,
    release_all_run, release_all_run, freed_mem _ _ _ listed]

theorem second_apply (apart : one.id ≠ other.id) (active : run.process.status = .active)
    (foundOther : run.task? other.id = some oldOther) (turnsOther : oldOther.Turns now second other) :
    ∃ events, ((run.taking one).finish now).1.apply now second =
      .ok ((((run.taking one).taking other).finish now).1, events) := by
  have found := taking_found apart foundOther
  have turns := freed_turns (run.putTask one.id one) (run.opens one) turnsOther
  have member := ((run.taking one).task_mem _ _ found).1
  rw [(run.taking one).finish_open now _ member (Task.turns_unfinished turns)]
  have going : (run.taking one).process.status = .active := by
    rw [taking, release_all_run]
    exact active
  exact turns_apply going found turns

end

end Run

theorem moves_commute (run : Run) (now : Instant) (first second : Move) (x y : Uuid)
    (one other : Run × List Event) (apart : x ≠ y) (ofFirst : first.task? = some x)
    (ofSecond : second.task? = some y) (appliedFirst : run.apply now first = .ok one)
    (appliedSecond : run.apply now second = .ok other) :
    ∃ last early late, one.1.apply now second = .ok (last, early) ∧
      other.1.apply now first = .ok (last, late) := by
  obtain ⟨active, oldOne, newOne, foundOne, turnsOne⟩ :=
    (run.accepts_iff now first x ofFirst).mp ⟨one, appliedFirst⟩
  obtain ⟨_, oldOther, newOther, foundOther, turnsOther⟩ :=
    (run.accepts_iff now second y ofSecond).mp ⟨other, appliedSecond⟩
  have idOne : newOne.id = x := (Task.turns_id turnsOne).trans (run.task_mem x oldOne foundOne).2
  have idOther : newOther.id = y :=
    (Task.turns_id turnsOther).trans (run.task_mem y oldOther foundOther).2
  subst idOne idOther
  obtain ⟨_, madeOne⟩ := Run.turns_apply active foundOne turnsOne
  obtain ⟨_, madeOther⟩ := Run.turns_apply active foundOther turnsOther
  cases appliedFirst.symm.trans madeOne
  cases appliedSecond.symm.trans madeOther
  obtain ⟨late, afterOne⟩ := Run.second_apply apart active foundOther turnsOther
  obtain ⟨early, afterOther⟩ := Run.second_apply apart.symm active foundOne turnsOne
  rw [Run.taking_swap apart foundOne foundOther turnsOne turnsOther] at afterOne
  exact ⟨_, late, early, afterOne, afterOther⟩

theorem moves_commute_signing :
    let run := (signingRun.next Instant.epoch (.complete (signingIds 0))).1
    let complete : Move := .complete (signingIds 1)
    let skip : Move := .skip (signingIds 2) none
    signingIds 1 ≠ signingIds 2 ∧ ∃ one other last early late,
      run.apply Instant.epoch complete = .ok one ∧ run.apply Instant.epoch skip = .ok other ∧
        one.1.apply Instant.epoch skip = .ok (last, early) ∧
          other.1.apply Instant.epoch complete = .ok (last, late) := by
  intro run complete skip
  have apart : signingIds 1 ≠ signingIds 2 := by decide
  obtain ⟨last, early, late, both⟩ := moves_commute run Instant.epoch complete skip (signingIds 1)
    (signingIds 2) _ _ apart rfl rfl rfl rfl
  exact ⟨apart, _, _, last, early, late, rfl, rfl, both⟩

end Workflow
