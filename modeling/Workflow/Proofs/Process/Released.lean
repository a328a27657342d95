import Workflow.Proofs.Process.Release

set_option autoImplicit false

namespace Workflow.Run

def due (run : Run) (ids : List String) (task : Task) : Bool :=
  task.templateId ∈ ids && run.free task.templateId && task.status.held

theorem due_iff (run : Run) (ids : List String) (task : Task) :
    run.due ids task = true ↔
      task.templateId ∈ ids ∧ run.free task.templateId = true ∧ task.status.held = true := by
  simp [due, and_assoc]

theorem freed_eq (run : Run) (ids : List String) (task : Task) :
    run.freed ids task = if run.due ids task then { task with status := .ready } else task := by
  simp only [freed, due_iff]

theorem due_cons (run : Run) (id : String) (rest : List String) (task : Task) :
    run.due (id :: rest) task = (run.due [id] task || run.due rest task) := by
  rw [Bool.eq_iff_iff, Bool.or_eq_true, due_iff, due_iff, due_iff, List.mem_cons, List.mem_singleton]
  exact or_and_right

theorem due_freed (run : Run) (ids others : List String) (task : Task) :
    ({ run with tasks := run.tasks.map (run.freed ids) } : Run).due others (run.freed ids task) =
      (run.due others task && !run.due ids task) := by
  rw [freed_eq]
  cases moved : run.due ids task with
  | true => simp [due, TaskStatus.held]
  | false => simp [due, run.free_freed ids]

theorem ready_freed (run : Run) (ids : List String) (task : Task) :
    Event.ready (run.freed ids task) = .ready task := by
  rw [freed_eq]
  cases run.due ids task <;> rfl

theorem none_due (run : Run) (id : String) (shut : run.free id = false) :
    run.tasks.filter (run.due [id]) = [] := by
  refine List.filter_eq_nil_iff.mpr fun task _ is => ?_
  obtain ⟨own, free, _⟩ := (run.due_iff [id] task).mp is
  rw [List.mem_singleton.mp own, shut] at free
  cases free

theorem release_events (run : Run) (id : String) :
    (run.release id).2 = (run.tasks.filter (run.due [id])).map .ready := by
  cases found : run.template? id with
  | none =>
      rw [run.none_due id (by simp [free, found]), release, found]
      rfl
  | some template =>
      by_cases clear : run.unblocked template = true
      · have released : run.free id = true := by simpa [free, found] using clear
        have same (task : Task) :
            run.due [id] task = (task.status.held && decide (task.templateId = id)) := by
          by_cases own : task.templateId = id
          · simp [due, own, released]
          · simp [due, own]
        simp only [release, found, if_pos clear, heldOf, instancesOf, List.filter_filter]
        rw [List.filter_congr fun task _ => same task]
      · rw [run.none_due id (by simpa [free, found] using clear), release, found]
        simp [clear]

-- The later releases announce what the first one left.
theorem release_all_events (run : Run) (ids : List String) :
    (run.releaseAll ids).2.Perm ((run.tasks.filter (run.due ids)).map .ready) := by
  induction ids generalizing run with
  | nil => simp [releaseAll, due]
  | cons id rest ih =>
      change ((run.release id).2 ++ ((run.release id).1.releaseAll rest).2).Perm _
      have first : run.tasks.filter (run.due [id]) =
          (run.tasks.filter (run.due (id :: rest))).filter (run.due [id]) := by
        rw [List.filter_filter]
        refine List.filter_congr fun task _ => ?_
        rw [run.due_cons id rest]
        cases run.due [id] task <;> simp
      have others : ((run.release id).1.tasks.filter ((run.release id).1.due rest)).map Event.ready =
          ((run.tasks.filter (run.due (id :: rest))).filter fun task => !run.due [id] task).map
            Event.ready := by
        rw [release_run, List.filter_map, List.map_map, List.filter_filter]
        refine (List.map_congr_left fun task _ => run.ready_freed [id] task).trans ?_
        congr 1
        refine List.filter_congr fun task _ => ?_
        rw [Function.comp_apply, due_freed, run.due_cons id rest]
        cases run.due [id] task <;> simp
      have later := ih (run.release id).1
      rw [others] at later
      rw [release_events, first]
      refine (later.append_left _).trans ?_
      rw [← List.map_append]
      exact (List.filter_append_perm (run.due [id]) _).map Event.ready

theorem release_all_idle (run : Run) (ids : List String)
    (settled : ∀ task ∈ run.tasks, run.due ids task = false) : run.releaseAll ids = (run, []) := by
  have told := run.release_all_events ids
  have none : run.tasks.filter (run.due ids) = [] :=
    List.filter_eq_nil_iff.mpr fun task member => by simp [settled task member]
  rw [none] at told
  have unchanged : run.tasks.map (run.freed ids) = run.tasks := by
    refine (List.map_congr_left fun task member => ?_).trans run.tasks.map_id
    rw [freed_eq, settled task member]
    rfl
  have same := run.release_all_run ids
  rw [unchanged] at same
  exact Prod.ext same told.eq_nil

theorem release_all_left (run : Run) (ids : List String) :
    ∀ task ∈ (run.releaseAll ids).1.tasks, (run.releaseAll ids).1.due ids task = false := by
  intro task member
  rw [release_all_run] at member ⊢
  obtain ⟨before, _, same⟩ := List.mem_map.mp member
  rw [← same, due_freed]
  cases run.due ids before <;> rfl

theorem release_all_again (run : Run) (ids : List String) :
    (run.releaseAll ids).1.releaseAll ids = ((run.releaseAll ids).1, []) :=
  release_all_idle _ ids (run.release_all_left ids)

end Workflow.Run
