import Workflow.Proofs.Graph.Ordering
import Workflow.Proofs.Process.Recheck

set_option autoImplicit false

namespace Workflow

namespace Run

def Going (run : Run) (id : String) : Prop :=
  ∃ task ∈ run.tasks, task.templateId = id ∧
    (task.status = .ready ∨ task.status = .inProgress ∨ task.status = .completed)

def DoneOnce (run : Run) (id : String) : Prop :=
  ∃ task ∈ run.tasks, task.templateId = id ∧ task.status = .completed

def DoneAll (run : Run) (id : String) : Prop :=
  ∀ task ∈ run.tasks, task.templateId = id → task.status = .completed

structure Unskipped (run : Run) : Prop where
  staffed : ∀ template ∈ run.templates, ∃ task ∈ run.tasks, task.templateId = template.id
  unskipped : ∀ task ∈ run.tasks, task.status ≠ .skipped

variable {run : Run}

theorem satisfied_done (whole : run.Unskipped) (mode : PredecessorMode) (id : String)
    (known : id ∈ run.templates.map TaskTemplate.id) (satisfied : Satisfied run.tasks mode id) :
    run.DoneOnce id ∧ (mode = .all → run.DoneAll id) := by
  obtain ⟨template, among, same⟩ := List.mem_map.mp known
  obtain ⟨task, member, own⟩ := whole.staffed template among
  cases mode with
  | all =>
      have done : run.DoneAll id := fun other listed template =>
        (satisfied other listed template).resolve_right (whole.unskipped other listed)
      exact ⟨⟨task, member, own.trans same, done task member (own.trans same)⟩, fun _ => done⟩
  | any =>
      rcases satisfied with completed | skipped
      · exact ⟨completed, nofun⟩
      · exact absurd (skipped task member (own.trans same)) (whole.unskipped task member)

theorem waited_done (formed : WellFormed run.templates) (inStep : run.InStep) (whole : run.Unskipped)
    (first last : String) (listed : (first, last) ∈ predecessorArcs run.templates)
    (going : run.Going last) :
    run.DoneOnce first ∧ ((∀ template ∈ run.templates, template.predecessorMode = .all) →
      run.DoneAll first) := by
  obtain ⟨template, among, same, waits⟩ := (mem_predecessor_arcs run.templates first last).mp listed
  obtain ⟨task, member, own, status⟩ := going
  have named := run.template_of_mem template formed.distinct among
  obtain ⟨other, found, satisfied⟩ := (run.free_iff _).mp (inStep.going task member status)
  rw [own, ← same, named] at found
  cases found
  have done := satisfied_done whole template.predecessorMode first (formed.known template among waits)
    (satisfied first waits)
  exact ⟨done.1, fun all => done.2 (all template among)⟩

-- From the last task back to the first: what is done once is going too, so what it waited for is done.
theorem ordered_done (formed : WellFormed run.templates) (inStep : run.InStep) (whole : run.Unskipped)
    (first last : String) (path : Path (predecessorArcs run.templates) first last)
    (going : run.Going last) :
    run.DoneOnce first ∧ ((∀ template ∈ run.templates, template.predecessorMode = .all) →
      run.DoneAll first) := by
  induction path with
  | arc listed => exact waited_done formed inStep whole _ _ listed going
  | step listed _ _ ih =>
      obtain ⟨task, member, own, completed⟩ := (ih going).1
      exact waited_done formed inStep whole _ _ listed ⟨task, member, own, .inr (.inr completed)⟩

theorem launch_unskipped {process : Process} {templates : List TaskTemplate} {seeds : List Seed}
    {ids : Nat → Uuid} {start : Run} {events : List Event}
    (launched : launch process templates seeds ids = .ok (start, events))
    (moves : List (Instant × Move))
    (unskipped : ∀ task ∈ (start.after moves).1.tasks, task.status ≠ .skipped) :
    (start.after moves).1.Unskipped := by
  refine ⟨fun template among => ?_, unskipped⟩
  rw [after_templates, (launch_templates launched).1] at among
  obtain ⟨task, member, own⟩ := launch_staffed launched template among
  have placed : task.templateId ∈ (start.after moves).1.tasks.map Task.templateId := by
    rw [start.after_field Task.templateId (fun _ _ _ _ => rfl) moves]
    exact List.mem_map_of_mem member
  obtain ⟨later, found, same⟩ := List.mem_map.mp placed
  exact ⟨later, found, same.trans own⟩

end Run

theorem diagram_order (graph : Graph) (process : Process) (templates : List TaskTemplate)
    (seeds : List Seed) (ids : Nat → Uuid) (start run : Run) (events : List Event)
    (compiled : graph.compile = .ok templates)
    (launched : Run.launch process templates seeds ids = .ok (start, events))
    (reached : Run.Reached start run) (unskipped : ∀ task ∈ run.tasks, task.status ≠ .skipped)
    (first last : String) (task : graph.OfKind .task first) (going : run.Going last)
    (ordered : graph.Ordered first last) :
    run.DoneOnce first ∧ ((∀ template ∈ templates, template.predecessorMode = .all) →
      run.DoneAll first) := by
  obtain ⟨valid, rfl⟩ := (graph.compile_ok_iff templates).mp compiled
  have drawn := (valid_iff graph).mp valid
  have formed := Graph.compile_well_formed drawn
  obtain ⟨moves, rfl⟩ := Run.reached_after start run (Run.launch_in_step formed launched) reached
  have same : (start.after moves).1.templates = graph.compileValid :=
    (start.after_templates moves).trans (Run.launch_templates launched).1
  have inStep := Run.after_in_step formed launched moves
  obtain ⟨waiting, member, own, _⟩ := going
  have placed := inStep.placed waiting member
  rw [own, same, Graph.mem_compile_ids drawn] at placed
  have path := Graph.waits_of_ordered drawn first last task placed ordered
  rw [← same] at formed path ⊢
  exact Run.ordered_done formed inStep (Run.launch_unskipped launched moves unskipped) first last path
    ⟨waiting, member, own, ‹_›⟩

def filing : List TaskTemplate :=
  [{ id := "post", name := "post" },
    { id := "fetch", name := "fetch", orderHint := 1 },
    { id := "file"
      name := "file"
      predecessorIds := ["post", "fetch"]
      predecessorMode := .any
      orderHint := 2 }]

def filingRun : Run :=
  { process := signingProcess
    tasks := [signingTask 0 "post" "post" .ready, signingTask 1 "fetch" "fetch" .ready,
      signingTask 2 "file" "file" .waiting]
    templates := filing }

def filingMoves : List (Instant × Move) :=
  [(Instant.epoch, .complete (signingIds 0)), (Instant.epoch, .complete (signingIds 1))]

theorem diagram_order_filing :
    Graph.choice.compile = .ok filing ∧
      (∃ events, Run.launch signingProcess filing [] signingIds = .ok (filingRun, events)) ∧
        let run := (filingRun.after filingMoves).1
        Run.Reached filingRun run ∧ (∀ task ∈ run.tasks, task.status ≠ .skipped) ∧
          Graph.choice.OfKind .task "post" ∧ run.Going "file" ∧ Graph.choice.Ordered "post" "file" ∧
            run.DoneOnce "post" := by
  have compiled : Graph.choice.compile = .ok filing := by cbv
  have launched : Run.launch signingProcess filing [] signingIds = .ok (filingRun, _) := rfl
  have reached : Run.Reached filingRun (filingRun.after filingMoves).1 :=
    .moved (.moved .here Instant.epoch (.complete (signingIds 0))) Instant.epoch
      (.complete (signingIds 1))
  have unskipped : ∀ task ∈ (filingRun.after filingMoves).1.tasks, task.status ≠ .skipped := by
    decide
  have post : Graph.choice.OfKind .task "post" := ⟨.task "post", by simp [Graph.choice], rfl, rfl⟩
  have going : (filingRun.after filingMoves).1.Going "file" :=
    ⟨_, List.mem_of_getElem? (i := 2) rfl, rfl, .inl rfl⟩
  exact ⟨compiled, ⟨_, launched⟩, reached, unskipped, post, going, Graph.choice_ordered,
    (diagram_order Graph.choice signingProcess filing [] signingIds filingRun _ _ compiled launched
      reached unskipped "post" "file" post going Graph.choice_ordered).1⟩

end Workflow
