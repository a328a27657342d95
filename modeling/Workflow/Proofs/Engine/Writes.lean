import Workflow.Proofs.Engine.Interchange
import Workflow.Proofs.Engine.Outcome

set_option autoImplicit false

namespace Workflow

open Engine (Setting Answer Call)

def Engine.Call.reads : Call → Bool
  | .saveTemplate _ => false
  | .deleteTemplate _ => false
  | .start _ => false
  | .move _ _ => false
  | _ => true

inductive Writes (setting : Setting) (world : World Shelf) : Call → Answer → World Shelf → Prop where
  | read {call : Call} (answer : Answer) (reads : call.reads = true) :
      Writes setting world call answer world
  | create {draft : Draft} {graph : Graph} {tasks : List TaskTemplate} {saved : Template}
      (unnamed : draft.id = none) (accepted : draft.checked setting.config = .ok (graph, tasks))
      (made : saved =
        draft.template graph tasks (setting.ids world.drawn) world.clock world.clock) :
      Writes setting world (.saveTemplate draft) (.template saved)
        { world with store := world.store.putTemplate saved, drawn := world.drawn + 1 }
  | update {draft : Draft} {id : Uuid} {graph : Graph} {tasks : List TaskTemplate}
      {old saved : Template} (named : draft.id = some id)
      (found : world.store.template? id = some old)
      (accepted : draft.checked setting.config = .ok (graph, tasks))
      (made : saved = draft.template graph tasks id old.createdAt world.clock) :
      Writes setting world (.saveTemplate draft) (.template saved)
        { world with store := world.store.putTemplate saved }
  | delete {id : Uuid} {old : Template} (found : world.store.template? id = some old) :
      Writes setting world (.deleteTemplate id) .deleted
        { world with store := world.store.removeTemplate id }
  | start {request : StartRequest} {template : Template} {seeds : List Seed} {started : Started}
      {events : List Event} (found : world.store.template? request.templateId = some template)
      (accepted : request.check template setting.config.maxFanOut = .ok ())
      (launched : request.launch template seeds world.clock
        (fun number => setting.ids (world.drawn + number)) = .ok (started.run, events)) :
      Writes setting world (.start request) (.started started)
        { world with
          store := world.store.putRun started.run
          published := world.published ++ setting.sink.recorded events
          drawn := world.drawn + (started.run.tasks.length + 1) }
  | move {id : Uuid} {move : Move} {old next : Run} {events : List Event}
      (found : world.store.run? id = some old)
      (moved : old.apply world.clock move = .ok (next, events)) :
      Writes setting world (.move id move) (.run next)
        { world with
          store := world.store.putRun next
          published := world.published ++ setting.sink.recorded events }

section Operations

variable {setting : Setting} {world : World Shelf}

theorem template_looks (setting : Setting) (world : World Shelf) (id : Uuid) :
    (setting.shelved.template id).run world =
      (foundOr (.noTemplate id) (world.store.template? id), world) := by
  have asked : (Engine.ask (Shelf.repository.template? id)).run world =
    (.ok (world.store.template? id), world) := rfl
  refine (access_bind_ok _ _ _ _ _ asked).trans ?_
  cases world.store.template? id <;> rfl

theorem run_looks (setting : Setting) (world : World Shelf) (id : Uuid) :
    (setting.shelved.run id).run world =
      (foundOr (.noProcess id) (world.store.run? id), world) := by
  have asked : (Engine.ask (Shelf.repository.run? id)).run world =
    (.ok (world.store.run? id), world) := rfl
  refine (access_bind_ok _ _ _ _ _ asked).trans ?_
  cases world.store.run? id <;> rfl

theorem save_template_writes (template : Template) (world : World Shelf) :
    (Engine.ask (Shelf.repository.saveTemplate template)).run world =
      (.ok (), { world with store := world.store.putTemplate template }) := rfl

theorem save_run_writes (run : Run) (now : Instant) (world : World Shelf) :
    (Engine.ask (Shelf.repository.saveRun run now)).run world =
      (.ok (), { world with store := world.store.putRun run }) := rfl

theorem save_template_atomic (draft : Draft) :
    Atomic (setting.shelved.saveTemplate draft) world fun saved later =>
      Writes setting world (.saveTemplate draft) (.template saved) later := by
  refine .look (except_run _ world) fun content accepted => ?_
  refine .look (now_run world) fun now same => ?_
  cases same
  cases named : draft.id with
  | none =>
      refine .look (supply_run _ world) fun ids supplied => ?_
      cases supplied
      refine Finishes.atomic (.write (save_template_writes _ world) ?_)
      exact .write (draw_run 1 _) (.returned _ (.create named accepted rfl))
  | some id =>
      refine .look (template_looks setting world id) fun old found => ?_
      refine Finishes.atomic (.write (save_template_writes _ world) (.returned _ ?_))
      exact .update named (found_or_ok found) accepted rfl

theorem delete_template_atomic (id : Uuid) :
    Atomic (setting.shelved.deleteTemplate id) world fun _ later =>
      Writes setting world (.deleteTemplate id) .deleted later := by
  have asked : (Engine.ask (Shelf.repository.deleteTemplate id)).run world =
    (.ok (world.store.template? id).isSome,
      { world with store := world.store.removeTemplate id }) := rfl
  cases found : world.store.template? id with
  | none =>
      have absent := List.find?_eq_none.mp found
      have kept : world.store.removeTemplate id = world.store := by
        rw [Shelf.removeTemplate, List.filter_eq_self.mpr fun template member => ?_]
        simpa using absent template member
      rw [found, kept] at asked
      refine .look asked fun deleted same => ?_
      cases same
      exact ⟨rfl⟩
  | some old =>
      rw [found] at asked
      exact Finishes.atomic (.write asked (.returned () (.delete found)))

theorem start_atomic (request : StartRequest) :
    Atomic (setting.shelved.start request) world fun started later =>
      Writes setting world (.start request) (.started started) later := by
  refine .look (except_run _ world) fun _ _ => ?_
  refine .look (template_looks setting world request.templateId) fun template found => ?_
  refine .look (except_run _ world) fun _ accepted => ?_
  refine .look (except_run _ world) fun staffed _ => ?_
  refine .look (now_run world) fun now same => ?_
  refine .look (supply_run _ world) fun ids supplied => ?_
  refine .look (except_run _ world) fun launch launched => ?_
  cases same
  cases supplied
  refine Finishes.atomic (.write (save_run_writes launch.1 world.clock world) ?_)
  refine .write (draw_run _ _) ?_
  refine .write (publish_run _ launch.2 _) (.returned _ ?_)
  exact .start (found_or_ok found) accepted launched

theorem move_atomic (id : Uuid) (move : Move) :
    Atomic (setting.shelved.move id move) world fun next later =>
      Writes setting world (.move id move) (.run next) later := by
  refine .look (run_looks setting world id) fun old found => ?_
  refine .look (now_run world) fun now same => ?_
  refine .look (except_run _ world) fun moved applied => ?_
  cases same
  refine Finishes.atomic (.write (save_run_writes moved.1 world.clock world) ?_)
  refine .write (publish_run _ moved.2 _) (.returned _ ?_)
  exact .move (found_or_ok found) applied

theorem reads_atomic {α : Type} {act : Act Shelf α} {answer : Except Error α} {call : Call}
    (f : α → Answer) (looked : act.run world = (answer, world)) (reads : call.reads = true) :
    Atomic (f <$> act) world (Writes setting world call) := by
  refine ⟨?_⟩
  rw [Lockstep.act_map_run, looked]
  cases answer with
  | error _ => rfl
  | ok a => exact .read (f a) reads

theorem answer_atomic (setting : Setting) (world : World Shelf) (call : Call) :
    Atomic (setting.shelved.answer call) world (Writes setting world call) := by
  cases call with
  | preview graph => exact reads_atomic .compiled (except_run _ world) rfl
  | saveTemplate draft => exact (save_template_atomic draft).map _ fun _ _ writes => writes
  | template id => exact reads_atomic .template (template_looks setting world id) rfl
  | templates => exact reads_atomic .templates rfl rfl
  | deleteTemplate id => exact (delete_template_atomic id).map _ fun _ _ writes => writes
  | start request => exact (start_atomic request).map _ fun _ _ writes => writes
  | run id => exact reads_atomic .run (run_looks setting world id) rfl
  | runs status => exact reads_atomic .runs rfl rfl
  | move id move => exact (move_atomic id move).map _ fun _ _ writes => writes
  | summary => exact reads_atomic .rows rfl rfl

theorem perform_writes (setting : Setting) (world : World Shelf) (call : Call) :
    match setting.shelved.perform call world with
    | (.ok answer, later) => Writes setting world call answer later
    | (.error _, later) => later = world := by
  have ends := (answer_atomic setting world call).ends
  change match (setting.shelved.answer call).run world with
    | (.ok answer, later) => Writes setting world call answer later
    | (.error _, later) => later = world
  cases done : (setting.shelved.answer call).run world with
  | mk answer later =>
      rw [done] at ends
      cases answer <;> exact ends

end Operations

end Workflow
