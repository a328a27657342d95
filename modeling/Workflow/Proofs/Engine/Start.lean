import Workflow.Proofs.Engine.Outcome
import Workflow.Proofs.Process.Staffing

set_option autoImplicit false

namespace Workflow

variable {σ : Type} {engine : Engine σ} {request : StartRequest} {world : World σ}

namespace Engine

def supplied (engine : Engine σ) (world : World σ) (number : Nat) : Uuid :=
  engine.ids (world.drawn + number)

def record (engine : Engine σ) (launched : Except Error (Run × List Event)) (warnings : List Warning)
    (now : Instant) : Act σ Started := do
  let (run, events) ← liftExcept launched
  ask (engine.repository.saveRun run now)
  draw (run.tasks.length + 1)
  engine.publish events
  return { run, warnings }

end Engine

theorem template_keeps {id : Uuid} {answer : Except Error Template} {found : World σ}
    (looked : (engine.template id).run world = (answer, found)) :
    found = { world with store := ((engine.repository.template? id).run world.store).2 } := by
  rcases asked : (engine.repository.template? id).run world.store with ⟨given, store⟩
  have asked := Lockstep.ask_run (engine.repository.template? id) world asked
  unfold Engine.template at looked
  cases given with
  | error error =>
      rw [Lockstep.access_bind_error _ _ _ _ _ asked] at looked
      cases looked
      rfl
  | ok given =>
      rw [access_bind_ok _ _ _ _ _ asked] at looked
      cases given <;> cases looked <;> rfl

section Steps

variable {template : Template} {found : World σ} {seeds : List Seed} {warnings : List Warning}

theorem start_run (words : request.checkWords = .ok ())
    (held : (engine.template request.templateId).run world = (.ok template, found))
    (accepted : request.check template engine.config.maxFanOut = .ok ())
    (staffed : request.staff engine.directory template.tasks = .ok (seeds, warnings)) :
    (engine.start request).run world =
      (engine.record (request.launch template seeds world.clock (engine.supplied world)) warnings
        world.clock).run found := by
  have clock : found.clock = world.clock := by rw [template_keeps held]
  have drawn : found.drawn = world.drawn := by rw [template_keeps held]
  have ids : engine.supplied world = fun number => engine.ids (found.drawn + number) := by
    rw [drawn]
    rfl
  rw [ids, ← clock]
  unfold Engine.start
  refine (access_bind_ok _ _ _ _ _ ((except_run _ world).trans (by rw [words]))).trans ?_
  refine (access_bind_ok _ _ _ _ _ held).trans ?_
  refine (access_bind_ok _ _ _ _ _ ((except_run _ found).trans (by rw [accepted]))).trans ?_
  refine (access_bind_ok _ _ _ _ _ ((except_run _ found).trans (by rw [staffed]))).trans ?_
  refine (access_bind_ok _ _ _ _ _ (now_run found)).trans ?_
  exact access_bind_ok _ _ _ _ _ (supply_run engine found)

theorem record_refused (error : Error) (now : Instant) :
    (engine.record (.error error) warnings now).run found = (.error error, found) :=
  Lockstep.access_bind_error _ _ _ _ _ (except_run (.error error) found)

theorem record_done {launched : Except Error (Run × List Event)} {now : Instant} {started : Started}
    {later : World σ}
    (done : (engine.record launched warnings now).run found = (.ok started, later)) :
    started.warnings = warnings ∧ ∃ events, launched = .ok (started.run, events) ∧
      later.published = found.published ++ engine.sink.recorded events := by
  obtain ⟨⟨run, events⟩, _, begun, rest⟩ := bind_done done
  rw [except_run] at begun
  obtain ⟨_, stored, saved, rest⟩ := bind_done rest
  obtain ⟨_, _, drawn, rest⟩ := bind_done rest
  obtain ⟨_, _, published, rest⟩ := bind_done rest
  rw [draw_run] at drawn
  rw [publish_run] at published
  cases begun
  cases drawn
  cases published
  cases rest
  have kept : stored.published = found.published := by
    have asked := Lockstep.ask_run (engine.repository.saveRun run now) found rfl
    rw [saved] at asked
    exact congrArg (fun ended => ended.2.published) asked
  exact ⟨rfl, events, rfl, by rw [← kept]⟩

theorem record_failed {run : Run} {events : List Event} {now : Instant} {error : Error}
    {later : World σ}
    (failed : (engine.record (.ok (run, events)) warnings now).run found = (.error error, later)) :
    ((engine.repository.saveRun run now).run found.store).1 = .error error := by
  rcases saved : (engine.repository.saveRun run now).run found.store with ⟨answer, store⟩
  have asked := Lockstep.ask_run (engine.repository.saveRun run now) found saved
  have begun := (access_bind_ok _ _ _ _ _ (except_run (.ok (run, events)) found)).symm.trans failed
  cases answer with
  | error reason =>
      have ended := (Lockstep.access_bind_error _ _ _ _ _ asked).symm.trans begun
      cases ended
      rfl
  | ok => cases (access_bind_ok _ _ _ _ _ asked).symm.trans begun

end Steps

structure Begun (engine : Engine σ) (request : StartRequest) (world : World σ) (template : Template)
    (started : Started) (later : World σ) : Prop where
  words : request.checkWords = .ok ()
  accepted : request.check template engine.config.maxFanOut = .ok ()
  launched : ∃ seeds events,
    request.staff engine.directory template.tasks = .ok (seeds, started.warnings) ∧
      request.launch template seeds world.clock (engine.supplied world) = .ok (started.run, events) ∧
        later.published = world.published ++ engine.sink.recorded events

theorem start_begun {started : Started} {later : World σ}
    (done : (engine.start request).run world = (.ok started, later)) :
    ∃ template found, (engine.template request.templateId).run world = (.ok template, found) ∧
      Begun engine request world template started later := by
  have whole := done
  obtain ⟨_, _, words, rest⟩ := bind_done done
  obtain ⟨words, rfl⟩ := Prod.ext_iff.mp ((except_run _ world).symm.trans words)
  obtain ⟨template, found, held, rest⟩ := bind_done rest
  obtain ⟨_, _, accepted, rest⟩ := bind_done rest
  obtain ⟨accepted, rfl⟩ := Prod.ext_iff.mp ((except_run _ found).symm.trans accepted)
  obtain ⟨⟨seeds, warnings⟩, _, staffed, -⟩ := bind_done rest
  obtain ⟨staffed, -⟩ := Prod.ext_iff.mp ((except_run _ found).symm.trans staffed)
  rw [start_run words held accepted staffed] at whole
  obtain ⟨same, events, launched, published⟩ := record_done whole
  refine ⟨template, found, held, words, accepted, seeds, events, same ▸ staffed, launched, ?_⟩
  rw [published, template_keeps held]

theorem performed_begun {template : Template} {found later : World σ} {started : Started}
    (held : engine.perform (.template request.templateId) world = (.ok (.template template), found))
    (begun : engine.perform (.start request) world = (.ok (.started started), later)) :
    Begun engine request world template started later := by
  obtain ⟨_, held, same⟩ := map_done held
  cases same
  obtain ⟨_, done, same⟩ := map_done begun
  cases same
  obtain ⟨other, _, again, begun⟩ := start_begun done
  cases held.symm.trans again
  exact begun

end Workflow
