import Workflow.Proofs.Engine.Contents
import Workflow.Proofs.Engine.Lifecycle
import Workflow.Proofs.Process.Deadlines

set_option autoImplicit false

namespace Workflow

inductive Repository.Holds : {σ κ : Type} → Repository σ → (σ → κ) → Prop where
  | shelf : Holds Shelf.repository id
  | tables (keeping : Keeping) : Holds (Tables.repositoryOf keeping) Tables.rows

section Stores

variable {σ κ : Type} {repository : Repository σ} {stored : σ → κ} (holds : repository.Holds stored)
include holds

-- A store that does not take a run has nothing against the request.
theorem holds_saves (run : Run) (now : Instant) (store : σ) (fault : RequestFault) :
    ((repository.saveRun run now).run store).1 ≠ .error (.request fault) := by
  cases holds with
  | shelf => exact nofun
  | tables keeping =>
      rcases wrote : (Tables.writeRun keeping (run.row now)).run store with ⟨answer, later⟩
      change (Tables.lift (Tables.writeRun keeping (run.row now)) store).1 ≠ _
      unfold Tables.lift
      rw [wrote]
      cases answer <;> exact nofun

theorem holds_found (id : Uuid) (store : σ) :
    stored ((repository.template? id).run store).2 = stored store := by
  cases holds with
  | shelf => rfl
  | tables keeping =>
      have looked : Concludes Tables.rows ((Tables.repositoryOf keeping).template? id) store.rows
          fun _ later => later = store.rows :=
        (find_template_concludes id).imp fun _ _ found => found.2
      exact looked.keeps store rfl

end Stores

theorem looked_stores_nothing {σ κ : Type} {engine : Engine σ} {stored : σ → κ} {id : Uuid}
    {world found : World σ} {template : Template} (holds : engine.repository.Holds stored)
    (held : engine.perform (.template id) world = (.ok (.template template), found)) :
    stored found.store = stored world.store ∧ found.published = world.published := by
  obtain ⟨_, looked, -⟩ := map_done held
  rw [template_keeps looked]
  exact ⟨holds_found holds id world.store, rfl⟩

section Starts

variable {σ : Type} {engine : Engine σ} {request : StartRequest} {world found : World σ}
  {template : Template} {seeds : List Seed} {warnings : List Warning} {error : Error}
  (words : request.checkWords = .ok ())
  (held : engine.perform (.template request.templateId) world = (.ok (.template template), found))
  (accepted : request.check template engine.config.maxFanOut = .ok ())
  (staffed : request.staff engine.directory template.tasks = .ok (seeds, warnings))
include words held accepted staffed

theorem start_performed :
    engine.perform (.start request) world =
      (Engine.Answer.started <$> engine.record
        (request.launch template seeds world.clock (engine.supplied world)) warnings
          world.clock).run found := by
  obtain ⟨_, held, same⟩ := map_done held
  cases same
  change (Engine.Answer.started <$> engine.start request).run world = _
  rw [Lockstep.act_map_run, Lockstep.act_map_run, start_run words held accepted staffed]

theorem start_refused
    (refused : request.launch template seeds world.clock (engine.supplied world) = .error error) :
    engine.perform (.start request) world = (.error error, found) := by
  rw [start_performed words held accepted staffed, refused, Lockstep.act_map_run, record_refused]
  rfl

theorem start_fails {later : World σ}
    (failed : engine.perform (.start request) world = (.error error, later)) :
    request.launch template seeds world.clock (engine.supplied world) = .error error ∨
      ∃ run, ((engine.repository.saveRun run world.clock).run found.store).1 = .error error := by
  cases launched : request.launch template seeds world.clock (engine.supplied world) with
  | error reason =>
      cases (start_refused words held accepted staffed launched).symm.trans failed
      exact .inl rfl
  | ok launch =>
      obtain ⟨run, events⟩ := launch
      rw [start_performed words held accepted staffed, launched] at failed
      exact .inr ⟨run, record_failed (map_failed failed)⟩

end Starts

theorem deadlines_exact {σ κ : Type} (engine : Engine σ) (stored : σ → κ) (request : StartRequest)
    (world found : World σ) (template : Template) (seeds : List Seed) (warnings : List Warning)
    (holds : engine.repository.Holds stored) (words : request.checkWords = .ok ())
    (held : engine.perform (.template request.templateId) world = (.ok (.template template), found))
    (accepted : request.check template engine.config.maxFanOut = .ok ())
    (staffed : request.staff engine.directory template.tasks = .ok (seeds, warnings))
    (ordinary : request.Ordinary world.clock) :
    (∀ started later, engine.perform (.start request) world = (.ok (.started started), later) →
      request.Scheduled world.clock template.tasks started.run) ∧
    (∀ days anchor later,
      engine.perform (.start request) world = (.error (.request (.farDeadline days anchor)), later) →
        request.Far world.clock template.tasks days anchor) ∧
    ((∃ days anchor, request.Far world.clock template.tasks days anchor) →
      (∃ days anchor,
        engine.perform (.start request) world = (.error (.request (.farDeadline days anchor)), found)) ∧
      stored found.store = stored world.store ∧ found.published = world.published) ∧
    ∀ error later, engine.perform (.start request) world = (.error error, later) →
      (∃ days anchor, error = .request (.farDeadline days anchor)) ∨
        ∃ run, ((engine.repository.saveRun run world.clock).run found.store).1 = .error error := by
  refine ⟨fun started later done => ?_, fun days anchor later failed => ?_, fun far => ?_,
    fun error later failed => ?_⟩
  · obtain ⟨_, events, again, launched, -⟩ := (performed_begun held done).launched
    exact launch_scheduled ordinary again launched
  · rcases start_fails words held accepted staffed failed with refused | ⟨run, unsaved⟩
    · obtain ⟨_, _, far, same⟩ := launch_far ordinary staffed refused
      cases same
      exact far
    · exact absurd unsaved (holds_saves holds run world.clock found.store _)
  · obtain ⟨days, anchor, far⟩ := far
    cases launched : request.launch template seeds world.clock (engine.supplied world) with
    | ok result => exact absurd far (launch_near ordinary staffed launched)
    | error error =>
        obtain ⟨days, anchor, -, rfl⟩ := launch_far ordinary staffed launched
        have refused := start_refused words held accepted staffed launched
        exact ⟨⟨days, anchor, refused⟩, looked_stores_nothing holds held⟩
  · rcases start_fails words held accepted staffed failed with refused | unsaved
    · obtain ⟨days, anchor, -, same⟩ := launch_far ordinary staffed refused
      exact .inl ⟨days, anchor, same⟩
    · exact .inr unsaved

def dueTemplate (days : Nat) : Template where
  id := ⟨0⟩
  title := "Release"
  tasks := [{ id := "a", name := "a", deadlineOffsetDays := some days },
    { id := "c", name := "c", predecessorIds := ["a"], orderHint := 1 }]
  createdAt := .epoch
  updatedAt := .epoch

def dueSaved (days : Nat) : World Shelf where
  store := { templates := [dueTemplate days] }
  clock := .epoch
  drawn := 1

def inDays (days : Nat) : Instant := (Instant.epoch.addDays? days).getD .epoch

def dueRequest : StartRequest :=
  { releaseRequest with taskPlans := [{ taskTemplateId := "a", plannedStartAt := some (inDays 10) }] }

def dueRun : Run where
  process := { releaseStart.process with expectedEndAt := some (inDays 30) }
  tasks := [{ id := ⟨2⟩, processId := ⟨1⟩, templateId := "a", name := "a", taskType := .plain
              status := .ready, plannedStartAt := some (inDays 10), deadlineAt := some (inDays 40) },
    { id := ⟨3⟩, processId := ⟨1⟩, templateId := "c", name := "c", taskType := .plain
      status := .waiting }]
  templates := (dueTemplate 30).tasks

theorem due_held (days : Nat) : numbered.shelved.perform (.template dueRequest.templateId) (dueSaved days) =
    (.ok (.template (dueTemplate days)), dueSaved days) := rfl

theorem due_accepted (days : Nat) :
    dueRequest.check (dueTemplate days) numbered.shelved.config.maxFanOut = .ok () := rfl

theorem due_ordinary : dueRequest.Ordinary .epoch where
  start := by decide
  planned := by decide

theorem deadlines_exact_due :
    (∃ later, numbered.shelved.perform (.start dueRequest) (dueSaved 30) =
        (.ok (.started ⟨dueRun, []⟩), later) ∧
      dueRequest.Scheduled .epoch (dueTemplate 30).tasks dueRun) ∧
    ∃ days anchor, numbered.shelved.perform (.start dueRequest) (dueSaved 4294967295) =
      (.error (.request (.farDeadline days anchor)), dueSaved 4294967295) := by
  have begun : (numbered.shelved.perform (.start dueRequest) (dueSaved 30)).1 =
    .ok (.started ⟨dueRun, []⟩) := by cbv
  have far : dueRequest.Far .epoch (dueTemplate 4294967295).tasks 4294967295 .epoch :=
    .whole ((longest_offset_iff _).mp rfl) (by decide)
  obtain ⟨scheduled, -⟩ := deadlines_exact numbered.shelved id dueRequest (dueSaved 30) (dueSaved 30)
    (dueTemplate 30) _ _ .shelf rfl (due_held 30) (due_accepted 30) rfl due_ordinary
  obtain ⟨-, -, refused, -⟩ := deadlines_exact numbered.shelved id dueRequest (dueSaved 4294967295)
    (dueSaved 4294967295) (dueTemplate 4294967295) _ _ .shelf rfl (due_held _) (due_accepted _) rfl
    due_ordinary
  exact ⟨⟨_, Prod.ext begun rfl, scheduled _ _ (Prod.ext begun rfl)⟩, (refused ⟨_, _, far⟩).1⟩

end Workflow
