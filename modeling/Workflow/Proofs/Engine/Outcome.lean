import Workflow.Proofs.Engine.Lockstep

set_option autoImplicit false

namespace Workflow

section Judgements

variable {σ κ ε α β : Type} {view : σ → κ} {seen changed : κ}

-- Seen from this side the act does this, or it fails and changes nothing.
def Concludes (view : σ → κ) (act : ExceptT ε (StateM σ) α) (seen : κ) (does : α → κ → Prop) : Prop :=
  ∀ state, view state = seen → match act.run state with
    | (.ok a, later) => does a (view later)
    | (.error _, later) => view later = seen

def Succeeds (view : σ → κ) (act : ExceptT ε (StateM σ) α) (seen : κ) (does : α → κ → Prop) : Prop :=
  ∀ state, view state = seen → ∃ a later, act.run state = (.ok a, later) ∧ does a (view later)

variable {first : ExceptT ε (StateM σ) α} {next : α → ExceptT ε (StateM σ) β} {does : β → κ → Prop}

theorem Succeeds.returned (b : β) (did : does b seen) :
    Succeeds view (pure b : ExceptT ε (StateM σ) β) seen does := by
  intro state same
  exact ⟨b, state, rfl, same ▸ did⟩

theorem Succeeds.bind {good : α → κ → Prop} (begun : Succeeds view first seen good)
    (rest : ∀ a later, good a later → Succeeds view (next a) later does) :
    Succeeds view (first >>= next) seen does := by
  intro state same
  obtain ⟨a, middle, ran, held⟩ := begun state same
  obtain ⟨b, last, ended, did⟩ := rest a _ held middle rfl
  exact ⟨b, last, (access_bind_ok first next state middle a ran).trans ended, did⟩

namespace Concludes

theorem of_succeeds {act : ExceptT ε (StateM σ) β} (succeeds : Succeeds view act seen does) :
    Concludes view act seen does := by
  intro state same
  obtain ⟨b, later, ran, did⟩ := succeeds state same
  rw [ran]
  exact did

theorem step {good : α → κ → Prop} (begun : Concludes view first seen good)
    (rest : ∀ a later, good a later →
      later = seen ∧ Concludes view (next a) seen does ∨ Succeeds view (next a) later does) :
    Concludes view (first >>= next) seen does := by
  intro state same
  have begun := begun state same
  cases ran : first.run state with
  | mk answer middle =>
      rw [ran] at begun
      cases answer with
      | error error =>
          rw [Lockstep.access_bind_error first next state middle error ran]
          exact begun
      | ok a =>
          rw [access_bind_ok first next state middle a ran]
          rcases rest a _ begun with ⟨unchanged, concludes⟩ | succeeds
          · exact concludes middle unchanged
          · obtain ⟨b, last, ended, did⟩ := succeeds middle rfl
            rw [ended]
            exact did

theorem look {good : α → Prop}
    (looked : Concludes view first seen fun a later => good a ∧ later = seen)
    (rest : ∀ a, good a → Concludes view (next a) seen does) :
    Concludes view (first >>= next) seen does :=
  looked.step fun a _ known => .inl ⟨known.2, rest a known.1⟩

theorem write {good : α → κ → Prop} (wrote : Concludes view first seen good)
    (rest : ∀ a later, good a later → Succeeds view (next a) later does) :
    Concludes view (first >>= next) seen does :=
  wrote.step fun a later did => .inr (rest a later did)

theorem imp {act : ExceptT ε (StateM σ) β} {others : β → κ → Prop}
    (concludes : Concludes view act seen does) (each : ∀ b later, does b later → others b later) :
    Concludes view act seen others := by
  intro state same
  have ends := concludes state same
  cases ran : act.run state with
  | mk answer later =>
      rw [ran] at ends
      cases answer with
      | error error => exact ends
      | ok b => exact each b _ ends

theorem keeps {act : ExceptT ε (StateM σ) β} {holds : κ → Prop} (state : σ)
    (concludes : Concludes view act (view state) fun _ later => holds later)
    (before : holds (view state)) : holds (view (act.run state).2) := by
  have ends := concludes state rfl
  cases ran : act.run state with
  | mk answer later =>
      rw [ran] at ends
      cases answer with
      | error _ => exact ends.symm ▸ before
      | ok _ => exact ends

theorem map {act : ExceptT ε (StateM σ) α} {f : α → β}
    (concludes : Concludes view act seen fun a later => does (f a) later) :
    Concludes view (f <$> act) seen does := by
  rw [map_eq_pure_bind]
  exact concludes.write fun a _ did state same => ⟨f a, state, rfl, same ▸ did⟩

end Concludes

end Judgements

section Acts

variable {σ α β : Type} {world : World σ}

structure Atomic (act : Act σ α) (world : World σ) (does : α → World σ → Prop) : Prop where
  ends : match act.run world with
    | (.ok a, later) => does a later
    | (.error _, later) => later = world

def Finishes (act : Act σ α) (world : World σ) (does : α → World σ → Prop) : Prop :=
  ∃ a later, act.run world = (.ok a, later) ∧ does a later

namespace Finishes

variable {first : Act σ α} {next : α → Act σ β} {does : β → World σ → Prop}

theorem returned (b : β) (did : does b world) : Finishes (pure b) world does := ⟨b, world, rfl, did⟩

theorem write {a : α} {later : World σ} (wrote : first.run world = (.ok a, later))
    (rest : Finishes (next a) later does) : Finishes (first >>= next) world does := by
  obtain ⟨b, last, ended, did⟩ := rest
  exact ⟨b, last, (access_bind_ok first next world later a wrote).trans ended, did⟩

theorem atomic {act : Act σ β} (finishes : Finishes act world does) : Atomic act world does := by
  obtain ⟨b, last, ended, did⟩ := finishes
  refine ⟨?_⟩
  rw [ended]
  exact did

end Finishes

namespace Atomic

theorem concludes_iff {act : Act σ α} {does : α → World σ → Prop} :
    Atomic act world does ↔ Concludes id act world does := by
  constructor
  · intro atomic state same
    have ends := atomic.ends
    rw [show state = world from same]
    rcases ran : act.run world with ⟨error | a, later⟩ <;> rw [ran] at ends <;> exact ends
  · intro concludes
    have ends := concludes world rfl
    refine ⟨?_⟩
    rcases ran : act.run world with ⟨error | a, later⟩ <;> rw [ran] at ends <;> exact ends

theorem look {first : Act σ α} {next : α → Act σ β} {does : β → World σ → Prop}
    {answer : Except Error α} (looked : first.run world = (answer, world))
    (rest : ∀ a, answer = .ok a → Atomic (next a) world does) :
    Atomic (first >>= next) world does := by
  have looks : Concludes id first world fun a later => answer = .ok a ∧ later = world := by
    intro state same
    rw [show state = world from same, looked]
    cases answer with
    | error error => rfl
    | ok a => exact ⟨rfl, rfl⟩
  exact concludes_iff.mpr (looks.look fun a known => concludes_iff.mp (rest a known))

theorem keeps {act : Act σ α} {does : α → World σ → Prop} {holds : World σ → Prop}
    (atomic : Atomic act world does) (before : holds world)
    (each : ∀ a later, does a later → holds later) : holds (act.run world).2 :=
  ((concludes_iff.mp atomic).imp each).keeps world before

theorem map {act : Act σ α} {does : α → World σ → Prop} {others : β → World σ → Prop} (f : α → β)
    (atomic : Atomic act world does) (each : ∀ a later, does a later → others (f a) later) :
    Atomic (f <$> act) world others :=
  concludes_iff.mpr ((concludes_iff.mp atomic).imp each).map

end Atomic

theorem bind_done {first : Act σ α} {next : α → Act σ β} {later : World σ} {b : β}
    (done : (first >>= next).run world = (.ok b, later)) :
    ∃ a middle, first.run world = (.ok a, middle) ∧ (next a).run middle = (.ok b, later) := by
  cases begun : first.run world with
  | mk answer middle =>
      cases answer with
      | error error =>
          rw [Lockstep.access_bind_error first next world middle error begun] at done
          cases done
      | ok a => exact ⟨a, middle, rfl, (access_bind_ok first next world middle a begun).symm.trans done⟩

theorem map_done {act : Act σ α} {f : α → β} {later : World σ} {b : β}
    (done : (f <$> act).run world = (.ok b, later)) :
    ∃ a, act.run world = (.ok a, later) ∧ f a = b := by
  rw [map_eq_pure_bind] at done
  obtain ⟨a, middle, begun, rest⟩ := bind_done done
  cases rest
  exact ⟨a, begun, rfl⟩

theorem map_failed {act : Act σ α} {f : α → β} {later : World σ} {error : Error}
    (failed : (f <$> act).run world = (.error error, later)) :
    act.run world = (.error error, later) := by
  rw [Lockstep.act_map_run] at failed
  rcases done : act.run world with ⟨answer, last⟩
  rw [done] at failed
  cases answer with
  | error reason =>
      cases failed
      rfl
  | ok a => cases failed

theorem except_run (answer : Except Error α) (world : World σ) :
    (liftExcept answer : Act σ α).run world = (answer, world) := by
  cases answer <;> rfl

theorem now_run (world : World σ) : Engine.now.run world = (.ok world.clock, world) := rfl

theorem supply_run (engine : Engine σ) (world : World σ) :
    engine.supply.run world = (.ok fun number => engine.ids (world.drawn + number), world) := rfl

theorem draw_run (count : Nat) (world : World σ) :
    (Engine.draw count).run world = (.ok (), { world with drawn := world.drawn + count }) := rfl

def Sink.recorded (sink : Sink) (events : List Event) : List Event :=
  match sink with
  | .log => []
  | _ => events

theorem publish_recorded (sink : Sink) (record events : List Event) :
    events.foldl (fun record event => (sink.publish record event).1) record =
      record ++ sink.recorded events := by
  induction events generalizing record with
  | nil => cases sink <;> simp [Sink.recorded]
  | cons event rest ih =>
      rw [List.foldl_cons, ih]
      cases sink <;> simp [Sink.publish, Sink.recorded]

theorem publish_run (engine : Engine σ) (events : List Event) (world : World σ) :
    (engine.publish events).run world =
      (.ok (), { world with published := world.published ++ engine.sink.recorded events }) := by
  rw [← publish_recorded]
  rfl

end Acts

end Workflow
