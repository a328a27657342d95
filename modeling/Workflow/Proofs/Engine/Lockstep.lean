import Workflow.Engine.Call
import Workflow.Proofs.Store.Rows

/-!
Acts in lockstep: an act over tables and the same act over a shelf give one answer and leave worlds
that agree but for the form of the store. What is known of the end is said of the shelf alone.
-/

set_option autoImplicit false

namespace Workflow

structure Coupled (tabled : World Tables) (shelved : World Shelf) : Prop where
  stored : Stored tabled.store shelved.store
  clock : tabled.clock = shelved.clock
  published : tabled.published = shelved.published
  drawn : tabled.drawn = shelved.drawn

structure Lockstep {α : Type} (tabled : Act Tables α) (shelved : Act Shelf α) (world : World Shelf)
    (ends : Except Error α → World Shelf → Prop) : Prop where
  ends : ends (shelved.run world).1 (shelved.run world).2
  follows : ∀ other, Coupled other world → ∃ later,
    tabled.run other = ((shelved.run world).1, later) ∧ Coupled later (shelved.run world).2

namespace Lockstep

variable {α β : Type} {world : World Shelf}

theorem access_bind_error {ε σ : Type} (first : ExceptT ε (StateM σ) α)
    (next : α → ExceptT ε (StateM σ) β) (state later : σ) (error : ε)
    (failed : first.run state = (.error error, later)) :
    (first >>= next).run state = (.error error, later) := by
  rw [ExceptT.run_bind]
  simp only [bind, StateT.bind, failed]
  rfl

theorem act_map_run {σ : Type} (f : α → β) (act : Act σ α) (world : World σ) :
    (f <$> act).run world = ((act.run world).1.map f, (act.run world).2) := by
  rw [map_eq_pure_bind]
  cases done : act.run world with
  | mk answer later =>
      cases answer with
      | error error => exact access_bind_error act _ world later error done
      | ok a => exact access_bind_ok act _ world later a done

abbrev Ending (answer : Except Error α) (later : World Shelf) : Except Error α → World Shelf → Prop :=
  fun given left => given = answer ∧ left = later

variable {tabled : Act Tables α} {shelved : Act Shelf α} {after : α → Act Tables β}
  {behind : α → Act Shelf β} {ends : Except Error β → World Shelf → Prop}

theorem step {answer : Except Error α} {later : World Shelf}
    (first : Lockstep tabled shelved world (Ending answer later))
    (fails : ∀ error, answer = .error error → ends (.error error) later)
    (next : ∀ a, answer = .ok a → Lockstep (after a) (behind a) later ends) :
    Lockstep (tabled >>= after) (shelved >>= behind) world ends := by
  obtain ⟨⟨given, left⟩, follows⟩ := first
  have done : shelved.run world = (answer, later) := Prod.ext given left
  rw [done] at follows
  cases answer with
  | error error =>
      have whole := access_bind_error shelved behind world later error done
      refine ⟨by rw [whole]; exact fails error rfl, fun other coupled => ?_⟩
      obtain ⟨last, failed, still⟩ := follows other coupled
      rw [whole]
      exact ⟨last, access_bind_error tabled after other last error failed, still⟩
  | ok a =>
      have whole := access_bind_ok shelved behind world later a done
      obtain ⟨known, rest⟩ := next a rfl
      refine ⟨by rw [whole]; exact known, fun other coupled => ?_⟩
      obtain ⟨last, passed, still⟩ := follows other coupled
      rw [whole, access_bind_ok tabled after other last a passed]
      exact rest last still

theorem pass {a : α} {later : World Shelf} (first : Lockstep tabled shelved world (Ending (.ok a) later))
    (next : Lockstep (after a) (behind a) later ends) :
    Lockstep (tabled >>= after) (shelved >>= behind) world ends := by
  refine step first (fun error impossible => ?_) fun given same => ?_
  · cases impossible
  · cases same
    exact next

theorem map {ends : Except Error α → World Shelf → Prop} {others : Except Error β → World Shelf → Prop}
    (f : α → β) (act : Lockstep tabled shelved world ends)
    (each : ∀ answer later, ends answer later → others (answer.map f) later) :
    Lockstep (f <$> tabled) (f <$> shelved) world others := by
  refine ⟨?_, fun other coupled => ?_⟩
  · rw [act_map_run]
    exact each _ _ act.ends
  · obtain ⟨last, done, still⟩ := act.follows other coupled
    exact ⟨last, by rw [act_map_run, act_map_run, done], by rw [act_map_run]; exact still⟩

theorem return_ends {ends : Except Error α → World Shelf → Prop} (a : α) (holds : ends (.ok a) world) :
    Lockstep (pure a) (pure a) world ends :=
  ⟨holds, fun other coupled => ⟨other, rfl, coupled⟩⟩

theorem throw_ends {ends : Except Error α → World Shelf → Prop} (error : Error)
    (holds : ends (.error error) world) : Lockstep (throw error) (throw error) world ends :=
  ⟨holds, fun other coupled => ⟨other, rfl, coupled⟩⟩

theorem except_ends (answer : Except Error α) :
    Lockstep (liftExcept answer) (liftExcept answer) world (Ending answer world) := by
  cases answer with
  | error error => exact throw_ends error ⟨rfl, rfl⟩
  | ok a => exact return_ends a ⟨rfl, rfl⟩

theorem ask_run {σ : Type} (access : Access σ α) (world : World σ) {answer : Except Error α} {store : σ}
    (done : access.run world.store = (answer, store)) :
    (Engine.ask access).run world = (answer, { world with store }) := by
  change (let (answer, store) := access.run world.store; (answer, { world with store })) = _
  rw [done]

theorem ask_ends {access : Access Tables α} {shelf : Access Shelf α} {answer : Except Error α}
    {later : Shelf} (agree : Agree access shelf world.store answer later) :
    Lockstep (Engine.ask access) (Engine.ask shelf) world
      (Ending answer { world with store := later }) := by
  have done := ask_run shelf world agree.answered
  refine ⟨by rw [done]; exact ⟨rfl, rfl⟩, fun other coupled => ?_⟩
  obtain ⟨last, asked, stored⟩ := agree.follows other.store coupled.stored
  rw [done]
  exact ⟨{ other with store := last }, ask_run access other asked, stored, coupled.clock,
    coupled.published, coupled.drawn⟩

theorem now_ends : Lockstep Engine.now Engine.now world (Ending (.ok world.clock) world) :=
  ⟨⟨rfl, rfl⟩, fun other coupled =>
    ⟨other, congrArg (fun clock => (Except.ok clock, other)) coupled.clock, coupled⟩⟩

theorem supply_ends (setting : Engine.Setting) (tables : Repository Tables)
    (shelf : Repository Shelf) :
    Lockstep (setting.over tables).supply (setting.over shelf).supply world
      (Ending (.ok fun number => setting.ids (world.drawn + number)) world) :=
  ⟨⟨rfl, rfl⟩, fun other coupled => ⟨other, congrArg
    (fun drawn => (Except.ok fun number => setting.ids (drawn + number), other)) coupled.drawn,
    coupled⟩⟩

theorem draw_ends (count : Nat) :
    Lockstep (Engine.draw count) (Engine.draw count) world
      (Ending (.ok ()) { world with drawn := world.drawn + count }) := by
  refine ⟨⟨rfl, rfl⟩, fun other coupled => ⟨_, rfl, coupled.stored, coupled.clock,
    coupled.published, ?_⟩⟩
  exact congrArg (· + count) coupled.drawn

theorem publish_ends (setting : Engine.Setting) (tables : Repository Tables)
    (shelf : Repository Shelf) (events : List Event) :
    Lockstep ((setting.over tables).publish events) ((setting.over shelf).publish events) world
      (Ending (.ok ()) { world with
        published := events.foldl (fun record event => (setting.sink.publish record event).1)
          world.published }) := by
  refine ⟨⟨rfl, rfl⟩, fun other coupled => ⟨_, rfl, coupled.stored, coupled.clock, ?_,
    coupled.drawn⟩⟩
  exact congrArg (fun published => events.foldl (fun record event =>
    (setting.sink.publish record event).1) published) coupled.published

end Lockstep

end Workflow
