import Workflow.Proofs.Engine.Exclusion
import Workflow.Proofs.Engine.Local
import Workflow.Proofs.Process.Recheck

set_option autoImplicit false

namespace Workflow

open Engine (Setting Call Answer)

namespace Interleaving

def Errand.call (errand : Errand) : Instant × Call :=
  (errand.time, .move errand.process errand.move)

def Errand.serve (errand : Errand) (shelf : Shelf) : Except Error Run × Shelf :=
  match shelf.run? errand.process with
  | none => (.error (.noProcess errand.process), shelf)
  | some old =>
    match old.apply errand.time errand.move with
    | .ok (next, _) => (.ok next, shelf.putRun next)
    | .error error => (.error error, shelf)

inductive Errand.Serves (errand : Errand) (shelf : Shelf) : Except Error Run × Shelf → Prop where
  | misses (absent : shelf.run? errand.process = none) :
      Serves errand shelf (.error (.noProcess errand.process), shelf)
  | refuses (old : Run) (error : Error) (found : shelf.run? errand.process = some old)
      (refused : old.apply errand.time errand.move = .error error) :
      Serves errand shelf (.error error, shelf)
  | saves (old next : Run) (events : List Event) (found : shelf.run? errand.process = some old)
      (moved : old.apply errand.time errand.move = .ok (next, events))
      (own : next.id = errand.process) :
      Serves errand shelf (.ok next, shelf.putRun next)

theorem serve_serves (errand : Errand) (shelf : Shelf) : errand.Serves shelf (errand.serve shelf) := by
  rw [Errand.serve]
  cases found : shelf.run? errand.process with
  | none => exact .misses found
  | some old =>
      dsimp only
      cases applied : old.apply errand.time errand.move with
      | error error => exact .refuses old error found applied
      | ok result =>
          exact .saves old result.1 result.2 found applied
            ((Run.move_own applied).trans (found_key found))

def Caller.decided? (caller : Caller) : Option (Errand × Except Error Run) :=
  caller.phase.answer?.map fun answer => (caller.errand, answer)

def movesOf (process : Uuid) (errands : List Errand) : List (Instant × Move) :=
  (errands.filter (·.process = process)).map fun errand => (errand.time, errand.move)

section Alone

variable (setting : Setting)

theorem move_run (world : World Shelf) (id : Uuid) (move : Move) :
    (setting.shelved.move id move).run world =
      match world.store.run? id with
      | none => (.error (.noProcess id), world)
      | some old =>
        match old.apply world.clock move with
        | .error error => (.error error, world)
        | .ok (next, events) =>
          (.ok next, { world with
            store := world.store.putRun next
            published := world.published ++ setting.sink.recorded events }) := by
  have looked := run_looks setting world id
  cases found : world.store.run? id with
  | none =>
      rw [found] at looked
      exact Lockstep.access_bind_error _ _ world world _ looked
  | some old =>
      rw [found] at looked
      dsimp only
      have tried := except_run (old.apply world.clock move) world
      refine (access_bind_ok _ _ world world old looked).trans ?_
      refine (access_bind_ok _ _ world world _ (now_run world)).trans ?_
      cases applied : old.apply world.clock move with
      | error error =>
          rw [applied] at tried
          exact Lockstep.access_bind_error _ _ world world error tried
      | ok result =>
          rw [applied] at tried
          refine (access_bind_ok _ _ world world result tried).trans ?_
          refine (access_bind_ok _ _ world _ _ (save_run_writes result.1 world.clock world)).trans ?_
          exact access_bind_ok _ _ _ _ _ (publish_run _ result.2 _)

theorem serve_performed (world : World Shelf) (errand : Errand) :
    let done := setting.shelved.performAt world errand.call.1 errand.call.2
    done.1 = (errand.serve world.store).1.map Answer.run ∧
      done.2.store = (errand.serve world.store).2 := by
  dsimp only
  rw [Engine.performAt, Engine.perform, Errand.call, Engine.answer]
  change ((Answer.run <$> setting.shelved.move errand.process errand.move).run _).1 = _ ∧
    ((Answer.run <$> setting.shelved.move errand.process errand.move).run _).2.store = _
  rw [Lockstep.act_map_run, move_run, Errand.serve]
  dsimp only
  cases world.store.run? errand.process with
  | none => exact ⟨rfl, rfl⟩
  | some old =>
      dsimp only
      cases old.apply errand.time errand.move <;> exact ⟨rfl, rfl⟩

theorem serve_run (errand : Errand) (shelf : Shelf) (process : Uuid) :
    (errand.serve shelf).2.run? process =
      (shelf.run? process).map fun run => (run.after (movesOf process [errand])).1 := by
  have serves := serve_serves errand shelf
  generalize errand.serve shelf = served at serves ⊢
  by_cases mine : errand.process = process
  · subst mine
    have moves : movesOf errand.process [errand] = [(errand.time, errand.move)] := by simp [movesOf]
    cases serves with
    | misses absent => simp [absent]
    | refuses old error found refused => simp [found, moves, Run.after, Run.next, refused]
    | saves old next events found moved own =>
        have put : (shelf.putRun next).run? errand.process = some next :=
          own ▸ put_found Run.id next shelf.runs
        simp [put, found, moves, Run.after, Run.next, moved]
  · have moves : movesOf process [errand] = [] := by simp [movesOf, mine]
    simp only [moves, Run.after, Option.map_id']
    cases serves with
    | misses | refuses => rfl
    | saves old next events found moved own =>
        exact put_elsewhere shelf.runs (own.trans_ne mine)

theorem session_serve (errands : List Errand) (errand : Errand) (world : World Shelf) :
    let earlier := setting.shelved.session world (errands.map Errand.call)
    let later := setting.shelved.session world ((errands ++ [errand]).map Errand.call)
    later.1 = earlier.1 ++ [(errand.serve earlier.2.store).1.map Answer.run] ∧
      later.2.store = (errand.serve earlier.2.store).2 := by
  intro earlier later
  have served := serve_performed setting earlier.2 errand
  have ends : later = (earlier.1 ++
      [(setting.shelved.performAt earlier.2 errand.call.1 errand.call.2).1],
        (setting.shelved.performAt earlier.2 errand.call.1 errand.call.2).2) := by
    rw [← session_concat]
    exact congrArg _ (List.map_append ..)
  rw [ends, ← served.1, ← served.2]
  exact ⟨rfl, rfl⟩

theorem session_moves (errands : List Errand) (world : World Shelf) (process : Uuid) :
    (setting.shelved.session world (errands.map Errand.call)).2.store.run? process =
      (world.store.run? process).map fun run => (run.after (movesOf process errands)).1 := by
  induction errands generalizing world with
  | nil => exact Option.map_id'.symm
  | cons errand rest ih =>
      have split : movesOf process (errand :: rest) =
          movesOf process [errand] ++ movesOf process rest := by
        rw [← List.singleton_append, movesOf, List.filter_append, List.map_append]
        rfl
      have served := (serve_performed setting world errand).2
      rw [split]
      simp only [Run.after_append, List.map_cons, Engine.session]
      rw [ih, served, serve_run, Option.map_map]
      rfl

end Alone

-- An order in which to serve the callers that were answered: it leaves them all as they are.
structure Serial (setting : Setting) (world : World Shelf) (errands : List Errand) (state : State)
    (order : List (Errand × Except Error Run)) : Prop where
  errands : state.callers.map Caller.errand = errands
  decided : order.Perm (state.callers.filterMap Caller.decided?)
  answers : (setting.shelved.session world ((order.map Prod.fst).map Errand.call)).1 =
    order.map fun served => served.2.map Answer.run
  shelf : (setting.shelved.session world ((order.map Prod.fst).map Errand.call)).2.store =
    state.shared.shelf

section Together

variable {setting : Setting} {world : World Shelf} {errand : Errand} {shared later : Shared}
  {phase next : Phase}

-- A caller is answered in one step, with what it would be told if nobody else were there.
theorem advance_serves (safe : Caller.Safe shared ⟨errand, phase⟩)
    (advances : errand.Advances shared phase next later) :
    next.answer? = phase.answer? ∧ later.shelf = shared.shelf ∨
      phase.answer? = none ∧ next.answer? = some (errand.serve shared.shelf).1 ∧
        later.shelf = (errand.serve shared.shelf).2 := by
  cases advances with
  | miss lock absent =>
      rw [Errand.serve, absent]
      exact .inr ⟨rfl, rfl, rfl⟩
  | refuse lock run error refused =>
      have found : shared.shelf.run? errand.process = some run := safe.holds
      rw [Errand.serve, found]
      dsimp only
      rw [refused]
      exact .inr ⟨rfl, rfl, rfl⟩
  | save lock run =>
      obtain ⟨old, events, found, moved⟩ := safe.holds
      have found : shared.shelf.run? errand.process = some old := found
      rw [Errand.serve, found]
      dsimp only
      rw [moved]
      exact .inr ⟨rfl, rfl, rfl⟩
  | _ => exact .inl ⟨rfl, rfl⟩

theorem step_serial {state later : State} {number : Nat} {errands : List Errand}
    {order : List (Errand × Except Error Run)} (exclusive : state.Exclusive)
    (serial : Serial setting world errands state order) (done : state.step? number = some later) :
    ∃ order, Serial setting world errands later order := by
  obtain ⟨before, caller, after, phase, held, advances, left⟩ := step_done done
  have safe : caller.Safe state.shared := exclusive.safe caller (by simp [held])
  have same : later.callers.map Caller.errand = errands := by
    rw [← serial.errands, held, left]
    simp
  have decided := serial.decided
  rw [held, List.filterMap_append, List.filterMap_cons] at decided
  rcases advance_serves safe advances with ⟨kept, untouched⟩ | ⟨asked, told, stored⟩
  · refine ⟨order, same, ?_, serial.answers, serial.shelf.trans untouched.symm⟩
    rw [left, List.filterMap_append, List.filterMap_cons]
    simpa only [Caller.decided?, kept] using decided
  · let answer := (caller.errand.serve state.shared.shelf).1
    have served := session_serve setting (order.map Prod.fst) caller.errand world
    dsimp only at served
    rw [serial.answers, serial.shelf] at served
    have pending : caller.decided? = none := by rw [Caller.decided?, asked]; rfl
    have answered : Caller.decided? { caller with phase } = some (caller.errand, answer) := by
      rw [Caller.decided?, told]
      rfl
    rw [pending] at decided
    refine ⟨order ++ [(caller.errand, answer)], same, ?_, ?_, ?_⟩
    · rw [left, List.filterMap_append, List.filterMap_cons, answered]
      exact (List.perm_append_singleton _ _).trans ((decided.cons _).trans List.perm_middle.symm)
    · simpa only [List.map_append, List.map_singleton] using served.1
    · rw [List.map_append]
      exact served.2.trans stored.symm

theorem schedule_serial {state final : State} {errands : List Errand}
    {order : List (Errand × Except Error Run)} (exclusive : state.Exclusive)
    (serial : Serial setting world errands state order) (schedule : List Nat)
    (ran : state.schedule? schedule = some final) :
    ∃ order, Serial setting world errands final order := by
  induction schedule generalizing state order with
  | nil =>
      cases ran
      exact ⟨order, serial⟩
  | cons number rest ih =>
      obtain ⟨next, done, ran⟩ := Option.bind_eq_some_iff.mp ran
      obtain ⟨longer, still⟩ := step_serial exclusive serial done
      exact ih (step_exclusive exclusive done) still ran

theorem arrive_serial (setting : Setting) (world : World Shelf) (errands : List Errand) :
    Serial setting world errands (State.arrive world.store errands) [] where
  errands := (List.map_map ..).trans (List.map_id errands)
  decided := by simp [State.arrive, Caller.decided?, Phase.answer?]
  answers := rfl
  shelf := rfl

theorem session_length (calls : List (Instant × Call)) (world : World Shelf) :
    (setting.shelved.session world calls).1.length = calls.length := by
  induction calls generalizing world with
  | nil => rfl
  | cons first rest ih => exact congrArg Nat.succ (ih _)

theorem serve_accepts {shelf : Shelf} {run : Run} (accepted : (errand.serve shelf).1 = .ok run) :
    (errand.serve shelf).2.run? errand.process = some run := by
  have serves := serve_serves errand shelf
  generalize errand.serve shelf = served at serves accepted ⊢
  cases serves with
  | misses | refuses => cases accepted
  | saves old next events found moved own =>
      cases accepted
      exact own ▸ put_found Run.id run shelf.runs

theorem serial_keeps {errands : List Errand} {state : State} {run : Run}
    {before after : List (Errand × Except Error Run)}
    (serial : Serial setting world errands state (before ++ (errand, .ok run) :: after)) :
    state.shared.shelf.run? errand.process =
      some (run.after (movesOf errand.process (after.map Prod.fst))).1 := by
  let earlier := setting.shelved.session world ((before.map Prod.fst).map Errand.call)
  let here := setting.shelved.session world ((before.map Prod.fst ++ [errand]).map Errand.call)
  have served : here.1 = earlier.1 ++ [(errand.serve earlier.2.store).1.map Answer.run] ∧
      here.2.store = (errand.serve earlier.2.store).2 := session_serve setting _ errand world
  have whole : setting.shelved.session world
      (((before ++ (errand, .ok run) :: after).map Prod.fst).map Errand.call) =
        (here.1 ++ (setting.shelved.session here.2 ((after.map Prod.fst).map Errand.call)).1,
          (setting.shelved.session here.2 ((after.map Prod.fst).map Errand.call)).2) := by
    rw [← session_append]
    simp
  have answers := serial.answers
  have shelf := serial.shelf
  rw [whole] at answers shelf
  have accepted : (errand.serve earlier.2.store).1 = .ok run := by
    rw [List.append_cons, List.map_append] at answers
    have told := List.append_inj_left answers (by simp [here, session_length])
    rw [served.1, List.map_append] at told
    have last := List.append_inj_right' told rfl
    cases answer : (errand.serve earlier.2.store).1 with
    | error error => simp [answer, Except.map] at last
    | ok next => simpa [answer, Except.map] using last
  have stored : here.2.store.run? errand.process = some run := by
    rw [served.2, serve_accepts accepted]
  rw [← shelf, session_moves, stored]
  rfl

end Together

end Interleaving

open Interleaving

theorem moves_serializable (setting : Setting) (world : World Shelf) (errands : List Errand)
    (schedule : List Nat) (final : State)
    (ran : (State.arrive world.store errands).schedule? schedule = some final) :
    ∃ order : List (Errand × Except Error Run),
      let serial := setting.shelved.session world ((order.map Prod.fst).map Errand.call)
      final.callers.map Caller.errand = errands ∧
        order.Perm (final.callers.filterMap Caller.decided?) ∧
        ((∀ caller ∈ final.callers, caller.phase.answer?.isSome) →
          (order.map Prod.fst).Perm errands) ∧
        serial.1 = order.map (fun served => served.2.map Answer.run) ∧
        serial.2.store = final.shared.shelf ∧
        ∀ before errand run after, order = before ++ (errand, .ok run) :: after →
          final.shared.shelf.run? errand.process =
            some (run.after (movesOf errand.process (after.map Prod.fst))).1 := by
  obtain ⟨order, serial⟩ := schedule_serial (arrive_exclusive world.store errands)
    (arrive_serial setting world errands) schedule ran
  refine ⟨order, serial.errands, serial.decided, fun all => ?_, serial.answers, serial.shelf,
    fun before errand run after split => serial_keeps (split ▸ serial)⟩
  have whole : (final.callers.filterMap Caller.decided?).map Prod.fst = errands := by
    rw [← serial.errands, List.map_filterMap]
    rw [← List.filterMap_eq_map]
    refine List.filterMap_congr fun caller member => ?_
    obtain ⟨answer, told⟩ := Option.isSome_iff_exists.mp (all caller member)
    rw [Caller.decided?, told]
    rfl
  exact whole ▸ serial.decided.map Prod.fst

def releaseShelf : Shelf := { runs := [releaseRun] }

def releaseErrands : List Errand :=
  [{ process := ⟨1⟩, move := .complete ⟨3⟩, time := .epoch },
    { process := ⟨1⟩, move := .complete ⟨3⟩, time := .epoch },
    { process := ⟨1⟩, move := .skip ⟨3⟩ none, time := .epoch }]

-- The second waits for the lock that the first forgets, and the third makes a new one meanwhile.
def releaseSchedule : List Nat := [0, 1, 0, 0, 0, 0, 0, 1, 0, 2, 2, 1, 2, 2, 1, 2, 1, 2, 1]

theorem moves_serializable_release :
    ∃ (final : State) (order : List (Errand × Except Error Run)),
      (State.arrive releaseShelf releaseErrands).schedule? releaseSchedule = some final ∧
        final.shared.made = 2 ∧ (order.map Prod.fst).Perm releaseErrands ∧
        let serial := numbered.shelved.session (Engine.outset releaseShelf)
          ((order.map Prod.fst).map Errand.call)
        serial.1 = order.map (fun served => served.2.map Answer.run) ∧
          serial.2.store = final.shared.shelf := by
  have ends : ((State.arrive releaseShelf releaseErrands).schedule? releaseSchedule).map
      (fun final => (final.shared.made, final.callers.all (·.phase.answer?.isSome))) =
        some (2, true) := by cbv
  obtain ⟨final, ran, same⟩ := Option.map_eq_some_iff.mp ends
  obtain ⟨made, all⟩ := Prod.mk.inj same
  obtain ⟨order, -, -, whole, answers, shelf, -⟩ := moves_serializable numbered
    (Engine.outset releaseShelf) releaseErrands releaseSchedule final ran
  exact ⟨final, order, ran, made, whole (List.all_eq_true.mp all), answers, shelf⟩

end Workflow
