import Workflow.Engine.Interleaving
import Workflow.Proofs.Engine.Portable
import Workflow.Proofs.Store.Entries

/-!
Callers do not meet. While a run can still be moved, all who want to move it are at one lock, and who
has read it is alone with it. A lock is forgotten only when its run is over, and then it does not
matter who holds what, for such a run refuses every move.
-/

set_option autoImplicit false

namespace Workflow

namespace Interleaving

def Over (stored : Option Run) : Prop := ∃ run ∈ stored, run.process.status.terminal = true

namespace Phase

def lock? : Phase → Option Nat
  | .waiting lock => some lock
  | .entered lock => some lock
  | .loaded lock _ => some lock
  | .moved lock _ => some lock
  | .leaving lock _ => some lock
  | _ => none

def inside? : Phase → Option Nat
  | .waiting _ => none
  | phase => phase.lock?

def answer? : Phase → Option (Except Error Run)
  | .leaving _ answer => some answer
  | .left answer => some answer
  | .served answer => some answer
  | _ => none

def Holds (stored : Option Run) (errand : Errand) : Phase → Prop
  | .loaded _ run => stored = some run
  | .moved _ next => ∃ run events,
      stored = some run ∧ run.apply errand.time errand.move = .ok (next, events)
  | .leaving _ (.ok run) => run.process.status.terminal = true → Over stored
  | .left (.ok run) => run.process.status.terminal = true → Over stored
  | .served (.ok run) => run.process.status.terminal = true → Over stored
  | _ => True

end Phase

inductive Errand.Advances (errand : Errand) (shared : Shared) : Phase → Phase → Shared → Prop where
  | find (lock : Nat) (known : shared.locks errand.process = some lock) :
      Advances errand shared .arrived (.waiting lock) shared
  | make (unknown : shared.locks errand.process = none) :
      Advances errand shared .arrived (.waiting shared.made)
        { shared.setLock errand.process (some shared.made) with made := shared.made + 1 }
  | enter (lock : Nat) (free : lock ∉ shared.held) :
      Advances errand shared (.waiting lock) (.entered lock)
        { shared with held := lock :: shared.held }
  | load (lock : Nat) (run : Run) (found : shared.shelf.run? errand.process = some run) :
      Advances errand shared (.entered lock) (.loaded lock run) shared
  | miss (lock : Nat) (absent : shared.shelf.run? errand.process = none) :
      Advances errand shared (.entered lock)
        (.leaving lock (.error (.noProcess errand.process))) shared
  | move (lock : Nat) (run next : Run) (events : List Event)
      (moved : run.apply errand.time errand.move = .ok (next, events)) :
      Advances errand shared (.loaded lock run) (.moved lock next) shared
  | refuse (lock : Nat) (run : Run) (error : Error)
      (refused : run.apply errand.time errand.move = .error error) :
      Advances errand shared (.loaded lock run) (.leaving lock (.error error)) shared
  | save (lock : Nat) (run : Run) :
      Advances errand shared (.moved lock run) (.leaving lock (.ok run))
        { shared with shelf := shared.shelf.putRun run }
  | giveBack (lock : Nat) (answer : Except Error Run) :
      Advances errand shared (.leaving lock answer) (.left answer) (shared.giveBack lock)
  | forget (run : Run) (ended : run.process.status.terminal = true) :
      Advances errand shared (.left (.ok run)) (.served (.ok run))
        (shared.setLock errand.process none)
  | leave (answer : Except Error Run) :
      Advances errand shared (.left answer) (.served answer) shared

theorem advance_done {errand : Errand} {shared later : Shared} {phase next : Phase}
    (done : errand.advance? shared phase = some (next, later)) :
    errand.Advances shared phase next later := by
  cases phase with
  | arrived =>
      cases known : shared.locks errand.process with
      | some lock =>
          simp only [Errand.advance?, Shared.lockFor, known] at done
          cases done
          exact .find lock known
      | none =>
          simp only [Errand.advance?, Shared.lockFor, known] at done
          cases done
          exact .make known
  | waiting lock =>
      obtain ⟨_, entered, same⟩ := Option.map_eq_some_iff.mp done
      by_cases held : lock ∈ shared.held
      · rw [Shared.acquire?, if_pos held] at entered
        cases entered
      · rw [Shared.acquire?, if_neg held] at entered
        cases entered
        cases same
        exact .enter lock held
  | entered lock =>
      cases found : shared.shelf.run? errand.process with
      | some run =>
          simp only [Errand.advance?, found] at done
          cases done
          exact .load lock run found
      | none =>
          simp only [Errand.advance?, found] at done
          cases done
          exact .miss lock found
  | loaded lock run =>
      cases applied : run.apply errand.time errand.move with
      | ok result =>
          simp only [Errand.advance?, applied] at done
          cases done
          exact .move lock run result.1 result.2 applied
      | error error =>
          simp only [Errand.advance?, applied] at done
          cases done
          exact .refuse lock run error applied
  | moved lock run =>
      cases done
      exact .save lock run
  | leaving lock answer =>
      cases done
      exact .giveBack lock answer
  | left answer =>
      cases answer with
      | error error =>
          cases done
          exact .leave _
      | ok run =>
          cases ended : run.process.status.terminal with
          | true =>
              simp only [Errand.advance?, Shared.forget, ended, if_true] at done
              cases done
              exact .forget run ended
          | false =>
              simp only [Errand.advance?, Shared.forget, ended] at done
              cases done
              exact .leave _
  | served answer => cases done

def Shared.stored (shared : Shared) (errand : Errand) : Option Run :=
  shared.shelf.run? errand.process

structure Caller.Safe (shared : Shared) (caller : Caller) : Prop where
  -- Only callers of a run that is over still have a lock that was forgotten.
  listed : ∀ lock, caller.phase.lock? = some lock → ¬ Over (shared.stored caller.errand) →
    shared.locks caller.errand.process = some lock
  held : ∀ lock, caller.phase.inside? = some lock → lock ∈ shared.held
  holds : caller.phase.Holds (shared.stored caller.errand) caller.errand

structure State.Exclusive (state : State) : Prop where
  safe : ∀ caller ∈ state.callers, caller.Safe state.shared
  apart : (state.callers.filterMap (·.phase.inside?)).Nodup

section Steps

variable {errand : Errand} {shared later : Shared} {phase next : Phase}

theorem moved_follows {lock : Nat} {run : Run} (safe : Caller.Safe shared ⟨errand, .moved lock run⟩) :
    run.id = errand.process ∧ ¬ Over (shared.stored errand) := by
  obtain ⟨old, events, found, applied⟩ := safe.holds
  refine ⟨(Run.move_own applied).trans (found_key found), fun ended => ?_⟩
  obtain ⟨stored, known, terminal⟩ := ended
  cases found.symm.trans known
  rw [Run.makes_open ((old.apply_ok_iff _ _ _).mp applied)] at terminal
  cases terminal

theorem own_safe (safe : Caller.Safe shared ⟨errand, phase⟩)
    (advances : errand.Advances shared phase next later) : Caller.Safe later ⟨errand, next⟩ := by
  cases advances with
  | find lock known =>
      refine ⟨fun _ same _ => ?_, nofun, trivial⟩
      cases same
      exact known
  | make unknown =>
      refine ⟨fun _ same _ => ?_, nofun, trivial⟩
      cases same
      exact if_pos rfl
  | enter lock free =>
      refine ⟨safe.listed, fun _ same => ?_, trivial⟩
      cases same
      exact List.mem_cons_self
  | load lock run found => exact ⟨safe.listed, safe.held, found⟩
  | miss lock absent => exact ⟨safe.listed, safe.held, trivial⟩
  | move lock run next events moved => exact ⟨safe.listed, safe.held, run, events, safe.holds, moved⟩
  | refuse lock run error refused => exact ⟨safe.listed, safe.held, trivial⟩
  | save lock run =>
      obtain ⟨own, going⟩ := moved_follows safe
      have stored : (shared.shelf.putRun run).run? errand.process = some run :=
        own ▸ put_found Run.id run shared.shelf.runs
      exact ⟨fun lock same _ => safe.listed lock same going, safe.held, fun ended => ⟨run, stored, ended⟩⟩
  | giveBack lock answer =>
      refine ⟨nofun, nofun, ?_⟩
      cases answer <;> exact safe.holds
  | forget run ended => exact ⟨nofun, nofun, safe.holds⟩
  | leave answer =>
      refine ⟨nofun, nofun, ?_⟩
      cases answer <;> exact safe.holds

theorem inside_lock {phase : Phase} {lock : Nat} (inside : phase.inside? = some lock) :
    phase.lock? = some lock := by
  cases phase with
  | waiting => cases inside
  | _ => exact inside

-- One that is not at the lock of its run knows nothing that a save of the run would change.
theorem outside_holds {stored later : Option Run} (outside : phase.inside? = none)
    (going : ¬ Over stored) (holds : phase.Holds stored errand) : phase.Holds later errand := by
  cases phase with
  | loaded | moved | leaving => cases outside
  | arrived | waiting | entered => trivial
  | left answer | served answer =>
      cases answer with
      | error error => trivial
      | ok run => exact fun ended => absurd (holds ended) going

-- What a caller does at its lock leaves the others alone, who are at other locks.
theorem other_safe {other : Caller} (own : Caller.Safe shared ⟨errand, phase⟩)
    (safe : other.Safe shared)
    (apart : ∀ lock, phase.inside? = some lock → other.phase.inside? ≠ some lock)
    (advances : errand.Advances shared phase next later) : other.Safe later := by
  cases advances with
  | make unknown =>
      refine ⟨fun lock looked going => ?_, safe.held, safe.holds⟩
      have known := safe.listed lock looked going
      by_cases same : other.errand.process = errand.process
      · rw [same, unknown] at known
        cases known
      · exact (if_neg same).trans known
  | enter lock free =>
      exact ⟨safe.listed, fun held inside => List.mem_cons_of_mem lock (safe.held held inside),
        safe.holds⟩
  | giveBack lock answer =>
      refine ⟨safe.listed, fun held inside => List.mem_filter.mpr ⟨safe.held held inside, ?_⟩,
        safe.holds⟩
      exact decide_eq_true fun same => apart lock rfl (same ▸ inside)
  | forget run ended =>
      refine ⟨fun lock looked going => ?_, safe.held, safe.holds⟩
      by_cases same : other.errand.process = errand.process
      · rw [Shared.stored, same] at going
        exact absurd (own.holds ended) going
      · exact (if_neg same).trans (safe.listed lock looked going)
  | save lock run =>
      obtain ⟨same, going⟩ := moved_follows own
      by_cases here : other.errand.process = errand.process
      · have stored : shared.stored other.errand = shared.stored errand := by rw [Shared.stored, here]; rfl
        rw [← stored] at going
        refine ⟨fun lock looked _ => safe.listed lock looked going, safe.held,
          outside_holds ?_ going safe.holds⟩
        -- One that is inside would be at the lock of the one that saves.
        cases inside : other.phase.inside? with
        | none => rfl
        | some held =>
            have mine := own.listed lock rfl (stored ▸ going)
            have its := safe.listed held (inside_lock inside) going
            rw [here, mine] at its
            cases its
            exact absurd inside (apart lock rfl)
      · have stored : (shared.shelf.putRun run).run? other.errand.process = shared.stored other.errand :=
          put_elsewhere shared.shelf.runs fun own => here (own.symm.trans same)
        refine ⟨?_, safe.held, ?_⟩ <;> rw [Shared.stored, stored]
        · exact safe.listed
        · exact safe.holds
  | _ => exact safe

theorem step_done {state later : State} {number : Nat} (done : state.step? number = some later) :
    ∃ before caller after phase, state.callers = before ++ caller :: after ∧
      caller.errand.Advances state.shared caller.phase phase later.shared ∧
        later.callers = before ++ { caller with phase } :: after := by
  obtain ⟨caller, here, rest⟩ := Option.bind_eq_some_iff.mp done
  obtain ⟨⟨phase, shared⟩, advanced, same⟩ := Option.bind_eq_some_iff.mp rest
  cases same
  obtain ⟨inBounds, own⟩ := List.getElem?_eq_some_iff.mp here
  refine ⟨state.callers.take number, caller, state.callers.drop (number + 1), phase, ?_,
    advance_done advanced, ?_⟩
  · rw [← own, List.getElem_cons_drop, List.take_append_drop]
  · exact List.set_eq_take_append_cons_drop.trans (if_pos inBounds)

theorem arrive_exclusive (shelf : Shelf) (errands : List Errand) :
    (State.arrive shelf errands).Exclusive := by
  constructor
  · intro caller member
    obtain ⟨errand, -, same⟩ := List.mem_map.mp member
    subst same
    exact ⟨nofun, nofun, trivial⟩
  · have outside : (errands.map fun errand => ({ errand } : Caller)).filterMap (·.phase.inside?) = [] := by
      simp [Phase.inside?, Phase.lock?]
    exact outside ▸ List.nodup_nil

theorem inside_fresh {lock : Nat} (advances : errand.Advances shared phase next later)
    (inside : next.inside? = some lock) : phase.inside? = some lock ∨ lock ∉ shared.held := by
  cases advances with
  | enter lock free =>
      cases inside
      exact .inr free
  | find | make | giveBack | forget | leave => cases inside
  | load | miss | move | refuse | save => exact .inl inside

theorem step_exclusive {state later : State} {number : Nat} (exclusive : state.Exclusive)
    (done : state.step? number = some later) : later.Exclusive := by
  obtain ⟨before, caller, after, phase, held, advances, left⟩ := step_done done
  have middle (caller : Caller) : (before ++ caller :: after).Perm (caller :: (before ++ after)) :=
    List.perm_middle
  have safe := exclusive.safe
  have apart := exclusive.apart
  simp only [held, (middle caller).mem_iff, List.forall_mem_cons] at safe
  rw [held, ((middle caller).filterMap _).nodup_iff] at apart
  have alone (other : Caller) (among : other ∈ before ++ after) (lock : Nat)
      (inside : caller.phase.inside? = some lock) : other.phase.inside? ≠ some lock := by
    rw [List.filterMap_cons, inside, List.nodup_cons] at apart
    exact fun same => apart.1 (List.mem_filterMap.mpr ⟨other, among, same⟩)
  constructor
  · simp only [left, (middle _).mem_iff, List.forall_mem_cons]
    exact ⟨own_safe safe.1 advances,
      fun other among => other_safe safe.1 (safe.2 other among) (alone other among) advances⟩
  · have rest : ((before ++ after).filterMap (·.phase.inside?)).Nodup :=
      apart.sublist ((List.sublist_cons_self _ _).filterMap _)
    rw [left, ((middle _).filterMap _).nodup_iff, List.filterMap_cons]
    cases inside : phase.inside? with
    | none => exact rest
    | some lock =>
        refine List.nodup_cons.mpr ⟨fun taken => ?_, rest⟩
        obtain ⟨other, among, same⟩ := List.mem_filterMap.mp taken
        rcases inside_fresh advances inside with mine | free
        · exact alone other among lock mine same
        · exact free ((safe.2 other among).held lock same)

end Steps

end Interleaving

end Workflow
