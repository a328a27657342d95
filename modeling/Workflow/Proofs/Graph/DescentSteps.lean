import Mathlib.Algebra.Order.BigOperators.Group.List
import Mathlib.Algebra.Order.Ring.Nat
import Mathlib.Data.List.Perm.Subperm
import Workflow.Graph.Stepwise

/-!
How many steps a search by frames takes. What a state owes, one step for each root, each target to
follow and each id to leave, grows only when an id is visited, by what that id costs. So the steps
are counted by the visited ids, and a search that visits finitely many ids ends.
-/

set_option autoImplicit false

namespace Workflow

namespace Adjacency

def cost (adjacency : Adjacency) (ids : List String) : Nat :=
  (ids.map fun id => (adjacency.targets id).length + 1).sum

theorem cost_cons (adjacency : Adjacency) (id : String) (rest : List String) :
    adjacency.cost (id :: rest) = (adjacency.targets id).length + 1 + adjacency.cost rest := by
  simp [cost]

theorem cost_le (adjacency : Adjacency) {ids others : List String} (once : ids.Nodup)
    (among : ids ⊆ others) : adjacency.cost ids ≤ adjacency.cost others := by
  obtain ⟨listed, same, part⟩ := once.subperm among
  have equal : adjacency.cost listed = adjacency.cost ids := (same.map _).sum_eq
  exact equal ▸ (part.map _).sum_le_sum fun _ _ => Nat.zero_le _

end Adjacency

def Frame.step (adjacency : Adjacency) (frame : Frame) : Step :=
  ⟨frame.id, (adjacency.targets frame.id).drop frame.cursor⟩

section Frames

variable {adjacency : Adjacency} {id target : String} {cursor : Nat}

theorem step_passed (passed : (adjacency.targets id)[cursor]? = none) :
    Frame.step adjacency ⟨id, cursor⟩ = ⟨id, []⟩ := by
  rw [Frame.step, List.drop_eq_nil_of_le (List.getElem?_eq_none_iff.mp passed)]

theorem step_drawn (drawn : (adjacency.targets id)[cursor]? = some target) :
    Frame.step adjacency ⟨id, cursor⟩ =
      ⟨id, target :: (Frame.step adjacency ⟨id, cursor + 1⟩).pending⟩ := by
  obtain ⟨bound, same⟩ := List.getElem?_eq_some_iff.mp drawn
  rw [Frame.step, List.drop_eq_getElem_cons bound, same, Frame.step]

theorem step_fresh {arcs : List Arc} (listed : ∀ id, successors arcs id = adjacency.targets id) :
    Frame.step adjacency ⟨id, 0⟩ = ⟨id, successors arcs id⟩ := by
  rw [listed, Frame.step, List.drop_zero]

theorem steps_ids (frames : List Frame) :
    (frames.map (Frame.step adjacency)).map Step.id = frames.map Frame.id := by
  simp [Frame.step, Function.comp_def]

end Frames

inductive Descends (adjacency : Adjacency) (before : Descent) : Descent → Prop where
  | tries {root : String} {rest : List String} (bottom : before.frames = [])
      (first : before.roots = root :: rest) :
      Descends adjacency before ({ before with roots := rest }.visit root)
  | follows {id target : String} {cursor : Nat} {outer : List Frame}
      (top : before.frames = ⟨id, cursor⟩ :: outer)
      (drawn : (adjacency.targets id)[cursor]? = some target) :
      Descends adjacency before ({ before with frames := ⟨id, cursor + 1⟩ :: outer }.follow target)
  | leaves {id : String} {cursor : Nat} {outer : List Frame}
      (top : before.frames = ⟨id, cursor⟩ :: outer)
      (passed : (adjacency.targets id)[cursor]? = none) :
      Descends adjacency before (before.leave id outer)

namespace Descent

variable {adjacency : Adjacency} {start before after last : Descent} {count : Nat}

theorem next_descends (made : before.next? adjacency = some after) :
    Descends adjacency before after := by
  obtain ⟨roots, visited, onPath, found, frames⟩ := before
  cases frames with
  | nil =>
      cases roots with
      | nil => cases made
      | cons root rest =>
          cases made
          exact .tries rfl rfl
  | cons frame outer =>
      obtain ⟨id, cursor⟩ := frame
      cases drawn : (adjacency.targets id)[cursor]? with
      | none =>
          simp only [next?, drawn, Option.some.injEq] at made
          exact made ▸ .leaves rfl drawn
      | some target =>
          simp only [next?, drawn, Option.some.injEq] at made
          exact made ▸ .follows rfl drawn

theorem next_none (ended : last.next? adjacency = none) : last.frames = [] ∧ last.roots = [] := by
  cases top : last.frames with
  | nil =>
      cases first : last.roots with
      | nil => exact ⟨rfl, rfl⟩
      | cons root rest => simp [next?, top, first] at ended
  | cons frame outer =>
      obtain ⟨id, cursor⟩ := frame
      cases drawn : (adjacency.targets id)[cursor]? <;> simp [next?, top, drawn] at ended

def owed (adjacency : Adjacency) (descent : Descent) : Nat :=
  descent.roots.length + weight (descent.frames.map (Frame.step adjacency))

theorem visit_balanced (adjacency : Adjacency) (descent : Descent) (id : String) :
    (descent.visit id).owed adjacency + adjacency.cost descent.visited =
      descent.owed adjacency + adjacency.cost (descent.visit id).visited := by
  by_cases met : id ∈ descent.visited
  · rw [visit, if_pos met]
  · simp only [visit, if_neg met, owed, List.map_cons, weight, Frame.step, List.drop_zero,
      List.insert_of_not_mem met, Adjacency.cost_cons]
    omega

theorem follow_balanced (adjacency : Adjacency) (descent : Descent) (target : String) :
    (descent.follow target).owed adjacency + adjacency.cost descent.visited =
      descent.owed adjacency + adjacency.cost (descent.follow target).visited := by
  by_cases onPath : target ∈ descent.onPath
  · rw [follow, if_pos onPath]
    rfl
  · rw [follow, if_neg onPath]
    exact descent.visit_balanced adjacency target

-- A step pays one of the steps owed; it may visit an id, and then what the id costs is owed.
theorem next_balanced (made : before.next? adjacency = some after) :
    after.owed adjacency + 1 + adjacency.cost before.visited =
      before.owed adjacency + adjacency.cost after.visited := by
  cases next_descends made with
  | @tries root rest bottom first =>
      have balanced := visit_balanced adjacency { before with roots := rest } root
      simp only [owed, bottom, first, List.length_cons] at balanced ⊢
      omega
  | @follows id target cursor outer top drawn =>
      have balanced := follow_balanced adjacency
        { before with frames := ⟨id, cursor + 1⟩ :: outer } target
      simp only [owed, top, List.map_cons, weight, step_drawn drawn, List.length_cons] at balanced ⊢
      omega
  | leaves top passed =>
      simp only [owed, leave, top, List.map_cons, weight, step_passed passed, List.length_nil]
      omega

theorem after_keeps (holds : Descent → Prop)
    (step : ∀ before after, holds before → before.next? adjacency = some after → holds after)
    (begun : holds start) (run : start.after? adjacency count = some last) : holds last := by
  induction count generalizing last with
  | zero =>
      cases run
      exact begun
  | succ count ih =>
      obtain ⟨state, earlier, made⟩ := Option.bind_eq_some_iff.mp run
      exact step state last (ih earlier) made

theorem after_balanced (run : start.after? adjacency count = some last) :
    last.owed adjacency + count + adjacency.cost start.visited =
      start.owed adjacency + adjacency.cost last.visited := by
  induction count generalizing last with
  | zero =>
      cases run
      rfl
  | succ count ih =>
      obtain ⟨state, earlier, made⟩ := Option.bind_eq_some_iff.mp run
      have sofar := ih earlier
      have balanced := next_balanced made
      omega

theorem run_balanced {roots : List String}
    (run : ({ roots } : Descent).after? adjacency count = some last) :
    last.owed adjacency + count = roots.length + adjacency.cost last.visited :=
  after_balanced run

theorem steps_taken {roots : List String}
    (run : ({ roots } : Descent).after? adjacency count = some last)
    (ended : last.next? adjacency = none) : count = roots.length + adjacency.cost last.visited := by
  obtain ⟨noFrames, noRoots⟩ := next_none ended
  have paid : last.owed adjacency = 0 := by
    rw [owed, noFrames, noRoots]
    rfl
  have balanced := run_balanced run
  omega

theorem ends_of_bounded (bound : Nat)
    (bounded : ∀ count last, start.after? adjacency count = some last → count ≤ bound) :
    ∃ count last, start.after? adjacency count = some last ∧ last.next? adjacency = none := by
  by_contra endless
  push Not at endless
  have further (count : Nat) : ∃ last, start.after? adjacency count = some last := by
    induction count with
    | zero => exact ⟨start, rfl⟩
    | succ count ih =>
        obtain ⟨state, run⟩ := ih
        obtain ⟨next, made⟩ := Option.ne_none_iff_exists'.mp (endless count state run)
        exact ⟨next, Option.bind_eq_some_iff.mpr ⟨state, run, made⟩⟩
  obtain ⟨last, run⟩ := further (bound + 1)
  exact absurd (bounded _ last run) (by omega)

end Descent

end Workflow
