import Workflow.Proofs.Basic
import Workflow.Proofs.Graph.CycleSearch
import Workflow.Proofs.Graph.DescentSteps

/-!
The search by frames is the search for cycles. Each of its states stands where a walk stands, with the
same report ahead, and the sets that it keeps beside its frames never disagree with them. It ends when
it has visited all ids that the roots lead to and no other, after one step for each root, one for each
target of these ids and one for leaving each of them.
-/

set_option autoImplicit false

namespace Workflow

namespace Adjacency

theorem successors_own (entry : String × List String) (id : String) :
    successors (entry.2.map fun target => (entry.1, target)) id =
      if entry.1 = id then entry.2 else [] := by
  by_cases same : entry.1 = id <;> simp [successors, List.filter_map, Function.comp_def, same]

theorem successors_entries (entries : List (String × List String))
    (distinct : (entries.map (·.1)).Nodup) (id : String) :
    successors (entries.flatMap fun entry => entry.2.map fun target => (entry.1, target)) id =
      ((entries.find? (·.1 = id)).map (·.2)).getD [] := by
  induction entries with
  | nil => rfl
  | cons entry rest ih =>
      obtain ⟨other, later⟩ := List.nodup_cons.mp distinct
      rw [List.flatMap_cons, successors, List.filter_append, List.map_append, ← successors,
        ← successors, successors_own, ih later, List.find?_cons]
      by_cases same : entry.1 = id
      · have absent : rest.find? (·.1 = id) = none := by
          refine List.find?_eq_none.mpr fun item member own => other ?_
          exact List.mem_map.mpr ⟨item, member, (of_decide_eq_true own).trans same.symm⟩
        simp [same, absent]
      · simp [same]

theorem successors_arcs (adjacency : Adjacency) (id : String) :
    successors adjacency.arcs id = adjacency.targets id :=
  successors_entries adjacency.entries adjacency.distinct id

end Adjacency

theorem Descent.mem_visit (descent : Descent) (id x : String) :
    x ∈ (descent.visit id).visited ↔ x ∈ descent.visited ∨ x = id := by
  by_cases met : id ∈ descent.visited
  · rw [visit, if_pos met]
    exact ⟨.inl, fun either => either.elim (fun old => old) fun same => same ▸ met⟩
  · simp only [visit, if_neg met, List.mem_insert_iff]
    exact or_comm

-- The sets stand beside the frames as they should: what was visited is on the path or was left.
structure Coherent (descent : Descent) (unmet left : List String) : Prop where
  onPath : descent.onPath = descent.frames.map Frame.id
  visited : ∀ id, id ∈ descent.visited ↔ id ∈ left ∨ id ∈ descent.onPath
  fresh : ∀ id ∈ unmet, id ∉ descent.visited
  distinct : unmet.Nodup
  once : descent.visited.Nodup

namespace Coherent

variable {descent other : Descent} {unmet left : List String} {id : String}

theorem alike (coherent : Coherent descent unmet left) (visited : other.visited = descent.visited)
    (onPath : other.onPath = descent.onPath)
    (frames : other.frames.map Frame.id = descent.frames.map Frame.id) :
    Coherent other unmet left := by
  refine ⟨?_, ?_, ?_, coherent.distinct, ?_⟩
  · rw [onPath, frames, coherent.onPath]
  · rw [visited, onPath]
    exact coherent.visited
  · rw [visited]
    exact coherent.fresh
  · rw [visited]
    exact coherent.once

theorem visit (coherent : Coherent descent unmet left) (unvisited : id ∉ descent.visited) :
    Coherent (descent.visit id) (unmet.erase id) left := by
  have off : id ∉ descent.onPath := fun member => unvisited ((coherent.visited id).mpr (.inr member))
  rw [Descent.visit, if_neg unvisited]
  refine ⟨?_, fun x => ?_, fun x member => ?_, coherent.distinct.erase id, coherent.once.insert⟩
  · rw [List.insert_of_not_mem off, coherent.onPath, List.map_cons]
  · simp only [List.mem_insert_iff, coherent.visited x]
    tauto
  · obtain ⟨apart, waits⟩ := coherent.distinct.mem_erase_iff.mp member
    simpa [apart] using coherent.fresh x waits

theorem leave {cursor : Nat} {outer : List Frame} (coherent : Coherent descent unmet left)
    (top : descent.frames = ⟨id, cursor⟩ :: outer) :
    Coherent (descent.leave id outer) unmet (id :: left) := by
  have path : descent.onPath = id :: outer.map Frame.id := by simp [coherent.onPath, top]
  refine ⟨by simp [Descent.leave, path], fun x => ?_, coherent.fresh, coherent.distinct, coherent.once⟩
  simp only [Descent.leave, coherent.visited x, path, List.erase_cons_head, List.mem_cons]
  tauto

end Coherent

structure Walking (arcs : List Arc) (roots unmet found : List String) (path : List Step)
    (todo left : List String) : Prop where
  search : Searching arcs roots unmet found path left
  ahead : walkFrom arcs (walk arcs unmet found path).1 (walk arcs unmet found path).2 todo =
    findCycles roots arcs

namespace Walking

variable {arcs : List Arc} {roots unmet found todo left : List String} {path outer : List Step}
variable {root id next : String} {rest : List String}

theorem start (arcs : List Arc) (roots : List String) :
    Walking arcs roots (roots ++ arcs.map (·.2)).eraseDups [] [] roots [] := by
  refine ⟨.start arcs roots, ?_⟩
  rw [walk]
  rfl

theorem enter (walking : Walking arcs roots unmet found [] (root :: todo) left) (among : root ∈ roots)
    (waits : root ∈ unmet) :
    Walking arcs roots (unmet.erase root) found [⟨root, successors arcs root⟩] todo left := by
  have ahead := walking.ahead
  rw [walk, walkFrom, if_pos waits] at ahead
  exact ⟨walking.search.enter among, ahead⟩

theorem skip (walking : Walking arcs roots unmet found [] (root :: todo) left) (met : root ∉ unmet) :
    Walking arcs roots unmet found [] todo left := by
  have ahead := walking.ahead
  rw [walk, walkFrom, if_neg met] at ahead
  refine ⟨walking.search, ?_⟩
  rw [walk]
  exact ahead

theorem reenter (walking : Walking arcs roots unmet found (⟨id, next :: rest⟩ :: outer) todo left)
    (onPath : next = id ∨ next ∈ outer.map Step.id) :
    Walking arcs roots unmet (reported found next) (⟨id, rest⟩ :: outer) todo left := by
  have ahead := walking.ahead
  rw [walk, if_pos onPath] at ahead
  exact ⟨walking.search.reenter onPath, ahead⟩

theorem meet (walking : Walking arcs roots unmet found (⟨id, next :: rest⟩ :: outer) todo left)
    (offPath : ¬ (next = id ∨ next ∈ outer.map Step.id)) (waits : next ∈ unmet) :
    Walking arcs roots (unmet.erase next) found
      (⟨next, successors arcs next⟩ :: ⟨id, rest⟩ :: outer) todo left := by
  have ahead := walking.ahead
  rw [walk, if_neg offPath, if_pos waits] at ahead
  exact ⟨walking.search.meet, ahead⟩

theorem pass (walking : Walking arcs roots unmet found (⟨id, next :: rest⟩ :: outer) todo left)
    (offPath : ¬ (next = id ∨ next ∈ outer.map Step.id)) (met : next ∉ unmet) :
    Walking arcs roots unmet found (⟨id, rest⟩ :: outer) todo left := by
  have ahead := walking.ahead
  rw [walk, if_neg offPath, if_neg met] at ahead
  exact ⟨walking.search.pass offPath met, ahead⟩

theorem leave (walking : Walking arcs roots unmet found (⟨id, []⟩ :: outer) todo left) :
    Walking arcs roots unmet found outer todo (id :: left) := by
  have ahead := walking.ahead
  rw [walk] at ahead
  exact ⟨walking.search.leave, ahead⟩

theorem find_cycles_eq (walking : Walking arcs roots unmet found [] [] left) :
    findCycles roots arcs = found := by
  have ahead := walking.ahead
  rw [walk, walkFrom] at ahead
  exact ahead.symm

end Walking

structure Descending (adjacency : Adjacency) (arcs : List Arc) (roots : List String)
    (descent : Descent) (unmet left : List String) : Prop where
  coherent : Coherent descent unmet left
  walking : Walking arcs roots unmet descent.found (descent.frames.map (Frame.step adjacency))
    descent.roots left
  waiting : ∀ root ∈ roots, root ∈ descent.roots ∨ root ∈ descent.visited
  among : descent.roots ⊆ roots

namespace Descending

variable {adjacency : Adjacency} {arcs : List Arc} {roots unmet left : List String}
variable {descent before after : Descent} {id : String}

theorem start (adjacency : Adjacency) (arcs : List Arc) (roots : List String) :
    Descending adjacency arcs roots { roots } (roots ++ arcs.map (·.2)).eraseDups [] where
  coherent := ⟨rfl, by simp, by simp, erase_dups_nodup _, List.nodup_nil⟩
  walking := .start arcs roots
  waiting root member := .inl member
  among := List.Subset.refl _

theorem unmet_iff (state : Descending adjacency arcs roots descent unmet left)
    (known : id ∈ roots ++ arcs.map (·.2)) : id ∈ unmet ↔ id ∉ descent.visited := by
  refine ⟨state.coherent.fresh id, fun unvisited => ?_⟩
  rcases state.walking.search.covered id known with waits | before | inside
  · exact waits
  · exact absurd ((state.coherent.visited id).mpr (.inl before)) unvisited
  · rw [steps_ids, ← state.coherent.onPath] at inside
    exact absurd ((state.coherent.visited id).mpr (.inr inside)) unvisited

-- A visit does what a walk does that meets the id if it is unmet and passes it by if it is not.
theorem visit (listed : ∀ id, successors arcs id = adjacency.targets id)
    (coherent : Coherent descent unmet left) (known : id ∈ unmet ↔ id ∉ descent.visited)
    (waiting : ∀ root ∈ roots, root ∈ descent.roots ∨ root ∈ (descent.visit id).visited)
    (among : descent.roots ⊆ roots)
    (passes : id ∉ unmet → Walking arcs roots unmet descent.found
      (descent.frames.map (Frame.step adjacency)) descent.roots left)
    (meets : id ∈ unmet → Walking arcs roots (unmet.erase id) descent.found
      (⟨id, successors arcs id⟩ :: descent.frames.map (Frame.step adjacency)) descent.roots left) :
    ∃ unmet left, Descending adjacency arcs roots (descent.visit id) unmet left := by
  by_cases met : id ∈ descent.visited
  · rw [Descent.visit, if_pos met] at waiting ⊢
    exact ⟨unmet, left, coherent, passes fun waits => known.mp waits met, waiting, among⟩
  · have entered := coherent.visit met
    rw [Descent.visit, if_neg met] at waiting entered ⊢
    refine ⟨unmet.erase id, left, entered, ?_, waiting, among⟩
    rw [List.map_cons, step_fresh listed]
    exact meets (known.mpr met)

theorem tries {root : String} {rest : List String}
    (listed : ∀ id, successors arcs id = adjacency.targets id)
    (state : Descending adjacency arcs roots before unmet left) (bottom : before.frames = [])
    (first : before.roots = root :: rest) :
    ∃ unmet left, Descending adjacency arcs roots ({ before with roots := rest }.visit root)
      unmet left := by
  have among : root ∈ roots ∧ rest ⊆ roots := List.cons_subset.mp (first ▸ state.among)
  have walking := state.walking
  rw [bottom, first, List.map_nil] at walking
  refine visit listed (state.coherent.alike rfl rfl rfl)
    (state.unmet_iff (List.mem_append_left _ among.1)) (fun x member => ?_) among.2 ?_ ?_
  · have known := state.waiting x member
    rw [Descent.mem_visit]
    simp only [first, List.mem_cons] at known ⊢
    tauto
  · rw [bottom]
    exact walking.skip
  · rw [bottom]
    exact walking.enter among.1

theorem follows {target : String} {cursor : Nat} {outer : List Frame}
    (listed : ∀ id, successors arcs id = adjacency.targets id)
    (state : Descending adjacency arcs roots before unmet left)
    (top : before.frames = ⟨id, cursor⟩ :: outer)
    (drawn : (adjacency.targets id)[cursor]? = some target) :
    ∃ unmet left, Descending adjacency arcs roots
      ({ before with frames := ⟨id, cursor + 1⟩ :: outer }.follow target) unmet left := by
  have walking := state.walking
  rw [top, List.map_cons, step_drawn drawn] at walking
  have inside : target ∈ before.onPath ↔
      target = id ∨ target ∈ (outer.map (Frame.step adjacency)).map Step.id := by
    rw [steps_ids, state.coherent.onPath, top, List.map_cons, List.mem_cons]
  have advanced : Coherent { before with frames := ⟨id, cursor + 1⟩ :: outer } unmet left :=
    state.coherent.alike rfl rfl (by simp [top])
  by_cases reentered : target ∈ before.onPath
  · rw [Descent.follow, if_pos reentered]
    exact ⟨unmet, left, advanced.alike rfl rfl rfl, walking.reenter (inside.mp reentered),
      state.waiting, state.among⟩
  · rw [Descent.follow, if_neg reentered]
    refine visit listed advanced (state.unmet_iff walking.search.target) (fun x member => ?_)
      state.among (walking.pass (reentered ∘ inside.mpr)) (walking.meet (reentered ∘ inside.mpr))
    exact (state.waiting x member).imp_right fun old => (Descent.mem_visit ..).mpr (.inl old)

theorem leaves {cursor : Nat} {outer : List Frame}
    (state : Descending adjacency arcs roots before unmet left)
    (top : before.frames = ⟨id, cursor⟩ :: outer)
    (passed : (adjacency.targets id)[cursor]? = none) :
    Descending adjacency arcs roots (before.leave id outer) unmet (id :: left) := by
  have walking := state.walking
  rw [top, List.map_cons, step_passed passed] at walking
  exact ⟨state.coherent.leave top, walking.leave, state.waiting, state.among⟩

theorem next (listed : ∀ id, successors arcs id = adjacency.targets id)
    (state : Descending adjacency arcs roots before unmet left)
    (made : before.next? adjacency = some after) :
    ∃ unmet left, Descending adjacency arcs roots after unmet left := by
  cases Descent.next_descends made with
  | tries bottom first => exact state.tries listed bottom first
  | follows top drawn => exact state.follows listed top drawn
  | leaves top passed => exact ⟨unmet, _, state.leaves top passed⟩

theorem run {count : Nat} (listed : ∀ id, successors arcs id = adjacency.targets id)
    (made : ({ roots } : Descent).after? adjacency count = some after) :
    ∃ unmet left, Descending adjacency arcs roots after unmet left := by
  refine Descent.after_keeps (fun descent => ∃ unmet left,
    Descending adjacency arcs roots descent unmet left) ?_ ⟨_, [], .start adjacency arcs roots⟩ made
  rintro earlier later ⟨unmet, left, here⟩ step
  exact here.next listed step

theorem visited_among (state : Descending adjacency arcs roots descent unmet left) :
    descent.visited ⊆ roots ++ arcs.map (·.2) := by
  intro x member
  have reached : Reaches arcs roots x := by
    apply state.walking.search.rooted
    rw [steps_ids, ← state.coherent.onPath]
    exact (state.coherent.visited x).mp member
  rcases reached with here | ⟨root, _, path⟩
  · exact List.mem_append_left _ here
  · obtain ⟨before, drawn⟩ := path.enters
    exact List.mem_append_right roots (List.mem_map.mpr ⟨(before, x), drawn, rfl⟩)

theorem visited_iff (state : Descending adjacency arcs roots descent unmet left)
    (noFrames : descent.frames = []) (noRoots : descent.roots = []) (x : String) :
    x ∈ descent.visited ↔ Reaches arcs roots x := by
  have visited (id : String) : id ∈ descent.visited ↔ id ∈ left := by
    rw [state.coherent.visited, state.coherent.onPath, noFrames]
    simp
  have search := state.walking.search
  rw [noFrames, List.map_nil] at search
  rw [visited]
  refine search.reached_iff (fun root member => (visited root).mp ?_) x
  have known := state.waiting root member
  simpa [noRoots] using known

end Descending

theorem descent_ends (roots : List String) (adjacency : Adjacency) :
    ∃ count last, ({ roots } : Descent).after? adjacency count = some last ∧
      last.next? adjacency = none := by
  apply Descent.ends_of_bounded (roots.length + adjacency.cost (roots ++ adjacency.arcs.map (·.2)))
  intro count last run
  obtain ⟨unmet, left, state⟩ := Descending.run adjacency.successors_arcs run
  have balanced := Descent.run_balanced run
  have bound := adjacency.cost_le state.coherent.once state.visited_among
  omega

structure Concluded (adjacency : Adjacency) (roots : List String) (last : Descent) : Prop where
  ended : last.next? adjacency = none
  steps : ({ roots } : Descent).after? adjacency (roots.length + adjacency.cost last.visited) = some last
  once : last.visited.Nodup
  reached : ∀ id, id ∈ last.visited ↔ Reaches adjacency.arcs roots id
  agrees : ∀ arcs, (∀ id, successors arcs id = adjacency.targets id) →
    findCycles roots arcs = last.found
  cycles : CyclesFound adjacency.arcs roots last.found

theorem descent_exact (roots : List String) (adjacency : Adjacency) :
    ∃ last, Concluded adjacency roots last := by
  obtain ⟨count, last, run, ended⟩ := descent_ends roots adjacency
  obtain ⟨noFrames, noRoots⟩ := Descent.next_none ended
  have agrees (arcs : List Arc) (listed : ∀ id, successors arcs id = adjacency.targets id) :
      findCycles roots arcs = last.found := by
    obtain ⟨unmet, left, state⟩ := Descending.run listed run
    have walking := state.walking
    rw [noFrames, noRoots, List.map_nil] at walking
    exact walking.find_cycles_eq
  obtain ⟨unmet, left, state⟩ := Descending.run adjacency.successors_arcs run
  exact ⟨last, ended, Descent.steps_taken run ended ▸ run, state.coherent.once,
    state.visited_iff noFrames noRoots, agrees,
    agrees _ adjacency.successors_arcs ▸ find_cycles_found roots adjacency.arcs⟩

-- From x nothing is found, from a the loop through b: three roots, two arcs and three ids to leave.
example :
    (({ roots := ["x", "a", "b"] } : Descent).after?
      ⟨[("x", []), ("a", ["b"]), ("b", ["a"])], by decide⟩ 8).map Descent.found = some ["a"] := by
  decide

end Workflow
