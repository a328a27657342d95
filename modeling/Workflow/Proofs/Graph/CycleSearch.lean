import Workflow.Graph.Validation
import Workflow.Proofs.Graph.Paths

set_option autoImplicit false

namespace Workflow

-- Along the path each arc leads to the id above it, and only targets of arcs are still to follow.
def Trail (arcs : List Arc) : List Step → Prop
  | [] => True
  | step :: outer =>
      (∀ next ∈ step.pending, (step.id, next) ∈ arcs) ∧
        (∀ parent ∈ outer.head?, (parent.id, step.id) ∈ arcs) ∧ Trail arcs outer

-- The ids above one on the path count as left: they will be before it is.
def Explored (arcs : List Arc) (found : List String) : List String → List Step → Prop
  | _, [] => True
  | left, step :: outer =>
      (∀ next, (step.id, next) ∈ arcs → next ∈ step.pending ∨ next ∈ found ∨ next ∈ left) ∧
        Explored arcs found (step.id :: left) outer

-- Ids in the order in which they were left, the last one first. No arc leads from one of them to
-- an id left later, unless that id was reported.
def Finished (arcs : List Arc) (found : List String) : List String → Prop
  | [] => True
  | id :: earlier =>
      (∀ next, (id, next) ∈ arcs → next ∈ found ∨ next ∈ earlier) ∧ Finished arcs found earlier

theorem explored_mono (arcs : List Arc) (found wider : List String) (path : List Step)
    (left more : List String) (foundGrows : found ⊆ wider) (leftGrows : left ⊆ more)
    (explored : Explored arcs found left path) : Explored arcs wider more path := by
  induction path generalizing left more with
  | nil => trivial
  | cons step outer ih =>
      obtain ⟨here, below⟩ := explored
      refine ⟨?_, ih _ _ (List.cons_subset_cons step.id leftGrows) below⟩
      intro next drawn
      rcases here next drawn with later | reported | before
      · exact .inl later
      · exact .inr (.inl (foundGrows reported))
      · exact .inr (.inr (leftGrows before))

theorem finished_mono (arcs : List Arc) (found wider left : List String) (grows : found ⊆ wider)
    (finished : Finished arcs found left) : Finished arcs wider left := by
  induction left with
  | nil => trivial
  | cons id earlier ih =>
      refine ⟨?_, ih finished.2⟩
      intro next drawn
      exact (finished.1 next drawn).imp_left fun reported => grows reported

theorem finished_closed (arcs : List Arc) (found left : List String)
    (finished : Finished arcs found left) (x y : String) (member : x ∈ left)
    (drawn : (x, y) ∈ arcs) : y ∈ found ∨ y ∈ left := by
  induction left with
  | nil => simp at member
  | cons id earlier ih =>
      rcases List.mem_cons.mp member with same | before
      · subst x
        exact (finished.1 y drawn).imp_right (List.mem_cons_of_mem id)
      · exact (ih finished.2 before).imp_right (List.mem_cons_of_mem id)

theorem finished_path (arcs : List Arc) (found left : List String)
    (finished : Finished arcs found left) (x y : String) (member : x ∈ left) (unreported : y ∉ found)
    (path : Through arcs (· ∉ found) x y) : y ∈ left := by
  apply path.stays (· ∈ left) member
  intro a b drawn inside between
  rcases finished_closed arcs found left finished a b inside drawn with reported | before
  · rcases between with clear | last
    · exact absurd reported clear
    · exact absurd (last ▸ reported) unreported
  · exact before

-- The first arc out of the id that was left last leads to one left earlier, and from there no
-- unreported path leads back.
theorem finished_no_cycle (arcs : List Arc) (found left : List String)
    (finished : Finished arcs found left) (x : String) (member : x ∈ left) (unreported : x ∉ found) :
    ¬ Through arcs (· ∉ found) x x := by
  induction left with
  | nil => simp at member
  | cons id earlier ih =>
      intro cycle
      by_cases before : x ∈ earlier
      · exact ih finished.2 before cycle
      · have last : x = id := (List.mem_cons.mp member).resolve_right before
        apply before
        cases cycle with
        | arc drawn =>
            exact (finished.1 x (last ▸ drawn)).resolve_left unreported
        | step drawn clear rest =>
            have entered := (finished.1 _ (last ▸ drawn)).resolve_left clear
            exact finished_path arcs found earlier finished.2 _ x entered unreported rest

theorem trail_reaches_top (arcs : List Arc) (step : Step) (outer : List Step) (x : String)
    (trail : Trail arcs (step :: outer)) (above : x ∈ outer.map Step.id) :
    Path arcs x step.id := by
  induction outer generalizing step with
  | nil => simp at above
  | cons parent rest ih =>
      have drawn : (parent.id, step.id) ∈ arcs := trail.2.1 parent (by simp)
      rcases List.mem_cons.mp above with same | further
      · exact same ▸ .arc drawn
      · exact (ih parent trail.2.2 further).append trivial (.arc drawn)

theorem trail_reenters (arcs : List Arc) (step : Step) (outer : List Step) (next : String)
    (trail : Trail arcs (step :: outer)) (drawn : (step.id, next) ∈ arcs)
    (onPath : next = step.id ∨ next ∈ outer.map Step.id) : OnCycle arcs next := by
  rcases onPath with same | above
  · subst next
    exact .arc drawn
  · exact (trail_reaches_top arcs step outer next trail above).append trivial (.arc drawn)

theorem mem_reported (found : List String) (id x : String) :
    x ∈ reported found id ↔ x ∈ found ∨ x = id := by
  unfold reported
  split
  · rename_i member
    constructor
    · exact .inl
    · rintro (old | rfl)
      · exact old
      · exact member
  · simp

theorem reported_nodup (found : List String) (id : String) (once : found.Nodup) :
    (reported found id).Nodup := by
  unfold reported
  split
  · exact once
  · rename_i fresh
    refine List.nodup_append.mpr ⟨once, by simp, ?_⟩
    intro a member b last same
    have here : a = id := same.trans (by simpa using last)
    exact fresh (here ▸ member)

-- Where a search stands: `left` are the ids it is done with, the last one first.
structure Searching (arcs : List Arc) (roots unmet found : List String) (path : List Step)
    (left : List String) : Prop where
  covered : ∀ x ∈ roots ++ arcs.map (·.2), x ∈ unmet ∨ x ∈ left ∨ x ∈ path.map Step.id
  kept : ∀ x ∈ found, x ∈ left ∨ x ∈ path.map Step.id
  rooted : ∀ x, x ∈ left ∨ x ∈ path.map Step.id → Reaches arcs roots x
  trail : Trail arcs path
  explored : Explored arcs found left path
  finished : Finished arcs found left
  circular : ∀ x ∈ found, OnCycle arcs x
  once : found.Nodup

namespace Searching

variable {arcs : List Arc} {roots unmet found left : List String} {id next : String}
  {rest : List String} {outer : List Step}

theorem leave (search : Searching arcs roots unmet found (⟨id, []⟩ :: outer) left) :
    Searching arcs roots unmet found outer (id :: left) where
  covered x member := by
    have known := search.covered x member
    simp only [List.map_cons, List.mem_cons] at known ⊢
    tauto
  kept x member := by
    have known := search.kept x member
    simp only [List.map_cons, List.mem_cons] at known ⊢
    tauto
  rooted x member := by
    apply search.rooted x
    simp only [List.map_cons, List.mem_cons] at member ⊢
    tauto
  trail := search.trail.2.2
  explored := search.explored.2
  finished := ⟨fun y drawn => by simpa using search.explored.1 y drawn, search.finished⟩
  circular := search.circular
  once := search.once

theorem drawn (search : Searching arcs roots unmet found (⟨id, next :: rest⟩ :: outer) left) :
    (id, next) ∈ arcs := search.trail.1 next (by simp)

theorem follow (wider : List String)
    (search : Searching arcs roots unmet found (⟨id, next :: rest⟩ :: outer) left)
    (grows : found ⊆ wider) (dealt : next ∈ wider ∨ next ∈ left)
    (circular : ∀ x ∈ wider, OnCycle arcs x) (once : wider.Nodup)
    (kept : ∀ x ∈ wider, x ∈ left ∨ x ∈ id :: outer.map Step.id) :
    Searching arcs roots unmet wider (⟨id, rest⟩ :: outer) left where
  covered := search.covered
  kept := kept
  rooted := search.rooted
  trail := ⟨fun y member => search.trail.1 y (List.mem_cons_of_mem next member), search.trail.2⟩
  explored := by
    refine ⟨?_, explored_mono arcs found wider outer _ _ grows (List.Subset.refl _) search.explored.2⟩
    intro y drawn
    rcases search.explored.1 y drawn with later | reported | before
    · rcases List.mem_cons.mp later with same | later
      · exact .inr (same ▸ dealt)
      · exact .inl later
    · exact .inr (.inl (grows reported))
    · exact .inr (.inr before)
  finished := finished_mono arcs found wider left grows search.finished
  circular := circular
  once := once

theorem reenter (search : Searching arcs roots unmet found (⟨id, next :: rest⟩ :: outer) left)
    (onPath : next = id ∨ next ∈ outer.map Step.id) :
    Searching arcs roots unmet (reported found next) (⟨id, rest⟩ :: outer) left := by
  apply search.follow
  · exact fun x member => (mem_reported found next x).mpr (.inl member)
  · exact .inl ((mem_reported found next next).mpr (.inr rfl))
  · intro x member
    rcases (mem_reported found next x).mp member with old | same
    · exact search.circular x old
    · exact same ▸ trail_reenters arcs _ outer next search.trail search.drawn onPath
  · exact reported_nodup found next search.once
  · intro x member
    rcases (mem_reported found next x).mp member with old | same
    · exact search.kept x old
    · exact .inr (List.mem_cons.mpr (same ▸ onPath))

theorem target (search : Searching arcs roots unmet found (⟨id, next :: rest⟩ :: outer) left) :
    next ∈ roots ++ arcs.map (·.2) :=
  List.mem_append_right roots (List.mem_map.mpr ⟨(id, next), search.drawn, rfl⟩)

theorem pass (search : Searching arcs roots unmet found (⟨id, next :: rest⟩ :: outer) left)
    (offPath : ¬ (next = id ∨ next ∈ outer.map Step.id)) (met : next ∉ unmet) :
    Searching arcs roots unmet found (⟨id, rest⟩ :: outer) left := by
  have before : next ∈ left := by
    rcases search.covered next search.target with waiting | before | onPath
    · exact absurd waiting met
    · exact before
    · exact absurd (List.mem_cons.mp onPath) offPath
  exact search.follow found (List.Subset.refl _) (.inr before) search.circular search.once search.kept

theorem meet (search : Searching arcs roots unmet found (⟨id, next :: rest⟩ :: outer) left) :
    Searching arcs roots (unmet.erase next) found
      (⟨next, successors arcs next⟩ :: ⟨id, rest⟩ :: outer) left where
  covered x member := by
    by_cases same : x = next
    · exact .inr (.inr (by simp [same]))
    · rcases search.covered x member with waiting | before | onPath
      · exact .inl ((List.mem_erase_of_ne same).mpr waiting)
      · exact .inr (.inl before)
      · exact .inr (.inr (List.mem_cons_of_mem next onPath))
  kept x member := (search.kept x member).imp_right (List.mem_cons_of_mem next)
  rooted x member := by
    by_cases same : x = next
    · subst x
      exact reaches_step arcs roots id next (search.rooted id (by simp)) search.drawn
    · apply search.rooted x
      simpa [same] using member
  trail := by
    refine ⟨fun y => (mem_successors arcs next y).mp, ?_, ?_, search.trail.2⟩
    · rintro parent (_ | _)
      exact search.drawn
    · exact fun y member => search.trail.1 y (List.mem_cons_of_mem next member)
  explored := by
    refine ⟨fun y drawn => .inl ((mem_successors arcs next y).mpr drawn), ?_, ?_⟩
    · intro y drawn
      have known := search.explored.1 y drawn
      simp only [List.mem_cons] at known ⊢
      tauto
    · refine explored_mono arcs found found outer _ _ (List.Subset.refl _) ?_ search.explored.2
      exact List.cons_subset_cons id (List.subset_cons_self next left)
  finished := search.finished
  circular := search.circular
  once := search.once

theorem enter {root : String} (search : Searching arcs roots unmet found [] left)
    (among : root ∈ roots) :
    Searching arcs roots (unmet.erase root) found [⟨root, successors arcs root⟩] left where
  covered x member := by
    by_cases same : x = root
    · exact .inr (.inr (by simp [same]))
    · rcases search.covered x member with waiting | before | onPath
      · exact .inl ((List.mem_erase_of_ne same).mpr waiting)
      · exact .inr (.inl before)
      · simp at onPath
  kept x member := .inl (by simpa using search.kept x member)
  rooted x member := by
    by_cases same : x = root
    · exact .inl (same ▸ among)
    · exact search.rooted x (by simpa [same] using member)
  trail := ⟨fun y => (mem_successors arcs root y).mp, by simp, trivial⟩
  explored := ⟨fun y drawn => .inl ((mem_successors arcs root y).mpr drawn), trivial⟩
  finished := search.finished
  circular := search.circular
  once := search.once

theorem start (arcs : List Arc) (roots : List String) :
    Searching arcs roots (roots ++ arcs.map (·.2)).eraseDups [] [] [] where
  covered x member := .inl (List.mem_eraseDups.mpr member)
  kept := by simp
  rooted := by simp
  trail := trivial
  explored := trivial
  finished := trivial
  circular := by simp
  once := List.nodup_nil

theorem reached_iff (search : Searching arcs roots unmet found [] left)
    (rootsLeft : ∀ root ∈ roots, root ∈ left) (x : String) : x ∈ left ↔ Reaches arcs roots x := by
  constructor
  · exact fun member => search.rooted x (.inl member)
  · refine reaches_closed arcs roots (· ∈ left) rootsLeft ?_ x
    intro a b drawn inside
    rcases finished_closed arcs found left search.finished a b inside drawn with reported | before
    · simpa using search.kept b reported
    · exact before

end Searching

theorem walk_searches (arcs : List Arc) (roots unmet found : List String) (path : List Step)
    (left : List String) (search : Searching arcs roots unmet found path left) :
    ∃ last, Searching arcs roots (walk arcs unmet found path).1 (walk arcs unmet found path).2 [] last ∧
      ∀ x, x ∈ left ∨ x ∈ path.map Step.id → x ∈ last := by
  induction unmet, found, path using walk.induct arcs generalizing left with
  | case1 unmet found =>
      rw [walk]
      exact ⟨left, search, by simp⟩
  | case2 unmet found id outer ih =>
      obtain ⟨last, ended, kept⟩ := ih (id :: left) search.leave
      rw [walk]
      refine ⟨last, ended, fun x member => kept x ?_⟩
      simp only [List.map_cons, List.mem_cons] at member ⊢
      tauto
  | case3 unmet found id next rest outer onPath ih =>
      rw [walk, if_pos onPath]
      exact ih left (search.reenter onPath)
  | case4 unmet found id next rest outer offPath waiting ih =>
      obtain ⟨last, ended, kept⟩ := ih left search.meet
      rw [walk, if_neg offPath, if_pos waiting]
      exact ⟨last, ended, fun x member => kept x (member.imp_right (List.mem_cons_of_mem next))⟩
  | case5 unmet found id next rest outer offPath met ih =>
      rw [walk, if_neg offPath, if_neg met]
      exact ih left (search.pass offPath met)

theorem walk_from_searches (arcs : List Arc) (roots todo unmet found left : List String)
    (search : Searching arcs roots unmet found [] left) (among : todo ⊆ roots) :
    ∃ last unmet', Searching arcs roots unmet' (walkFrom arcs unmet found todo) [] last ∧
      ∀ x, x ∈ left ∨ x ∈ todo → x ∈ last := by
  induction todo generalizing unmet found left with
  | nil => exact ⟨left, unmet, search, by simp⟩
  | cons root rest ih =>
      have rootAmong : root ∈ roots := among List.mem_cons_self
      have restAmong : rest ⊆ roots := fun x member => among (List.mem_cons_of_mem root member)
      rw [walkFrom]
      by_cases waiting : root ∈ unmet
      · obtain ⟨middle, walked, walkKept⟩ :=
          walk_searches arcs roots _ found _ left (search.enter rootAmong)
        obtain ⟨last, unmet', ended, kept⟩ := ih _ _ middle walked restAmong
        rw [if_pos waiting]
        refine ⟨last, unmet', ended, ?_⟩
        rintro x (before | member)
        · exact kept x (.inl (walkKept x (.inl before)))
        · rcases List.mem_cons.mp member with same | later
          · exact kept x (.inl (walkKept x (.inr (by simp [same]))))
          · exact kept x (.inr later)
      · obtain ⟨last, unmet', ended, kept⟩ := ih unmet found left search restAmong
        have met : root ∈ left := by
          have known := search.covered root (List.mem_append_left _ rootAmong)
          simpa [waiting] using known
        rw [if_neg waiting]
        refine ⟨last, unmet', ended, ?_⟩
        rintro x (before | member)
        · exact kept x (.inl before)
        · rcases List.mem_cons.mp member with same | later
          · exact kept x (.inl (same ▸ met))
          · exact kept x (.inr later)

theorem find_cycles_searches (roots : List String) (arcs : List Arc) :
    ∃ last unmet, Searching arcs roots unmet (findCycles roots arcs) [] last ∧
      ∀ root ∈ roots, root ∈ last := by
  obtain ⟨last, unmet, ended, kept⟩ :=
    walk_from_searches arcs roots roots _ [] [] (.start arcs roots) (List.Subset.refl _)
  exact ⟨last, unmet, ended, fun root member => kept root (.inr member)⟩

theorem find_cycles_nodup (roots : List String) (arcs : List Arc) : (findCycles roots arcs).Nodup := by
  obtain ⟨_, _, ended, _⟩ := find_cycles_searches roots arcs
  exact ended.once

theorem find_cycles_circular (roots : List String) (arcs : List Arc) (x : String)
    (found : x ∈ findCycles roots arcs) : OnCycle arcs x ∧ Reaches arcs roots x := by
  obtain ⟨_, _, ended, _⟩ := find_cycles_searches roots arcs
  refine ⟨ended.circular x found, ended.rooted x ?_⟩
  simpa using ended.kept x found

theorem find_cycles_complete (roots : List String) (arcs : List Arc) (x : String)
    (reached : Reaches arcs roots x) (unreported : x ∉ findCycles roots arcs) :
    ¬ Through arcs (· ∉ findCycles roots arcs) x x := by
  obtain ⟨last, _, ended, kept⟩ := find_cycles_searches roots arcs
  have member : x ∈ last := (ended.reached_iff kept x).mpr reached
  exact finished_no_cycle arcs _ last ended.finished x member unreported

theorem find_cycles_named (roots : List String) (arcs : List Arc) (first : String)
    (between : List String) (joined : Joined arcs (first :: between ++ [first]))
    (reached : Reaches arcs roots first) : ∃ id ∈ first :: between, id ∈ findCycles roots arcs := by
  by_contra unnamed
  have clear (id : String) (member : id ∈ first :: between) : id ∉ findCycles roots arcs :=
    fun found => unnamed ⟨id, member, found⟩
  have cycle : Through arcs (· ∉ findCycles roots arcs) first first :=
    joined_through _ _ first first between joined fun id member =>
      clear id (List.mem_cons_of_mem first member)
  exact find_cycles_complete roots arcs first reached (clear first List.mem_cons_self) cycle

theorem find_cycles_nil_iff (roots : List String) (arcs : List Arc) :
    findCycles roots arcs = [] ↔ ∀ x, Reaches arcs roots x → ¬ OnCycle arcs x := by
  constructor
  · intro empty x reached cycle
    apply find_cycles_complete roots arcs x reached (by simp [empty])
    exact cycle.mono fun z _ => by simp [empty]
  · intro acyclic
    apply List.eq_nil_iff_forall_not_mem.mpr
    intro x found
    obtain ⟨cycle, reached⟩ := find_cycles_circular roots arcs x found
    exact acyclic x reached cycle

def without (arcs : List Arc) (ids : List String) : List Arc :=
  arcs.filter fun arc => arc.1 ∉ ids && arc.2 ∉ ids

theorem mem_without (arcs : List Arc) (ids : List String) (x y : String) :
    (x, y) ∈ without arcs ids ↔ (x, y) ∈ arcs ∧ x ∉ ids ∧ y ∉ ids := by
  simp [without]

theorem without_avoids {arcs : List Arc} {ids : List String} {x y : String}
    (path : Path (without arcs ids) x y) : x ∉ ids ∧ Through arcs (· ∉ ids) x y := by
  induction path with
  | arc kept =>
      obtain ⟨drawn, here, _⟩ := (mem_without arcs ids _ _).mp kept
      exact ⟨here, .arc drawn⟩
  | step kept _ _ ih =>
      obtain ⟨drawn, here, _⟩ := (mem_without arcs ids _ _).mp kept
      exact ⟨here, .step drawn ih.1 ih.2⟩

theorem find_cycles_broken (roots : List String) (arcs : List Arc) (x : String)
    (reached : Reaches arcs roots x) : ¬ OnCycle (without arcs (findCycles roots arcs)) x := by
  intro cycle
  obtain ⟨unreported, through⟩ := without_avoids cycle
  exact find_cycles_complete roots arcs x reached unreported through

theorem reaches_path {arcs : List Arc} {roots : List String} {x y : String}
    (reached : Reaches arcs roots x) (path : Path arcs x y) : Reaches arcs roots y :=
  path.stays (Reaches arcs roots) reached fun a b drawn inside _ => reaches_step arcs roots a b inside drawn

theorem cycle_reached {arcs : List Arc} {roots : List String} {first id : String}
    {between : List String} (joined : Joined arcs (first :: between ++ [first]))
    (member : id ∈ first :: between) (reached : Reaches arcs roots id) : Reaches arcs roots first := by
  obtain ⟨before, after, split⟩ := List.append_of_mem member
  rw [split, List.append_assoc] at joined
  have rest : Joined arcs (id :: after ++ [first]) := List.IsChain.right_of_append joined
  exact reaches_path reached (joined_through arcs _ id first after rest fun _ _ => trivial)

structure CyclesFound (arcs : List Arc) (roots found : List String) : Prop where
  once : found.Nodup
  circular : ∀ id ∈ found, OnCycle arcs id ∧ Reaches arcs roots id
  named (first : String) (between : List String) :
    Joined arcs (first :: between ++ [first]) → (∃ id ∈ first :: between, Reaches arcs roots id) →
      ∃ id ∈ first :: between, id ∈ found
  none_iff : found = [] ↔ ∀ id, Reaches arcs roots id → ¬ OnCycle arcs id
  broken : ∀ id, Reaches arcs roots id → ¬ OnCycle (without arcs found) id

theorem find_cycles_found (roots : List String) (arcs : List Arc) :
    CyclesFound arcs roots (findCycles roots arcs) where
  once := find_cycles_nodup roots arcs
  circular := find_cycles_circular roots arcs
  named first between joined reached := by
    obtain ⟨id, member, here⟩ := reached
    exact find_cycles_named roots arcs first between joined (cycle_reached joined member here)
  none_iff := find_cycles_nil_iff roots arcs
  broken := find_cycles_broken roots arcs

end Workflow
