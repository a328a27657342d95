import Workflow.Proofs.Graph.Predecessors

set_option autoImplicit false

namespace Workflow

theorem successors_erase (id target : String) (drawn : List Arc) (rest : List String)
    (here : successors drawn id = target :: rest) :
    successors (drawn.erase (id, target)) id = rest ∧
      (drawn.erase (id, target)).filter (·.1 ≠ id) = drawn.filter (·.1 ≠ id) := by
  induction drawn with
  | nil => simp [successors] at here
  | cons first others ih =>
      by_cases own : first.1 = id
      · have split : first.2 = target ∧ successors others id = rest := by
          simpa [successors, own] using here
        have same : first = (id, target) := Prod.ext own split.1
        rw [same, List.erase_cons_head]
        exact ⟨split.2, by simp⟩
      · have later : successors others id = target :: rest := by
          simpa [successors, own] using here
        have different : ¬ (first == (id, target)) = true := by
          intro same
          exact own (congrArg Prod.fst (beq_iff_eq.mp same))
        have kept := ih later
        rw [List.erase_cons_tail different]
        exact ⟨by simpa [successors, own] using kept.1, by simpa [own] using kept.2⟩

namespace Graph

theorem settle_left (id : String) (drawn : List Arc) (queue targets : List String)
    (here : successors drawn id = targets) :
    (settle id drawn queue targets).1 = drawn.filter (·.1 ≠ id) := by
  induction targets generalizing drawn queue with
  | nil =>
      refine (List.filter_eq_self.mpr fun arc member => ?_).symm
      have none : arc.2 ∉ successors drawn arc.1 ∨ arc.1 ≠ id := by
        by_cases own : arc.1 = id
        · exact .inl (by simp [own, here])
        · exact .inr own
      have some : arc.2 ∈ successors drawn arc.1 := (mem_successors drawn arc.1 arc.2).mpr member
      simpa using none.resolve_left (not_not_intro some)
  | cons target rest ih =>
      have member : (id, target) ∈ drawn := (mem_successors drawn id target).mp (by simp [here])
      have erased := successors_erase id target drawn rest here
      rw [settle, if_pos member]
      exact (ih _ _ erased.1).trans erased.2

theorem mem_settle_queue (id : String) (drawn : List Arc) (queue targets : List String)
    (here : successors drawn id = targets) (x : String) :
    x ∈ (settle id drawn queue targets).2 ↔
      x ∈ queue ∨ (id, x) ∈ drawn ∧ ∀ y, (y, x) ∈ drawn → y = id := by
  induction targets generalizing drawn queue with
  | nil =>
      have none : (id, x) ∉ drawn := by
        rw [← mem_successors, here]
        exact List.not_mem_nil
      simp [settle, none]
  | cons target rest ih =>
      have member : (id, target) ∈ drawn := (mem_successors drawn id target).mp (by simp [here])
      rw [settle, if_pos member, ih _ _ (successors_erase id target drawn rest here).1]
      by_cases same : x = target
      · subst same
        have others (y : String) (other : y ≠ id) :
            (y, x) ∈ drawn.erase (id, x) ↔ (y, x) ∈ drawn :=
          List.mem_erase_of_ne (by simp [other])
        by_cases more : x ∈ (drawn.erase (id, x)).map (·.2)
        · rw [if_pos more]
          refine or_congr_right ⟨fun clear => ⟨member, fun y arc => ?_⟩, fun clear => ?_⟩
          · by_contra other
            exact other (clear.2 y ((others y other).mpr arc))
          · obtain ⟨arc, left, ends⟩ := List.mem_map.mp more
            have into : (arc.1, x) ∈ drawn.erase (id, x) := ends ▸ left
            have source : arc.1 = id := clear.2 arc.1 (List.mem_of_mem_erase into)
            exact ⟨source ▸ into, fun y arc => clear.2 y (List.mem_of_mem_erase arc)⟩
        · rw [if_neg more]
          have clear (y : String) (arc : (y, x) ∈ drawn) : y = id := by
            by_contra other
            exact more (List.mem_map.mpr ⟨(y, x), (others y other).mpr arc, rfl⟩)
          have joins : x ∈ queue ++ [x] := by simp
          exact ⟨fun _ => .inr ⟨member, clear⟩, fun _ => .inl joins⟩
      · have kept (y : String) : (y, x) ∈ drawn.erase (id, target) ↔ (y, x) ∈ drawn :=
          List.mem_erase_of_ne (by simp [same])
        have queued : x ∈ (if target ∈ (drawn.erase (id, target)).map (·.2) then queue
            else queue ++ [target]) ↔ x ∈ queue := by
          split <;> simp [same]
        simp only [kept, queued]

theorem settle_queue_nodup (id : String) (drawn : List Arc) (queue targets : List String)
    (here : successors drawn id = targets) (once : queue.Nodup)
    (clear : ∀ x ∈ queue, x ∉ drawn.map (·.2)) : (settle id drawn queue targets).2.Nodup := by
  induction targets generalizing drawn queue with
  | nil => exact once
  | cons target rest ih =>
      have member : (id, target) ∈ drawn := (mem_successors drawn id target).mp (by simp [here])
      have erased := (successors_erase id target drawn rest here).1
      have still (x : String) (queued : x ∈ queue) : x ∉ (drawn.erase (id, target)).map (·.2) :=
        fun left => clear x queued (List.map_subset _ List.erase_subset left)
      rw [settle, if_pos member]
      dsimp only
      by_cases more : target ∈ (drawn.erase (id, target)).map (·.2)
      · rw [if_pos more]
        exact ih _ _ erased once still
      · rw [if_neg more]
        have fresh : target ∉ queue := fun queued =>
          clear target queued (List.mem_map.mpr ⟨(id, target), member, rfl⟩)
        refine ih _ _ erased (List.nodup_append.mpr ⟨once, by simp, ?_⟩) ?_
        · intro x queued y last
          exact fun same => fresh (List.mem_singleton.mp last ▸ same ▸ queued)
        · intro x member
          rcases List.mem_append.mp member with queued | last
          · exact still x queued
          · exact List.mem_singleton.mp last ▸ more

-- What is visited or waits in the queue is what all ids before it have been visited of.
structure Visiting (arcs : List Arc) (roots done : List String) (drawn : List Arc)
    (queue : List String) : Prop where
  left : drawn = arcs.filter fun arc => arc.1 ∉ done
  once : (done ++ queue).Nodup
  clear (x : String) : x ∈ done ++ queue ↔
    (x ∈ roots ∨ ∃ y, (y, x) ∈ arcs) ∧ ∀ y, (y, x) ∈ arcs → y ∈ done

namespace Visiting

variable {arcs drawn : List Arc} {roots done queue : List String} {id : String}

theorem mem_left (visiting : Visiting arcs roots done drawn queue) (x y : String) :
    (x, y) ∈ drawn ↔ (x, y) ∈ arcs ∧ x ∉ done := by
  rw [visiting.left, List.mem_filter]
  simp

theorem unvisited (visiting : Visiting arcs roots done drawn (id :: queue)) : id ∉ done := by
  intro member
  have apart := (List.nodup_append.mp visiting.once).2.2
  exact apart id member id List.mem_cons_self rfl

theorem step (visiting : Visiting arcs roots done drawn (id :: queue)) :
    Visiting arcs roots (done ++ [id]) (settle id drawn queue (successors drawn id)).1
      (settle id drawn queue (successors drawn id)).2 := by
  have fresh := visiting.unvisited
  have queued := mem_settle_queue id drawn queue (successors drawn id) rfl
  have parts := List.nodup_append.mp visiting.once
  have before (x : String) (member : x ∈ done ++ id :: queue) (y : String) (arc : (y, x) ∈ arcs) :
      y ∈ done := ((visiting.clear x).mp member).2 y arc
  refine ⟨?_, ?_, fun x => ?_⟩
  · rw [settle_left id drawn queue _ rfl, visiting.left, List.filter_filter]
    refine List.filter_congr fun arc _ => ?_
    simp [not_or, and_comm]
  · have settled : (settle id drawn queue (successors drawn id)).2.Nodup := by
      refine settle_queue_nodup id drawn queue _ rfl (List.nodup_cons.mp parts.2.1).2 ?_
      intro x waits target
      obtain ⟨⟨source, other⟩, arc, same⟩ := List.mem_map.mp target
      have arc := (visiting.mem_left source other).mp arc
      have same : other = x := same
      exact arc.2 (before x (by simp [waits]) source (same ▸ arc.1))
    refine List.nodup_append.mpr ⟨?_, settled, ?_⟩
    · exact List.nodup_append.mpr ⟨parts.1, by simp, by simpa using fun x member same => fresh ((same : x = id) ▸ member)⟩
    · intro x visited y waits same
      subst same
      rcases (queued x).mp waits with old | new
      · rcases List.mem_append.mp visited with earlier | here
        · exact parts.2.2 x earlier x (List.mem_cons_of_mem id old) rfl
        · exact (List.nodup_cons.mp parts.2.1).1 (List.mem_singleton.mp here ▸ old)
      · have arc := (visiting.mem_left id x).mp new.1
        have known : x ∈ done ++ id :: queue := by
          rcases List.mem_append.mp visited with earlier | here
          · simp [earlier]
          · simp [List.mem_singleton.mp here]
        exact arc.2 (before x known id arc.1)
  · have split : x ∈ done ++ [id] ++ (settle id drawn queue (successors drawn id)).2 ↔
        x ∈ done ++ id :: queue ∨ (id, x) ∈ drawn ∧ ∀ y, (y, x) ∈ drawn → y = id := by
      simp only [List.mem_append, List.mem_cons, List.not_mem_nil, or_false, queued, or_assoc]
    rw [split, visiting.clear]
    simp only [visiting.mem_left, List.mem_append, List.mem_singleton]
    by_cases arc : (id, x) ∈ arcs
    · refine ⟨fun either => ⟨.inr ⟨id, arc⟩, fun y drawn => ?_⟩, fun both => .inr ⟨⟨arc, fresh⟩, ?_⟩⟩
      · rcases either with all | last
        · exact .inl (all.2 y drawn)
        · by_cases visited : y ∈ done
          · exact .inl visited
          · exact .inr (last.2 y ⟨drawn, visited⟩)
      · exact fun y drawn => (both.2 y drawn.1).resolve_left drawn.2
    · have apart (y : String) (drawn : (y, x) ∈ arcs) : y ≠ id := fun same => arc (same ▸ drawn)
      simp only [arc, false_and, or_false]
      refine and_congr_right fun _ => forall₂_congr fun y drawn => ?_
      simp [apart y drawn]

theorem visit_all (visiting : Visiting arcs roots done drawn queue) :
    ∃ left, Visiting arcs roots (done ++ visit drawn queue) left [] := by
  induction drawn, queue using visit.induct generalizing done with
  | case1 drawn =>
      rw [visit, List.append_nil]
      exact ⟨drawn, visiting⟩
  | case2 drawn id queue next =>
      rename_i ih
      rw [visit, List.append_cons]
      exact ih visiting.step

end Visiting

variable {graph : Graph}

theorem known_target (drawn : WellDrawn graph) (x y : String) (arc : (x, y) ∈ graph.arcs) :
    y ∈ graph.ids := by
  obtain ⟨edge, member, same⟩ := List.mem_map.mp arc
  have target : edge.target = y := congrArg Prod.snd same
  exact target ▸ (drawn.anchored edge member).2

theorem start_unentered (drawn : WellDrawn graph) (start : Node) (first : start ∈ graph.nodes)
    (begins : start.kind = .start) (x : String) : (x, start.id) ∉ graph.arcs := by
  intro arc
  obtain ⟨node, member, same⟩ := List.mem_map.mp (known_source drawn x start.id arc)
  subst same
  by_cases other : node.kind = .start
  · obtain ⟨only, starts⟩ := drawn.oneStart
    have alone (node : Node) (member : node ∈ graph.nodes) (kind : node.kind = .start) : node = only := by
      have found : node ∈ graph.ofKind .start := List.mem_filter.mpr ⟨member, by simpa using kind⟩
      simpa [starts] using found
    have same : node = start := (alone node member other).trans (alone start first begins).symm
    exact drawn.acyclic start.id (.arc (same ▸ arc))
  · exact drawn.acyclic start.id ((drawn.reached start first begins node member other).append trivial (.arc arc))

theorem visiting_start (drawn : WellDrawn graph) :
    Visiting graph.arcs ((graph.ofKind .start).map Node.id) [] graph.arcs
      ((graph.ofKind .start).map Node.id) := by
  obtain ⟨start, only⟩ := drawn.oneStart
  have among : start ∈ graph.ofKind .start := by simp [only]
  obtain ⟨member, begins⟩ := List.mem_filter.mp among
  have unentered := start_unentered drawn start member (of_decide_eq_true begins)
  rw [only]
  refine ⟨by simp, by simp, fun x => ?_⟩
  by_cases first : x = start.id
  · simp [first, unentered]
  · simp [first]

theorem visited_all (drawn : WellDrawn graph) :
    ∃ left, Visiting graph.arcs ((graph.ofKind .start).map Node.id) graph.visitOrder left [] := by
  have visited := (visiting_start drawn).visit_all
  rwa [List.nil_append] at visited

theorem visit_order_nodup (drawn : WellDrawn graph) : graph.visitOrder.Nodup := by
  obtain ⟨_, visited⟩ := visited_all drawn
  simpa using visited.once

theorem mem_visit_order (drawn : WellDrawn graph) (x : String) :
    x ∈ graph.visitOrder ↔ x ∈ graph.ids := by
  obtain ⟨start, only⟩ := drawn.oneStart
  have among : start ∈ graph.ofKind .start := by simp [only]
  obtain ⟨member, begins⟩ := List.mem_filter.mp among
  obtain ⟨_, visited⟩ := visited_all drawn
  have clear := visited.clear
  simp only [List.append_nil, only, List.map_cons, List.map_nil, List.mem_singleton] at clear
  refine ⟨fun listed => ?_, acyclic_induction graph.arcs graph.ids drawn.acyclic _ ?_ x⟩
  · rcases ((clear x).mp listed).1 with first | entered
    · exact first ▸ List.mem_map_of_mem member
    · obtain ⟨y, arc⟩ := entered
      exact known_target drawn y x arc
  · intro y known earlier
    refine (clear y).mpr ⟨?_, fun x arc => earlier x (known_source drawn x y arc) (.arc arc)⟩
    by_cases first : y = start.id
    · exact .inl first
    · obtain ⟨node, listed, same⟩ := List.mem_map.mp known
      subst same
      have other : node.kind ≠ .start := by
        intro kind
        have found : node ∈ graph.ofKind .start := List.mem_filter.mpr ⟨listed, by simpa using kind⟩
        have same : node = start := by simpa [only] using found
        exact first (congrArg Node.id same)
      exact .inr (drawn.reached start member (of_decide_eq_true begins) node listed other).enters

end Graph

end Workflow
