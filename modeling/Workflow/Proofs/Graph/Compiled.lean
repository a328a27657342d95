import Workflow.Proofs.Graph.VisitOrder
import Workflow.Proofs.Task.WellFormed

set_option autoImplicit false

namespace Workflow.Graph

variable {graph : Graph}

theorem compile_ok_iff (graph : Graph) (templates : List TaskTemplate) :
    graph.compile = .ok templates ↔ graph.Valid ∧ templates = graph.compileValid := by
  unfold compile Valid
  cases graph.violations with
  | nil => simp [eq_comm]
  | cons first others => simp

theorem compile_with_own {graph : Graph} {config : Config} {compiled : Compiled}
    (done : graph.compileWith config = .ok compiled) :
    compiled.graph.compile = .ok compiled.tasks := by
  unfold compileWith at done
  split at done <;>
    · obtain ⟨tasks, made, same⟩ := (bind_ok_iff _ _ _).mp done
      cases same
      exact made

theorem compile_with_drawn {graph : Graph} {config : Config} {compiled : Compiled}
    (done : graph.compileWith config = .ok compiled) : WellDrawn compiled.graph :=
  (valid_iff _).mp ((compiled.graph.compile_ok_iff _).mp (compile_with_own done)).1

theorem kind_unique (distinct : graph.ids.Nodup) (id : String) (first second : NodeKind)
    (one : graph.OfKind first id) (other : graph.OfKind second id) : first = second := by
  have found := (graph.kind_iff distinct first id).mpr one
  rw [(graph.kind_iff distinct second id).mpr other] at found
  exact (Option.some.inj found).symm

theorem mem_task_order (drawn : WellDrawn graph) (id : String) :
    id ∈ graph.taskOrder ↔ graph.OfKind .task id := by
  rw [taskOrder, List.mem_filter, mem_visit_order drawn, decide_eq_true_eq,
    graph.kind_iff drawn.distinctNodes]
  refine ⟨fun both => both.2, fun task => ⟨?_, task⟩⟩
  obtain ⟨node, member, same, _⟩ := task
  exact same ▸ List.mem_map_of_mem member

theorem node_ids (graph : Graph) (ids : List String) (known : ∀ id ∈ ids, (graph.kind? id).isSome) :
    (ids.filterMap graph.node?).map Node.id = ids := by
  induction ids with
  | nil => rfl
  | cons id rest ih =>
      have here : (graph.kind? id).isSome := known id List.mem_cons_self
      rw [kind?, Option.isSome_map] at here
      obtain ⟨node, found⟩ := Option.isSome_iff_exists.mp here
      have same : node.id = id := found_key found
      rw [List.filterMap_cons_some found, List.map_cons, same,
        ih fun other later => known other (List.mem_cons_of_mem id later)]

theorem compile_ids (graph : Graph) :
    graph.compileValid.map TaskTemplate.id = graph.taskOrder := by
  have ids := node_ids graph graph.taskOrder fun id listed => by
    have task := (List.mem_filter.mp listed).2
    simp [of_decide_eq_true task]
  rw [compileValid, List.map_map]
  exact ids

theorem mem_compile_ids (drawn : WellDrawn graph) (id : String) :
    id ∈ graph.compileValid.map TaskTemplate.id ↔ graph.OfKind .task id := by
  rw [compile_ids, mem_task_order drawn]

theorem compile_waits (drawn : WellDrawn graph) (template : TaskTemplate)
    (member : template ∈ graph.compileValid) : Waits graph template := by
  obtain ⟨node, _, rfl⟩ := graph.mem_compile_valid template member
  exact graph.template_waits drawn graph.taskOrder node

theorem predecessor_arc_iff (drawn : WellDrawn graph) (x y : String) :
    (x, y) ∈ predecessorArcs graph.compileValid ↔
      graph.OfKind .task x ∧ graph.OfKind .task y ∧ Through graph.arcs graph.Gateway x y := by
  rw [mem_predecessor_arcs]
  constructor
  · intro listed
    obtain ⟨template, member, same, waits⟩ := listed
    have last := (mem_compile_ids drawn template.id).mp (List.mem_map_of_mem member)
    have path := ((compile_waits drawn template member).waits x).mp waits
    exact same ▸ ⟨path.1, last, path.2⟩
  · intro path
    obtain ⟨template, member, same⟩ := List.mem_map.mp ((mem_compile_ids drawn y).mpr path.2.1)
    have waits := ((compile_waits drawn template member).waits x).mpr ⟨path.1, same ▸ path.2.2⟩
    exact ⟨template, member, same, waits⟩

theorem predecessor_path (drawn : WellDrawn graph) (x y : String)
    (path : Path (predecessorArcs graph.compileValid) x y) : Path graph.arcs x y := by
  induction path with
  | arc listed => exact ((predecessor_arc_iff drawn _ _).mp listed).2.2.mono fun _ _ => trivial
  | step listed _ _ ih =>
      have first := ((predecessor_arc_iff drawn _ _).mp listed).2.2
      exact Through.append (first.mono fun _ _ => trivial) trivial ih

theorem compile_well_formed (drawn : WellDrawn graph) : WellFormed graph.compileValid where
  distinct := by
    rw [compile_ids]
    exact (visit_order_nodup drawn).filter _
  bounded template member := by
    obtain ⟨node, listed, rfl⟩ := graph.mem_compile_valid template member
    exact drawn.bounded node listed
  known template member predecessor waits := by
    have path := ((compile_waits drawn template member).waits predecessor).mp waits
    exact (mem_compile_ids drawn predecessor).mpr path.1
  once template member := (compile_waits drawn template member).once
  acyclic x cycle := drawn.acyclic x (predecessor_path drawn x x cycle)

end Workflow.Graph
