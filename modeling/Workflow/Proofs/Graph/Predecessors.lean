import Mathlib.Data.List.Permutation
import Workflow.Proofs.Basic
import Workflow.Proofs.Graph.BackwardWalk
import Workflow.Proofs.Graph.WellDrawn

set_option autoImplicit false

namespace Workflow.Graph

variable (graph : Graph)

def OfKind (kind : NodeKind) (id : String) : Prop := ∃ node ∈ graph.nodes, node.id = id ∧ node.kind = kind

def Gateway (id : String) : Prop := ∃ node ∈ graph.nodes, node.id = id ∧ node.kind.gateway = true

def Merged (id : String) : Prop :=
  ∃ merge, graph.OfKind .exclusive merge ∧
    2 ≤ (graph.edges.countP fun edge => edge.target = merge) ∧
      Through graph.arcs graph.Gateway merge id

structure Waits (template : TaskTemplate) : Prop where
  waits (id : String) :
    id ∈ template.predecessorIds ↔
      graph.OfKind .task id ∧ Through graph.arcs graph.Gateway id template.id
  once : template.predecessorIds.Nodup
  any : template.predecessorMode = .any ↔
    2 ≤ template.predecessorIds.length ∧ graph.Merged template.id
  all : template.predecessorMode = .all ↔
    ¬ (2 ≤ template.predecessorIds.length ∧ graph.Merged template.id)

theorem length_sources (id : String) :
    (sources graph.arcs id).length = graph.edges.countP fun edge => edge.target = id := by
  rw [sources, List.length_map, ← List.countP_eq_length_filter, arcs, List.countP_map]
  rfl

theorem node_of_id (distinct : graph.ids.Nodup) (node : Node) (member : node ∈ graph.nodes) :
    graph.node? node.id = some node :=
  find_key Node.id graph.nodes node distinct member

theorem kind_iff (distinct : graph.ids.Nodup) (kind : NodeKind) (id : String) :
    graph.kind? id = some kind ↔ graph.OfKind kind id := by
  rw [kind?, Option.map_eq_some_iff]
  constructor
  · rintro ⟨node, found, same⟩
    exact ⟨node, List.mem_of_find?_eq_some found, found_key found, same⟩
  · rintro ⟨node, member, rfl, same⟩
    exact ⟨node, graph.node_of_id distinct node member, same⟩

theorem gateway_iff (id : String) :
    graph.Gateway id ↔ graph.OfKind .parallel id ∨ graph.OfKind .exclusive id := by
  constructor
  · rintro ⟨node, member, same, gateway⟩
    cases kind : node.kind with
    | parallel => exact .inl ⟨node, member, same, kind⟩
    | exclusive => exact .inr ⟨node, member, same, kind⟩
    | start => simp [kind, NodeKind.gateway] at gateway
    | task => simp [kind, NodeKind.gateway] at gateway
    | finish => simp [kind, NodeKind.gateway] at gateway
  · rintro (⟨node, member, same, kind⟩ | ⟨node, member, same, kind⟩)
    · exact ⟨node, member, same, by rw [kind]; rfl⟩
    · exact ⟨node, member, same, by rw [kind]; rfl⟩

theorem stop_found (id : String) :
    (graph.stop id).found = if graph.kind? id = some .task then [id] else [] := by
  unfold stop
  cases graph.kind? id with
  | none => rfl
  | some kind => cases kind <;> rfl

theorem stop_onward (id x : String) :
    x ∈ (graph.stop id).onward ↔
      (graph.kind? id = some .parallel ∨ graph.kind? id = some .exclusive) ∧
        x ∈ sources graph.arcs id := by
  unfold stop
  cases graph.kind? id with
  | none => simp
  | some kind => cases kind <;> simp

theorem stop_merge (id : String) :
    (graph.stop id).merge = true ↔
      graph.kind? id = some .exclusive ∧ 1 < (sources graph.arcs id).length := by
  unfold stop
  cases graph.kind? id with
  | none => simp
  | some kind => cases kind <;> simp

theorem mem_onward (distinct : graph.ids.Nodup) (id x : String) :
    x ∈ (graph.stop id).onward ↔ graph.Gateway id ∧ (x, id) ∈ graph.arcs := by
  rw [stop_onward, kind_iff graph distinct, kind_iff graph distinct, ← gateway_iff, mem_sources]

section Nearest

variable {graph : Graph} {id : String} {passed : List String}

theorem known_source (drawn : WellDrawn graph) (x y : String) (arc : (x, y) ∈ graph.arcs) :
    x ∈ graph.ids := by
  obtain ⟨edge, member, same⟩ := List.mem_map.mp arc
  have source : edge.source = x := congrArg Prod.fst same
  exact source ▸ (drawn.anchored edge member).1

theorem mem_passed (drawn : WellDrawn graph)
    (walks : Walks graph graph.ids (sources graph.arcs id) passed) (x : String) :
    x ∈ passed ↔ Through graph.arcs graph.Gateway x id := by
  constructor
  · refine walks.origin (Through graph.arcs graph.Gateway · id) ?_ ?_ x
    · intro y source
      exact .arc ((mem_sources graph.arcs y id).mp source)
    · intro y z path onward
      obtain ⟨gateway, arc⟩ := (graph.mem_onward drawn.distinctNodes y z).mp onward
      exact .step arc gateway path
  · intro path
    induction path with
    | @arc x y arc =>
        exact walks.queued x ((mem_sources graph.arcs x y).mpr arc) (known_source drawn x y arc)
    | @step x y z arc gateway _ ih =>
        have onward := (graph.mem_onward drawn.distinctNodes y x).mpr ⟨gateway, arc⟩
        exact walks.closed y x (ih walks) onward (known_source drawn x y arc)

theorem found_tasks (graph : Graph) (ids : List String) :
    (ids.flatMap fun id => (graph.stop id).found) = ids.filter fun id => graph.kind? id = some .task := by
  induction ids with
  | nil => rfl
  | cons id rest ih =>
      rw [List.flatMap_cons, ih, stop_found]
      by_cases task : graph.kind? id = some .task
      · simp [task]
      · simp [task]

theorem nearest_walks (graph : Graph) (id : String) :
    ∃ passed, Walks graph graph.ids (sources graph.arcs id) passed ∧
      graph.nearest id =
        (passed.filter fun x => graph.kind? x = some .task, passed.any fun x => (graph.stop x).merge) := by
  obtain ⟨passed, walks, result⟩ := graph.walk_back_walks graph.ids (sources graph.arcs id)
  refine ⟨passed, walks, ?_⟩
  rw [nearest, result, found_tasks]

theorem mem_nearest (drawn : WellDrawn graph) (x : String) :
    x ∈ (graph.nearest id).1 ↔ graph.OfKind .task x ∧ Through graph.arcs graph.Gateway x id := by
  obtain ⟨passed, walks, result⟩ := graph.nearest_walks id
  rw [result, List.mem_filter, mem_passed drawn walks, decide_eq_true_eq,
    kind_iff graph drawn.distinctNodes, and_comm]

theorem nearest_nodup (drawn : WellDrawn graph) : (graph.nearest id).1.Nodup := by
  obtain ⟨passed, walks, result⟩ := graph.nearest_walks id
  rw [result]
  exact (walks.once drawn.distinctNodes).filter _

theorem nearest_merged_iff (drawn : WellDrawn graph) :
    (graph.nearest id).2 = true ↔ graph.Merged id := by
  obtain ⟨passed, walks, result⟩ := graph.nearest_walks id
  simp only [result, List.any_eq_true, mem_passed drawn walks, stop_merge,
    kind_iff graph drawn.distinctNodes, length_sources, Merged]
  constructor
  · rintro ⟨merge, path, exclusive, several⟩
    exact ⟨merge, exclusive, several, path⟩
  · rintro ⟨merge, exclusive, several, path⟩
    exact ⟨merge, path, exclusive, several⟩

end Nearest

section Templates

variable {graph : Graph} (order : List String) (node : Node)

theorem predecessors_perm :
    (graph.templateOf order node).predecessorIds.Perm (graph.nearest node.id).1 :=
  List.mergeSort_perm _ _

theorem predecessor_mode :
    (graph.templateOf order node).predecessorMode =
      if 1 < (graph.templateOf order node).predecessorIds.length && (graph.nearest node.id).2 then .any
      else .all := rfl

theorem mem_predecessors (drawn : WellDrawn graph) (x : String) :
    x ∈ (graph.templateOf order node).predecessorIds ↔
      graph.OfKind .task x ∧ Through graph.arcs graph.Gateway x node.id :=
  (predecessors_perm order node).mem_iff.trans (mem_nearest drawn x)

theorem predecessors_nodup (drawn : WellDrawn graph) :
    (graph.templateOf order node).predecessorIds.Nodup :=
  (predecessors_perm order node).nodup_iff.mpr (nearest_nodup drawn)

theorem any_mode_iff (drawn : WellDrawn graph) :
    (graph.templateOf order node).predecessorMode = .any ↔
      2 ≤ (graph.templateOf order node).predecessorIds.length ∧ graph.Merged node.id := by
  rw [predecessor_mode, ← nearest_merged_iff drawn]
  cases crossed : (graph.nearest node.id).2 with
  | false => simp
  | true => simp [Nat.lt_iff_add_one_le]

theorem all_mode_iff (drawn : WellDrawn graph) :
    (graph.templateOf order node).predecessorMode = .all ↔
      ¬ (2 ≤ (graph.templateOf order node).predecessorIds.length ∧ graph.Merged node.id) := by
  rw [← any_mode_iff order node drawn]
  cases (graph.templateOf order node).predecessorMode with
  | all => simp
  | any => simp

end Templates

theorem mem_compile_valid (template : TaskTemplate) (member : template ∈ graph.compileValid) :
    ∃ node ∈ graph.nodes, template = graph.templateOf graph.taskOrder node := by
  obtain ⟨node, listed, rfl⟩ := List.mem_map.mp member
  obtain ⟨id, _, found⟩ := List.mem_filterMap.mp listed
  exact ⟨node, List.mem_of_find?_eq_some found, rfl⟩

theorem compile_valid (valid : graph.Valid) : graph.compile = .ok graph.compileValid := by
  have clean : graph.violations = [] := valid
  rw [compile, clean]

theorem template_waits (drawn : WellDrawn graph) (order : List String) (node : Node) :
    Waits graph (graph.templateOf order node) where
  waits := mem_predecessors order node drawn
  once := predecessors_nodup order node drawn
  any := any_mode_iff order node drawn
  all := all_mode_iff order node drawn

theorem predecessors_exact (graph : Graph) (valid : graph.Valid) :
    ∃ templates, graph.compile = .ok templates ∧ ∀ template ∈ templates, Waits graph template := by
  refine ⟨graph.compileValid, graph.compile_valid valid, ?_⟩
  intro template member
  obtain ⟨node, _, rfl⟩ := graph.mem_compile_valid template member
  exact graph.template_waits ((valid_iff graph).mp valid) graph.taskOrder node

def choice : Graph where
  nodes := [.ofKind "start" .start, .task "post", .task "fetch", .ofKind "either" .exclusive,
    .task "file", .ofKind "end" .finish]
  edges := [⟨"1", "start", "post", none⟩, ⟨"2", "start", "fetch", none⟩, ⟨"3", "post", "either", none⟩,
    ⟨"4", "fetch", "either", none⟩, ⟨"5", "either", "file", none⟩, ⟨"6", "file", "end", none⟩]

theorem predecessors_exact_choice :
    choice.Valid ∧
      ∃ templates, choice.compile = .ok templates ∧ ∀ template ∈ templates, Waits choice template := by
  have valid : choice.Valid := by
    change choice.violations = []
    cbv
  exact ⟨valid, predecessors_exact choice valid⟩

example : choice.compileValid.map (fun template => (template.predecessorIds, template.predecessorMode)) =
    [([], .all), ([], .all), (["post", "fetch"], .any)] := by
  cbv

end Workflow.Graph
