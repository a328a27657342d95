import Workflow.Proofs.Graph.Row
import Workflow.Proofs.Graph.Topological

set_option autoImplicit false

namespace Workflow.Graph

def steps (graph : Graph) : List String :=
  (graph.ofKind .start ++ graph.tasks ++ graph.ofKind .finish).map Node.id

structure Listed (graph : Graph) : Prop where
  distinct : graph.ids.Nodup
  oneStart : (graph.ofKind .start).length = 1
  fewEnds : (graph.ofKind .finish).length ≤ 1
  bounded : ∀ node ∈ graph.nodes, ∀ days ∈ node.deadlineOffsetDays, days ≤ maxDeadlineOffset

def previous (graph : Graph) : Nat → List String
  | 0 => []
  | place + 1 => graph.tasks[place]?.toList.map Node.id

def stepTemplate (graph : Graph) (place : Nat) (node : Node) : TaskTemplate where
  id := node.id
  name := node.displayName
  taskType := node.taskType.getD .plain
  stageLabel := node.stageLabel
  description := node.description
  assigneeHint := node.assigneeHint
  predecessorIds := graph.previous place
  predecessorMode := .all
  deadlineOffsetDays := node.deadlineOffsetDays
  orderHint := place

structure Linear (graph : Graph) (compiled : Compiled) : Prop where
  linearized : compiled.linearized = true
  nodes : compiled.graph.nodes = graph.nodes
  arcs : compiled.graph.edges.map Edge.arc = rowArcs graph.steps
  names : compiled.graph.edges.map Edge.id =
    (List.range' 1 (graph.steps.length - 1)).map fun number => s!"auto-{number}"
  unconditional : ∀ edge ∈ compiled.graph.edges, edge.condition = none
  tasks : compiled.tasks = graph.tasks.mapIdx graph.stepTemplate
  narrow : graph.tasks.length ≤ 2 ^ 32 → ∀ template ∈ compiled.tasks, template.orderHint < 2 ^ 32

theorem head_whole {α : Type} (items : List α) (short : items.length ≤ 1) :
    items.head?.toList = items := by
  match items, short with
  | [], _ => rfl
  | [_], _ => rfl

theorem kinds_perm (nodes : List Node) (plain : ∀ node ∈ nodes, node.kind.gateway = false) :
    (nodes.filter (·.kind = .start) ++ nodes.filter (·.kind = .task) ++
      nodes.filter (·.kind = .finish)).Perm nodes := by
  induction nodes with
  | nil => exact .nil
  | cons node rest ih =>
      rw [List.forall_mem_cons] at plain
      have others := ih plain.2
      cases kind : node.kind with
      | start => simpa [kind] using others
      | task =>
          simp only [List.filter_cons, kind, reduceCtorEq, decide_false, decide_true, if_true,
            Bool.false_eq_true, if_false, List.append_assoc, List.cons_append]
          rw [List.append_assoc] at others
          exact List.perm_middle.trans (others.cons node)
      | finish =>
          simp only [List.filter_cons, kind, reduceCtorEq, decide_false, decide_true, if_true,
            Bool.false_eq_true, if_false]
          exact List.perm_middle.trans (others.cons node)
      | parallel => simp [kind, NodeKind.gateway] at plain
      | exclusive => simp [kind, NodeKind.gateway] at plain

theorem mem_of_kind (graph : Graph) (kind : NodeKind) (node : Node) :
    node ∈ graph.ofKind kind ↔ node ∈ graph.nodes ∧ node.kind = kind := by
  rw [ofKind, List.mem_filter, decide_eq_true_eq]

theorem previous_succ (graph : Graph) {before : Nat} (earlier : before < graph.tasks.length) :
    graph.previous (before + 1) = [graph.tasks[before].id] := by
  rw [previous, List.getElem?_eq_getElem earlier]
  rfl

theorem previous_length (graph : Graph) (place : Nat) : (graph.previous place).length ≤ 1 := by
  cases place with
  | zero => exact Nat.zero_le 1
  | succ before =>
      rw [previous, List.length_map]
      cases graph.tasks[before]? <;> simp

theorem steps_row {graph : Graph} {first : Node} (only : graph.ofKind .start = [first]) :
    graph.steps = first.id :: (graph.tasks ++ graph.ofKind .finish).map Node.id := by
  rw [steps, only]
  rfl

section Chains

variable {graph : Graph}

theorem chain_steps (oneStart : (graph.ofKind .start).length = 1)
    (fewEnds : (graph.ofKind .finish).length ≤ 1) : graph.chain = graph.steps := by
  rw [chain, head_whole _ oneStart.le, head_whole _ fewEnds, steps]

theorem chained_arcs (listed : graph.Listed) : graph.chained.arcs = rowArcs graph.steps := by
  rw [← chain_steps listed.oneStart listed.fewEnds]
  exact chain_edges_arcs 1 graph.chain

variable (plain : ∀ node ∈ graph.nodes, node.kind.gateway = false)
include plain

theorem steps_perm : graph.steps.Perm graph.ids := (kinds_perm graph.nodes plain).map Node.id

theorem steps_once (distinct : graph.ids.Nodup) : graph.steps.Nodup :=
  (steps_perm plain).nodup_iff.mpr distinct

theorem steps_reached (distinct : graph.ids.Nodup) {start node : Node}
    (only : graph.ofKind .start = [start]) (member : node ∈ graph.nodes)
    (different : node.kind ≠ .start) : Path (rowArcs graph.steps) start.id node.id := by
  have first := (graph.mem_of_kind .start start).mp (only ▸ List.mem_singleton_self start)
  have known : node.id ∈ graph.steps := (steps_perm plain).mem_iff.mpr (List.mem_map_of_mem member)
  have forward := row_forward graph.steps
  rw [steps_row only] at known forward ⊢
  rcases List.mem_cons.mp known with same | later
  · have nodes : node = start := List.inj_on_of_nodup_map distinct member first.1 same
    exact absurd (nodes ▸ first.2) different
  · exact (List.pairwise_cons.mp forward).1 node.id later

theorem chained_drawn (listed : graph.Listed) : WellDrawn graph.chained where
  distinctNodes := listed.distinct
  distinctEdges := chain_edges_distinct 1 graph.chain
  oneStart := List.length_eq_one_iff.mp listed.oneStart
  anchored edge member := by
    have drawn : edge.arc ∈ rowArcs graph.steps := chained_arcs listed ▸ List.mem_map_of_mem member
    obtain ⟨place, source, target⟩ := (mem_row_arcs _ _ _).mp drawn
    exact ⟨(steps_perm plain).mem_iff.mp (List.mem_of_getElem? source),
      (steps_perm plain).mem_iff.mp (List.mem_of_getElem? target)⟩
  branching node member exclusive := by
    have none := plain node member
    rw [exclusive] at none
    cases none
  acyclic := by
    rw [chained_arcs listed]
    exact row_acyclic (steps_once plain listed.distinct)
  reached start member begins node other different := by
    obtain ⟨first, only⟩ := List.length_eq_one_iff.mp listed.oneStart
    have among := (graph.mem_of_kind .start start).mpr ⟨member, begins⟩
    rw [only, List.mem_singleton] at among
    rw [chained_arcs listed, among]
    exact steps_reached plain listed.distinct only other different
  bounded := listed.bounded

-- A second end would not be in the chain, and nothing would lead to it.
theorem chained_listed (drawn : WellDrawn graph.chained) : graph.Listed where
  distinct := drawn.distinctNodes
  oneStart := List.length_eq_one_iff.mpr drawn.oneStart
  fewEnds := by
    by_contra many
    obtain ⟨start, starts⟩ : ∃ start, graph.ofKind .start = [start] := drawn.oneStart
    obtain ⟨first, second, others, ends⟩ : ∃ first second others,
        graph.ofKind .finish = first :: second :: others := by
      match finishes : graph.ofKind .finish with
      | [] => simp [finishes] at many
      | [_] => simp [finishes] at many
      | first :: second :: others => exact ⟨first, second, others, rfl⟩
    have once := steps_once plain drawn.distinctNodes
    have split : graph.steps = graph.chain ++ (second :: others).map Node.id := by
      rw [steps, chain, starts, ends]
      simp
    have unlisted : second.id ∉ graph.chain := by
      rw [split] at once
      exact fun inside => (List.disjoint_of_nodup_append once) inside List.mem_cons_self
    have known := (graph.mem_of_kind .finish second).mp (by simp [ends])
    have begins := (graph.mem_of_kind .start start).mp (starts ▸ List.mem_singleton_self start)
    have path := drawn.reached start begins.1 begins.2 second known.1 (by simp [known.2])
    obtain ⟨before, arc⟩ := path.enters
    rw [show graph.chained.arcs = rowArcs graph.chain from chain_edges_arcs 1 _] at arc
    obtain ⟨place, _, target⟩ := (mem_row_arcs _ _ _).mp arc
    exact unlisted (List.mem_of_getElem? target)
  bounded := drawn.bounded

-- Both lists run along the row, which compares any two of its ids.
theorem chained_order (listed : graph.Listed) :
    graph.chained.taskOrder = graph.tasks.map Node.id := by
  have drawn := chained_drawn plain listed
  have same : graph.chained.taskOrder.Perm (graph.tasks.map Node.id) :=
    compile_ids graph.chained ▸ compile_whole drawn
  have part : (graph.tasks.map Node.id).Sublist graph.steps := by
    rw [steps, List.map_append, List.map_append]
    exact (List.sublist_append_right _ _).trans (List.sublist_append_left _ _)
  have forward := (row_forward graph.steps).sublist part
  have ahead := task_order_forward drawn
  rw [chained_arcs listed] at ahead
  refine same.eq_of_pairwise (fun first last member other back on => ?_) ahead
    (forward.imp fun path back => ?_)
  · rcases row_compares (part.subset (same.mem_iff.mp member)) (part.subset other) with
      equal | path | path
    · exact equal
    · exact absurd path on
    · exact absurd path back
  · exact row_acyclic (steps_once plain listed.distinct) _ (path.append trivial back)

theorem chained_source (listed : graph.Listed) {place : Nat} {node : Node}
    (found : graph.tasks[place]? = some node) (id : String) :
    graph.chained.OfKind .task id ∧ (id, node.id) ∈ graph.chained.arcs ↔ id ∈ graph.previous place := by
  obtain ⟨start, only⟩ := List.length_eq_one_iff.mp listed.oneStart
  have row := steps_row only
  have within (before : Nat) (task : Node) (here : graph.tasks[before]? = some task) :
      graph.steps[before + 1]? = some task.id := by
    rw [row, List.getElem?_cons_succ, List.getElem?_map, List.getElem?_append_left, here]
    · rfl
    · exact (List.getElem?_eq_some_iff.mp here).1
  rw [chained_arcs listed, row_source (steps_once plain listed.distinct) (within place node found)]
  cases place with
  | zero =>
      have begins := (graph.mem_of_kind .start start).mp (only ▸ List.mem_singleton_self start)
      simp only [row, List.getElem?_cons_zero, Option.some.injEq, previous, List.not_mem_nil, iff_false]
      intro ⟨task, same⟩
      have apart : graph.chained.ids.Nodup := listed.distinct
      cases kind_unique apart id .task .start task ⟨start, begins.1, same, begins.2⟩
  | succ before =>
      have bound := (List.getElem?_eq_some_iff.mp found).1
      have earlier : before < graph.tasks.length := by omega
      have known := (graph.mem_of_kind .task _).mp (List.getElem_mem earlier)
      rw [within before _ (List.getElem?_eq_getElem earlier), graph.previous_succ earlier,
        List.mem_singleton, Option.some_inj]
      constructor
      · exact fun both => both.2.symm
      · rintro rfl
        exact ⟨⟨_, known.1, rfl, known.2⟩, rfl⟩

theorem through_plain (id other : String) :
    Through graph.chained.arcs graph.chained.Gateway id other ↔ (id, other) ∈ graph.chained.arcs := by
  constructor
  · intro path
    cases path with
    | arc drawn => exact drawn
    | step _ inside _ =>
        obtain ⟨node, member, _, gateway⟩ := inside
        rw [plain node member] at gateway
        cases gateway
  · exact .arc

theorem chained_previous (listed : graph.Listed) (order : List String) {place : Nat} {node : Node}
    (found : graph.tasks[place]? = some node) :
    (graph.chained.templateOf order node).predecessorIds = graph.previous place := by
  have drawn := chained_drawn plain listed
  have members (id : String) : id ∈ (graph.chained.templateOf order node).predecessorIds ↔
      id ∈ graph.previous place := by
    rw [mem_predecessors order node drawn, through_plain plain, chained_source plain listed found]
  have once := predecessors_nodup order node drawn
  cases place with
  | zero =>
      exact List.eq_nil_iff_forall_not_mem.mpr fun id listed => List.not_mem_nil ((members id).mp listed)
  | succ before =>
      have bound := (List.getElem?_eq_some_iff.mp found).1
      rw [graph.previous_succ (by omega)] at members ⊢
      exact List.perm_singleton.mp ((List.perm_ext_iff_of_nodup once (List.nodup_singleton _)).mpr members)

theorem chained_step (listed : graph.Listed) {place : Nat} {node : Node}
    (found : graph.tasks[place]? = some node) :
    graph.chained.templateOf graph.chained.taskOrder node = graph.stepTemplate place node := by
  have drawn := chained_drawn plain listed
  have waits := chained_previous plain listed graph.chained.taskOrder found
  have mode : (graph.chained.templateOf graph.chained.taskOrder node).predecessorMode = .all := by
    have few := graph.previous_length place
    rw [predecessor_mode, waits, decide_eq_false (by omega)]
    rfl
  have hint : placeIn graph.chained.taskOrder node.id = place := by
    have here : graph.chained.taskOrder[place]? = some node.id := by
      rw [chained_order plain listed, List.getElem?_map, found]
      rfl
    obtain ⟨bound, same⟩ := List.getElem?_eq_some_iff.mp here
    rw [← same]
    exact (task_order_nodup drawn).idxOf_getElem place bound
  calc graph.chained.templateOf graph.chained.taskOrder node
      = { graph.stepTemplate place node with
          predecessorIds := (graph.chained.templateOf graph.chained.taskOrder node).predecessorIds
          predecessorMode := (graph.chained.templateOf graph.chained.taskOrder node).predecessorMode
          orderHint := placeIn graph.chained.taskOrder node.id } := rfl
    _ = graph.stepTemplate place node := by
      rw [waits, mode, hint]
      rfl

theorem chained_tasks (listed : graph.Listed) :
    graph.chained.compileValid = graph.tasks.mapIdx graph.stepTemplate := by
  have nodes : graph.chained.taskOrder.filterMap graph.chained.node? = graph.tasks := by
    rw [chained_order plain listed, List.filterMap_map]
    have found (node : Node) (member : node ∈ graph.tasks) :
        (graph.chained.node? ∘ Node.id) node = some node :=
      graph.chained.node_of_id listed.distinct node ((graph.mem_of_kind .task node).mp member).1
    rw [List.filterMap_congr found, List.filterMap_some]
  refine List.ext_getElem? fun place => ?_
  rw [compileValid, nodes, List.getElem?_map, List.getElem?_mapIdx]
  cases found : graph.tasks[place]? with
  | none => rfl
  | some node => exact congrArg some (chained_step plain listed found)

end Chains

theorem compile_with_chained {graph : Graph} {config : Config} (bare : graph.edges = [])
    (plain : ∀ node ∈ graph.nodes, node.kind.gateway = false) (tasked : graph.tasks ≠ [])
    (automatic : config.autoLinearize = true) (compiled : Compiled) :
    graph.compileWith config = .ok compiled ↔ graph.chained.Valid ∧
      compiled = { graph := graph.chained, tasks := graph.chained.compileValid, linearized := true } := by
  have steps : graph.needsChain = true := by
    have none : graph.hasGateways = false := by
      rw [hasGateways, List.any_eq_false]
      exact fun node member => by simp [plain node member]
    simp [needsChain, bare, none, tasked]
  rw [compileWith, automatic, steps, Bool.and_self, if_pos rfl, bind_ok_iff]
  simp only [compile_ok_iff]
  constructor
  · intro ⟨tasks, ⟨valid, same⟩, made⟩
    cases made
    exact ⟨valid, by rw [same]⟩
  · intro ⟨valid, made⟩
    exact ⟨_, ⟨valid, rfl⟩, made ▸ rfl⟩

theorem linear_exact (graph : Graph) (config : Config) (bare : graph.edges = [])
    (plain : ∀ node ∈ graph.nodes, node.kind.gateway = false) (tasked : graph.tasks ≠ [])
    (automatic : config.autoLinearize = true) :
    ((∃ compiled, graph.compileWith config = .ok compiled) ↔ graph.Listed) ∧
      ∀ compiled, graph.compileWith config = .ok compiled → graph.Linear compiled := by
  simp only [compile_with_chained bare plain tasked automatic, valid_iff]
  constructor
  · constructor
    · intro ⟨_, drawn, _⟩
      exact chained_listed plain drawn
    · intro listed
      exact ⟨_, chained_drawn plain listed, rfl⟩
  · rintro compiled ⟨drawn, rfl⟩
    have listed := chained_listed plain drawn
    have row := chain_steps listed.oneStart listed.fewEnds
    exact {
      linearized := rfl
      nodes := rfl
      arcs := chained_arcs listed
      names := row ▸ chain_edges_ids 1 graph.chain
      unconditional := chain_edges_plain 1 graph.chain
      tasks := chained_tasks plain listed
      narrow := (compile_topological drawn).narrow }

def stepList : Graph where
  nodes := [.ofKind "end" .finish, .task "draft", .ofKind "start" .start, .task "review"]

theorem linear_exact_steps :
    stepList.edges = [] ∧ (∀ node ∈ stepList.nodes, node.kind.gateway = false) ∧ stepList.tasks ≠ [] ∧
      ∃ compiled, stepList.compileWith {} = .ok compiled ∧ stepList.Linear compiled ∧
        compiled.graph.arcs = [("start", "draft"), ("draft", "review"), ("review", "end")] ∧
        compiled.tasks.map TaskTemplate.predecessorIds = [[], ["draft"]] := by
  have plain : ∀ node ∈ stepList.nodes, node.kind.gateway = false := by decide
  have tasked : stepList.tasks ≠ [] := by decide
  have listed : stepList.Listed := ⟨by decide, by decide, by decide, by decide⟩
  obtain ⟨accepts, linear⟩ := linear_exact stepList {} rfl plain tasked rfl
  obtain ⟨compiled, done⟩ := accepts.mpr listed
  have made := linear compiled done
  exact ⟨rfl, plain, tasked, compiled, done, made, made.arcs, by rw [made.tasks]; rfl⟩

variable {graph : Graph}

theorem drawn_edges (drawn : WellDrawn graph) (tasked : graph.tasks ≠ []) : graph.edges ≠ [] := by
  intro bare
  obtain ⟨start, only⟩ := drawn.oneStart
  obtain ⟨first, begins⟩ := (graph.mem_of_kind .start start).mp (only ▸ List.mem_singleton_self start)
  obtain ⟨task, listed⟩ := List.exists_mem_of_ne_nil graph.tasks tasked
  obtain ⟨member, kind⟩ := (graph.mem_of_kind .task task).mp listed
  have other : task.kind ≠ .start := by simp [kind]
  obtain ⟨before, arc⟩ := (drawn.reached start first begins task member other).enters
  rw [arcs, bare] at arc
  cases arc

theorem drawn_unchained (drawn : WellDrawn graph) : graph.needsChain = false := by
  by_cases tasked : graph.tasks = []
  · simp [needsChain, tasked]
  · simp [needsChain, drawn_edges drawn tasked]

theorem compile_with_valid (valid : graph.Valid) (config : Config) :
    graph.compileWith config = .ok { graph, tasks := graph.compileValid, linearized := false } := by
  have plain : ¬ (config.autoLinearize && graph.needsChain) = true := by
    simp [drawn_unchained ((valid_iff graph).mp valid)]
  rw [compileWith, if_neg plain, compile_valid graph valid]
  rfl

theorem recompile_exact {graph : Graph} {config : Config} {compiled : Compiled}
    (done : graph.compileWith config = .ok compiled) (other : Config) :
    compiled.graph.compileWith other = .ok { compiled with linearized := false } := by
  obtain ⟨valid, same⟩ := (compiled.graph.compile_ok_iff compiled.tasks).mp (compile_with_own done)
  rw [compile_with_valid valid other, same]

theorem recompile_exact_steps :
    ∃ compiled, stepList.compileWith {} = .ok compiled ∧ compiled.linearized = true ∧
      compiled.graph.compileWith { autoLinearize := false } =
          .ok { compiled with linearized := false } ∧
        compiled.graph.compileWith {} = .ok { compiled with linearized := false } := by
  have done : stepList.compileWith {} =
      .ok ⟨stepList.chained, stepList.chained.compileValid, true⟩ := by
    cbv
  exact ⟨_, done, rfl, recompile_exact done _, recompile_exact done _⟩

end Workflow.Graph
