import Workflow.Proofs.Graph.Violations

set_option autoImplicit false

namespace Workflow

structure Exact (graph : Graph) (report : List Violation) : Prop where
  repeatedNode (id : String) : report.count (.repeatedNode id) = graph.ids.count id - 1
  repeatedEdge (id : String) :
    report.count (.repeatedEdge id) = (graph.edges.map Edge.id).count id - 1
  noStart : report.count .noStart = if (graph.ofKind .start).length = 0 then 1 else 0
  manyStarts (count : Nat) :
    report.count (.manyStarts count) =
      if 2 ≤ count ∧ (graph.ofKind .start).length = count then 1 else 0
  dangling (edge node : String) (side : Side) :
    report.count (.dangling edge node side) =
      graph.edges.countP fun item => item.id = edge ∧ item.tip side = node ∧ node ∉ graph.ids
  noBranch (id : String) :
    report.count (.noBranch id) =
      graph.nodes.countP fun node =>
        node.id = id ∧ node.kind = .exclusive ∧ ¬ ∃ arc ∈ graph.soundArcs, arc.1 = id
  cycleOnce (id : String) : report.count (.cycle id) ≤ 1
  cycleSound (id : String) : .cycle id ∈ report → id ∈ graph.ids ∧ OnCycle graph.soundArcs id
  cycleNamed (first : String) (between : List String) :
    Joined graph.soundArcs (first :: between ++ [first]) → ∃ id ∈ first :: between, .cycle id ∈ report
  unreachableOnce (id : String) : report.count (.unreachable id) ≤ 1
  unreachable (id : String) :
    .unreachable id ∈ report ↔
      ∃ start, graph.ofKind .start = [start] ∧
        (∃ node ∈ graph.nodes, node.id = id ∧ node.kind ≠ .start) ∧
          ¬ Reaches graph.soundArcs [start.id] id
  farDeadline (id : String) (days : Nat) :
    report.count (.farDeadline id days) =
      graph.nodes.countP fun node =>
        node.id = id ∧ node.deadlineOffsetDays = some days ∧ maxDeadlineOffset < days

structure WellDrawn (graph : Graph) : Prop where
  distinctNodes : graph.ids.Nodup
  distinctEdges : (graph.edges.map Edge.id).Nodup
  oneStart : ∃ start, graph.ofKind .start = [start]
  anchored : ∀ edge ∈ graph.edges, edge.source ∈ graph.ids ∧ edge.target ∈ graph.ids
  branching : ∀ node ∈ graph.nodes, node.kind = .exclusive → ∃ edge ∈ graph.edges, edge.source = node.id
  acyclic : ∀ id, ¬ OnCycle graph.arcs id
  reached : ∀ start ∈ graph.nodes, start.kind = .start →
    ∀ node ∈ graph.nodes, node.kind ≠ .start → Path graph.arcs start.id node.id
  bounded : ∀ node ∈ graph.nodes, ∀ days ∈ node.deadlineOffsetDays, days ≤ maxDeadlineOffset

namespace Graph

variable (graph : Graph)

-- The search starts from every node, so no cycle of sound arcs is out of its reach.
theorem cycle_named (first : String) (between : List String)
    (joined : Joined graph.soundArcs (first :: between ++ [first])) :
    ∃ id ∈ first :: between, .cycle id ∈ graph.violations := by
  have cycle : Path graph.soundArcs first first :=
    joined_through _ _ first first between joined fun _ _ => trivial
  obtain ⟨before, drawn⟩ := cycle.enters
  have known : first ∈ graph.ids := ((graph.mem_sound_arcs before first).mp drawn).2.2
  obtain ⟨id, member, found⟩ := find_cycles_named _ _ first between joined (.inl known)
  exact ⟨id, member, (graph.mem_cycles id).mpr found⟩

theorem cycle_sound (id : String) (named : .cycle id ∈ graph.violations) :
    id ∈ graph.ids ∧ OnCycle graph.soundArcs id := by
  have cycle := (find_cycles_circular _ _ id ((graph.mem_cycles id).mp named)).1
  obtain ⟨before, drawn⟩ := cycle.enters
  exact ⟨((graph.mem_sound_arcs before id).mp drawn).2.2, cycle⟩

theorem violations_exact : Exact graph graph.violations where
  repeatedNode := graph.count_repeated_node
  repeatedEdge := graph.count_repeated_edge
  noStart := graph.count_no_start
  manyStarts := graph.count_many_starts
  dangling := graph.count_dangling
  noBranch := graph.count_no_branch
  cycleOnce := graph.count_cycle_le
  cycleSound := graph.cycle_sound
  cycleNamed := graph.cycle_named
  unreachableOnce := graph.count_unreachable_le
  unreachable := graph.mem_unreachable
  farDeadline := graph.count_far_deadline

theorem sound_arcs_anchored
    (anchored : ∀ edge ∈ graph.edges, edge.source ∈ graph.ids ∧ edge.target ∈ graph.ids) :
    graph.soundArcs = graph.arcs := by
  apply List.filter_eq_self.mpr
  intro arc member
  obtain ⟨edge, drawn, rfl⟩ := List.mem_map.mp member
  have ends : edge.arc.1 ∈ graph.ids ∧ edge.arc.2 ∈ graph.ids := anchored edge drawn
  simpa using ends

end Graph

theorem nodup_of_count (ids : List String) (once : ∀ id, ids.count id - 1 = 0) : ids.Nodup := by
  apply List.nodup_iff_count_le_one.mpr
  intro id
  have bound := once id
  omega

namespace Exact

variable {graph : Graph}

theorem anchored (exact : Exact graph []) (edge : Edge) (member : edge ∈ graph.edges) :
    edge.source ∈ graph.ids ∧ edge.target ∈ graph.ids := by
  have known (side : Side) : edge.tip side ∈ graph.ids := by
    by_contra unknown
    have absent := List.countP_eq_zero.mp (exact.dangling edge.id (edge.tip side) side).symm
    exact absent edge member (by simp [unknown])
  exact ⟨known .source, known .target⟩

theorem one_start (exact : Exact graph []) : ∃ start, graph.ofKind .start = [start] := by
  have present := exact.noStart
  have few := exact.manyStarts (graph.ofKind .start).length
  simp only [List.count_nil] at present few
  apply List.length_eq_one_iff.mp
  by_cases absent : (graph.ofKind .start).length = 0
  · simp [absent] at present
  · by_cases several : 2 ≤ (graph.ofKind .start).length
    · simp [several] at few
    · omega

theorem branching (exact : Exact graph []) (node : Node) (member : node ∈ graph.nodes)
    (exclusive : node.kind = .exclusive) : ∃ edge ∈ graph.edges, edge.source = node.id := by
  have leaving := List.countP_eq_zero.mp (exact.noBranch node.id).symm node member
  rw [graph.sound_arcs_anchored exact.anchored] at leaving
  simp only [exclusive, true_and, decide_eq_true_eq, not_not] at leaving
  obtain ⟨arc, drawn, leaves⟩ := leaving
  obtain ⟨edge, listed, rfl⟩ := List.mem_map.mp drawn
  exact ⟨edge, listed, leaves⟩

theorem acyclic (exact : Exact graph []) (id : String) : ¬ OnCycle graph.arcs id := by
  intro cycle
  obtain ⟨between, joined, _⟩ := through_joined _ _ id id cycle
  rw [← graph.sound_arcs_anchored exact.anchored] at joined
  obtain ⟨_, _, named⟩ := exact.cycleNamed id between joined
  simp at named

theorem distinct (exact : Exact graph []) : graph.ids.Nodup :=
  nodup_of_count graph.ids fun id => (exact.repeatedNode id).symm

theorem reached (exact : Exact graph []) (start : Node) (first : start ∈ graph.nodes)
    (begins : start.kind = .start) (node : Node) (member : node ∈ graph.nodes)
    (other : node.kind ≠ .start) : Path graph.arcs start.id node.id := by
  obtain ⟨only, starts⟩ := exact.one_start
  have found : start ∈ graph.ofKind .start := List.mem_filter.mpr ⟨first, by simpa using begins⟩
  have same : start = only := by simpa [starts] using found
  by_contra unreached
  have clear : ¬ Reaches graph.soundArcs [only.id] node.id := by
    rw [graph.sound_arcs_anchored exact.anchored]
    rintro (here | ⟨_, root, path⟩)
    · have ids : node.id = start.id := by simpa [same] using here
      have nodes : node = start := List.inj_on_of_nodup_map exact.distinct member first ids
      exact other (nodes ▸ begins)
    · rw [List.mem_singleton.mp root, ← same] at path
      exact unreached path
  have named := (exact.unreachable node.id).mpr ⟨only, starts, ⟨node, member, rfl, other⟩, clear⟩
  simp at named

theorem bounded (exact : Exact graph []) (node : Node) (member : node ∈ graph.nodes) (days : Nat)
    (offset : days ∈ node.deadlineOffsetDays) : days ≤ maxDeadlineOffset := by
  by_contra far
  have near := List.countP_eq_zero.mp (exact.farDeadline node.id days).symm node member
  have offset : node.deadlineOffsetDays = some days := offset
  simp [offset] at near
  omega

theorem well_drawn (exact : Exact graph []) : WellDrawn graph where
  distinctNodes := exact.distinct
  distinctEdges := nodup_of_count _ fun id => (exact.repeatedEdge id).symm
  oneStart := exact.one_start
  anchored := exact.anchored
  branching := exact.branching
  acyclic := exact.acyclic
  reached := exact.reached
  bounded := exact.bounded

end Exact

namespace WellDrawn

variable {graph : Graph} {report : List Violation}

theorem unreported (drawn : WellDrawn graph) (exact : Exact graph report) (violation : Violation) :
    violation ∉ report := by
  have sound := graph.sound_arcs_anchored drawn.anchored
  obtain ⟨start, only⟩ := drawn.oneStart
  rw [← List.count_eq_zero]
  cases violation with
  | repeatedNode id =>
      have once := List.nodup_iff_count_le_one.mp drawn.distinctNodes id
      rw [exact.repeatedNode]
      omega
  | repeatedEdge id =>
      have once := List.nodup_iff_count_le_one.mp drawn.distinctEdges id
      rw [exact.repeatedEdge]
      omega
  | noStart =>
      rw [exact.noStart, only]
      simp
  | manyStarts count =>
      have few : ¬ (2 ≤ count ∧ 1 = count) := by omega
      rw [exact.manyStarts, only]
      exact if_neg few
  | dangling edge node side =>
      rw [exact.dangling, List.countP_eq_zero]
      intro item member
      have known : item.tip side ∈ graph.ids := by
        cases side with
        | source => exact (drawn.anchored item member).1
        | target => exact (drawn.anchored item member).2
      simp only [decide_eq_true_eq, not_and, not_not]
      exact fun _ same => same ▸ known
  | noBranch id =>
      rw [exact.noBranch, List.countP_eq_zero, sound]
      intro node member
      simp only [decide_eq_true_eq, not_and, not_not]
      rintro rfl exclusive
      obtain ⟨edge, listed, leaves⟩ := drawn.branching node member exclusive
      exact ⟨edge.arc, List.mem_map_of_mem listed, leaves⟩
  | cycle id =>
      rw [List.count_eq_zero]
      intro named
      have cycle := (exact.cycleSound id named).2
      rw [sound] at cycle
      exact drawn.acyclic id cycle
  | unreachable id =>
      rw [List.count_eq_zero, exact.unreachable]
      rintro ⟨first, starts, ⟨node, member, rfl, other⟩, unreached⟩
      have among : first ∈ graph.ofKind .start := by simp [starts]
      obtain ⟨listed, begins⟩ := List.mem_filter.mp among
      have path := drawn.reached first listed (of_decide_eq_true begins) node member other
      rw [sound] at unreached
      exact unreached (.inr ⟨first.id, List.mem_singleton.mpr rfl, path⟩)
  | farDeadline id days =>
      rw [exact.farDeadline, List.countP_eq_zero]
      intro node member
      simp only [decide_eq_true_eq, not_and, Nat.not_lt]
      exact fun _ offset => drawn.bounded node member days offset

end WellDrawn

theorem exact_nil_iff (graph : Graph) (report : List Violation) (exact : Exact graph report) :
    report = [] ↔ WellDrawn graph := by
  constructor
  · rintro rfl
    exact exact.well_drawn
  · intro drawn
    exact List.eq_nil_iff_forall_not_mem.mpr (drawn.unreported exact)

theorem valid_iff (graph : Graph) : graph.Valid ↔ WellDrawn graph :=
  exact_nil_iff graph graph.violations graph.violations_exact

theorem report_exact (graph : Graph) :
    Exact graph graph.violations ∧ (graph.violations = [] ↔ WellDrawn graph) :=
  ⟨graph.violations_exact, valid_iff graph⟩

end Workflow
