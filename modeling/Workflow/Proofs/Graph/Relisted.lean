import Workflow.Proofs.Graph.Compiled

/-!
What a diagram compiles to depends on what it draws and not on how that is listed. The order of the
nodes and their places, the names of the edges and their conditions change nothing at all. The order
of the edges changes no task but for its hint, only the orders in which tasks and predecessors are
listed.
-/

set_option autoImplicit false

namespace Workflow

def Node.unplaced (node : Node) : Node := { node with position := none }

theorem Node.unplaced_parts {node twin : Node} (same : twin.unplaced = node.unplaced) :
    twin.id = node.id ∧ twin.kind = node.kind ∧
      twin.deadlineOffsetDays = node.deadlineOffsetDays := by
  have whole : { twin with position := none } = { node with position := none } := same
  simp only [Node.mk.injEq] at whole
  tauto

structure TaskTemplate.Alike (template other : TaskTemplate) : Prop where
  predecessors : other.predecessorIds.Perm template.predecessorIds
  rest : other =
    { template with predecessorIds := other.predecessorIds, orderHint := other.orderHint }

namespace Graph

structure Redrawn (graph other : Graph) : Prop where
  nodes : (other.nodes.map Node.unplaced).Perm (graph.nodes.map Node.unplaced)
  arcs : other.arcs.Perm graph.arcs
  names : (other.edges.map Edge.id).Nodup

structure Relisted (graph other : Graph) : Prop extends Redrawn graph other where
  ordered : other.arcs = graph.arcs

structure Regrouped (templates others : List TaskTemplate) : Prop where
  distinct : (templates.map TaskTemplate.id).Nodup
  ids : (others.map TaskTemplate.id).Perm (templates.map TaskTemplate.id)
  alike : ∀ template ∈ templates, ∀ other ∈ others, other.id = template.id → template.Alike other

namespace Redrawn

variable {graph other : Graph}

theorem back (redrawn : Redrawn graph other) (drawn : WellDrawn graph) : Redrawn other graph :=
  ⟨redrawn.nodes.symm, redrawn.arcs.symm, drawn.distinctEdges⟩

theorem ids (redrawn : Redrawn graph other) : other.ids.Perm graph.ids := by
  have same := redrawn.nodes.map Node.id
  rw [List.map_map, List.map_map] at same
  exact same

theorem kinds (redrawn : Redrawn graph other) (kind : NodeKind) :
    ((other.ofKind kind).map Node.unplaced).Perm ((graph.ofKind kind).map Node.unplaced) := by
  have same := redrawn.nodes.filter fun node => node.kind = kind
  rw [List.filter_map, List.filter_map] at same
  exact same

theorem twin (redrawn : Redrawn graph other) {node : Node} (member : node ∈ other.nodes) :
    ∃ twin ∈ graph.nodes, twin.unplaced = node.unplaced :=
  List.mem_map.mp (redrawn.nodes.mem_iff.mp (List.mem_map_of_mem member))

theorem drawn (redrawn : Redrawn graph other) (drawn : WellDrawn graph) : WellDrawn other where
  distinctNodes := redrawn.ids.nodup_iff.mpr drawn.distinctNodes
  distinctEdges := redrawn.names
  oneStart := by
    obtain ⟨start, only⟩ := drawn.oneStart
    have same := (redrawn.kinds .start).length_eq
    rw [List.length_map, List.length_map, only] at same
    exact List.length_eq_one_iff.mp same
  anchored edge member := by
    have arc : edge.arc ∈ graph.arcs := redrawn.arcs.mem_iff.mp (List.mem_map_of_mem member)
    exact ⟨redrawn.ids.mem_iff.mpr (known_source drawn edge.source edge.target arc),
      redrawn.ids.mem_iff.mpr (known_target drawn edge.source edge.target arc)⟩
  branching node member exclusive := by
    obtain ⟨twin, listed, same⟩ := redrawn.twin member
    obtain ⟨id, kind, -⟩ := Node.unplaced_parts same
    obtain ⟨edge, leaving, source⟩ := drawn.branching twin listed (kind.trans exclusive)
    have arc : edge.arc ∈ other.arcs := redrawn.arcs.mem_iff.mpr (List.mem_map_of_mem leaving)
    obtain ⟨again, drawn, arcs⟩ := List.mem_map.mp arc
    have leaves : again.source = edge.source := congrArg Prod.fst arcs
    exact ⟨again, drawn, leaves.trans (source.trans id)⟩
  acyclic id cycle := drawn.acyclic id (cycle.within redrawn.arcs.subset)
  reached start first begins node member different := by
    obtain ⟨origin, listed, same⟩ := redrawn.twin first
    obtain ⟨twin, known, alike⟩ := redrawn.twin member
    obtain ⟨root, origins, -⟩ := Node.unplaced_parts same
    obtain ⟨id, kind, -⟩ := Node.unplaced_parts alike
    have path := drawn.reached origin listed (origins.trans begins) twin known (kind.symm ▸ different)
    rw [root, id] at path
    exact path.within redrawn.arcs.symm.subset
  bounded node member days offset := by
    obtain ⟨twin, listed, same⟩ := redrawn.twin member
    obtain ⟨-, -, offsets⟩ := Node.unplaced_parts same
    exact drawn.bounded twin listed days (offsets.symm ▸ offset)

theorem of_kind (redrawn : Redrawn graph other) {kind : NodeKind} {id : String}
    (here : other.OfKind kind id) : graph.OfKind kind id := by
  obtain ⟨node, member, own, same⟩ := here
  obtain ⟨twin, listed, alike⟩ := redrawn.twin member
  obtain ⟨ids, kinds, -⟩ := Node.unplaced_parts alike
  exact ⟨twin, listed, ids.trans own, kinds.trans same⟩

theorem through (redrawn : Redrawn graph other) {x y : String}
    (path : Through other.arcs other.Gateway x y) : Through graph.arcs graph.Gateway x y := by
  have gateways (id : String) (gateway : other.Gateway id) : graph.Gateway id := by
    rw [gateway_iff] at gateway ⊢
    exact gateway.imp redrawn.of_kind redrawn.of_kind
  exact (path.mono gateways).within redrawn.arcs.subset

theorem merged (redrawn : Redrawn graph other) {id : String} (merged : other.Merged id) :
    graph.Merged id := by
  obtain ⟨merge, exclusive, several, path⟩ := merged
  have entries : (sources other.arcs merge).length = (sources graph.arcs merge).length :=
    ((redrawn.arcs.filter fun arc : Arc => arc.2 = merge).map Prod.fst).length_eq
  rw [← length_sources, entries, length_sources] at several
  exact ⟨merge, redrawn.of_kind exclusive, several, redrawn.through path⟩

theorem template_alike (redrawn : Redrawn graph other) (drawn : WellDrawn graph)
    (order places : List String) (node : Node) :
    (graph.templateOf order node).Alike (other.templateOf places node) := by
  have back := redrawn.back drawn
  have old := graph.template_waits drawn order node
  have new := other.template_waits (redrawn.drawn drawn) places node
  have members (id : String) : id ∈ (other.templateOf places node).predecessorIds ↔
      id ∈ (graph.templateOf order node).predecessorIds := by
    rw [new.waits, old.waits]
    exact and_congr ⟨redrawn.of_kind, back.of_kind⟩ ⟨redrawn.through, back.through⟩
  have predecessors := (List.perm_ext_iff_of_nodup new.once old.once).mpr members
  have mode : (other.templateOf places node).predecessorMode =
      (graph.templateOf order node).predecessorMode := by
    have merged : other.Merged node.id ↔ graph.Merged node.id := ⟨redrawn.merged, back.merged⟩
    have any := new.any.trans ((and_congr_right fun _ => merged).trans
      (predecessors.length_eq ▸ old.any.symm))
    cases here : (graph.templateOf order node).predecessorMode with
    | any => exact any.mpr here
    | all =>
        cases there : (other.templateOf places node).predecessorMode with
        | all => rfl
        | any => exact absurd (here.symm.trans (any.mp there)) (by decide)
  have rest : other.templateOf places node =
      { graph.templateOf order node with
        predecessorIds := (other.templateOf places node).predecessorIds
        predecessorMode := (other.templateOf places node).predecessorMode
        orderHint := (other.templateOf places node).orderHint } := rfl
  rw [mode] at rest
  exact ⟨predecessors, rest⟩

theorem twin_alike (redrawn : Redrawn graph other) (drawn : WellDrawn graph) {node again : Node}
    (member : node ∈ graph.nodes) (listed : again ∈ other.nodes) (same : again.id = node.id) :
    again.unplaced = node.unplaced := by
  obtain ⟨twin, known, alike⟩ := redrawn.twin listed
  obtain ⟨ids, -⟩ := Node.unplaced_parts alike
  rw [← alike, List.inj_on_of_nodup_map drawn.distinctNodes known member (ids.trans same)]

theorem regrouped (redrawn : Redrawn graph other) (drawn : WellDrawn graph) :
    Regrouped graph.compileValid other.compileValid where
  distinct := (compile_well_formed drawn).distinct
  ids := by
    have old := (compile_well_formed drawn).distinct
    have new := (compile_well_formed (redrawn.drawn drawn)).distinct
    refine (List.perm_ext_iff_of_nodup new old).mpr fun id => ?_
    rw [mem_compile_ids drawn, mem_compile_ids (redrawn.drawn drawn)]
    exact ⟨redrawn.of_kind, (redrawn.back drawn).of_kind⟩
  alike template member again listed same := by
    obtain ⟨node, known, rfl⟩ := graph.mem_compile_valid template member
    obtain ⟨twin, there, rfl⟩ := other.mem_compile_valid again listed
    have alike := redrawn.template_alike drawn graph.taskOrder other.taskOrder node.unplaced
    have nodes := redrawn.twin_alike drawn known there same
    change (graph.templateOf graph.taskOrder node.unplaced).Alike
      (other.templateOf other.taskOrder twin.unplaced)
    rw [nodes]
    exact alike

end Redrawn

-- The walk asks of the ids that are left only whether one of them is among them.
theorem walk_back_same {graph other : Graph} (stops : other.stop = graph.stop)
    (unmet queue left : List String) (same : left.Perm unmet) :
    other.walkBack left queue = graph.walkBack unmet queue := by
  induction unmet, queue using walkBack.induct graph generalizing left with
  | case1 unmet => rw [walkBack, walkBack]
  | case2 unmet id queue waiting here ih =>
      rw [walkBack, walkBack, if_pos waiting, if_pos (same.mem_iff.mpr waiting), stops]
      dsimp only
      rw [ih _ (same.erase id)]
  | case3 unmet id queue met ih =>
      have gone : id ∉ left := fun member => met (same.mem_iff.mp member)
      rw [walkBack, walkBack, if_neg met, if_neg gone]
      exact ih left same

theorem node_unplaced (graph : Graph) (id : String) :
    (graph.node? id).map Node.unplaced =
      (graph.nodes.map Node.unplaced).find? fun node => node.id = id := by
  rw [List.find?_map]
  rfl

namespace Relisted

variable {graph other : Graph}

theorem nodes_same (relisted : Relisted graph other) (drawn : WellDrawn graph) (id : String) :
    (other.node? id).map Node.unplaced = (graph.node? id).map Node.unplaced := by
  have distinct : ((graph.nodes.map Node.unplaced).map Node.id).Nodup := by
    rw [List.map_map]
    exact drawn.distinctNodes
  rw [node_unplaced, node_unplaced]
  exact find_perm Node.id id distinct relisted.nodes

theorem kinds_same (relisted : Relisted graph other) (drawn : WellDrawn graph) :
    other.kind? = graph.kind? := by
  funext id
  have same := congrArg (Option.map Node.kind) (relisted.nodes_same drawn id)
  rw [Option.map_map, Option.map_map] at same
  exact same

theorem nearest_same (relisted : Relisted graph other) (drawn : WellDrawn graph) (id : String) :
    other.nearest id = graph.nearest id := by
  have stops : other.stop = graph.stop := by
    funext id
    rw [stop, stop, relisted.kinds_same drawn, relisted.ordered]
  rw [nearest, nearest, relisted.ordered]
  exact walk_back_same stops graph.ids _ other.ids relisted.ids

theorem templates_same (relisted : Relisted graph other) (drawn : WellDrawn graph)
    (order : List String) : other.templateOf order = graph.templateOf order := by
  funext node
  rw [templateOf, templateOf, relisted.nearest_same drawn]

theorem order_same (relisted : Relisted graph other) (drawn : WellDrawn graph) :
    other.taskOrder = graph.taskOrder := by
  have starts : (other.ofKind .start).map Node.id = (graph.ofKind .start).map Node.id := by
    obtain ⟨start, only⟩ := drawn.oneStart
    have same := (relisted.kinds .start).map Node.id
    rw [List.map_map, List.map_map] at same
    rw [only] at same ⊢
    exact List.perm_singleton.mp same
  rw [taskOrder, taskOrder, visitOrder, visitOrder, starts, relisted.ordered,
    relisted.kinds_same drawn]

theorem compile_same (relisted : Relisted graph other) (drawn : WellDrawn graph) :
    other.compileValid = graph.compileValid := by
  rw [compileValid, compileValid, relisted.order_same drawn, relisted.templates_same drawn,
    List.map_filterMap, List.map_filterMap]
  refine List.filterMap_congr fun id _ => ?_
  -- No template is made of the place of its node.
  have same := congrArg (Option.map (graph.templateOf graph.taskOrder)) (relisted.nodes_same drawn id)
  rw [Option.map_map, Option.map_map] at same
  exact same

end Relisted

theorem listing_exact (graph : Graph) (valid : graph.Valid) :
    ∃ templates, graph.compile = .ok templates ∧
      (∀ other, Relisted graph other → other.Valid ∧ other.compile = .ok templates) ∧
        ∀ other, Redrawn graph other → other.Valid ∧
          ∃ others, other.compile = .ok others ∧ Regrouped templates others := by
  have drawn := (valid_iff graph).mp valid
  refine ⟨graph.compileValid, graph.compile_valid valid, fun other relisted => ?_,
    fun other redrawn => ?_⟩
  · have again : other.Valid := (valid_iff other).mpr (relisted.drawn drawn)
    exact ⟨again, relisted.compile_same drawn ▸ other.compile_valid again⟩
  · have again : other.Valid := (valid_iff other).mpr (redrawn.drawn drawn)
    exact ⟨again, other.compileValid, other.compile_valid again, redrawn.regrouped drawn⟩

def choiceMoved : Graph where
  nodes := choice.nodes.reverse.map fun node => { node with position := some ⟨.zero, .zero⟩ }
  edges := choice.edges.map fun edge => { edge with id := "to " ++ edge.id, condition := some "yes" }

def choiceTurned : Graph := { choice with edges := choice.edges.reverse }

theorem choice_moved : Relisted choice choiceMoved where
  nodes := by
    have bare : choiceMoved.nodes.map Node.unplaced = choice.nodes.reverse.map Node.unplaced := rfl
    rw [bare]
    exact (List.reverse_perm choice.nodes).map Node.unplaced
  arcs := .refl _
  names := by decide
  ordered := rfl

theorem choice_turned : Redrawn choice choiceTurned where
  nodes := .refl _
  arcs := (List.reverse_perm choice.edges).map Edge.arc
  names := by decide

theorem listing_exact_choice :
    choice.Valid ∧ Relisted choice choiceMoved ∧ Redrawn choice choiceTurned ∧
      ∃ templates others, choice.compile = .ok templates ∧ choiceMoved.compile = .ok templates ∧
        choiceTurned.compile = .ok others ∧ Regrouped templates others ∧
          templates.map TaskTemplate.id = ["post", "fetch", "file"] ∧
            others.map TaskTemplate.id = ["fetch", "post", "file"] := by
  have valid : choice.Valid := by
    change choice.violations = []
    cbv
  obtain ⟨templates, compiled, moved, turned⟩ := listing_exact choice valid
  obtain ⟨again, others, done, regrouped⟩ := turned choiceTurned choice_turned
  have first : templates = choice.compileValid := ((choice.compile_ok_iff _).mp compiled).2
  have second : others = choiceTurned.compileValid := ((choiceTurned.compile_ok_iff _).mp done).2
  have ids : choice.compileValid.map TaskTemplate.id = ["post", "fetch", "file"] := by cbv
  have turnedIds : choiceTurned.compileValid.map TaskTemplate.id = ["fetch", "post", "file"] := by cbv
  exact ⟨valid, choice_moved, choice_turned, templates, others, compiled,
    (moved choiceMoved choice_moved).2, done, regrouped, first ▸ ids, second ▸ turnedIds⟩

end Graph

end Workflow
