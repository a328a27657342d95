import Workflow.Proofs.Graph.Compiled
import Workflow.Proofs.Graph.Traversal

set_option autoImplicit false

namespace Workflow.Graph

section Order

variable {arcs drawn : List Arc} {roots done queue : List String}

theorem visited_before (visiting : Visiting arcs roots done drawn queue) (x y : String)
    (path : Path arcs x y) (visited : y ∈ done) : x ∈ done := by
  induction path with
  | arc drawn => exact ((visiting.clear _).mp (List.mem_append_left queue visited)).2 _ drawn
  | step drawn _ _ ih =>
      exact ((visiting.clear _).mp (List.mem_append_left queue (ih visited))).2 _ drawn

theorem visit_forward (visiting : Visiting arcs roots done drawn queue)
    (forward : done.Pairwise fun earlier later => ¬ Path arcs later earlier) :
    (done ++ visit drawn queue).Pairwise fun earlier later => ¬ Path arcs later earlier := by
  induction drawn, queue using visit.induct generalizing done with
  | case1 drawn =>
      rw [visit, List.append_nil]
      exact forward
  | case2 drawn id queue next =>
      rename_i ih
      rw [visit, List.append_cons]
      refine ih visiting.step (List.pairwise_append.mpr ⟨forward, List.pairwise_singleton _ id, ?_⟩)
      intro earlier visited later last path
      rw [List.mem_singleton.mp last] at path
      exact visiting.unvisited (visited_before visiting id earlier path visited)

end Order

variable {graph : Graph}

theorem task_order_forward (drawn : WellDrawn graph) :
    graph.taskOrder.Pairwise fun earlier later => ¬ Path graph.arcs later earlier := by
  have forward := visit_forward (visiting_start drawn) List.Pairwise.nil
  rw [List.nil_append] at forward
  exact forward.filter _

theorem task_order_nodup (drawn : WellDrawn graph) : graph.taskOrder.Nodup :=
  (visit_order_nodup drawn).filter _

theorem place_before (drawn : WellDrawn graph) (x y : String) (first : x ∈ graph.taskOrder)
    (last : y ∈ graph.taskOrder) (path : Path graph.arcs x y) :
    placeIn graph.taskOrder x < placeIn graph.taskOrder y := by
  have here := List.idxOf_lt_length_iff.mpr first
  have there := List.idxOf_lt_length_iff.mpr last
  by_contra back
  rcases Nat.lt_or_eq_of_le (Nat.le_of_not_lt back) with less | same
  · have apart := List.pairwise_iff_getElem.mp (task_order_forward drawn) _ _ there here less
    rw [List.getElem_idxOf, List.getElem_idxOf] at apart
    exact apart path
  · have equal : y = x := (List.idxOf_inj last).mp same
    exact drawn.acyclic x (equal ▸ path)

theorem compile_hint (template : TaskTemplate) (member : template ∈ graph.compileValid) :
    template.orderHint = placeIn graph.taskOrder template.id := by
  obtain ⟨node, _, rfl⟩ := graph.mem_compile_valid template member
  rfl

theorem compile_place (drawn : WellDrawn graph) (place : Nat) (template : TaskTemplate)
    (found : graph.compileValid[place]? = some template) : template.orderHint = place := by
  have listed : graph.taskOrder[place]? = some template.id := by
    rw [← compile_ids, List.getElem?_map, found]
    rfl
  obtain ⟨valid, same⟩ := List.getElem?_eq_some_iff.mp listed
  rw [compile_hint template (List.mem_of_getElem? found), ← same]
  exact (task_order_nodup drawn).idxOf_getElem place valid

theorem hints_below {templates : List TaskTemplate} (placed : ∀ (place : Nat) (template : TaskTemplate),
      templates[place]? = some template → template.orderHint = place) :
    ∀ template ∈ templates, template.orderHint < templates.length := by
  intro template member
  obtain ⟨place, found⟩ := List.getElem?_of_mem member
  rw [placed place template found]
  exact (List.getElem?_eq_some_iff.mp found).1

theorem predecessors_rise (drawn : WellDrawn graph) (node : Node) :
    (graph.templateOf graph.taskOrder node).predecessorIds.Pairwise fun first second =>
      placeIn graph.taskOrder first < placeIn graph.taskOrder second := by
  let upTo (a b : String) : Bool := placeIn graph.taskOrder a ≤ placeIn graph.taskOrder b
  have transitive (a b c : String) (first : upTo a b) (second : upTo b c) : upTo a c := by
    simp only [upTo, decide_eq_true_eq] at first second ⊢
    exact first.trans second
  have total (a b : String) : upTo a b || upTo b a := by
    simp only [upTo, Bool.or_eq_true, decide_eq_true_eq]
    exact Nat.le_total _ _
  have sorted := List.pairwise_mergeSort transitive total (graph.nearest node.id).1
  have once := predecessors_nodup graph.taskOrder node drawn
  refine (sorted.and once).imp_of_mem fun {first second} member _ both => ?_
  have task := ((mem_predecessors graph.taskOrder node drawn first).mp member).1
  have listed := (mem_task_order drawn first).mpr task
  refine Nat.lt_of_le_of_ne (of_decide_eq_true both.1) fun same => both.2 ?_
  exact (List.idxOf_inj listed).mp same

structure Topological (graph : Graph) (templates : List TaskTemplate) : Prop where
  whole : (templates.map TaskTemplate.id).Perm (graph.tasks.map Node.id)
  placed (place : Nat) (template : TaskTemplate) :
    templates[place]? = some template → template.orderHint = place
  -- A hint is a word of 32 bits, wide enough for so many tasks.
  narrow : graph.tasks.length ≤ 2 ^ 32 → ∀ template ∈ templates, template.orderHint < 2 ^ 32
  forward : ∀ first ∈ templates, ∀ last ∈ templates,
    Path graph.arcs first.id last.id → first.orderHint < last.orderHint
  earlier : ∀ template ∈ templates, ∀ predecessor ∈ template.predecessorIds,
    ∃ before ∈ templates, before.id = predecessor ∧ before.orderHint < template.orderHint
  rising : ∀ template ∈ templates, template.predecessorIds.Pairwise fun first second =>
    ∀ one ∈ templates, ∀ other ∈ templates, one.id = first → other.id = second →
      one.orderHint < other.orderHint

theorem compile_whole (drawn : WellDrawn graph) :
    (graph.compileValid.map TaskTemplate.id).Perm (graph.tasks.map Node.id) := by
  have once : (graph.tasks.map Node.id).Nodup :=
    drawn.distinctNodes.sublist (List.filter_sublist.map Node.id)
  refine (List.perm_ext_iff_of_nodup (compile_well_formed drawn).distinct once).mpr fun id => ?_
  rw [mem_compile_ids drawn]
  simp only [tasks, ofKind, OfKind, List.mem_map, List.mem_filter, decide_eq_true_eq]
  exact exists_congr fun node => by tauto

theorem compile_topological (drawn : WellDrawn graph) : Topological graph graph.compileValid where
  whole := compile_whole drawn
  placed := compile_place drawn
  narrow few template member := by
    have size := (compile_whole drawn).length_eq
    rw [List.length_map, List.length_map] at size
    exact (hints_below (compile_place drawn) template member).trans_le (size.trans_le few)
  forward first start last stop path := by
    have listed (template : TaskTemplate) (member : template ∈ graph.compileValid) :
        template.id ∈ graph.taskOrder := compile_ids graph ▸ List.mem_map_of_mem member
    rw [compile_hint first start, compile_hint last stop]
    exact place_before drawn first.id last.id (listed first start) (listed last stop) path
  earlier template member predecessor waits := by
    have known := (compile_well_formed drawn).known template member waits
    obtain ⟨before, among, same⟩ := List.mem_map.mp known
    have path := ((compile_waits drawn template member).waits predecessor).mp waits
    have first : predecessor ∈ graph.taskOrder := compile_ids graph ▸ known
    have last : template.id ∈ graph.taskOrder := compile_ids graph ▸ List.mem_map_of_mem member
    refine ⟨before, among, same, ?_⟩
    rw [compile_hint before among, compile_hint template member, same]
    exact place_before drawn predecessor template.id first last (path.2.mono fun _ _ => trivial)
  rising template member := by
    obtain ⟨node, _, rfl⟩ := graph.mem_compile_valid template member
    refine (predecessors_rise drawn node).imp fun less one first other second here there => ?_
    rw [compile_hint one first, compile_hint other second, here, there]
    exact less

theorem topological_exact (graph : Graph) (valid : graph.Valid) :
    ∃ templates, graph.compile = .ok templates ∧ Topological graph templates ∧ graph.Counted := by
  have drawn := (valid_iff graph).mp valid
  exact ⟨graph.compileValid, graph.compile_valid valid, compile_topological drawn,
    well_drawn_counted drawn⟩

def doubled : Graph where
  nodes := [.ofKind "start" .start, .task "print", .task "proof", .ofKind "end" .finish, .task "file"]
  edges := [⟨"1", "start", "proof", none⟩, ⟨"2", "proof", "print", none⟩,
    ⟨"3", "proof", "print", none⟩, ⟨"4", "print", "end", none⟩, ⟨"5", "end", "file", none⟩]

theorem topological_exact_doubled :
    doubled.Valid ∧ ∃ templates, doubled.compile = .ok templates ∧
      templates.map TaskTemplate.id = ["proof", "print", "file"] ∧ Topological doubled templates ∧
        doubled.Counted := by
  have valid : doubled.Valid := by
    change doubled.violations = []
    cbv
  obtain ⟨templates, compiled, ordered, counted⟩ := topological_exact doubled valid
  have ids : doubled.compileValid.map TaskTemplate.id = ["proof", "print", "file"] := by cbv
  have same := ((doubled.compile_ok_iff templates).mp compiled).2
  exact ⟨valid, templates, compiled, same ▸ ids, ordered, counted⟩

end Workflow.Graph
