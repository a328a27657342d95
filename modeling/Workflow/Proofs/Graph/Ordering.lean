import Workflow.Proofs.Graph.Compiled

set_option autoImplicit false

namespace Workflow.Graph

variable {graph : Graph}

def Ordered (graph : Graph) (first last : String) : Prop :=
  Through graph.arcs (fun id => ¬ graph.OfKind .finish id) first last

-- No arc leads into the start, so a path goes past tasks and gateways only.
theorem passed_kind (drawn : WellDrawn graph) (x y : String) (arc : (x, y) ∈ graph.arcs)
    (unended : ¬ graph.OfKind .finish y) : graph.OfKind .task y ∨ graph.Gateway y := by
  obtain ⟨node, member, same⟩ := List.mem_map.mp (known_target drawn x y arc)
  cases kind : node.kind with
  | start => exact absurd (same ▸ arc) (start_unentered drawn node member kind x)
  | task => exact .inl ⟨node, member, same, kind⟩
  | parallel => exact .inr ⟨node, member, same, by rw [kind]; rfl⟩
  | exclusive => exact .inr ⟨node, member, same, by rw [kind]; rfl⟩
  | finish => exact absurd ⟨node, member, same, kind⟩ unended

-- The first task on the way is reached through gateways, and waited for by what comes after it.
theorem first_task (drawn : WellDrawn graph) (x y : String) (path : graph.Ordered x y)
    (last : graph.OfKind .task y) :
    ∃ next, graph.OfKind .task next ∧ Through graph.arcs graph.Gateway x next ∧
      (next = y ∨ Path (predecessorArcs graph.compileValid) next y) := by
  induction path with
  | arc drawn => exact ⟨_, last, .arc drawn, .inl rfl⟩
  | @step x z y arc unended _ ih =>
      obtain ⟨next, task, gateways, rest⟩ := ih last
      rcases passed_kind drawn x z arc unended with here | gateway
      · have listed := (predecessor_arc_iff drawn z next).mpr ⟨here, task, gateways⟩
        refine ⟨z, here, .arc arc, .inr ?_⟩
        rcases rest with same | later
        · exact same ▸ .arc listed
        · exact .step listed trivial later
      · exact ⟨next, task, .step arc gateway gateways, rest⟩

theorem waits_of_ordered (drawn : WellDrawn graph) (x y : String) (first : graph.OfKind .task x)
    (last : graph.OfKind .task y) (path : graph.Ordered x y) :
    Path (predecessorArcs graph.compileValid) x y := by
  obtain ⟨next, task, gateways, rest⟩ := first_task drawn x y path last
  have listed := (predecessor_arc_iff drawn x next).mpr ⟨first, task, gateways⟩
  rcases rest with same | later
  · exact same ▸ .arc listed
  · exact .step listed trivial later

theorem gateways_ordered (drawn : WellDrawn graph) (x y : String)
    (path : Through graph.arcs graph.Gateway x y) : graph.Ordered x y := by
  refine path.mono fun id gateway finish => ?_
  rcases (graph.gateway_iff id).mp gateway with parallel | exclusive
  · cases kind_unique drawn.distinctNodes id _ _ parallel finish
  · cases kind_unique drawn.distinctNodes id _ _ exclusive finish

theorem ordered_of_waits (drawn : WellDrawn graph) (x y : String)
    (path : Path (predecessorArcs graph.compileValid) x y) : graph.Ordered x y := by
  induction path with
  | arc listed => exact gateways_ordered drawn _ _ ((predecessor_arc_iff drawn _ _).mp listed).2.2
  | @step x z y listed _ _ ih =>
      obtain ⟨_, task, gateways⟩ := (predecessor_arc_iff drawn x z).mp listed
      refine (gateways_ordered drawn x z gateways).append (fun finish => ?_) ih
      cases kind_unique drawn.distinctNodes z _ _ task finish

theorem ordering_exact (graph : Graph) (valid : graph.Valid) :
    ∃ templates, graph.compile = .ok templates ∧ ∀ first last, graph.OfKind .task first →
      graph.OfKind .task last →
        (graph.Ordered first last ↔ Path (predecessorArcs templates) first last) := by
  have drawn := (valid_iff graph).mp valid
  refine ⟨graph.compileValid, graph.compile_valid valid, fun first last start stop => ⟨?_, ?_⟩⟩
  · exact waits_of_ordered drawn first last start stop
  · exact ordered_of_waits drawn first last

theorem choice_ordered : choice.Ordered "post" "file" := by
  have unended : ¬ choice.OfKind .finish "either" := by simp [OfKind, choice, Node.ofKind, Node.task]
  refine .step (y := "either") ?_ unended (.arc ?_)
  · simp [arcs, choice, Edge.arc]
  · simp [arcs, choice, Edge.arc]

theorem ordering_exact_choice :
    choice.Valid ∧ choice.OfKind .task "post" ∧ choice.OfKind .task "file" ∧
      choice.Ordered "post" "file" ∧
        ∃ templates, choice.compile = .ok templates ∧ Path (predecessorArcs templates) "post" "file" := by
  have valid : choice.Valid := by
    change choice.violations = []
    cbv
  have post : choice.OfKind .task "post" := ⟨.task "post", by simp [choice], rfl, rfl⟩
  have file : choice.OfKind .task "file" := ⟨.task "file", by simp [choice], rfl, rfl⟩
  obtain ⟨templates, compiled, ordering⟩ := ordering_exact choice valid
  exact ⟨valid, post, file, choice_ordered, templates, compiled,
    (ordering "post" "file" post file).mp choice_ordered⟩

-- The archive is drawn after the draft, but behind an end.
def behindEnd : Graph where
  nodes := [.ofKind "start" .start, .task "draft", .ofKind "end" .finish, .task "archive"]
  edges := [⟨"1", "start", "draft", none⟩, ⟨"2", "draft", "end", none⟩, ⟨"3", "end", "archive", none⟩]

theorem ordering_lost_behind_end :
    behindEnd.Valid ∧ behindEnd.OfKind .task "draft" ∧ behindEnd.OfKind .task "archive" ∧
      Path behindEnd.arcs "draft" "archive" ∧
        ∃ templates, behindEnd.compile = .ok templates ∧
          ¬ Path (predecessorArcs templates) "draft" "archive" := by
  have valid : behindEnd.Valid := by
    change behindEnd.violations = []
    cbv
  have unwaited : predecessorArcs behindEnd.compileValid = [] := by cbv
  refine ⟨valid, ⟨.task "draft", by simp [behindEnd], rfl, rfl⟩,
    ⟨.task "archive", by simp [behindEnd], rfl, rfl⟩, ?_, _, behindEnd.compile_valid valid, ?_⟩
  · exact .step (y := "end") (by simp [arcs, behindEnd, Edge.arc]) trivial
      (.arc (by simp [arcs, behindEnd, Edge.arc]))
  · intro path
    obtain ⟨_, arc⟩ := path.enters
    simp [unwaited] at arc

end Workflow.Graph
