import Workflow.Proofs.Document.Record

set_option autoImplicit false

namespace Workflow

open Record

-- Offsets and order hints are words of 32 bits.
def Narrow (n : Option Nat) : Prop := ∀ value, n = some value → value < 2 ^ 32

instance (n : Option Nat) : Decidable (Narrow n) :=
  match n with
  | none => .isTrue nofun
  | some value => decidable_of_iff (value < 2 ^ 32) (by simp [Narrow])

structure TaskTemplate.Narrow (template : TaskTemplate) : Prop where
  offset : Workflow.Narrow template.deadlineOffsetDays
  hint : template.orderHint < 2 ^ 32

structure Template.Narrow (template : Template) : Prop where
  tasks : ∀ task ∈ template.tasks, task.Narrow
  nodes : ∀ node ∈ template.graph.nodes, Workflow.Narrow node.deadlineOffsetDays

def TaskTemplate.reworded (template : TaskTemplate) : TaskTemplate :=
  { template with predecessorIds := Text.listed (Text.joinCommas template.predecessorIds) }

def Template.reworded (template : Template) : Template :=
  { template with tasks := template.tasks.map TaskTemplate.reworded }

def CleanIds (templates : List TaskTemplate) : Prop :=
  ∀ template ∈ templates, ∀ id ∈ template.predecessorIds, Text.Clean id

theorem reworded_iff (template : TaskTemplate) :
    template.reworded = template ↔ ∀ id ∈ template.predecessorIds, Text.Clean id := by
  rw [← Text.listed_joinCommas_iff]
  constructor
  · exact fun same => congrArg TaskTemplate.predecessorIds same
  · intro same
    rw [TaskTemplate.reworded, same]

theorem reworded_templates_iff (templates : List TaskTemplate) :
    templates.map TaskTemplate.reworded = templates ↔ CleanIds templates := by
  induction templates with
  | nil => simp [CleanIds]
  | cons first rest ih =>
      rw [CleanIds, List.forall_mem_cons, ← CleanIds, ← ih, ← reworded_iff, List.map_cons,
        List.cons.injEq]

theorem optional_narrow {ρ : Type} {key : String} {get : ρ → Option Nat} {r : ρ}
    (narrow : Narrow (get r)) : (optional key get Shape.word32).Carries r (get r) :=
  optional_carries (fun n => show Shape.word32.write n ≠ .null from nofun) fun n some =>
    Shape.word32_carries n (narrow n some)

theorem position_faithful : Position.record.shape.Faithful :=
  shape_faithful (by decide) fun _ =>
    (Carries.map Position.mk Shape.double_faithful.required).seq Shape.double_faithful.required

theorem taskType_faithful : Shape.taskType.Faithful := Shape.word_faithful TaskType.ofName?_name

theorem node_carries (node : Node) (narrow : Narrow node.deadlineOffsetDays) :
    Node.record.shape.Carries node node :=
  shape_carries (by decide) <|
    (Carries.map Node.mk Shape.text_faithful.required)
      |>.seq (Shape.word_faithful NodeKind.ofName?_name).required
      |>.seq Shape.text_faithful.optional
      |>.seq taskType_faithful.optional
      |>.seq Shape.text_faithful.optional
      |>.seq Shape.text_faithful.optional
      |>.seq Shape.text_faithful.optional
      |>.seq (optional_narrow narrow)
      |>.seq position_faithful.optional

theorem edge_faithful : Edge.record.shape.Faithful :=
  shape_faithful (by decide) fun _ =>
    (Carries.map Edge.mk Shape.text_faithful.required)
      |>.seq Shape.text_faithful.required
      |>.seq Shape.text_faithful.required
      |>.seq Shape.text_faithful.optional

theorem graph_carries (graph : Graph)
    (narrow : ∀ node ∈ graph.nodes, Narrow node.deadlineOffsetDays) :
    Graph.record.shape.Carries graph graph :=
  shape_carries (by decide) <|
    (Carries.map Graph.mk (withDefault_carries (Shape.listOf_carries
      (List.forall₂_same.mpr fun node member => node_carries node (narrow node member)))))
      |>.seq edge_faithful.listOf.withDefault

theorem task_template_carries (template : TaskTemplate) (narrow : template.Narrow) :
    TaskTemplate.record.shape.Carries template template.reworded :=
  shape_carries (by decide) <|
    (Carries.map TaskTemplate.mk Shape.text_faithful.required)
      |>.seq Shape.text_faithful.required
      |>.seq taskType_faithful.withDefault
      |>.seq Shape.text_faithful.optional
      |>.seq Shape.text_faithful.optional
      |>.seq Shape.text_faithful.optional
      |>.seq (withDefault_carries (Shape.predecessors_carries _))
      |>.seq (Shape.word_faithful PredecessorMode.ofName?_name).withDefault
      |>.seq (optional_narrow narrow.offset)
      |>.seq (withDefault_carries (Shape.word32_carries _ narrow.hint))

theorem task_templates_carry (templates : List TaskTemplate)
    (narrow : ∀ template ∈ templates, template.Narrow) :
    Shape.taskTemplates.Carries templates (templates.map TaskTemplate.reworded) :=
  Shape.listOf_carries (List.forall₂_map_right_iff.mpr (List.forall₂_same.mpr fun template member =>
    task_template_carries template (narrow template member)))

theorem template_carries (template : Template) (narrow : template.Narrow) :
    Template.record.shape.Carries template template.reworded :=
  shape_carries (by decide) <|
    (Carries.map Template.mk Shape.uuid_faithful.required)
      |>.seq Shape.text_faithful.required
      |>.seq Shape.text_faithful.withDefault
      |>.seq (Shape.word_faithful TemplateType.ofName?_name).withDefault
      |>.seq (required_carries (task_templates_carry _ narrow.tasks))
      |>.seq (withDefault_carries (graph_carries _ narrow.nodes))
      |>.seq (Shape.word_faithful Visibility.ofName?_name).withDefault
      |>.seq Shape.time_faithful.required
      |>.seq Shape.time_faithful.required

theorem reworded_template_iff (template : Template) :
    template.reworded = template ↔ CleanIds template.tasks := by
  rw [← reworded_templates_iff]
  constructor
  · exact fun same => congrArg Template.tasks same
  · intro same
    rw [Template.reworded, same]

end Workflow
