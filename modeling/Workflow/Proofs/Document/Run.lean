import Workflow.Proofs.Document.Template
import Workflow.Proofs.Process.Index

set_option autoImplicit false

namespace Workflow

open Record

def Run.Narrow (run : Run) : Prop := ∀ template ∈ run.templates, template.Narrow

def Run.reworded (run : Run) : Run :=
  { run with templates := run.templates.map TaskTemplate.reworded }

theorem history_entry_faithful : HistoryEntry.record.shape.Faithful :=
  shape_faithful (by decide) fun _ =>
    (Carries.map HistoryEntry.mk Shape.time_faithful.required)
      |>.seq (Shape.word_faithful LifecycleAction.ofName?_name).required
      |>.seq Shape.text_faithful.optional
      |>.seq Shape.text_faithful.optional

theorem process_faithful : Shape.process.Faithful :=
  shape_faithful (by decide) fun _ =>
    (Carries.map Process.mk Shape.uuid_faithful.required)
      |>.seq Shape.uuid_faithful.required
      |>.seq Shape.text_faithful.required
      |>.seq (Shape.word_faithful ProcessStatus.ofName?_name).required
      |>.seq Shape.time_faithful.required
      |>.seq Shape.time_faithful.nullableInArray
      |>.seq Shape.time_faithful.nullableInArray
      |>.seq Shape.text_faithful.required
      |>.seq Shape.text_faithful.optional
      |>.seq Shape.text_faithful.optional
      |>.seq Shape.text_faithful.optional
      |>.seq Shape.text_faithful.optional
      |>.seq (Shape.word_faithful StopType.ofName?_name).optional
      |>.seq Shape.text_faithful.optional
      |>.seq Shape.text_faithful.optional
      |>.seq Shape.time_faithful.optional
      |>.seq history_entry_faithful.listOf.withDefault

theorem task_faithful : Task.record.shape.Faithful :=
  shape_faithful (by decide) fun _ =>
    (Carries.map Task.mk Shape.uuid_faithful.required)
      |>.seq Shape.uuid_faithful.required
      |>.seq Shape.text_faithful.required
      |>.seq Shape.text_faithful.required
      |>.seq taskType_faithful.required
      |>.seq Shape.text_faithful.optional
      |>.seq (Shape.word_faithful TaskStatus.ofName?_name).required
      |>.seq Shape.text_faithful.nullableInArray
      |>.seq Shape.text_faithful.optional
      |>.seq Shape.text_faithful.optional
      |>.seq Shape.time_faithful.nullableInArray
      |>.seq Shape.time_faithful.nullableInArray
      |>.seq Shape.time_faithful.nullableInArray
      |>.seq Shape.time_faithful.nullableInArray
      |>.seq Shape.time_faithful.nullableInArray

theorem run_carries (run : Run) (narrow : run.Narrow) :
    Run.record.shape.Carries run run.reworded :=
  shape_carries (by decide) <|
    (Carries.map Run.mk process_faithful.required)
      |>.seq task_faithful.listOf.required
      |>.seq (required_carries (task_templates_carry _ narrow))

theorem reworded_run_iff (run : Run) : run.reworded = run ↔ CleanIds run.templates := by
  rw [← reworded_templates_iff]
  constructor
  · exact fun same => congrArg Run.templates same
  · intro same
    rw [Run.reworded, same]

theorem documents_exact (template : Template) (start : Run) (moves : List (Instant × Move))
    (small : template.Narrow) (narrow : start.Narrow) :
    (∃ back, Template.record.shape.decode (Template.record.shape.write template) = .ok back ∧
      back = template.reworded ∧ (back = template ↔ CleanIds template.tasks)) ∧
    let run := (start.after moves).1
    ∃ back, Run.record.shape.decode (Run.record.shape.write run) = .ok back ∧
      back = run.reworded ∧ (back = run ∧ back.index = start.index ↔ CleanIds run.templates) := by
  refine ⟨⟨_, Shape.decode_carried (template_carries template small), rfl,
    reworded_template_iff template⟩, ?_⟩
  have kept : (start.after moves).1.Narrow := by
    rw [Run.Narrow, start.after_templates moves]
    exact narrow
  refine ⟨_, Shape.decode_carried (run_carries _ kept), rfl, ?_⟩
  rw [← reworded_run_iff]
  constructor
  · exact fun exact => exact.1
  · intro same
    rw [same]
    exact ⟨rfl, start.after_index moves⟩

def leaflet : Template where
  id := ⟨1⟩
  title := "Leaflet"
  tasks := [{ id := "draft", name := "Draft" },
    { id := "print", name := "Print", predecessorIds := ["draft"], deadlineOffsetDays := some 3 }]
  createdAt := .epoch
  updatedAt := .epoch

def leafletRun : Run where
  process :=
    { id := ⟨2⟩
      templateId := leaflet.id
      title := "Spring"
      status := .active
      startAt := .epoch
      startedById := "kim" }
  tasks := [{ id := ⟨3⟩, processId := ⟨2⟩, templateId := "draft", name := "Draft", taskType := .plain
              status := .ready },
    { id := ⟨4⟩, processId := ⟨2⟩, templateId := "print", name := "Print", taskType := .plain
      status := .waiting }]
  templates := leaflet.tasks

theorem documents_exact_leaflet :
    leaflet.Narrow ∧ leafletRun.Narrow ∧
      Template.record.shape.decode (Template.record.shape.write leaflet) = .ok leaflet ∧
      let run := (leafletRun.after [(.epoch, .complete ⟨3⟩)]).1
      Run.record.shape.decode (Run.record.shape.write run) = .ok run := by
  have narrow : leafletRun.Narrow :=
    List.forall_mem_cons.mpr ⟨⟨by decide, by decide⟩,
      List.forall_mem_singleton.mpr ⟨by decide, by decide⟩⟩
  have small : leaflet.Narrow := ⟨narrow, List.forall_mem_nil _⟩
  have clean : CleanIds leaflet.tasks := by
    unfold CleanIds
    decide
  obtain ⟨⟨_, read, _, same⟩, ⟨_, readRun, _, sameRun⟩⟩ :=
    documents_exact leaflet leafletRun [(.epoch, .complete ⟨3⟩)] small narrow
  rw [same.mpr clean] at read
  rw [leafletRun.after_templates] at sameRun
  rw [(sameRun.mpr clean).1] at readRun
  exact ⟨small, narrow, read, readRun⟩

end Workflow
