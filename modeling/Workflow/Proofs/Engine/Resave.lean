import Workflow.Proofs.Engine.HandEdits
import Workflow.Proofs.Engine.Shelved
import Workflow.Proofs.Graph.Chained

/-!
A template saved back as it is stored. Its diagram compiles again, its tasks are edits that make them
what they are, and the check has passed before, so nothing but the time of the update changes. A
template that was saved as a task list has no diagram to give back, and its empty one compiles to
nothing: it is saved back without a diagram.
-/

set_option autoImplicit false

namespace Workflow

open Engine (Setting Answer Call)

namespace Template

def draft (template : Template) : Draft where
  id := some template.id
  title := template.title
  description := template.description
  type := template.type
  graph := some template.graph
  tasks := some template.tasks
  visibility := template.visibility

def OfDiagram (template : Template) : Prop :=
  template.graph.Valid ∧
    ∃ edits, template.tasks = template.graph.compileValid.map (·.overridden edits)

end Template

theorem compile_with_tasks {graph : Graph} {config : Config} {compiled : Compiled}
    (done : graph.compileWith config = .ok compiled) :
    compiled.graph.Valid ∧ compiled.tasks = compiled.graph.compileValid :=
  (compiled.graph.compile_ok_iff compiled.tasks).mp (Graph.compile_with_own done)

theorem draft_of_diagram {draft : Draft} {config : Config} {graph : Graph} {tasks : List TaskTemplate}
    (accepted : draft.checked config = .ok (graph, tasks)) (id : Uuid)
    (createdAt updatedAt : Instant) :
    (draft.template graph tasks id createdAt updatedAt).graph = {} ∨
      (draft.template graph tasks id createdAt updatedAt).OfDiagram := by
  have made := (checked_ok accepted).1
  cases drawn : draft.graph with
  | none =>
      left
      rw [Draft.content, drawn] at made
      cases edited : draft.tasks with
      | none =>
          rw [edited] at made
          cases made
      | some listed =>
          rw [edited] at made
          cases made
          rfl
  | some diagram =>
      right
      cases edited : draft.tasks with
      | none =>
          rw [Draft.content, drawn, edited] at made
          obtain ⟨compiled, done, same⟩ := (bind_ok_iff _ _ _).mp made
          cases same
          obtain ⟨valid, tasks⟩ := compile_with_tasks done
          exact ⟨valid, [], tasks.trans (List.map_id _).symm⟩
      | some edits =>
          obtain ⟨compiled, done, -, same⟩ := (edited_content_iff config drawn edited _).mp made
          cases same
          obtain ⟨valid, tasks⟩ := compile_with_tasks done
          exact ⟨valid, edits, tasks ▸ rfl⟩

section Checks

variable {template : Template}

theorem formed_titled (formed : template.Formed) : Text.trim template.draft.title ≠ "" := by
  change Text.trim template.title ≠ ""
  rw [Ne, Text.trim_eq_empty_iff, formed.titled]
  exact Bool.false_ne_true

theorem diagram_checked (formed : template.Formed) (drawn : template.OfDiagram) (config : Config) :
    template.draft.checked config = .ok (template.graph, template.tasks) := by
  obtain ⟨valid, edits, laid⟩ := drawn
  have done := Graph.compile_with_valid valid config
  have again : template.graph.compileValid.map (·.overridden template.tasks) = template.tasks := by
    rw [laid]
    exact overridden_again _ edits (compiled_distinct done)
  refine (edited_checked_iff config rfl rfl _).mpr
    ⟨formed_titled formed, _, done, fun edit member => ?_, ?_, ?_⟩
  · rw [laid] at member
    rw [← overridden_ids _ edits]
    exact List.mem_map_of_mem member
  · rw [again]
    exact formed.accepted
  · rw [again]

-- An empty diagram compiles to nothing, not to an empty list.
theorem blank_checked (formed : template.Formed) (undrawn : template.graph = {}) (config : Config) :
    template.draft.checked config = .error (.graph [.noStart]) := by
  have refused : Graph.compileWith {} config = .error (.graph [.noStart]) := by
    cases config with
    | mk linearize limit => cases linearize <;> rfl
  have given : template.draft.graph = some {} := congrArg some undrawn
  have edits : template.draft.tasks = some template.tasks := rfl
  rw [Draft.checked, if_neg (formed_titled formed), Draft.content, given, edits]
  dsimp only
  rw [refused]
  rfl

theorem listed_checked (formed : template.Formed) (undrawn : template.graph = {}) (config : Config) :
    { template.draft with graph := none : Draft }.checked config =
      .ok (template.graph, template.tasks) := by
  rw [Draft.checked, if_neg (formed_titled formed), undrawn]
  change (check template.tasks >>= fun _ => Except.ok (({} : Graph), template.tasks)) = _
  rw [formed.accepted]
  rfl

end Checks

theorem save_named_run (setting : Setting) (world : World Shelf) {draft : Draft} {id : Uuid}
    {graph : Graph} {tasks : List TaskTemplate} {old : Template} (named : draft.id = some id)
    (accepted : draft.checked setting.config = .ok (graph, tasks))
    (held : world.store.template? id = some old) :
    let saved := draft.template graph tasks id old.createdAt world.clock
    setting.shelved.perform (.saveTemplate draft) world =
      (.ok (.template saved), { world with store := world.store.putTemplate saved }) := by
  intro saved
  have same : setting.shelved.config = setting.config := rfl
  have found : (setting.shelved.template id).run world = (.ok old, world) := by
    rw [template_looks, held]
    rfl
  have told := access_bind_ok _ (fun old => do
    let saved := draft.template graph tasks id old.createdAt world.clock
    Engine.ask (setting.shelved.repository.saveTemplate saved)
    return saved) world world old found
  change (Answer.template <$> setting.shelved.saveTemplate draft).run world = _
  rw [Lockstep.act_map_run, Engine.saveTemplate, named, same, accepted]
  exact congrArg (fun ended => (ended.1.map Answer.template, ended.2)) told

def World.renewed (world : World Shelf) (template : Template) (now : Instant) : World Shelf :=
  { world with
    clock := now
    store := { world.store with
      templates := world.store.templates.map fun other =>
        if other.id = template.id then { template with updatedAt := now } else other } }

theorem resave_run (setting : Setting) {world : World Shelf} (now : Instant) {template : Template}
    (stored : template ∈ world.store.templates) (distinct : world.store.Distinct)
    (formed : template.Formed) (graph : Option Graph)
    (accepted : { template.draft with graph : Draft }.checked setting.config =
      .ok (template.graph, template.tasks)) :
    setting.shelved.performAt world now (.saveTemplate { template.draft with graph }) =
      (.ok (.template { template with updatedAt := now }), world.renewed template now) := by
  have held : world.store.template? template.id = some template :=
    find_key Template.id _ template distinct.templates stored
  have title : Text.trim template.title = template.title := formed.trimmed
  have same : { template.draft with graph : Draft }.template template.graph template.tasks template.id
      template.createdAt now = { template with updatedAt := now } := by
    change { template with title := Text.trim template.title, updatedAt := now } = _
    rw [title]
  have put : putEntry Template.id { template with updatedAt := now } world.store.templates = _ :=
    put_over distinct.templates stored rfl
  have run := save_named_run setting { world with clock := now } rfl accepted held
  rw [Engine.performAt, run, same, Shelf.putTemplate, put]
  rfl

theorem resave_exact (setting : Setting) (calls : List (Instant × Call)) (template : Template)
    (stored : template ∈ (setting.left calls).store.templates) (config : Config) (now : Instant) :
    let world := setting.left calls
    let resave (draft : Draft) :=
      { setting with config : Setting }.shelved.performAt world now (.saveTemplate draft)
    let renewed := (.ok (.template { template with updatedAt := now }), world.renewed template now)
    (template.graph ≠ {} → resave template.draft = renewed) ∧
      (template.graph = {} →
        resave template.draft = (.error (.graph [.noStart]), { world with clock := now }) ∧
          resave { template.draft with graph := none } = renewed) := by
  intro world resave renewed
  have formed : template.Formed := ((stored_formed setting calls).1 template stored).formed
  have distinct := left_distinct setting calls
  refine ⟨fun drawn => ?_, fun undrawn => ⟨?_, ?_⟩⟩
  · have made : template.graph = {} ∨ template.OfDiagram :=
      left_made setting calls (fun template => template.graph = {} ∨ template.OfDiagram)
        (fun _ _ _ id createdAt updatedAt accepted => draft_of_diagram accepted id createdAt updatedAt)
        template stored
    exact resave_run { setting with config } now stored distinct formed (some template.graph)
      (diagram_checked formed (made.resolve_left drawn) config)
  · have refused := blank_checked formed undrawn config
    change (Answer.template <$> ({ setting with config : Setting }.shelved.saveTemplate _)).run _ = _
    rw [Lockstep.act_map_run, Engine.saveTemplate,
      show ({ setting with config : Setting }.shelved).config = config from rfl, refused]
    rfl
  · exact resave_run { setting with config } now stored distinct formed none
      (listed_checked formed undrawn config)

def turnedDraft : Draft where
  title := " Steps "
  graph := some Graph.stepList
  tasks := some [{ id := "draft", name := "other", predecessorIds := ["review"] },
    { id := "review", name := "other" }]

def turnedTemplate : Template where
  id := ⟨0⟩
  title := "Steps"
  tasks := [{ id := "draft", name := "draft", predecessorIds := ["review"] },
    { id := "review", name := "review", orderHint := 1 }]
  graph := Graph.stepList.chained
  createdAt := .epoch
  updatedAt := .epoch

def resaveTime : Instant := ⟨60, 0, by decide⟩

def turnedCalls : List (Instant × Call) := [(.epoch, .saveTemplate turnedDraft)]

theorem turned_left : (numbered.left turnedCalls).store.templates = [turnedTemplate] := by cbv

theorem resave_exact_turned :
    let world := numbered.left turnedCalls
    let plain : Setting := { numbered with config := { autoLinearize := false } }
    turnedTemplate ∈ world.store.templates ∧ turnedTemplate.graph ≠ {} ∧
      plain.shelved.performAt world resaveTime (.saveTemplate turnedTemplate.draft) =
        (.ok (.template { turnedTemplate with updatedAt := resaveTime }),
          world.renewed turnedTemplate resaveTime) := by
  have stored : turnedTemplate ∈ (numbered.left turnedCalls).store.templates := by
    rw [turned_left]
    exact List.mem_singleton_self _
  have drawn : turnedTemplate.graph ≠ {} := by decide
  obtain ⟨renewed, -⟩ := resave_exact numbered turnedCalls turnedTemplate stored
    { autoLinearize := false } resaveTime
  exact ⟨stored, drawn, renewed drawn⟩

def listDraft : Draft := { title := "Checklist", tasks := some (chainTasks "a" ["a"]) }

def listTemplate : Template where
  id := ⟨0⟩
  title := "Checklist"
  tasks := chainTasks "a" ["a"]
  createdAt := .epoch
  updatedAt := .epoch

def listCalls : List (Instant × Call) := [(.epoch, .saveTemplate listDraft)]

theorem list_left : (numbered.left listCalls).store.templates = [listTemplate] := by cbv

theorem resave_refused_list :
    listTemplate ∈ (numbered.left listCalls).store.templates ∧
      (numbered.shelved.performAt (numbered.left listCalls) resaveTime
        (.saveTemplate listTemplate.draft)).1 = .error (.graph [.noStart]) := by
  have stored : listTemplate ∈ (numbered.left listCalls).store.templates := by
    rw [list_left]
    exact List.mem_singleton_self _
  exact ⟨stored, by cbv⟩

end Workflow
