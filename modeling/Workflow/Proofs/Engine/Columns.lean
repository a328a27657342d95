import Workflow.Proofs.Document.Decoded
import Workflow.Proofs.Engine.Contents
import Workflow.Proofs.Engine.Sessions

set_option autoImplicit false

namespace Workflow

open Engine (Setting Answer Call)

section Acts

variable {setting : Setting} {seen : Contents} {α : Type}

theorem except_concludes (answer : Except Error α) :
    Concludes World.contents (liftExcept answer : Act Tables α) seen
      fun a later => answer = .ok a ∧ later = seen := by
  intro world same
  rw [except_run]
  cases answer with
  | error _ => exact same
  | ok _ => exact ⟨rfl, same⟩

theorem now_concludes : Concludes World.contents (Engine.now : Act Tables Instant) seen
    fun _ later => True ∧ later = seen := fun _ same => ⟨trivial, same⟩

theorem supply_concludes (engine : Engine Tables) :
    Concludes World.contents engine.supply seen
      fun ids later => (ids = fun number => engine.ids (seen.drawn + number)) ∧ later = seen := by
  rintro world rfl
  exact ⟨rfl, rfl⟩

theorem draw_succeeds (count : Nat) :
    Succeeds World.contents (Engine.draw count : Act Tables Unit) seen
      fun _ later => later = { seen with drawn := seen.drawn + count } := by
  rintro world rfl
  exact ⟨(), _, draw_run count world, rfl⟩

theorem publish_succeeds (engine : Engine Tables) (events : List Event) :
    Succeeds World.contents (engine.publish events) seen fun _ later => later = seen := by
  rintro world rfl
  exact ⟨(), _, publish_run engine events world, rfl⟩

theorem ask_looks {access : Access Tables α} {good : α → Prop}
    (looked : Concludes Tables.rows access seen.rows fun a later => good a ∧ later = seen.rows) :
    Concludes World.contents (Engine.ask access) seen fun a later => good a ∧ later = seen := by
  refine (ask_concludes looked).imp fun a later => ?_
  rintro ⟨rows, ⟨known, rfl⟩, rfl⟩
  exact ⟨known, rfl⟩

theorem template_concludes (id : Uuid) :
    Concludes World.contents (setting.tabled.template id) seen fun template later =>
      (∃ row, seen.rows.templates.find? (·.id = id) = some row ∧ row.template = .ok template) ∧
        later = seen := by
  refine .look (ask_looks (find_template_concludes id)) fun found known => ?_
  cases found with
  | none => exact fun _ same => same
  | some template => exact .of_succeeds (.returned template ⟨known template rfl, rfl⟩)

theorem run_concludes (id : Uuid) :
    Concludes World.contents (setting.tabled.run id) seen fun run later =>
      (∃ row, seen.rows.runs.find? (·.id = id) = some row ∧ row.run = .ok run) ∧ later = seen := by
  refine .look (ask_looks (find_run_concludes id)) fun found known => ?_
  cases found with
  | none => exact fun _ same => same
  | some run => exact .of_succeeds (.returned run ⟨known run rfl, rfl⟩)

theorem runs_conclude (status : Option ProcessStatus) :
    Concludes World.contents (setting.tabled.runs status) seen
      fun _ later => True ∧ later = seen :=
  ask_looks ((list_runs_concludes status).imp fun _ _ same => ⟨trivial, same⟩)

theorem templates_conclude :
    Concludes World.contents setting.tabled.templates seen fun _ later => True ∧ later = seen :=
  ask_looks (list_templates_concludes.imp fun _ _ same => ⟨trivial, same⟩)

theorem summary_concludes :
    Concludes World.contents setting.tabled.summary seen fun _ later => later = seen := by
  refine .look (runs_conclude (some .active)) fun _ _ => ?_
  refine .look (runs_conclude (some .suspended)) fun _ _ => ?_
  exact .look now_concludes fun _ _ => .of_succeeds (.returned _ rfl)

end Acts

structure Held (setting : Setting) (seen : Contents) (templates : List Template)
    (saved : List Saved) : Prop where
  exist : seen.rows.exist = true
  templateRows : seen.rows.templates = templates.map Template.row
  runRows : seen.rows.runs = saved.map Saved.row
  templateIds : ∀ template ∈ templates, ∃ number < seen.drawn, template.id = setting.ids number
  runIds : ∀ entry ∈ saved, ∃ number < seen.drawn, entry.1.id = setting.ids number
  narrow : ∀ entry ∈ saved, entry.1.Narrow

def Contents.Aligned (setting : Setting) (seen : Contents) : Prop :=
  ∃ templates saved, Held setting seen templates saved

theorem reworded_narrow {run : Run} (narrow : run.Narrow) : run.reworded.Narrow := by
  intro template member
  obtain ⟨before, among, rfl⟩ := List.mem_map.mp member
  exact ⟨(narrow before among).1, (narrow before among).2⟩

namespace Held

variable {setting : Setting} {seen : Contents} {templates : List Template} {saved : List Saved}
  {drawn : Nat}

theorem put_template (held : Held setting seen templates saved) (template : Template)
    (kept : ∀ other, templates.find? (·.id = template.id) = some other →
      other.createdAt = template.createdAt)
    (grown : seen.drawn ≤ drawn) (known : ∃ number < drawn, template.id = setting.ids number) :
    Contents.Aligned setting
      ⟨{ seen.rows with
        templates := Tables.overwriteTemplate template.row seen.rows.templates }, drawn⟩ := by
  refine ⟨putEntry Template.id template templates, saved, held.exist, ?_, held.runRows,
    fun other member => ?_, fun entry member => known_id (held.runIds entry member) grown,
    held.narrow⟩
  · rw [held.templateRows]
    exact overwrite_template template templates kept
  · rcases mem_put member with same | before
    · exact same ▸ known
    · exact known_id (held.templateIds other before) grown

theorem put_run (held : Held setting seen templates saved) (run : Run) (savedAt : Instant)
    (kept : ∀ other, (saved.map (·.1)).find? (·.id = run.id) = some other → run.SameStart other)
    (narrow : run.Narrow) (grown : seen.drawn ≤ drawn)
    (known : ∃ number < drawn, run.id = setting.ids number) :
    Contents.Aligned setting
      ⟨{ seen.rows with runs := Tables.overwriteRun (run.row savedAt) seen.rows.runs }, drawn⟩ := by
  obtain ⟨later, rows, put⟩ := overwrite_run run savedAt saved kept
  have among (entry : Saved) (member : entry ∈ later) :
      entry.1 = run ∨ ∃ before ∈ saved, before.1 = entry.1 := by
    have listed : entry.1 ∈ putEntry Run.id run (saved.map (·.1)) :=
      put ▸ List.mem_map_of_mem member
    exact (mem_put listed).imp id List.mem_map.mp
  refine ⟨templates, later, held.exist, held.templateRows, ?_,
    fun template member => known_id (held.templateIds template member) grown,
    fun entry member => ?_, fun entry member => ?_⟩
  · rw [held.runRows]
    exact rows
  · rcases among entry member with same | ⟨before, there, same⟩
    · exact same ▸ known
    · exact same ▸ known_id (held.runIds before there) grown
  · rcases among entry member with same | ⟨before, there, same⟩
    · exact same ▸ narrow
    · exact same ▸ held.narrow before there

theorem remove_template (held : Held setting seen templates saved) (id : Uuid) :
    Contents.Aligned setting
      { seen with rows := { seen.rows with templates := seen.rows.templates.filter (·.id ≠ id) } } := by
  refine ⟨templates.filter (·.id ≠ id), saved, held.exist, ?_, held.runRows,
    fun template member => held.templateIds template (List.mem_of_mem_filter member), held.runIds,
    held.narrow⟩
  rw [held.templateRows, List.filter_map]
  rfl

theorem found_template (held : Held setting seen templates saved) {id : Uuid} {template : Template}
    (found : ∃ row, seen.rows.templates.find? (·.id = id) = some row ∧ row.template = .ok template) :
    ∃ old, templates.find? (·.id = id) = some old ∧ old.Alike template ∧
      ∀ task ∈ template.tasks, task.Narrow := by
  obtain ⟨row, listed, read⟩ := found
  rw [held.templateRows, List.find?_map] at listed
  obtain ⟨old, there, rfl⟩ := Option.map_eq_some_iff.mp listed
  exact ⟨old, there, template_read read⟩

theorem found_run (held : Held setting seen templates saved) {id : Uuid} {run : Run}
    (found : ∃ row, seen.rows.runs.find? (·.id = id) = some row ∧ row.run = .ok run) :
    ∃ entry ∈ saved, (saved.map (·.1)).find? (·.id = id) = some entry.1 ∧
      run = entry.1.reworded := by
  obtain ⟨row, listed, read⟩ := found
  rw [held.runRows, List.find?_map] at listed
  obtain ⟨entry, there, rfl⟩ := Option.map_eq_some_iff.mp listed
  have member := List.mem_of_find?_eq_some there
  rw [Saved.row, run_row_reworded entry.1 entry.2 (held.narrow entry member)] at read
  cases read
  refine ⟨entry, member, ?_, rfl⟩
  rw [List.find?_map]
  exact congrArg (Option.map (·.1)) there

end Held

section Operations

variable {setting : Setting} {seen : Contents}

theorem move_concludes (aligned : seen.Aligned setting) (id : Uuid) (move : Move) :
    Concludes World.contents (setting.tabled.move id move) seen
      fun _ later => later.Aligned setting := by
  obtain ⟨templates, saved, held⟩ := aligned
  refine .look (run_concludes id) fun run found => ?_
  refine .look now_concludes fun now _ => ?_
  refine .look (except_concludes (run.apply now move)) ?_
  rintro ⟨next, events⟩ moved
  obtain ⟨entry, member, stored, rfl⟩ := held.found_run found
  have own : entry.1.id = id := found_key stored
  have sameId : next.id = entry.1.id := (Run.move_own moved :)
  have kept : ∀ other, (saved.map (·.1)).find? (·.id = next.id) = some other →
      next.SameStart other := by
    intro other listed
    rw [sameId, own, stored] at listed
    cases listed
    exact (Run.move_same_start moved :)
  have narrow : next.Narrow := by
    rw [Run.Narrow, Run.move_tasks moved]
    exact reworded_narrow (held.narrow entry member)
  have put := held.put_run next now kept narrow le_rfl (sameId ▸ held.runIds entry member)
  refine .write (ask_concludes (write_run_concludes next now)) fun _ middle wrote => ?_
  obtain ⟨_, rfl, rfl⟩ := wrote
  refine (publish_succeeds _ events).bind fun _ later same => ?_
  exact .returned next (same ▸ put)

theorem start_concludes (aligned : seen.Aligned setting)
    (fresh : ∀ number < seen.drawn, setting.ids number ≠ setting.ids seen.drawn)
    (request : StartRequest) :
    Concludes World.contents (setting.tabled.start request) seen
      fun _ later => later.Aligned setting := by
  obtain ⟨templates, saved, held⟩ := aligned
  refine .look (except_concludes request.checkWords) fun _ _ => ?_
  refine .look (template_concludes request.templateId) fun template found => ?_
  refine .look (except_concludes (request.check template setting.config.maxFanOut)) fun _ _ => ?_
  refine .look (except_concludes (request.staff setting.directory template.tasks)) ?_
  rintro ⟨seeds, warnings⟩ _
  refine .look now_concludes fun now _ => ?_
  refine .look (supply_concludes setting.tabled) fun ids supplied => ?_
  refine .look (except_concludes (request.launch template seeds now ids)) ?_
  rintro ⟨run, events⟩ launched
  have own : run.id = setting.ids seen.drawn := by
    rw [Run.launch_own launched, supplied]
    rfl
  -- No row is written over, for the id is a new one.
  have kept : ∀ other, (saved.map (·.1)).find? (·.id = run.id) = some other →
      run.SameStart other :=
    fun _ listed => absurd listed (fresh_unfound (List.forall_mem_map.mpr held.runIds) fresh own)
  have narrow : run.Narrow := by
    obtain ⟨_, _, _, tasks⟩ := held.found_template found
    rw [Run.Narrow, Run.launch_tasks launched]
    exact tasks
  have put := held.put_run run now kept narrow (Nat.le_add_right _ (run.tasks.length + 1))
    ⟨seen.drawn, Nat.lt_add_of_pos_right (Nat.succ_pos _), own⟩
  refine .write (ask_concludes (write_run_concludes run now)) fun _ middle wrote => ?_
  obtain ⟨_, rfl, rfl⟩ := wrote
  refine (draw_succeeds _).bind fun _ middle drawn => ?_
  refine (publish_succeeds _ events).bind fun _ later same => ?_
  exact .returned _ (same ▸ drawn ▸ put)

theorem save_template_concludes (aligned : seen.Aligned setting)
    (fresh : ∀ number < seen.drawn, setting.ids number ≠ setting.ids seen.drawn) (draft : Draft) :
    Concludes World.contents (setting.tabled.saveTemplate draft) seen
      fun _ later => later.Aligned setting := by
  obtain ⟨templates, saved, held⟩ := aligned
  refine .look (except_concludes (draft.checked setting.config)) ?_
  rintro ⟨graph, tasks⟩ _
  refine .look now_concludes fun now _ => ?_
  cases named : draft.id with
  | some id =>
      refine .look (template_concludes id) fun existing found => ?_
      obtain ⟨old, stored, alike, _⟩ := held.found_template found
      have own : old.id = id := found_key stored
      -- The write leaves the column, and the document gets the time that was read off the old one.
      have kept : ∀ other, templates.find? (·.id = id) = some other →
          other.createdAt = existing.createdAt := by
        intro other listed
        rw [stored] at listed
        cases listed
        exact alike.createdAt.symm
      have put := held.put_template (draft.template graph tasks id existing.createdAt now) kept le_rfl
        (own ▸ held.templateIds old (List.mem_of_find?_eq_some stored))
      refine .write (ask_concludes (write_template_concludes _)) fun _ later wrote => ?_
      obtain ⟨_, rfl, rfl⟩ := wrote
      exact .returned _ put
  | none =>
      refine .look (supply_concludes setting.tabled) fun ids supplied => ?_
      have own : ids 0 = setting.ids seen.drawn := by
        rw [supplied]
        rfl
      have kept : ∀ other, templates.find? (·.id = ids 0) = some other → other.createdAt = now :=
        fun _ listed => absurd listed (fresh_unfound held.templateIds fresh own)
      have put := held.put_template (draft.template graph tasks (ids 0) now now) kept
        (Nat.le_succ _) ⟨seen.drawn, Nat.lt_succ_self _, own⟩
      refine .write (ask_concludes (write_template_concludes _)) fun _ middle wrote => ?_
      obtain ⟨_, rfl, rfl⟩ := wrote
      refine (draw_succeeds 1).bind fun _ later drawn => ?_
      exact .returned _ (drawn ▸ put)

theorem delete_concludes (aligned : seen.Aligned setting) (id : Uuid) :
    Concludes World.contents (setting.tabled.deleteTemplate id) seen
      fun _ later => later.Aligned setting := by
  refine (ask_concludes (delete_template_concludes id)).step fun deleted later left => ?_
  obtain ⟨_, rfl, rfl⟩ := left
  cases deleted with
  | false => exact .inl ⟨rfl, fun _ same => same⟩
  | true =>
      obtain ⟨templates, saved, held⟩ := aligned
      exact .inr (.returned () (held.remove_template id))

theorem answer_concludes (aligned : seen.Aligned setting)
    (fresh : ∀ number < seen.drawn, setting.ids number ≠ setting.ids seen.drawn) (call : Call) :
    Concludes World.contents (setting.tabled.answer call) seen
      fun _ later => later.Aligned setting := by
  have reads {α : Type} {act : Act Tables α} {good : α → Prop} (f : α → Answer)
      (looked : Concludes World.contents act seen fun a later => good a ∧ later = seen) :
      Concludes World.contents (f <$> act) seen fun _ later => later.Aligned setting :=
    .map (looked.imp fun _ _ known => known.2 ▸ aligned)
  cases call with
  | preview graph => exact reads _ (except_concludes (graph.compileWith setting.config))
  | saveTemplate draft => exact .map (save_template_concludes aligned fresh draft)
  | template id => exact reads _ (template_concludes id)
  | templates => exact reads _ templates_conclude
  | deleteTemplate id => exact .map (delete_concludes aligned id)
  | start request => exact .map (start_concludes aligned fresh request)
  | run id => exact reads _ (run_concludes id)
  | runs status => exact reads _ (runs_conclude status)
  | move id move => exact .map (move_concludes aligned id move)
  | summary => exact reads _ (summary_concludes.imp fun _ _ same => ⟨trivial, same⟩)

end Operations

-- A call, its time, and how many statements succeed before one is refused, if any is.
structure Visit where
  refusal : Option (Nat × String) := none
  time : Instant
  call : Call

namespace Engine.Setting

def visit (setting : Setting) (world : World Tables) (visit : Visit) :
    Except Error Answer × World Tables :=
  setting.tabled.performAt { world with store := { world.store with refusal := visit.refusal } }
    visit.time visit.call

def visited (setting : Setting) (visits : List Visit) : World Tables :=
  visits.foldl (fun world visit => (setting.visit world visit).2) (Engine.outset {})

end Engine.Setting

theorem visited_concat (setting : Setting) (visits : List Visit) (visit : Visit) :
    setting.visited (visits ++ [visit]) = (setting.visit (setting.visited visits) visit).2 := by
  simp only [Engine.Setting.visited, List.foldl_concat]

theorem visited_aligned (setting : Setting) (visits : List Visit)
    (distinct : Set.InjOn setting.ids (Set.Iic (setting.visited visits).drawn)) :
    (setting.visited visits).contents.Aligned setting := by
  induction visits using List.reverseRecOn with
  | nil =>
      refine ⟨[], [], rfl, rfl, rfl, ?_, ?_, ?_⟩ <;> exact List.forall_mem_nil _
  | append_singleton visits visit ih =>
      rw [visited_concat] at distinct ⊢
      let world := setting.visited visits
      let called : World Tables :=
        { world with store := { world.store with refusal := visit.refusal } }
      have grown : world.drawn ≤ (setting.visit world visit).2.drawn :=
        perform_grows setting.tabled called visit.time visit.call
      have before := ih (distinct.mono (Set.Iic_subset_Iic.mpr grown))
      have fresh := fresh_of_distinct distinct grown
      exact Concludes.keeps { called with clock := visit.time }
        (answer_concludes before fresh visit.call) before

theorem visited_session (setting : Setting) (calls : List (Instant × Call))
    (portable : ∀ call ∈ calls, call.2.Portable setting.config)
    (distinct : Set.InjOn setting.ids
      (Set.Iic (setting.shelved.session (Engine.outset {}) calls).2.drawn)) :
    setting.visited (calls.map fun call => { time := call.1, call := call.2 }) =
      (setting.tabled.session (Engine.outset {}) calls).2 := by
  induction calls using List.reverseRecOn with
  | nil => rfl
  | append_singleton calls last ih =>
      obtain ⟨now, call⟩ := last
      rw [List.forall_mem_append] at portable
      rw [session_concat] at distinct
      have fewer := distinct.mono (Set.Iic_subset_Iic.mpr (perform_grows setting.shelved _ now call))
      have willing := (session_agreed calls portable.1 fewer).coupled.stored.willing
      rw [List.map_append, List.map_singleton, visited_concat, ih portable.1 fewer, session_concat]
      rcases here : (setting.tabled.session (Engine.outset {}) calls).2 with
        ⟨⟨exist, templates, runs, applied, refusal, log⟩, clock, published, drawn⟩
      rw [here] at willing
      cases willing
      rfl

structure RunRow.Tells (row : RunRow) (process : Process) : Prop where
  id : row.id = process.id
  templateId : row.templateId = process.templateId
  title : row.title = process.title
  status : row.status = process.status.lower
  startedById : row.startedById = process.startedById
  startAt : row.startAt = process.startAt

structure TemplateRow.Tells (row : TemplateRow) (template : Template) : Prop where
  id : row.id = template.id
  title : row.title = template.title
  templateType : row.templateType = template.type.lower
  visibility : row.visibility = template.visibility.lower
  createdAt : row.createdAt = template.createdAt
  updatedAt : row.updatedAt = template.updatedAt

def RunRow.Agrees (row : RunRow) : Prop :=
  ∃ run, row.document = Run.record.shape.write run ∧ row.Tells run.process ∧
    row.run = .ok run.reworded

-- Numbers beyond 32 bits are all that may keep a document from being read.
def TemplateRow.Agrees (row : TemplateRow) : Prop :=
  ∃ template, row.document = Template.record.shape.write template ∧ row.Tells template ∧
    (template.Narrow → row.template = .ok template.reworded) ∧
    ∀ read, row.template = .ok read → row.Tells read

theorem run_row_agrees (run : Run) (savedAt : Instant) (narrow : run.Narrow) :
    (run.row savedAt).Agrees :=
  ⟨run, rfl, ⟨rfl, rfl, rfl, rfl, rfl, rfl⟩, run_row_reworded run savedAt narrow⟩

theorem template_row_agrees (template : Template) : template.row.Agrees := by
  refine ⟨template, rfl, ⟨rfl, rfl, rfl, rfl, rfl, rfl⟩, template_row_reworded template,
    fun read given => ?_⟩
  obtain ⟨alike, -⟩ := template_read given
  exact ⟨alike.id.symm, alike.title.symm, congrArg TemplateType.lower alike.type.symm,
    congrArg Visibility.lower alike.visibility.symm, alike.createdAt.symm, alike.updatedAt.symm⟩

theorem columns_agree (setting : Setting) (visits : List Visit)
    (distinct : Set.InjOn setting.ids (Set.Iic (setting.visited visits).drawn)) :
    let world := setting.visited visits
    (∀ row ∈ world.store.runs, row.Agrees) ∧ (∀ row ∈ world.store.templates, row.Agrees) ∧
      ∃ all, world.store.runs.mapM RunRow.run = .ok all ∧ ∀ status time,
        (setting.visit world { time, call := .runs status }).1 =
          .ok (.runs (sortNewest (fun run => (run.process.startAt, run.id))
            (all.filter (Shelf.hasStatus status)))) := by
  intro world
  obtain ⟨templates, saved, held⟩ := visited_aligned setting visits distinct
  have runRows : world.store.runs = saved.map Saved.row := held.runRows
  have templateRows : world.store.templates = templates.map Template.row := held.templateRows
  refine ⟨fun row member => ?_, fun row member => ?_, saved.map fun entry => entry.1.reworded, ?_,
    fun status time => ?_⟩
  · rw [runRows] at member
    obtain ⟨entry, among, rfl⟩ := List.mem_map.mp member
    exact run_row_agrees entry.1 entry.2 (held.narrow entry among)
  · rw [templateRows] at member
    obtain ⟨template, _, rfl⟩ := List.mem_map.mp member
    exact template_row_agrees template
  · rw [runRows]
    exact read_all Saved.row (fun entry => entry.1.reworded) RunRow.run saved fun entry member =>
      run_row_reworded entry.1 entry.2 (held.narrow entry member)
  · have asked := Lockstep.ask_run ((Tables.repositoryOf .exact).runs status)
      { world with store := { world.store with refusal := none }, clock := time }
      (runs_run { world.store with refusal := none } held.exist rfl status saved runRows held.narrow)
    change ((Answer.runs <$> setting.tabled.runs status).run _).1 = _
    rw [Lockstep.act_map_run, show (setting.tabled.runs status).run _ = _ from asked]
    rfl

def refusedDelete : Visit where
  refusal := some (0, "disk full")
  time := .epoch
  call := .deleteTemplate ⟨0⟩

def releaseVisits : List Visit :=
  (releaseCalls.map fun call => { time := call.1, call := call.2 }) ++ [refusedDelete]

theorem release_contents : (numbered.visited releaseVisits).contents =
    (numbered.tabled.session (Engine.outset {}) releaseCalls).2.contents := by
  have there := (session_agreed releaseCalls release_portable release_apart).coupled.stored.exist
  rw [releaseVisits, visited_concat, visited_session _ _ release_portable release_apart]
  rcases here : (numbered.tabled.session (Engine.outset {}) releaseCalls).2 with
    ⟨⟨exist, templates, runs, applied, refusal, log⟩, clock, published, drawn⟩
  rw [here] at there
  cases there
  rfl

theorem columns_agree_release :
    Set.InjOn numbered.ids (Set.Iic (numbered.visited releaseVisits).drawn) ∧
      (∀ row ∈ (numbered.visited releaseVisits).store.runs, row.Agrees) ∧
      (∀ row ∈ (numbered.visited releaseVisits).store.templates, row.Agrees) ∧
      (numbered.visit (numbered.visited releaseVisits)
        { time := .epoch, call := .runs (some .active) }).1 = .ok (.runs [releaseRun]) := by
  have agreed := session_agreed releaseCalls release_portable release_apart
  have drawn : (numbered.visited releaseVisits).drawn =
      (numbered.shelved.session (Engine.outset {}) releaseCalls).2.drawn :=
    (congrArg Contents.drawn release_contents).trans agreed.coupled.drawn
  have distinct : Set.InjOn numbered.ids (Set.Iic (numbered.visited releaseVisits).drawn) :=
    drawn ▸ release_apart
  have kept : (numbered.shelved.session (Engine.outset {}) releaseCalls).2.store.runs =
      [releaseRun] := by cbv
  obtain ⟨saved, rows, runs⟩ := agreed.coupled.stored.runs
  rw [kept] at runs
  obtain ⟨⟨run, savedAt⟩, rfl, rfl⟩ := List.map_eq_singleton_iff.mp runs.symm
  have rows : (numbered.visited releaseVisits).store.runs = [releaseRun.row savedAt] :=
    (congrArg (·.rows.runs) release_contents).trans rows
  obtain ⟨runRows, templateRows, all, read, listed⟩ := columns_agree numbered releaseVisits distinct
  have portable := agreed.sound.runs releaseRun (kept ▸ List.mem_singleton_self releaseRun)
  rw [rows, List.mapM_cons, run_row_read releaseRun savedAt portable] at read
  cases read
  refine ⟨distinct, runRows, templateRows, (listed (some .active) .epoch).trans ?_⟩
  cbv

end Workflow
