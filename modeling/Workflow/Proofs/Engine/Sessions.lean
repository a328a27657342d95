import Mathlib
import Workflow.Proofs.Engine.Interchange

set_option autoImplicit false

namespace Workflow

open Engine (Setting Answer Call)

theorem session_append {σ : Type} (engine : Engine σ) (world : World σ)
    (calls more : List (Instant × Call)) :
    engine.session world (calls ++ more) =
      ((engine.session world calls).1 ++ (engine.session (engine.session world calls).2 more).1,
        (engine.session (engine.session world calls).2 more).2) := by
  induction calls generalizing world with
  | nil => rfl
  | cons first rest ih =>
      obtain ⟨time, before⟩ := first
      simp only [List.cons_append, Engine.session, ih]

theorem session_concat {σ : Type} (engine : Engine σ) (world : World σ)
    (calls : List (Instant × Call)) (now : Instant) (call : Call) :
    engine.session world (calls ++ [(now, call)]) =
      ((engine.session world calls).1 ++
          [(engine.performAt (engine.session world calls).2 now call).1],
        (engine.performAt (engine.session world calls).2 now call).2) :=
  session_append engine world calls [(now, call)]

def Engine.Answer.reading : Answer → Option (Call × Answer)
  | .template given => some (.template given.id, .template given)
  | .started given => some (.run given.run.id, .run given.run)
  | .run given => some (.run given.id, .run given)
  | _ => none

section Sessions

variable {setting : Setting}

structure Agreed (setting : Setting) (tabled : List (Except Error Answer) × World Tables)
    (shelved : List (Except Error Answer) × World Shelf) : Prop where
  answers : tabled.1 = shelved.1
  coupled : Coupled tabled.2 shelved.2
  sound : Sound setting shelved.2
  shown : ∀ answer, shelved.1.getLast? = some (.ok answer) → Shows shelved.2.store answer

theorem outset_agreed : Agreed setting ([], Engine.outset {}) ([], Engine.outset {}) where
  answers := rfl
  coupled := ⟨⟨rfl, rfl, rfl, [], rfl, rfl⟩, rfl, rfl, rfl⟩
  sound := by constructor <;> simp [Engine.outset]
  shown := by simp

theorem session_agreed (calls : List (Instant × Call))
    (portable : ∀ call ∈ calls, call.2.Portable setting.config)
    (distinct : Set.InjOn setting.ids
      (Set.Iic (setting.shelved.session (Engine.outset {}) calls).2.drawn)) :
    Agreed setting (setting.tabled.session (Engine.outset {}) calls)
      (setting.shelved.session (Engine.outset {}) calls) := by
  induction calls using List.reverseRecOn with
  | nil => exact outset_agreed
  | append_singleton calls last ih =>
      obtain ⟨now, call⟩ := last
      rw [List.forall_mem_append, List.forall_mem_singleton] at portable
      rw [session_concat] at distinct
      have grown := perform_grows setting.shelved
        (setting.shelved.session (Engine.outset {}) calls).2 now call
      have before := ih portable.1 (distinct.mono (Set.Iic_subset_Iic.mpr grown))
      obtain ⟨last, same, still, left⟩ := perform_ends before.sound
        (fresh_of_distinct distinct grown) now call portable.2 before.coupled
      rw [session_concat, session_concat, same, before.answers]
      refine ⟨rfl, still, leaves_sound left, fun answer ends => leaves_shown left ?_⟩
      simpa using ends

end Sessions

section Reading

variable {setting : Setting} {world : World Shelf}

theorem found_answered {α : Type} {tabled : Act Tables α} {shelved : Act Shelf α} {error : Error}
    {found : Option α} {a : α} (f : α → Answer)
    (act : Lockstep tabled shelved world (Lockstep.Ending (foundOr error found) world))
    (stored : found = some a) : ((f <$> shelved).run world).1 = .ok (f a) := by
  rw [Lockstep.act_map_run, act.ends.1, stored]
  rfl

theorem reading_answered (sound : Sound setting world) {answer shown : Answer} {again : Call}
    (shows : Shows world.store answer) (read : answer.reading = some (again, shown)) (now : Instant) :
    (setting.shelved.performAt world now again).1 = .ok shown := by
  have here := later_sound sound now
  cases answer with
  | template given =>
      cases read
      exact found_answered .template (template_ends here given.id) shows
  | started given =>
      cases read
      exact found_answered .run (run_ends here given.run.id) shows
  | run given =>
      cases read
      exact found_answered .run (run_ends here given.id) shows
  | _ => cases read

theorem reading_portable {answer shown : Answer} {again : Call} (config : Config)
    (read : answer.reading = some (again, shown)) : again.Portable config := by
  cases answer <;> cases read <;> trivial

end Reading

theorem stores_agree (setting : Setting) (calls : List (Instant × Call))
    (portable : ∀ call ∈ calls, call.2.Portable setting.config)
    (distinct : Set.InjOn setting.ids
      (Set.Iic (setting.shelved.session (Engine.outset {}) calls).2.drawn)) :
    let tabled := setting.tabled.session (Engine.outset {}) calls
    let shelved := setting.shelved.session (Engine.outset {}) calls
    tabled.1 = shelved.1 ∧ tabled.2.published = shelved.2.published ∧
      ∀ answer again shown now, tabled.1.getLast? = some (.ok answer) →
        answer.reading = some (again, shown) →
        (setting.tabled.performAt tabled.2 now again).1 = .ok shown := by
  have agreed := session_agreed calls portable distinct
  refine ⟨agreed.answers, agreed.coupled.published, fun answer again shown now last read => ?_⟩
  have shows := agreed.shown answer (agreed.answers ▸ last)
  obtain ⟨_, same, -, -⟩ := perform_ends agreed.sound (fresh_of_distinct distinct le_rfl) now again
    (reading_portable setting.config read) agreed.coupled
  rw [same]
  exact reading_answered agreed.sound shows read now

def numbered : Setting := { ids := fun number => ⟨BitVec.ofNat 128 number⟩ }

theorem numbered_apart (drawn : Nat) (small : drawn < 2 ^ 128) :
    Set.InjOn numbered.ids (Set.Iic drawn) := by
  intro first low second less same
  have equal := congrArg (fun id : Uuid => id.value.toNat) same
  simp only [numbered, BitVec.toNat_ofNat, Set.mem_Iic] at equal low less
  omega

def chainGraph (id : String) : Graph where
  nodes := [.ofKind "start" .start, .ofKind id .task, .ofKind "c" .task]
  edges := [⟨"1", "start", id, none⟩, ⟨"2", id, "c", none⟩]

def chainTasks (id : String) (predecessorIds : List String) : List TaskTemplate :=
  [{ id, name := id }, { id := "c", name := "c", predecessorIds, orderHint := 1 }]

def chainDraft (id : String) : Draft := { title := "Release", graph := some (chainGraph id) }

def releaseCalls : List (Instant × Call) :=
  [(.epoch, .saveTemplate (chainDraft "a")),
    (.epoch, .start { templateId := ⟨0⟩, title := "Run", startedById := "owner" }),
    (.epoch, .move ⟨1⟩ (.complete ⟨2⟩))]

def releaseRun : Run where
  process :=
    { id := ⟨1⟩
      templateId := ⟨0⟩
      title := "Run"
      status := .active
      startAt := .epoch
      startedById := "owner"
      history := [{ time := .epoch, action := .started, actorId := some "owner" }] }
  tasks := [{ id := ⟨2⟩, processId := ⟨1⟩, templateId := "a", name := "a", taskType := .plain
              status := .completed, actualStartAt := some .epoch, actualEndAt := some .epoch },
    { id := ⟨3⟩, processId := ⟨1⟩, templateId := "c", name := "c", taskType := .plain
      status := .ready }]
  templates := chainTasks "a" ["a"]

theorem release_portable : ∀ call ∈ releaseCalls, call.2.Portable numbered.config := by
  have accepted : (chainDraft "a").checked {} = .ok (chainGraph "a", chainTasks "a" ["a"]) := by cbv
  have clean : CleanIds (chainTasks "a" ["a"]) := by
    unfold CleanIds
    decide
  refine List.forall_mem_cons.mpr ⟨fun graph tasks given => ?_,
    List.forall_mem_cons.mpr ⟨trivial, List.forall_mem_singleton.mpr trivial⟩⟩
  rw [show (chainDraft "a").checked numbered.config = _ from accepted] at given
  cases given
  exact ⟨clean, by decide⟩

theorem release_apart : Set.InjOn numbered.ids
    (Set.Iic (numbered.shelved.session (Engine.outset {}) releaseCalls).2.drawn) := by
  have drawn : (numbered.shelved.session (Engine.outset {}) releaseCalls).2.drawn = 4 := by cbv
  rw [drawn]
  exact numbered_apart 4 (by decide)

theorem stores_agree_release :
    (∀ call ∈ releaseCalls, call.2.Portable numbered.config) ∧
      Set.InjOn numbered.ids
        (Set.Iic (numbered.shelved.session (Engine.outset {}) releaseCalls).2.drawn) ∧
      let tabled := numbered.tabled.session (Engine.outset {}) releaseCalls
      tabled.1 = (numbered.shelved.session (Engine.outset {}) releaseCalls).1 ∧
        (numbered.tabled.performAt tabled.2 .epoch (.run ⟨1⟩)).1 = .ok (.run releaseRun) := by
  have last : (numbered.shelved.session (Engine.outset {}) releaseCalls).1.getLast? =
      some (.ok (.run releaseRun)) := by cbv
  obtain ⟨same, -, reading⟩ := stores_agree numbered releaseCalls release_portable release_apart
  exact ⟨release_portable, release_apart, same, reading _ _ _ .epoch (same ▸ last) rfl⟩

theorem tabled_template_reworded (setting : Setting) (world : World Tables)
    (exist : world.store.exist = true) (willing : world.store.refusal = none) (id : Uuid)
    {template : Template} (held : world.store.templates.find? (·.id = id) = some template.row)
    (narrow : template.Narrow) (now : Instant) :
    (setting.tabled.performAt world now (.template id)).1 = .ok (.template template.reworded) := by
  have found := template_run world.store exist willing id (some template) held (by simpa using narrow)
  have asked := Lockstep.ask_run ((Tables.repositoryOf .exact).template? id)
    { world with clock := now } found
  have read : (setting.tabled.template id).run { world with clock := now } = (.ok template.reworded, _) :=
    access_bind_ok _ _ _ _ _ asked
  change ((Answer.template <$> setting.tabled.template id).run { world with clock := now }).1 = _
  rw [Lockstep.act_map_run, read]
  rfl

def commaTemplate : Template :=
  (chainDraft "a,b").template (chainGraph "a,b") (chainTasks "a,b" ["a,b"]) ⟨0⟩ .epoch .epoch

def rereadCalls : List (Instant × Call) :=
  [(.epoch, .saveTemplate (chainDraft "a,b")), (.epoch, .template ⟨0⟩)]

-- A task waits for one with a comma in its id: the tables read back that it waits for two.
theorem stores_differ_at_comma :
    (numbered.shelved.session (Engine.outset {}) rereadCalls).1 =
        [.ok (.template commaTemplate), .ok (.template commaTemplate)] ∧
      (numbered.tabled.session (Engine.outset {}) rereadCalls).1 =
        [.ok (.template commaTemplate),
          .ok (.template { commaTemplate with tasks := chainTasks "a,b" ["a", "b"] })] ∧
      (numbered.tabled.session (Engine.outset {}) rereadCalls).1 ≠
        (numbered.shelved.session (Engine.outset {}) rereadCalls).1 := by
  have accepted : (chainDraft "a,b").checked {} =
      .ok (chainGraph "a,b", chainTasks "a,b" ["a,b"]) := by cbv
  have split : commaTemplate.reworded =
      { commaTemplate with tasks := chainTasks "a,b" ["a", "b"] } := by cbv
  let stored : World Tables :=
    { store := { templates := [commaTemplate.row], log := [(.upsertTemplate commaTemplate.row, false)] }
      clock := .epoch
      drawn := 1 }
  have saved : numbered.tabled.performAt (Engine.outset {}) .epoch (.saveTemplate (chainDraft "a,b")) =
      (.ok (.template commaTemplate), stored) := by
    unfold Engine.performAt Engine.perform Engine.answer Engine.saveTemplate
    dsimp only
    rw [show (chainDraft "a,b").checked numbered.tabled.config = _ from accepted]
    rfl
  have narrow : commaTemplate.Narrow :=
    ⟨List.forall_mem_cons.mpr ⟨⟨by decide, by decide⟩,
      List.forall_mem_singleton.mpr ⟨by decide, by decide⟩⟩, by decide⟩
  have read := tabled_template_reworded numbered stored rfl rfl ⟨0⟩ rfl narrow .epoch
  have shelved : (numbered.shelved.session (Engine.outset {}) rereadCalls).1 =
      [.ok (.template commaTemplate), .ok (.template commaTemplate)] := by cbv
  have tabled : (numbered.tabled.session (Engine.outset {}) rereadCalls).1 =
      [.ok (.template commaTemplate), .ok (.template commaTemplate.reworded)] := by
    simp only [rereadCalls, Engine.session, saved, read]
  rw [shelved, tabled, split]
  refine ⟨rfl, rfl, ?_⟩
  decide

end Workflow
