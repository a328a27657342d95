import Workflow.Proofs.Engine.Drawn
import Workflow.Proofs.Engine.Lockstep
import Workflow.Proofs.Engine.Portable
import Workflow.Proofs.Store.Entries

set_option autoImplicit false

namespace Workflow

open Engine (Setting Answer Call)

namespace Engine.Setting

def tabled (setting : Setting) : Engine Tables := setting.over (Tables.repositoryOf .exact)

def shelved (setting : Setting) : Engine Shelf := setting.over Shelf.repository

end Engine.Setting

structure Sound (setting : Setting) (world : World Shelf) : Prop where
  templates : ∀ template ∈ world.store.templates, template.Portable
  templateIds : ∀ template ∈ world.store.templates, ∃ number < world.drawn,
    template.id = setting.ids number
  runs : ∀ run ∈ world.store.runs, run.Portable
  runIds : ∀ run ∈ world.store.runs, ∃ number < world.drawn, run.id = setting.ids number

def Fresh (setting : Setting) (world : World Shelf) : Prop :=
  ∀ number < world.drawn, setting.ids number ≠ setting.ids world.drawn

theorem fresh_of_distinct {setting : Setting} {drawn last : Nat}
    (distinct : Set.InjOn setting.ids (Set.Iic last)) (within : drawn ≤ last) :
    ∀ number < drawn, setting.ids number ≠ setting.ids drawn :=
  fun _ below same => below.ne (distinct (below.le.trans within) within same)

section Next

variable {α : Type} {setting : Setting} {key : α → Uuid} {entries : List α} {drawn : Nat}
  (known : ∀ entry ∈ entries, ∃ number < drawn, key entry = setting.ids number)
  (fresh : ∀ number < drawn, setting.ids number ≠ setting.ids drawn)
include known fresh

theorem fresh_unused : ∀ entry ∈ entries, key entry ≠ setting.ids drawn := by
  intro entry member same
  obtain ⟨number, below, own⟩ := known entry member
  exact fresh number below (own.symm.trans same)

theorem fresh_unfound {id : Uuid} (next : id = setting.ids drawn) {entry : α} :
    entries.find? (key · = id) ≠ some entry := by
  intro listed
  have own : key entry = id := found_key listed
  exact fresh_unused known fresh entry (List.mem_of_find?_eq_some listed) (own.trans next)

end Next

def Shows (shelf : Shelf) : Answer → Prop
  | .template template => shelf.template? template.id = some template
  | .started started => shelf.run? started.run.id = some started.run
  | .run run => shelf.run? run.id = some run
  | _ => True

def Leaves {α : Type} (setting : Setting) (shows : Shelf → α → Prop) :
    Except Error α → World Shelf → Prop
  | .ok a, later => Sound setting later ∧ shows later.store a
  | .error _, later => Sound setting later

def foundOr {α : Type} (error : Error) : Option α → Except Error α
  | some a => .ok a
  | none => .error error

theorem found_or_ok {α : Type} {error : Error} {found : Option α} {a : α}
    (done : foundOr error found = .ok a) : found = some a := by
  cases found with
  | none => cases done
  | some _ =>
      cases done
      rfl

section Soundness

variable {setting : Setting} {world later : World Shelf}

theorem leaves_sound {α : Type} {shows : Shelf → α → Prop} {answer : Except Error α}
    (left : Leaves setting shows answer later) : Sound setting later := by
  cases answer with
  | error _ => exact left
  | ok _ => exact left.1

theorem leaves_shown {α : Type} {shows : Shelf → α → Prop} {answer : Except Error α} {a : α}
    (left : Leaves setting shows answer later) (given : answer = .ok a) : shows later.store a := by
  cases given
  exact left.2

theorem later_sound (sound : Sound setting world) (now : Instant) :
    Sound setting { world with clock := now } :=
  ⟨sound.templates, sound.templateIds, sound.runs, sound.runIds⟩

theorem known_id {id : Uuid} {drawn later : Nat} (known : ∃ number < drawn, id = setting.ids number)
    (grown : drawn ≤ later) : ∃ number < later, id = setting.ids number := by
  obtain ⟨number, below, same⟩ := known
  exact ⟨number, below.trans_le grown, same⟩

theorem put_template_sound (sound : Sound setting world) (grown : world.drawn ≤ later.drawn)
    {template : Template} (put : later.store = world.store.putTemplate template)
    (portable : template.Portable)
    (known : ∃ number < later.drawn, template.id = setting.ids number) : Sound setting later := by
  refine ⟨fun other member => ?_, fun other member => ?_, fun run member => ?_, fun run member => ?_⟩
  all_goals rw [put] at member
  · rcases mem_put member with same | before
    · exact same ▸ portable
    · exact sound.templates other before
  · rcases mem_put member with same | before
    · exact same ▸ known
    · exact known_id (sound.templateIds other before) grown
  · exact sound.runs run member
  · exact known_id (sound.runIds run member) grown

theorem put_run_sound (sound : Sound setting world) (grown : world.drawn ≤ later.drawn)
    {run : Run} (put : later.store = world.store.putRun run) (portable : run.Portable)
    (known : ∃ number < later.drawn, run.id = setting.ids number) : Sound setting later := by
  refine ⟨fun template member => ?_, fun template member => ?_, fun other member => ?_,
    fun other member => ?_⟩
  all_goals rw [put] at member
  · exact sound.templates template member
  · exact known_id (sound.templateIds template member) grown
  · rcases mem_put member with same | before
    · exact same ▸ portable
    · exact sound.runs other before
  · rcases mem_put member with same | before
    · exact same ▸ known
    · exact known_id (sound.runIds other before) grown

theorem remove_template_sound (sound : Sound setting world) (id : Uuid) :
    Sound setting { world with store := world.store.removeTemplate id } :=
  ⟨fun template member => sound.templates template (List.mem_of_mem_filter member),
    fun template member => sound.templateIds template (List.mem_of_mem_filter member),
    sound.runs, sound.runIds⟩

end Soundness

section Operations

open Lockstep

variable {setting : Setting} {world : World Shelf}

theorem template_ends (sound : Sound setting world) (id : Uuid) :
    Lockstep (setting.tabled.template id) (setting.shelved.template id) world
      (Ending (foundOr (.noTemplate id) (world.store.template? id)) world) := by
  refine pass (ask_ends (template_agrees id sound.templates)) ?_
  cases world.store.template? id with
  | none => exact throw_ends _ ⟨rfl, rfl⟩
  | some template => exact return_ends _ ⟨rfl, rfl⟩

theorem run_ends (sound : Sound setting world) (id : Uuid) :
    Lockstep (setting.tabled.run id) (setting.shelved.run id) world
      (Ending (foundOr (.noProcess id) (world.store.run? id)) world) := by
  refine pass (ask_ends (run_agrees id sound.runs)) ?_
  cases world.store.run? id with
  | none => exact throw_ends _ ⟨rfl, rfl⟩
  | some run => exact return_ends _ ⟨rfl, rfl⟩

theorem runs_end (sound : Sound setting world) (status : Option ProcessStatus) :
    Lockstep (setting.tabled.runs status) (setting.shelved.runs status) world
      (Ending (.ok (world.store.listRuns status)) world) :=
  ask_ends (runs_agree status sound.runs)

theorem templates_end (sound : Sound setting world) :
    Lockstep setting.tabled.templates setting.shelved.templates world
      (Ending (.ok world.store.listTemplates) world) :=
  ask_ends (templates_agree sound.templates)

theorem delete_template_ends (sound : Sound setting world) (id : Uuid) :
    Lockstep (setting.tabled.deleteTemplate id) (setting.shelved.deleteTemplate id) world
      (Leaves setting fun _ _ => True) := by
  refine pass (ask_ends (delete_template_agrees id)) ?_
  cases (world.store.template? id).isSome with
  | true => exact return_ends _ ⟨remove_template_sound sound id, trivial⟩
  | false => exact throw_ends _ (remove_template_sound sound id)

theorem summary_ends (sound : Sound setting world) :
    Lockstep setting.tabled.summary setting.shelved.summary world
      (Leaves setting fun _ _ => True) := by
  refine pass (runs_end sound (some .active)) ?_
  refine pass (runs_end sound (some .suspended)) ?_
  exact pass now_ends (return_ends _ ⟨sound, trivial⟩)

theorem move_ends (sound : Sound setting world) (id : Uuid) (move : Move) :
    Lockstep (setting.tabled.move id move) (setting.shelved.move id move) world
      (Leaves setting fun shelf run => shelf.run? run.id = some run) := by
  refine step (run_ends sound id) (fun _ _ => sound) fun run found => ?_
  refine pass now_ends ?_
  refine step (except_ends (run.apply world.clock move)) (fun _ _ => sound) ?_
  rintro ⟨next, events⟩ moved
  have stored : world.store.run? id = some run := found_or_ok found
  have member : run ∈ world.store.runs := List.mem_of_find?_eq_some stored
  have portable := Run.move_portable moved (sound.runs run member)
  have sameId := Run.move_own moved
  have own : run.id = id := found_key stored
  have kept : ∀ other, world.store.run? next.id = some other → next.SameStart other := by
    intro other listed
    rw [sameId, own, stored] at listed
    cases listed
    exact Run.move_same_start moved
  refine pass (ask_ends (save_run_agrees next world.clock kept)) ?_
  refine pass (publish_ends setting _ _ events) (return_ends _ ⟨?_, ?_⟩)
  · exact put_run_sound sound le_rfl rfl portable (sameId ▸ sound.runIds run member)
  · exact put_found Run.id next world.store.runs

theorem start_ends (sound : Sound setting world)
    (fresh : Fresh setting world)
    (request : StartRequest) :
    Lockstep (setting.tabled.start request) (setting.shelved.start request) world
      (Leaves setting fun shelf started => shelf.run? started.run.id = some started.run) := by
  refine step (except_ends request.checkWords) (fun _ _ => sound) fun _ _ => ?_
  refine step (template_ends sound request.templateId) (fun _ _ => sound) fun template found => ?_
  refine step (except_ends (request.check template setting.config.maxFanOut)) (fun _ _ => sound)
    fun _ _ => ?_
  refine step (except_ends (request.staff setting.directory template.tasks)) (fun _ _ => sound) ?_
  rintro ⟨seeds, warnings⟩ _
  refine pass now_ends (pass (supply_ends setting _ _) ?_)
  refine step (except_ends (request.launch template seeds world.clock fun number =>
    setting.ids (world.drawn + number))) (fun _ _ => sound) ?_
  rintro ⟨run, events⟩ launched
  have member : template ∈ world.store.templates := List.mem_of_find?_eq_some (found_or_ok found)
  have portable := Run.launch_portable launched (sound.templates template member)
  have own := Run.launch_own launched
  -- The id is a new one, so there is no row whose columns would stay.
  have kept : ∀ other, world.store.run? run.id = some other → run.SameStart other :=
    fun _ listed => absurd listed (fresh_unfound sound.runIds fresh own)
  refine pass (ask_ends (save_run_agrees run world.clock kept)) ?_
  refine pass (draw_ends _) (pass (publish_ends setting _ _ events) (return_ends _ ⟨?_, ?_⟩))
  · exact put_run_sound sound (Nat.le_add_right _ _) rfl portable
      ⟨world.drawn, Nat.lt_add_of_pos_right (Nat.succ_pos _), own⟩
  · exact put_found Run.id run world.store.runs

theorem save_template_ends (sound : Sound setting world)
    (fresh : Fresh setting world)
    (draft : Draft) (portable : draft.Portable setting.config) :
    Lockstep (setting.tabled.saveTemplate draft) (setting.shelved.saveTemplate draft) world
      (Leaves setting fun shelf template => shelf.template? template.id = some template) := by
  refine step (except_ends (draft.checked setting.config)) (fun _ _ => sound) ?_
  rintro ⟨graph, tasks⟩ accepted
  refine pass now_ends ?_
  have saved (id : Uuid) (createdAt : Instant) :=
    draft_portable portable accepted id createdAt world.clock
  cases named : draft.id with
  | some id =>
      refine step (template_ends sound id) (fun _ _ => sound) fun existing found => ?_
      have stored : world.store.template? id = some existing := found_or_ok found
      have own : existing.id = id := found_key stored
      have kept : ∀ other, world.store.template? id = some other →
          other.createdAt = existing.createdAt := by
        intro other listed
        rw [stored] at listed
        cases listed
        rfl
      refine pass (ask_ends (save_template_agrees _ kept)) (return_ends _ ⟨?_, ?_⟩)
      · exact put_template_sound sound le_rfl rfl (saved id existing.createdAt)
          (own ▸ sound.templateIds existing (List.mem_of_find?_eq_some stored))
      · exact put_found Template.id _ world.store.templates
  | none =>
      refine pass (supply_ends setting _ _) ?_
      have kept : ∀ other, world.store.template? (setting.ids world.drawn) = some other →
          other.createdAt = world.clock :=
        fun _ listed => absurd listed (fresh_unfound sound.templateIds fresh rfl)
      refine pass (ask_ends (save_template_agrees _ kept)) (pass (draw_ends 1) (return_ends _ ⟨?_, ?_⟩))
      · exact put_template_sound sound (Nat.le_succ _) rfl
          (saved (setting.ids world.drawn) world.clock) ⟨world.drawn, Nat.lt_succ_self _, rfl⟩
      · exact put_found Template.id _ world.store.templates

end Operations

def Engine.Call.Portable (config : Config) : Call → Prop
  | .saveTemplate draft => draft.Portable config
  | _ => True

section Calls

variable {setting : Setting} {world : World Shelf}

theorem leaves_map {α : Type} {tabled : Act Tables α} {shelved : Act Shelf α}
    {shows : Shelf → α → Prop} (f : α → Answer)
    (act : Lockstep tabled shelved world (Leaves setting shows))
    (each : ∀ shelf a, shows shelf a → Shows shelf (f a)) :
    Lockstep (f <$> tabled) (f <$> shelved) world (Leaves setting Shows) := by
  refine act.map f fun answer later left => ?_
  cases answer with
  | error _ => exact left
  | ok a => exact ⟨left.1, each later.store a left.2⟩

theorem reads_map {α : Type} {tabled : Act Tables α} {shelved : Act Shelf α}
    {answer : Except Error α} (f : α → Answer) (sound : Sound setting world)
    (act : Lockstep tabled shelved world (Lockstep.Ending answer world))
    (each : ∀ a, answer = .ok a → Shows world.store (f a)) :
    Lockstep (f <$> tabled) (f <$> shelved) world (Leaves setting Shows) := by
  refine act.map f fun given later => ?_
  rintro ⟨rfl, rfl⟩
  cases given with
  | error _ => exact sound
  | ok a => exact ⟨sound, each a rfl⟩

theorem answer_ends (sound : Sound setting world)
    (fresh : Fresh setting world)
    (call : Call) (portable : call.Portable setting.config) :
    Lockstep (setting.tabled.answer call) (setting.shelved.answer call) world
      (Leaves setting Shows) := by
  cases call with
  | preview graph =>
      exact reads_map _ sound (Lockstep.except_ends (graph.compileWith setting.config)) fun _ _ => trivial
  | saveTemplate draft =>
      exact leaves_map _ (save_template_ends sound fresh draft portable) fun _ _ shown => shown
  | template id =>
      refine reads_map _ sound (template_ends sound id) fun template found => ?_
      have stored : world.store.template? id = some template := found_or_ok found
      have own : template.id = id := found_key stored
      rwa [← own] at stored
  | templates => exact reads_map _ sound (templates_end sound) fun _ _ => trivial
  | deleteTemplate id => exact leaves_map _ (delete_template_ends sound id) fun _ _ shown => shown
  | start request => exact leaves_map _ (start_ends sound fresh request) fun _ _ shown => shown
  | run id =>
      refine reads_map _ sound (run_ends sound id) fun run found => ?_
      have stored : world.store.run? id = some run := found_or_ok found
      have own : run.id = id := found_key stored
      rwa [← own] at stored
  | runs status => exact reads_map _ sound (runs_end sound status) fun _ _ => trivial
  | move id move => exact leaves_map _ (move_ends sound id move) fun _ _ shown => shown
  | summary => exact leaves_map _ (summary_ends sound) fun _ _ shown => shown

theorem perform_ends (sound : Sound setting world)
    (fresh : Fresh setting world)
    (now : Instant) (call : Call) (portable : call.Portable setting.config) {other : World Tables}
    (coupled : Coupled other world) :
    let given := setting.shelved.performAt world now call
    ∃ last, setting.tabled.performAt other now call = (given.1, last) ∧ Coupled last given.2 ∧
      Leaves setting Shows given.1 given.2 := by
  have ends := answer_ends (later_sound sound now) fresh call portable
  obtain ⟨last, answered, still⟩ := ends.follows { other with clock := now }
    ⟨coupled.stored, rfl, coupled.published, coupled.drawn⟩
  exact ⟨last, answered, still, ends.ends⟩

end Calls

end Workflow
