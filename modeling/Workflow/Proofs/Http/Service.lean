import Workflow.Http.Service
import Workflow.Proofs.Engine.Local

set_option autoImplicit false

namespace Workflow

open Engine (Setting Answer Call)

namespace Http

def Status.successful (status : Status) : Bool := status.code / 100 = 2

def Request.Asks (request : Request) (call : Call) : Prop :=
  ∃ route success, Route.ofSegments? request.target.segments = some route ∧
    request.question route = .ok (.call call success)

def Question.fair : Question → Bool
  | .health => true
  | .call _ success => success.successful

def Fair (understood : Understanding Question) : Prop :=
  ∀ question, understood = .ok question → question.fair = true

theorem question_fair {question : Question} (fair : question.fair = true) : Fair (.ok question) := by
  intro other same
  cases same
  exact fair

theorem refusal_fair (refusal : Refusal) : Fair (.error refusal) := by
  intro other impossible
  cases impossible

theorem bind_fair {α : Type} {first : Understanding α} {next : α → Understanding Question}
    (each : ∀ a, Fair (next a)) : Fair (first >>= next) := by
  cases first with
  | error refusal => exact refusal_fair refusal
  | ok a => exact each a

theorem request_fair (request : Request) (route : Route) : Fair (request.question route) := by
  unfold Request.question
  dsimp only
  -- One case for each resource with a method, and one for all others; parts that may be refused are
  -- read before the call is known.
  split
  all_goals first
    | exact refusal_fair _
    | exact question_fair rfl
    | exact bind_fair fun _ => question_fair rfl
    | exact bind_fair fun _ => bind_fair fun _ => question_fair rfl

theorem answer_question_local {setting : Setting} {world : World Shelf} (unused : Unused setting world)
    (call : Call) (success : Status) (fair : success.successful = true) :
    let (response, later) := answerQuestion setting.shelved (.call call success) world
    (response.status.successful = false → later = world) ∧
      (later = world ∨ ∃ answer, setting.shelved.perform call world = (.ok answer, later)) := by
  have performs := perform_local unused call
  rw [answerQuestion]
  cases performed : setting.shelved.perform call world with
  | mk answer later =>
      rw [performed] at performs
      cases answer with
      | error error => exact ⟨fun _ => performs, .inl performs⟩
      | ok answer => exact ⟨fun failed => absurd fair (by simp [failed]), .inr ⟨answer, rfl⟩⟩

theorem cut_status (response : Response) (method : Method) :
    (response.cutFor method).status = response.status := by
  unfold Response.cutFor
  split <;> rfl

theorem respond_local {setting : Setting} {world : World Shelf} (unused : Unused setting world)
    (request : Request) :
    let (response, later) := respond setting.shelved request world
    (response.status.successful = false → later = world) ∧
      (later = world ∨ ∃ call answer, request.Asks call ∧
        setting.shelved.perform call world = (.ok answer, later)) := by
  unfold respond
  dsimp only
  rw [cut_status]
  cases routed : Route.ofSegments? request.target.segments with
  | none => exact ⟨fun _ => rfl, .inl rfl⟩
  | some route =>
      dsimp only
      cases asked : request.question route with
      | error refusal => exact ⟨fun _ => rfl, .inl rfl⟩
      | ok question =>
          cases question with
          | health => exact ⟨fun _ => rfl, .inl rfl⟩
          | call call success =>
              have fair := request_fair request route _ asked
              obtain ⟨failed, did⟩ := answer_question_local unused call success fair
              refine ⟨failed, did.imp id fun done => ?_⟩
              obtain ⟨answer, performed⟩ := done
              exact ⟨call, answer, ⟨route, success, routed, asked⟩, performed⟩

theorem responses_alike (setting : Setting) (request : Request) (world : World Shelf) :
    respond (setting.through .failing).shelved request world =
      respond (setting.through .recording).shelved request world := by
  have answers (question : Question) :
      answerQuestion (setting.through .failing).shelved question world =
        answerQuestion (setting.through .recording).shelved question world := by
    cases question with
    | health => rfl
    | call call success => rw [answerQuestion, answerQuestion, sinks_alike]
  unfold respond
  simp only [answers]

end Http

theorem calls_local (setting : Setting) (world : World Shelf) (unused : Unused setting world) :
    (∀ call, match setting.shelved.perform call world with
      | (.ok answer, later) => Effect setting world call answer later
      | (.error _, later) => later = world) ∧
    (∀ request, let (response, later) := Http.respond setting.shelved request world
      (response.status.successful = false → later = world) ∧
        (later = world ∨ ∃ call answer, request.Asks call ∧
          setting.shelved.perform call world = (.ok answer, later))) ∧
    let failing := (setting.through .failing).shelved
    let recording := (setting.through .recording).shelved
    (∀ call, failing.perform call world = recording.perform call world) ∧
      (∀ request, Http.respond failing request world = Http.respond recording request world) ∧
      ∀ calls, failing.session world calls = recording.session world calls :=
  ⟨perform_local unused, Http.respond_local unused,
    fun call => sinks_alike setting call world,
    fun request => Http.responses_alike setting request world,
    fun calls => sessions_alike setting calls world⟩

def releaseBegun : World Shelf :=
  (numbered.shelved.session (Engine.outset {}) (releaseCalls.take 2)).2

theorem calls_local_release :
    Unused numbered releaseBegun ∧
      (∃ later, numbered.shelved.perform (.move ⟨1⟩ (.complete ⟨2⟩)) releaseBegun =
          (.ok (.run releaseRun), later) ∧
        Effect numbered releaseBegun (.move ⟨1⟩ (.complete ⟨2⟩)) (.run releaseRun) later) ∧
      numbered.shelved.perform (.move ⟨1⟩ (.complete ⟨3⟩)) releaseBegun =
        (.error (.task .complete ⟨3⟩ .waiting), releaseBegun) := by
  have drawn : releaseBegun.drawn = 4 := by cbv
  have unused : Unused numbered releaseBegun :=
    session_unused _ (by rw [← releaseBegun, drawn]; exact numbered_apart 4 (by decide))
  have completed : (numbered.shelved.perform (.move ⟨1⟩ (.complete ⟨2⟩)) releaseBegun).1 =
    .ok (.run releaseRun) := by cbv
  have refused : (numbered.shelved.perform (.move ⟨1⟩ (.complete ⟨3⟩)) releaseBegun).1 =
    .error (.task .complete ⟨3⟩ .waiting) := by cbv
  have performs := (calls_local numbered releaseBegun unused).1
  have moved := performs (.move ⟨1⟩ (.complete ⟨2⟩))
  have kept := performs (.move ⟨1⟩ (.complete ⟨3⟩))
  rw [← Prod.mk.eta (p := numbered.shelved.perform _ _), completed] at moved
  rw [← Prod.mk.eta (p := numbered.shelved.perform _ _), refused] at kept
  exact ⟨unused, ⟨_, Prod.ext completed rfl, moved⟩, Prod.ext refused kept⟩

end Workflow
