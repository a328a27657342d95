import Mathlib.Data.List.Chain
import Mathlib.Order.WellFoundedSet
import Workflow.Graph.Basic

set_option autoImplicit false

namespace Workflow

inductive Through (arcs : List Arc) (inner : String → Prop) : String → String → Prop where
  | arc {x y : String} (drawn : (x, y) ∈ arcs) : Through arcs inner x y
  | step {x y z : String} (drawn : (x, y) ∈ arcs) (inside : inner y)
      (rest : Through arcs inner y z) : Through arcs inner x z

def Path (arcs : List Arc) : String → String → Prop := Through arcs fun _ => True

def OnCycle (arcs : List Arc) (x : String) : Prop := Path arcs x x

namespace Through

theorem append {arcs : List Arc} {inner : String → Prop} {x y z : String}
    (first : Through arcs inner x y) (inside : inner y) (second : Through arcs inner y z) :
    Through arcs inner x z := by
  induction first with
  | arc drawn => exact .step drawn inside second
  | step drawn here _ ih => exact .step drawn here (ih inside second)

theorem mono {arcs : List Arc} {inner outer : String → Prop} {x y : String}
    (weaker : ∀ z, inner z → outer z) (path : Through arcs inner x y) :
    Through arcs outer x y := by
  induction path with
  | arc drawn => exact .arc drawn
  | step drawn inside _ ih => exact .step drawn (weaker _ inside) ih

end Through

theorem mem_successors (arcs : List Arc) (x y : String) : y ∈ successors arcs x ↔ (x, y) ∈ arcs := by
  simp only [successors, List.mem_map, List.mem_filter, decide_eq_true_eq]
  constructor
  · rintro ⟨⟨source, target⟩, ⟨member, rfl⟩, rfl⟩
    exact member
  · intro drawn
    exact ⟨(x, y), ⟨drawn, rfl⟩, rfl⟩

theorem mem_sources (arcs : List Arc) (x y : String) : x ∈ sources arcs y ↔ (x, y) ∈ arcs := by
  simp only [sources, List.mem_map, List.mem_filter, decide_eq_true_eq]
  constructor
  · rintro ⟨⟨source, target⟩, ⟨member, rfl⟩, rfl⟩
    exact member
  · intro drawn
    exact ⟨(x, y), ⟨drawn, rfl⟩, rfl⟩

def Reaches (arcs : List Arc) (roots : List String) (x : String) : Prop :=
  x ∈ roots ∨ ∃ root ∈ roots, Path arcs root x

theorem reaches_step (arcs : List Arc) (roots : List String) (x y : String)
    (reached : Reaches arcs roots x) (drawn : (x, y) ∈ arcs) : Reaches arcs roots y := by
  rcases reached with here | ⟨root, member, path⟩
  · exact .inr ⟨x, here, .arc drawn⟩
  · exact .inr ⟨root, member, path.append trivial (.arc drawn)⟩

namespace Through

variable {arcs : List Arc} {inner : String → Prop} {x y : String}

-- The set needs to be closed only where the path may go on.
theorem stays (inside : String → Prop) (path : Through arcs inner x y) (start : inside x)
    (closed : ∀ a b, (a, b) ∈ arcs → inside a → inner b ∨ b = y → inside b) : inside y := by
  induction path with
  | arc drawn => exact closed _ _ drawn start (.inr rfl)
  | step drawn here _ ih => exact ih (closed _ _ drawn start (.inl here)) closed

theorem within {others : List Arc} (drawnIn : arcs ⊆ others) (path : Through arcs inner x y) :
    Through others inner x y := by
  induction path with
  | arc drawn => exact .arc (drawnIn drawn)
  | step drawn inside _ ih => exact .step (drawnIn drawn) inside ih

theorem enters (path : Through arcs inner x y) : ∃ before, (before, y) ∈ arcs := by
  induction path with
  | arc drawn => exact ⟨_, drawn⟩
  | step _ _ _ ih => exact ih

end Through

theorem reaches_closed (arcs : List Arc) (roots : List String) (inside : String → Prop)
    (start : ∀ root ∈ roots, inside root) (closed : ∀ a b, (a, b) ∈ arcs → inside a → inside b)
    (x : String) (reached : Reaches arcs roots x) : inside x := by
  rcases reached with here | ⟨root, member, path⟩
  · exact start x here
  · exact path.stays inside (start root member) fun a b drawn within _ => closed a b drawn within

def Joined (arcs : List Arc) (ids : List String) : Prop := ids.IsChain fun x y => (x, y) ∈ arcs

theorem joined_through (arcs : List Arc) (inner : String → Prop) (x y : String)
    (between : List String) (joined : Joined arcs (x :: between ++ [y]))
    (inside : ∀ z ∈ between, inner z) : Through arcs inner x y := by
  induction between generalizing x with
  | nil =>
      have drawn : (x, y) ∈ arcs := by simpa [Joined] using joined
      exact .arc drawn
  | cons z rest ih =>
      obtain ⟨drawn, later⟩ := List.isChain_cons_cons.mp joined
      exact .step drawn (inside z (by simp)) (ih z later fun w member => inside w (by simp [member]))

theorem through_joined (arcs : List Arc) (inner : String → Prop) (x y : String)
    (path : Through arcs inner x y) :
    ∃ between, Joined arcs (x :: between ++ [y]) ∧ ∀ z ∈ between, inner z := by
  induction path with
  | arc drawn => exact ⟨[], by simpa [Joined] using drawn, by simp⟩
  | @step x z y drawn inside _ ih =>
      obtain ⟨between, joined, within⟩ := ih
      exact ⟨z :: between, .cons_cons drawn joined, by simpa using ⟨inside, within⟩⟩

-- Without cycles, what follows from all ids before one holds of every id of a list.
theorem acyclic_induction (arcs : List Arc) (ids : List String) (acyclic : ∀ x, ¬ OnCycle arcs x)
    (holds : String → Prop)
    (step : ∀ y ∈ ids, (∀ x ∈ ids, Path arcs x y → holds x) → holds y) (y : String)
    (member : y ∈ ids) : holds y := by
  have order : IsStrictOrder String (Path arcs) :=
    { irrefl := acyclic, trans := fun _ _ _ first second => first.append trivial second }
  have founded : Set.WellFoundedOn {x | x ∈ ids} (Path arcs) := ids.finite_toSet.wellFoundedOn
  exact founded.induction member step

end Workflow
