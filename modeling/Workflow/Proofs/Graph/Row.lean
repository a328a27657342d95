import Mathlib.Data.List.Nodup
import Workflow.Graph.Compile
import Workflow.Proofs.Graph.Paths

set_option autoImplicit false

namespace Workflow

def rowArcs (ids : List String) : List Arc := ids.zip ids.tail

section Rows

variable {ids : List String} {x y : String}

theorem mem_row_arcs (ids : List String) (x y : String) :
    (x, y) ∈ rowArcs ids ↔ ∃ place, ids[place]? = some x ∧ ids[place + 1]? = some y := by
  simp only [rowArcs, List.mem_iff_getElem?, List.getElem?_zip_eq_some, List.getElem?_tail]

theorem row_joined (ids : List String) : Joined (rowArcs ids) ids := by
  refine List.isChain_iff_getElem.mpr fun place bound => ?_
  refine (mem_row_arcs ids _ _).mpr ⟨place, ?_, ?_⟩
  · exact List.getElem?_eq_getElem (Nat.lt_of_succ_lt bound)
  · exact List.getElem?_eq_getElem bound

theorem row_forward (ids : List String) : ids.Pairwise (Path (rowArcs ids)) := by
  have transitive : IsTrans String (Path (rowArcs ids)) :=
    ⟨fun _ _ _ first second => first.append trivial second⟩
  exact List.isChain_iff_pairwise.mp ((row_joined ids).imp fun _ _ drawn => .arc drawn)

theorem row_compares (first : x ∈ ids) (last : y ∈ ids) :
    x = y ∨ Path (rowArcs ids) x y ∨ Path (rowArcs ids) y x := by
  have forward := List.pairwise_iff_getElem.mp (row_forward ids)
  obtain ⟨i, here, rfl⟩ := List.mem_iff_getElem.mp first
  obtain ⟨j, there, rfl⟩ := List.mem_iff_getElem.mp last
  rcases Nat.lt_trichotomy i j with less | rfl | more
  · exact .inr (.inl (forward i j here there less))
  · exact .inl rfl
  · exact .inr (.inr (forward j i there here more))

variable (distinct : ids.Nodup)
include distinct

theorem row_place {first last : Nat} {id : String} (one : ids[first]? = some id)
    (other : ids[last]? = some id) : first = last :=
  (List.getElem?_inj (List.getElem?_eq_some_iff.mp one).1 distinct).mp (one.trans other.symm)

theorem row_source {place : Nat} (target : ids[place + 1]? = some y) :
    (x, y) ∈ rowArcs ids ↔ ids[place]? = some x := by
  rw [mem_row_arcs]
  constructor
  · intro ⟨other, source, again⟩
    have same := row_place distinct again target
    rwa [Nat.succ.inj same] at source
  · intro source
    exact ⟨place, source, target⟩

theorem row_rises (path : Path (rowArcs ids) x y) :
    ∃ first last : Nat, first < last ∧ ids[first]? = some x ∧ ids[last]? = some y := by
  induction path with
  | arc drawn =>
      obtain ⟨place, source, target⟩ := (mem_row_arcs ids _ _).mp drawn
      exact ⟨place, place + 1, Nat.lt_succ_self place, source, target⟩
  | step drawn _ _ ih =>
      obtain ⟨place, source, next⟩ := (mem_row_arcs ids _ _).mp drawn
      obtain ⟨first, last, less, middle, target⟩ := ih
      have same := row_place distinct middle next
      exact ⟨place, last, by omega, source, target⟩

theorem row_acyclic (id : String) : ¬ OnCycle (rowArcs ids) id := by
  intro cycle
  obtain ⟨first, last, less, one, other⟩ := row_rises distinct cycle
  exact Nat.ne_of_lt less (row_place distinct one other)

end Rows

namespace Graph

theorem chain_edges_arcs (number : Nat) (ids : List String) :
    (chainEdges number ids).map Edge.arc = rowArcs ids := by
  induction ids generalizing number with
  | nil => rfl
  | cons first rest ih =>
      cases rest with
      | nil => rfl
      | cons second rest => exact congrArg ((first, second) :: ·) (ih (number + 1))

theorem chain_edges_ids (number : Nat) (ids : List String) :
    (chainEdges number ids).map Edge.id =
      (List.range' number (ids.length - 1)).map fun place => s!"auto-{place}" := by
  induction ids generalizing number with
  | nil => rfl
  | cons first rest ih =>
      cases rest with
      | nil => rfl
      | cons second rest => exact congrArg (s!"auto-{number}" :: ·) (ih (number + 1))

theorem chain_edges_plain (number : Nat) (ids : List String) :
    ∀ edge ∈ chainEdges number ids, edge.condition = none := by
  induction ids generalizing number with
  | nil => simp [chainEdges]
  | cons first rest ih =>
      cases rest with
      | nil => simp [chainEdges]
      | cons second rest => exact List.forall_mem_cons.mpr ⟨rfl, ih (number + 1)⟩

theorem chain_edges_distinct (number : Nat) (ids : List String) :
    ((chainEdges number ids).map Edge.id).Nodup := by
  have apart : Function.Injective fun place : Nat => s!"auto-{place}" := by
    intro first second same
    have text : toString first = toString second := (String.append_right_inj _).mp same
    have digits := congrArg (fun text : String => Nat.ofDigitChars 10 text.toList 0) text
    simpa using digits
  rw [chain_edges_ids]
  exact (List.nodup_range' ..).map apart

end Graph

end Workflow
