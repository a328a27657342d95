import Workflow.Proofs.Graph.Violations
import Workflow.Proofs.Task.WellFormed

set_option autoImplicit false

namespace Workflow

def Referring (templates : List TaskTemplate) : Prop :=
  ∀ template ∈ templates,
    Refers (templates.map TaskTemplate.id) template.id template.predecessorIds

def Acyclic (templates : List TaskTemplate) : Prop :=
  ∀ id, ¬ OnCycle (predecessorArcs templates) id

structure FaultReport (templates : List TaskTemplate) (report : List Violation) : Prop where
  repeated (id : String) :
    report.count (.repeatedNode id) = (templates.map TaskTemplate.id).count id - 1
  far (id : String) (days : Nat) :
    report.count (.farDeadline id days) =
      templates.countP fun template =>
        template.id = id ∧ template.deadlineOffsetDays = some days ∧ maxDeadlineOffset < days
  only : ∀ violation ∈ report, violation.rule = .nodes ∨ violation.rule = .offsets

def Misrefers (ids : List String) (task : String) (listed : List String) (predecessor : String) :
    ReferenceProblem → Prop
  | .itself => predecessor = task
  | .unknown => predecessor ≠ task ∧ predecessor ∉ ids
  | .repeated => predecessor ≠ task ∧ predecessor ∈ ids ∧ predecessor ∈ listed

-- All references before this one are good, those of the same task and those of the tasks before it.
def FirstFault (templates : List TaskTemplate) (task predecessor : String)
    (problem : ReferenceProblem) : Prop :=
  ∃ before template after listed rest,
    templates = before ++ template :: after ∧ template.id = task ∧
      template.predecessorIds = listed ++ predecessor :: rest ∧
        (∀ earlier ∈ before,
          Refers (templates.map TaskTemplate.id) earlier.id earlier.predecessorIds) ∧
          Refers (templates.map TaskTemplate.id) task listed ∧
            Misrefers (templates.map TaskTemplate.id) task listed predecessor problem

structure CycleReport (arcs : List Arc) (found : List String) : Prop where
  once : found.Nodup
  circular : ∀ id ∈ found, OnCycle arcs id
  named (first : String) (between : List String) :
    Joined arcs (first :: between ++ [first]) → ∃ id ∈ first :: between, id ∈ found

inductive Verdict (templates : List TaskTemplate) : Except Error Unit → Prop where
  | accepted (enlisted : Enlisted templates) (referring : Referring templates)
      (acyclic : Acyclic templates) : Verdict templates (.ok ())
  | faults {report : List Violation} (unlisted : ¬ Enlisted templates)
      (all : FaultReport templates report) : Verdict templates (.error (.graph report))
  | reference {task predecessor : String} {problem : ReferenceProblem}
      (enlisted : Enlisted templates) (misreferring : ¬ Referring templates)
      (first : FirstFault templates task predecessor problem) :
      Verdict templates (.error (.predecessor task predecessor problem))
  | cycles {found : List String} (enlisted : Enlisted templates) (referring : Referring templates)
      (cyclic : ¬ Acyclic templates) (named : CycleReport (predecessorArcs templates) found) :
      Verdict templates (.error (.graph (found.map .cycle)))

theorem repeats_after_alike (seen others ids : List String)
    (same : ∀ id, id ∈ seen ↔ id ∈ others) : repeatsAfter seen ids = repeatsAfter others ids := by
  induction ids generalizing seen others with
  | nil => rfl
  | cons first rest ih =>
      by_cases met : first ∈ seen
      · rw [repeatsAfter, repeatsAfter, if_pos met, if_pos ((same first).mp met), ih seen others same]
      · rw [repeatsAfter, repeatsAfter, if_neg met, if_neg (met ∘ (same first).mpr)]
        refine ih _ _ fun id => ?_
        rw [List.mem_cons, List.mem_cons, same]

theorem list_violations_perm (seen : List String) (templates : List TaskTemplate) :
    (listViolations seen templates).Perm
      ((repeatsAfter seen (templates.map TaskTemplate.id)).map .repeatedNode ++
        templates.flatMap fun template =>
          Violation.ofOffset template.id template.deadlineOffsetDays) := by
  induction templates generalizing seen with
  | nil => exact .nil
  | cons template rest ih =>
      have later := (ih (template.id :: seen)).append_left
        (Violation.ofOffset template.id template.deadlineOffsetDays)
      have moved := later.trans (List.perm_append_comm_assoc ..)
      by_cases met : template.id ∈ seen
      · have same (id : String) : id ∈ template.id :: seen ↔ id ∈ seen :=
          ⟨fun member => (List.mem_cons.mp member).elim (fun own => own ▸ met) fun old => old,
            List.mem_cons_of_mem template.id⟩
        rw [repeats_after_alike _ seen _ same] at moved
        rw [listViolations, if_pos met, List.map_cons, repeatsAfter, if_pos met, List.append_assoc,
          List.flatMap_cons]
        exact moved.cons _
      · rw [listViolations, if_neg met, List.map_cons, repeatsAfter, if_neg met, List.nil_append,
          List.flatMap_cons]
        exact moved

theorem list_violations_report (templates : List TaskTemplate) :
    FaultReport templates (listViolations [] templates) := by
  have parts := list_violations_perm [] templates
  have named (violation : Violation)
      (member : violation ∈ (repeats (templates.map TaskTemplate.id)).map Violation.repeatedNode) :
      violation.rule = .nodes := by
    obtain ⟨id, _, same⟩ := List.mem_map.mp member
    exact same ▸ rfl
  have dated (violation : Violation) (member : violation ∈ templates.flatMap fun template =>
      Violation.ofOffset template.id template.deadlineOffsetDays) : violation.rule = .offsets := by
    obtain ⟨template, _, here⟩ := List.mem_flatMap.mp member
    exact of_offset_rule _ _ violation here
  refine ⟨fun id => ?_, fun id days => ?_, fun violation member => ?_⟩
  · have injective : Function.Injective Violation.repeatedNode := fun x y same => by simpa using same
    have none := List.count_eq_zero.mpr fun member => nomatch dated (.repeatedNode id) member
    rw [parts.count_eq, List.count_append, none, ← count_repeats]
    exact List.count_map_of_injective _ _ injective id
  · have none := List.count_eq_zero.mpr fun member => nomatch named (.farDeadline id days) member
    rw [parts.count_eq, List.count_append, ← repeats, none, Nat.zero_add]
    exact count_flat_map templates _ _ _ fun template => count_of_offset _ _ id days
  · exact (List.mem_append.mp (parts.mem_iff.mp member)).imp (named violation) (dated violation)

section References

variable {ids : List String} {task : String}

-- The references before the first bad one have been passed, the last of them last.
theorem bad_reference_found {seen predecessors : List String} {predecessor : String}
    {problem : ReferenceProblem}
    (found : badReference ids task seen predecessors = some (predecessor, problem)) :
    ∃ listed rest, predecessors = listed ++ predecessor :: rest ∧
      badReference ids task seen listed = none ∧
        Misrefers ids task (listed.reverse ++ seen) predecessor problem := by
  induction predecessors generalizing seen with
  | nil => cases found
  | cons first rest ih =>
      rw [badReference] at found
      by_cases itself : first = task
      · rw [if_pos itself] at found
        cases found
        exact ⟨[], rest, rfl, rfl, itself⟩
      · rw [if_neg itself] at found
        by_cases unknown : first ∉ ids
        · rw [if_pos unknown] at found
          cases found
          exact ⟨[], rest, rfl, rfl, itself, unknown⟩
        · rw [if_neg unknown] at found
          by_cases again : first ∈ seen
          · rw [if_pos again] at found
            cases found
            exact ⟨[], rest, rfl, rfl, itself, not_not.mp unknown, again⟩
          · rw [if_neg again] at found
            obtain ⟨listed, others, split, passed, bad⟩ := ih found
            refine ⟨first :: listed, others, congrArg (first :: ·) split, ?_, ?_⟩
            · rw [badReference, if_neg itself, if_neg unknown, if_neg again]
              exact passed
            · rw [List.reverse_cons, List.append_assoc]
              exact bad

theorem bad_references_found {templates : List TaskTemplate} {error : Error}
    (found : badReferences ids templates = some error) :
    ∃ before template after predecessor problem,
      templates = before ++ template :: after ∧ badReferences ids before = none ∧
        badReference ids template.id [] template.predecessorIds = some (predecessor, problem) ∧
          error = .predecessor template.id predecessor problem := by
  induction templates with
  | nil => cases found
  | cons template rest ih =>
      rw [badReferences] at found
      cases here : badReference ids template.id [] template.predecessorIds with
      | some bad =>
          rw [here] at found
          cases found
          exact ⟨[], template, rest, bad.1, bad.2, rfl, rfl, here, rfl⟩
      | none =>
          rw [here] at found
          obtain ⟨before, other, after, predecessor, problem, split, passed, bad, same⟩ := ih found
          refine ⟨template :: before, other, after, predecessor, problem,
            congrArg (template :: ·) split, ?_, bad, same⟩
          rw [badReferences, here]
          exact passed

theorem first_fault {templates : List TaskTemplate} {error : Error}
    (found : badReferences (templates.map TaskTemplate.id) templates = some error) :
    ∃ task predecessor problem, error = .predecessor task predecessor problem ∧
      FirstFault templates task predecessor problem := by
  obtain ⟨before, template, after, predecessor, problem, split, passed, bad, same⟩ :=
    bad_references_found found
  obtain ⟨listed, rest, listing, good, wrong⟩ := bad_reference_found bad
  refine ⟨template.id, predecessor, problem, same, before, template, after, listed, rest, split, rfl,
    listing, (all_refer_iff before).mp passed, (refers_iff listed).mp good, ?_⟩
  cases problem with
  | itself => exact wrong
  | unknown => exact wrong
  | repeated => exact ⟨wrong.1, wrong.2.1, by simpa using wrong.2.2⟩

end References

theorem predecessor_cycle_report (templates : List TaskTemplate) :
    CycleReport (predecessorArcs templates)
      (findCycles (templates.map TaskTemplate.id) (predecessorArcs templates)) where
  once := find_cycles_nodup _ _
  circular id found := (find_cycles_circular _ _ id found).1
  named first between joined := by
    have cycle : Path (predecessorArcs templates) first first :=
      joined_through _ _ first first between joined fun _ _ => trivial
    obtain ⟨before, drawn⟩ := cycle.enters
    exact find_cycles_named _ _ first between joined (.inl (predecessor_target drawn))

theorem check_verdict (templates : List TaskTemplate) : Verdict templates (check templates) := by
  have enlisted := enlisted_iff templates
  have all := list_violations_report templates
  dsimp only [check]
  cases faults : listViolations [] templates with
  | cons first others =>
      have unlisted : ¬ Enlisted templates := fun sound => by simp [enlisted.mpr sound] at faults
      exact .faults unlisted (faults ▸ all)
  | nil =>
      have enlisted := enlisted.mp faults
      have referring : badReferences (templates.map TaskTemplate.id) templates = none ↔
          Referring templates := all_refer_iff templates
      cases bad : badReferences (templates.map TaskTemplate.id) templates with
      | some error =>
          obtain ⟨task, predecessor, problem, same, first⟩ := first_fault bad
          have misreferring : ¬ Referring templates := fun sound => by simp [referring.mpr sound] at bad
          exact same ▸ .reference enlisted misreferring first
      | none =>
          have referring := referring.mp bad
          have acyclic := predecessor_cycles_nil_iff templates
          have named := predecessor_cycle_report templates
          cases cycles : findCycles (templates.map TaskTemplate.id) (predecessorArcs templates) with
          | nil => exact .accepted enlisted referring (acyclic.mp cycles)
          | cons first others =>
              have cyclic : ¬ Acyclic templates := fun sound => by simp [acyclic.mpr sound] at cycles
              exact .cycles enlisted referring cyclic (cycles ▸ named)

theorem check_exact (templates : List TaskTemplate) :
    (check templates = .ok () ↔
      Enlisted templates ∧ Referring templates ∧ Acyclic templates) ∧
        Verdict templates (check templates) := by
  refine ⟨?_, check_verdict templates⟩
  rw [check_ok_iff_parts, enlisted_iff, all_refer_iff, predecessor_cycles_nil_iff]
  rfl

end Workflow
