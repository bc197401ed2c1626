import Workflow.Proofs.Graph.Kinds
import Workflow.Validation

namespace Workflow

/-!
# The sections of a report

A report is put together from one list for each check.  For each of them it is said here which
violations it can hold and when, so that what is known of one check is not confused with another.
-/

namespace Validation

variable {schemas : Registry} {name : String} {g : Graph} {v : Violation}

theorem mem_nameViolations_iff :
    v ∈ nameViolations name ↔ Text.isBlank name = true ∧ v = .missingName := by
  unfold nameViolations
  by_cases blank : Text.isBlank name = true
  · simp [blank]
  · simp [blank]

theorem mem_triggerCountViolations_iff :
    v ∈ triggerCountViolations g ↔ (g.triggers = [] ∧ v = .noTrigger) ∨
      (2 ≤ g.triggers.length ∧ v = .multipleTriggers g.triggers.length) := by
  unfold triggerCountViolations
  cases g.triggers with
  | nil => simp
  | cons first rest =>
      cases rest with
      | nil => simp
      | cons second others => simp

theorem mem_triggerTypeViolations_iff :
    v ∈ triggerTypeViolations g ↔ ∃ id d rest, g.triggers = (id, d) :: rest ∧
      d.triggerType = none ∧ v = .untypedTrigger id := by
  unfold triggerTypeViolations
  cases g.triggers with
  | nil => simp
  | cons first rest =>
      rcases first with ⟨id, d⟩
      constructor
      · intro member
        cases type : d.triggerType with
        | none => exact ⟨id, d, rest, rfl, type, by simpa [type] using member⟩
        | some type => simp [type] at member
      · rintro ⟨_, _, _, same, type, rfl⟩
        cases same
        simp [type]

theorem mem_actionTypeViolations_iff :
    v ∈ actionTypeViolations g ↔ ∃ i id d, g.actions[i]? = some (id, d) ∧
      d.actionType = none ∧ v = .untypedAction (i + 1) id := by
  unfold actionTypeViolations
  rw [List.mem_filterMap]
  constructor
  · rintro ⟨⟨⟨id, d⟩, i⟩, numbered, complaint⟩
    rw [List.mk_mem_zipIdx_iff_getElem?] at numbered
    cases type : d.actionType with
    | none => exact ⟨i, id, d, numbered, type, by simpa [type] using complaint.symm⟩
    | some type => simp [type] at complaint
  · rintro ⟨i, id, d, numbered, type, rfl⟩
    exact ⟨((id, d), i), List.mk_mem_zipIdx_iff_getElem?.mpr numbered, by simp [type]⟩

/-- An action without a type, with its place in a numbering of the actions. -/
def complaint (numbered : (String × ActionData) × Nat) : Option Violation :=
  if numbered.1.2.actionType.isNone then
    some (.untypedAction (numbered.2 + 1) numbered.1.1)
  else none

theorem actionTypeViolations_eq_complaints :
    actionTypeViolations g = g.actions.zipIdx.filterMap complaint := rfl

theorem mem_configViolations_iff :
    v ∈ configViolations schemas g ↔ ∃ n ∈ g.nodes, ∃ issue ∈ nodeIssues schemas n,
      v = .incompleteConfig n.id n.displayName issue := by
  unfold configViolations
  simp only [List.mem_flatMap, List.mem_map, eq_comm]

theorem mem_connectivityViolations_iff :
    v ∈ connectivityViolations g ↔ 2 ≤ g.nodes.length ∧
      ((∃ i n, g.nodes[i]? = some n ∧ g.isIncident i = false ∧
          v = .orphanNode n.id n.displayName) ∨
        (reachableCount g < g.nodes.length ∧
          v = .disconnected (reachableCount g) g.nodes.length)) := by
  have orphan : v ∈ orphanViolations g ↔ ∃ i n, g.nodes[i]? = some n ∧ g.isIncident i = false ∧
      v = .orphanNode n.id n.displayName := by
    unfold orphanViolations Graph.isIncident
    rw [List.mem_filterMap]
    constructor
    · rintro ⟨⟨n, i⟩, numbered, complaint⟩
      rw [List.mk_mem_zipIdx_iff_getElem?] at numbered
      cases linked : Adjacency.touches g.links i with
      | true => simp [linked] at complaint
      | false => exact ⟨i, n, numbered, linked, by simpa [linked] using complaint.symm⟩
    · rintro ⟨i, n, numbered, linked, rfl⟩
      exact ⟨(n, i), List.mk_mem_zipIdx_iff_getElem?.mpr numbered, by simp [linked]⟩
  have parted : v ∈ componentViolations g ↔ reachableCount g < g.nodes.length ∧
      v = .disconnected (reachableCount g) g.nodes.length := by
    unfold componentViolations
    by_cases missing : reachableCount g < g.nodes.length
    · simp [missing]
    · simp [missing]
  unfold connectivityViolations
  by_cases several : 2 ≤ g.nodes.length
  · rw [if_neg (by omega), List.mem_append, orphan, parted]
    exact ⟨fun either => ⟨several, either⟩, fun both => both.2⟩
  · rw [if_pos (by omega)]
    simp [several]

/-- A violation is reported by one of the checks; those of the graph are left out if there are no
nodes. -/
theorem mem_validate_iff :
    v ∈ (validate schemas name g).violations ↔
      v ∈ nameViolations name ∨ (g.nodes = [] ∧ v = .empty) ∨
        (g.nodes ≠ [] ∧ (v ∈ triggerCountViolations g ∨ v ∈ triggerTypeViolations g ∨
          v ∈ actionTypeViolations g ∨ v ∈ configViolations schemas g ∨
          v ∈ connectivityViolations g)) := by
  unfold validate graphViolations
  rw [List.mem_append]
  by_cases none : g.nodes = []
  · simp [none]
  · simp [none]

theorem empty_mem_iff : .empty ∈ (validate schemas name g).violations ↔ g.nodes = [] := by
  simp [mem_validate_iff, mem_nameViolations_iff, mem_triggerCountViolations_iff,
    mem_triggerTypeViolations_iff, mem_actionTypeViolations_iff, mem_configViolations_iff,
    mem_connectivityViolations_iff]

theorem noTrigger_mem_iff :
    .noTrigger ∈ (validate schemas name g).violations ↔ g.nodes ≠ [] ∧ g.triggers = [] := by
  simp [mem_validate_iff, mem_nameViolations_iff, mem_triggerCountViolations_iff,
    mem_triggerTypeViolations_iff, mem_actionTypeViolations_iff, mem_configViolations_iff,
    mem_connectivityViolations_iff]

theorem untypedTrigger_mem_iff {id : String} :
    .untypedTrigger id ∈ (validate schemas name g).violations ↔
      ∃ t rest, g.triggers = (id, t) :: rest ∧ t.triggerType = none := by
  have here : .untypedTrigger id ∈ (validate schemas name g).violations ↔
      g.nodes ≠ [] ∧ .untypedTrigger id ∈ triggerTypeViolations g := by
    simp [mem_validate_iff, mem_nameViolations_iff, mem_triggerCountViolations_iff,
      mem_actionTypeViolations_iff, mem_configViolations_iff, mem_connectivityViolations_iff]
  rw [here, mem_triggerTypeViolations_iff]
  constructor
  · rintro ⟨_, _, t, rest, first, untyped, same⟩
    cases same
    exact ⟨t, rest, first, untyped⟩
  · rintro ⟨t, rest, first, untyped⟩
    refine ⟨?_, id, t, rest, first, untyped, rfl⟩
    intro none
    rw [Graph.triggers_eq_nil_of_nodes none] at first
    cases first

end Validation

end Workflow
