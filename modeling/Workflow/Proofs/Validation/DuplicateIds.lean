import Workflow.Definition.Reconstruct
import Workflow.Proofs.Validation.Rules

namespace Workflow

/-!
# Ids that are given twice

No check compares the ids of nodes.  But an id names the last node that has it, so no edge can lead
to an earlier one: of several nodes with one id all but the last are orphans, whatever the edges
are.  A graph that may be saved therefore has an id for each node.
-/

namespace Graph

variable {g : Graph}

/-- Some node further on has the id of the node. -/
def Shadowed (g : Graph) (i : Fin g.nodes.length) : Prop :=
  ∃ j, i < j ∧ (g.nodes.get j).id = (g.nodes.get i).id

/-- No id names a node that is shadowed. -/
theorem Shadowed.not_names {i : Fin g.nodes.length} (shadowed : g.Shadowed i) (id : String) :
    ¬ g.Names id i := by
  rintro ⟨own, last⟩
  rcases shadowed with ⟨j, later, same⟩
  exact last j later (same.trans own)

theorem Shadowed.not_adjacent {i : Fin g.nodes.length} (shadowed : g.Shadowed i) :
    ¬ ∃ j, g.Adjacent i j := by
  rintro ⟨j, e, _, ⟨source, _⟩ | ⟨_, target⟩⟩
  · exact shadowed.not_names e.source source
  · exact shadowed.not_names e.target target

theorem Shadowed.several {i : Fin g.nodes.length} (shadowed : g.Shadowed i) :
    2 ≤ g.nodes.length := by
  rcases shadowed with ⟨j, later, _⟩
  have order : i.val < j.val := later
  omega

theorem nodup_ids_iff : (g.nodes.map Node.id).Nodup ↔ ∀ i, ¬ g.Shadowed i := by
  rw [List.Nodup, List.pairwise_map, List.pairwise_iff_get]
  constructor
  · rintro apart i ⟨j, later, same⟩
    exact apart i j later same.symm
  · intro free i j later same
    exact free i ⟨j, later, same.symm⟩

end Graph

namespace Validation

open Rules

theorem mem_brokenAt_iff {n : Nat} {broken : Fin n → Prop} {violation : Fin n → Violation}
    {v : Violation} : v ∈ brokenAt broken violation ↔ ∃ i, broken i ∧ v = violation i := by
  unfold brokenAt
  rw [List.mem_filterMap]
  constructor
  · rintro ⟨i, _, listed⟩
    split at listed
    · next holds => exact ⟨i, holds, (Option.some.inj listed).symm⟩
    · cases listed
  · rintro ⟨i, holds, rfl⟩
    exact ⟨i, List.mem_finRange i, if_pos holds⟩

theorem brokenAt_eq_nil {n : Nat} {broken : Fin n → Prop} {violation : Fin n → Violation}
    (none : ∀ i, ¬ broken i) : brokenAt broken violation = [] := by
  refine List.eq_nil_iff_forall_not_mem.mpr ?_
  intro v member
  rcases mem_brokenAt_iff.mp member with ⟨i, holds, _⟩
  exact none i holds

/-- A rule that is broken at fewer positions lists fewer violations, in the same order. -/
theorem brokenAt_sublist {n : Nat} {fewer more : Fin n → Prop} (weaker : ∀ i, fewer i → more i)
    (violation : Fin n → Violation) :
    (brokenAt fewer violation).Sublist (brokenAt more violation) := by
  induction n with
  | zero => exact List.Sublist.refl _
  | succ n inductionHypothesis =>
      classical
      rw [brokenAt_succ fewer, brokenAt_succ more]
      refine List.Sublist.append ?_ (inductionHypothesis (fun i => weaker i.succ) _)
      by_cases first : fewer 0
      · rw [if_pos first, if_pos (weaker 0 first)]
      · rw [if_neg first]
        exact List.nil_sublist _

/-- With several nodes, the orphans are among the violations. -/
theorem orphanRule_sublist_validate (schemas : Registry) (name : String) {g : Graph}
    (several : 2 ≤ g.nodes.length) :
    (orphanRule g).Sublist (validate schemas name g).violations := by
  have inhabited : ¬ g.nodes.isEmpty = true := by
    rw [List.isEmpty_iff]
    intro none
    rw [none] at several
    exact absurd several (by decide)
  have connection : connectivityViolations g = orphanViolations g ++ componentViolations g :=
    if_neg (by omega)
  rw [← orphanViolations_eq]
  unfold validate graphViolations
  rw [if_neg inhabited, connection]
  calc
    (orphanViolations g).Sublist (orphanViolations g ++ componentViolations g) :=
      List.sublist_append_left _ _
    List.Sublist _ (_ ++ (orphanViolations g ++ componentViolations g)) :=
      List.sublist_append_right _ _
    List.Sublist _ (nameViolations name ++ _) := List.sublist_append_right _ _

/-- Whoever is shadowed is listed as an orphan. -/
theorem shadowed_sublist_validate (schemas : Registry) (name : String) (g : Graph) :
    (brokenAt g.Shadowed fun i =>
      .orphanNode (g.nodes.get i).id (g.nodes.get i).displayName).Sublist
        (validate schemas name g).violations := by
  by_cases several : 2 ≤ g.nodes.length
  · have orphans : (brokenAt g.Shadowed fun i =>
        .orphanNode (g.nodes.get i).id (g.nodes.get i).displayName).Sublist (orphanRule g) :=
      brokenAt_sublist (fun _ shadowed => shadowed.not_adjacent) _
    exact orphans.trans (orphanRule_sublist_validate schemas name several)
  · -- A single node need not be connected, and there is nothing behind it.
    rw [brokenAt_eq_nil fun i shadowed => several shadowed.several]
    exact List.nil_sublist _

/-- Of the nodes that share an id, each but the last is reported as an orphan of its own.  So the
nodes of a valid graph have different ids. -/
theorem duplicate_ids_are_orphans (schemas : Registry) (name : String) (g : Graph) :
    ((validate schemas name g).isValid = true → (g.nodes.map Node.id).Nodup) ∧
      (brokenAt g.Shadowed fun i =>
        .orphanNode (g.nodes.get i).id (g.nodes.get i).displayName).Sublist
          (validate schemas name g).violations := by
  have reported := shadowed_sublist_validate schemas name g
  refine ⟨?_, reported⟩
  intro valid
  rw [List.isEmpty_iff.mp valid, List.sublist_nil] at reported
  refine Graph.nodup_ids_iff.mpr ?_
  intro i shadowed
  exact List.not_mem_nil (reported ▸ mem_brokenAt_iff.mpr ⟨i, shadowed, rfl⟩)

/-- A manual trigger with an action is valid.  With both nodes put in a second time, the first copy
of the action is an orphan. -/
theorem duplicate_ids_are_orphans_manual :
    let note : ActionStep := ⟨"NOTE", .ofList [("text", .null)], "Note"⟩
    let g := Definition.reconstruct ⟨"Manual", "", "MANUAL", .empty, .empty, [note], none⟩
    let twice := g.nodes.foldl Graph.insertNode g
    (validate .builtIn "Manual" g).isValid = true ∧ (g.nodes.map Node.id).Nodup ∧
      .orphanNode "action-1" "Note" ∈ (validate .builtIn "Manual" twice).violations := by
  intro note g twice
  have valid : (validate .builtIn "Manual" g).isValid = true := by decide +kernel
  have shadowed : twice.Shadowed ⟨1, by decide⟩ := ⟨⟨3, by decide⟩, by decide, rfl⟩
  have complaint : Violation.orphanNode (twice.nodes.get ⟨1, by decide⟩).id
      (twice.nodes.get ⟨1, by decide⟩).displayName = .orphanNode "action-1" "Note" := by
    decide +kernel
  have listed := (duplicate_ids_are_orphans .builtIn "Manual" twice).2.subset
    (mem_brokenAt_iff.mpr ⟨_, shadowed, rfl⟩)
  rw [complaint] at listed
  exact ⟨valid, (duplicate_ids_are_orphans .builtIn "Manual" g).1 valid, listed⟩

end Validation

end Workflow
