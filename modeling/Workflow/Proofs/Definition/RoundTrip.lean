import Workflow.Proofs.Definition.Chain

namespace Workflow

/-!
# Compiling a reconstructed chain

A chain has the trigger and the actions of its definition and nothing else, each with its type, its
config and its text unchanged.  Compiling it therefore gives the definition again, but for what a
chain cannot hold: the conditions and the version.
-/

namespace Definition

/-- The data of the `i`-th action of a chain. -/
def chainAction (step : ActionStep) (i : Nat) : String × ActionData :=
  (actionId i, ⟨step.description, some step.type, step.config⟩)

/-- Each of the actions is compiled to the step that it was made from. -/
theorem mapM_stepOf_chainAction (steps : List ActionStep) (i : Nat) :
    ((steps.zipIdx i).map fun numbered => chainAction numbered.1 numbered.2).mapM Graph.stepOf =
      .ok steps := by
  induction steps generalizing i with
  | nil => rfl
  | cons step rest inductionHypothesis =>
      rw [List.zipIdx_cons, List.map_cons, List.mapM_cons, inductionHypothesis]
      rfl

variable (d : Definition)

theorem triggers_reconstruct : d.reconstruct.triggers =
    [("trigger-1", ⟨"Trigger", some d.triggerType, d.triggerConfig⟩)] := by
  unfold Graph.triggers
  rw [nodes_reconstruct, List.filterMap_cons, List.filterMap_map]
  simp [triggerNode, actionNode, Function.comp_def]

theorem conditions_reconstruct : d.reconstruct.conditions = [] := by
  unfold Graph.conditions
  rw [nodes_reconstruct, List.filterMap_cons, List.filterMap_map]
  simp [triggerNode, actionNode, Function.comp_def]

theorem actions_reconstruct : d.reconstruct.actions =
    (d.actions.zipIdx 1).map fun numbered => chainAction numbered.1 numbered.2 := by
  unfold Graph.actions
  rw [nodes_reconstruct, List.filterMap_cons_none rfl, List.filterMap_map,
    ← List.filterMap_eq_map]
  rfl

/-- Without conditions nothing is merged. -/
theorem mergeConditions_reconstruct : d.reconstruct.mergeConditions = ⟨.empty, []⟩ := by
  unfold Graph.mergeConditions
  rw [conditions_reconstruct]
  rfl

/-- Compiling the chain of a definition gives the definition, without conditions and version. -/
theorem compile_toDraft :
    d.toDraft.compile = .ok { d with conditions := .empty, version := none } := by
  unfold Draft.compile toDraft
  rw [triggers_reconstruct]
  simp only [actions_reconstruct, mapM_stepOf_chainAction, mergeConditions_reconstruct]

end Definition

end Workflow
