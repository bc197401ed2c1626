import Workflow.Proofs.Definition.Compile
import Workflow.Proofs.Definition.RoundTrip
import Workflow.Proofs.Graph.EmptyTypes

namespace Workflow

/-!
# Empty types in definitions

A definition has all its types, but they may be empty.  Compiling takes the types of a graph as they
are, and so does the chain of a definition: the one has an empty type exactly if the other has.
-/

/-- Neither the trigger nor an action has an empty type. -/
def Definition.NoEmptyTypes (d : Definition) : Prop :=
  d.triggerType ≠ "" ∧ ∀ step ∈ d.actions, step.type ≠ ""

namespace Graph

theorem mem_triggers {g : Graph} {id : String} {t : TriggerData} :
    (id, t) ∈ g.triggers ↔ ∃ n ∈ g.nodes, n.id = id ∧ n.data = .trigger t := by
  unfold triggers
  rw [List.mem_filterMap]
  constructor
  · rintro ⟨n, member, found⟩
    refine ⟨n, member, ?_⟩
    rcases n with ⟨name, position, d | d | d⟩ <;> cases found
    exact ⟨rfl, rfl⟩
  · rintro ⟨⟨name, position, data⟩, member, rfl, rfl⟩
    exact ⟨_, member, rfl⟩

theorem mem_actions {g : Graph} {id : String} {a : ActionData} :
    (id, a) ∈ g.actions ↔ ∃ n ∈ g.nodes, n.id = id ∧ n.data = .action a := by
  unfold actions
  rw [List.mem_filterMap]
  constructor
  · rintro ⟨n, member, found⟩
    refine ⟨n, member, ?_⟩
    rcases n with ⟨name, position, d | d | d⟩ <;> cases found
    exact ⟨rfl, rfl⟩
  · rintro ⟨⟨name, position, data⟩, member, rfl, rfl⟩
    exact ⟨_, member, rfl⟩

end Graph

theorem Draft.noEmptyTypes_of_compile {d : Draft} {definition : Definition}
    (nonempty : d.graph.NoEmptyTypes) (compiled : d.compile = .ok definition) :
    definition.NoEmptyTypes := by
  have ended := d.outcome
  rw [compiled] at ended
  cases ended with
  | @compiled id t rest type steps first typed allTyped inOrder =>
      refine ⟨?_, ?_⟩
      · intro empty
        have member : (id, t) ∈ d.graph.triggers := first ▸ List.mem_cons_self
        rcases Graph.mem_triggers.mp member with ⟨n, inside, _, data⟩
        have given := nonempty n inside
        rw [data] at given
        exact given (typed.trans (congrArg some empty))
      · intro step member empty
        rcases exists_of_mem_mapM_ok inOrder member with ⟨⟨name, a⟩, found, made⟩
        rcases Graph.mem_actions.mp found with ⟨n, inside, _, data⟩
        have given := nonempty n inside
        rw [data] at given
        unfold Graph.stepOf at made
        cases chosen : a.actionType with
        | none =>
            rw [chosen] at made
            cases made
        | some type =>
            rw [chosen] at made
            obtain rfl := Except.ok.inj made
            exact given (chosen.trans (congrArg some empty))

/-- The chain of a definition keeps its types, empty ones too. -/
theorem Definition.noEmptyTypes_reconstruct_iff (d : Definition) :
    d.reconstruct.NoEmptyTypes ↔ d.NoEmptyTypes := by
  have trigger : d.triggerNode.data.NoEmptyType ↔ d.triggerType ≠ "" := by
    change some d.triggerType ≠ some "" ↔ _
    rw [ne_eq, Option.some_inj]
  have action (step : ActionStep) (i : Nat) :
      (actionNode step i).data.NoEmptyType ↔ step.type ≠ "" := by
    change some step.type ≠ some "" ↔ _
    rw [ne_eq, Option.some_inj]
  have actions : (∀ numbered ∈ d.actions.zipIdx 1, numbered.1.type ≠ "") ↔
      ∀ step ∈ d.actions, step.type ≠ "" := by
    have steps : (d.actions.zipIdx 1).map Prod.fst = d.actions := List.zipIdx_map_fst 1 d.actions
    have mapped : (∀ step ∈ (d.actions.zipIdx 1).map Prod.fst, step.type ≠ "") ↔
      ∀ numbered ∈ d.actions.zipIdx 1, numbered.1.type ≠ "" := List.forall_mem_map
    rw [steps] at mapped
    exact mapped.symm
  unfold Graph.NoEmptyTypes NoEmptyTypes
  rw [nodes_reconstruct, List.forall_mem_cons, List.forall_mem_map, trigger, ← actions]
  simp only [action]

end Workflow
