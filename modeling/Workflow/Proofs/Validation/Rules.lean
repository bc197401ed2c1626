import Workflow.Proofs.Graph.Reach
import Workflow.Proofs.Validation.Sections

namespace Workflow

/-!
# What a report must list

The rules for a graph are stated here by positions, ranks and paths, without the functions that
check them: an action is known by its rank among the actions, an orphan by having no adjacent
position, and the connected part of a graph by its size as a set.  The main statement is that the
check of a graph lists exactly what the rules say, in their order.
-/

namespace Rules

open scoped Classical in
/-- One violation for each position at which a rule is broken, in order of the positions. -/
noncomputable def brokenAt {n : Nat} (broken : Fin n → Prop) (violation : Fin n → Violation) :
    List Violation :=
  (List.finRange n).filterMap fun i => if broken i then some (violation i) else none

/-- The rank of a position among the actions, counted from one. -/
def actionRank (g : Graph) (i : Fin g.nodes.length) : Nat :=
  (g.nodes.take (i + 1)).countP (·.kind = .action)

/-- The name is not empty once it is trimmed. -/
def nameRule (name : String) : List Violation :=
  if Text.trim name = "" then [.missingName] else []

/-- There is one trigger. -/
def triggerCountRule (g : Graph) : List Violation :=
  let count := g.nodes.countP (·.kind = .trigger)
  if count = 0 then [.noTrigger] else if 2 ≤ count then [.multipleTriggers count] else []

/-- The first trigger has a type. -/
def triggerTypeRule (g : Graph) : List Violation :=
  match g.nodes.find? (·.kind = .trigger) with
  | some n => if n.triggerType = none then [.untypedTrigger n.id] else []
  | none => []

/-- Every action has a type. -/
noncomputable def actionTypeRule (g : Graph) : List Violation :=
  brokenAt (fun i => (g.nodes.get i).kind = .action ∧ (g.nodes.get i).actionType = none)
    fun i => .untypedAction (actionRank g i) (g.nodes.get i).id

/-- The config of a node; a condition has none. -/
def configOf (n : Node) : Object :=
  match n.data with
  | .trigger d => d.config
  | .action d => d.config
  | .condition _ => .empty

/-- The config of every node with a type satisfies the schema of the type. -/
def configRule (schemas : Registry) (g : Graph) : List Violation :=
  g.nodes.flatMap fun n =>
    match n.triggerType.or n.actionType with
    | some type =>
      (schemas.checkConfig n.kind type (configOf n)).map (.incompleteConfig n.id n.displayName)
    | none => []

/-- Every node is adjacent to some node. -/
noncomputable def orphanRule (g : Graph) : List Violation :=
  brokenAt (fun i => ¬ ∃ j, g.Adjacent i j)
    fun i => .orphanNode (g.nodes.get i).id (g.nodes.get i).displayName

open scoped Classical in
/-- The component of a position is everything. -/
noncomputable def componentRule (g : Graph) (i : Fin g.nodes.length) : List Violation :=
  if g.component i = Set.univ then []
  else [.disconnected (g.component i).ncard g.nodes.length]

/-- A graph with at least two nodes is connected. -/
noncomputable def connectionRule (g : Graph) : List Violation :=
  if several : 2 ≤ g.nodes.length then orphanRule g ++ componentRule g ⟨0, by omega⟩ else []

/-- All that a graph violates under a name.  A graph without nodes violates nothing else. -/
noncomputable def violations (schemas : Registry) (name : String) (g : Graph) : List Violation :=
  nameRule name ++
    if g.nodes = [] then [.empty]
    else triggerCountRule g ++ triggerTypeRule g ++ actionTypeRule g ++ configRule schemas g ++
      connectionRule g

end Rules

namespace Validation

open Rules

theorem nameViolations_eq (name : String) : nameViolations name = nameRule name := by
  unfold nameViolations nameRule
  simp only [Text.trim_eq_empty_iff]

theorem triggerCountViolations_eq (g : Graph) : triggerCountViolations g = triggerCountRule g := by
  unfold triggerCountViolations triggerCountRule
  rw [Graph.triggers_length]
  generalize g.nodes.countP (·.kind = .trigger) = count
  match count with
  | 0 => rfl
  | 1 => rfl
  | more + 2 => simp

theorem triggerTypeViolations_eq (g : Graph) : triggerTypeViolations g = triggerTypeRule g := by
  rcases g with ⟨nodes, edges⟩
  unfold triggerTypeViolations triggerTypeRule Graph.triggers
  induction nodes with
  | nil => rfl
  | cons n rest inductionHypothesis =>
      cases data : n.data with
      | trigger d => simp [data, Node.kind, NodeData.kind, Node.triggerType]
      | condition d => simpa [data, Node.kind, NodeData.kind] using inductionHypothesis
      | action d => simpa [data, Node.kind, NodeData.kind] using inductionHypothesis

/-- A rule is first checked at the first position, and then at those that follow it. -/
theorem brokenAt_succ {n : Nat} (broken : Fin (n + 1) → Prop) (violation : Fin (n + 1) → Violation)
    [Decidable (broken 0)] :
    brokenAt broken violation = (if broken 0 then [violation 0] else []) ++
      brokenAt (fun i => broken i.succ) fun i => violation i.succ := by
  unfold brokenAt
  rw [List.finRange_succ, List.filterMap_cons, List.filterMap_map]
  by_cases first : broken 0
  · simp only [if_pos first, List.singleton_append]
    rfl
  · simp only [if_neg first, List.nil_append]
    rfl

/-- Numbering the actions of a list from `k` gives each its rank in the list, above `k`. -/
theorem untyped_ranks (nodes : List Node) (edges : List Edge) (k : Nat) :
    ((Graph.actions ⟨nodes, edges⟩).zipIdx k).filterMap complaint =
      brokenAt (fun i => (nodes.get i).kind = .action ∧ (nodes.get i).actionType = none)
        fun i =>
          .untypedAction (k + (nodes.take (i + 1)).countP (·.kind = .action)) (nodes.get i).id := by
  induction nodes generalizing k with
  | nil => rfl
  | cons n rest inductionHypothesis =>
      refine Eq.trans ?_ (brokenAt_succ _ _).symm
      by_cases action : n.kind = .action
      · cases data : n.data with
        | trigger d => cases (congrArg NodeData.kind data).symm.trans action
        | condition d => cases (congrArg NodeData.kind data).symm.trans action
        | action d =>
            have sameType : n.actionType = d.actionType := by simp [Node.actionType, data]
            rw [Graph.actions_cons_of_action data, List.zipIdx_cons, List.filterMap_cons,
              inductionHypothesis]
            cases type : d.actionType with
            | none =>
                simp [complaint, type, sameType, action, Nat.add_assoc, Nat.add_comm,
                  Nat.add_left_comm]
            | some type =>
                simp [complaint, type, sameType, action, Nat.add_assoc, Nat.add_comm,
                  Nat.add_left_comm]
      · rw [Graph.actions_cons_of_ne action, inductionHypothesis]
        simp [action]

theorem actionTypeViolations_eq (g : Graph) : actionTypeViolations g = actionTypeRule g := by
  have ranked := untyped_ranks g.nodes g.edges 0
  simp only [Nat.zero_add] at ranked
  exact ranked

theorem configViolations_eq (schemas : Registry) (g : Graph) :
    configViolations schemas g = configRule schemas g := by
  unfold configViolations configRule
  congr 1
  funext n
  rcases n with ⟨id, position, data⟩
  cases data with
  | trigger d => rcases d with ⟨label, _ | type, config⟩ <;> rfl
  | condition d => rfl
  | action d => rcases d with ⟨label, _ | type, config⟩ <;> rfl

theorem orphanViolations_eq (g : Graph) : orphanViolations g = orphanRule g := by
  have numbered : g.nodes.zipIdx =
      (List.finRange g.nodes.length).map fun i => (g.nodes[i], i.val) := by
    apply List.ext_getElem
    · simp
    · intro k bound _
      simp
  unfold orphanViolations orphanRule brokenAt
  simp only [numbered, List.filterMap_map]
  apply List.filterMap_congr
  intro i _
  by_cases linked : ∃ j, g.Adjacent i j
  · have touched : Adjacency.touches g.links i = true := Graph.isIncident_iff.mpr linked
    simp [touched, linked]
  · have untouched : ¬ Adjacency.touches g.links i = true := mt Graph.isIncident_iff.mp linked
    simp [untouched, linked]

theorem componentViolations_eq (g : Graph) (nonempty : 0 < g.nodes.length) :
    componentViolations g = componentRule g ⟨0, nonempty⟩ := by
  have counted : reachableCount g = (g.component ⟨0, nonempty⟩).ncard :=
    Graph.count_reachedFrom ⟨0, nonempty⟩
  have missing : reachableCount g < g.nodes.length ↔ g.component ⟨0, nonempty⟩ ≠ Set.univ :=
    Graph.count_reachedFrom_lt_iff ⟨0, nonempty⟩
  unfold componentViolations componentRule
  by_cases whole : g.component ⟨0, nonempty⟩ = Set.univ
  · rw [if_pos whole, if_neg (fun fewer => missing.mp fewer whole)]
  · rw [if_neg whole, if_pos (missing.mpr whole), counted]

theorem connectivityViolations_eq (g : Graph) : connectivityViolations g = connectionRule g := by
  unfold connectivityViolations connectionRule
  by_cases several : 2 ≤ g.nodes.length
  · rw [dif_pos several, if_neg (by omega), orphanViolations_eq, componentViolations_eq]
  · rw [dif_neg several, if_pos (by omega)]

/-- The check of a graph lists exactly what the rules say, in their order. -/
theorem validate_violations (schemas : Registry) (name : String) (g : Graph) :
    (validate schemas name g).violations = Rules.violations schemas name g := by
  have empty : g.nodes.isEmpty = true ↔ g.nodes = [] := List.isEmpty_iff
  unfold validate Rules.violations graphViolations
  simp only [nameViolations_eq, triggerCountViolations_eq, triggerTypeViolations_eq,
    actionTypeViolations_eq, configViolations_eq, connectivityViolations_eq, empty]

end Validation

end Workflow
