import Workflow.Graph.Basic

namespace Workflow

/-!
# Nodes by kind

The triggers, the conditions and the actions of a graph are drawn from its nodes in order, each with
its data.  These are the laws by which a list of nodes is taken apart.
-/

namespace Graph

theorem triggers_length (g : Graph) : g.triggers.length = g.nodes.countP (·.kind = .trigger) := by
  rcases g with ⟨nodes, edges⟩
  unfold triggers
  induction nodes with
  | nil => rfl
  | cons n rest inductionHypothesis =>
      cases data : n.data with
      | trigger d => simp [data, Node.kind, NodeData.kind, inductionHypothesis]
      | condition d => simp [data, Node.kind, NodeData.kind, inductionHypothesis]
      | action d => simp [data, Node.kind, NodeData.kind, inductionHypothesis]

theorem actions_cons_of_action {n : Node} {d : ActionData} (data : n.data = .action d)
    (rest : List Node) (edges : List Edge) :
    actions ⟨n :: rest, edges⟩ = (n.id, d) :: actions ⟨rest, edges⟩ := by
  simp [actions, data]

theorem actions_cons_of_ne {n : Node} (other : n.kind ≠ .action) (rest : List Node)
    (edges : List Edge) : actions ⟨n :: rest, edges⟩ = actions ⟨rest, edges⟩ := by
  cases data : n.data with
  | action d => exact absurd (congrArg NodeData.kind data) other
  | trigger d => simp [actions, data]
  | condition d => simp [actions, data]

theorem triggers_eq_nil_of_nodes {g : Graph} (none : g.nodes = []) : g.triggers = [] := by
  simp [triggers, none]

theorem actions_eq_nil_of_nodes {g : Graph} (none : g.nodes = []) : g.actions = [] := by
  simp [actions, none]

end Graph

end Workflow
