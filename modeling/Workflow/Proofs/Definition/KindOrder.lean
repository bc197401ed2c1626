import Mathlib.Data.List.Basic
import Workflow.Proofs.Definition.Compile
import Workflow.Proofs.Graph.Consistency
import Workflow.Proofs.Graph.Kinds
import Workflow.Proofs.Json.Decoding

namespace Workflow

/-!
# What compiling depends on

Compiling goes over the nodes three times, once for each kind, and each time passes over the nodes
of the other kinds.  So it depends on the nodes of each kind in their order, and on nothing else:
not on the edges, not on the positions, and not on how the three kinds are mixed.

The steps of a definition are therefore those of the actions in the order of the nodes, whatever the
edges say.
-/

namespace NodeData

/-- The data of a trigger. -/
def trigger? : NodeData → Option TriggerData
  | .trigger d => some d
  | .condition _ | .action _ => none

/-- The data of a condition. -/
def condition? : NodeData → Option ConditionData
  | .condition d => some d
  | .trigger _ | .action _ => none

/-- The data of an action. -/
def action? : NodeData → Option ActionData
  | .action d => some d
  | .trigger _ | .condition _ => none

end NodeData

/-- The step that a node gives, if it is an action with a type. -/
def Node.step? (n : Node) : Option ActionStep :=
  match n.data with
  | .action d => d.actionType.map fun type => ⟨type, d.config, d.label⟩
  | .trigger _ | .condition _ => none

namespace Graph

variable {g h : Graph}

/-- The nodes of a kind in their order, without their positions. -/
def contents (g : Graph) (kind : NodeKind) : List (String × NodeData) :=
  (g.nodesOfKind kind).map fun n => (n.id, n.data)

/-- The data of one kind with the ids of their nodes, drawn from all nodes. -/
def draw {α : Type} (pick : NodeData → Option α) (g : Graph) : List (String × α) :=
  g.nodes.filterMap fun n => (pick n.data).map fun a => (n.id, a)

theorem triggers_eq_draw (g : Graph) : g.triggers = g.draw NodeData.trigger? := by
  apply List.filterMap_congr
  intro n _
  cases n.data <;> rfl

theorem conditions_eq_draw (g : Graph) : g.conditions = g.draw NodeData.condition? := by
  apply List.filterMap_congr
  intro n _
  cases n.data <;> rfl

theorem actions_eq_draw (g : Graph) : g.actions = g.draw NodeData.action? := by
  apply List.filterMap_congr
  intro n _
  cases n.data <;> rfl

/-- What only data of one kind have depends on the contents of this kind. -/
theorem draw_eq_of_contents {α : Type} {kind : NodeKind} {pick : NodeData → Option α}
    (own : ∀ data, data.kind ≠ kind → pick data = none)
    (same : g.contents kind = h.contents kind) : g.draw pick = h.draw pick := by
  have fromContents (g : Graph) : g.draw pick =
      (g.contents kind).filterMap fun entry => (pick entry.2).map fun a => (entry.1, a) := by
    rw [draw, contents, nodesOfKind, List.filterMap_map, List.filterMap_filter]
    apply List.filterMap_congr
    intro n _
    by_cases hit : n.kind = kind
    · simp [hit]
    · have nothing : pick n.data = none := own n.data hit
      simp [nothing]
  rw [fromContents, fromContents, same]

theorem triggers_eq_of_contents (same : g.contents .trigger = h.contents .trigger) :
    g.triggers = h.triggers := by
  rw [triggers_eq_draw, triggers_eq_draw]
  refine draw_eq_of_contents (fun data other => ?_) same
  cases data with
  | trigger d => exact absurd rfl other
  | condition d | action d => rfl

theorem conditions_eq_of_contents (same : g.contents .condition = h.contents .condition) :
    g.conditions = h.conditions := by
  rw [conditions_eq_draw, conditions_eq_draw]
  refine draw_eq_of_contents (fun data other => ?_) same
  cases data with
  | condition d => exact absurd rfl other
  | trigger d | action d => rfl

theorem actions_eq_of_contents (same : g.contents .action = h.contents .action) :
    g.actions = h.actions := by
  rw [actions_eq_draw, actions_eq_draw]
  refine draw_eq_of_contents (fun data other => ?_) same
  cases data with
  | action d => exact absurd rfl other
  | trigger d | condition d => rfl

/-- Moving a node leaves the contents of each kind as they are. -/
theorem contents_moveNode (g : Graph) (id : String) (position : Position) (kind : NodeKind) :
    (g.edit (.moveNode id position)).contents kind = g.contents kind := by
  have filtered (g : Graph) : g.contents kind =
      (g.nodes.map fun n => (n.id, n.data)).filter (·.2.kind == kind) := by
    rw [List.filter_map]
    rfl
  have kept : (g.edit (.moveNode id position)).nodes.map (fun n => (n.id, n.data)) =
      g.nodes.map fun n => (n.id, n.data) := by
    cases found : g.node? id with
    | none =>
        have refused : g.edit (.moveNode id position) = g := by
          simp only [edit, moveNode, found]
          rfl
        rw [refused]
    | some n =>
        simp only [edit, moveNode, found, Except.toOption, Option.getD_some]
        exact map_modifyFirst fun _ _ => rfl
  rw [filtered, filtered, kept]

/-- The nodes of kind action are the actions. -/
theorem map_step?_nodesOfKind (g : Graph) :
    (g.nodesOfKind .action).map Node.step? = g.actions.map fun a => (stepOf a).toOption := by
  rcases g with ⟨nodes, edges⟩
  unfold nodesOfKind
  induction nodes with
  | nil => rfl
  | cons n rest inductionHypothesis =>
      dsimp only at inductionHypothesis ⊢
      cases data : n.data with
      | action d =>
          have hit : (n.kind == .action) = true := by
            rw [Node.kind, data]
            rfl
          have step : n.step? = (stepOf (n.id, d)).toOption := by
            unfold Node.step? stepOf
            rw [data]
            dsimp only
            cases d.actionType <;> rfl
          rw [List.filter_cons, if_pos hit, actions_cons_of_action data, List.map_cons,
            List.map_cons, inductionHypothesis, step]
      | trigger d | condition d =>
          have missed : n.kind ≠ .action := by
            intro same
            rw [Node.kind, data] at same
            cases same
          rw [List.filter_cons, if_neg (by simpa using missed), actions_cons_of_ne missed,
            inductionHypothesis]

end Graph

namespace Draft

/-- Drafts that agree on the nodes of each kind are compiled alike. -/
theorem compile_eq_of_contents {d e : Draft} (name : e.name = d.name)
    (description : e.description = d.description)
    (same : ∀ kind, e.graph.contents kind = d.graph.contents kind) : e.compile = d.compile := by
  have triggers : e.graph.triggers = d.graph.triggers :=
    Graph.triggers_eq_of_contents (same .trigger)
  have conditions : e.graph.mergeConditions = d.graph.mergeConditions := by
    unfold Graph.mergeConditions
    rw [Graph.conditions_eq_of_contents (same .condition)]
  have actions : e.graph.actions = d.graph.actions := Graph.actions_eq_of_contents (same .action)
  unfold compile
  rw [triggers, conditions, actions, name, description]

/-- The steps of a definition are those of the actions, in the order of the nodes. -/
theorem steps_of_compile_ok {d : Draft} {definition : Definition}
    (compiled : d.compile = .ok definition) :
    definition.actions.map some = (d.graph.nodesOfKind .action).map Node.step? := by
  have ended := d.outcome
  rw [compiled] at ended
  cases ended with
  | compiled first typed allTyped inOrder =>
      rw [Graph.map_step?_nodesOfKind, map_toOption_of_mapM_ok inOrder]

/-- Compiling gives the same for drafts with the same name and description whose graphs have the
same triggers, the same conditions and the same actions, each in their order, however the kinds are
mixed, and wherever the nodes stand and the edges lead.  So connecting, disconnecting and moving
change nothing, and each step of a definition is that of the action with the same number. -/
theorem compile_depends_on_contents (d : Draft) :
    (∀ e : Draft, e.name = d.name → e.description = d.description →
      (∀ kind, e.graph.contents kind = d.graph.contents kind) → e.compile = d.compile) ∧
    (∀ source target,
      ({ d with graph := d.graph.connect source target } : Draft).compile = d.compile) ∧
    (∀ id, ({ d with graph := d.graph.disconnect id } : Draft).compile = d.compile) ∧
    (∀ id position,
      ({ d with graph := d.graph.edit (.moveNode id position) } : Draft).compile = d.compile) ∧
    ∀ definition, d.compile = .ok definition →
      definition.actions.map some = (d.graph.nodesOfKind .action).map Node.step? := by
  refine ⟨fun e name description same => compile_eq_of_contents name description same, ?_, ?_, ?_,
    fun definition compiled => steps_of_compile_ok compiled⟩
  · exact fun source target => compile_eq_of_contents rfl rfl fun kind => rfl
  · exact fun id => compile_eq_of_contents rfl rfl fun kind => rfl
  · exact fun id position =>
      compile_eq_of_contents rfl rfl fun kind => d.graph.contents_moveNode id position kind

/-- Two actions around a condition, before their trigger and wired backwards. -/
def backwards : Draft :=
  let position : Position := ⟨Double.largest false, Double.largest true⟩
  ⟨"Notes", "", ⟨[⟨"a", position, .action ⟨"First", some "NOTE", .empty⟩⟩,
    ⟨"c", position, .condition ⟨"", none⟩⟩,
    ⟨"b", position, .action ⟨"Second", some "NOTE", .empty⟩⟩,
    ⟨"t", position, .trigger ⟨"", some "MANUAL", .empty⟩⟩],
    [⟨"x", "t", "b"⟩, ⟨"y", "b", "a"⟩]⟩⟩

/-- The trigger may as well come first, and the edges may go. -/
def forwards : Draft :=
  ⟨"Notes", "", ⟨[⟨"t", .origin, .trigger ⟨"", some "MANUAL", .empty⟩⟩,
    ⟨"a", .origin, .action ⟨"First", some "NOTE", .empty⟩⟩,
    ⟨"b", .origin, .action ⟨"Second", some "NOTE", .empty⟩⟩,
    ⟨"c", .origin, .condition ⟨"", none⟩⟩], []⟩⟩

/-- Both are compiled to the same definition, its steps in the order of the nodes. -/
theorem compile_depends_on_contents_backwards :
    backwards.compile = forwards.compile ∧
      ∃ definition, backwards.compile = .ok definition ∧
        definition.actions.map some =
          [some ⟨"NOTE", .empty, "First"⟩, some ⟨"NOTE", .empty, "Second"⟩] := by
  have same : ∀ kind, backwards.graph.contents kind = forwards.graph.contents kind := by
    intro kind
    cases kind <;> rfl
  have compiled : backwards.compile = .ok _ := rfl
  refine ⟨(compile_depends_on_contents forwards).1 backwards rfl rfl same, _, compiled, ?_⟩
  exact (compile_depends_on_contents backwards).2.2.2.2 _ compiled

end Draft

end Workflow
