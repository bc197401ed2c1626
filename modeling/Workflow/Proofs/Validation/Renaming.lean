import Workflow.Proofs.Definition.Conditions
import Workflow.Proofs.Definition.KindOrder
import Workflow.Proofs.Graph.Renaming
import Workflow.Validation

namespace Workflow

/-!
# Checking and compiling under other ids

An id shows in a report where a violation is about its node, and in a refusal to compile.  Nothing
else that a check or a compilation gives says anything of ids: neither which violations there are,
nor their order, nor ranks, labels and counts, nor a definition.  So under other ids a graph has the
same report and the same definition, or is refused for the same reason, with the other ids in the
places of the old ones.
-/

/-- The violation with another id for its node. -/
def Violation.rename (r : String → String) : Violation → Violation
  | .untypedTrigger id => .untypedTrigger (r id)
  | .untypedAction position id => .untypedAction position (r id)
  | .incompleteConfig id label issue => .incompleteConfig (r id) label issue
  | .orphanNode id label => .orphanNode (r id) label
  | .missingName => .missingName
  | .empty => .empty
  | .noTrigger => .noTrigger
  | .multipleTriggers count => .multipleTriggers count
  | .disconnected reachable total => .disconnected reachable total

/-- The report with other ids for its nodes. -/
def Report.rename (r : String → String) (report : Report) : Report :=
  ⟨report.violations.map (Violation.rename r)⟩

/-- The failure with another id for its node. -/
def CompileError.rename (r : String → String) : CompileError → CompileError
  | .missingTrigger => .missingTrigger
  | .untypedTrigger id => .untypedTrigger (r id)
  | .untypedAction id => .untypedAction (r id)

/-- The draft with other ids in its graph. -/
def Draft.rename (r : String → String) (d : Draft) : Draft := { d with graph := d.graph.rename r }

namespace Graph

/-! ## Nodes by kind -/

theorem draw_rename {α : Type} (pick : NodeData → Option α) (r : String → String) (g : Graph) :
    (g.rename r).draw pick = (g.draw pick).map fun entry => (r entry.1, entry.2) := by
  unfold draw rename
  rw [List.filterMap_map, List.map_filterMap]
  apply List.filterMap_congr
  intro n _
  rw [Option.map_map]
  rfl

theorem triggers_rename (r : String → String) (g : Graph) :
    (g.rename r).triggers = g.triggers.map fun entry => (r entry.1, entry.2) := by
  rw [triggers_eq_draw, triggers_eq_draw, draw_rename]

theorem actions_rename (r : String → String) (g : Graph) :
    (g.rename r).actions = g.actions.map fun entry => (r entry.1, entry.2) := by
  rw [actions_eq_draw, actions_eq_draw, draw_rename]

/-- What is merged of the conditions has nothing of their ids. -/
theorem merged_mergeConditions (g : Graph) : g.mergeConditions.merged =
    g.nodes.foldl (fun merged n =>
      n.condition.entries.foldl (fun d entry => d.insert entry.1 entry.2) merged) .empty := by
  rw [mergeConditions_eq_foldl]
  refine (List.foldl_hom Merge.merged fun m n => ?_).symm
  exact (merged_foldl_mergeEntry n.id n.condition.entries m).symm

theorem merged_mergeConditions_rename (r : String → String) (g : Graph) :
    (g.rename r).mergeConditions.merged = g.mergeConditions.merged := by
  rw [merged_mergeConditions, merged_mergeConditions]
  exact List.foldl_map

theorem mapM_stepOf_rename (r : String → String) (actions : List (String × ActionData)) :
    (actions.map fun entry => (r entry.1, entry.2)).mapM stepOf =
      (actions.mapM stepOf).mapError (CompileError.rename r) := by
  rw [List.mapM_map, ← mapM_mapError]
  congr 1
  funext entry
  unfold stepOf
  rw [Function.comp_apply]
  cases entry.2.actionType <;> rfl

end Graph

theorem Draft.compile_rename (r : String → String) (d : Draft) :
    (d.rename r).compile = d.compile.mapError (CompileError.rename r) := by
  have triggers := Graph.triggers_rename r d.graph
  have actions := Graph.mapM_stepOf_rename r d.graph.actions
  rw [← Graph.actions_rename] at actions
  unfold compile rename
  dsimp only
  rw [triggers, actions, Graph.merged_mergeConditions_rename]
  cases d.graph.triggers with
  | nil => rfl
  | cons first rest =>
      rcases first with ⟨id, trigger⟩
      rw [List.map_cons]
      dsimp only
      cases trigger.triggerType with
      | none => rfl
      | some type => cases d.graph.actions.mapM Graph.stepOf <;> rfl

namespace Validation

/-! ## The checks, one after the other -/

variable {g : Graph} (r : String → String)

theorem nameViolations_rename (name : String) :
    (nameViolations name).map (Violation.rename r) = nameViolations name := by
  unfold nameViolations
  split <;> rfl

theorem triggerCountViolations_rename (g : Graph) :
    triggerCountViolations (g.rename r) =
      (triggerCountViolations g).map (Violation.rename r) := by
  unfold triggerCountViolations
  rw [Graph.triggers_rename, List.length_map]
  split <;> rfl

theorem triggerTypeViolations_rename (g : Graph) :
    triggerTypeViolations (g.rename r) = (triggerTypeViolations g).map (Violation.rename r) := by
  unfold triggerTypeViolations
  rw [Graph.triggers_rename]
  cases g.triggers with
  | nil => rfl
  | cons first rest =>
      rw [List.map_cons]
      dsimp only
      split <;> rfl

theorem actionTypeViolations_rename (g : Graph) :
    actionTypeViolations (g.rename r) = (actionTypeViolations g).map (Violation.rename r) := by
  unfold actionTypeViolations
  rw [Graph.actions_rename, List.zipIdx_map, List.filterMap_map, List.map_filterMap]
  apply List.filterMap_congr
  rintro ⟨⟨id, d⟩, i⟩ _
  dsimp only [Function.comp_apply, Prod.map_apply]
  split <;> rfl

theorem configViolations_rename (schemas : Registry) (g : Graph) :
    configViolations schemas (g.rename r) =
      (configViolations schemas g).map (Violation.rename r) := by
  unfold configViolations Graph.rename
  rw [List.flatMap_map, List.map_flatMap]
  congr 1
  funext n
  rw [List.map_map]
  rfl

theorem orphanViolations_rename (distinct : g.Distinguishes r) :
    orphanViolations (g.rename r) = (orphanViolations g).map (Violation.rename r) := by
  unfold orphanViolations
  dsimp only
  simp only [Graph.touches_rename distinct]
  change ((g.nodes.map (Node.rename r)).zipIdx).filterMap _ = _
  rw [List.zipIdx_map, List.filterMap_map, List.map_filterMap]
  apply List.filterMap_congr
  rintro ⟨n, i⟩ _
  dsimp only [Function.comp_apply, Prod.map_apply, id_eq]
  split <;> rfl

theorem connectivityViolations_rename (distinct : g.Distinguishes r) :
    connectivityViolations (g.rename r) = (connectivityViolations g).map (Violation.rename r) := by
  have reachable : reachableCount (g.rename r) = reachableCount g := by
    rw [reachableCount, Graph.reachedFrom_rename distinct, reachableCount]
  unfold connectivityViolations componentViolations
  rw [orphanViolations_rename r distinct, reachable, Graph.length_rename]
  split
  · rfl
  · rw [List.map_append]
    split <;> rfl

theorem validate_rename (schemas : Registry) (name : String) (distinct : g.Distinguishes r) :
    validate schemas name (g.rename r) = (validate schemas name g).rename r := by
  have inhabited : (g.rename r).nodes.isEmpty = g.nodes.isEmpty := List.isEmpty_map
  unfold validate Report.rename
  rw [List.map_append, nameViolations_rename, inhabited]
  split
  · rfl
  · unfold graphViolations
    simp only [List.map_append, triggerCountViolations_rename, triggerTypeViolations_rename,
      actionTypeViolations_rename, configViolations_rename,
      connectivityViolations_rename r distinct]

/-- Where different ids stay different, as they do under every injective renaming, and no matter
whether ids repeat or ends name nothing, a graph has the report, the outcome of compiling and the
order along the edges that it has under its own ids, each with the new ids in the places of the old
ones. -/
theorem results_follow_renaming (schemas : Registry) (name : String) (d : Draft)
    (distinct : d.graph.Distinguishes r) :
    validate schemas name (d.graph.rename r) = (validate schemas name d.graph).rename r ∧
      (d.rename r).compile = d.compile.mapError (CompileError.rename r) ∧
      (d.graph.rename r).chainOrder = d.graph.chainOrder.map (List.map r) :=
  ⟨validate_rename r schemas name distinct, d.compile_rename r, d.graph.chainOrder_rename distinct⟩

/-- A trigger and an action swap their ids, and all others get a number.  The untyped action, the
lonely condition and the chain are told with the new ids, and an end that named nothing still names
nothing. -/
theorem results_follow_renaming_swap :
    let t : Node := ⟨"t", .origin, .trigger ⟨"Start", some "MANUAL", .empty⟩⟩
    let a : Node := ⟨"a", .origin, .action ⟨"First", none, .empty⟩⟩
    let b : Node := ⟨"b", .origin, .action ⟨"Second", some "NOTE", .empty⟩⟩
    let c : Node := ⟨"c", .origin, .condition ⟨"Pause", none⟩⟩
    let g : Graph := ⟨[t, a, b, c], [⟨"1", "t", "b"⟩, ⟨"2", "b", "a"⟩, ⟨"3", "a", "gone"⟩]⟩
    let r (id : String) : String := if id = "t" then "a" else if id = "a" then "t" else id ++ "2"
    g.Distinguishes r ∧
      validate .builtIn "Swap" (g.rename r) =
        ⟨[.untypedAction 1 "t", .orphanNode "c2" "Pause", .disconnected 3 4]⟩ ∧
      (Draft.rename r ⟨"Swap", "", g⟩).compile = .error (.untypedAction "t") ∧
      (g.rename r).chainOrder = some ["b2", "t"] := by
  intro t a b c g r
  have distinct : g.Distinguishes r := by decide
  have report : validate .builtIn "Swap" g =
      ⟨[.untypedAction 1 "a", .orphanNode "c" "Pause", .disconnected 3 4]⟩ := by decide +kernel
  have order : g.chainOrder = some ["b", "a"] := by decide +kernel
  have law := results_follow_renaming r .builtIn "Swap" ⟨"Swap", "", g⟩ distinct
  refine ⟨distinct, law.1.trans ?_, law.2.1.trans rfl, law.2.2.trans ?_⟩
  · exact (congrArg (Report.rename r) report).trans (by decide)
  · exact (congrArg (Option.map (List.map r)) order).trans (by decide)

end Validation

end Workflow
