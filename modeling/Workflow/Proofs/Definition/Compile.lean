import Workflow.Definition.Basic

namespace Workflow

/-!
# How compiling ends

Compiling looks at the first trigger and then at the actions in order, and stops at the first of
them that lacks something.  The four ways in which it can end are separated here by what the graph
is like, so that a later argument need not follow the search again.
-/

namespace Graph

/-- The first action without a type. -/
def firstUntypedAction (g : Graph) : Option (String × ActionData) :=
  g.actions.find? (·.2.actionType.isNone)

private theorem mapM_stepOf_of_untyped {actions : List (String × ActionData)}
    {action : String × ActionData} (first : actions.find? (·.2.actionType.isNone) = some action) :
    actions.mapM stepOf = .error (.untypedAction action.1) := by
  induction actions with
  | nil => cases first
  | cons head rest inductionHypothesis =>
      rw [List.mapM_cons]
      cases type : head.2.actionType with
      | none =>
          rw [List.find?_cons_of_pos (by rw [type]; rfl)] at first
          have refused : stepOf head = .error (.untypedAction head.1) := by
            unfold stepOf
            rw [type]
          rw [refused, ← Option.some.inj first]
          rfl
      | some name =>
          rw [List.find?_cons_of_neg (by rw [type]; simp)] at first
          have accepted : stepOf head = .ok ⟨name, head.2.config, head.2.label⟩ := by
            unfold stepOf
            rw [type]
          rw [accepted, inductionHypothesis first]
          rfl

private theorem mapM_stepOf_of_typed {actions : List (String × ActionData)}
    (all : actions.find? (·.2.actionType.isNone) = none) :
    ∃ steps, actions.mapM stepOf = .ok steps := by
  induction actions with
  | nil => exact ⟨[], rfl⟩
  | cons head rest inductionHypothesis =>
      rw [List.mapM_cons]
      cases type : head.2.actionType with
      | none =>
          rw [List.find?_cons_of_pos (by rw [type]; rfl)] at all
          cases all
      | some name =>
          rw [List.find?_cons_of_neg (by rw [type]; simp)] at all
          rcases inductionHypothesis all with ⟨steps, compiled⟩
          have accepted : stepOf head = .ok ⟨name, head.2.config, head.2.label⟩ := by
            unfold stepOf
            rw [type]
          rw [accepted, compiled]
          exact ⟨_, rfl⟩

end Graph

namespace Draft

/-- The four ways in which compiling a draft can end, each with what the graph is like then. -/
inductive Outcome (d : Draft) : Except CompileError Definition → Prop
  | missingTrigger (none : d.graph.triggers = []) : Outcome d (.error .missingTrigger)
  | untypedTrigger {id : String} {t : TriggerData} {rest : List (String × TriggerData)}
      (first : d.graph.triggers = (id, t) :: rest) (untyped : t.triggerType = none) :
      Outcome d (.error (.untypedTrigger id))
  | untypedAction {id : String} {t : TriggerData} {rest : List (String × TriggerData)}
      {type : String} {action : String × ActionData}
      (first : d.graph.triggers = (id, t) :: rest) (typed : t.triggerType = some type)
      (untyped : d.graph.firstUntypedAction = some action) :
      Outcome d (.error (.untypedAction action.1))
  | compiled {id : String} {t : TriggerData} {rest : List (String × TriggerData)}
      {type : String} {steps : List ActionStep}
      (first : d.graph.triggers = (id, t) :: rest) (typed : t.triggerType = some type)
      (allTyped : d.graph.firstUntypedAction = none)
      (inOrder : d.graph.actions.mapM Graph.stepOf = .ok steps) :
      Outcome d (.ok ⟨d.name, d.description, type, t.config, d.graph.mergeConditions.merged, steps,
        none⟩)

/-- Compiling ends in one of these ways. -/
theorem outcome (d : Draft) : Outcome d d.compile := by
  unfold compile
  cases first : d.graph.triggers with
  | nil => exact .missingTrigger first
  | cons head rest =>
      rcases head with ⟨id, t⟩
      cases typed : t.triggerType with
      | none =>
          simp only [typed]
          exact .untypedTrigger first typed
      | some type =>
          simp only [typed]
          cases untyped : d.graph.firstUntypedAction with
          | some action =>
              rw [Graph.mapM_stepOf_of_untyped untyped]
              exact .untypedAction first typed untyped
          | none =>
              rcases Graph.mapM_stepOf_of_typed untyped with ⟨steps, inOrder⟩
              rw [inOrder]
              exact .compiled first typed untyped inOrder

variable {d : Draft}

theorem compile_eq_missingTrigger_iff :
    d.compile = .error .missingTrigger ↔ d.graph.triggers = [] := by
  have ended := d.outcome
  generalize d.compile = result at ended ⊢
  cases ended with
  | missingTrigger none => simp [none]
  | untypedTrigger first _ => simp [first]
  | untypedAction first _ _ => simp [first]
  | compiled first _ _ _ => simp [first]

theorem compile_eq_untypedTrigger_iff {id : String} :
    d.compile = .error (.untypedTrigger id) ↔
      ∃ t rest, d.graph.triggers = (id, t) :: rest ∧ t.triggerType = none := by
  have ended := d.outcome
  generalize d.compile = result at ended ⊢
  cases ended with
  | missingTrigger none => simp [none]
  | untypedTrigger first untyped => grind
  | untypedAction first typed _ => grind
  | compiled first typed _ _ => grind

theorem compile_eq_untypedAction_iff {id : String} :
    d.compile = .error (.untypedAction id) ↔
      (∃ first t rest type, d.graph.triggers = (first, t) :: rest ∧ t.triggerType = some type) ∧
        ∃ data, d.graph.firstUntypedAction = some (id, data) := by
  have ended := d.outcome
  generalize d.compile = result at ended ⊢
  cases ended with
  | missingTrigger none => simp [none]
  | untypedTrigger first untyped => grind
  | untypedAction first typed untyped => grind
  | compiled first typed allTyped _ => grind

theorem of_compile_ok {definition : Definition} (compiled : d.compile = .ok definition) :
    definition.name = d.name ∧ definition.description = d.description ∧ d.graph.nodes ≠ [] := by
  have ended := d.outcome
  rw [compiled] at ended
  cases ended with
  | compiled first typed allTyped inOrder =>
      refine ⟨rfl, rfl, ?_⟩
      intro none
      rw [Graph.triggers, none] at first
      cases first

end Draft

end Workflow
