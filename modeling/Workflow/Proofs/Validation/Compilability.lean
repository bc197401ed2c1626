import Workflow.CommandLine.Run
import Workflow.Editor
import Workflow.Proofs.Backend.Session
import Workflow.Proofs.CommandLine.Endings
import Workflow.Proofs.Definition.Compile
import Workflow.Proofs.Validation.Sections

namespace Workflow

/-!
# What a report says about compiling

The check of a graph and its compiling look at the same nodes for different ends: the check collects
all problems, and compiling stops at the first.  They agree on which graphs can be compiled, and on
the cause and the node when one cannot.  A graph can violate much that does not matter here, such as
a second trigger or a missing connection, and still be compiled.

It follows that whoever compiles only valid graphs never sees compiling fail, as the editor and the
command line do.
-/

/-- The violation is the lack of an action's type. -/
def Violation.isUntypedAction : Violation → Bool
  | .untypedAction .. => true
  | _ => false

/-- The report says that there is no trigger. -/
def Report.LacksTrigger (r : Report) : Prop := .empty ∈ r.violations ∨ .noTrigger ∈ r.violations

namespace Validation

variable (schemas : Registry) (name : String) (g : Graph)

theorem lacksTrigger_iff : (validate schemas name g).LacksTrigger ↔ g.triggers = [] := by
  unfold Report.LacksTrigger
  rw [empty_mem_iff, noTrigger_mem_iff]
  by_cases none : g.nodes = []
  · simp [none, Graph.triggers_eq_nil_of_nodes none]
  · simp [none]

/-- The first complaint about an action names the first action without a type. -/
private theorem head?_complaints (actions : List (String × ActionData)) (k : Nat) :
    ∃ position, ((actions.zipIdx k).filterMap complaint).head? =
      (actions.find? (·.2.actionType.isNone)).map fun a => .untypedAction position a.1 := by
  induction actions generalizing k with
  | nil => exact ⟨0, rfl⟩
  | cons head rest inductionHypothesis =>
      rw [List.zipIdx_cons]
      cases type : head.2.actionType with
      | none =>
          refine ⟨k + 1, ?_⟩
          rw [List.find?_cons_of_pos (by rw [type]; rfl)]
          simp [complaint, type]
      | some name =>
          rw [List.find?_cons_of_neg (by rw [type]; simp)]
          simpa [complaint, type] using inductionHypothesis (k + 1)

/-- Only the check of the actions' types reports actions without a type. -/
theorem filter_untypedAction :
    (validate schemas name g).violations.filter Violation.isUntypedAction =
      actionTypeViolations g := by
  have names : (nameViolations name).filter Violation.isUntypedAction = [] := by
    simp [List.filter_eq_nil_iff, mem_nameViolations_iff, Violation.isUntypedAction]
  have counts : (triggerCountViolations g).filter Violation.isUntypedAction = [] := by
    rw [List.filter_eq_nil_iff]
    intro v member
    rcases mem_triggerCountViolations_iff.mp member with ⟨_, rfl⟩ | ⟨_, rfl⟩ <;> exact nofun
  have types : (triggerTypeViolations g).filter Violation.isUntypedAction = [] := by
    rw [List.filter_eq_nil_iff]
    intro v member
    rcases mem_triggerTypeViolations_iff.mp member with ⟨_, _, _, _, _, rfl⟩
    exact nofun
  have actions : (actionTypeViolations g).filter Violation.isUntypedAction =
      actionTypeViolations g := by
    rw [List.filter_eq_self]
    intro v member
    rcases mem_actionTypeViolations_iff.mp member with ⟨_, _, _, _, _, rfl⟩
    rfl
  have configs : (configViolations schemas g).filter Violation.isUntypedAction = [] := by
    rw [List.filter_eq_nil_iff]
    intro v member
    rcases mem_configViolations_iff.mp member with ⟨_, _, _, _, rfl⟩
    exact nofun
  have links : (connectivityViolations g).filter Violation.isUntypedAction = [] := by
    rw [List.filter_eq_nil_iff]
    intro v member
    rcases mem_connectivityViolations_iff.mp member with ⟨_, ⟨_, _, _, _, rfl⟩ | ⟨_, rfl⟩⟩ <;>
      exact nofun
  unfold validate graphViolations
  by_cases none : g.nodes = []
  · simp [none, names, actionTypeViolations, Graph.actions_eq_nil_of_nodes none,
      Violation.isUntypedAction]
  · simp [none, names, counts, types, actions, configs, links]

/-- The first action that is reported to have no type is the first that has none. -/
theorem find?_untypedAction :
    ∃ position, (validate schemas name g).violations.find? Violation.isUntypedAction =
      g.firstUntypedAction.map fun action => .untypedAction position action.1 := by
  rcases head?_complaints g.actions 0 with ⟨position, first⟩
  refine ⟨position, ?_⟩
  rw [← List.head?_filter, filter_untypedAction, actionTypeViolations_eq_complaints]
  exact first

end Validation

namespace Draft

variable (schemas : Registry) (d : Draft)

/-- What the check reports of the graph of a draft, under its name. -/
def report : Report := Validation.validate schemas d.name d.graph

theorem compile_eq_missingTrigger_iff_report :
    d.compile = .error .missingTrigger ↔ (d.report schemas).LacksTrigger := by
  rw [compile_eq_missingTrigger_iff, report, Validation.lacksTrigger_iff]

theorem compile_eq_untypedTrigger_iff_report (id : String) :
    d.compile = .error (.untypedTrigger id) ↔
      ¬ (d.report schemas).LacksTrigger ∧ .untypedTrigger id ∈ (d.report schemas).violations := by
  rw [compile_eq_untypedTrigger_iff, report, Validation.lacksTrigger_iff,
    Validation.untypedTrigger_mem_iff]
  constructor
  · rintro ⟨t, rest, first, untyped⟩
    exact ⟨by simp [first], t, rest, first, untyped⟩
  · exact fun both => both.2

theorem compile_eq_untypedAction_iff_report (id : String) :
    d.compile = .error (.untypedAction id) ↔
      ¬ (d.report schemas).LacksTrigger ∧
      (∀ trigger, .untypedTrigger trigger ∉ (d.report schemas).violations) ∧
      ∃ position, (d.report schemas).violations.find? Violation.isUntypedAction =
        some (.untypedAction position id) := by
  rcases Validation.find?_untypedAction schemas d.name d.graph with ⟨position, found⟩
  rw [compile_eq_untypedAction_iff, report, Validation.lacksTrigger_iff, found]
  simp only [Validation.untypedTrigger_mem_iff]
  constructor
  · rintro ⟨⟨first, t, rest, type, triggers, typed⟩, data, untyped⟩
    refine ⟨by simp [triggers], ?_, position, by simp [untyped]⟩
    rintro trigger ⟨other, others, same, none⟩
    rw [triggers] at same
    cases same
    rw [typed] at none
    cases none
  · rintro ⟨some_, typed, place, reported⟩
    rcases List.exists_cons_of_ne_nil some_ with ⟨⟨first, t⟩, rest, triggers⟩
    rcases Option.map_eq_some_iff.mp reported with ⟨⟨action, data⟩, untyped, same⟩
    cases same
    refine ⟨?_, data, untyped⟩
    cases type : t.triggerType with
    | none => exact absurd ⟨t, rest, triggers, type⟩ (typed first)
    | some name => exact ⟨first, t, rest, name, triggers, type⟩

/-- Compiling fails exactly when one of four violations is reported. -/
theorem compile_fails_iff_report :
    (∃ cause, d.compile = .error cause) ↔
      .empty ∈ (d.report schemas).violations ∨ .noTrigger ∈ (d.report schemas).violations ∨
      (∃ id, .untypedTrigger id ∈ (d.report schemas).violations) ∨
      ∃ position id, .untypedAction position id ∈ (d.report schemas).violations := by
  constructor
  · rintro ⟨cause, failed⟩
    cases cause with
    | missingTrigger =>
        rcases (d.compile_eq_missingTrigger_iff_report schemas).mp failed with empty | noTrigger
        · exact Or.inl empty
        · exact Or.inr (Or.inl noTrigger)
    | untypedTrigger id =>
        have reported := ((d.compile_eq_untypedTrigger_iff_report schemas id).mp failed).2
        exact Or.inr (Or.inr (Or.inl ⟨id, reported⟩))
    | untypedAction id =>
        rcases (d.compile_eq_untypedAction_iff_report schemas id).mp failed with
          ⟨_, _, position, found⟩
        exact Or.inr (Or.inr (Or.inr ⟨position, id, List.mem_of_find?_eq_some found⟩))
  · intro reported
    by_cases lacking : (d.report schemas).LacksTrigger
    · exact ⟨_, (d.compile_eq_missingTrigger_iff_report schemas).mpr lacking⟩
    by_cases untyped : ∃ id, .untypedTrigger id ∈ (d.report schemas).violations
    · rcases untyped with ⟨id, member⟩
      exact ⟨_, (d.compile_eq_untypedTrigger_iff_report schemas id).mpr ⟨lacking, member⟩⟩
    rcases reported with empty | noTrigger | trigger | ⟨position, id, member⟩
    · exact absurd (Or.inl empty) lacking
    · exact absurd (Or.inr noTrigger) lacking
    · exact absurd trigger untyped
    · have some_ : ((d.report schemas).violations.find? Violation.isUntypedAction).isSome = true :=
        List.find?_isSome.mpr ⟨_, member, rfl⟩
      rcases Option.isSome_iff_exists.mp some_ with ⟨v, found⟩
      cases v with
      | untypedAction place other =>
          have typed := not_exists.mp untyped
          exact ⟨_, (d.compile_eq_untypedAction_iff_report schemas other).mpr
            ⟨lacking, typed, place, found⟩⟩
      | _ => cases List.find?_some found

/-- A valid graph can be compiled. -/
theorem compile_ok_of_isValid (valid : (d.report schemas).isValid = true) :
    ∃ definition, d.compile = .ok definition := by
  cases compiled : d.compile with
  | ok definition => exact ⟨definition, rfl⟩
  | error cause =>
      have none : (d.report schemas).violations = [] := List.isEmpty_iff.mp valid
      have reported := (d.compile_fails_iff_report schemas).mp ⟨cause, compiled⟩
      simp [none] at reported

end Draft

namespace Editor

/-- The editor compiles only what it found valid. -/
theorem compile_ne_compileError (e : Editor) (cause : CompileError) :
    e.compile ≠ .error (.compile cause) := by
  unfold compile
  by_cases valid : e.validate.isValid = true
  · rcases e.draft.compile_ok_of_isValid e.schemas valid with ⟨definition, compiled⟩
    rw [if_pos valid, compiled]
    exact nofun
  · rw [if_neg valid]
    exact nofun

/-- Saving fails with what compiling in the editor fails with, or with what the backend answers. -/
theorem save_ne_compileError {σ : Type} (e : Editor) (server : Session.Server σ) (state : σ)
    (cause : CompileError) : (e.save.run server state).value.2 ≠ .error (.compile cause) := by
  unfold save
  rw [Session.run_bind, Session.run_log]
  cases compiled : e.compile with
  | error problem =>
      intro same
      cases same
      exact e.compile_ne_compileError cause compiled
  | ok definition =>
      dsimp only
      rw [Session.run_bind]
      split
      · exact nofun
      · exact nofun

end Editor

namespace CommandLine.Plan

/-- Compiling a file ends with output, with a refusal of the graph, or for lack of a graph, and
never with a text of its own. -/
theorem not_canEnd_compile_told (path name description text : String) :
    ¬ (compile path name description).CanEnd (.failed (.told text)) := by
  unfold compile readGraph readText
  rw [canEnd_read_iff]
  rintro ⟨file, reached⟩
  cases file with
  | text content =>
      dsimp only at reached
      cases decoded : Graph.decoder.ofText content with
      | error problem => simp [decoded, fail] at reached
      | ok g =>
          simp only [decoded] at reached
          by_cases valid : (Validation.validate .builtIn name g).isValid = true
          · rcases Draft.compile_ok_of_isValid .builtIn ⟨name, description, g⟩ valid with
              ⟨definition, compiled⟩
            simp [valid, compiled, finish] at reached
          · simp [valid] at reached
  | _ => simp [fail] at reached

/-- Whatever the settings are, the command to compile never tells that compiling failed. -/
theorem not_canEnd_told (polls : Nat) (environment : String → Option String)
    (settingsPath : Option String) (path name description text : String) :
    ¬ (ofInvocation polls environment
      ⟨settingsPath, .compile path name description⟩).CanEnd (.failed (.told text)) := by
  have loading (settings : Except SettingsError Settings) :
      ¬ (withSettings settings fun s =>
        ofCommand polls s (.compile path name description)).CanEnd (.failed (.told text)) := by
    cases settings with
    | ok s => exact not_canEnd_compile_told path name description text
    | error problem => simp [withSettings, fail]
  unfold ofInvocation
  cases settingsPath with
  | some file =>
      rw [canEnd_read_iff]
      exact fun ⟨_, reached⟩ => loading _ reached
  | none =>
      rw [canEnd_readSettings_iff]
      exact fun ⟨_, reached⟩ => loading _ reached

end CommandLine.Plan

/-- Checking and compiling agree: whether a draft can be compiled, the cause if it cannot be, and
the node that the cause names can be read off the report.  So nobody who asks for a valid report
first, neither the editor nor the command line, sees compiling fail. -/
theorem Draft.compile_agrees_with_report (schemas : Registry) (d : Draft) :
    ((∃ cause, d.compile = .error cause) ↔
      .empty ∈ (d.report schemas).violations ∨ .noTrigger ∈ (d.report schemas).violations ∨
      (∃ id, .untypedTrigger id ∈ (d.report schemas).violations) ∨
      ∃ position id, .untypedAction position id ∈ (d.report schemas).violations) ∧
    (d.compile = .error .missingTrigger ↔ (d.report schemas).LacksTrigger) ∧
    (∀ id, d.compile = .error (.untypedTrigger id) ↔
      ¬ (d.report schemas).LacksTrigger ∧ .untypedTrigger id ∈ (d.report schemas).violations) ∧
    (∀ id, d.compile = .error (.untypedAction id) ↔
      ¬ (d.report schemas).LacksTrigger ∧
      (∀ trigger, .untypedTrigger trigger ∉ (d.report schemas).violations) ∧
      ∃ position, (d.report schemas).violations.find? Violation.isUntypedAction =
        some (.untypedAction position id)) ∧
    ((d.report schemas).isValid = true → ∃ definition, d.compile = .ok definition) ∧
    (∀ (e : Editor) (cause : CompileError), e.compile ≠ .error (.compile cause)) ∧
    (∀ (σ : Type) (e : Editor) (server : Session.Server σ) (state : σ) (cause : CompileError),
      (e.save.run server state).value.2 ≠ .error (.compile cause)) ∧
    ∀ (polls : Nat) (environment : String → Option String) (settingsPath : Option String)
      (path name description text : String),
      ¬ (CommandLine.Plan.ofInvocation polls environment
        ⟨settingsPath, .compile path name description⟩).CanEnd (.failed (.told text)) ∧
      ∀ (σ : Type) (transmit : CommandLine.Plan.Transmit σ) (folder : Folder) (state : σ),
        ((CommandLine.Plan.ofInvocation polls environment
          ⟨settingsPath, .compile path name description⟩).run transmit folder state).ending ≠
            .failed (.told text) := by
  refine ⟨d.compile_fails_iff_report schemas, d.compile_eq_missingTrigger_iff_report schemas,
    d.compile_eq_untypedTrigger_iff_report schemas, d.compile_eq_untypedAction_iff_report schemas,
    d.compile_ok_of_isValid schemas, Editor.compile_ne_compileError,
    fun _ => Editor.save_ne_compileError, ?_⟩
  intro polls environment settingsPath path name description text
  have impossible := CommandLine.Plan.not_canEnd_told polls environment settingsPath path name
    description text
  exact ⟨impossible, fun _ => CommandLine.Plan.run_ending_ne impossible⟩

/-- A definition that only adds a tag is opened as a valid draft, which can be compiled. -/
theorem Draft.compile_agrees_tagging :
    ((⟨"Tag", "", "MANUAL", .empty, .empty, [⟨"ADD_TAG", .ofList [("tagId", .string "new")], ""⟩],
      none⟩ : Definition).toDraft.report .builtIn).isValid = true ∧
    ∃ definition, (⟨"Tag", "", "MANUAL", .empty, .empty,
      [⟨"ADD_TAG", .ofList [("tagId", .string "new")], ""⟩], none⟩ : Definition).toDraft.compile =
        .ok definition := by
  have valid : ((⟨"Tag", "", "MANUAL", .empty, .empty,
      [⟨"ADD_TAG", .ofList [("tagId", .string "new")], ""⟩], none⟩ : Definition).toDraft.report
        .builtIn).isValid = true := by
    decide +kernel
  exact ⟨valid, (Draft.compile_agrees_with_report .builtIn _).2.2.2.2.1 valid⟩

end Workflow
