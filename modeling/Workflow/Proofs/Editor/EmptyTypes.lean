import Workflow.Proofs.Definition.EmptyTypes
import Workflow.Proofs.Editor.Saving
import Workflow.Proofs.Graph.Codec

namespace Workflow

/-!
# Types that are sent

A new draft has no types, edits choose none that is empty, and a node that is read has none either.
So what an editor sends has no empty type, unless one came in with a record: a record without a
graph that can be read is opened as the chain of its definition, and that has the types as they
are.  Of such a record an empty type is let through by validation and sent again.
-/

/-- Opening the record brings in no empty type: its graph can be read, or there is none in its
definition. -/
def Record.OpensWithoutEmptyTypes (record : Record) : Prop :=
  (∃ g, record.storedGraph = some (.ok g)) ∨ record.definition.NoEmptyTypes

namespace Editor

theorem graphOf_eq_reconstruct {record : Record}
    (unreadable : ¬ ∃ g, record.storedGraph = some (.ok g)) :
    graphOf record = record.definition.reconstruct := by
  unfold graphOf
  cases stored : record.storedGraph with
  | none => rfl
  | some read =>
      cases read with
      | error problem => rfl
      | ok g => exact absurd ⟨g, stored⟩ unreadable

theorem noEmptyTypes_graphOf_of_stored {record : Record} {g : Graph}
    (stored : record.storedGraph = some (.ok g)) : (graphOf record).NoEmptyTypes := by
  have opened : graphOf record = g := by
    unfold graphOf
    rw [stored]
  rw [opened]
  unfold Record.storedGraph at stored
  split at stored
  · cases stored
  · cases stored
  · exact LooseGraph.noEmptyTypes_of_toGraph (Option.some.inj stored)

theorem noEmptyTypes_graphOf_iff (record : Record) :
    (graphOf record).NoEmptyTypes ↔ record.OpensWithoutEmptyTypes := by
  unfold Record.OpensWithoutEmptyTypes
  by_cases readable : ∃ g, record.storedGraph = some (.ok g)
  · have ⟨g, stored⟩ := readable
    exact iff_of_true (noEmptyTypes_graphOf_of_stored stored) (Or.inl readable)
  · rw [graphOf_eq_reconstruct readable, or_iff_right readable]
    exact record.definition.noEmptyTypes_reconstruct_iff

/-- An editor of a record compiles an empty type exactly if opening brought it in. -/
theorem noEmptyTypes_compile_ofRecord_iff {record : Record} {definition : Definition}
    (compiled : (ofRecord record).compile = .ok definition) :
    definition.NoEmptyTypes ↔ record.OpensWithoutEmptyTypes := by
  have draft := (compile_eq_ok_iff.mp compiled).2
  constructor
  · intro nonempty
    by_cases readable : ∃ g, record.storedGraph = some (.ok g)
    · exact Or.inl readable
    · have chain : (ofRecord record).draft = record.definition.toDraft := by
        unfold ofRecord Definition.toDraft
        rw [graphOf_eq_reconstruct readable]
      rw [chain, record.definition.compile_toDraft] at draft
      obtain rfl := Except.ok.inj draft
      exact Or.inr nonempty
  · intro opens
    exact Draft.noEmptyTypes_of_compile ((noEmptyTypes_graphOf_iff record).mpr opens) draft

/-- The editors that come from new ones, and from records of some sort, by edits of the graph, nodes
that are read, and saves, whatever the backend answers to them. -/
inductive Reachable (opened : Record → Prop) : Editor → Prop
  | new (name : String) : Reachable opened (.new name)
  | ofRecord {record : Record} (fits : opened record) : Reachable opened (.ofRecord record)
  | edited {e : Editor} (before : Reachable opened e) (edit : Graph.Edit) :
      Reachable opened { e with draft := { e.draft with graph := e.draft.graph.edit edit } }
  | inserted {e : Editor} (before : Reachable opened e) {medium : Medium} {source : Source}
      {n : Node} (read : Node.decoder medium source = .ok n) :
      Reachable opened { e with draft := { e.draft with graph := e.draft.graph.insertNode n } }
  | renamed {e : Editor} (before : Reachable opened e) (name : String) :
      Reachable opened { e with draft := { e.draft with name := name } }
  | described {e : Editor} (before : Reachable opened e) (description : String) :
      Reachable opened { e with draft := { e.draft with description := description } }
  | useSchemas {e : Editor} (before : Reachable opened e) (schemas : Registry) :
      Reachable opened { e with schemas := schemas }
  | saved {e : Editor} (before : Reachable opened e) (saved : Saved) :
      Reachable opened { e with workflowId := some saved.id, version := saved.version }

theorem Reachable.noEmptyTypes {e : Editor}
    (reachable : Reachable Record.OpensWithoutEmptyTypes e) : e.draft.graph.NoEmptyTypes := by
  induction reachable with
  | new name => exact nofun
  | ofRecord fits => exact (noEmptyTypes_graphOf_iff _).mpr fits
  | edited before edit inductionHypothesis => exact inductionHypothesis.edit edit
  | inserted before read inductionHypothesis =>
      exact inductionHypothesis.insertNode (Node.noEmptyType_of_decoder read)
  | renamed _ _ inductionHypothesis => exact inductionHypothesis
  | described _ _ inductionHypothesis => exact inductionHypothesis
  | useSchemas _ _ inductionHypothesis => exact inductionHypothesis
  | saved _ _ inductionHypothesis => exact inductionHypothesis

/-- Unless opening a record brought one in, no empty type is compiled, and none is sent to whatever
backend to be saved. -/
theorem sends_no_empty_types {σ : Type} (server : Session.Server σ) (state : σ) {e : Editor}
    (reachable : Reachable Record.OpensWithoutEmptyTypes e) :
    (∀ definition, e.compile = .ok definition →
      definition.triggerType ≠ "" ∧ ∀ step ∈ definition.actions, step.type ≠ "") ∧
    ∀ c ∈ (e.save.run server state).calls, ∀ request, c.saveRequest? = some request →
      request.definition.triggerType ≠ "" ∧
        ∀ step ∈ request.definition.actions, step.type ≠ "" := by
  have nonempty := reachable.noEmptyTypes
  constructor
  · intro definition compiled
    exact Draft.noEmptyTypes_of_compile nonempty (compile_eq_ok_iff.mp compiled).2
  · intro c member request saves
    rw [Session.calls_run] at member
    have sent := (e.saving_save server state).of_saveRequest member saves
    exact Draft.noEmptyTypes_of_compile nonempty sent.2.1

/-- A stored manual trigger is opened, moved, and sent with its type. -/
theorem sends_no_empty_types_manual :
    let record : Record :=
      ⟨"r", false, ⟨"Manual", "", "MANUAL", .empty, .empty, [], none⟩, none, none⟩
    let draft := (ofRecord record).draft
    let e := { ofRecord record with
      draft := { draft with graph := draft.graph.edit (.moveNode "trigger-1" .origin) } }
    ∃ definition, e.compile = .ok definition ∧
      definition.triggerType ≠ "" ∧ ∀ step ∈ definition.actions, step.type ≠ "" := by
  intro record draft e
  have valid : e.validate.isValid = true := by decide +kernel
  have compiled : e.compile = .ok _ := compile_eq_ok_iff.mpr ⟨valid, rfl⟩
  have typed : record.OpensWithoutEmptyTypes := Or.inr ⟨by decide, by nofun⟩
  have reachable : Reachable Record.OpensWithoutEmptyTypes e := .edited (.ofRecord typed) _
  exact ⟨_, compiled, (sends_no_empty_types Store.answer .empty reachable).1 _ compiled⟩

/-- A record with an empty trigger type and no graph can be read, and its type is compiled. -/
theorem compiles_empty_type_of_record :
    let stored : Json := .object [("actions", .array []), ("id", .string "r"),
      ("name", .string "W"), ("triggerType", .string "")]
    ∃ record definition, Record.decoder.ofJson stored = .ok record ∧
      Reachable (fun _ => True) (ofRecord record) ∧
      (ofRecord record).compile = .ok definition ∧ definition.triggerType = "" := by
  intro stored
  let record : Record := ⟨"r", false, ⟨"W", "", "", .empty, .empty, [], none⟩, none, none⟩
  have valid : (ofRecord record).validate.isValid = true := by decide +kernel
  exact ⟨record, _, rfl, .ofRecord trivial, compile_eq_ok_iff.mpr ⟨valid, rfl⟩, rfl⟩

end Editor

end Workflow
