import Workflow.Backend.Store
import Workflow.Proofs.Backend.History
import Workflow.Proofs.Validation.Compilability

namespace Workflow

/-!
# What an editor sends

Between two saves a draft can be edited in any way, the schemas can be replaced, and another
workflow can be opened, and each call can be answered in any way or not at all.  Still, all that the
backend receives to save is a draft that was valid at that moment, with the definition compiled from
it.

A save comes to one of three things, each with its exchanges: the draft is invalid and nothing is
sent, or the backend refuses, or it stores the workflow.  Only the last changes the editor, and then
only what the backend gives: the id and the version.
-/

/-- The request of a call that saves. -/
def Call.saveRequest? : Call → Option SaveRequest
  | .createWorkflow request => some request
  | .updateWorkflow _ request => some request
  | _ => none

namespace Editor

variable {σ : Type} (server : Session.Server σ)

theorem compile_eq_ok_iff {e : Editor} {definition : Definition} :
    e.compile = .ok definition ↔
      e.validate.isValid = true ∧ e.draft.compile = .ok definition := by
  unfold compile
  cases e.validate.isValid with
  | false => exact ⟨nofun, nofun⟩
  | true =>
      cases e.draft.compile with
      | error problem => exact ⟨nofun, nofun⟩
      | ok compiled => exact ⟨fun same => ⟨rfl, congrArg _ (Except.ok.inj same)⟩,
          fun both => congrArg _ (Except.ok.inj both.2)⟩

/-- The call that saves: an update of a workflow that is known, and the creation of one that is
not. -/
def saveCall (workflowId : Option String) (request : SaveRequest) : Call :=
  match workflowId with
  | some id => .updateWorkflow id request
  | none => .createWorkflow request

/-- The call that saves, with its reply. -/
def saveExchange (workflowId : Option String) (request : SaveRequest)
    (reply : Except ClientError Saved) : Exchange :=
  match workflowId with
  | some id => ⟨.updateWorkflow id request, reply⟩
  | none => ⟨.createWorkflow request, reply⟩

@[simp] theorem call_saveExchange (workflowId : Option String) (request : SaveRequest)
    (reply : Except ClientError Saved) :
    (saveExchange workflowId request reply).call = saveCall workflowId request := by
  cases workflowId with
  | none => rfl
  | some id => rfl

@[simp] theorem saveRequest?_saveCall (workflowId : Option String) (request : SaveRequest) :
    (saveCall workflowId request).saveRequest? = some request := by
  cases workflowId with
  | none => rfl
  | some id => rfl

theorem exchanges_sendSave (workflowId : Option String) (request : SaveRequest) (state : σ) :
    (sendSave workflowId request).exchanges server state =
      [saveExchange workflowId request ((sendSave workflowId request).run server state).value] := by
  cases workflowId with
  | none => rfl
  | some id => rfl

/-- What saving can come to. -/
inductive Saving (e : Editor) : List Exchange → Editor → Except EditorError Saved → Prop
  | invalid (broken : e.validate.isValid = false) :
      Saving e [] e (.error (.invalid e.validate))
  | refused {definition : Definition} (valid : e.validate.isValid = true)
      (compiled : e.draft.compile = .ok definition) (cause : ClientError) :
      Saving e [saveExchange e.workflowId ⟨definition, e.draft.graph⟩ (.error cause)] e
        (.error (.client cause))
  | stored {definition : Definition} (valid : e.validate.isValid = true)
      (compiled : e.draft.compile = .ok definition) (saved : Saved) :
      Saving e [saveExchange e.workflowId ⟨definition, e.draft.graph⟩ (.ok saved)]
        { e with workflowId := some saved.id, version := saved.version } (.ok saved)

theorem Saving.of_saveRequest {e after : Editor} {exchanges : List Exchange}
    {result : Except EditorError Saved} {c : Call} {request : SaveRequest}
    (saving : e.Saving exchanges after result) (member : c ∈ exchanges.map Exchange.call)
    (saves : c.saveRequest? = some request) :
    e.validate.isValid = true ∧ e.draft.compile = .ok request.definition ∧
      request.graph = e.draft.graph := by
  cases saving with
  | invalid broken => cases member
  | refused valid compiled cause | stored valid compiled saved =>
      obtain rfl := List.mem_singleton.mp member
      rw [call_saveExchange, saveRequest?_saveCall] at saves
      obtain rfl := Option.some.inj saves
      exact ⟨valid, compiled, rfl⟩

theorem saving_save (e : Editor) (state : σ) :
    Saving e (e.save.exchanges server state) (e.save.run server state).value.1
      (e.save.run server state).value.2 := by
  unfold save
  rw [Session.exchanges_log, Session.value_log]
  cases valid : e.validate.isValid with
  | false =>
      have failed : e.compile = .error (.invalid e.validate) := if_neg (by simp [valid])
      rw [failed]
      exact .invalid valid
  | true =>
      rcases e.draft.compile_ok_of_isValid e.schemas valid with ⟨definition, compiled⟩
      rw [compile_eq_ok_iff.mpr ⟨valid, compiled⟩]
      dsimp only
      rw [Session.exchanges_bind, Session.value_bind, exchanges_sendSave]
      cases ((sendSave e.workflowId ⟨definition, e.draft.graph⟩).run server state).value with
      | error cause => exact .refused valid compiled cause
      | ok saved =>
          dsimp only
          rw [Session.exchanges_log, Session.value_log]
          exact .stored valid compiled saved

/-- A valid draft is sent, and the reply decides what comes of it. -/
theorem run_save {e : Editor} {definition : Definition} (valid : e.validate.isValid = true)
    (compiled : e.draft.compile = .ok definition) (state : σ) :
    let sent := (sendSave e.workflowId ⟨definition, e.draft.graph⟩).run server state
    (e.save.run server state).state = sent.state ∧
      (e.save.run server state).value.2 = sent.value.mapError .client ∧
      (e.save.run server state).calls = [saveCall e.workflowId ⟨definition, e.draft.graph⟩] := by
  have called : ((sendSave e.workflowId ⟨definition, e.draft.graph⟩).run server state).calls =
      [saveCall e.workflowId ⟨definition, e.draft.graph⟩] := by
    rw [Session.calls_run, exchanges_sendSave, List.map_singleton, call_saveExchange]
  unfold save
  rw [Session.run_bind, Session.run_log, compile_eq_ok_iff.mpr ⟨valid, compiled⟩]
  dsimp only
  rw [Session.run_bind]
  generalize (sendSave e.workflowId ⟨definition, e.draft.graph⟩).run server state = sent at called ⊢
  rcases sent with ⟨cause | saved, after, events, calls⟩
  · exact ⟨rfl, rfl, by rw [← called]; exact List.append_nil calls⟩
  · dsimp only
    rw [Session.run_bind, Session.run_log]
    exact ⟨rfl, rfl, by rw [← called]; exact List.append_nil calls⟩

theorem of_save_ok {e : Editor} {state : σ} {saved : Saved}
    (succeeded : (e.save.run server state).value.2 = .ok saved) :
    ∃ definition, e.validate.isValid = true ∧ e.draft.compile = .ok definition ∧
      ((sendSave e.workflowId ⟨definition, e.draft.graph⟩).run server state).value = .ok saved := by
  have saving := e.saving_save server state
  rw [succeeded] at saving
  generalize e.save.exchanges server state = exchanges at saving
  generalize (e.save.run server state).value.1 = after at saving
  cases saving with
  | stored valid compiled =>
      refine ⟨_, valid, compiled, ?_⟩
      rw [(run_save server valid compiled state).2.1] at succeeded
      cases replied : ((sendSave e.workflowId ⟨_, e.draft.graph⟩).run server state).value with
      | error cause =>
          rw [replied] at succeeded
          cases succeeded
      | ok given =>
          rw [replied] at succeeded
          exact congrArg Except.ok (Except.ok.inj succeeded)

/-- What opening can come to. -/
inductive Opening (id : String) : List Exchange → Except ClientError Editor → Prop
  | failed (cause : ClientError) : Opening id [⟨.getWorkflow id, .error cause⟩] (.error cause)
  | loaded (record : Record) : Opening id [⟨.getWorkflow id, .ok record⟩] (.ok (ofRecord record))

theorem opening_openWorkflow (id : String) (state : σ) :
    Opening id ((openWorkflow id).exchanges server state)
      ((openWorkflow id).run server state).value := by
  unfold openWorkflow
  rw [Session.exchanges_ask, Session.value_ask]
  generalize server (.getWorkflow id) state = answered
  rcases answered with ⟨cause | record, reached⟩
  · exact .failed cause
  · dsimp only
    rw [Session.exchanges_log, Session.value_log]
    exact .loaded record

/-! ## Operations -/

/-- What an editor is asked for.  The graph can be edited in any way; checking and compiling without
saving change nothing and send nothing. -/
inductive Operation where
  | new (name : String)
  | openWorkflow (id : String)
  | useSchemas (schemas : Registry)
  | edit (change : Graph → Graph)
  | rename (name : String)
  | describe (description : String)
  | save
  | execute

/-- What comes of an operation. -/
inductive Outcome where
  | done
  | opened (result : Except ClientError Unit)
  | saved (result : Except EditorError Saved)
  | executed (result : Except EditorError String)

/-- Performs an operation.  Opening that fails keeps the editor that there is. -/
def perform : Operation → Editor → Session (Editor × Outcome)
  | .new name, _ => return (.new name, .done)
  | .openWorkflow id, e => do
    match ← Editor.openWorkflow id with
    | .ok opened => return (opened, .opened (.ok ()))
    | .error cause => return (e, .opened (.error cause))
  | .useSchemas schemas, e => return ({ e with schemas := schemas }, .done)
  | .edit change, e =>
    return ({ e with draft := { e.draft with graph := change e.draft.graph } }, .done)
  | .rename name, e => return ({ e with draft := { e.draft with name := name } }, .done)
  | .describe description, e =>
    return ({ e with draft := { e.draft with description := description } }, .done)
  | .save, e => do
    let (after, result) ← e.save
    return (after, .saved result)
  | .execute, e => do
    let result ← e.execute
    return (e, .executed result)

/-- What an operation can come to. -/
inductive Performed (e : Editor) : Operation → List Exchange → Outcome → Editor → Prop
  | new (name : String) : Performed e (.new name) [] .done (.new name)
  | opened (id : String) (record : Record) :
      Performed e (.openWorkflow id) [⟨.getWorkflow id, .ok record⟩] (.opened (.ok ()))
        (ofRecord record)
  | notOpened (id : String) (cause : ClientError) :
      Performed e (.openWorkflow id) [⟨.getWorkflow id, .error cause⟩] (.opened (.error cause)) e
  | useSchemas (schemas : Registry) :
      Performed e (.useSchemas schemas) [] .done { e with schemas := schemas }
  | edited (change : Graph → Graph) :
      Performed e (.edit change) [] .done
        { e with draft := { e.draft with graph := change e.draft.graph } }
  | renamed (name : String) :
      Performed e (.rename name) [] .done { e with draft := { e.draft with name := name } }
  | described (description : String) :
      Performed e (.describe description) [] .done
        { e with draft := { e.draft with description := description } }
  | saved {exchanges : List Exchange} {after : Editor} {result : Except EditorError Saved}
      (saving : e.Saving exchanges after result) :
      Performed e .save exchanges (.saved result) after
  | notSaved (unknown : e.workflowId = none) :
      Performed e .execute [] (.executed (.error .notSaved)) e
  | executed {id : String} (known : e.workflowId = some id) (reply : Except ClientError String) :
      Performed e .execute [⟨.executeWorkflow id, reply⟩] (.executed (reply.mapError .client)) e

theorem performed_perform (operation : Operation) (e : Editor) (state : σ) :
    e.Performed operation ((perform operation e).exchanges server state)
      ((perform operation e).run server state).value.2
      ((perform operation e).run server state).value.1 := by
  cases operation with
  | new name => exact .new name
  | openWorkflow id =>
      have opening := opening_openWorkflow server id state
      simp only [perform]
      rw [Session.exchanges_bind, Session.value_bind]
      generalize (openWorkflow id).exchanges server state = exchanges at opening ⊢
      generalize ((openWorkflow id).run server state).value = result at opening ⊢
      cases opening with
      | failed cause => exact .notOpened id cause
      | loaded record => exact .opened id record
  | useSchemas schemas => exact .useSchemas schemas
  | edit change => exact .edited change
  | rename name => exact .renamed name
  | describe description => exact .described description
  | save =>
      unfold perform
      rw [Session.exchanges_bind_pure, Session.value_bind_pure]
      exact .saved (e.saving_save server state)
  | execute =>
      unfold perform
      rw [Session.exchanges_bind_pure, Session.value_bind_pure]
      unfold execute
      cases known : e.workflowId with
      | none => exact .notSaved known
      | some id =>
          dsimp only
          rw [Session.exchanges_ask, Session.value_ask]
          generalize server (.executeWorkflow id) state = answered
          rcases answered with ⟨cause | executionId, reached⟩
          · exact .executed known (.error cause)
          · dsimp only
            rw [Session.exchanges_log, Session.value_log]
            exact .executed known (.ok executionId)

theorem performed_of_mem_history {operations : List Operation} {start : Editor} {state : σ}
    {m : Moment Operation Editor Outcome}
    (member : m ∈ Moment.history perform server operations start state) :
    m.before.Performed m.operation m.exchanges m.result m.after := by
  rcases Moment.mem_history perform server member with ⟨operation, held, reached, rfl⟩
  exact performed_perform server operation held reached

variable {e after : Editor} {operation : Operation} {exchanges : List Exchange} {outcome : Outcome}

/-- Only a save sends a request to save, and it sends the valid draft with its definition. -/
theorem Performed.of_saveRequest {c : Call} {request : SaveRequest}
    (performed : e.Performed operation exchanges outcome after)
    (member : c ∈ exchanges.map Exchange.call) (saves : c.saveRequest? = some request) :
    operation = .save ∧ e.validate.isValid = true ∧
      e.draft.compile = .ok request.definition ∧ request.graph = e.draft.graph := by
  cases performed with
  | saved saving => exact ⟨rfl, saving.of_saveRequest member saves⟩
  | opened id record | notOpened id cause | executed known reply =>
      obtain rfl := List.mem_singleton.mp member
      cases saves
  | _ => cases member

/-- A save makes its one call if the draft is valid, and none if it is not. -/
theorem Performed.calls_of_save (performed : e.Performed .save exchanges outcome after) :
    (e.validate.isValid = true ∧ ∃ definition, e.draft.compile = .ok definition ∧
      exchanges.map Exchange.call = [saveCall e.workflowId ⟨definition, e.draft.graph⟩]) ∨
    (e.validate.isValid = false ∧ outcome = .saved (.error (.invalid e.validate)) ∧
      exchanges.map Exchange.call = []) := by
  cases performed with
  | saved saving =>
      cases saving with
      | invalid broken => exact Or.inr ⟨broken, rfl, rfl⟩
      | refused valid compiled cause | stored valid compiled saved =>
          exact Or.inl ⟨valid, _, compiled, by rw [List.map_singleton, call_saveExchange]⟩

theorem Performed.unchanged_of_save_error {problem : EditorError}
    (performed : e.Performed operation exchanges (.saved (.error problem)) after) : after = e := by
  cases performed with
  | saved saving =>
      cases saving with
      | invalid broken => rfl
      | refused valid compiled cause => rfl

theorem Performed.silent_of_invalid {report : Report}
    (performed : e.Performed operation exchanges (.saved (.error (.invalid report))) after) :
    exchanges = [] := by
  cases performed with
  | saved saving =>
      cases saving with
      | invalid broken => rfl

theorem Performed.after_of_save_ok {saved : Saved}
    (performed : e.Performed operation exchanges (.saved (.ok saved)) after) :
    (∃ request, exchanges = [saveExchange e.workflowId request (.ok saved)]) ∧
      after = { e with workflowId := some saved.id, version := saved.version } := by
  cases performed with
  | saved saving =>
      cases saving with
      | stored valid compiled saved => exact ⟨⟨_, rfl⟩, rfl⟩

theorem Performed.silent_of_unknown (performed : e.Performed .execute exchanges outcome after)
    (unknown : e.workflowId = none) : exchanges = [] := by
  cases performed with
  | notSaved _ => rfl
  | executed known reply =>
      rw [unknown] at known
      cases known

/-- Whatever the backend answers and whatever the editor is asked for: each request to save that the
backend receives holds the graph of a draft that was valid under the schemas and the name of that
moment, with the definition compiled from that draft.  A save that fails leaves the editor as it
was, and makes no call if the draft is invalid; one that succeeds takes over the id and the version
that the backend gave, and changes nothing else.  Without an id nothing is executed. -/
theorem sends_only_valid_drafts (state : σ) (start : Editor) (operations : List Operation) :
    (∀ c ∈ ((Session.performAll perform operations start).run server state).calls,
      ∀ request, c.saveRequest? = some request →
        ∃ m ∈ Moment.history perform server operations start state,
          m.operation = .save ∧ c ∈ m.calls ∧
          (Validation.validate m.before.schemas m.before.draft.name
            m.before.draft.graph).isValid = true ∧
          m.before.draft.compile = .ok request.definition ∧
          request.graph = m.before.draft.graph) ∧
    ∀ m ∈ Moment.history perform server operations start state,
      (m.operation = .save →
        (m.before.validate.isValid = true ∧ ∃ definition,
          m.before.draft.compile = .ok definition ∧
          m.calls = [saveCall m.before.workflowId ⟨definition, m.before.draft.graph⟩]) ∨
        (m.before.validate.isValid = false ∧
          m.result = .saved (.error (.invalid m.before.validate)) ∧ m.calls = [])) ∧
      (∀ problem, m.result = .saved (.error problem) → m.after = m.before) ∧
      (∀ report, m.result = .saved (.error (.invalid report)) → m.calls = []) ∧
      (∀ saved, m.result = .saved (.ok saved) →
        (∃ request, m.exchanges = [saveExchange m.before.workflowId request (.ok saved)]) ∧
        m.after = { m.before with workflowId := some saved.id, version := saved.version }) ∧
      (m.operation = .execute → m.before.workflowId = none → m.calls = []) := by
  constructor
  · intro c member request saves
    rw [Session.calls_performAll, List.mem_flatMap] at member
    rcases member with ⟨m, moment, called⟩
    have performed := performed_of_mem_history server moment
    rcases performed.of_saveRequest called saves with ⟨save, valid, compiled, sent⟩
    exact ⟨m, moment, save, called, valid, compiled, sent⟩
  · intro m moment
    have performed := performed_of_mem_history server moment
    refine ⟨?_, ?_, ?_, ?_, ?_⟩
    · intro save
      rw [save] at performed
      exact performed.calls_of_save
    · intro problem failed
      rw [failed] at performed
      exact performed.unchanged_of_save_error
    · intro report failed
      rw [failed] at performed
      exact congrArg (List.map Exchange.call) performed.silent_of_invalid
    · intro saved succeeded
      rw [succeeded] at performed
      exact performed.after_of_save_ok
    · intro execute unknown
      rw [execute] at performed
      exact congrArg (List.map Exchange.call) (performed.silent_of_unknown unknown)

/-- A manual trigger without actions is valid, and is sent to the empty backend in memory. -/
theorem sends_only_valid_drafts_manual :
    let draft := (⟨"Manual", "", "MANUAL", .empty, .empty, [], none⟩ : Definition).toDraft
    let start : Editor := ⟨.builtIn, draft, none, none⟩
    ∃ definition,
      .createWorkflow ⟨definition, draft.graph⟩ ∈
        ((Session.performAll perform [.save] start).run Store.answer .empty).calls ∧
      ∃ m ∈ Moment.history perform Store.answer [.save] start .empty,
        m.operation = .save ∧ .createWorkflow ⟨definition, draft.graph⟩ ∈ m.calls ∧
        (Validation.validate m.before.schemas m.before.draft.name
          m.before.draft.graph).isValid = true ∧
        m.before.draft.compile = .ok definition ∧ draft.graph = m.before.draft.graph := by
  intro draft start
  have valid : start.validate.isValid = true := by decide +kernel
  rcases (performed_perform Store.answer .save start .empty).calls_of_save with
    ⟨_, definition, _, called⟩ | ⟨broken, _, _⟩
  · have sent : .createWorkflow ⟨definition, draft.graph⟩ ∈
        ((Session.performAll perform [.save] start).run Store.answer .empty).calls := by
      rw [Session.calls_performAll, Moment.history, List.flatMap_cons]
      refine List.mem_append_left _ ?_
      change _ ∈ (((perform .save start).exchanges Store.answer .empty).map Exchange.call)
      rw [called]
      exact List.mem_singleton_self _
    have law := sends_only_valid_drafts Store.answer .empty start [.save]
    exact ⟨definition, sent, law.1 _ sent _ rfl⟩
  · rw [valid] at broken
    cases broken

end Editor

end Workflow
