import Workflow.Proofs.Backend.Kept
import Workflow.Proofs.Editor.Saving

namespace Workflow

/-!
# Opening what was saved

Saving turns a draft into a definition with the nodes and edges beside it, the backend puts them
away as one object, and opening reads that object as a record and the record as a draft.  Nothing is
lost on this way but an empty type, which is read as no type: a draft without one is opened as it
was, and saving it again sends what was sent before.
-/

namespace Editor

/-- A save that the backend in memory answers keeps the request, and gives its id and version. -/
theorem keeps_sendSave {s : Store} {workflowId : Option String} {request : SaveRequest}
    {saved : Saved} (answerable : s.canAnswer (saveCall workflowId request) = true)
    (succeeded : ((sendSave workflowId request).run Store.answer s).value = .ok saved) :
    ∃ version, (-Int.pow 2 63 ≤ version ∧ version < Int.pow 2 63) ∧ saved.version = some version ∧
      ((sendSave workflowId request).run Store.answer s).state.Keeps saved.id request version := by
  cases workflowId with
  | none =>
      obtain rfl := Except.ok.inj succeeded
      exact ⟨1, by decide, rfl, Store.keeps_keep _ _ _ _⟩
  | some id =>
      change (Store.answer (.updateWorkflow id request) s).1 = .ok saved at succeeded
      change ∃ version, _ ∧ _ ∧ (Store.answer (.updateWorkflow id request) s).2.Keeps _ _ _
      simp only [Store.answer] at succeeded ⊢
      cases found : s.records.get? id with
      | none =>
          rw [found] at succeeded
          cases succeeded
      | some record =>
          rw [found] at succeeded
          obtain rfl := Except.ok.inj succeeded
          have below : Store.versionOf record + 1 < Int.pow 2 63 := by
            simpa [saveCall, Store.canAnswer, found] using answerable
          have above := (Store.versionOf_bounds record).1
          exact ⟨Store.versionOf record + 1, ⟨by omega, below⟩, rfl, Store.keeps_keep _ _ _ _⟩

/-- A request that is kept is opened with its graph, if no type in the graph is empty. -/
theorem openWorkflow_of_keeps {s : Store} {id : String} {request : SaveRequest} {version : Int}
    (kept : s.Keeps id request version)
    (bounds : -Int.pow 2 63 ≤ version ∧ version < Int.pow 2 63)
    (nonempty : request.graph.NoEmptyTypes) (inhabited : request.graph.nodes ≠ []) :
    ((openWorkflow id).run Store.answer s).value =
      .ok ⟨.builtIn, ⟨request.definition.name, request.definition.description, request.graph⟩,
        some id, some version⟩ := by
  rcases kept with ⟨active, found⟩
  have read := request.decoder_stored id version active bounds
  have graph : graphOf ⟨id, active.getD false, { request.definition with version := some version },
      some (request.graph.nodes.map Node.toLoose), some request.graph.edges⟩ = request.graph := by
    have stored := LooseGraph.toGraph_toLoose nonempty
    unfold graphOf Record.storedGraph
    cases listed : request.graph.nodes.map Node.toLoose with
    | nil => exact absurd (List.map_eq_nil_iff.mp listed) inhabited
    | cons first rest =>
        rw [listed] at stored
        dsimp only
        rw [Option.getD_some, stored]
  unfold openWorkflow
  rw [Session.value_ask]
  simp only [Store.answer, found, read]
  rw [Session.value_log]
  unfold ofRecord
  rw [graph]
  rfl

/-- A draft without empty types that the backend in memory was asked to save, and could and did, is
opened again under the id that was answered, with the version that was answered.  In between the
backend may have been asked for anything that stores no other workflow under the id.  Saved again
under the same schemas, by whatever backend, it is sent as it was sent first. -/
theorem reopens_as_saved {β τ : Type} (e : Editor) (s : Store) (saved : Saved)
    (between : Session β) (server : Session.Server τ) (state : τ)
    (nonempty : e.draft.graph.NoEmptyTypes)
    (answerable : ∀ c ∈ (e.save.run Store.answer s).calls, s.canAnswer c = true)
    (succeeded : (e.save.run Store.answer s).value.2 = .ok saved)
    (untouched : ∀ x ∈ between.exchanges Store.answer (e.save.run Store.answer s).state,
      x.storedId? ≠ some saved.id) :
    let first := e.save.run Store.answer s
    let later := (between.run Store.answer first.state).state
    ∃ reopened, ((openWorkflow saved.id).run Store.answer later).value = .ok reopened ∧
      reopened.draft = e.draft ∧ reopened.workflowId = some saved.id ∧
      reopened.version = saved.version ∧
      ∃ request, first.calls = [saveCall e.workflowId request] ∧
        ({ reopened with schemas := e.schemas }.save.run server state).calls =
          [.updateWorkflow saved.id request] := by
  intro first later
  rcases of_save_ok Store.answer succeeded with ⟨definition, valid, compiled, replied⟩
  rcases run_save Store.answer valid compiled s with ⟨reached, _, called⟩
  rcases Draft.of_compile_ok compiled with ⟨sameName, sameDescription, inhabited⟩
  have can : s.canAnswer (saveCall e.workflowId ⟨definition, e.draft.graph⟩) = true :=
    answerable _ (by rw [called]; exact List.mem_singleton_self _)
  rcases keeps_sendSave can replied with ⟨version, bounds, given, kept⟩
  rw [← reached] at kept
  have still : later.Keeps saved.id ⟨definition, e.draft.graph⟩ version :=
    kept.run between untouched
  have opened := openWorkflow_of_keeps still bounds nonempty inhabited
  rw [sameName, sameDescription] at opened
  refine ⟨_, opened, rfl, rfl, given.symm, ⟨definition, e.draft.graph⟩, called, ?_⟩
  exact (run_save server (e := ⟨e.schemas, e.draft, some saved.id, some version⟩) valid compiled
    state).2.2

/-- A manual trigger with an action is opened as it was saved, after its flag was toggled. -/
theorem reopens_as_saved_manual :
    let note : ActionStep := ⟨"NOTE", .ofList [("text", .null)], ""⟩
    let definition : Definition := ⟨"Manual", "By hand", "MANUAL", .empty, .empty, [note], none⟩
    let e : Editor := ⟨.builtIn, definition.toDraft, none, none⟩
    let first := e.save.run Store.answer .empty
    let later := ((Session.ask (.toggleWorkflow "wf-1")).run Store.answer first.state).state
    first.value.2 = .ok ⟨"wf-1", some 1⟩ ∧
    ∃ reopened, ((openWorkflow "wf-1").run Store.answer later).value = .ok reopened ∧
      reopened.draft = e.draft ∧ reopened.workflowId = some "wf-1" ∧ reopened.version = some 1 ∧
      ∃ request, first.calls = [saveCall e.workflowId request] ∧
        ({ reopened with schemas := e.schemas }.save.run Store.answer .empty).calls =
          [.updateWorkflow "wf-1" request] := by
  intro note definition e first later
  have valid : e.validate.isValid = true := by decide +kernel
  have ran := run_save Store.answer valid (e := e) rfl .empty
  have succeeded : first.value.2 = .ok ⟨"wf-1", some 1⟩ := by
    have issued : Store.empty.nextId = "wf-1" := by decide
    rw [ran.2.1, ← issued]
    rfl
  have nonempty : e.draft.graph.NoEmptyTypes := by
    intro n member
    rcases List.mem_cons.mp member with rfl | other
    · change some "MANUAL" ≠ some ""
      decide
    · obtain rfl := List.mem_singleton.mp other
      change some "NOTE" ≠ some ""
      decide
  have answerable : ∀ c ∈ first.calls, Store.empty.canAnswer c = true := by
    intro c member
    rw [ran.2.2] at member
    obtain rfl := List.mem_singleton.mp member
    rfl
  have untouched : ∀ x ∈ (Session.ask (.toggleWorkflow "wf-1")).exchanges Store.answer first.state,
      x.storedId? ≠ some "wf-1" := by
    intro x member
    obtain rfl := List.mem_singleton.mp member
    nofun
  exact ⟨succeeded, reopens_as_saved e .empty ⟨"wf-1", some 1⟩
    (Session.ask (.toggleWorkflow "wf-1")) Store.answer .empty nonempty answerable succeeded
    untouched⟩

end Editor

end Workflow
