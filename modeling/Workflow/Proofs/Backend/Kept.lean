import Workflow.Proofs.Backend.History
import Workflow.Proofs.Definition.Stored
import Workflow.Backend.Store

namespace Workflow

/-!
# What the backend in memory keeps

A save that succeeds keeps its request under the id that it answers.  From then on, whatever else is
asked of the backend, the request stays under that id until another workflow is stored there;
toggling sets the flag and nothing else.
-/

/-- The id under which the backend answers to have stored a workflow, saved or copied. -/
def Exchange.storedId? : Exchange → Option String
  | ⟨.createWorkflow _, .ok saved⟩ => some saved.id
  | ⟨.updateWorkflow _ _, .ok saved⟩ => some saved.id
  | ⟨.cloneWorkflow _, .ok id⟩ => some id
  | _ => none

namespace Store

/-- A save request is kept under an id with a version, whatever the flag. -/
def Keeps (s : Store) (id : String) (request : SaveRequest) (version : Int) : Prop :=
  ∃ active, s.records.get? id = some (request.stored id version active)

variable {s : Store} {id : String} {request : SaveRequest} {version : Int}

theorem keeps_keep (s : Store) (id : String) (request : SaveRequest) (version : Int) :
    (s.keep id request version).Keeps id request version := by
  refine ⟨none, ?_⟩
  change (s.records.insert id _).get? id = _
  rw [Dictionary.get?_insert, if_pos rfl, request.ofObject_insert_body]

/-- Putting a record under another id keeps what there is. -/
theorem Keeps.of_insert (kept : s.Keeps id request version) {other : String} {record : Json}
    {after : Store} (apart : other ≠ id)
    (put : after.records = s.records.insert other record) : after.Keeps id request version := by
  rcases kept with ⟨active, found⟩
  exact ⟨active, by rw [put, Dictionary.get?_insert, if_neg apart.symm, found]⟩

theorem Keeps.answer (kept : s.Keeps id request version) {c : Call}
    (apart : Exchange.storedId? ⟨c, (Store.answer c s).1⟩ ≠ some id) :
    (Store.answer c s).2.Keeps id request version := by
  cases c with
  | createWorkflow other => exact kept.of_insert (fun same => apart (congrArg some same)) rfl
  | updateWorkflow other changed =>
      simp only [Store.answer] at apart ⊢
      split at apart
      · exact kept
      · exact kept.of_insert (fun same => apart (congrArg some same)) rfl
  | cloneWorkflow other =>
      simp only [Store.answer] at apart ⊢
      split at apart
      · exact kept
      · exact kept.of_insert (fun same => apart (congrArg some same)) rfl
  | toggleWorkflow other =>
      simp only [Store.answer]
      split
      · exact kept
      · next record found =>
        by_cases same : other = id
        · subst same
          rcases kept with ⟨active, held⟩
          obtain rfl := Option.some.inj (found.symm.trans held)
          refine ⟨some (!isActive (request.stored other version active)), ?_⟩
          rw [← SaveRequest.setMember_stored, Dictionary.get?_insert, if_pos rfl]
          rfl
        · exact kept.of_insert same rfl
  | getWorkflow other =>
      simp only [Store.answer]
      split
      · exact kept
      · split
        · exact kept
        · exact kept
  | exportWorkflow other | executeWorkflow other =>
      simp only [Store.answer]
      split
      · exact kept
      · exact kept
  | importWorkflow imported | listExecutions filter => exact kept
  | getExecution other =>
      simp only [Store.answer, look]
      split
      · exact kept
      · exact kept
  | transition action other =>
      simp only [Store.answer, move]
      split
      · exact kept
      · split
        · exact kept
        · exact kept

/-- What is kept under an id stays there through any session that stores nothing under the id. -/
theorem Keeps.run {α : Type} (session : Session α) (kept : s.Keeps id request version)
    (apart : ∀ x ∈ session.exchanges Store.answer s, x.storedId? ≠ some id) :
    (session.run Store.answer s).state.Keeps id request version := by
  induction session generalizing s with
  | done value => exact kept
  | emit event rest inductionHypothesis => exact inductionHypothesis kept apart
  | call c next inductionHypothesis =>
      have first := kept.answer (apart _ List.mem_cons_self)
      exact inductionHypothesis _ first fun x member => apart x (List.mem_cons_of_mem _ member)

theorem versionOf_bounds (record : Json) :
    -Int.pow 2 63 ≤ versionOf record ∧ versionOf record < Int.pow 2 63 := by
  have zero : -Int.pow 2 63 ≤ 0 ∧ (0 : Int) < Int.pow 2 63 := by decide
  unfold versionOf
  cases given : (record.member? "version").bind Json.integer? with
  | none => exact zero
  | some i =>
      rcases Option.bind_eq_some_iff.mp given with ⟨v, _, integer⟩
      unfold Json.integer? at integer
      split at integer
      · split at integer
        · next bounds =>
          obtain rfl := Option.some.inj integer
          exact bounds
        · cases integer
      · cases integer

end Store

end Workflow
