import Mathlib.Data.List.Basic
import Workflow.Http.Client
import Workflow.Proofs.Definition.Members
import Workflow.Proofs.Execution.Members

namespace Workflow.Http

/-!
# What answers are

What the bodies of answers say is defined here by their members alone, in the words of the backend:
which names a field goes by, which of them must be there, and what may stand under them.  An id is
the same notion wherever it occurs, in an answer with an id, in one to saving and in one to starting
an execution.

The decoders of the client are then shown to find in a body just what it says.
-/

open Decoder Source

/-! ## What bodies say -/

/-- An answer with an id, under either of its names. -/
def SaysId (root : Source) (name : String) : Prop :=
  ∃ entries, root.Lists [["id", "workflowId"]] entries ∧
    Says IsId (under ["id", "workflowId"] entries) name

/-- An answer that says whether a workflow is active. -/
def SaysActive (root : Source) (active : Bool) : Prop :=
  ∃ entries, root.Lists [["isActive", "is_active"]] entries ∧
    Says IsFlag (under ["isActive", "is_active"] entries) active

/-- An answer to starting an execution: maybe its id, which can be anything, and maybe a message. -/
def SaysStarted (root : Source) (started : Started) : Prop :=
  ∃ entries, root.Lists [["executionId", "execution_id"], ["message"]] entries ∧
    MaySay IsPresent (under ["executionId", "execution_id"] entries) started.executionId ∧
    MaySay IsText (under ["message"] entries) started.message

/-- A refusal, which may have either text, both or none. -/
def SaysRefusal (root : Source) (refusal : Refusal) : Prop :=
  ∃ entries, root.Lists [["message"], ["error"]] entries ∧
    MaySay IsText (under ["message"] entries) refusal.message ∧
    MaySay IsText (under ["error"] entries) refusal.error

variable {medium : Medium} {root : Source}

/-! ## Answers of one field -/

section OnlyField

variable {β : Type}

/-- The only field of an answer, which must be there. -/
def onlyField (names : List String) (decode : Decoder β) : GroupField (Option β) β :=
  .needed names decode id (fun _ content => content) (fun _ _ => rfl) id

theorem visit_onlyField (names : List String) (decode : Decoder β) (slot : Option β)
    (source : Source) : (onlyField names decode).visit medium slot source =
      once (names.headD "") slot (decode medium source) :=
  congrFun Except.map_id _

end OnlyField

theorem hasFields_id : idDecoder.HasFields [onlyField ["id", "workflowId"] Decoder.id] := by
  refine ⟨_, rfl, rfl, rfl, rfl, ?visit, List.pairwise_singleton _ _, fun _ _ same => same,
    fun _ _ _ => required_eq_ok_iff⟩
  case visit =>
    intro medium slot key source
    rw [visitField_cons, visitField_nil, visit_onlyField]
    simp only [onlyField, GroupField.needed, idGroup, List.mem_cons, List.not_mem_nil, or_false]
    rfl

theorem idDecoder_eq_ok_iff {name : String} :
    idDecoder medium root = .ok name ↔ SaysId root name := by
  refine hasFields_id.eq_ok_iff fun entries => ?_
  exact GroupField.means_needed_iff fun _ _ => id_eq_ok_iff

theorem hasFields_active : activeDecoder.HasFields [onlyField ["isActive", "is_active"] bool] := by
  refine ⟨_, rfl, rfl, rfl, rfl, ?visit, List.pairwise_singleton _ _, fun _ _ same => same,
    fun _ _ _ => required_eq_ok_iff⟩
  case visit =>
    intro medium slot key source
    rw [visitField_cons, visitField_nil, visit_onlyField]
    simp only [onlyField, GroupField.needed, activeGroup, List.mem_cons, List.not_mem_nil,
      or_false]
    rfl

theorem activeDecoder_eq_ok_iff {active : Bool} :
    activeDecoder medium root = .ok active ↔ SaysActive root active := by
  refine hasFields_active.eq_ok_iff fun entries => ?_
  exact GroupField.means_needed_iff fun _ _ => bool_eq_ok_iff

/-- A byte that is no UTF-8 does not matter in a member that no field asks for. -/
example :
    let bytes := Text.toBytes "\x7b\"isActive\":true,\"note\":\"" ++
      0xFF :: Text.toBytes "\"\x7d"
    (activeDecoder.ofBytes bytes).toOption = some true := by
  decide +kernel

/-! ## Answers of two fields -/

/-- The fields of an answer to starting an execution. -/
def startedFields : List (GroupField StartedFields Started) :=
  [.spared ["executionId", "execution_id"] (nullable any) (·.executionId)
      (fun fields executionId => { fields with executionId }) (fun _ _ => rfl)
      Started.executionId none,
    .spared ["message"] (nullable string) (·.message)
      (fun fields message => { fields with message }) (fun _ _ => rfl) Started.message none]

theorem hasFields_started : Started.decoder.HasFields startedFields := by
  refine ⟨_, rfl, rfl, rfl, ⟨rfl, rfl⟩, ?visit, ?apart, ?state, ?finish⟩
  case visit =>
    intro medium state key source
    simp only [startedFields, GroupField.spared, visitField_cons, visitField_nil, List.mem_cons,
      List.not_mem_nil, or_false]
    rfl
  case apart => simp [startedFields, GroupField.spared, GroupField.apart_iff]
  case state =>
    rintro ⟨_, _⟩ ⟨_, _⟩ same
    rwa [StartedFields.mk.injEq]
  case finish =>
    rintro absent ⟨_, _⟩ ⟨_, _⟩
    rw [Started.fieldGroup, Except.ok.injEq, Started.mk.injEq]
    rfl

theorem Started.decoder_eq_ok_iff {started : Started} :
    Started.decoder medium root = .ok started ↔ SaysStarted root started := by
  refine hasFields_started.eq_ok_iff fun entries => ?_
  exact and_congr (GroupField.means_spared_iff fun _ _ => nullable_any_eq_ok_iff)
    (GroupField.means_spared_iff fun _ _ => nullable_string_eq_ok_iff)

/-- The fields of a refusal. -/
def refusalFields : List (GroupField RefusalFields Refusal) :=
  [.spared ["message"] (nullable string) (·.message)
      (fun fields message => { fields with message }) (fun _ _ => rfl) Refusal.message none,
    .spared ["error"] (nullable string) (·.error) (fun fields error => { fields with error })
      (fun _ _ => rfl) Refusal.error none]

theorem hasFields_refusal : Refusal.decoder.HasFields refusalFields := by
  refine ⟨_, rfl, rfl, rfl, ⟨rfl, rfl⟩, ?visit, ?apart, ?state, ?finish⟩
  case visit =>
    intro medium state key source
    simp only [refusalFields, GroupField.spared, visitField_cons, visitField_nil,
      List.mem_singleton]
    rfl
  case apart => simp [refusalFields, GroupField.spared, GroupField.apart_iff]
  case state =>
    rintro ⟨_, _⟩ ⟨_, _⟩ same
    rwa [RefusalFields.mk.injEq]
  case finish =>
    rintro absent ⟨_, _⟩ ⟨_, _⟩
    rw [Refusal.fieldGroup, Except.ok.injEq, Refusal.mk.injEq]
    rfl

theorem Refusal.decoder_eq_ok_iff {refusal : Refusal} :
    Refusal.decoder medium root = .ok refusal ↔ SaysRefusal root refusal := by
  refine hasFields_refusal.eq_ok_iff fun entries => ?_
  exact and_congr (GroupField.means_spared_iff fun _ _ => nullable_string_eq_ok_iff)
    (GroupField.means_spared_iff fun _ _ => nullable_string_eq_ok_iff)

end Workflow.Http
