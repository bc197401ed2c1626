import Mathlib.Data.List.Basic
import Workflow.Execution.Page
import Workflow.Proofs.Json.Fields

namespace Workflow

/-!
# What executions say

The record of a step, an execution and a page of executions are defined here by their members, down
to the instants, which are texts.  A status may be given by its name alone or as an object; words
and natural numbers are held to their bounds.
-/

open Decoder

namespace Source

/-- The source is the text of an instant. -/
def IsInstant (source : Source) (i : Instant) : Prop :=
  ∃ text, source.IsText text ∧ Instant.ofText? text = some i

/-- The record of a step; what it read and wrote may be any values. -/
def IsStep (root : Source) (s : StepLog) : Prop :=
  ∃ entries, root.Lists [["stepIndex"], ["actionType"], ["status"], ["inputData"], ["outputData"],
      ["errorMessage"], ["executedAt"]] entries ∧
    Says IsWord (under ["stepIndex"] entries) s.stepIndex ∧
    Says IsText (under ["actionType"] entries) s.actionType ∧
    Says (IsNamed StepStatus.name) (under ["status"] entries) s.status ∧
    OrElse IsValue .null (under ["inputData"] entries) s.inputData ∧
    OrElse IsValue .null (under ["outputData"] entries) s.outputData ∧
    MaySay IsText (under ["errorMessage"] entries) s.errorMessage ∧
    Says IsInstant (under ["executedAt"] entries) s.executedAt

/-- An execution, which has a start and may have an end. -/
def IsExecution (root : Source) (e : Execution) : Prop :=
  ∃ entries, root.Lists [["id"], ["workflowId"], ["status"], ["currentStep"], ["startedAt"],
      ["completedAt"], ["errorMessage"], ["logs"]] entries ∧
    Says IsId (under ["id"] entries) e.id ∧
    Says IsId (under ["workflowId"] entries) e.workflowId ∧
    Says (IsNamed ExecutionStatus.name) (under ["status"] entries) e.status ∧
    OrElse IsWord 0 (under ["currentStep"] entries) e.currentStep ∧
    Says IsInstant (under ["startedAt"] entries) e.startedAt ∧
    MaySay IsInstant (under ["completedAt"] entries) e.completedAt ∧
    MaySay IsText (under ["errorMessage"] entries) e.errorMessage ∧
    OrElse (IsList IsStep) [] (under ["logs"] entries) e.logs

/-- A page of executions: the list of them, and maybe three numbers. -/
def IsPage (root : Source) (page : ExecutionPage) : Prop :=
  ∃ entries, root.Lists [["executions", "data", "items"], ["total"], ["page"], ["limit"]] entries ∧
    Says (IsList IsExecution) (under ["executions", "data", "items"] entries) page.executions ∧
    MaySay IsNatural (under ["total"] entries) page.total ∧
    MaySay IsWord (under ["page"] entries) page.page ∧
    MaySay IsWord (under ["limit"] entries) page.limit

end Source

open Source

variable {medium : Medium} {root source : Source}

/-! ## Single values -/

theorem wordDecoder_eq_ok_iff {w : UInt32} :
    wordDecoder medium source = .ok w ↔ source.IsWord w := by
  unfold wordDecoder
  simp only [map_eq_ok_iff, integer_eq_ok_iff]
  constructor
  · rintro ⟨i, ⟨found, low, high⟩, rfl⟩
    have same : ((UInt32.ofNat i.toNat).toNat : Int) = i := by
      have below : i.toNat < UInt32.size := (Int.toNat_lt low).mpr high
      rw [UInt32.toNat_ofNat_of_lt' below]
      exact Int.toNat_of_nonneg low
    rw [IsWord, same]
    exact found
  · intro found
    refine ⟨w.toNat, ⟨found, Int.natCast_nonneg _, Int.ofNat_lt.mpr w.toNat_lt⟩, ?_⟩
    rw [Int.toNat_natCast, UInt32.ofNat_toNat]

theorem naturalDecoder_eq_ok_iff {n : Nat} :
    naturalDecoder medium source = .ok n ↔ source.IsNatural n := by
  unfold naturalDecoder
  simp only [map_eq_ok_iff, integer_eq_ok_iff]
  constructor
  · rintro ⟨i, ⟨found, low, high⟩, rfl⟩
    rw [IsNatural, Int.toNat_of_nonneg low]
    exact ⟨found, low, high⟩
  · exact fun said => ⟨n, said, Int.toNat_natCast n⟩

theorem Instant.decoder_eq_ok_iff {i : Instant} :
    Instant.decoder medium source = .ok i ↔ source.IsInstant i := by
  refine bind_eq_ok_iff.trans (exists_congr fun text => and_congr string_eq_ok_iff ?_)
  cases Instant.ofText? text <;> simp

theorem StepStatus.ofName?_eq_some_iff {name : String} {status : StepStatus} :
    StepStatus.ofName? name = some status ↔ status.name = name := by
  constructor
  · intro found
    have matched := List.find?_some found
    exact eq_of_beq matched
  · rintro rfl
    cases status <;> rfl

theorem ExecutionStatus.ofName?_eq_some_iff {name : String} {status : ExecutionStatus} :
    ExecutionStatus.ofName? name = some status ↔ status.name = name := by
  constructor
  · intro found
    have matched := List.find?_some found
    exact eq_of_beq matched
  · rintro rfl
    cases status <;> rfl

/-! ## Steps -/

/-- The fields of a step's record. -/
def stepLogFields : List (GroupField StepLogFields StepLog) :=
  [.needed ["stepIndex"] wordDecoder (·.stepIndex)
      (fun fields stepIndex => { fields with stepIndex }) (fun _ _ => rfl) StepLog.stepIndex,
    .needed ["actionType"] string (·.actionType)
      (fun fields actionType => { fields with actionType }) (fun _ _ => rfl) StepLog.actionType,
    .needed ["status"] (variant StepStatus.ofName?) (·.status)
      (fun fields status => { fields with status }) (fun _ _ => rfl) StepLog.status,
    .spared ["inputData"] any (·.inputData) (fun fields inputData => { fields with inputData })
      (fun _ _ => rfl) StepLog.inputData .null,
    .spared ["outputData"] any (·.outputData)
      (fun fields outputData => { fields with outputData }) (fun _ _ => rfl)
      StepLog.outputData .null,
    .spared ["errorMessage"] (nullable string) (·.errorMessage)
      (fun fields errorMessage => { fields with errorMessage }) (fun _ _ => rfl)
      StepLog.errorMessage none,
    .needed ["executedAt"] Instant.decoder (·.executedAt)
      (fun fields executedAt => { fields with executedAt }) (fun _ _ => rfl) StepLog.executedAt]

theorem hasFields_stepLog : StepLog.decoder.HasFields stepLogFields := by
  refine ⟨_, rfl, rfl, rfl, ⟨rfl, rfl, rfl, rfl, rfl, rfl, rfl⟩, ?visit, ?apart, ?state, ?finish⟩
  case visit =>
    intro medium state key source
    simp only [stepLogFields, GroupField.needed, GroupField.spared, visitField_cons,
      visitField_nil, List.mem_singleton]
    rfl
  case apart =>
    simp [stepLogFields, GroupField.needed, GroupField.spared, GroupField.apart_iff]
  case state =>
    rintro ⟨_, _⟩ ⟨_, _⟩ same
    rwa [StepLogFields.mk.injEq]
  case finish =>
    rintro absent ⟨_, _⟩ ⟨_, _⟩
    simp only [bind_eq_ok_iff, required_eq_ok_iff]
    constructor
    · rintro ⟨_, rfl, _, rfl, _, rfl, _, rfl, made⟩
      rcases StepLog.mk.inj (Except.ok.inj made) with ⟨rfl, rfl, rfl, rfl, rfl, rfl, rfl⟩
      exact ⟨rfl, rfl, rfl, rfl, rfl, rfl, rfl⟩
    · rintro ⟨index, type, status, input, output, message, moment⟩
      refine ⟨_, index, _, type, _, status, _, moment, congrArg _ ?_⟩
      rw [StepLog.mk.injEq]
      exact ⟨rfl, rfl, rfl, input, output, message, rfl⟩

theorem StepLog.decoder_eq_ok_iff {s : StepLog} :
    StepLog.decoder medium root = .ok s ↔ root.IsStep s := by
  refine hasFields_stepLog.eq_ok_iff fun entries => ?_
  exact and_congr (GroupField.means_needed_iff fun _ _ => wordDecoder_eq_ok_iff) <|
    and_congr (GroupField.means_needed_iff fun _ _ => string_eq_ok_iff) <|
    and_congr (GroupField.means_needed_iff fun _ _ =>
      variant_eq_ok_iff fun _ _ => StepStatus.ofName?_eq_some_iff) <|
    and_congr (GroupField.means_spared_iff fun _ _ => any_eq_ok_iff) <|
    and_congr (GroupField.means_spared_iff fun _ _ => any_eq_ok_iff) <|
    and_congr (GroupField.means_spared_iff fun _ _ => nullable_string_eq_ok_iff)
      (GroupField.means_needed_iff fun _ _ => Instant.decoder_eq_ok_iff)

/-! ## Executions -/

/-- The fields of an execution. -/
def executionFields : List (GroupField ExecutionFields Execution) :=
  [.needed ["id"] Decoder.id (·.id) (fun fields id => { fields with id }) (fun _ _ => rfl)
      Execution.id,
    .needed ["workflowId"] Decoder.id (·.workflowId)
      (fun fields workflowId => { fields with workflowId }) (fun _ _ => rfl) Execution.workflowId,
    .needed ["status"] (variant ExecutionStatus.ofName?) (·.status)
      (fun fields status => { fields with status }) (fun _ _ => rfl) Execution.status,
    .spared ["currentStep"] wordDecoder (·.currentStep)
      (fun fields currentStep => { fields with currentStep }) (fun _ _ => rfl)
      Execution.currentStep 0,
    .needed ["startedAt"] Instant.decoder (·.startedAt)
      (fun fields startedAt => { fields with startedAt }) (fun _ _ => rfl) Execution.startedAt,
    .spared ["completedAt"] (nullable Instant.decoder) (·.completedAt)
      (fun fields completedAt => { fields with completedAt }) (fun _ _ => rfl)
      Execution.completedAt none,
    .spared ["errorMessage"] (nullable string) (·.errorMessage)
      (fun fields errorMessage => { fields with errorMessage }) (fun _ _ => rfl)
      Execution.errorMessage none,
    .spared ["logs"] (list StepLog.decoder) (·.logs) (fun fields logs => { fields with logs })
      (fun _ _ => rfl) Execution.logs []]

theorem hasFields_execution : Execution.decoder.HasFields executionFields := by
  refine ⟨_, rfl, rfl, rfl, ⟨rfl, rfl, rfl, rfl, rfl, rfl, rfl, rfl⟩, ?visit, ?apart, ?state,
    ?finish⟩
  case visit =>
    intro medium state key source
    simp only [executionFields, GroupField.needed, GroupField.spared, visitField_cons,
      visitField_nil, List.mem_singleton]
    rfl
  case apart =>
    simp [executionFields, GroupField.needed, GroupField.spared, GroupField.apart_iff]
  case state =>
    rintro ⟨_, _⟩ ⟨_, _⟩ same
    rwa [ExecutionFields.mk.injEq]
  case finish =>
    rintro absent ⟨_, _⟩ ⟨_, _⟩
    simp only [bind_eq_ok_iff, required_eq_ok_iff]
    constructor
    · rintro ⟨_, rfl, _, rfl, _, rfl, _, rfl, made⟩
      rcases Execution.mk.inj (Except.ok.inj made) with ⟨rfl, rfl, rfl, rfl, rfl, rfl, rfl, rfl⟩
      exact ⟨rfl, rfl, rfl, rfl, rfl, rfl, rfl, rfl⟩
    · rintro ⟨id, workflow, status, step, started, completed, message, logs⟩
      refine ⟨_, id, _, workflow, _, status, _, started, congrArg _ ?_⟩
      rw [Execution.mk.injEq]
      exact ⟨rfl, rfl, rfl, step, rfl, completed, message, logs⟩

theorem Execution.decoder_eq_ok_iff {e : Execution} :
    Execution.decoder medium root = .ok e ↔ root.IsExecution e := by
  have noInstant : ∀ i, ¬IsInstant (.value .null) i := by
    rintro i ⟨text, said, _⟩
    cases said
  refine hasFields_execution.eq_ok_iff fun entries => ?_
  exact and_congr (GroupField.means_needed_iff fun _ _ => id_eq_ok_iff) <|
    and_congr (GroupField.means_needed_iff fun _ _ => id_eq_ok_iff) <|
    and_congr (GroupField.means_needed_iff fun _ _ =>
      variant_eq_ok_iff fun _ _ => ExecutionStatus.ofName?_eq_some_iff) <|
    and_congr (GroupField.means_spared_iff fun _ _ => wordDecoder_eq_ok_iff) <|
    and_congr (GroupField.means_needed_iff fun _ _ => Instant.decoder_eq_ok_iff) <|
    and_congr (GroupField.means_spared_iff fun _ _ =>
      nullable_eq_ok_iff (fun _ _ _ => Instant.decoder_eq_ok_iff) noInstant) <|
    and_congr (GroupField.means_spared_iff fun _ _ => nullable_string_eq_ok_iff)
      (GroupField.means_spared_iff fun _ _ => list_eq_ok_iff fun _ _ => StepLog.decoder_eq_ok_iff)

/-! ## Pages -/

/-- The fields of a page. -/
def pageFields : List (GroupField ExecutionPageFields ExecutionPage) :=
  [.needed ["executions", "data", "items"] (list Execution.decoder) (·.executions)
      (fun fields executions => { fields with executions }) (fun _ _ => rfl)
      ExecutionPage.executions,
    .spared ["total"] (nullable naturalDecoder) (·.total)
      (fun fields total => { fields with total }) (fun _ _ => rfl) ExecutionPage.total none,
    .spared ["page"] (nullable wordDecoder) (·.page) (fun fields page => { fields with page })
      (fun _ _ => rfl) ExecutionPage.page none,
    .spared ["limit"] (nullable wordDecoder) (·.limit) (fun fields limit => { fields with limit })
      (fun _ _ => rfl) ExecutionPage.limit none]

theorem hasFields_page : ExecutionPage.decoder.HasFields pageFields := by
  refine ⟨_, rfl, rfl, rfl, ⟨rfl, rfl, rfl, rfl⟩, ?visit, ?apart, ?state, ?finish⟩
  case visit =>
    intro medium state key source
    simp only [pageFields, GroupField.needed, GroupField.spared, visitField_cons,
      visitField_nil, List.mem_cons, List.not_mem_nil, or_false]
    rfl
  case apart => simp [pageFields, GroupField.needed, GroupField.spared, GroupField.apart_iff]
  case state =>
    rintro ⟨_, _⟩ ⟨_, _⟩ same
    rwa [ExecutionPageFields.mk.injEq]
  case finish =>
    rintro absent ⟨_, _⟩ ⟨_, _⟩
    simp only [ExecutionPage.fieldGroup, bind_eq_ok_iff, required_eq_ok_iff]
    simp [pageFields, GroupField.needed, GroupField.spared, pure, Except.pure]

theorem nullable_word_eq_ok_iff {value : Option UInt32} :
    nullable wordDecoder medium source = .ok value ↔ NullOr IsWord source value :=
  nullable_eq_ok_iff (fun _ _ _ => wordDecoder_eq_ok_iff) fun _ said => by cases said

theorem ExecutionPage.decoder_eq_ok_iff {page : ExecutionPage} :
    ExecutionPage.decoder medium root = .ok page ↔ root.IsPage page := by
  have noNatural : ∀ n, ¬IsNatural (.value .null) n := fun _ said => by cases said.1
  refine hasFields_page.eq_ok_iff fun entries => ?_
  exact and_congr (GroupField.means_needed_iff fun _ _ =>
      list_eq_ok_iff fun _ _ => Execution.decoder_eq_ok_iff) <|
    and_congr (GroupField.means_spared_iff fun _ _ =>
      nullable_eq_ok_iff (fun _ _ _ => naturalDecoder_eq_ok_iff) noNatural) <|
    and_congr (GroupField.means_spared_iff fun _ _ => nullable_word_eq_ok_iff)
      (GroupField.means_spared_iff fun _ _ => nullable_word_eq_ok_iff)

end Workflow
