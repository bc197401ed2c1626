import Workflow.Proofs.Definition.ReadBack
import Workflow.Proofs.Execution.Members
import Workflow.Proofs.Json.Parts
import Workflow.Proofs.Time.ReadBack

namespace Workflow

/-!
# Reading executions that were written

The records of an execution and of its steps are written with all their fields, so they are read
back as they were, if their instants are sound.  Those of every execution that is read are, whatever
it is read from: a text or a value, with fields missing, `null` or in an array.
-/

open Decoder Source

variable {medium : Medium} {source : Source}

/-! ## Single values -/

theorem wordDecoder_value (medium : Medium) (n : UInt32) :
    wordDecoder medium (.value (.ofNat n.toNat)) = .ok n :=
  wordDecoder_eq_ok_iff.mpr rfl

theorem variant_executionStatus (medium : Medium) (status : ExecutionStatus) :
    variant ExecutionStatus.ofName? medium (.value (.string status.name)) = .ok status := by
  cases status <;> rfl

theorem variant_stepStatus (medium : Medium) (status : StepStatus) :
    variant StepStatus.ofName? medium (.value (.string status.name)) = .ok status := by
  cases status <;> rfl

theorem nullable_message (medium : Medium) (message : Option String) :
    nullable string medium (.value (.ofOption .string message)) = .ok message := by
  apply nullable_ofOption medium
  · intro text null
    cases null
  · exact fun text _ => string_value medium text

namespace Instant

theorem decoder_toJson (medium : Medium) {i : Instant} (sound : i.Sound) :
    Instant.decoder medium (.value i.toJson) = .ok i :=
  decoder_eq_ok_iff.mpr ⟨_, rfl, ofText?_toText sound⟩

theorem sound_of_isInstant {i : Instant} (said : source.IsInstant i) : i.Sound := by
  rcases said with ⟨text, _, read⟩
  exact sound_of_ofText? read

end Instant

/-! ## Steps -/

namespace StepLog

theorem decoder_toJson (medium : Medium) {s : StepLog} (sound : s.executedAt.Sound) :
    StepLog.decoder medium (.value s.toJson) = .ok s := by
  unfold StepLog.decoder StepLog.toJson
  rw [group_value]
  -- The index is read before anything is computed, so that nothing counts up to its bound.
  simp only [List.foldlM_cons, List.foldlM_nil, String.reduceEq, if_true, if_false,
    wordDecoder_value]
  simp [once, required, variant_stepStatus, nullable_message, Instant.decoder_toJson medium sound,
    Except.map, bind, Except.bind, pure, Except.pure]

theorem sound_of_isStep {s : StepLog} (said : source.IsStep s) : s.executedAt.Sound := by
  rcases said with ⟨entries, lists, _, _, _, _, _, _, executed⟩
  rcases lists.exists_of_says executed with ⟨inner, _, moment⟩
  exact Instant.sound_of_isInstant moment

end StepLog

/-! ## Executions -/

namespace Execution

/-- The instants of an execution and of its steps. -/
def instants (e : Execution) : List Instant :=
  e.startedAt :: (e.completedAt.toList ++ e.logs.map StepLog.executedAt)

theorem decoder_toJson (medium : Medium) {e : Execution} (sound : ∀ i ∈ e.instants, i.Sound) :
    Execution.decoder medium (.value e.toJson) = .ok e := by
  have started : e.startedAt.Sound := sound _ List.mem_cons_self
  have completed : nullable Instant.decoder medium
      (.value (.ofOption Instant.toJson e.completedAt)) = .ok e.completedAt := by
    apply nullable_ofOption medium
    · intro i null
      cases null
    · intro i found
      apply Instant.decoder_toJson medium
      exact sound i (List.mem_cons_of_mem _ (List.mem_append_left _ (Option.mem_toList.mpr found)))
  have logs : list StepLog.decoder medium (.value (.array (e.logs.map StepLog.toJson))) =
      .ok e.logs := by
    apply list_value medium
    intro s member
    apply StepLog.decoder_toJson medium
    exact sound _ (List.mem_cons_of_mem _ (List.mem_append_right _ (List.mem_map_of_mem member)))
  unfold Execution.decoder Execution.toJson
  rw [group_value]
  simp only [List.foldlM_cons, List.foldlM_nil, String.reduceEq, if_true, if_false,
    wordDecoder_value]
  simp [once, required, variant_executionStatus, nullable_message,
    Instant.decoder_toJson medium started, completed, logs, Except.map, bind, Except.bind, pure,
    Except.pure]

theorem sound_of_decoder {e : Execution} (read : Execution.decoder medium source = .ok e) :
    ∀ i ∈ e.instants, i.Sound := by
  rcases decoder_eq_ok_iff.mp read with ⟨entries, lists, _, _, _, _, started, completed, _, logs⟩
  intro i member
  rcases List.mem_cons.mp member with rfl | member
  · rcases lists.exists_of_says started with ⟨inner, _, moment⟩
    exact Instant.sound_of_isInstant moment
  rcases List.mem_append.mp member with ended | logged
  · rw [Option.mem_toList.mp ended] at completed
    rcases lists.exists_of_maySay completed with ⟨inner, _, moment⟩
    exact Instant.sound_of_isInstant moment
  · rcases List.mem_map.mp logged with ⟨s, step, rfl⟩
    rcases lists.eq_or_exists_of_orElse logs with none | ⟨inner, _, list⟩
    · rw [none] at step
      cases step
    · rcases exists_of_isList list step with ⟨_, _, said⟩
      exact StepLog.sound_of_isStep said

end Execution

/-! ## Executions, definitions and records -/

/-- Whatever an execution is read from, it is written as a value that is read as the same execution.
In general an execution is read back exactly if the text of each of its instants is, and every
instant that can be read is such a one.  Every definition and every record is read back, but for the
version, which is never written. -/
theorem read_back_unversioned :
    (∀ medium source e, Execution.decoder medium source = .ok e →
      ∀ again, Execution.decoder again (.value e.toJson) = .ok e) ∧
    (∀ (e : Execution) medium, Execution.decoder medium (.value e.toJson) = .ok e ↔
      ∀ i ∈ e.instants, Instant.ofText? i.toText = some i) ∧
    (∀ (d : Definition) medium,
      Definition.decoder medium (.value d.toJson) = .ok { d with version := none }) ∧
    (∀ (r : Record) medium, Record.decoder medium (.value r.toJson) =
      .ok { r with definition := { r.definition with version := none } }) := by
  refine ⟨?_, ?_, ?_, ?_⟩
  · intro medium source e read again
    exact Execution.decoder_toJson again (Execution.sound_of_decoder read)
  · intro e medium
    constructor
    · intro read i member
      exact i.ofText?_toText_iff.mpr (Execution.sound_of_decoder read i member)
    · intro back
      exact Execution.decoder_toJson medium fun i member =>
        i.ofText?_toText_iff.mp (back i member)
  · intro d medium
    exact d.decoder_toJson medium
  · intro r medium
    exact r.decoder_toJson medium

/-- A step that has failed in a leap second, east of UTC. -/
def failedStep : Json :=
  .object [("stepIndex", .ofNat 2), ("actionType", .string "email"), ("status", .string "FAILURE"),
    ("errorMessage", .string "timeout"), ("executedAt", .string "2017-01-01T00:59:60.5+01:00")]

/-- An execution without an end, its ids numbers. -/
def numberedExecution : Json :=
  .object [("id", .ofNat 7), ("workflowId", .ofNat 12), ("status", .string "RUNNING"),
    ("startedAt", .string "2016-12-31T23:59:00Z"), ("completedAt", .null),
    ("logs", .array [failedStep])]

/-- A record with a version and an empty list of nodes, whose description is `null`. -/
def emptiedRecord : Json :=
  .object [("id", .ofNat 12), ("name", .string "Report"), ("description", .null),
    ("triggerType", .string "manual"), ("version", .ofNat 3), ("nodes", .array [])]

/-- Such an execution is read back, and so is the record, its empty list of nodes apart from the
edges that it lacks. -/
theorem read_back_unversioned_numbered :
    (∃ e, Execution.decoder .memory (.value numberedExecution) = .ok e ∧ e.id = "7" ∧
      e.completedAt = none ∧ e.logs.length = 1 ∧
      Execution.decoder .text (.value e.toJson) = .ok e) ∧
    (∃ r, Record.decoder .memory (.value emptiedRecord) = .ok r ∧ r.id = "12" ∧
      r.definition.version = some 3 ∧ r.nodes.map List.length = some 0 ∧ r.edges.isNone = true ∧
      Record.decoder .memory (.value r.toJson) =
        .ok { r with definition := { r.definition with version := none } }) := by
  have executionRead : (Execution.decoder .memory (.value numberedExecution)).toOption.map
      (fun e => (e.id, e.completedAt, e.logs.length)) = some ("7", none, 1) := by
    decide +kernel
  have recordRead : (Record.decoder .memory (.value emptiedRecord)).toOption.map
      (fun r => (r.id, r.definition.version, r.nodes.map List.length, r.edges.isNone)) =
        some ("12", some 3, some 0, true) := by
    decide +kernel
  constructor
  · cases read : Execution.decoder .memory (.value numberedExecution) with
    | error problem =>
        rw [read] at executionRead
        cases executionRead
    | ok e =>
        rw [read] at executionRead
        have parts := Option.some.inj executionRead
        simp only [Prod.mk.injEq] at parts
        exact ⟨e, rfl, parts.1, parts.2.1, parts.2.2,
          read_back_unversioned.1 .memory _ e read .text⟩
  · cases read : Record.decoder .memory (.value emptiedRecord) with
    | error problem =>
        rw [read] at recordRead
        cases recordRead
    | ok r =>
        rw [read] at recordRead
        have parts := Option.some.inj recordRead
        simp only [Prod.mk.injEq] at parts
        exact ⟨r, rfl, parts.1, parts.2.1, parts.2.2.1, parts.2.2.2,
          read_back_unversioned.2.2.2 r .memory⟩

end Workflow
