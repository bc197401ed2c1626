import Workflow.CommandLine.Plan

namespace Workflow.CommandLine.Plan

/-!
# How a plan can end

A run in memory fixes what the files hold, whether writing succeeds and what the server answers.
Here nothing of this is fixed: an ending is possible if some contents, successes and answers lead to
it.  What is not possible in this sense happens in no run.
-/

/-- Something that can be read, written or answered leads the plan to the ending. -/
inductive CanEnd : Plan → Ending → Prop
  | done (ending : Ending) : CanEnd (.done ending) ending
  | print (line : String) {rest : Plan} {ending : Ending} (after : CanEnd rest ending) :
      CanEnd (.print line rest) ending
  | read (path : String) {next : File → Plan} {ending : Ending} (file : File)
      (after : CanEnd (next file) ending) : CanEnd (.read path next) ending
  | readSettings {next : File → Plan} {ending : Ending} (file : File)
      (after : CanEnd (next file) ending) : CanEnd (.readSettings next) ending
  | write (path content : String) {next : Bool → Plan} {ending : Ending} (written : Bool)
      (after : CanEnd (next written) ending) : CanEnd (.write path content next) ending
  | pause (milliseconds : Nat) {rest : Plan} {ending : Ending} (after : CanEnd rest ending) :
      CanEnd (.pause milliseconds rest) ending
  | call (client : Http.Client) (c : Call) {next : c.Reply → Plan} {ending : Ending}
      (reply : c.Reply) (after : CanEnd (next reply) ending) : CanEnd (.call client c next) ending

variable {ending : Ending}

@[simp] theorem canEnd_done_iff {other : Ending} : (done other).CanEnd ending ↔ other = ending := by
  constructor
  · intro reached
    cases reached
    rfl
  · rintro rfl
    exact .done _

@[simp] theorem canEnd_print_iff {line : String} {rest : Plan} :
    (print line rest).CanEnd ending ↔ rest.CanEnd ending := by
  constructor
  · intro reached
    cases reached with
    | print _ after => exact after
  · exact .print line

@[simp] theorem canEnd_read_iff {path : String} {next : File → Plan} :
    (read path next).CanEnd ending ↔ ∃ file, (next file).CanEnd ending := by
  constructor
  · intro reached
    cases reached with
    | read _ file after => exact ⟨file, after⟩
  · rintro ⟨file, after⟩
    exact .read path file after

@[simp] theorem canEnd_readSettings_iff {next : File → Plan} :
    (readSettings next).CanEnd ending ↔ ∃ file, (next file).CanEnd ending := by
  constructor
  · intro reached
    cases reached with
    | readSettings file after => exact ⟨file, after⟩
  · rintro ⟨file, after⟩
    exact .readSettings file after

/-- A run ends as the plan can end. -/
theorem canEnd_run {σ : Type} (transmit : Transmit σ) (plan : Plan) (folder : Folder) (state : σ) :
    plan.CanEnd (plan.run transmit folder state).ending := by
  induction plan generalizing folder state with
  | done ending => exact .done ending
  | print line rest inductionHypothesis => exact .print line (inductionHypothesis folder state)
  | read path next inductionHypothesis =>
      exact .read path (folder.read path) (inductionHypothesis _ folder state)
  | readSettings next inductionHypothesis =>
      exact .readSettings .missing (inductionHypothesis _ folder state)
  | write path content next inductionHypothesis =>
      cases written : folder.write? path content with
      | some after =>
          simp only [run, written]
          exact .write path content true (inductionHypothesis true after state)
      | none =>
          simp only [run, written]
          exact .write path content false (inductionHypothesis false folder state)
  | pause milliseconds rest inductionHypothesis =>
      exact .pause milliseconds (inductionHypothesis folder state)
  | call client c next inductionHypothesis =>
      exact .call client c _ (inductionHypothesis _ folder _)

theorem run_ending_ne {σ : Type} {plan : Plan} (impossible : ¬ plan.CanEnd ending)
    (transmit : Transmit σ) (folder : Folder) (state : σ) :
    (plan.run transmit folder state).ending ≠ ending := by
  intro same
  apply impossible
  rw [← same]
  exact canEnd_run transmit plan folder state

end Workflow.CommandLine.Plan
