import Workflow.Backend.Store
import Workflow.Execution.Tracker
import Workflow.Proofs.Backend.History

namespace Workflow

/-!
# Waiting for the end of an execution

A wait fetches the shown execution again and again, and shows what it is given, until it is given an
execution that has ended, or none at all.  The backend answers as it likes.  It may even answer with
an execution of another id, which is then the one that is fetched next.

The course of the polls is described first as if it had no end: what is shown after so many of them,
in which state the backend is then, and what the next answer is.  A wait follows this course as far
as the first answer that stops it, and a bound on the number of polls makes no difference once it is
large enough for that.  How long is waited between two polls plays no part.
-/

namespace Tracker

variable {σ : Type} (server : Session.Server σ)

/-! ## One poll -/

theorem run_refresh_error {t : Tracker} {state reached : σ} {cause : ClientError}
    (answered : server (.getExecution t.shown.id) state = (.error cause, reached)) :
    t.refresh.run server state = ⟨(t, .error cause), reached, [], [.getExecution t.shown.id]⟩ := by
  unfold refresh
  rw [Session.run_ask, answered]
  rfl

theorem run_refresh_ok {t : Tracker} {state reached : σ} {latest : Execution}
    (answered : server (.getExecution t.shown.id) state = (.ok latest, reached)) :
    t.refresh.run server state = ⟨(⟨latest⟩, .ok latest.status), reached,
      statusEvents t.shown.status latest, [.getExecution t.shown.id]⟩ := by
  unfold refresh
  rw [Session.run_ask, answered]
  dsimp only
  rw [Session.run_bind, Session.run_log]
  simp only [Session.run, pure, List.append_nil]

/-- The answer to a poll. -/
def pollAnswer (p : Tracker × σ) : Except ClientError Execution :=
  (server (.getExecution p.1.shown.id) p.2).1

theorem exchanges_refresh (t : Tracker) (state : σ) :
    t.refresh.exchanges server state =
      [⟨.getExecution t.shown.id, pollAnswer server (t, state)⟩] := by
  unfold refresh pollAnswer
  rw [Session.exchanges_ask]
  cases (server (.getExecution t.shown.id) state).1 with
  | error cause => rfl
  | ok latest =>
      dsimp only
      rw [Session.exchanges_log]
      rfl

/-! ## The course of the polls -/

/-- What is shown, and the state of the backend, after a poll. -/
def poll (p : Tracker × σ) : Tracker × σ :=
  (((pollAnswer server p).toOption.map Tracker.mk).getD p.1,
    (server (.getExecution p.1.shown.id) p.2).2)

/-- What is shown, and the state of the backend, after so many polls. -/
def polled (t : Tracker) (state : σ) : Nat → Tracker × σ
  | 0 => (t, state)
  | polls + 1 => poll server (polled t state polls)

/-- The answer to the next poll after so many. -/
def answerAfter (t : Tracker) (state : σ) (polls : Nat) : Except ClientError Execution :=
  pollAnswer server (polled server t state polls)

/-- What is exchanged in so many polls. -/
def pollExchanges (t : Tracker) (state : σ) (polls : Nat) : List Exchange :=
  (List.range polls).map fun k =>
    ⟨.getExecution (polled server t state k).1.shown.id, answerAfter server t state k⟩

theorem pollExchanges_succ (t : Tracker) (state : σ) (polls : Nat) :
    pollExchanges server t state (polls + 1) = pollExchanges server t state polls ++
      [⟨.getExecution (polled server t state polls).1.shown.id,
        answerAfter server t state polls⟩] := by
  unfold pollExchanges
  rw [List.range_succ, List.map_append]
  rfl

theorem length_pollExchanges (t : Tracker) (state : σ) (polls : Nat) :
    (pollExchanges server t state polls).length = polls := by
  rw [pollExchanges, List.length_map, List.length_range]

/-- The first poll is for the execution that is shown. -/
theorem head_pollExchanges (t : Tracker) (state : σ) (polls : Nat) :
    ((pollExchanges server t state (polls + 1)).map Exchange.call).head? =
      some (.getExecution t.shown.id) := by
  rw [pollExchanges, List.range_succ_eq_map]
  rfl

/-- After some polls is shown what was fetched last, or else what was shown at the start. -/
theorem shown_polled (t : Tracker) (state : σ) (polls : Nat) :
    (polled server t state polls).1.shown =
      (((List.range polls).filterMap
        fun k => (answerAfter server t state k).toOption).getLast?).getD t.shown := by
  induction polls with
  | zero => rfl
  | succ polls inductionHypothesis =>
      have next : (polled server t state (polls + 1)).1 =
          ((answerAfter server t state polls).toOption.map Tracker.mk).getD
            (polled server t state polls).1 := rfl
      rw [next, List.range_succ, List.filterMap_append, List.getLast?_append]
      cases answer : answerAfter server t state polls with
      | error cause => simp [answer, Except.toOption, inductionHypothesis]
      | ok execution => simp [answer, Except.toOption]

/-! ## Waits -/

/-- The answer ends a wait: it is a failure, or an execution that has ended. -/
inductive Stops : Except ClientError Execution → Prop
  | failure (cause : ClientError) : Stops (.error cause)
  | ended {execution : Execution} (ended : execution.status.Ended) : Stops (.ok execution)

/-- A poll with an answer that ends the wait is the last one. -/
theorem wait_stop {p : Tracker × σ} (stopped : Stops (pollAnswer server p)) (polls : Nat) :
    ((waitUntilTerminal (polls + 1) p.1).run server p.2).value =
      ((poll server p).1, some ((pollAnswer server p).map Execution.status)) ∧
    (waitUntilTerminal (polls + 1) p.1).exchanges server p.2 =
      [⟨.getExecution p.1.shown.id, pollAnswer server p⟩] := by
  rw [waitUntilTerminal, Session.value_bind, Session.exchanges_bind, exchanges_refresh]
  generalize answer : pollAnswer server p = given at stopped ⊢
  cases stopped with
  | failure cause =>
      rw [run_refresh_error server (Prod.ext answer rfl), poll, answer]
      exact ⟨rfl, rfl⟩
  | ended ended =>
      have terminal := ExecutionStatus.isTerminal_iff.mpr ended
      rw [run_refresh_ok server (Prod.ext answer rfl), poll, answer]
      simp only [terminal, if_true]
      exact ⟨rfl, rfl⟩

/-- Any other poll leaves a wait with the polls that are left. -/
theorem wait_goesOn {p : Tracker × σ} (goesOn : ¬ Stops (pollAnswer server p)) (polls : Nat) :
    ((waitUntilTerminal (polls + 1) p.1).run server p.2).value =
      ((waitUntilTerminal polls (poll server p).1).run server (poll server p).2).value ∧
    (waitUntilTerminal (polls + 1) p.1).exchanges server p.2 =
      ⟨.getExecution p.1.shown.id, pollAnswer server p⟩ ::
        (waitUntilTerminal polls (poll server p).1).exchanges server (poll server p).2 := by
  rw [waitUntilTerminal, Session.value_bind, Session.exchanges_bind, exchanges_refresh]
  cases answer : pollAnswer server p with
  | error cause =>
      rw [answer] at goesOn
      exact absurd (.failure cause) goesOn
  | ok latest =>
      rw [answer] at goesOn
      have ongoing : latest.status.isTerminal = false := Bool.eq_false_iff.mpr fun terminal =>
        goesOn (.ended (ExecutionStatus.isTerminal_iff.mp terminal))
      rw [run_refresh_ok server (Prod.ext answer rfl), poll, answer]
      simp only [ongoing, Bool.false_eq_true, if_false]
      exact ⟨rfl, rfl⟩

/-- Polls that do not end a wait take it along the course of the polls. -/
theorem wait_add {t : Tracker} {state : σ} {polls : Nat}
    (goesOn : ∀ k < polls, ¬ Stops (answerAfter server t state k)) (more : Nat) :
    let reached := polled server t state polls
    ((waitUntilTerminal (polls + more) t).run server state).value =
      ((waitUntilTerminal more reached.1).run server reached.2).value ∧
    (waitUntilTerminal (polls + more) t).exchanges server state =
      pollExchanges server t state polls ++
        (waitUntilTerminal more reached.1).exchanges server reached.2 := by
  induction polls generalizing more with
  | zero =>
      rw [Nat.zero_add]
      exact ⟨rfl, rfl⟩
  | succ polls inductionHypothesis =>
      have earlier := inductionHypothesis
        (fun k before => goesOn k (Nat.lt_succ_of_lt before)) (more + 1)
      have last := wait_goesOn server (goesOn polls (Nat.lt_succ_self polls)) more
      intro reached
      rw [Nat.succ_add_eq_add_succ, pollExchanges_succ, List.append_assoc]
      exact ⟨earlier.1.trans last.1, earlier.2.trans (congrArg _ last.2)⟩

/-- A wait that is not stopped makes as many polls as it may, and has no result. -/
theorem wait_unstopped {t : Tracker} {state : σ} {polls : Nat}
    (goesOn : ∀ k < polls, ¬ Stops (answerAfter server t state k)) :
    ((waitUntilTerminal polls t).run server state).value = ((polled server t state polls).1, none) ∧
    (waitUntilTerminal polls t).exchanges server state = pollExchanges server t state polls := by
  have course := wait_add server goesOn 0
  rw [Nat.add_zero] at course
  exact ⟨course.1, course.2.trans (List.append_nil _)⟩

/-- The first answer that stops a wait is the last one that it asks for. -/
theorem wait_stopped {t : Tracker} {state : σ} {k polls : Nat} (within : k < polls)
    (first : Stops (answerAfter server t state k))
    (goesOn : ∀ j < k, ¬ Stops (answerAfter server t state j)) :
    ((waitUntilTerminal polls t).run server state).value =
      ((polled server t state (k + 1)).1,
        some ((answerAfter server t state k).map Execution.status)) ∧
    (waitUntilTerminal polls t).exchanges server state =
      pollExchanges server t state (k + 1) := by
  have bound : k + (polls - k - 1 + 1) = polls := by omega
  have course := wait_add server goesOn (polls - k - 1 + 1)
  have last := wait_stop server first (polls - k - 1)
  rw [bound] at course
  rw [pollExchanges_succ]
  exact ⟨course.1.trans last.1, course.2.trans (congrArg _ last.2)⟩

/-- Answers stop a wait at some poll, for the first time, or not at all. -/
theorem exists_first_stop_or_none (t : Tracker) (state : σ) (polls : Nat) :
    (∃ k < polls, Stops (answerAfter server t state k) ∧
      ∀ j < k, ¬ Stops (answerAfter server t state j)) ∨
    ∀ k < polls, ¬ Stops (answerAfter server t state k) := by
  induction polls with
  | zero => exact .inr fun _ none => absurd none (Nat.not_lt_zero _)
  | succ polls inductionHypothesis =>
      rcases inductionHypothesis with ⟨k, within, first⟩ | goesOn
      · exact .inl ⟨k, Nat.lt_succ_of_lt within, first⟩
      · by_cases last : Stops (answerAfter server t state polls)
        · exact .inl ⟨polls, Nat.lt_succ_self polls, last, goesOn⟩
        · refine .inr fun k within => ?_
          rcases Nat.lt_succ_iff_lt_or_eq.mp within with earlier | rfl
          · exact goesOn k earlier
          · exact last

/-! ## What a wait comes to -/

theorem calls_waitUntilTerminal (t : Tracker) (state : σ) (polls : Nat) :
    ((waitUntilTerminal polls t).run server state).calls =
      ((waitUntilTerminal polls t).exchanges server state).map Exchange.call :=
  Session.calls_run server _ state

/-- A wait that may poll at all does so, and first for what is shown. -/
theorem first_call_of_wait (t : Tracker) (state : σ) {polls : Nat} (polling : 0 < polls) :
    ((waitUntilTerminal polls t).run server state).calls.head? =
      some (.getExecution t.shown.id) := by
  rw [calls_waitUntilTerminal]
  rcases exists_first_stop_or_none server t state polls with ⟨k, within, first, goesOn⟩ | goesOn
  · rw [(wait_stopped server within first goesOn).2]
    exact head_pollExchanges server t state k
  · rw [(wait_unstopped server goesOn).2]
    obtain ⟨fewer, rfl⟩ := Nat.exists_eq_succ_of_ne_zero (Nat.ne_of_gt polling)
    exact head_pollExchanges server t state fewer

/-- The execution that ends a wait is shown. -/
theorem wait_ended {t : Tracker} {state : σ} {k polls : Nat} (within : k < polls)
    {execution : Execution} (answer : answerAfter server t state k = .ok execution)
    (ended : execution.status.Ended)
    (goesOn : ∀ j < k, ¬ Stops (answerAfter server t state j)) :
    ((waitUntilTerminal polls t).run server state).value =
      (⟨execution⟩, some (.ok execution.status)) := by
  have first : Stops (answerAfter server t state k) := answer ▸ .ended ended
  have last : pollAnswer server (polled server t state k) = .ok execution := answer
  rw [(wait_stopped server within first goesOn).1, polled, poll, answer, last]
  rfl

/-- A failure that ends a wait leaves what is shown. -/
theorem wait_failed {t : Tracker} {state : σ} {k polls : Nat} (within : k < polls)
    {cause : ClientError} (answer : answerAfter server t state k = .error cause)
    (goesOn : ∀ j < k, ¬ Stops (answerAfter server t state j)) :
    ((waitUntilTerminal polls t).run server state).value =
      ((polled server t state k).1, some (.error cause)) := by
  have first : Stops (answerAfter server t state k) := answer ▸ .failure cause
  have last : pollAnswer server (polled server t state k) = .error cause := answer
  rw [(wait_stopped server within first goesOn).1, polled, poll, answer, last]
  rfl

/-- A wait gives no status but one in which an execution has ended. -/
theorem ended_of_wait {t : Tracker} {state : σ} {polls : Nat} {status : ExecutionStatus}
    (result : ((waitUntilTerminal polls t).run server state).value.2 = some (.ok status)) :
    status.Ended := by
  rcases exists_first_stop_or_none server t state polls with ⟨k, within, first, goesOn⟩ | goesOn
  · cases answer : answerAfter server t state k with
    | error cause =>
        rw [wait_failed server within answer goesOn] at result
        cases result
    | ok execution =>
        rw [answer] at first
        cases first with
        | ended ended =>
            rw [wait_ended server within answer ended goesOn] at result
            cases result
            exact ended
  · rw [(wait_unstopped server goesOn).1] at result
    cases result

/-- A wait polls at least once, whatever is shown.  Let `k` polls come before the first answer that
is a failure or an execution that has ended.  Then the wait makes `k + 1` fetches and no other call,
and these answers are the replies; it gives the status of the execution that has ended, and shows
that execution, or gives the failure, and shows what was fetched last, or what was shown at the
start if nothing was.  Until there is such an answer it goes on, and the status that it gives is
never one that is not an end. -/
theorem wait_ends_with_first_stop (t : Tracker) (state : σ) (polls : Nat) :
    let answers := answerAfter server t state
    let run := (waitUntilTerminal polls t).run server state
    (0 < polls → run.calls.head? = some (.getExecution t.shown.id)) ∧
    (∀ k < polls, Stops (answers k) → (∀ j < k, ¬ Stops (answers j)) →
      (waitUntilTerminal polls t).exchanges server state = pollExchanges server t state (k + 1) ∧
      (run.calls.length = k + 1 ∧ ∀ c ∈ run.calls, ∃ id, c = .getExecution id) ∧
      (∀ execution, answers k = .ok execution →
        run.value = (⟨execution⟩, some (.ok execution.status))) ∧
      ∀ cause, answers k = .error cause →
        run.value.2 = some (.error cause) ∧
        run.value.1.shown =
          (((List.range k).filterMap fun j => (answers j).toOption).getLast?).getD t.shown) ∧
    ((∀ k < polls, ¬ Stops (answers k)) → run.value.2 = none ∧ run.calls.length = polls) ∧
    ∀ status, run.value.2 = some (.ok status) → status.Ended := by
  intro answers run
  have calls := calls_waitUntilTerminal server t state polls
  refine ⟨first_call_of_wait server t state, ?_, ?_, fun _ => ended_of_wait server⟩
  · intro k within first goesOn
    have exchanged := (wait_stopped server within first goesOn).2
    refine ⟨exchanged, ⟨?_, ?_⟩, ?_, ?_⟩
    · rw [calls, exchanged, List.length_map, length_pollExchanges]
    · intro c member
      rw [calls, exchanged, pollExchanges, List.map_map] at member
      rcases List.mem_map.mp member with ⟨j, _, rfl⟩
      exact ⟨_, rfl⟩
    · intro execution answer
      rw [answer] at first
      cases first with
      | ended ended => exact wait_ended server within answer ended goesOn
    · intro cause answer
      rw [wait_failed server within answer goesOn]
      exact ⟨rfl, shown_polled server t state k⟩
  · intro goesOn
    have unstopped := wait_unstopped server goesOn
    rw [unstopped.1, calls, unstopped.2, List.length_map, length_pollExchanges]
    exact ⟨rfl, rfl⟩

/-- A tracker that shows an execution that has completed is told first that it runs, and then that
it has completed; it does not come to the next status.  Where the execution is gone, it shows what
it showed. -/
theorem wait_ends_with_first_stop_scripted :
    let e : Execution := ⟨"exec-1", "wf-1", .completed, 0, Store.startTime, none, none, []⟩
    let store : Store := { Store.empty with
      executions := .ofList [("exec-1", e)], scripted := [.running, .completed, .failed] }
    let run := (waitUntilTerminal 5 ⟨e⟩).run Store.answer store
    let lost := (waitUntilTerminal 5 ⟨e⟩).run Store.answer Store.empty
    (¬ Stops (answerAfter Store.answer ⟨e⟩ store 0) ∧
      answerAfter Store.answer ⟨e⟩ store 1 = .ok e ∧
      run.calls.length = 2 ∧ run.value = (⟨e⟩, some (.ok .completed))) ∧
    answerAfter Store.answer ⟨e⟩ Store.empty 0 = .error Store.notFound ∧
      lost.calls.length = 1 ∧ lost.value.2 = some (.error Store.notFound) ∧
      lost.value.1.shown = e := by
  intro e store run lost
  have running : ¬ Stops (answerAfter Store.answer ⟨e⟩ store 0) := by
    intro stopped
    have answer : answerAfter Store.answer ⟨e⟩ store 0 = .ok { e with status := .running } := rfl
    rw [answer] at stopped
    rcases stopped with _ | ⟨⟨⟩⟩
  have completed : answerAfter Store.answer ⟨e⟩ store 1 = .ok e := by
    subst e store
    rfl
  have missing : answerAfter Store.answer ⟨e⟩ Store.empty 0 = .error Store.notFound := rfl
  have ended := (wait_ends_with_first_stop Store.answer ⟨e⟩ store 5).2.1 1 (by decide)
    (completed ▸ .ended .completed) (fun j before => by rwa [Nat.lt_one_iff.mp before])
  have failed := (wait_ends_with_first_stop Store.answer ⟨e⟩ Store.empty 5).2.1 0 (by decide)
    (missing ▸ .failure Store.notFound) (fun j before => absurd before (Nat.not_lt_zero j))
  exact ⟨⟨running, completed, ended.2.1.1, ended.2.2.1 e completed⟩, missing, failed.2.1.1,
    failed.2.2.2 _ missing⟩

end Tracker

end Workflow
