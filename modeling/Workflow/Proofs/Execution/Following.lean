import Workflow.Backend.Store
import Workflow.Execution.Tracker
import Workflow.Proofs.Backend.History

namespace Workflow

/-!
# What a tracker shows

A tracker is asked to load, to refresh, to request an action and to wait, in any order, and the
backend answers as it likes.  What is shown is always the execution of the last fetch that
succeeded: a request does not move it, and what fails leaves it as it is.

What refreshing and requesting can come to is said once, case by case, with the exchanges of each
case.  Waiting is refreshing again and again, and a wait that is cut off after some polls is a wait
with fewer polls.
-/

/-- The execution that an exchange fetched. -/
def Exchange.fetched? : Exchange → Option Execution
  | ⟨.getExecution _, .ok execution⟩ => some execution
  | _ => none

/-- The execution of the last fetch that succeeded. -/
def lastFetched (exchanges : List Exchange) : Option Execution :=
  (exchanges.filterMap Exchange.fetched?).getLast?

theorem lastFetched_append (earlier later : List Exchange) :
    lastFetched (earlier ++ later) = (lastFetched later).or (lastFetched earlier) := by
  unfold lastFetched
  rw [List.filterMap_append, List.getLast?_append]

namespace Tracker

variable {σ : Type} (server : Session.Server σ)

/-- What loading can come to. -/
inductive Loaded (id : String) : List Exchange → Except ClientError Tracker → Prop
  | failed (cause : ClientError) : Loaded id [⟨.getExecution id, .error cause⟩] (.error cause)
  | adopted (execution : Execution) :
      Loaded id [⟨.getExecution id, .ok execution⟩] (.ok ⟨execution⟩)

theorem loaded_load (id : String) (state : σ) :
    Loaded id ((load id).exchanges server state) ((load id).run server state).value := by
  unfold load
  rw [Session.exchanges_ask, Session.value_ask]
  generalize server (.getExecution id) state = answered
  rcases answered with ⟨cause | execution, reached⟩
  · exact .failed cause
  · exact .adopted execution

/-- What refreshing can come to. -/
inductive Refreshed (t : Tracker) :
    List Exchange → Tracker → Except ClientError ExecutionStatus → Prop
  | failed (cause : ClientError) :
      Refreshed t [⟨.getExecution t.shown.id, .error cause⟩] t (.error cause)
  | adopted (latest : Execution) :
      Refreshed t [⟨.getExecution t.shown.id, .ok latest⟩] ⟨latest⟩ (.ok latest.status)

theorem refreshed_refresh (t : Tracker) (state : σ) :
    t.Refreshed (t.refresh.exchanges server state) (t.refresh.run server state).value.1
      (t.refresh.run server state).value.2 := by
  unfold refresh
  rw [Session.exchanges_ask, Session.value_ask]
  generalize server (.getExecution t.shown.id) state = answered
  rcases answered with ⟨cause | latest, reached⟩
  · exact .failed cause
  · dsimp only
    rw [Session.exchanges_log, Session.value_log]
    exact .adopted latest

/-- What requesting an action can come to. -/
inductive Requested (t : Tracker) (action : ExecutionAction) :
    List Exchange → Tracker → Except TransitionError ExecutionStatus → Prop
  | refused (forbidden : action.isAllowedFrom t.shown.status = false) :
      Requested t action [] t (.error (.notAllowed action t.shown.status))
  | rejected (allowed : action.isAllowedFrom t.shown.status = true) (cause : ClientError) :
      Requested t action [⟨.transition action t.shown.id, .error cause⟩] t (.error (.backend cause))
  | taken (allowed : action.isAllowedFrom t.shown.status = true) {exchanges : List Exchange}
      {after : Tracker} {result : Except ClientError ExecutionStatus}
      (refreshed : t.Refreshed exchanges after result) :
      Requested t action (⟨.transition action t.shown.id, .ok ()⟩ :: exchanges) after
        (result.mapError .backend)

theorem requested_request (t : Tracker) (action : ExecutionAction) (state : σ) :
    t.Requested action ((t.request action).exchanges server state)
      ((t.request action).run server state).value.1
      ((t.request action).run server state).value.2 := by
  unfold request ExecutionAction.check?
  cases allowed : action.isAllowedFrom t.shown.status with
  | false => exact .refused allowed
  | true =>
      simp only [if_true]
      rw [Session.exchanges_log, Session.value_log, Session.exchanges_ask, Session.value_ask]
      generalize server (.transition action t.shown.id) state = answered
      rcases answered with ⟨cause | taken, reached⟩
      · exact .rejected allowed cause
      · obtain rfl : taken = () := rfl
        dsimp only
        rw [Session.exchanges_bind_pure, Session.value_bind_pure]
        exact .taken allowed (t.refreshed_refresh server reached)

/-- After an operation is shown what it fetched last, or else what was shown before it. -/
def Shows (before : Option Tracker) (exchanges : List Exchange) (after : Option Tracker) : Prop :=
  after.map shown = (lastFetched exchanges).or (before.map shown)

theorem Shows.refl (held : Option Tracker) : Shows held [] held := rfl

theorem Shows.trans {before between after : Option Tracker} {earlier later : List Exchange}
    (first : Shows before earlier between) (second : Shows between later after) :
    Shows before (earlier ++ later) after := by
  unfold Shows at *
  rw [second, first, lastFetched_append, Option.or_assoc]

variable {t after : Tracker} {exchanges : List Exchange}

theorem Refreshed.shows {result : Except ClientError ExecutionStatus}
    (refreshed : t.Refreshed exchanges after result) : Shows (some t) exchanges (some after) := by
  cases refreshed with
  | failed cause => rfl
  | adopted latest => rfl

/-- A transition moves nothing that is shown; only the fetch that follows it does. -/
theorem Requested.shows {action : ExecutionAction}
    {result : Except TransitionError ExecutionStatus}
    (requested : t.Requested action exchanges after result) :
    Shows (some t) exchanges (some after) := by
  cases requested with
  | refused forbidden => rfl
  | rejected allowed cause => rfl
  | taken allowed refreshed => exact refreshed.shows

theorem shows_waitUntilTerminal (polls : Nat) (t : Tracker) (state : σ) :
    Shows (some t) ((waitUntilTerminal polls t).exchanges server state)
      (some ((waitUntilTerminal polls t).run server state).value.1) := by
  induction polls generalizing t state with
  | zero => rfl
  | succ polls inductionHypothesis =>
      have refreshed := (t.refreshed_refresh server state).shows
      rw [waitUntilTerminal, Session.exchanges_bind, Session.value_bind]
      refine Shows.trans refreshed ?_
      rcases (t.refresh.run server state).value with ⟨between, cause | status⟩
      · exact .refl _
      · dsimp only
        split
        · exact .refl _
        · exact inductionHypothesis between _

/-! ## Operations -/

/-- What a tracker is asked for.  Loading starts to follow an execution; a wait is given up after
some number of polls. -/
inductive Operation where
  | load (id : String)
  | refresh
  | request (action : ExecutionAction)
  | wait (polls : Nat)

/-- What comes of an operation. -/
inductive Outcome where
  /-- There is no tracker yet. -/
  | absent
  | loaded (result : Except ClientError Unit)
  | refreshed (result : Except ClientError ExecutionStatus)
  | requested (result : Except TransitionError ExecutionStatus)
  | waited (result : Option (Except ClientError ExecutionStatus))

/-- Performs an operation.  Loading that fails keeps the tracker that there is. -/
def perform : Operation → Option Tracker → Session (Option Tracker × Outcome)
  | .load id, held => do
    match ← Tracker.load id with
    | .ok t => return (some t, .loaded (.ok ()))
    | .error cause => return (held, .loaded (.error cause))
  | .refresh, some t => do
    let (after, result) ← t.refresh
    return (some after, .refreshed result)
  | .request action, some t => do
    let (after, result) ← t.request action
    return (some after, .requested result)
  | .wait polls, some t => do
    let (after, result) ← waitUntilTerminal polls t
    return (some after, .waited result)
  | _, none => return (none, .absent)

/-- What an operation can come to. -/
inductive Performed :
    Operation → Option Tracker → List Exchange → Outcome → Option Tracker → Prop
  | absent (operation : Operation) : Performed operation none [] .absent none
  | loaded (id : String) (held : Option Tracker) (execution : Execution) :
      Performed (.load id) held [⟨.getExecution id, .ok execution⟩] (.loaded (.ok ()))
        (some ⟨execution⟩)
  | notLoaded (id : String) (held : Option Tracker) (cause : ClientError) :
      Performed (.load id) held [⟨.getExecution id, .error cause⟩] (.loaded (.error cause)) held
  | refreshed {t after : Tracker} {exchanges : List Exchange}
      {result : Except ClientError ExecutionStatus}
      (refreshed : t.Refreshed exchanges after result) :
      Performed .refresh (some t) exchanges (.refreshed result) (some after)
  | requested {t after : Tracker} {action : ExecutionAction} {exchanges : List Exchange}
      {result : Except TransitionError ExecutionStatus}
      (requested : t.Requested action exchanges after result) :
      Performed (.request action) (some t) exchanges (.requested result) (some after)
  | waited (polls : Nat) {t after : Tracker} {exchanges : List Exchange}
      (result : Option (Except ClientError ExecutionStatus))
      (shows : Shows (some t) exchanges (some after)) :
      Performed (.wait polls) (some t) exchanges (.waited result) (some after)

theorem performed_perform (operation : Operation) (held : Option Tracker) (state : σ) :
    Performed operation held ((perform operation held).exchanges server state)
      ((perform operation held).run server state).value.2
      ((perform operation held).run server state).value.1 := by
  cases operation with
  | load id =>
      have loaded := loaded_load server id state
      simp only [perform]
      rw [Session.exchanges_bind, Session.value_bind]
      generalize (load id).exchanges server state = exchanges at loaded ⊢
      generalize ((load id).run server state).value = result at loaded ⊢
      cases loaded with
      | failed cause => exact .notLoaded id held cause
      | adopted execution => exact .loaded id held execution
  | refresh =>
      cases held with
      | none => exact .absent .refresh
      | some t =>
          unfold perform
          rw [Session.exchanges_bind_pure, Session.value_bind_pure]
          exact .refreshed (t.refreshed_refresh server state)
  | request action =>
      cases held with
      | none => exact .absent (.request action)
      | some t =>
          unfold perform
          rw [Session.exchanges_bind_pure, Session.value_bind_pure]
          exact .requested (t.requested_request server action state)
  | wait polls =>
      cases held with
      | none => exact .absent (.wait polls)
      | some t =>
          unfold perform
          rw [Session.exchanges_bind_pure, Session.value_bind_pure]
          exact .waited polls _ (shows_waitUntilTerminal server polls t state)

variable {operation : Operation} {before after : Option Tracker} {outcome : Outcome}

theorem Performed.shows (performed : Performed operation before exchanges outcome after) :
    Shows before exchanges after := by
  cases performed with
  | absent => rfl
  | loaded => rfl
  | notLoaded => rfl
  | refreshed refreshed => exact refreshed.shows
  | requested requested => exact requested.shows
  | waited polls result shows => exact shows

theorem Performed.unchanged_of_refreshed_error {cause : ClientError}
    (performed : Performed operation before exchanges (.refreshed (.error cause)) after) :
    after = before := by
  cases performed with
  | refreshed refreshed =>
      cases refreshed with
      | failed => rfl

theorem Performed.unchanged_of_requested_error {cause : TransitionError}
    (performed : Performed operation before exchanges (.requested (.error cause)) after) :
    after = before := by
  cases performed with
  | requested requested =>
      generalize same : Except.error cause = result at requested
      cases requested with
      | refused forbidden => rfl
      | rejected allowed cause => rfl
      | taken allowed refreshed =>
          cases refreshed with
          | failed => rfl
          | adopted latest => cases same

theorem Performed.exchanges_of_request {t : Tracker} {action : ExecutionAction}
    (performed : Performed (.request action) (some t) exchanges outcome after) :
    (action.isAllowedFrom t.shown.status = false → exchanges = []) ∧
    (action.isAllowedFrom t.shown.status = true →
      (∃ cause, exchanges = [⟨.transition action t.shown.id, .error cause⟩]) ∨
      ∃ fetched, exchanges =
        [⟨.transition action t.shown.id, .ok ()⟩, ⟨.getExecution t.shown.id, fetched⟩]) := by
  cases performed with
  | requested requested =>
      cases requested with
      | refused forbidden =>
          exact ⟨fun _ => rfl, fun allowed => absurd allowed (by simp [forbidden])⟩
      | rejected allowed cause =>
          exact ⟨fun forbidden => absurd allowed (by simp [forbidden]),
            fun _ => Or.inl ⟨cause, rfl⟩⟩
      | taken allowed refreshed =>
          refine ⟨fun forbidden => absurd allowed (by simp [forbidden]), fun _ => Or.inr ?_⟩
          cases refreshed with
          | failed cause => exact ⟨.error cause, rfl⟩
          | adopted latest => exact ⟨.ok latest, rfl⟩

/-- A run shows what it fetched last. -/
theorem shows_performAll (operations : List Operation) (held : Option Tracker) (state : σ) :
    Shows held ((Session.performAll perform operations held).exchanges server state)
      ((Session.performAll perform operations held).run server state).value := by
  induction operations generalizing held state with
  | nil => exact .refl held
  | cons operation rest inductionHypothesis =>
      rw [Session.performAll, Session.exchanges_bind, Session.value_bind]
      exact (performed_perform server operation held state).shows.trans (inductionHypothesis _ _)

theorem performed_of_mem_history {operations : List Operation} {start : Option Tracker} {state : σ}
    {m : Moment Operation (Option Tracker) Outcome}
    (member : m ∈ Moment.history perform server operations start state) :
    Performed m.operation m.before m.exchanges m.result m.after := by
  rcases Moment.mem_history perform server member with ⟨operation, held, reached, rfl⟩
  exact performed_perform server operation held reached

/-- Whatever the backend answers and whatever the tracker is asked for: it shows the execution that
was fetched last; a refresh or a request that fails changes nothing that is shown; a request that
the shown status forbids makes no call; and one that it allows makes the call of the action, and
then fetches once, if and only if the call succeeded. -/
theorem shown_follows_fetches (state : σ) (start : Option Tracker) (operations : List Operation) :
    ((Session.performAll perform operations start).run server state).value.map shown =
      (lastFetched ((Session.performAll perform operations start).exchanges server state)).or
        (start.map shown) ∧
    ∀ m ∈ Moment.history perform server operations start state,
      m.after.map shown = (lastFetched m.exchanges).or (m.before.map shown) ∧
      (∀ cause, m.result = .refreshed (.error cause) → m.after = m.before) ∧
      (∀ cause, m.result = .requested (.error cause) → m.after = m.before) ∧
      ∀ t action, m.before = some t → m.operation = .request action →
        (action.isAllowedFrom t.shown.status = false → m.exchanges = []) ∧
        (action.isAllowedFrom t.shown.status = true →
          (∃ cause, m.exchanges = [⟨.transition action t.shown.id, .error cause⟩]) ∨
          ∃ fetched, m.exchanges =
            [⟨.transition action t.shown.id, .ok ()⟩, ⟨.getExecution t.shown.id, fetched⟩]) := by
  refine ⟨shows_performAll server operations start state, ?_⟩
  intro m member
  have performed := performed_of_mem_history server member
  refine ⟨performed.shows, ?_, ?_, ?_⟩
  · intro cause failed
    rw [failed] at performed
    exact performed.unchanged_of_refreshed_error
  · intro cause failed
    rw [failed] at performed
    exact performed.unchanged_of_requested_error
  · intro t action held asked
    rw [held, asked] at performed
    exact performed.exchanges_of_request

/-- A running execution is asked to pause, with the backend in memory. -/
theorem shown_follows_fetches_pause :
    let running : Execution :=
      ⟨"exec-1", "wf-1", .running, 0, Store.startTime, none, none, []⟩
    let store : Store := { Store.empty with executions := .ofList [("exec-1", running)] }
    let m := Moment.of perform Store.answer (.request .pause) (some ⟨running⟩) store
    m ∈ Moment.history perform Store.answer [.request .pause] (some ⟨running⟩) store ∧
    ExecutionAction.pause.isAllowedFrom running.status = true ∧
    ((∃ cause, m.exchanges = [⟨.transition .pause "exec-1", .error cause⟩]) ∨
      ∃ fetched, m.exchanges =
        [⟨.transition .pause "exec-1", .ok ()⟩, ⟨.getExecution "exec-1", fetched⟩]) := by
  intro running store m
  have moment : m ∈ Moment.history perform Store.answer [.request .pause] (some ⟨running⟩) store :=
    List.mem_singleton_self _
  have law := shown_follows_fetches Store.answer store (some ⟨running⟩) [.request .pause]
  exact ⟨moment, rfl, ((law.2 m moment).2.2.2 ⟨running⟩ .pause rfl rfl).2 rfl⟩

end Tracker

end Workflow
