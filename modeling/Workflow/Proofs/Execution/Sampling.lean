import Mathlib.Data.List.Chain
import Workflow.Proofs.Execution.Following
import Workflow.Proofs.Execution.Polling

namespace Workflow

/-!
# Changes of a status that a tracker does not expect

A tracker sees the status of an execution only when it fetches it.  The backend is free in between:
it may take any number of steps, and other clients may ask it for some.  What a tracker compares are
two statuses of one history, and it expects that one step leads from the first to the second.

So a warning is not always about a backend that breaks its rules.  Here the backend keeps them, and
the warnings that are left are found: each of them is about an execution that went through `RUNNING`
while it was not looked at.
-/

namespace ExecutionStatus

variable {before after first second : ExecutionStatus} {passed : List ExecutionStatus}

/-- Each status is followed by one that it may be taken to. -/
def Steps (statuses : List ExecutionStatus) : Prop :=
  statuses.IsChain fun before after => before.canTransitionTo after = true

theorem Steps.part {part whole : List ExecutionStatus} (steps : Steps whole)
    (within : part <:+: whole) : Steps part :=
  List.IsChain.infix steps within

/-- An execution can come from the first status to the second, but it is `RUNNING` in between. -/
def skipsRunning : ExecutionStatus → ExecutionStatus → Bool
  | .pending, .paused | .pending, .completed | .pending, .failed => true
  | .paused, .completed | .paused, .failed | .paused, .cancelled => true
  | _, _ => false

theorem skipsRunning_eq_true_iff :
    before.skipsRunning after = true ↔
      (after ≠ before ∧ before.canTransitionTo after = false) ∧
      before.canTransitionTo .running = true ∧ after ≠ .pending := by
  cases before <;> cases after <;> decide

/-- No step leads back to `PENDING`. -/
theorem ne_pending_of_canTransitionTo (step : before.canTransitionTo after = true) :
    after ≠ .pending := by
  rintro rfl
  cases before <;> cases step

theorem ne_pending_of_steps (steps : Steps (before :: passed)) (member : after ∈ passed) :
    after ≠ .pending := by
  induction passed generalizing before with
  | nil => cases member
  | cons first rest inductionHypothesis =>
      rcases List.isChain_cons_cons.mp steps with ⟨step, later⟩
      rcases List.mem_cons.mp member with rfl | elsewhere
      · exact ne_pending_of_canTransitionTo step
      · exact inductionHypothesis later elsewhere

/-- Of two steps, one leads from `RUNNING`. -/
theorem running_of_two_steps (step : before.canTransitionTo first = true)
    (next : first.canTransitionTo second = true) : before = .running ∨ first = .running := by
  cases first with
  | running => exact .inr rfl
  | paused => exact .inl (by cases before <;> first | rfl | cases step)
  | pending => exact absurd rfl (ne_pending_of_canTransitionTo step)
  | completed | failed | cancelled => cases second <;> cases next

theorem canTransitionTo_of_running (other : after ≠ .running) (late : after ≠ .pending) :
    ExecutionStatus.running.canTransitionTo after = true := by
  cases after <;> first | rfl | contradiction

/-- Where steps lead from one status to another that is not one step away, the first of them leads
to `RUNNING`. -/
theorem first_step_of_unexpected (steps : Steps (before :: passed))
    (last : (before :: passed).getLast? = some after) (other : after ≠ before)
    (forbidden : before.canTransitionTo after = false) :
    before.skipsRunning after = true ∧
      ∃ rest, passed = .running :: rest ∧ rest.getLast? = some after := by
  rcases passed with _ | ⟨first, _ | ⟨second, rest⟩⟩
  · cases last
    exact absurd rfl other
  · obtain rfl : first = after := Option.some.inj last
    rw [(List.isChain_cons_cons.mp steps).1] at forbidden
    cases forbidden
  · rcases List.isChain_cons_cons.mp steps with ⟨step, later⟩
    have next := (List.isChain_cons_cons.mp later).1
    have fromSecond : (second :: rest).getLast? = some after := last
    have late : after ≠ .pending :=
      ne_pending_of_steps steps (List.mem_cons_of_mem first (List.mem_of_getLast? fromSecond))
    rcases running_of_two_steps step next with rfl | rfl
    · rw [canTransitionTo_of_running other late] at forbidden
      cases forbidden
    · exact ⟨skipsRunning_eq_true_iff.mpr ⟨⟨other, forbidden⟩, step, late⟩,
        second :: rest, rfl, fromSecond⟩

/-- The same in the midst of a history that has the first of the two statuses before what passed. -/
theorem first_passed_of_unexpected {earlier : List ExecutionStatus}
    (steps : Steps (earlier ++ passed)) (last : (earlier ++ passed).getLast? = some after)
    (lastEarlier : earlier.getLast? = some before) (other : after ≠ before)
    (forbidden : before.canTransitionTo after = false) :
    ∃ rest, passed = .running :: rest ∧ rest.getLast? = some after := by
  rcases List.getLast?_eq_some_iff.mp lastEarlier with ⟨start, rfl⟩
  rw [List.append_assoc, List.singleton_append] at steps last
  rw [List.getLast?_append_of_ne_nil _ (List.cons_ne_nil _ _)] at last
  exact (first_step_of_unexpected steps.right_of_append last other forbidden).2

end ExecutionStatus

open ExecutionStatus (Steps)

namespace Tracker

variable {σ : Type}

/-- The statuses that each execution has been in, the latest one last. -/
abbrev Histories := String → List ExecutionStatus

/-- A backend that keeps a history of each execution.  With each call any number of statuses may
come to any histories.  What it gives when it is asked for an execution is that execution, in its
latest status. -/
structure Recorded (server : Session.Server σ) (histories : σ → Histories) : Prop where
  grows : ∀ c state id, histories state id <+: histories (server c state).2 id
  fetched : ∀ id state latest, (server (.getExecution id) state).1 = .ok latest →
    latest.id = id ∧
      (histories (server (.getExecution id) state).2 id).getLast? = some latest.status

/-- The status that is shown, if any, is one that the execution has been in. -/
def Seen (histories : Histories) (held : Option Tracker) : Prop :=
  ∀ t ∈ held, t.shown.status ∈ histories t.shown.id

/-- A warning is about two statuses in the order in which the execution came to them, and no step
leads from the first to the second. -/
def Told (histories : Histories) (event : Event) : Prop :=
  ∀ id before after, event = .unexpectedStatus id before after →
    (after ≠ before ∧ before.canTransitionTo after = false) ∧
    ∃ passed, before :: passed <:+: histories id ∧ (before :: passed).getLast? = some after

section Growth

variable {earlier later : Histories}

theorem Seen.mono {held : Option Tracker} (grows : ∀ id, earlier id <+: later id)
    (seen : Seen earlier held) : Seen later held :=
  fun t member => (grows t.shown.id).subset (seen t member)

theorem Told.mono {event : Event} (grows : ∀ id, earlier id <+: later id)
    (told : Told earlier event) : Told later event := by
  intro id before after same
  rcases told id before after same with ⟨unexpected, passed, within, last⟩
  exact ⟨unexpected, passed, within.trans (grows id).isInfix, last⟩

/-- What comes to a history comes behind all that was in it. -/
theorem exists_passed {earlier later : List ExecutionStatus} {before after : ExecutionStatus}
    (grows : earlier <+: later) (member : before ∈ earlier) (last : later.getLast? = some after) :
    ∃ passed, before :: passed <:+: later ∧ (before :: passed).getLast? = some after := by
  rcases grows with ⟨added, rfl⟩
  rcases List.append_of_mem member with ⟨start, rest, rfl⟩
  rw [List.append_assoc, List.cons_append] at last ⊢
  refine ⟨rest ++ added, (List.suffix_append _ _).isInfix, ?_⟩
  rwa [List.getLast?_append_of_ne_nil _ (List.cons_ne_nil _ _)] at last

end Growth

/-! ## What happens in a run -/

section Runs

/-- In a run of the session from the state the histories grow, what is shown in the end has been
seen, and so has what the warnings are about. -/
structure Watched {α : Type} (server : Session.Server σ) (histories : σ → Histories)
    (shows : α → Option Tracker) (s : Session α) (state : σ) : Prop where
  grows : ∀ id, histories state id <+: histories (s.run server state).state id
  seen : Seen (histories (s.run server state).state) (shows (s.run server state).value)
  told : ∀ event ∈ (s.run server state).events, Told (histories (s.run server state).state) event

variable {server : Session.Server σ} {histories : σ → Histories} {state : σ} {α β : Type}

theorem Watched.pure {shows : α → Option Tracker} {value : α}
    (seen : Seen (histories state) (shows value)) :
    Watched server histories shows (Pure.pure value) state :=
  ⟨fun _ => List.prefix_rfl, seen, fun _ none => by cases none⟩

/-- One session goes on with another, whatever the first gives and however it leaves the backend. -/
theorem Watched.bind {shows : α → Option Tracker} {shows' : β → Option Tracker} {s : Session α}
    {f : α → Session β} (first : Watched server histories shows s state)
    (second : ∀ value reached, Seen (histories reached) (shows value) →
      Watched server histories shows' (f value) reached) :
    Watched server histories shows' (s >>= f) state := by
  have rest := second _ _ first.seen
  have run := Session.run_bind server s f state
  refine ⟨?_, ?_, ?_⟩ <;> rw [run]
  · exact fun id => (first.grows id).trans (rest.grows id)
  · exact rest.seen
  · intro event member
    rcases List.mem_append.mp member with inFirst | inRest
    · exact (first.told event inFirst).mono rest.grows
    · exact rest.told event inRest

/-- Giving another value at the end of a session changes nothing that is shown. -/
theorem Watched.bind_pure {shows : α → Option Tracker} {shows' : β → Option Tracker} {s : Session α}
    {f : α → β} (watched : Watched server histories shows s state)
    (same : ∀ value, shows' (f value) = shows value) :
    Watched server histories shows' (s >>= fun value => Pure.pure (f value)) state :=
  watched.bind fun value _ seen => .pure (same value ▸ seen)

theorem Watched.log {events : List Event} {held : Option Tracker}
    (seen : Seen (histories state) held) (told : ∀ event ∈ events, Told (histories state) event) :
    Watched server histories (fun _ => held) (Session.log events) state := by
  refine ⟨?_, ?_, ?_⟩ <;> rw [Session.run_log]
  · exact fun _ => List.prefix_rfl
  · exact seen
  · exact told

section Operations

variable (recorded : Recorded server histories)

include recorded

/-- A call that leads to no warning by itself. -/
theorem watched_ask {shows : β → Option Tracker} {c : Call} {f : c.Reply → Session β}
    (rest : Watched server histories shows (f (server c state).1) (server c state).2) :
    Watched server histories shows (Session.ask c >>= f) state :=
  ⟨fun id => (recorded.grows c state id).trans (rest.grows id), rest.seen, rest.told⟩

theorem seen_fetched {id : String} {latest : Execution}
    (answered : (server (.getExecution id) state).1 = .ok latest) :
    Seen (histories (server (.getExecution id) state).2) (some ⟨latest⟩) := by
  rintro t ⟨⟩
  rcases recorded.fetched id state latest answered with ⟨same, last⟩
  rw [← same] at last ⊢
  exact List.mem_of_getLast? last

/-- The warning of a refresh is about the status that was shown and the one that is shown now. -/
theorem told_statusEvents {t : Tracker} (seen : Seen (histories state) (some t))
    {latest : Execution} (answered : (server (.getExecution t.shown.id) state).1 = .ok latest) :
    ∀ event ∈ statusEvents t.shown.status latest,
      Told (histories (server (.getExecution t.shown.id) state).2) event := by
  intro event member
  unfold statusEvents at member
  split at member
  case isFalse => cases member
  case isTrue unexpected =>
    obtain rfl := List.mem_singleton.mp member
    rintro id before after ⟨⟩
    rcases recorded.fetched _ state latest answered with ⟨same, last⟩
    rw [same]
    exact ⟨unexpected, exists_passed (recorded.grows _ state _) (seen t rfl) last⟩

theorem watched_load (id : String) {held : Option Tracker} (seen : Seen (histories state) held) :
    Watched server histories (fun result => result.toOption.or held) (load id) state := by
  refine watched_ask recorded ?_
  cases answered : (server (.getExecution id) state).1 with
  | error cause => exact .pure (seen.mono (recorded.grows _ state))
  | ok execution => exact .pure (seen_fetched recorded answered)

theorem watched_refresh {t : Tracker} (seen : Seen (histories state) (some t)) :
    Watched server histories (fun after => some after.1) t.refresh state := by
  refine watched_ask recorded ?_
  cases answered : (server (.getExecution t.shown.id) state).1 with
  | error cause => exact .pure (seen.mono (recorded.grows _ state))
  | ok latest =>
      exact (Watched.log (seen_fetched recorded answered)
        (told_statusEvents recorded seen answered)).bind_pure fun _ => rfl

theorem watched_request {t : Tracker} (action : ExecutionAction)
    (seen : Seen (histories state) (some t)) :
    Watched server histories (fun after => some after.1) (t.request action) state := by
  unfold request
  cases action.check? t.shown.status with
  | none => exact .pure seen
  | some expected =>
      refine (Watched.log seen ?_).bind fun _ reached seenThere => watched_ask recorded ?_
      · intro event member
        obtain rfl := List.mem_singleton.mp member
        rintro id before after ⟨⟩
      · have seenAfter := seenThere.mono (recorded.grows (.transition action t.shown.id) reached)
        rcases (server (.transition action t.shown.id) reached).1 with cause | _
        · exact .pure seenAfter
        · exact (watched_refresh recorded seenAfter).bind_pure fun _ => rfl

theorem watched_waitUntilTerminal {t : Tracker} (polls : Nat)
    (seen : Seen (histories state) (some t)) :
    Watched server histories (fun after => some after.1) (waitUntilTerminal polls t) state := by
  induction polls generalizing t state with
  | zero => exact .pure seen
  | succ polls inductionHypothesis =>
      refine (watched_refresh recorded seen).bind ?_
      rintro ⟨after, cause | status⟩ reached seenThere
      · exact .pure seenThere
      · dsimp only
        split
        · exact .pure seenThere
        · exact inductionHypothesis seenThere

theorem watched_perform (operation : Operation) {held : Option Tracker}
    (seen : Seen (histories state) held) :
    Watched server histories Prod.fst (perform operation held) state := by
  cases operation with
  | load id =>
      refine (watched_load recorded id seen).bind ?_
      rintro (cause | t) reached seenThere <;> exact .pure seenThere
  | refresh =>
      cases held with
      | none => exact .pure seen
      | some t => exact (watched_refresh recorded seen).bind_pure fun _ => rfl
  | request action =>
      cases held with
      | none => exact .pure seen
      | some t => exact (watched_request recorded action seen).bind_pure fun _ => rfl
  | wait polls =>
      cases held with
      | none => exact .pure seen
      | some t => exact (watched_waitUntilTerminal recorded polls seen).bind_pure fun _ => rfl

theorem watched_performAll (operations : List Operation) {held : Option Tracker}
    (seen : Seen (histories state) held) :
    Watched server histories id (Session.performAll perform operations held) state := by
  induction operations generalizing held state with
  | nil => exact .pure seen
  | cons operation rest inductionHypothesis =>
      exact (watched_perform recorded operation seen).bind
        fun _ _ seenThere => inductionHypothesis seenThere

end Operations

end Runs

/-! ## A backend that runs by a plan -/

/-- An execution, the statuses it has been in, and those that it comes to with each of the next
calls. -/
structure Scheduled where
  execution : Execution
  past : List ExecutionStatus
  plan : List (List ExecutionStatus)

namespace Scheduled

/-- The execution takes its next steps. -/
def advance (s : Scheduled) : Scheduled :=
  { s with past := s.past ++ s.plan.headD [], plan := s.plan.tail }

/-- The execution in its latest status, if it has this id and has started. -/
def find (s : Scheduled) (id : String) : Except ClientError Execution :=
  if id = s.execution.id then
    s.past.getLast?.elim (.error Store.notFound) fun status => .ok { s.execution with status }
  else .error Store.notFound

/-- Answers a call, once the execution has taken its next steps; only fetches are granted. -/
def answer : Session.Server Scheduled := fun c s =>
  match c with
  | .getExecution id => (s.advance.find id, s.advance)
  | _ => (.error Store.notFound, s.advance)

/-- The history of the execution; there are no other ones. -/
def histories (s : Scheduled) : Histories := fun id =>
  if id = s.execution.id then s.past else []

theorem state_answer (c : Call) (s : Scheduled) : (answer c s).2 = s.advance := by
  cases c <;> rfl

theorem eq_of_find_eq_ok {s : Scheduled} {id : String} {latest : Execution}
    (found : s.find id = .ok latest) :
    latest.id = id ∧ (s.histories id).getLast? = some latest.status := by
  unfold find at found
  split at found
  case isFalse => cases found
  case isTrue same =>
    rw [histories, if_pos same]
    cases last : s.past.getLast? with
    | none =>
        rw [last] at found
        cases found
    | some status =>
        rw [last] at found
        cases found
        exact ⟨same.symm, rfl⟩

theorem recorded : Recorded answer histories where
  grows c s id := by
    rw [state_answer]
    unfold histories
    split
    case isTrue same => exact (if_pos same).symm ▸ List.prefix_append _ _
    case isFalse => exact List.nil_prefix
  fetched _ _ _ answered := eq_of_find_eq_ok answered

/-- An execution that is pending when it is fetched for the first time, and that has started and
completed before the next time. -/
def short : Scheduled :=
  ⟨⟨"exec-1", "wf-1", .pending, 0, Store.startTime, none, none, []⟩, [.pending],
    [[], [.running, .completed]]⟩

theorem steps_short : Steps [.pending, .running, .completed] := by
  simp [Steps, ExecutionStatus.canTransitionTo]

theorem steps_histories {s : Scheduled} (steps : Steps s.past) (id : String) :
    Steps (s.histories id) := by
  unfold histories
  split
  · exact steps
  · exact .nil

end Scheduled

/-- There is a warning about a backend that takes executions along steps only: this one takes two
steps between two fetches. -/
theorem unexpected_status_of_two_steps :
    let run := (Session.performAll perform [.load "exec-1", .refresh] none).run Scheduled.answer
      Scheduled.short
    Recorded Scheduled.answer Scheduled.histories ∧
    (∀ id, Steps (run.state.histories id)) ∧
    run.state.histories "exec-1" = [.pending, .running, .completed] ∧
    run.events = [.unexpectedStatus "exec-1" .pending .completed] := by
  intro run
  exact ⟨Scheduled.recorded, Scheduled.steps_histories Scheduled.steps_short, rfl, rfl⟩

/-! ## The warnings of a backend that keeps the rules -/

section Warnings

variable {σ : Type} {server : Session.Server σ} {histories : σ → Histories} {state : σ}
  (recorded : Recorded server histories)

include recorded

/-- A refresh warns if and only if the status that is shown and the one that was fetched skip
`RUNNING`. -/
theorem statusEvents_of_steps {t : Tracker} (seen : Seen (histories state) (some t))
    {latest : Execution} (answered : (server (.getExecution t.shown.id) state).1 = .ok latest)
    (steps : Steps (histories (server (.getExecution t.shown.id) state).2 t.shown.id)) :
    statusEvents t.shown.status latest =
      if t.shown.status.skipsRunning latest.status then
        [.unexpectedStatus t.shown.id t.shown.status latest.status]
      else [] := by
  rcases recorded.fetched _ state latest answered with ⟨same, last⟩
  rcases exists_passed (recorded.grows _ state _) (seen t rfl) last with
    ⟨passed, within, lastPassed⟩
  have unexpected_iff : (latest.status ≠ t.shown.status ∧
      t.shown.status.canTransitionTo latest.status = false) ↔
      t.shown.status.skipsRunning latest.status = true :=
    ⟨fun unexpected => (ExecutionStatus.first_step_of_unexpected (steps.part within) lastPassed
        unexpected.1 unexpected.2).1,
      fun skips => (ExecutionStatus.skipsRunning_eq_true_iff.mp skips).1⟩
  unfold statusEvents
  rw [same]
  exact if_congr unexpected_iff rfl rfl

/-- Let the backend take executions along steps only, as many as it likes between any two calls, and
let a tracker be asked for anything.  It always shows a status that the execution has been in.  A
warning is about an execution that went to `RUNNING` from the status that was shown, and then on to
the one that was fetched, where no single step leads from the one to the other.  A refresh warns of
just these pairs: whatever has passed since the status was shown, there is no warning unless it
begins with `RUNNING` and goes on. -/
theorem unexpected_status_skips_running {held : Option Tracker} (seen : Seen (histories state) held)
    (operations : List Operation) :
    let run := (Session.performAll perform operations held).run server state
    Seen (histories run.state) run.value ∧
    (∀ id before after, Steps (histories run.state id) →
      .unexpectedStatus id before after ∈ run.events →
      before.skipsRunning after = true ∧
      ∃ rest, before :: .running :: rest <:+: histories run.state id ∧ rest.getLast? = some after) ∧
    ∀ t now latest, Seen (histories now) (some t) →
      (server (.getExecution t.shown.id) now).1 = .ok latest →
      let history := histories (server (.getExecution t.shown.id) now).2 t.shown.id
      let events := (t.refresh.run server now).events
      Steps history →
      (events = if t.shown.status.skipsRunning latest.status then
          [.unexpectedStatus t.shown.id t.shown.status latest.status]
        else []) ∧
      ∀ earlier passed, history = earlier ++ passed → earlier.getLast? = some t.shown.status →
        events = [] ∨ ∃ rest, passed = .running :: rest ∧ rest.getLast? = some latest.status := by
  intro run
  have watched := watched_performAll recorded operations seen
  refine ⟨watched.seen, ?_, ?_⟩
  · intro id before after steps member
    rcases watched.told _ member id before after rfl with ⟨⟨other, forbidden⟩, passed, within, last⟩
    rcases ExecutionStatus.first_step_of_unexpected (steps.part within) last other forbidden with
      ⟨skips, rest, rfl, lastRest⟩
    exact ⟨skips, rest, within, lastRest⟩
  · intro t now latest seenNow answered history events steps
    have refreshed : events = statusEvents t.shown.status latest :=
      congrArg Session.Run.events (run_refresh_ok server (Prod.ext answered rfl))
    refine ⟨refreshed.trans (statusEvents_of_steps recorded seenNow answered steps), ?_⟩
    intro earlier passed parted lastEarlier
    rw [refreshed]
    unfold statusEvents
    split
    case isFalse => exact .inl rfl
    case isTrue unexpected =>
      have last : history.getLast? = some latest.status := (recorded.fetched _ _ _ answered).2
      rw [parted] at steps last
      exact .inr (ExecutionStatus.first_passed_of_unexpected steps last lastEarlier
        unexpected.1 unexpected.2)

end Warnings

/-- A tracker follows an execution that has started and completed when it is fetched again. -/
theorem unexpected_status_skips_running_short :
    let e := Scheduled.short.execution
    let loaded := (Session.performAll perform [.load "exec-1"] none).run Scheduled.answer
      Scheduled.short
    let run := (Session.performAll perform [.load "exec-1", .refresh] none).run Scheduled.answer
      Scheduled.short
    let event := Event.unexpectedStatus "exec-1" .pending .completed
    (Recorded Scheduled.answer Scheduled.histories ∧ Seen Scheduled.short.histories none) ∧
    (Steps (run.state.histories "exec-1") ∧ event ∈ run.events ∧
      ∃ rest, .pending :: .running :: rest <:+: run.state.histories "exec-1" ∧
        rest.getLast? = some .completed) ∧
    loaded.value = some ⟨e⟩ ∧ Seen loaded.state.histories loaded.value ∧
    (Scheduled.answer (.getExecution "exec-1") loaded.state).1 =
      .ok { e with status := .completed } ∧
    ((⟨e⟩ : Tracker).refresh.run Scheduled.answer loaded.state).events = [event] := by
  intro e loaded run event
  have seen : Seen Scheduled.short.histories none := fun t none => by cases none
  have warned : event ∈ run.events := List.mem_singleton_self event
  have followed :=
    unexpected_status_skips_running Scheduled.recorded seen [.load "exec-1", .refresh]
  have refreshed := unexpected_status_skips_running Scheduled.recorded seen [.load "exec-1"]
  exact ⟨⟨Scheduled.recorded, seen⟩,
    ⟨Scheduled.steps_short, warned,
      (followed.2.1 "exec-1" .pending .completed Scheduled.steps_short warned).2⟩,
    rfl, refreshed.1, rfl,
    (refreshed.2.2 ⟨e⟩ loaded.state { e with status := .completed } refreshed.1 rfl
      Scheduled.steps_short).1⟩

end Tracker

end Workflow
