import Workflow.Backend.Store
import Workflow.Proofs.Backend.Interleaving
import Workflow.Proofs.Dictionary
import Workflow.Proofs.Execution.Following

namespace Workflow

/-!
# Trackers that share a backend

Any number of clients follow executions of one backend in memory.  Each client is in one operation
at a time, and a turn answers one call of one client, so that between two calls of a client the
others may have moved the execution it looks at.  Nobody asks the clients to agree: a client checks
a request against what it shows, which may be long out of date.

What a single answer of the backend can come to is said first, then what a single turn can come to.
The laws of a whole run follow from these two by induction over its turns.
-/

/-- What is stored under an id stays as it is, or its status changes to one that may follow. -/
inductive Execution.Moves : Option Execution → Option Execution → Prop
  | stays (stored : Option Execution) : Moves stored stored
  | moves {e : Execution} {status : ExecutionStatus}
      (allowed : e.status.canTransitionTo status = true) :
      Moves (some e) (some { e with status := status })

theorem ExecutionStatus.Ended.canTransitionTo {status next : ExecutionStatus}
    (ended : status.Ended) : status.canTransitionTo next = false := by
  cases ended with
  | completed | failed | cancelled => rfl

theorem ExecutionAction.canTransitionTo_target {action : ExecutionAction}
    {status : ExecutionStatus} (allowed : action.isAllowedFrom status = true) :
    status.canTransitionTo action.target = true := by
  cases action with
  | pause | resume => cases status <;> first | rfl | cases allowed
  | cancel => cases status <;> first | rfl | cases allowed

theorem Execution.Moves.eq_of_ended {e : Execution} {after : Option Execution}
    (moves : Moves (some e) after) (ended : e.status.Ended) : after = some e := by
  cases moves with
  | stays => rfl
  | moves allowed =>
      rw [ended.canTransitionTo] at allowed
      cases allowed

namespace Store

/-- Each execution is stored under its own id. -/
def Filed (s : Store) : Prop := ∀ id e, s.executions.get? id = some e → e.id = id

/-- What a fetch or an action can come to when no status is scripted. -/
inductive Answers (s : Store) : Exchange → Store → Prop
  | fetched {id : String} {e : Execution} {after : Store}
      (found : s.executions.get? id = some e)
      (same : ∀ other, after.executions.get? other = s.executions.get? other) :
      Answers s ⟨.getExecution id, .ok e⟩ after
  | missed {id : String} {cause : ClientError} {after : Store}
      (same : after.executions = s.executions) :
      Answers s ⟨.getExecution id, .error cause⟩ after
  | moved {action : ExecutionAction} {id : String} {e : Execution} {after : Store}
      (found : s.executions.get? id = some e) (allowed : action.isAllowedFrom e.status = true)
      (put : after.executions = s.executions.insert id { e with status := action.target }) :
      Answers s ⟨.transition action id, .ok ()⟩ after
  | refused {action : ExecutionAction} {id : String} {cause : ClientError} {after : Store}
      (same : after.executions = s.executions) :
      Answers s ⟨.transition action id, .error cause⟩ after

variable {s : Store}

theorem answers_getExecution (unscripted : s.scripted = []) (id : String) :
    s.Answers ⟨.getExecution id, (answer (.getExecution id) s).1⟩
      (answer (.getExecution id) s).2 := by
  cases stored : s.executions.get? id with
  | none =>
      have answered : answer (.getExecution id) s =
          (.error notFound, { s.note "get-execution" id with scripted := s.scripted.drop 1 }) := by
        simp only [answer, look, note, stored]
        rfl
      rw [answered]
      exact .missed rfl
  | some e =>
      have answered : answer (.getExecution id) s = (.ok e, { s.note "get-execution" id with
          scripted := s.scripted.drop 1, executions := s.executions.insert id e }) := by
        simp only [answer, look, note, stored, unscripted]
        rfl
      rw [answered]
      refine .fetched stored fun other => ?_
      rw [Dictionary.get?_insert]
      split
      · next same => rw [same, stored]
      · rfl

theorem answers_transition (s : Store) (action : ExecutionAction) (id : String) :
    s.Answers ⟨.transition action id, (answer (.transition action id) s).1⟩
      (answer (.transition action id) s).2 := by
  simp only [answer, move]
  split
  · exact .refused rfl
  · next e found =>
    split
    · next allowed => exact .moved found allowed rfl
    · exact .refused rfl

theorem scripted_getExecution (unscripted : s.scripted = []) (id : String) :
    (answer (.getExecution id) s).2.scripted = [] := by
  simp only [answer, look, note, unscripted]
  split <;> rfl

theorem scripted_transition (s : Store) (action : ExecutionAction) (id : String) :
    (answer (.transition action id) s).2.scripted = s.scripted := by
  simp only [answer, move, note]
  split
  · rfl
  · split <;> rfl

variable {x : Exchange} {after : Store}

theorem Answers.moves (answers : s.Answers x after) (id : String) :
    Execution.Moves (s.executions.get? id) (after.executions.get? id) := by
  cases answers with
  | fetched found same =>
      rw [same]
      exact .stays _
  | missed same | refused same =>
      rw [same]
      exact .stays _
  | @moved action other e _ found allowed put =>
      rw [put, Dictionary.get?_insert]
      split
      · next same =>
        rw [same, found]
        exact .moves (ExecutionAction.canTransitionTo_target allowed)
      · exact .stays _

theorem Answers.stored_of_fetched {e : Execution} (answers : s.Answers x after)
    (fetched : x.fetched? = some e) : ∃ id, s.executions.get? id = some e := by
  cases answers with
  | fetched found same =>
      obtain rfl := Option.some.inj fetched
      exact ⟨_, found⟩
  | missed | moved | refused => cases fetched

theorem Filed.of_moves (filed : s.Filed)
    (moves : ∀ id, Execution.Moves (s.executions.get? id) (after.executions.get? id)) :
    after.Filed := by
  intro id e found
  have moved := moves id
  rw [found] at moved
  generalize stored : s.executions.get? id = before at moved
  cases moved with
  | stays => exact filed id e stored
  | @moves earlier _ allowed =>
      have same : earlier.id = id := filed id earlier stored
      exact same

end Store

namespace Tracker

/-! ## What is left of an operation -/

/-- What is shown after an exchange: the execution that it fetched, if it did. -/
def adopt (held : Option Tracker) (x : Exchange) : Option Tracker :=
  (x.fetched?.map Tracker.mk).or held

/-- A session of a client that shows what it fetches at once: it fetches executions and asks for
actions, makes no other call, and has at its end a value that fits what is shown then. -/
inductive Follows {α : Type} (fits : Option Tracker → α → Prop) : Option Tracker → Session α → Prop
  | done {held : Option Tracker} {value : α} (fit : fits held value) :
      Follows fits held (.done value)
  | emit {held : Option Tracker} {event : Event} {rest : Session α}
      (later : Follows fits held rest) : Follows fits held (.emit event rest)
  | fetch {held : Option Tracker} {id : String}
      {next : (Call.getExecution id).Reply → Session α}
      (later : ∀ reply, Follows fits (adopt held ⟨.getExecution id, reply⟩) (next reply)) :
      Follows fits held (.call (.getExecution id) next)
  | act {held : Option Tracker} {action : ExecutionAction} {id : String}
      {next : (Call.transition action id).Reply → Session α}
      (later : ∀ reply, Follows fits held (next reply)) :
      Follows fits held (.call (.transition action id) next)

theorem Follows.bind {α β : Type} {fits : Option Tracker → α → Prop}
    {fits' : Option Tracker → β → Prop} {held : Option Tracker} {s : Session α}
    {f : α → Session β} (first : Follows fits held s)
    (second : ∀ held value, fits held value → Follows fits' held (f value)) :
    Follows fits' held (s >>= f) := by
  induction first with
  | done fit => exact second _ _ fit
  | emit later inductionHypothesis => exact .emit inductionHypothesis
  | fetch later inductionHypothesis => exact .fetch inductionHypothesis
  | act later inductionHypothesis => exact .act inductionHypothesis

theorem follows_log (events : List Event) (held : Option Tracker) :
    Follows (fun after _ => after = held) held (Session.log events) := by
  unfold Session.log
  induction events with
  | nil => exact .done rfl
  | cons event rest inductionHypothesis => exact .emit inductionHypothesis

theorem follows_load (id : String) (held : Option Tracker) :
    Follows (fun after result => after = result.toOption.or held) held (load id) := by
  refine .fetch fun reply => ?_
  cases reply with
  | error cause => exact .done rfl
  | ok execution => exact .done rfl

theorem follows_refresh (t : Tracker) :
    Follows (fun after result => after = some result.1) (some t) t.refresh := by
  refine .fetch fun reply => ?_
  cases reply with
  | error cause => exact .done rfl
  | ok latest =>
      refine (follows_log (statusEvents t.shown.status latest) (some ⟨latest⟩)).bind ?_
      intro after _ same
      exact .done same

theorem follows_request (t : Tracker) (action : ExecutionAction) :
    Follows (fun after result => after = some result.1) (some t) (t.request action) := by
  unfold request
  cases action.check? t.shown.status with
  | none => exact .done rfl
  | some expected =>
      refine (follows_log _ (some t)).bind ?_
      rintro after _ rfl
      refine .act fun reply => ?_
      cases reply with
      | error cause => exact .done rfl
      | ok taken =>
          refine t.follows_refresh.bind ?_
          intro after result same
          exact .done same

theorem follows_waitUntilTerminal (polls : Nat) (t : Tracker) :
    Follows (fun after result => after = some result.1) (some t) (waitUntilTerminal polls t) := by
  induction polls generalizing t with
  | zero => exact .done rfl
  | succ polls inductionHypothesis =>
      refine t.follows_refresh.bind ?_
      rintro after ⟨between, cause | status⟩ rfl
      · exact .done rfl
      · dsimp only
        split
        · exact .done rfl
        · exact inductionHypothesis between

/-- An operation gives back the tracker that is shown when it ends. -/
theorem follows_perform (operation : Operation) (held : Option Tracker) :
    Follows (fun after result => after = result.1) held (perform operation held) := by
  cases operation with
  | load id =>
      refine (follows_load id held).bind ?_
      rintro after (cause | t) rfl
      · exact .done rfl
      · exact .done rfl
  | refresh =>
      cases held with
      | none => exact .done rfl
      | some t => exact t.follows_refresh.bind fun after result same => .done same
  | request action =>
      cases held with
      | none => exact .done rfl
      | some t => exact (t.follows_request action).bind fun after result same => .done same
  | wait polls =>
      cases held with
      | none => exact .done rfl
      | some t => exact (follows_waitUntilTerminal polls t).bind fun after result same => .done same

theorem shows_adopt (held : Option Tracker) (x : Exchange) : Shows held [x] (adopt held x) := by
  unfold Shows adopt lastFetched
  cases fetched : x.fetched? with
  | none => simp [fetched]
  | some e => simp [fetched]

/-! ## Clients and their turns -/

/-- A client shows what it fetches at once, in the midst of its operation, and nobody but the
clients makes calls. -/
def usage : Session.Usage Operation Empty (Option Tracker) Outcome := ⟨perform, adopt, Empty.elim⟩

/-- A client: the tracker that it shows, and what is left of the operation that it is in. -/
abbrev Client := Session.Client (Option Tracker) Outcome

namespace Client

/-- What is left of an operation gives back, at its end, the tracker that is shown then. -/
def Sound (c : Client) : Prop :=
  ∀ rest, c.rest = some rest → Follows (fun after result => after = result.1) c.held rest

/-- What going on can come to: nothing is exchanged and shown anew, or one call is answered. -/
inductive Advanced (c : Client) (s : Store) : Option Exchange → Client → Store → Prop
  | silent {after : Client} (same : after.held = c.held) (sound : after.Sound) :
      Advanced c s none after s
  | answered {x : Exchange} {after : Client} {store : Store} (answers : s.Answers x store)
      (unscripted : store.scripted = []) (adopted : after.held = adopt c.held x)
      (sound : after.Sound) : Advanced c s (some x) after store

theorem advanced_advance {c : Client} {s : Store} (sound : Client.Sound c)
    (unscripted : s.scripted = []) :
    Advanced c s (c.exchange? Store.answer s) (c.advance Store.answer adopt s).1
      (c.advance Store.answer adopt s).2 := by
  rcases c with ⟨held, _ | rest⟩
  · exact .silent rfl sound
  · have follows := sound rest rfl
    cases follows with
    | @done _ value fit =>
        rcases value with ⟨after, outcome⟩
        exact .silent fit.symm fun rest left => by cases left
    | emit later =>
        refine .silent rfl ?_
        rintro rest ⟨⟩
        exact later
    | @fetch _ id next later =>
        refine .answered (Store.answers_getExecution unscripted id)
          (Store.scripted_getExecution unscripted id) rfl ?_
        rintro rest ⟨⟩
        exact later _
    | @act _ action id next later =>
        refine .answered (s.answers_transition action id)
          ((s.scripted_transition action id).trans unscripted) rfl ?_
        rintro rest ⟨⟩
        exact later _

end Client

/-- The backend and the clients that share it. -/
abbrev Shared (ι : Type) := Session.Shared ι Store (Option Tracker) Outcome

/-- What happens next: a client begins an operation, giving up the one it is in, or goes on. -/
abbrev Turn (ι : Type) := Session.Turn ι Operation Empty

namespace Shared

variable {ι : Type} [DecidableEq ι]

/-- No status is scripted, and each client is sound. -/
structure Sound (s : Shared ι) : Prop where
  unscripted : s.state.scripted = []
  clients : ∀ who, Client.Sound (s.client who)

/-- What a turn comes to: a client that exchanges something shows what it fetched, if it did, and
the others show what they showed; the store changes at most as the answer says. -/
structure Turned (s : Shared ι) (next : Turn ι) (after : Shared ι) : Prop where
  sound : Sound after
  shows : ∀ who,
    Shows (s.client who).held (s.exchange? Store.answer who next).toList (after.client who).held
  answers : ∀ who x, s.exchange? Store.answer who next = some x → s.state.Answers x after.state
  moves : ∀ id, Execution.Moves (s.state.executions.get? id) (after.state.executions.get? id)

theorem sound_opened {ι : Type} {store : Store} (unscripted : store.scripted = [])
    (held : ι → Option Tracker) : Sound (Session.Shared.opened store held : Shared ι) :=
  ⟨unscripted, fun _ _ left => by cases left⟩

variable {s : Shared ι}

theorem Sound.of_update (sound : s.Sound) {store : Store} (unscripted : store.scripted = [])
    {who : ι} {client : Client} (clientSound : Client.Sound client) :
    Sound (⟨store, Function.update s.client who client⟩ : Shared ι) := by
  refine ⟨unscripted, fun other => ?_⟩
  change Client.Sound (Function.update s.client who client other)
  by_cases same : other = who
  · rw [same, Function.update_self]
    exact clientSound
  · rw [Function.update_of_ne same]
    exact sound.clients other

/-- When one client is replaced, all clients show what they should if that one does. -/
theorem shows_update {who : ι} {client : Client} {exchange? : ι → Option Exchange}
    (shows : Shows (s.client who).held (exchange? who).toList client.held)
    (quiet : ∀ other, other ≠ who → exchange? other = none) (other : ι) :
    Shows (s.client other).held (exchange? other).toList
      (Function.update s.client who client other).held := by
  by_cases same : other = who
  · rw [same, Function.update_self]
    exact shows
  · rw [Function.update_of_ne same, quiet other same]
    exact .refl _

theorem Sound.turned (sound : s.Sound) (next : Turn ι) :
    Turned s next (s.turn Store.answer usage next) := by
  cases next with
  | begin who operation =>
      refine ⟨sound.of_update sound.unscripted ?_, ?_, ?_, fun id => .stays _⟩
      · rintro rest ⟨⟩
        exact follows_perform operation _
      · exact shows_update (.refl _) fun _ _ => rfl
      · intro other x exchanged
        cases exchanged
  | advance who =>
      have quiet : ∀ other, other ≠ who →
          s.exchange? Store.answer other (.advance who : Turn ι) = none :=
        fun other different => if_neg different.symm
      have exchanged : s.exchange? Store.answer who (.advance who : Turn ι) =
          (s.client who).exchange? Store.answer s.state := if_pos rfl
      have advanced := Client.advanced_advance (sound.clients who) sound.unscripted
      rw [← exchanged] at advanced
      simp only [Session.Shared.turn]
      change Client.Advanced _ _ _ ((s.client who).advance Store.answer usage.adopt s.state).1
        ((s.client who).advance Store.answer usage.adopt s.state).2 at advanced
      generalize (s.client who).advance Store.answer usage.adopt s.state = reached at advanced ⊢
      rcases reached with ⟨client, store⟩
      generalize result : s.exchange? Store.answer who (.advance who : Turn ι) = exchange
        at advanced
      cases advanced with
      | silent same clientSound =>
          refine ⟨sound.of_update sound.unscripted clientSound, shows_update ?_ quiet, ?_,
            fun id => .stays _⟩
          · rw [result]
            exact congrArg (Option.map shown) same
          · intro other x answered
            by_cases different : other = who
            · rw [different, result] at answered
              cases answered
            · rw [quiet other different] at answered
              cases answered
      | answered answers unscripted adopted clientSound =>
          refine ⟨sound.of_update unscripted clientSound, shows_update ?_ quiet, ?_, answers.moves⟩
          · rw [result, adopted]
            exact shows_adopt _ _
          · intro other x answered
            by_cases different : other = who
            · rw [different, result] at answered
              obtain rfl := Option.some.inj answered
              exact answers
            · rw [quiet other different] at answered
              cases answered
  | call foreign => exact foreign.elim

theorem Sound.after (sound : s.Sound) (turns : List (Turn ι)) :
    Sound (s.after Store.answer usage turns) := by
  induction turns generalizing s with
  | nil => exact sound
  | cons next rest inductionHypothesis => exact inductionHypothesis (sound.turned next).sound

/-- A client shows what it fetched last. -/
theorem Sound.shows_heard (sound : s.Sound) (who : ι) (turns : List (Turn ι)) :
    Shows (s.client who).held (s.heard Store.answer usage who turns)
      ((s.after Store.answer usage turns).client who).held := by
  induction turns generalizing s with
  | nil => exact .refl _
  | cons next rest inductionHypothesis =>
      have turned := sound.turned next
      exact (turned.shows who).trans (inductionHypothesis turned.sound)

/-- What a client fetched was stored before the turn in which it fetched it. -/
theorem Sound.stored_of_heard (sound : s.Sound) {who : ι} {turns : List (Turn ι)} {x : Exchange}
    {e : Execution} (heard : x ∈ s.heard Store.answer usage who turns)
    (fetched : x.fetched? = some e) :
    ∃ earlier next later, turns = earlier ++ next :: later ∧
      ∃ id, (s.after Store.answer usage earlier).state.executions.get? id = some e := by
  induction turns generalizing s with
  | nil => cases heard
  | cons next rest inductionHypothesis =>
      have turned := sound.turned next
      rcases List.mem_append.mp heard with now | afterwards
      · have answers := turned.answers who x (Option.mem_toList.mp now)
        exact ⟨[], next, rest, rfl, answers.stored_of_fetched fetched⟩
      · rcases inductionHypothesis turned.sound afterwards with ⟨earlier, other, later, rfl, stored⟩
        exact ⟨next :: earlier, other, later, rfl, stored⟩

theorem Sound.filed_after (sound : s.Sound) (filed : s.state.Filed) (turns : List (Turn ι)) :
    (s.after Store.answer usage turns).state.Filed := by
  induction turns generalizing s with
  | nil => exact filed
  | cons next rest inductionHypothesis =>
      have turned := sound.turned next
      exact inductionHypothesis turned.sound (filed.of_moves turned.moves)

theorem Sound.ended_after (sound : s.Sound) {id : String} {e : Execution}
    (stored : s.state.executions.get? id = some e) (ended : e.status.Ended)
    (turns : List (Turn ι)) :
    (s.after Store.answer usage turns).state.executions.get? id = some e := by
  induction turns generalizing s with
  | nil => exact stored
  | cons next rest inductionHypothesis =>
      have turned := sound.turned next
      have moves := turned.moves id
      rw [stored] at moves
      exact inductionHypothesis turned.sound (moves.eq_of_ended ended)

/-- What a client shows was stored at an earlier moment, unless the client has fetched nothing and
shows what it was given. -/
theorem Sound.stored_of_held (sound : s.Sound) {who : ι} {turns : List (Turn ι)} {t : Tracker}
    (held : ((s.after Store.answer usage turns).client who).held = some t) :
    (lastFetched (s.heard Store.answer usage who turns) = none ∧ (s.client who).held = some t) ∨
      ∃ earlier next later, turns = earlier ++ next :: later ∧
        ∃ id, (s.after Store.answer usage earlier).state.executions.get? id = some t.shown := by
  have shows := sound.shows_heard who turns
  unfold Shows at shows
  rw [held] at shows
  cases last : lastFetched (s.heard Store.answer usage who turns) with
  | none =>
      rw [last, Option.none_or, Option.map_some] at shows
      rcases given : (s.client who).held with _ | first
      · rw [given] at shows
        cases shows
      · rw [given] at shows
        have same : t.shown = first.shown := Option.some.inj shows
        refine .inl ⟨rfl, ?_⟩
        rcases t with ⟨execution⟩
        rw [show execution = first.shown from same]
  | some e =>
      rw [last, Option.some_or, Option.map_some] at shows
      obtain rfl : t.shown = e := Option.some.inj shows
      rcases List.mem_filterMap.mp (List.mem_of_getLast? last) with ⟨x, heard, fetched⟩
      exact .inr (sound.stored_of_heard heard fetched)

/-- Any number of clients share a backend with no scripted status, and take turns in any order.  At
every moment: whatever turn is next, what is stored under an id stays or changes its status to one
that may follow; what has ended stays as it is for good; a client that is refused an action leaves
every execution as it is; and what a client shows, once it has fetched anything, was stored before
some earlier turn, under its own id if the executions were stored under their own ids. -/
theorem shared_store_is_safe {store : Store} (unscripted : store.scripted = [])
    (held : ι → Option Tracker) (turns : List (Turn ι)) :
    let start : Shared ι := Session.Shared.opened store held
    let now := start.after Store.answer usage turns
    (∀ next id, Execution.Moves (now.state.executions.get? id)
      ((now.turn Store.answer usage next).state.executions.get? id)) ∧
    (∀ later id e, now.state.executions.get? id = some e → e.status.Ended →
      (now.after Store.answer usage later).state.executions.get? id = some e) ∧
    (∀ next who action id cause,
      now.exchange? Store.answer who next = some ⟨.transition action id, .error cause⟩ →
        (now.turn Store.answer usage next).state.executions = now.state.executions) ∧
    ∀ who t, (now.client who).held = some t →
      (lastFetched (start.heard Store.answer usage who turns) = none ∧ held who = some t) ∨
      ∃ earlier next later, turns = earlier ++ next :: later ∧
        ∃ id, (start.after Store.answer usage earlier).state.executions.get? id = some t.shown ∧
          (store.Filed → t.shown.id = id) := by
  intro start now
  have opened : start.Sound := sound_opened unscripted held
  have sound : Sound now := opened.after turns
  refine ⟨?_, ?_, ?_, ?_⟩
  · intro next
    exact (sound.turned next).moves
  · intro later id e stored ended
    exact sound.ended_after stored ended later
  · intro next who action id cause refused
    cases (sound.turned next).answers who _ refused with
    | refused same => exact same
  · intro who t shown
    rcases opened.stored_of_held shown with given | ⟨earlier, next, later, split, id, stored⟩
    · exact .inl given
    · refine .inr ⟨earlier, next, later, split, id, stored, fun filed => ?_⟩
      exact opened.filed_after filed earlier id t.shown stored

/-- An execution that is running. -/
def raceExecution : Execution :=
  ⟨"exec-1", "wf-1", .running, 0, Store.startTime, none, none, []⟩

/-- A backend with that execution. -/
def raceStore : Store := { Store.empty with executions := .ofList [("exec-1", raceExecution)] }

/-- Two clients that follow nothing yet share a backend. -/
def race : Shared Bool := Session.Shared.opened raceStore fun _ => none

/-- Both clients load the execution, one cancels it, and the other begins to ask for a pause. -/
def raceTurns : List (Turn Bool) :=
  [.begin true (.load "exec-1"), .advance true, .advance true,
    .begin false (.load "exec-1"), .advance false, .advance false,
    .begin false (.request .cancel), .advance false, .advance false,
    .begin true (.request .pause), .advance true]

/-- The late request is refused; what the late client shows was stored before the other one
cancelled. -/
theorem shared_store_is_safe_race :
    raceStore.scripted = [] ∧
    ((race.after Store.answer usage raceTurns).state.executions.get? "exec-1").map
      Execution.status = some .cancelled ∧
    (∃ cause, (race.after Store.answer usage raceTurns).exchange? Store.answer true
      (.advance true : Turn Bool) = some ⟨.transition .pause "exec-1", .error cause⟩) ∧
    ((race.after Store.answer usage raceTurns).turn Store.answer usage
      (.advance true)).state.executions =
        (race.after Store.answer usage raceTurns).state.executions ∧
    ∃ t earlier next later, ((race.after Store.answer usage raceTurns).client true).held = some t ∧
      t.shown.status = .running ∧ raceTurns = earlier ++ next :: later ∧
      ∃ id, (race.after Store.answer usage earlier).state.executions.get? id = some t.shown := by
  have status : ((race.after Store.answer usage raceTurns).state.executions.get? "exec-1").map
      Execution.status = some .cancelled := by decide +kernel
  have refused : (race.after Store.answer usage raceTurns).exchange? Store.answer true
      (.advance true : Turn Bool) =
      some ⟨.transition .pause "exec-1", .error (Store.conflict .pause .cancelled)⟩ := by
    rcases Option.map_eq_some_iff.mp status with ⟨e, found, cancelled⟩
    change some (Exchange.mk (.transition .pause "exec-1")
      (Store.answer _ (race.after Store.answer usage raceTurns).state).1) = _
    simp only [Store.answer, Store.move, Store.note, found, cancelled]
    rfl
  have unscripted : raceStore.scripted = [] := rfl
  have law := shared_store_is_safe unscripted (fun _ : Bool => none) raceTurns
  have unchanged := law.2.2.1 (.advance true) true .pause "exec-1" _ refused
  refine ⟨unscripted, status, ⟨_, refused⟩, unchanged, ?_⟩
  have shown : ((race.after Store.answer usage raceTurns).client true).held =
      some ⟨raceExecution⟩ := rfl
  rcases law.2.2.2 true _ shown with ⟨_, given⟩ | ⟨earlier, next, later, split, id, stored, _⟩
  · cases given
  · exact ⟨_, earlier, next, later, shown, rfl, split, id, stored⟩

end Shared

end Tracker

end Workflow
