import Workflow.Proofs.Backend.Session

namespace Workflow

/-!
# Exchanges, and the history of a client

The calls of a run say what a client sent; its exchanges also say what it was answered.  A client
that holds something and is asked for one operation after the other has a history, with one moment
for each operation: what it held, what was exchanged, what came of it, and what it held then.

The server is arbitrary throughout, so a history is what can happen with any backend.  A law of
single operations holds at every moment of every history, and the exchanges of a whole run are
those of its moments in their order.
-/

/-- A call and the reply to it. -/
structure Exchange where
  call : Call
  reply : call.Reply

namespace Session

variable {α β σ : Type} (server : Server σ)

/-- The calls of a run with their replies. -/
def exchanges : Session α → σ → List Exchange
  | .done _, _ => []
  | .emit _ rest, state => rest.exchanges state
  | .call c next, state =>
    let answered := server c state
    ⟨c, answered.1⟩ :: (next answered.1).exchanges answered.2

theorem calls_run (s : Session α) (state : σ) :
    (s.run server state).calls = (s.exchanges server state).map Exchange.call := by
  induction s generalizing state with
  | done value => rfl
  | emit event rest inductionHypothesis => exact inductionHypothesis state
  | call c next inductionHypothesis =>
      rw [exchanges, List.map_cons, ← inductionHypothesis]
      rfl

theorem exchanges_bind (s : Session α) (f : α → Session β) (state : σ) :
    (s >>= f).exchanges server state = s.exchanges server state ++
      (f (s.run server state).value).exchanges server (s.run server state).state := by
  change (s.bind f).exchanges server state = _
  induction s generalizing state with
  | done value => rfl
  | emit event rest inductionHypothesis => exact inductionHypothesis state
  | call c next inductionHypothesis =>
      rw [bind, exchanges, exchanges, inductionHypothesis, List.cons_append]
      rfl

@[simp] theorem exchanges_pure (a : α) (state : σ) :
    (pure a : Session α).exchanges server state = [] := rfl

@[simp] theorem value_pure (a : α) (state : σ) :
    ((pure a : Session α).run server state).value = a := rfl

theorem exchanges_ask (c : Call) (f : c.Reply → Session β) (state : σ) :
    (ask c >>= f).exchanges server state =
      ⟨c, (server c state).1⟩ :: (f (server c state).1).exchanges server (server c state).2 := rfl

theorem value_ask (c : Call) (f : c.Reply → Session β) (state : σ) :
    ((ask c >>= f).run server state).value =
      ((f (server c state).1).run server (server c state).2).value := rfl

theorem value_bind (s : Session α) (f : α → Session β) (state : σ) :
    ((s >>= f).run server state).value =
      ((f (s.run server state).value).run server (s.run server state).state).value := by
  rw [run_bind]

/-- Giving another value at the end of a session exchanges nothing more. -/
theorem exchanges_bind_pure (s : Session α) (f : α → β) (state : σ) :
    (s >>= fun a => pure (f a)).exchanges server state = s.exchanges server state := by
  rw [exchanges_bind, exchanges_pure, List.append_nil]

theorem value_bind_pure (s : Session α) (f : α → β) (state : σ) :
    ((s >>= fun a => pure (f a)).run server state).value = f (s.run server state).value := by
  rw [value_bind, value_pure]

theorem exchanges_log (events : List Event) (f : Unit → Session β) (state : σ) :
    (log events >>= f).exchanges server state = (f ()).exchanges server state := by
  rw [exchanges_bind, run_log]
  have silent : (log events).exchanges server state = [] := by
    unfold log
    induction events with
    | nil => rfl
    | cons event rest inductionHypothesis => exact inductionHypothesis
  rw [silent, List.nil_append]

theorem value_log (events : List Event) (f : Unit → Session β) (state : σ) :
    ((log events >>= f).run server state).value = ((f ()).run server state).value := by
  rw [value_bind, run_log]

end Session

/-- One operation in the history of a client. -/
structure Moment (ω τ ρ : Type) where
  operation : ω
  before : τ
  exchanges : List Exchange
  result : ρ
  after : τ

namespace Moment

variable {ω τ ρ σ : Type}

/-- The calls that were made. -/
def calls (m : Moment ω τ ρ) : List Call := m.exchanges.map Exchange.call

variable (perform : ω → τ → Session (τ × ρ)) (server : Session.Server σ)

/-- What performing one operation comes to. -/
def of (operation : ω) (held : τ) (state : σ) : Moment ω τ ρ :=
  let run := (perform operation held).run server state
  ⟨operation, held, (perform operation held).exchanges server state, run.value.2, run.value.1⟩

/-- The moments of the operations of a list, each performed on what the one before it left. -/
def history : List ω → τ → σ → List (Moment ω τ ρ)
  | [], _, _ => []
  | operation :: rest, held, state =>
    let run := (perform operation held).run server state
    of perform server operation held state :: history rest run.value.1 run.state

theorem mem_history {operations : List ω} {held : τ} {state : σ} {m : Moment ω τ ρ}
    (member : m ∈ history perform server operations held state) :
    ∃ operation between reached, m = of perform server operation between reached := by
  induction operations generalizing held state with
  | nil => cases member
  | cons operation rest inductionHypothesis =>
      rcases List.mem_cons.mp member with first | later
      · exact ⟨operation, held, state, first⟩
      · exact inductionHypothesis later

end Moment

namespace Session

variable {ω τ ρ σ : Type} (perform : ω → τ → Session (τ × ρ)) (server : Server σ)

/-- Performs the operations of a list, each on what the one before it left. -/
def performAll : List ω → τ → Session τ
  | [], held => return held
  | operation :: rest, held => do
    let (after, _) ← perform operation held
    performAll rest after

/-- A run exchanges what is exchanged in the moments of its history. -/
theorem exchanges_performAll (operations : List ω) (held : τ) (state : σ) :
    (performAll perform operations held).exchanges server state =
      (Moment.history perform server operations held state).flatMap Moment.exchanges := by
  induction operations generalizing held state with
  | nil => rfl
  | cons operation rest inductionHypothesis =>
      rw [performAll, exchanges_bind, inductionHypothesis, Moment.history, List.flatMap_cons]
      rfl

theorem calls_performAll (operations : List ω) (held : τ) (state : σ) :
    ((performAll perform operations held).run server state).calls =
      (Moment.history perform server operations held state).flatMap Moment.calls := by
  rw [calls_run, exchanges_performAll, List.map_flatMap]
  rfl

end Session

end Workflow
