import Workflow.Backend.Basic

namespace Workflow

/-!
# Running sessions one after the other

A run of a session that goes on with another is the run of the first, followed by a run of the
second from the state that the first left.  The events and the calls follow each other in the same
way.
-/

namespace Session

variable {α β σ : Type} (server : Server σ)

theorem run_bind (s : Session α) (f : α → Session β) (state : σ) :
    (s >>= f).run server state =
      { (f (s.run server state).value).run server (s.run server state).state with
        events := (s.run server state).events ++
          ((f (s.run server state).value).run server (s.run server state).state).events
        calls := (s.run server state).calls ++
          ((f (s.run server state).value).run server (s.run server state).state).calls } := by
  change (s.bind f).run server state = _
  induction s generalizing state with
  | done value => rfl
  | emit event rest inductionHypothesis =>
      simp only [bind, run, inductionHypothesis, List.cons_append]
  | call c next inductionHypothesis =>
      simp only [bind, run, inductionHypothesis, List.cons_append]

theorem run_ask (c : Call) (f : c.Reply → Session β) (state : σ) :
    (ask c >>= f).run server state =
      { (f (server c state).1).run server (server c state).2 with
        calls := c :: ((f (server c state).1).run server (server c state).2).calls } := rfl

@[simp] theorem run_log (events : List Event) (state : σ) :
    (log events).run server state = ⟨(), state, events, []⟩ := by
  unfold log
  induction events with
  | nil => rfl
  | cons event rest inductionHypothesis =>
      rw [List.foldr_cons, run, inductionHypothesis]

end Session

end Workflow
