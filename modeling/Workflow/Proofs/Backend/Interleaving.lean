import Mathlib.Logic.Function.Basic
import Workflow.Proofs.Backend.History

namespace Workflow

/-!
# Clients that share a server

Any number of clients are each in one operation at a time, and each operation is a session.  In a
turn a client begins an operation, or goes on by one step of the one that it is in, or someone else
makes a call.  A call is answered within its turn, so that between two calls of a client the others
may have changed what it was told.  What the operations are, which calls others may make, and
whether a client holds something new as soon as a call is answered or only when its operation ends,
is left open.

Who made a call does not matter to the server.  What it answered, with its state before and after
each answer, is a history that grows by one answer at a time; a law of the server is proved by
induction over such histories, and holds of clients that share it since theirs is one of them.
-/

/-- A call that was answered, with the state of the server before and after. -/
structure Answering (σ : Type) where
  before : σ
  exchange : Exchange
  after : σ

namespace Session

variable {σ : Type} (server : Server σ)

/-- A server answers a call. -/
def answering (c : Call) (state : σ) : Answering σ :=
  ⟨state, ⟨c, (server c state).1⟩, (server c state).2⟩

/-- All that a server can have answered since it started, and the state that it is in then. -/
inductive Served (start : σ) : List (Answering σ) → σ → Prop
  | nothing : Served start [] start
  | answered {past : List (Answering σ)} {now : σ} (served : Served start past now) (c : Call) :
      Served start (past ++ [answering server c now]) (server c now).2

variable {server}

/-- What was answered was answered in a state that the answers before it had led to. -/
theorem Served.of_mem {start now : σ} {past : List (Answering σ)} {m : Answering σ}
    (served : Served server start past now) (member : m ∈ past) :
    ∃ earlier c, earlier <+: past ∧ Served server start earlier m.before ∧
      m = answering server c m.before := by
  induction served with
  | nothing => cases member
  | @answered past now served c inductionHypothesis =>
      rcases List.mem_append.mp member with before | last
      · rcases inductionHypothesis before with ⟨earlier, call, initial, reached, same⟩
        exact ⟨earlier, call, initial.trans (List.prefix_append _ _), reached, same⟩
      · obtain rfl := List.mem_singleton.mp last
        exact ⟨past, c, List.prefix_append _ _, served, rfl⟩

/-! ## Clients and their turns -/

/-- How a server is used: the session of each operation, what a client holds when a call of its
operation has been answered, and the calls that others make. -/
structure Usage (ω κ τ ρ : Type) where
  perform : ω → τ → Session (τ × ρ)
  adopt : τ → Exchange → τ
  foreign : κ → Call

/-- A client: what it holds, and what is left of the operation that it is in. -/
structure Client (τ ρ : Type) where
  held : τ
  rest : Option (Session (τ × ρ))

namespace Client

variable {τ ρ : Type}

/-- The call that a client makes next, if its next step is one. -/
def call? (client : Client τ ρ) : Option Call :=
  match client.rest with
  | some (.call c _) => some c
  | _ => none

/-- The call that a client makes next, with the reply of the server as it is now. -/
def exchange? (server : Server σ) (client : Client τ ρ) (state : σ) : Option Exchange :=
  client.call?.map fun c => ⟨c, (server c state).1⟩

variable (server) (adopt : τ → Exchange → τ)

/-- Goes on by one step.  At the end of an operation the client holds what came of it. -/
def advance (client : Client τ ρ) (state : σ) : Client τ ρ × σ :=
  match client.rest with
  | none => (client, state)
  | some (.done (held, _)) => (⟨held, none⟩, state)
  | some (.emit _ rest) => (⟨client.held, some rest⟩, state)
  | some (.call c next) =>
    let answered := server c state
    (⟨adopt client.held ⟨c, answered.1⟩, some (next answered.1)⟩, answered.2)

variable {server}

/-- Only a call changes the state of the server, and only as the server says. -/
theorem state_advance (client : Client τ ρ) (state : σ) :
    (client.advance server adopt state).2 =
      (client.call?.map fun c => (server c state).2).getD state := by
  rcases client with ⟨held, _ | ⟨value⟩ | ⟨event, rest⟩ | ⟨c, next⟩⟩
  · rfl
  · rfl
  · rfl
  · rfl

theorem advance_eq_of_agree {other : Server σ} {client : Client τ ρ} {state : σ}
    (agree : ∀ c ∈ client.call?, other c state = server c state) :
    client.advance other adopt state = client.advance server adopt state := by
  rcases client with ⟨held, _ | ⟨value⟩ | ⟨event, rest⟩ | ⟨c, next⟩⟩
  · rfl
  · rfl
  · rfl
  · have same : other c state = server c state := agree c rfl
    change (Client.mk (adopt held ⟨c, (other c state).1⟩) (some (next (other c state).1)),
      (other c state).2) = _
    rw [same]
    rfl

end Client

/-- What happens next: a client begins an operation, giving up the one that it is in, or goes on
with it, or someone else makes a call. -/
inductive Turn (ι ω κ : Type) where
  | begin (who : ι) (operation : ω)
  | advance (who : ι)
  | call (other : κ)

/-- A server in some state, and the clients that share it. -/
structure Shared (ι σ τ ρ : Type) where
  state : σ
  client : ι → Client τ ρ

namespace Shared

variable {ι ω κ τ ρ : Type}

/-- The clients hold what they are given, and none is in an operation. -/
def opened (state : σ) (held : ι → τ) : Shared ι σ τ ρ := ⟨state, fun who => ⟨held who, none⟩⟩

variable (server) (usage : Usage ω κ τ ρ)

/-- The call that is answered in a turn, if any is. -/
def call? (s : Shared ι σ τ ρ) : Turn ι ω κ → Option Call
  | .begin _ _ => none
  | .advance who => (s.client who).call?
  | .call other => some (usage.foreign other)

variable [DecidableEq ι]

/-- What a client exchanges in a turn. -/
def exchange? (s : Shared ι σ τ ρ) (who : ι) : Turn ι ω κ → Option Exchange
  | .begin _ _ => none
  | .advance other => if other = who then (s.client who).exchange? server s.state else none
  | .call _ => none

/-- Takes a turn. -/
def turn (s : Shared ι σ τ ρ) : Turn ι ω κ → Shared ι σ τ ρ
  | .begin who operation =>
    let held := (s.client who).held
    { s with client := Function.update s.client who ⟨held, some (usage.perform operation held)⟩ }
  | .advance who =>
    let (client, state) := (s.client who).advance server usage.adopt s.state
    ⟨state, Function.update s.client who client⟩
  | .call other => { s with state := (server (usage.foreign other) s.state).2 }

/-- Takes turns one after the other. -/
def after (s : Shared ι σ τ ρ) (turns : List (Turn ι ω κ)) : Shared ι σ τ ρ :=
  turns.foldl (turn server usage) s

/-- What a client exchanges in turns that are taken one after the other. -/
def heard (s : Shared ι σ τ ρ) (who : ι) : List (Turn ι ω κ) → List Exchange
  | [] => []
  | next :: rest =>
    (s.exchange? server who next).toList ++ (s.turn server usage next).heard who rest

/-- What the server answers in turns that are taken one after the other. -/
def answerings (s : Shared ι σ τ ρ) : List (Turn ι ω κ) → List (Answering σ)
  | [] => []
  | next :: rest =>
    ((s.call? usage next).map fun c => answering server c s.state).toList ++
      (turn server usage s next).answerings rest

variable {server} {s : Shared ι σ τ ρ}

theorem state_turn (s : Shared ι σ τ ρ) (next : Turn ι ω κ) :
    (turn server usage s next).state =
      ((s.call? usage next).map fun c => (server c s.state).2).getD s.state := by
  cases next with
  | begin who operation => rfl
  | advance who => exact (s.client who).state_advance usage.adopt s.state
  | call foreign => rfl

theorem turn_eq_of_agree {other : Server σ} {next : Turn ι ω κ}
    (agree : ∀ c ∈ s.call? usage next, other c s.state = server c s.state) :
    turn other usage s next = turn server usage s next := by
  cases next with
  | begin who operation => rfl
  | advance who =>
      simp only [turn]
      rw [Client.advance_eq_of_agree usage.adopt agree]
  | call foreign =>
      have same : other (usage.foreign foreign) s.state = server (usage.foreign foreign) s.state :=
        agree _ rfl
      simp only [turn]
      rw [same]

/-- What the server has answered in some turns prolongs what it had answered before. -/
theorem served_after {start : σ} {past : List (Answering σ)}
    (served : Served server start past s.state) (turns : List (Turn ι ω κ)) :
    Served server start (past ++ s.answerings server usage turns)
      (s.after server usage turns).state := by
  induction turns generalizing s past with
  | nil =>
      rw [answerings, List.append_nil]
      exact served
  | cons next rest inductionHypothesis =>
      rw [answerings, ← List.append_assoc]
      apply inductionHypothesis
      rw [state_turn]
      cases s.call? usage next with
      | none =>
          rw [Option.map_none, Option.toList_none, List.append_nil]
          exact served
      | some c => exact served.answered c

theorem served_answerings (state : σ) (held : ι → τ) (turns : List (Turn ι ω κ)) :
    Served server state ((opened state held).answerings server usage turns)
      ((opened state held).after server usage turns).state :=
  served_after usage (s := opened state held) .nothing turns

/-- A server that would have answered each call of a run in the same way has the same run. -/
theorem run_eq_of_agree {other : Server σ} {turns : List (Turn ι ω κ)}
    (agree : ∀ m ∈ s.answerings server usage turns,
      other m.exchange.call m.before = server m.exchange.call m.before) :
    s.after other usage turns = s.after server usage turns ∧
      s.answerings other usage turns = s.answerings server usage turns := by
  induction turns generalizing s with
  | nil => exact ⟨rfl, rfl⟩
  | cons next rest inductionHypothesis =>
      have first : ∀ c ∈ s.call? usage next, other c s.state = server c s.state := by
        intro c called
        apply agree (answering server c s.state)
        rw [answerings, Option.mem_def.mp called]
        exact List.mem_cons_self
      have sameTurn := turn_eq_of_agree usage first
      have later := inductionHypothesis (s := turn server usage s next) fun m member =>
        agree m (List.mem_append_right _ member)
      have sameAnswer : ((s.call? usage next).map fun c => answering other c s.state) =
          (s.call? usage next).map fun c => answering server c s.state := by
        cases called : s.call? usage next with
        | none => rfl
        | some c =>
            rw [Option.map_some, Option.map_some]
            unfold answering
            rw [first c called]
      rw [answerings, answerings, sameTurn, sameAnswer, later.2]
      change (turn other usage s next).after other usage rest = _ ∧ _
      rw [sameTurn, later.1]
      exact ⟨rfl, rfl⟩

end Shared

end Session

end Workflow
