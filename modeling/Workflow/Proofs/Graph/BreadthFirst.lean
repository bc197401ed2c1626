import Mathlib.Data.Bool.Count
import Workflow.Proofs.Graph.Reach

namespace Workflow

/-!
# Searching with a queue

What is reached from a node can also be found breadth first.  Every position has the list of its
neighbours; a position is flagged when it is met for the first time, and then waits in a queue until
its neighbours are looked at in turn.

One turn takes one position from the queue, and each position that it adds has just lost its place
among those without a flag.  So the positions without a flag and those that wait are together one
fewer after each turn, and the queue runs empty after as many turns as positions get a flag.  At any
time the flagged positions are connected with the start, and the neighbours of those that do not
wait are flagged; once none waits, the flags are the marks that the rounds over the links leave.
-/

namespace Adjacency

variable {n : Nat} {links : List (Fin n × Fin n)}

/-- The lists with a further neighbour of a position. -/
def push (lists : Vector (List (Fin n)) n) (i j : Fin n) : Vector (List (Fin n)) n :=
  lists.set i (lists.get i ++ [j]) i.isLt

/-- Enters each end of a link in the list of the other one. -/
def enter (lists : Vector (List (Fin n)) n) (link : Fin n × Fin n) : Vector (List (Fin n)) n :=
  push (push lists link.1 link.2) link.2 link.1

/-- The neighbours of each position, in the order of the links. -/
def neighbours (links : List (Fin n × Fin n)) : Vector (List (Fin n)) n :=
  links.foldl enter (Vector.replicate n [])

/-- A search that is under way: the flags of the positions that were met, and the queue of those
whose neighbours are yet to be looked at. -/
structure Search (n : Nat) where
  met : Marks n
  queue : List (Fin n)

namespace Search

/-- Only the start was met. -/
def begin (start : Fin n) : Search n :=
  ⟨(Vector.replicate n false).set start true start.isLt, [start]⟩

/-- Meets a position, which is flagged and waits if it had no flag. -/
def meet (s : Search n) (next : Fin n) : Search n :=
  if s.met.get next then s else ⟨s.met.set next true next.isLt, s.queue ++ [next]⟩

/-- The first position of the queue leaves it, and its neighbours are met. -/
def turn (lists : Vector (List (Fin n)) n) (s : Search n) : Search n :=
  match s.queue with
  | [] => s
  | current :: rest => (lists.get current).foldl meet ⟨s.met, rest⟩

/-- How many positions can still take a turn: those that wait, and those that were not met. -/
def pending (s : Search n) : Nat := unmarked s.met + s.queue.length

end Search

section Positions

variable {α : Type}

theorem get_set (values : Vector α n) (i j : Fin n) (a : α) :
    (values.set i a i.isLt).get j = if i = j then a else values.get j := by
  change (values.set i a i.isLt)[j.val] = if i = j then a else values[j.val]
  rw [Vector.getElem_set i.isLt j.isLt]
  simp only [Fin.val_inj]

theorem get_replicate (a : α) (i : Fin n) : (Vector.replicate n a).get i = a :=
  Vector.getElem_replicate i.isLt

end Positions

/-! ## The lists of neighbours -/

theorem mem_push_iff {lists : Vector (List (Fin n)) n} {i j k l : Fin n} :
    l ∈ (push lists i j).get k ↔ l ∈ lists.get k ∨ (i = k ∧ j = l) := by
  rw [push, get_set]
  by_cases own : i = k
  · subst own
    simp [eq_comm]
  · simp [own]

theorem mem_enter_iff {lists : Vector (List (Fin n)) n} {link : Fin n × Fin n} {i j : Fin n} :
    j ∈ (enter lists link).get i ↔ j ∈ lists.get i ∨ (i, j) = link ∨ (j, i) = link := by
  rw [enter, mem_push_iff, mem_push_iff, Prod.ext_iff, Prod.ext_iff, or_assoc]
  simp only [eq_comm, and_comm]

theorem mem_foldl_enter_iff {lists : Vector (List (Fin n)) n} {i j : Fin n} :
    j ∈ (links.foldl enter lists).get i ↔ j ∈ lists.get i ∨ Joined links i j := by
  induction links generalizing lists with
  | nil => simp [Joined]
  | cons link rest inductionHypothesis =>
      rw [List.foldl_cons, inductionHypothesis, mem_enter_iff]
      simp only [Joined, List.mem_cons]
      tauto

theorem mem_neighbours_iff {i j : Fin n} : j ∈ (neighbours links).get i ↔ Joined links i j := by
  have nothing : j ∉ (Vector.replicate n ([] : List (Fin n))).get i := by
    rw [get_replicate]
    exact List.not_mem_nil
  rw [neighbours, mem_foldl_enter_iff, or_iff_right nothing]

namespace Search

variable {lists : Vector (List (Fin n)) n} {s : Search n} {next i j start : Fin n}

/-! ## One position is met -/

theorem marked_meet_iff : Marked (s.meet next).met i ↔ Marked s.met i ∨ i = next := by
  unfold Marked meet
  split
  · next known =>
    refine ⟨Or.inl, ?_⟩
    rintro (old | rfl)
    · exact old
    · exact known
  · rw [get_set]
    by_cases own : next = i
    · simp [own]
    · simp [own, Ne.symm own]

theorem mem_queue_meet_iff :
    i ∈ (s.meet next).queue ↔ i ∈ s.queue ∨ (i = next ∧ ¬ Marked s.met next) := by
  unfold Marked meet
  split
  · next known => simp [known]
  · next new => simp [new]

/-- A position that joins the queue is one fewer without a flag. -/
theorem pending_meet (s : Search n) (next : Fin n) : (s.meet next).pending = s.pending := by
  unfold meet
  split
  · rfl
  · next new =>
    have unflagged : s.met[next.val] = false := Bool.eq_false_iff.mpr new
    have counted : 0 < unmarked s.met :=
      List.count_pos_iff.mpr (Vector.mem_toList_iff.mpr (unflagged ▸ Vector.getElem_mem _))
    have fewer : unmarked (s.met.set next true) = unmarked s.met - 1 := by
      unfold unmarked
      rw [Vector.count_toList, Vector.count_toList, Vector.count_set, unflagged]
      simp
    unfold pending
    rw [fewer, List.length_append, List.length_singleton]
    omega

/-! ## All neighbours are met -/

theorem marked_foldl_meet_iff {others : List (Fin n)} :
    Marked (others.foldl meet s).met i ↔ Marked s.met i ∨ i ∈ others := by
  induction others generalizing s with
  | nil => simp
  | cons next rest inductionHypothesis =>
      rw [List.foldl_cons, inductionHypothesis, marked_meet_iff, List.mem_cons, or_assoc]

theorem mem_queue_foldl_meet_iff {others : List (Fin n)} :
    i ∈ (others.foldl meet s).queue ↔ i ∈ s.queue ∨ (i ∈ others ∧ ¬ Marked s.met i) := by
  induction others generalizing s with
  | nil => simp
  | cons next rest inductionHypothesis =>
      rw [List.foldl_cons, inductionHypothesis, mem_queue_meet_iff, marked_meet_iff, List.mem_cons]
      by_cases same : i = next
      · subst same
        simp
      · simp [same]

theorem pending_foldl_meet (others : List (Fin n)) (s : Search n) :
    (others.foldl meet s).pending = s.pending := by
  induction others generalizing s with
  | nil => rfl
  | cons next rest inductionHypothesis =>
      rw [List.foldl_cons, inductionHypothesis, pending_meet]

/-! ## One turn -/

theorem pending_begin (start : Fin n) : (begin start).pending = n := by
  have unflagged : unmarked (begin start).met = n - 1 := by
    change ((Vector.replicate n false).set start true).toList.count false = n - 1
    rw [Vector.count_toList, Vector.count_set]
    simp
  have positive : 0 < n := start.pos
  rw [pending, unflagged]
  exact Nat.sub_add_cancel positive

/-- A turn uses up one of the positions that can take a turn. -/
theorem pending_turn (lists : Vector (List (Fin n)) n) (waiting : s.queue ≠ []) :
    (s.turn lists).pending + 1 = s.pending := by
  unfold turn
  split
  · next empty => exact absurd empty waiting
  · next current rest queue =>
    rw [pending_foldl_meet, pending, pending, queue, List.length_cons, Nat.add_assoc]

/-- What is true of a search before and after every turn. -/
structure Sound (links : List (Fin n × Fin n)) (start : Fin n) (s : Search n) : Prop where
  start_met : Marked s.met start
  queue_met : ∀ i ∈ s.queue, Marked s.met i
  met_connected : Within s.met (Relation.ReflTransGen (Joined links) start)
  neighbours_met : ∀ i j, Marked s.met i → i ∉ s.queue → Joined links i j → Marked s.met j

theorem sound_begin (start : Fin n) : Sound links start (begin start) := by
  have flagged (i : Fin n) : Marked (begin start).met i ↔ start = i := by
    rw [Marked, begin, get_set, get_replicate]
    simp
  have queue : (begin start).queue = [start] := rfl
  refine ⟨(flagged start).mpr rfl, ?queue, ?connected, ?neighbours⟩
  case queue =>
    intro i member
    rw [queue, List.mem_singleton] at member
    exact (flagged i).mpr member.symm
  case connected =>
    intro i met
    exact (flagged i).mp met ▸ Relation.ReflTransGen.refl
  case neighbours =>
    intro i j met left
    rw [queue, List.mem_singleton] at left
    exact absurd ((flagged i).mp met).symm left

theorem Sound.turn (sound : Sound links start s) :
    Sound links start (s.turn (neighbours links)) := by
  unfold Search.turn
  split
  · exact sound
  · next current rest queue =>
    have waits : current ∈ s.queue := queue ▸ List.mem_cons_self
    refine ⟨marked_foldl_meet_iff.mpr (.inl sound.start_met), ?queue, ?connected, ?neighbours⟩
    case queue =>
      intro i member
      rw [marked_foldl_meet_iff]
      rcases mem_queue_foldl_meet_iff.mp member with old | ⟨neighbour, _⟩
      · exact .inl (sound.queue_met i (queue ▸ List.mem_cons_of_mem _ old))
      · exact .inr neighbour
    case connected =>
      intro i met
      rcases marked_foldl_meet_iff.mp met with old | neighbour
      · exact sound.met_connected i old
      · exact (sound.met_connected current (sound.queue_met current waits)).tail
          (mem_neighbours_iff.mp neighbour)
    case neighbours =>
      intro i j met left joined
      rw [mem_queue_foldl_meet_iff] at left
      rw [marked_foldl_meet_iff]
      by_cases same : i = current
      · exact .inr (mem_neighbours_iff.mpr (same ▸ joined))
      · -- a position that is flagged in this turn waits after it
        have old : Marked s.met i := by
          rcases marked_foldl_meet_iff.mp met with old | neighbour
          · exact old
          · by_contra new
            exact left (.inr ⟨neighbour, new⟩)
        have left : i ∉ s.queue := by
          rw [queue, List.mem_cons]
          exact not_or.mpr ⟨same, fun inside => left (.inl inside)⟩
        exact .inl (sound.neighbours_met i j old left joined)

/-! ## All turns -/

theorem sound_turns (links : List (Fin n × Fin n)) (start : Fin n) (k : Nat) :
    Sound links start ((turn (neighbours links))^[k] (begin start)) := by
  induction k with
  | zero => exact sound_begin start
  | succ k inductionHypothesis =>
      rw [Function.iterate_succ_apply']
      exact inductionHypothesis.turn

/-- The queue runs empty, and there are as many turns until then as there are positions that take
one. -/
theorem exists_turns (lists : Vector (List (Fin n)) n) (s : Search n) :
    ∃ k, ((turn lists)^[k] s).queue = [] ∧ (∀ m < k, ((turn lists)^[m] s).queue ≠ []) ∧
      k + unmarked ((turn lists)^[k] s).met = s.pending := by
  induction left : s.pending using Nat.strong_induction_on generalizing s with
  | _ left inductionHypothesis =>
      by_cases empty : s.queue = []
      · refine ⟨0, empty, fun m early => absurd early (Nat.not_lt_zero m), ?_⟩
        rw [← left, pending, empty]
        exact Nat.zero_add _
      · have used := pending_turn lists empty
        rcases inductionHypothesis _ (by omega) (s.turn lists) rfl with ⟨k, ended, before, counted⟩
        refine ⟨k + 1, ended, ?_, ?_⟩
        · intro m early
          cases m with
          | zero => exact empty
          | succ m => exact before m (Nat.lt_of_succ_lt_succ early)
        · rw [← left, ← used, ← counted, Function.iterate_succ_apply]
          omega

/-- A search that is at its end has flagged what the rounds over the links mark. -/
theorem Sound.met_eq (sound : Sound links start s) (ended : s.queue = []) :
    s.met = reachedFrom links start := by
  have flags (j : Fin n) : Marked s.met j ↔ Marked (reachedFrom links start) j := by
    rw [marked_reachedFrom_iff]
    constructor
    · exact fun met => ⟨start.isLt, sound.met_connected j met⟩
    · rintro ⟨_, path⟩
      induction path with
      | refl => exact sound.start_met
      | tail _ joined inductionHypothesis =>
          exact sound.neighbours_met _ _ inductionHypothesis (ended ▸ List.not_mem_nil) joined
  exact Extends.antisymm (fun j => (flags j).mp) (fun j => (flags j).mpr)

/-- The queue runs empty after one turn for each position that is reached, and not before. -/
theorem ends_after (links : List (Fin n × Fin n)) (start : Fin n) :
    let turns := (reachedFrom links start).toList.count true
    let after := fun k => (turn (neighbours links))^[k] (begin start)
    (after turns).queue = [] ∧ (∀ k < turns, (after k).queue ≠ []) ∧
      (after turns).met = reachedFrom links start := by
  intro turns after
  rcases exists_turns (neighbours links) (begin start) with ⟨k, ended, before, counted⟩
  have met : (after k).met = reachedFrom links start := (sound_turns links start k).met_eq ended
  have number : k = turns := by
    have parts := List.count_false_add_count_true (reachedFrom links start).toList
    rw [met, pending_begin] at counted
    rw [Vector.length_toList] at parts
    unfold unmarked at counted
    omega
  subst number
  exact ⟨ended, before, met⟩

end Search

end Adjacency

namespace Graph

variable {g : Graph}

/-- The flag that a search from the first position gives the second is set. -/
def Reaches (g : Graph) (i j : Fin g.nodes.length) : Prop :=
  (g.reachedFrom i)[j.val]? = some true

theorem reaches_iff {i j : Fin g.nodes.length} : g.Reaches i j ↔ g.Connected i j := by
  rw [show g.Connected i j ↔ j ∈ g.component i from Iff.rfl, ← marked_reachedFrom_iff]
  unfold Reaches reachedFrom
  rw [Vector.getElem?_toList, Vector.getElem?_eq_getElem j.isLt, Option.some_inj]
  rfl

theorem reachedFrom_of_le {start : Nat} (outside : g.nodes.length ≤ start) :
    g.reachedFrom start = List.replicate g.nodes.length false := by
  unfold reachedFrom Adjacency.reachedFrom
  rw [dif_neg (Nat.not_lt.mpr outside)]
  exact Vector.toList_replicate

/-- Links end at the positions that are named by an edge both ends of which name one. -/
theorem isIncident_iff_exists {i : Nat} :
    g.isIncident i = true ↔ ∃ e ∈ g.edges, ∃ s t, g.Names e.source s ∧ g.Names e.target t ∧
      (s.val = i ∨ t.val = i) := by
  simp only [isIncident, Adjacency.touches, List.any_eq_true, Bool.or_eq_true, beq_iff_eq]
  constructor
  · rintro ⟨⟨s, t⟩, member, ends⟩
    rcases mem_links_iff.mp member with ⟨e, inside, source, target⟩
    exact ⟨e, inside, s, t, source, target, ends⟩
  · rintro ⟨e, inside, s, t, source, target, ends⟩
    exact ⟨(s, t), mem_links_iff.mpr ⟨e, inside, source, target⟩, ends⟩

/-- A search gives each node a flag, and none is set if the start is out of range.  From a start in
range just those flags are set to which a path of edges leads, each edge taken in either direction
and both its ends naming a node; so to be reached is an equivalence of the positions.  A search with
a queue over the lists of neighbours has the same flags in the end, which comes after one turn for
each position that is reached and not before.  A position is incident if an edge both ends of which
name a node names it with one of them. -/
theorem searches_follow_edges (g : Graph) :
    (∀ start, (g.reachedFrom start).length = g.nodes.length) ∧
    (∀ start, g.nodes.length ≤ start →
      g.reachedFrom start = List.replicate g.nodes.length false) ∧
    (∀ i j, g.Reaches i j ↔ g.Connected i j) ∧
    Equivalence g.Reaches ∧
    (∀ start : Fin g.nodes.length,
      let turns := (g.reachedFrom start).count true
      let after := fun k =>
        (Adjacency.Search.turn (Adjacency.neighbours g.links))^[k] (.begin start)
      (after turns).queue = [] ∧ (∀ k < turns, (after k).queue ≠ []) ∧
        (after turns).met.toList = g.reachedFrom start) ∧
    ∀ i, g.isIncident i = true ↔ ∃ e ∈ g.edges, ∃ s t, g.Names e.source s ∧ g.Names e.target t ∧
      (s.val = i ∨ t.val = i) := by
  refine ⟨?length, fun _ => reachedFrom_of_le, fun _ _ => reaches_iff, ?equivalence, ?queue,
    fun _ => isIncident_iff_exists⟩
  case length =>
    exact fun start => Vector.length_toList ..
  case equivalence =>
    refine ⟨fun i => reaches_iff.mpr .refl, ?_, ?_⟩
    · intro i j reached
      exact reaches_iff.mpr (Connected.symm (reaches_iff.mp reached))
    · intro i j k first second
      exact reaches_iff.mpr ((reaches_iff.mp first).trans (reaches_iff.mp second))
  case queue =>
    intro start turns after
    have ⟨ended, before, met⟩ := Adjacency.Search.ends_after g.links start
    exact ⟨ended, before, congrArg Vector.toList met⟩

/-- Two edges between the same two nodes, of which the second has the id of another one before it, a
node that leads to itself, and one that leads nowhere. -/
theorem searches_follow_edges_twofold :
    let node : String → Node := fun id => ⟨id, .origin, .empty .action⟩
    let g : Graph := ⟨[node "a", node "b", node "b", node "c", node "d"],
      [⟨"e", "a", "b"⟩, ⟨"f", "b", "a"⟩, ⟨"g", "c", "c"⟩, ⟨"h", "d", "nowhere"⟩]⟩
    let after := fun k => (Adjacency.Search.turn (Adjacency.neighbours g.links))^[k]
      (.begin (0 : Fin 5))
    g.nodes.length ≤ 5 ∧ g.reachedFrom 5 = List.replicate 5 false ∧
    (g.reachedFrom 0).count true = 2 ∧ (after 1).queue ≠ [] ∧ (after 2).queue = [] ∧
    (after 2).met.toList = [true, false, true, false, false] ∧
    g.isIncident 3 = true := by
  intro node g after
  have ⟨_, outside, _, _, queue, incident⟩ := searches_follow_edges g
  have flags : g.reachedFrom 0 = [true, false, true, false, false] := by decide +kernel
  have turns : (g.reachedFrom (0 : Fin 5)).count true = 2 := by
    rw [show g.reachedFrom (0 : Fin 5) = _ from flags]
    rfl
  have ⟨ended, before, met⟩ := queue (0 : Fin 5)
  rw [turns] at ended before met
  have loop : g.Names "c" (3 : Fin 5) := ⟨rfl, by decide⟩
  refine ⟨Nat.le_refl 5, outside 5 (Nat.le_refl 5), turns, before 1 (by decide), ended,
    met.trans flags, ?_⟩
  exact (incident 3).mpr ⟨⟨"g", "c", "c"⟩, by decide, 3, 3, loop, loop, .inl rfl⟩

end Graph

end Workflow
