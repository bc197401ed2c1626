import Mathlib.Data.Set.Card
import Mathlib.Logic.Relation
import Workflow.Proofs.Graph.Links

namespace Workflow

/-!
# What is reached from a node

The executable search marks both ends of marked links in rounds, until a round marks nothing new.
Two facts make its result exact.  No step marks anything outside a set that contains the start and
is closed under links, and a round that changes nothing leaves a set that is itself closed.

The reference is the smallest such set: the positions that are connected with the start by a path of
edges, each taken in either direction.
-/

namespace Adjacency

variable {n : Nat} {links : List (Fin n × Fin n)}

/-- A link joins the two positions, whichever comes first in it. -/
def Joined (links : List (Fin n × Fin n)) (i j : Fin n) : Prop := (i, j) ∈ links ∨ (j, i) ∈ links

/-- The set holds both ends of a link or none. -/
def Closed (links : List (Fin n × Fin n)) (inside : Fin n → Prop) : Prop :=
  ∀ i j, Joined links i j → inside i → inside j

/-- The position has a mark. -/
def Marked (marks : Marks n) (i : Fin n) : Prop := marks.get i = true

/-- All marks lie in a set. -/
def Within (marks : Marks n) (inside : Fin n → Prop) : Prop := ∀ i, Marked marks i → inside i

theorem Extends.marked {before after : Marks n} (extended : Extends before after) {i : Fin n}
    (marked : Marked before i) : Marked after i :=
  extended i marked

theorem Extends.trans {first second third : Marks n} (early : Extends first second)
    (late : Extends second third) : Extends first third :=
  fun i marked => late i (early i marked)

theorem Extends.antisymm {first second : Marks n} (up : Extends first second)
    (down : Extends second first) : first = second := by
  apply Vector.ext
  intro i bound
  exact Bool.eq_iff_iff.mpr ⟨up ⟨i, bound⟩, down ⟨i, bound⟩⟩

/-! ## One round -/

/-- After a link, its ends are marked if one of them was, and nothing else changes. -/
theorem marked_mark_iff (marks : Marks n) (link : Fin n × Fin n) (i : Fin n) :
    Marked (mark marks link) i ↔
      Marked marks i ∨ ((Marked marks link.1 ∨ Marked marks link.2) ∧
        (i = link.1 ∨ i = link.2)) := by
  change (mark marks link)[i] = true ↔ marks[i] = true ∨
    ((marks[link.1] = true ∨ marks[link.2] = true) ∧ (i = link.1 ∨ i = link.2))
  unfold mark
  by_cases met : (marks[link.1] || marks[link.2]) = true
  · rw [if_pos met]
    rw [Bool.or_eq_true] at met
    simp only [Fin.getElem_fin, Vector.getElem_set, Fin.val_inj]
    by_cases second : link.2 = i
    · rw [if_pos second]
      exact iff_of_true rfl (.inr ⟨met, .inr second.symm⟩)
    · rw [if_neg second]
      by_cases first : link.1 = i
      · rw [if_pos first]
        exact iff_of_true rfl (.inr ⟨met, .inl first.symm⟩)
      · rw [if_neg first]
        constructor
        · exact Or.inl
        · rintro (marked | ⟨_, here | here⟩)
          · exact marked
          · exact absurd here.symm first
          · exact absurd here.symm second
  · rw [if_neg met]
    rw [Bool.or_eq_true] at met
    constructor
    · exact Or.inl
    · rintro (marked | ⟨either, _⟩)
      · exact marked
      · exact absurd either met

theorem mark_within {marks : Marks n} {inside : Fin n → Prop} {link : Fin n × Fin n}
    (member : link ∈ links) (closed : Closed links inside) (within : Within marks inside) :
    Within (mark marks link) inside := by
  intro i marked
  rcases (marked_mark_iff marks link i).mp marked with old | ⟨first | second, rfl | rfl⟩
  · exact within i old
  · exact within _ first
  · exact closed _ _ (Or.inl member) (within _ first)
  · exact closed _ _ (Or.inr member) (within _ second)
  · exact within _ second

theorem round_within {marks : Marks n} {inside : Fin n → Prop} (closed : Closed links inside)
    (within : Within marks inside) : Within (round links marks) inside := by
  unfold round
  refine List.foldlRecOn (motive := fun marks => Within marks inside) links mark within ?_
  intro current reached link member
  exact mark_within member closed reached

/-- No link changes marks that a whole round leaves as they are. -/
theorem mark_eq_of_round_eq {marks : Marks n} (stable : round links marks = marks)
    {link : Fin n × Fin n} (member : link ∈ links) : mark marks link = marks := by
  induction links with
  | nil => cases member
  | cons head rest inductionHypothesis =>
      have passed : Extends (mark marks head) marks := by
        have onward := round_extends rest (mark marks head)
        rwa [show round rest (mark marks head) = marks from stable] at onward
      have headStable : mark marks head = marks :=
        Extends.antisymm passed (mark_extends marks head)
      rcases List.mem_cons.mp member with same | later
      · rw [same]
        exact headStable
      · apply inductionHypothesis _ later
        calc
          round rest marks = round rest (mark marks head) := by rw [headStable]
          _ = marks := stable

/-- Marks that a whole round leaves as they are hold both ends of a link or none. -/
theorem closed_of_round_eq {marks : Marks n} (stable : round links marks = marks) :
    Closed links (Marked marks) := by
  intro i j joined marked
  rcases joined with forward | backward
  · rw [← mark_eq_of_round_eq stable forward]
    exact (marked_mark_iff _ _ _).mpr (Or.inr ⟨Or.inl marked, Or.inr rfl⟩)
  · rw [← mark_eq_of_round_eq stable backward]
    exact (marked_mark_iff _ _ _).mpr (Or.inr ⟨Or.inr marked, Or.inl rfl⟩)

/-! ## All rounds -/

theorem spread_extends (marks : Marks n) : Extends marks (spread links marks) := by
  fun_induction spread links marks with
  | case1 marks next stable => exact fun _ marked => marked
  | case2 marks next changed inductionHypothesis =>
      exact (round_extends links marks).trans inductionHypothesis

theorem spread_within {marks : Marks n} {inside : Fin n → Prop} (closed : Closed links inside)
    (within : Within marks inside) : Within (spread links marks) inside := by
  fun_induction spread links marks with
  | case1 marks next stable => exact within
  | case2 marks next changed inductionHypothesis =>
      exact inductionHypothesis (round_within closed within)

theorem spread_closed (marks : Marks n) : Closed links (Marked (spread links marks)) := by
  fun_induction spread links marks with
  | case1 marks next stable => exact closed_of_round_eq stable
  | case2 marks next changed inductionHypothesis => exact inductionHypothesis

/-- A position is marked exactly when a path of links leads to it from the start, which must be in
range. -/
theorem marked_reachedFrom_iff {start : Nat} {j : Fin n} :
    Marked (reachedFrom links start) j ↔
      ∃ inside : start < n, Relation.ReflTransGen (Joined links) ⟨start, inside⟩ j := by
  unfold reachedFrom
  by_cases inside : start < n
  · rw [dif_pos inside]
    constructor
    · intro marked
      have closed : Closed links (Relation.ReflTransGen (Joined links) ⟨start, inside⟩) :=
        fun _ _ joined path => path.tail joined
      have within : Within ((Vector.replicate n false).set start true)
          (Relation.ReflTransGen (Joined links) ⟨start, inside⟩) := by
        intro i first
        by_cases same : start = i.val
        · subst same
          exact Relation.ReflTransGen.refl
        · change ((Vector.replicate n false).set start true)[i] = true at first
          simp [same] at first
      exact ⟨inside, spread_within closed within j marked⟩
    · rintro ⟨_, path⟩
      induction path with
      | refl =>
          apply (spread_extends _).marked
          change ((Vector.replicate n false).set start true)[start] = true
          simp
      | tail _ joined inductionHypothesis =>
          exact spread_closed _ _ _ joined inductionHypothesis
  · rw [dif_neg inside]
    constructor
    · intro marked
      change (Vector.replicate n false)[j] = true at marked
      simp at marked
    · rintro ⟨bound, _⟩
      exact absurd bound inside

/-- The positions with a property can be counted along the list of all positions. -/
theorem ncard_positions (p : Fin n → Prop) [DecidablePred p] :
    {i | p i}.ncard = (List.finRange n).countP fun i => p i := by
  have asFinset : {i | p i} = ((List.finRange n).filter fun i => p i).toFinset := by
    ext i
    simp
  rw [asFinset, Set.ncard_coe_finset,
    List.toFinset_card_of_nodup ((List.nodup_finRange n).filter _), List.countP_eq_length_filter]

/-- The number of marks is the size of the set of marked positions. -/
theorem count_marks (marks : Marks n) :
    marks.toList.count true = {i : Fin n | Marked marks i}.ncard := by
  have listed : marks.toList = (List.finRange n).map fun i => marks[i] := by
    apply List.ext_getElem
    · simp
    · intro k bound _
      simp
  have counted : {i : Fin n | Marked marks i}.ncard =
      (List.finRange n).countP fun i => marks[i] = true :=
    ncard_positions fun i => marks[i] = true
  rw [counted, listed, List.count, List.countP_map]
  simp [Function.comp_def]

end Adjacency

namespace Graph

variable {g : Graph}

/-- A path of edges leads from one position to the other, each taken in either direction. -/
def Connected (g : Graph) : Fin g.nodes.length → Fin g.nodes.length → Prop :=
  Relation.ReflTransGen g.Adjacent

theorem Connected.symm {i j : Fin g.nodes.length} (connected : g.Connected i j) :
    g.Connected j i := by
  induction connected with
  | refl => exact .refl
  | tail _ adjacent inductionHypothesis => exact .head adjacent.symm inductionHypothesis

/-- All positions that are connected with a position. -/
def component (g : Graph) (i : Fin g.nodes.length) : Set (Fin g.nodes.length) :=
  {j | g.Connected i j}

theorem joined_links : Adjacency.Joined g.links = g.Adjacent := by
  funext i j
  exact propext adjacent_iff_links.symm

/-- The search marks the component of its start. -/
theorem marked_reachedFrom_iff {start : Fin g.nodes.length} {j : Fin g.nodes.length} :
    Adjacency.Marked (Adjacency.reachedFrom g.links start) j ↔ j ∈ g.component start := by
  rw [Adjacency.marked_reachedFrom_iff, joined_links]
  exact ⟨fun ⟨_, path⟩ => path, fun path => ⟨start.isLt, path⟩⟩

/-- The search counts the component of its start. -/
theorem count_reachedFrom (start : Fin g.nodes.length) :
    (g.reachedFrom start).count true = (g.component start).ncard := by
  unfold reachedFrom
  rw [Adjacency.count_marks]
  congr 1
  ext j
  exact marked_reachedFrom_iff

/-- The search misses a position exactly when the component of its start is not everything. -/
theorem count_reachedFrom_lt_iff (start : Fin g.nodes.length) :
    (g.reachedFrom start).count true < g.nodes.length ↔ g.component start ≠ Set.univ := by
  rw [count_reachedFrom, Ne, Set.eq_univ_iff_ncard, Nat.card_fin]
  have bound := Set.ncard_le_card (g.component start)
  rw [Nat.card_fin] at bound
  omega

end Graph

end Workflow
