import Mathlib.Logic.Relation
import Mathlib.Data.List.FinRange
import Workflow.Graph.Chain
import Workflow.Proofs.Graph.Reach

namespace Workflow

/-!
# The walk along single links

The walk is a search with an early end.  What it looks for is a sequence without repetition in which
each position but the last is left by exactly one link, to the next position, and the last one by
none.  Such a sequence is determined by its start, and the walk finds it whenever there is one.

In a chain the links lead from each position to the one after it.  There the sequence is that of all
positions in order, and every position is connected with the first.
-/

namespace Adjacency

variable {n : Nat} {links : List (Fin n × Fin n)}

/-- A sequence without repetition whose positions are left only for the next one. -/
structure SinglePath (links : List (Fin n × Fin n)) (path : List (Fin n)) : Prop where
  distinct : path.Nodup
  onward : ∀ k (inside : k < path.length), successors links path[k] = path[k + 1]?.toList

theorem singlePath_singleton_iff {i : Fin n} :
    SinglePath links [i] ↔ successors links i = [] := by
  constructor
  · exact fun single => single.onward 0 (by simp)
  · intro stop
    refine ⟨List.nodup_singleton i, ?_⟩
    intro k inside
    have first : k = 0 := by simpa using inside
    subst first
    exact stop

theorem singlePath_cons_cons_iff {i j : Fin n} {rest : List (Fin n)} :
    SinglePath links (i :: j :: rest) ↔
      successors links i = [j] ∧ i ∉ j :: rest ∧ SinglePath links (j :: rest) := by
  constructor
  · rintro ⟨distinct, onward⟩
    rw [List.nodup_cons] at distinct
    refine ⟨onward 0 (by simp), distinct.1, distinct.2, ?_⟩
    intro k inside
    exact onward (k + 1) (Nat.succ_lt_succ inside)
  · rintro ⟨step, fresh, distinct, onward⟩
    refine ⟨List.nodup_cons.mpr ⟨fresh, distinct⟩, ?_⟩
    intro k inside
    cases k with
    | zero => exact step
    | succ k => exact onward k (Nat.lt_of_succ_lt_succ inside)

/-- The walk finds the single path from its start through what is not visited, and nothing else. -/
theorem walk_eq_some_iff {unvisited : List (Fin n)} (unrepeated : unvisited.Nodup)
    {current : Fin n} {path : List (Fin n)} :
    walk links unvisited current = some path ↔
      path.head? = some current ∧ SinglePath links path ∧ path ⊆ unvisited := by
  fun_induction walk links unvisited current generalizing path with
  | case1 unvisited current fresh stop =>
      constructor
      · intro found
        cases found
        exact ⟨rfl, singlePath_singleton_iff.mpr stop, by simpa using fresh⟩
      · rintro ⟨start, single, _⟩
        rcases List.head?_eq_some_iff.mp start with ⟨rest, rfl⟩
        cases rest with
        | nil => rfl
        | cons j rest =>
            rw [singlePath_cons_cons_iff, stop] at single
            cases single.1
  | case2 unvisited current fresh next step inductionHypothesis =>
      rw [Option.map_eq_some_iff]
      simp only [inductionHypothesis (unrepeated.erase current)]
      constructor
      · rintro ⟨rest, ⟨start, single, inside⟩, rfl⟩
        rcases List.head?_eq_some_iff.mp start with ⟨others, rfl⟩
        refine ⟨rfl, singlePath_cons_cons_iff.mpr ⟨step, ?_, single⟩, ?_⟩
        · exact fun again => (unrepeated.mem_erase_iff.mp (inside again)).1 rfl
        · exact List.cons_subset.mpr ⟨fresh, List.Subset.trans inside List.erase_subset⟩
      · rintro ⟨start, single, inside⟩
        rcases List.head?_eq_some_iff.mp start with ⟨rest, rfl⟩
        cases rest with
        | nil =>
            rw [singlePath_singleton_iff, step] at single
            cases single
        | cons j rest =>
            rcases singlePath_cons_cons_iff.mp single with ⟨same, apart, single⟩
            cases step.symm.trans same
            refine ⟨_, ⟨rfl, single, ?_⟩, rfl⟩
            intro i member
            refine unrepeated.mem_erase_iff.mpr ⟨?_, inside (List.mem_cons_of_mem _ member)⟩
            exact fun equal => apart (equal ▸ member)
  | case3 unvisited current fresh none one =>
      constructor
      · exact nofun
      · rintro ⟨start, single, _⟩
        rcases List.head?_eq_some_iff.mp start with ⟨rest, rfl⟩
        cases rest with
        | nil => exact absurd (singlePath_singleton_iff.mp single) none
        | cons j rest => exact absurd (singlePath_cons_cons_iff.mp single).1 (one j)
  | case4 unvisited current visited =>
      constructor
      · exact nofun
      · rintro ⟨start, _, inside⟩
        exact absurd (inside (List.mem_of_head? start)) visited

/-- The links lead from each position to the one after it, and are in this order. -/
def IsChain (links : List (Fin n × Fin n)) : Prop :=
  links.map (fun link => (link.1.val, link.2.val)) = (List.range (n - 1)).map fun k => (k, k + 1)

namespace IsChain

theorem mem_iff (chain : IsChain links) {s t : Fin n} : (s, t) ∈ links ↔ s.val + 1 = t.val := by
  have values : (s, t) ∈ links ↔
      (s.val, t.val) ∈ links.map fun link => (link.1.val, link.2.val) := by
    simp [List.mem_map, Fin.val_inj]
  rw [values, chain, List.mem_map]
  constructor
  · rintro ⟨k, _, same⟩
    rcases Prod.mk.inj same with ⟨rfl, next⟩
    exact next
  · intro next
    exact ⟨s.val, List.mem_range.mpr (by omega), by rw [next]⟩

/-- Each position but the last is left by one link, to the position after it. -/
theorem successors_values (chain : IsChain links) (i : Fin n) :
    (successors links i).map Fin.val = if i.val < n - 1 then [i.val + 1] else [] := by
  have values : (successors links i).map Fin.val =
      ((links.map fun link => (link.1.val, link.2.val)).filter (·.1 == i.val)).map Prod.snd := by
    have tests : ((·.1 == i.val) ∘ fun link : Fin n × Fin n => (link.1.val, link.2.val)) =
        fun link => link.1 == i := by
      funext link
      simp [Fin.ext_iff]
    unfold successors
    rw [List.filter_map, List.map_map, List.map_map, tests]
    rfl
  have here : (List.range (n - 1)).filter (· == i.val) =
      if i.val < n - 1 then [i.val] else [] := by
    rw [List.filter_beq, List.nodup_range.count]
    by_cases inside : i.val < n - 1
    · simp [inside]
    · simp [inside]
  rw [values, chain, List.filter_map, List.map_map]
  change ((List.range (n - 1)).filter (· == i.val)).map (· + 1) = _
  rw [here]
  split
  · rfl
  · rfl

/-- In a chain all positions in order are a single path. -/
theorem singlePath_finRange (chain : IsChain links) : SinglePath links (List.finRange n) := by
  refine ⟨List.nodup_finRange n, ?_⟩
  intro k inside
  rw [List.length_finRange] at inside
  apply List.map_injective_iff.mpr Fin.val_injective
  rw [chain.successors_values]
  by_cases last : k + 1 < n
  · rw [List.getElem?_eq_getElem (by simpa using last)]
    simp [Nat.lt_sub_of_add_lt last]
  · rw [List.getElem?_eq_none (by simpa using last)]
    simp
    omega

/-- The walk along a chain from its start goes through all positions in order. -/
theorem walk_eq (chain : IsChain links) {start : Fin n} (first : start.val = 0) :
    walk links (List.finRange n) start = some (List.finRange n) := by
  rw [walk_eq_some_iff (List.nodup_finRange n)]
  refine ⟨?_, chain.singlePath_finRange, List.Subset.refl _⟩
  rw [List.head?_eq_getElem?, List.getElem?_eq_getElem (by simpa using start.pos)]
  simp [Fin.ext_iff, first]

/-- A chain joins every position with its start. -/
theorem reaches (chain : IsChain links) {start : Fin n} (first : start.val = 0) (i : Fin n) :
    Relation.ReflTransGen (Joined links) start i := by
  rcases i with ⟨k, inside⟩
  induction k with
  | zero =>
      have same : start = ⟨0, inside⟩ := Fin.ext first
      rw [same]
  | succ k inductionHypothesis =>
      have before : k < n := Nat.lt_of_succ_lt inside
      exact (inductionHypothesis before).tail (Or.inl (chain.mem_iff.mpr rfl))

end IsChain

end Adjacency

namespace Graph

variable {g : Graph}

/-- The ids of some nodes of a kind, found by their positions, are those of the nodes. -/
theorem map_id_finRange (kind : NodeKind) :
    ((List.finRange g.nodes.length).filter fun i => (g.nodes.get i).kind == kind).map
      (fun i => (g.nodes.get i).id) = (g.nodesOfKind kind).map Node.id := by
  have nodes : g.nodes = (List.finRange g.nodes.length).map g.nodes.get :=
    (List.map_get_finRange g.nodes).symm
  have ofKind : g.nodesOfKind kind =
      ((List.finRange g.nodes.length).filter fun i => (g.nodes.get i).kind == kind).map
        g.nodes.get := by
    calc g.nodesOfKind kind
        = ((List.finRange g.nodes.length).map g.nodes.get).filter (·.kind == kind) :=
          congrArg (List.filter fun n : Node => n.kind == kind) nodes
      _ = _ := List.filter_map
  rw [ofKind, List.map_map]
  rfl

theorem firstTrigger_of_head {n : Node} {rest : List Node} (nodes : g.nodes = n :: rest)
    (trigger : n.kind = .trigger) : ∃ start, g.firstTrigger = some start ∧ start.val = 0 := by
  rcases g with ⟨list, edges⟩
  cases nodes
  exact ⟨⟨0, Nat.succ_pos _⟩, by simp [firstTrigger, List.findFinIdx?_cons, trigger], rfl⟩

/-- The edges of a chain that starts with a trigger give the actions in the order of the nodes. -/
theorem chainOrder_of_isChain (chain : Adjacency.IsChain g.links) {n : Node} {rest : List Node}
    (nodes : g.nodes = n :: rest) (trigger : n.kind = .trigger) :
    g.chainOrder = some ((g.nodesOfKind .action).map Node.id) := by
  rcases firstTrigger_of_head nodes trigger with ⟨start, found, first⟩
  have order := g.map_id_finRange .action
  simp only [List.get_eq_getElem] at order
  unfold chainOrder
  rw [found]
  simp only [Option.bind_eq_bind, Option.bind_some, chain.walk_eq first, Fin.getElem_fin, order]
  exact if_pos (List.length_map Node.id)

/-- In a chain of two or more nodes no node is alone. -/
theorem isIncident_of_isChain (chain : Adjacency.IsChain g.links) (several : 2 ≤ g.nodes.length)
    (i : Fin g.nodes.length) : g.isIncident i = true := by
  rw [isIncident_iff]
  by_cases last : i.val + 1 < g.nodes.length
  · exact ⟨⟨i.val + 1, last⟩, adjacent_iff_links.mpr (Or.inl (chain.mem_iff.mpr rfl))⟩
  · have positive : 0 < i.val := by omega
    refine ⟨⟨i.val - 1, by omega⟩, adjacent_iff_links.mpr (Or.inr (chain.mem_iff.mpr ?_))⟩
    exact Nat.sub_add_cancel positive

/-- The component of the first node of a chain is the whole graph. -/
theorem component_of_isChain (chain : Adjacency.IsChain g.links) {start : Fin g.nodes.length}
    (first : start.val = 0) : g.component start = Set.univ := by
  apply Set.eq_univ_of_forall
  intro i
  have path := chain.reaches first i
  rw [joined_links] at path
  exact path

end Graph

end Workflow
