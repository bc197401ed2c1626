import Mathlib.Data.List.Perm.Basic
import Workflow.Proofs.Graph.SinglePath

namespace Workflow

/-!
# Which graphs have a chain order

The order of the actions along the edges is there exactly when the edges that leave the first
trigger go in single file: each position is left by one edge only, which names the next position,
until one is left by none, no position comes twice, and no action is missed.  Edges are counted as
they are listed, so that two edges between the same nodes are two, and an edge with an end that
names nothing does not count.

The walk does not know how long it will be.  A limit on its steps shows how many it takes: with one
step more than there are positions it comes to its end, whatever the links are.
-/

namespace Adjacency

variable {n : Nat}

/-- The walk with a limit on its steps, each of which looks at one position; none if the limit is
met before the walk ends. -/
def walkWithin (links : List (Fin n × Fin n)) :
    Nat → List (Fin n) → Fin n → Option (Option (List (Fin n)))
  | 0, _, _ => none
  | steps + 1, unvisited, current =>
    if unvisited.contains current then
      match successors links current with
      | [] => some (some [current])
      | [next] =>
        (walkWithin links steps (unvisited.erase current) next).map (Option.map (current :: ·))
      | _ => some none
    else some none

/-- A walk looks at each position that is not visited at most once, and at one more if it comes to a
position again. -/
theorem walkWithin_eq {links : List (Fin n × Fin n)} {unvisited : List (Fin n)} {current : Fin n}
    {steps : Nat} (enough : unvisited.length < steps) :
    walkWithin links steps unvisited current = some (walk links unvisited current) := by
  fun_induction walk links unvisited current generalizing steps with
  | case1 unvisited current fresh stop =>
      cases steps with
      | zero => cases enough
      | succ steps => simp only [walkWithin, List.contains_iff_mem, fresh, stop, if_true]
  | case2 unvisited current fresh next step inductionHypothesis =>
      cases steps with
      | zero => cases enough
      | succ steps =>
          have shorter : (unvisited.erase current).length < steps := by
            have length := List.length_erase_of_mem fresh
            have positive := List.length_pos_of_mem fresh
            omega
          simp only [walkWithin, List.contains_iff_mem, fresh, step, if_true,
            inductionHypothesis shorter, Option.map_some]
  | case3 unvisited current fresh none one =>
      cases steps with
      | zero => cases enough
      | succ steps => simp only [walkWithin, List.contains_iff_mem, fresh, if_true]
  | case4 unvisited current visited =>
      cases steps with
      | zero => cases enough
      | succ steps => simp only [walkWithin, List.contains_iff_mem, visited, if_false]

end Adjacency

namespace Graph

variable {g : Graph}

open scoped Classical in
/-- The edges that leave a position for some position, in their order. -/
noncomputable def outgoing (g : Graph) (i : Fin g.nodes.length) : List Edge :=
  g.edges.filter fun e => g.Names e.source i ∧ ∃ t, g.Names e.target t

/-- The ids of the actions among some positions, in the order of the positions. -/
def actionIds (g : Graph) (path : List (Fin g.nodes.length)) : List String :=
  (path.filter fun i => (g.nodes.get i).kind == .action).map fun i => (g.nodes.get i).id

/-- One edge leaves the first position, and it leads to the second. -/
def LeadsOnlyTo (g : Graph) (i j : Fin g.nodes.length) : Prop :=
  ∃ e, g.outgoing i = [e] ∧ g.Names e.target j

/-- The positions are those that the edges lead to from the first trigger, one after the other, and
no action is missing. -/
structure SingleFile (g : Graph) (path : List (Fin g.nodes.length)) : Prop where
  distinct : path.Nodup
  start : ∃ first, path.head? = some first ∧ (g.nodes.get first).kind = .trigger ∧
    ∀ i < first, (g.nodes.get i).kind ≠ .trigger
  onward : path.IsChain g.LeadsOnlyTo
  stop : ∀ last, path.getLast? = some last → g.outgoing last = []
  complete : ∀ i, (g.nodes.get i).kind = .action → i ∈ path

/-- The links that leave a position lead where its outgoing edges do. -/
theorem forall₂_outgoing (g : Graph) (i : Fin g.nodes.length) :
    List.Forall₂ (fun e t => g.Names e.target t) (g.outgoing i)
      (Adjacency.successors g.links i) := by
  unfold outgoing Adjacency.successors links
  generalize g.edges = edges
  induction edges with
  | nil => exact .nil
  | cons e rest inductionHypothesis =>
      rw [List.filterMap_cons]
      cases source : g.resolve e.source with
      | none =>
          have unnamed : ¬ g.Names e.source i := by
            rw [← resolve_eq_some_iff, source]
            nofun
          rw [List.filter_cons_of_neg (by simp [unnamed])]
          exact inductionHypothesis
      | some s =>
          cases target : g.resolve e.target with
          | none =>
              have unnamed : ¬ ∃ t, g.Names e.target t := by
                rintro ⟨t, named⟩
                rw [← resolve_eq_some_iff, target] at named
                cases named
              rw [List.filter_cons_of_neg (by simp [unnamed])]
              exact inductionHypothesis
          | some t =>
              have named : g.Names e.target t := resolve_eq_some_iff.mp target
              have sourceNamed : g.Names e.source i ↔ s = i := by
                rw [← resolve_eq_some_iff, source, Option.some_inj]
              dsimp only
              by_cases here : s = i
              · rw [List.filter_cons_of_pos (by simpa using ⟨sourceNamed.mpr here, t, named⟩),
                  List.filter_cons_of_pos (by simpa using here)]
                exact .cons named inductionHypothesis
              · rw [List.filter_cons_of_neg (by simp [sourceNamed, here]),
                  List.filter_cons_of_neg (by simpa using here)]
                exact inductionHypothesis

theorem successors_eq_nil_iff {i : Fin g.nodes.length} :
    Adjacency.successors g.links i = [] ↔ g.outgoing i = [] := by
  have paired := g.forall₂_outgoing i
  constructor
  · intro none
    rwa [none, List.forall₂_nil_right_iff] at paired
  · intro none
    rwa [none, List.forall₂_nil_left_iff] at paired

theorem successors_eq_singleton_iff {i j : Fin g.nodes.length} :
    Adjacency.successors g.links i = [j] ↔ g.LeadsOnlyTo i j := by
  have paired := g.forall₂_outgoing i
  constructor
  · intro one
    rw [one, List.forall₂_cons_right_iff] at paired
    rcases paired with ⟨e, rest, named, none, leaving⟩
    rw [List.forall₂_nil_right_iff] at none
    exact ⟨e, leaving.trans (congrArg (e :: ·) none), named⟩
  · rintro ⟨e, one, named⟩
    rw [one, List.forall₂_cons_left_iff] at paired
    rcases paired with ⟨t, rest, other, none, leading⟩
    rw [List.forall₂_nil_left_iff] at none
    rw [leading, none, other.unique named]

/-- A single path of links is a chain of outgoing edges that ends. -/
theorem singlePath_links_iff {path : List (Fin g.nodes.length)} (inhabited : path ≠ []) :
    Adjacency.SinglePath g.links path ↔ path.Nodup ∧ path.IsChain g.LeadsOnlyTo ∧
      ∀ last, path.getLast? = some last → g.outgoing last = [] := by
  induction path with
  | nil => exact absurd rfl inhabited
  | cons i rest inductionHypothesis =>
      cases rest with
      | nil =>
          rw [Adjacency.singlePath_singleton_iff, successors_eq_nil_iff]
          simp
      | cons j rest =>
          rw [Adjacency.singlePath_cons_cons_iff, successors_eq_singleton_iff,
            inductionHypothesis (List.cons_ne_nil j rest), List.nodup_cons (a := i),
            List.isChain_cons_cons, List.getLast?_cons_cons]
          tauto

theorem firstTrigger_eq_some_iff {first : Fin g.nodes.length} :
    g.firstTrigger = some first ↔ (g.nodes.get first).kind = .trigger ∧
      ∀ i < first, (g.nodes.get i).kind ≠ .trigger := by
  unfold firstTrigger
  rw [List.findFinIdx?_eq_some_iff]
  simp

/-- The actions among all positions are the actions of the graph. -/
theorem actionIds_finRange (g : Graph) :
    g.actionIds (List.finRange g.nodes.length) = (g.nodesOfKind .action).map Node.id :=
  g.map_id_finRange .action

/-- Positions among which no action is missing and none comes twice hold the actions of the graph,
in some order. -/
theorem actionIds_perm {path : List (Fin g.nodes.length)} (distinct : path.Nodup)
    (complete : ∀ i, (g.nodes.get i).kind = .action → i ∈ path) :
    (g.actionIds path).Perm ((g.nodesOfKind .action).map Node.id) := by
  rw [← actionIds_finRange]
  refine List.Perm.map _ ((List.perm_ext_iff_of_nodup (distinct.filter _)
    ((List.nodup_finRange _).filter _)).mpr ?_)
  intro i
  rw [List.mem_filter, List.mem_filter, beq_iff_eq]
  exact ⟨fun both => ⟨List.mem_finRange i, both.2⟩, fun both => ⟨complete i both.2, both.2⟩⟩

/-- Counting the actions tells whether one is missing. -/
theorem complete_of_length_actionIds {path : List (Fin g.nodes.length)} (distinct : path.Nodup)
    (counted : (g.actionIds path).length = (g.nodesOfKind .action).length)
    {i : Fin g.nodes.length} (action : (g.nodes.get i).kind = .action) : i ∈ path := by
  let isAction (i : Fin g.nodes.length) : Bool := (g.nodes.get i).kind == .action
  have among : (path.filter isAction).Subperm ((List.finRange g.nodes.length).filter isAction) := by
    refine List.subperm_of_subset (distinct.filter _) ?_
    intro j member
    rcases List.mem_filter.mp member with ⟨_, isAction⟩
    exact List.mem_filter.mpr ⟨List.mem_finRange j, isAction⟩
  have all := congrArg List.length g.actionIds_finRange
  rw [List.length_map, ← counted] at all
  unfold actionIds at all
  rw [List.length_map, List.length_map] at all
  have same := among.perm_of_length_le (Nat.le_of_eq all)
  have member : i ∈ path.filter isAction :=
    same.mem_iff.mpr (List.mem_filter.mpr ⟨List.mem_finRange i, beq_iff_eq.mpr action⟩)
  exact (List.mem_filter.mp member).1

/-- The positions that the walk finds are in single file if no action is missing, and it finds those
that are. -/
theorem singleFile_iff {path : List (Fin g.nodes.length)} :
    g.SingleFile path ↔ ∃ first, g.firstTrigger = some first ∧
      Adjacency.walk g.links (List.finRange g.nodes.length) first = some path ∧
      (g.actionIds path).length = (g.nodesOfKind .action).length := by
  constructor
  · rintro ⟨distinct, ⟨first, head, trigger⟩, onward, stop, complete⟩
    have inhabited : path ≠ [] := by
      rintro rfl
      cases head
    refine ⟨first, firstTrigger_eq_some_iff.mpr trigger, ?_, ?_⟩
    · rw [Adjacency.walk_eq_some_iff (List.nodup_finRange _)]
      exact ⟨head, (singlePath_links_iff inhabited).mpr ⟨distinct, onward, stop⟩,
        fun i _ => List.mem_finRange i⟩
    · rw [(actionIds_perm distinct complete).length_eq, List.length_map]
  · rintro ⟨first, found, walked, counted⟩
    rw [Adjacency.walk_eq_some_iff (List.nodup_finRange _)] at walked
    rcases walked with ⟨head, single, _⟩
    have inhabited : path ≠ [] := by
      rintro rfl
      cases head
    rcases (singlePath_links_iff inhabited).mp single with ⟨distinct, onward, stop⟩
    exact ⟨distinct, ⟨first, head, firstTrigger_eq_some_iff.mp found⟩, onward, stop,
      fun i => complete_of_length_actionIds distinct counted⟩

theorem chainOrder_eq_some_iff {order : List String} :
    g.chainOrder = some order ↔ ∃ path, g.SingleFile path ∧ order = g.actionIds path := by
  simp only [singleFile_iff, chainOrder, Option.bind_eq_bind, Option.bind_eq_some_iff]
  constructor
  · rintro ⟨first, found, path, walked, listed⟩
    split at listed
    · next counted => exact ⟨path, ⟨first, found, walked, counted⟩, (Option.some.inj listed).symm⟩
    · cases listed
  · rintro ⟨path, ⟨first, found, walked, counted⟩, rfl⟩
    exact ⟨first, found, path, walked, if_pos counted⟩

/-- A graph has a chain order exactly when its edges lead in single file from the first trigger past
every action.  The order is then that in which the actions are passed, and so lists the ids of all
actions, each as often as it is given.  Any other graph has none.  The walk that finds the order
ends after at most one step more than there are nodes. -/
theorem chainOrder_follows_single_file (g : Graph) :
    (∀ order, g.chainOrder = some order ↔
      ∃ path, g.SingleFile path ∧ order = g.actionIds path) ∧
    (∀ order, g.chainOrder = some order →
      order.Perm ((g.nodesOfKind .action).map Node.id)) ∧
    (g.chainOrder = none ↔ ¬ ∃ path, g.SingleFile path) ∧
    ∀ first, g.firstTrigger = some first →
      Adjacency.walkWithin g.links (g.nodes.length + 1) (List.finRange g.nodes.length) first =
        some (Adjacency.walk g.links (List.finRange g.nodes.length) first) := by
  refine ⟨fun order => chainOrder_eq_some_iff, ?_, ?_, ?_⟩
  · intro order found
    rcases chainOrder_eq_some_iff.mp found with ⟨path, single, rfl⟩
    exact actionIds_perm single.distinct single.complete
  · rw [Option.eq_none_iff_forall_ne_some]
    constructor
    · rintro none ⟨path, single⟩
      exact none _ (chainOrder_eq_some_iff.mpr ⟨path, single, rfl⟩)
    · intro none order found
      rcases chainOrder_eq_some_iff.mp found with ⟨path, single, _⟩
      exact none ⟨path, single⟩
  · intro first _
    exact Adjacency.walkWithin_eq (by rw [List.length_finRange]; exact Nat.lt_succ_self _)

/-- The way from the trigger to the second action listed, and on past a condition to the first; the
edge that leaves the first action leads nowhere. -/
theorem chainOrder_follows_single_file_detour :
    let node (id : String) (kind : NodeKind) : Node := ⟨id, .origin, .empty kind⟩
    let g : Graph :=
      ⟨[node "a" .action, node "t" .trigger, node "c" .condition, node "b" .action],
        [⟨"1", "t", "b"⟩, ⟨"2", "b", "c"⟩, ⟨"3", "c", "a"⟩, ⟨"4", "a", "gone"⟩]⟩
    let start : Fin g.nodes.length := ⟨1, by decide⟩
    g.chainOrder = some ["b", "a"] ∧
      (∃ path, g.SingleFile path ∧ ["b", "a"] = g.actionIds path) ∧
      ["b", "a"].Perm ((g.nodesOfKind .action).map Node.id) ∧
      g.firstTrigger = some start ∧
      Adjacency.walkWithin g.links 5 (List.finRange g.nodes.length) start =
        some (Adjacency.walk g.links (List.finRange g.nodes.length) start) := by
  intro node g start
  have found : g.chainOrder = some ["b", "a"] := by decide +kernel
  have first : g.firstTrigger = some start := by decide
  rcases chainOrder_follows_single_file g with ⟨exactly, permuted, _, within⟩
  exact ⟨found, (exactly _).mp found, permuted _ found, first, within start first⟩

end Graph

end Workflow
