import Mathlib.Data.List.Perm.Basic
import Workflow.Proofs.Validation.DuplicateIds

namespace Workflow

/-!
# What a report does not depend on

Edges are checked only for what they connect.  In another order, turned around, or under other ids
they give the same report.

The order of the nodes does show in a report: it says which node the search for the connected part
starts from, which of several triggers is the first, and which of several nodes an id names.  None
of this matters to whether the graph is valid.  A graph with several triggers, or with several nodes
of one id, is not valid in any order; and where ids are different, each is the same node in every
order, and a path between two nodes stays one.
-/

/-- The edges have the same ends, maybe the other way round. -/
def Edge.SameEnds (e other : Edge) : Prop :=
  (other.source = e.source ∧ other.target = e.target) ∨
    (other.source = e.target ∧ other.target = e.source)

/-- The edges are the same in some order, but for their ids and directions. -/
def Edge.Rearranged (edges others : List Edge) : Prop :=
  ∃ reordered, edges.Perm reordered ∧ List.Forall₂ SameEnds reordered others

namespace Edge

theorem SameEnds.symm {e other : Edge} (same : e.SameEnds other) : other.SameEnds e := by
  rcases same with ⟨source, target⟩ | ⟨source, target⟩
  · exact .inl ⟨source.symm, target.symm⟩
  · exact .inr ⟨target.symm, source.symm⟩

theorem exists_mem_of_forall₂ {edges others : List Edge}
    (paired : List.Forall₂ SameEnds edges others) {e : Edge} (member : e ∈ edges) :
    ∃ other ∈ others, e.SameEnds other := by
  induction paired with
  | nil => cases member
  | @cons first firstOther _ _ same _ inductionHypothesis =>
      rcases List.mem_cons.mp member with rfl | later
      · exact ⟨firstOther, List.mem_cons_self, same⟩
      · rcases inductionHypothesis later with ⟨other, otherMember, otherSame⟩
        exact ⟨other, List.mem_cons_of_mem _ otherMember, otherSame⟩

end Edge

namespace Graph

/-! ## Edges -/

theorem adjacent_of_sameEnds {nodes : List Node} {edges others : List Edge}
    (covered : ∀ e ∈ edges, ∃ other ∈ others, e.SameEnds other) {i j : Fin nodes.length}
    (adjacent : Adjacent ⟨nodes, edges⟩ i j) : Adjacent ⟨nodes, others⟩ i j := by
  rcases adjacent with ⟨e, member, ends⟩
  rcases covered e member with ⟨other, otherMember, same⟩
  refine ⟨other, otherMember, ?_⟩
  rcases same with ⟨source, target⟩ | ⟨source, target⟩
  · rw [source, target]
    exact ends
  · rw [source, target]
    rcases ends with ⟨first, second⟩ | ⟨first, second⟩
    · exact .inr ⟨second, first⟩
    · exact .inl ⟨second, first⟩

/-- Edges that are rearranged connect the same positions. -/
theorem adjacent_rearranged (nodes : List Node) {edges others : List Edge}
    (rearranged : Edge.Rearranged edges others) :
    (Adjacent ⟨nodes, others⟩ : Fin nodes.length → Fin nodes.length → Prop) =
      Adjacent ⟨nodes, edges⟩ := by
  rcases rearranged with ⟨reordered, permuted, paired⟩
  have turned : List.Forall₂ Edge.SameEnds others reordered :=
    List.Forall₂.flip (paired.imp fun _ _ same => same.symm)
  funext i j
  apply propext
  constructor
  · apply adjacent_of_sameEnds
    intro other member
    rcases Edge.exists_mem_of_forall₂ turned member with ⟨e, reorderedMember, same⟩
    exact ⟨e, permuted.mem_iff.mpr reorderedMember, same⟩
  · apply adjacent_of_sameEnds
    intro e member
    exact Edge.exists_mem_of_forall₂ paired (permuted.mem_iff.mp member)

/-! ## Nodes -/

variable {g : Graph}

/-- Where ids are different, each names the one position that has it. -/
theorem names_of_nodup (different : (g.nodes.map Node.id).Nodup) (i : Fin g.nodes.length) :
    g.Names (g.nodes.get i).id i :=
  ⟨rfl, fun j later same => nodup_ids_iff.mp different i ⟨j, later, same⟩⟩

/-- Every position is adjacent to some position, and a path leads from each to each. -/
def Joined (g : Graph) : Prop := (∀ i, ∃ j, g.Adjacent i j) ∧ ∀ i j, g.Connected i j

section Permuted

variable {nodes others : List Node} {edges : List Edge}

/-- The positions hold nodes of the same id. -/
def Matched (nodes others : List Node) (i : Fin nodes.length) (k : Fin others.length) : Prop :=
  (nodes.get i).id = (others.get k).id

theorem exists_matched (permuted : nodes.Perm others) (i : Fin nodes.length) :
    ∃ k, Matched nodes others i k := by
  rcases List.mem_iff_get.mp (permuted.mem_iff.mp (List.get_mem nodes i)) with ⟨k, same⟩
  exact ⟨k, congrArg Node.id same.symm⟩

theorem Matched.unique (different : (others.map Node.id).Nodup) {i : Fin nodes.length}
    {k l : Fin others.length} (first : Matched nodes others i k)
    (second : Matched nodes others i l) : k = l := by
  have named := names_of_nodup (g := ⟨others, []⟩) different
  have same : (others.get k).id = (others.get l).id := first.symm.trans second
  exact (named k).unique (same ▸ named l)

theorem Matched.adjacent (different : (others.map Node.id).Nodup) {i j : Fin nodes.length}
    {k l : Fin others.length} (first : Matched nodes others i k)
    (second : Matched nodes others j l) (adjacent : Adjacent ⟨nodes, edges⟩ i j) :
    Adjacent ⟨others, edges⟩ k l := by
  have named := names_of_nodup (g := ⟨others, edges⟩) different
  -- Only the ids matter: an end that named the one position names the other.
  have carried {m : Fin nodes.length} {p : Fin others.length} (matched : Matched nodes others m p)
      {id : String} (names : Names ⟨nodes, edges⟩ id m) : Names ⟨others, edges⟩ id p := by
    have same : (others.get p).id = id := matched.symm.trans names.1
    exact same ▸ named p
  rcases adjacent with ⟨e, member, ⟨source, target⟩ | ⟨source, target⟩⟩
  · exact ⟨e, member, .inl ⟨carried first source, carried second target⟩⟩
  · exact ⟨e, member, .inr ⟨carried second source, carried first target⟩⟩

/-- A path between two nodes stays one in every order of the nodes. -/
theorem Matched.connected (permuted : nodes.Perm others) (different : (others.map Node.id).Nodup)
    {i j : Fin nodes.length} (connected : Connected ⟨nodes, edges⟩ i j) {k l : Fin others.length}
    (first : Matched nodes others i k) (second : Matched nodes others j l) :
    Connected ⟨others, edges⟩ k l := by
  induction connected generalizing l with
  | refl =>
      rw [first.unique different second]
      exact .refl
  | @tail between _ _ adjacent inductionHypothesis =>
      rcases exists_matched permuted between with ⟨m, matched⟩
      exact (inductionHypothesis matched).tail (matched.adjacent different second adjacent)

theorem Joined.of_perm (joined : Joined ⟨nodes, edges⟩) (permuted : nodes.Perm others) :
    Joined ⟨others, edges⟩ := by
  have different : (others.map Node.id).Nodup := by
    rw [← (permuted.map Node.id).nodup_iff]
    apply (nodup_ids_iff (g := ⟨nodes, edges⟩)).mpr
    exact fun i shadowed => shadowed.not_adjacent (joined.1 i)
  have back (k : Fin others.length) : ∃ i, Matched nodes others i k := by
    rcases exists_matched permuted.symm k with ⟨i, matched⟩
    exact ⟨i, matched.symm⟩
  constructor
  · intro k
    rcases back k with ⟨i, first⟩
    rcases joined.1 i with ⟨j, adjacent⟩
    rcases exists_matched permuted j with ⟨l, second⟩
    exact ⟨l, first.adjacent different second adjacent⟩
  · intro k l
    rcases back k with ⟨i, first⟩
    rcases back l with ⟨j, second⟩
    exact Matched.connected permuted different (joined.2 i j) first second

theorem triggers_perm (permuted : nodes.Perm others) :
    (triggers ⟨nodes, edges⟩).Perm (triggers ⟨others, edges⟩) := permuted.filterMap _

theorem actions_perm (permuted : nodes.Perm others) :
    (actions ⟨nodes, edges⟩).Perm (actions ⟨others, edges⟩) := permuted.filterMap _

end Permuted

/-- The component of one position is everything exactly when a path leads from each to each. -/
theorem component_eq_univ_iff {i : Fin g.nodes.length} :
    g.component i = Set.univ ↔ ∀ j k, g.Connected j k := by
  rw [Set.eq_univ_iff_forall]
  constructor
  · intro all j k
    exact Relation.ReflTransGen.trans (all j).symm (all k)
  · exact fun all => all i

end Graph

namespace Validation

open Rules

/-! ## Valid graphs -/

variable {schemas : Registry} {name : String} {g : Graph}

theorem connectivityViolations_eq_nil_iff :
    connectivityViolations g = [] ↔ (2 ≤ g.nodes.length → g.Joined) := by
  rw [connectivityViolations_eq]
  unfold connectionRule
  by_cases several : 2 ≤ g.nodes.length
  · have orphans : orphanRule g = [] ↔ ∀ i, ∃ j, g.Adjacent i j := by
      constructor
      · intro none i
        by_contra alone
        have listed : .orphanNode (g.nodes.get i).id (g.nodes.get i).displayName ∈ orphanRule g :=
          mem_brokenAt_iff.mpr ⟨i, alone, rfl⟩
        exact List.not_mem_nil (none ▸ listed)
      · exact fun all => brokenAt_eq_nil fun i alone => alone (all i)
    have component : componentRule g ⟨0, by omega⟩ = [] ↔ ∀ i j, g.Connected i j := by
      rw [← Graph.component_eq_univ_iff]
      unfold componentRule
      split
      · next whole => exact ⟨fun _ => whole, fun _ => rfl⟩
      · next parted =>
        exact ⟨fun empty => absurd empty (List.cons_ne_nil _ _), fun whole => absurd whole parted⟩
    rw [dif_pos several, List.append_eq_nil_iff, orphans, component]
    exact ⟨fun joined _ => joined, fun joined => joined several⟩
  · rw [dif_neg several]
    exact ⟨fun _ several' => absurd several' several, fun _ => rfl⟩

theorem triggerCountViolations_eq_nil_iff :
    triggerCountViolations g = [] ↔ g.triggers.length = 1 := by
  unfold triggerCountViolations
  split
  · next none => simp [none]
  · next one => simp [one]
  · next _ many =>
    exact ⟨fun empty => absurd empty (List.cons_ne_nil _ _), fun one => absurd one many⟩

theorem actionTypeViolations_eq_nil_iff :
    actionTypeViolations g = [] ↔ ∀ a ∈ g.actions, a.2.actionType ≠ none := by
  rw [List.eq_nil_iff_forall_not_mem]
  constructor
  · rintro none ⟨id, d⟩ member untyped
    rcases List.mem_iff_getElem?.mp member with ⟨i, listed⟩
    exact none _ (mem_actionTypeViolations_iff.mpr ⟨i, id, d, listed, untyped, rfl⟩)
  · intro typed v listed
    rcases mem_actionTypeViolations_iff.mp listed with ⟨i, id, d, found, untyped, _⟩
    exact typed (id, d) (List.mem_of_getElem? found) untyped

theorem configViolations_eq_nil_iff :
    configViolations schemas g = [] ↔ ∀ n ∈ g.nodes, nodeIssues schemas n = [] := by
  unfold configViolations
  simp only [List.flatMap_eq_nil_iff, List.map_eq_nil_iff]

theorem isValid_iff :
    (validate schemas name g).isValid = true ↔ nameViolations name = [] ∧ g.nodes ≠ [] ∧
      triggerCountViolations g = [] ∧ triggerTypeViolations g = [] ∧
      actionTypeViolations g = [] ∧ configViolations schemas g = [] ∧
      connectivityViolations g = [] := by
  unfold Report.isValid validate graphViolations
  rw [List.isEmpty_iff, List.append_eq_nil_iff]
  by_cases none : g.nodes = []
  · simp [none]
  · simp [none]

/-- A valid graph stays valid in every order of its nodes. -/
theorem isValid_of_perm {nodes others : List Node} {edges : List Edge}
    (permuted : nodes.Perm others)
    (valid : (validate schemas name ⟨nodes, edges⟩).isValid = true) :
    (validate schemas name ⟨others, edges⟩).isValid = true := by
  rcases isValid_iff.mp valid with
    ⟨named, inhabited, triggerCount, triggerType, actionTypes, configs, connectivity⟩
  -- The one trigger is the first in every order.
  have triggers : Graph.triggers ⟨others, edges⟩ = Graph.triggers ⟨nodes, edges⟩ := by
    have same : (Graph.triggers ⟨nodes, edges⟩).Perm (Graph.triggers ⟨others, edges⟩) :=
      Graph.triggers_perm permuted
    rcases List.length_eq_one_iff.mp (triggerCountViolations_eq_nil_iff.mp triggerCount) with
      ⟨one, listed⟩
    rw [listed, List.singleton_perm] at same
    rw [listed]
    exact same.symm
  refine isValid_iff.mpr ⟨named, ?_, ?_, ?_, ?_, ?_, ?_⟩
  · rintro (none : others = [])
    rw [none, List.perm_nil] at permuted
    exact inhabited permuted
  · rwa [triggerCountViolations, triggers]
  · rwa [triggerTypeViolations, triggers]
  · rw [actionTypeViolations_eq_nil_iff] at actionTypes ⊢
    exact fun a member => actionTypes a ((Graph.actions_perm permuted).mem_iff.mpr member)
  · rw [configViolations_eq_nil_iff] at configs ⊢
    exact fun n member => configs n (permuted.mem_iff.mpr member)
  · rw [connectivityViolations_eq_nil_iff] at connectivity ⊢
    intro several
    have many : 2 ≤ nodes.length := permuted.length_eq ▸ several
    exact (connectivity many).of_perm permuted

/-- The report of a graph is the same whatever the order of its edges, their directions and their
ids; and whether the graph is valid does not depend on the order of its nodes either, be their ids
different or not, and however many triggers there are. -/
theorem validity_ignores_arrangement (schemas : Registry) (name : String) (nodes : List Node)
    (edges : List Edge) :
    (∀ others, Edge.Rearranged edges others →
      validate schemas name ⟨nodes, others⟩ = validate schemas name ⟨nodes, edges⟩) ∧
    ∀ others, nodes.Perm others →
      (validate schemas name ⟨others, edges⟩).isValid =
        (validate schemas name ⟨nodes, edges⟩).isValid := by
  constructor
  · intro others rearranged
    have same := Graph.adjacent_rearranged nodes rearranged
    have connectivity : connectivityViolations ⟨nodes, others⟩ =
        connectivityViolations ⟨nodes, edges⟩ := by
      rw [connectivityViolations_eq, connectivityViolations_eq]
      unfold connectionRule orphanRule componentRule Graph.component Graph.Connected
      rw [same]
    unfold validate graphViolations
    rw [connectivity]
    rfl
  · intro others permuted
    exact Bool.eq_iff_iff.mpr ⟨isValid_of_perm permuted.symm, isValid_of_perm permuted⟩

/-- A trigger and two actions in a row are valid.  They are with the edges in the other order, one
of them turned around and renamed, and with the trigger as the last node. -/
theorem validity_ignores_arrangement_row :
    let t : Node := ⟨"t", .origin, .trigger ⟨"Start", some "MANUAL", .empty⟩⟩
    let a : Node := ⟨"a", .origin, .action ⟨"First", some "NOTE", .empty⟩⟩
    let b : Node := ⟨"b", .origin, .action ⟨"Second", some "NOTE", .empty⟩⟩
    let edges : List Edge := [⟨"1", "t", "a"⟩, ⟨"2", "a", "b"⟩]
    let turned : List Edge := [⟨"3", "b", "a"⟩, ⟨"1", "t", "a"⟩]
    Edge.Rearranged edges turned ∧ [t, a, b].Perm [a, b, t] ∧
      (validate .builtIn "Row" ⟨[t, a, b], edges⟩).isValid = true ∧
      validate .builtIn "Row" ⟨[t, a, b], turned⟩ = validate .builtIn "Row" ⟨[t, a, b], edges⟩ ∧
      (validate .builtIn "Row" ⟨[a, b, t], edges⟩).isValid = true := by
  intro t a b edges turned
  have rearranged : Edge.Rearranged edges turned :=
    ⟨[⟨"2", "a", "b"⟩, ⟨"1", "t", "a"⟩], .swap _ _ _,
      .cons (.inr ⟨rfl, rfl⟩) (.cons (.inl ⟨rfl, rfl⟩) .nil)⟩
  have permuted : ([t] ++ [a, b]).Perm ([a, b] ++ [t]) := List.perm_append_comm
  have valid : (validate .builtIn "Row" ⟨[t, a, b], edges⟩).isValid = true := by decide +kernel
  have law := validity_ignores_arrangement .builtIn "Row" [t, a, b] edges
  exact ⟨rearranged, permuted, valid, law.1 _ rearranged, (law.2 _ permuted).trans valid⟩

end Validation

end Workflow
