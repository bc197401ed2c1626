import Workflow.Graph.Adjacency

namespace Workflow

/-!
# What the ends of an edge name

The executable look-up searches the nodes from behind and counts positions from the other end.  Here
it is compared with what it is for: an id names the last node that has it.  Two positions are
adjacent when some edge names one of them with each of its ends, in either direction.  An edge with
an end that names nothing makes nothing adjacent.
-/

namespace Graph

variable {g : Graph}

/-- The position is that of the last node with the id. -/
def Names (g : Graph) (id : String) (i : Fin g.nodes.length) : Prop :=
  (g.nodes.get i).id = id ∧ ∀ j, i < j → (g.nodes.get j).id ≠ id

/-- An id names at most one position. -/
theorem Names.unique {id : String} {i j : Fin g.nodes.length} (first : g.Names id i)
    (second : g.Names id j) : i = j := by
  apply Fin.le_antisymm
  · exact Fin.not_lt.mp fun above => second.2 i above first.1
  · exact Fin.not_lt.mp fun above => first.2 j above second.1

private theorem reverse_at_rev (nodes : List Node) (j : Fin nodes.length) :
    nodes.reverse.get (j.rev.cast List.length_reverse.symm) = nodes.get j := by
  have same : nodes.length - 1 - j.rev.val = j.val := by
    rw [Fin.val_rev]
    omega
  simp only [List.get_eq_getElem, Fin.val_cast, List.getElem_reverse, same]

private theorem names_of_resolve {id : String} {i : Fin g.nodes.length}
    (found : g.resolve id = some i) : g.Names id i := by
  rcases Option.map_eq_some_iff.mp found with ⟨k, first, rfl⟩
  rcases List.findFinIdx?_eq_some_iff.mp first with ⟨here, earlier⟩
  have place : (k.cast List.length_reverse).rev.rev.cast List.length_reverse.symm = k := by
    rw [Fin.rev_rev]
    rfl
  constructor
  · rw [← reverse_at_rev]
    simp only [place]
    exact beq_iff_eq.mp here
  · intro j above
    have before : j.rev.cast List.length_reverse.symm < k := by
      rw [← place]
      exact Fin.rev_lt_rev.mpr above
    rw [← reverse_at_rev g.nodes j]
    exact fun same => earlier _ before (beq_iff_eq.mpr same)

private theorem resolve_isSome {id : String} {i : Fin g.nodes.length}
    (same : (g.nodes.get i).id = id) : (g.resolve id).isSome := by
  unfold resolve
  rw [Option.isSome_map, List.isSome_findFinIdx?, List.any_reverse, List.any_eq_true]
  exact ⟨g.nodes.get i, List.get_mem _ _, beq_iff_eq.mpr same⟩

/-- The look-up finds exactly the position that is named. -/
theorem resolve_eq_some_iff {id : String} {i : Fin g.nodes.length} :
    g.resolve id = some i ↔ g.Names id i := by
  constructor
  · exact names_of_resolve
  · intro named
    rcases Option.isSome_iff_exists.mp (resolve_isSome named.1) with ⟨j, found⟩
    rw [found, (names_of_resolve found).unique named]

/-- The links are the named ends of the edges that name both. -/
theorem mem_links_iff {s t : Fin g.nodes.length} :
    (s, t) ∈ g.links ↔ ∃ e ∈ g.edges, g.Names e.source s ∧ g.Names e.target t := by
  unfold links
  rw [List.mem_filterMap]
  constructor
  · rintro ⟨e, member, linked⟩
    split at linked
    · next source target foundSource foundTarget =>
        rcases Prod.mk.inj (Option.some.inj linked) with ⟨rfl, rfl⟩
        exact ⟨e, member, resolve_eq_some_iff.mp foundSource, resolve_eq_some_iff.mp foundTarget⟩
    · cases linked
  · rintro ⟨e, member, source, target⟩
    refine ⟨e, member, ?_⟩
    rw [resolve_eq_some_iff.mpr source, resolve_eq_some_iff.mpr target]

/-- Some edge connects the two positions, in either direction. -/
def Adjacent (g : Graph) (i j : Fin g.nodes.length) : Prop :=
  ∃ e ∈ g.edges, (g.Names e.source i ∧ g.Names e.target j) ∨
    (g.Names e.source j ∧ g.Names e.target i)

theorem Adjacent.symm {i j : Fin g.nodes.length} (adjacent : g.Adjacent i j) : g.Adjacent j i := by
  rcases adjacent with ⟨e, member, forward | backward⟩
  · exact ⟨e, member, Or.inr forward⟩
  · exact ⟨e, member, Or.inl backward⟩

/-- Positions are adjacent when a link joins them, whichever comes first in it. -/
theorem adjacent_iff_links {i j : Fin g.nodes.length} :
    g.Adjacent i j ↔ (i, j) ∈ g.links ∨ (j, i) ∈ g.links := by
  rw [mem_links_iff, mem_links_iff]
  constructor
  · rintro ⟨e, member, forward | backward⟩
    · exact Or.inl ⟨e, member, forward⟩
    · exact Or.inr ⟨e, member, backward⟩
  · rintro (⟨e, member, forward⟩ | ⟨e, member, backward⟩)
    · exact ⟨e, member, Or.inl forward⟩
    · exact ⟨e, member, Or.inr backward⟩

/-- A position touches a link exactly when something is adjacent to it. -/
theorem isIncident_iff {i : Fin g.nodes.length} :
    g.isIncident i = true ↔ ∃ j, g.Adjacent i j := by
  simp only [isIncident, Adjacency.touches, List.any_eq_true, Bool.or_eq_true, beq_iff_eq,
    Fin.val_inj, adjacent_iff_links]
  constructor
  · rintro ⟨⟨s, t⟩, member, source | target⟩
    · exact ⟨t, Or.inl (source ▸ member)⟩
    · exact ⟨s, Or.inr (target ▸ member)⟩
  · rintro ⟨j, forward | backward⟩
    · exact ⟨(i, j), forward, Or.inl rfl⟩
    · exact ⟨(j, i), backward, Or.inr rfl⟩

end Graph

end Workflow
