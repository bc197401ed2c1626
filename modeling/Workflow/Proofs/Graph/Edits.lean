import Workflow.Graph.Basic

namespace Workflow

/-!
# Edits of a graph

The operations by which a graph is edited, as data, so that what holds of each of them can be said
once.  An edit that is refused changes nothing.

Only three of them touch data: a new node has empty data, patches change data, and the others leave
it as it is.  So a property of data that empty data have and that no patch destroys is never lost.
-/

namespace Graph

/-- One operation on a graph. -/
inductive Edit where
  | addNode (kind : NodeKind) (position : Position)
  | removeNode (id : String)
  | connect (source target : String)
  | disconnect (id : String)
  | updateNode (id : String) (patches : List NodePatch)
  | moveNode (id : String) (position : Position)

/-- The graph after an operation. -/
def edit (g : Graph) : Edit → Graph
  | .addNode kind position => g.addNode kind position
  | .removeNode id => g.removeNode id
  | .connect source target => g.connect source target
  | .disconnect id => g.disconnect id
  | .updateNode id patches => (g.updateNode id patches).toOption.getD g
  | .moveNode id position => (g.moveNode id position).toOption.getD g

/-- The patches that an operation applies. -/
def Edit.patches : Edit → List NodePatch
  | .updateNode _ patches => patches
  | .addNode _ _ | .removeNode _ | .connect _ _ | .disconnect _ | .moveNode _ _ => []

theorem mem_modifyFirst {α : Type} {test : α → Bool} {change : α → α} {items : List α} {a : α}
    (member : a ∈ modifyFirst test change items) :
    a ∈ items ∨ ∃ b, items.find? test = some b ∧ a = change b := by
  induction items with
  | nil => cases member
  | cons head rest inductionHypothesis =>
      rw [modifyFirst] at member
      split at member
      · next hit =>
        rcases List.mem_cons.mp member with first | later
        · exact Or.inr ⟨head, List.find?_cons_of_pos hit, first⟩
        · exact Or.inl (List.mem_cons_of_mem _ later)
      · next missed =>
        rcases List.mem_cons.mp member with first | later
        · exact Or.inl (first ▸ List.mem_cons_self)
        · rw [List.find?_cons_of_neg missed]
          rcases inductionHypothesis later with kept | changed
          · exact Or.inl (List.mem_cons_of_mem _ kept)
          · exact Or.inr changed

variable {P : NodeData → Prop}

theorem patchData_preserves {patches : List NodePatch}
    (patched : ∀ patch ∈ patches, ∀ data after : NodeData,
      patch.patched? data = some after → P data → P after)
    {data after : NodeData} (applied : patchData data patches = .ok after) (before : P data) :
    P after := by
  induction patches generalizing data with
  | nil =>
      obtain rfl := Except.ok.inj applied
      exact before
  | cons patch rest inductionHypothesis =>
      rw [patchData] at applied
      cases fits : patch.patched? data with
      | none =>
          rw [fits] at applied
          cases applied
      | some next =>
          rw [fits] at applied
          exact inductionHypothesis
            (fun other member => patched other (List.mem_cons_of_mem _ member)) applied
            (patched patch List.mem_cons_self data next fits before)

/-- What empty data have and the patches of an edit keep, the nodes of a graph keep. -/
theorem edit_preserves (fresh : ∀ kind, P (.empty kind)) {e : Edit}
    (patched : ∀ patch ∈ e.patches, ∀ data after : NodeData,
      patch.patched? data = some after → P data → P after)
    {g : Graph} (before : ∀ n ∈ g.nodes, P n.data) :
    ∀ n ∈ (g.edit e).nodes, P n.data := by
  intro n member
  cases e with
  | addNode kind position =>
      rcases List.mem_append.mp member with old | new
      · exact before n old
      · obtain rfl := List.mem_singleton.mp new
        exact fresh kind
  | removeNode id =>
      simp only [edit, removeNode] at member
      split at member
      · exact before n (List.mem_of_mem_eraseP member)
      · exact before n member
  | connect source target => exact before n member
  | disconnect id => exact before n member
  | updateNode id patches =>
      simp only [edit, updateNode] at member
      split at member
      · exact before n member
      · next found node =>
        split at member
        · exact before n member
        · next data applied =>
          rcases mem_modifyFirst member with old | ⟨changed, first, rfl⟩
          · exact before n old
          · have data := before found (List.mem_of_find?_eq_some node)
            exact patchData_preserves patched applied data
  | moveNode id position =>
      simp only [edit, moveNode] at member
      split at member
      · exact before n member
      · rcases mem_modifyFirst member with old | ⟨moved, first, rfl⟩
        · exact before n old
        · exact before moved (List.mem_of_find?_eq_some first)

end Graph

end Workflow
