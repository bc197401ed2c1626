import Workflow.Proofs.Definition.Stored

namespace Workflow

/-!
# Reading definitions and records that were written

A definition is read back as it was, but for the version, which is never written.  A record puts the
members of its definition among its own, and reads them back apart; lists of nodes and edges that
are missing are left out, so that they are told from empty ones.
-/

open Decoder

variable (medium : Medium)

/-- The definition as it is sent, without the version that the backend gave it. -/
def Definition.unversioned (d : Definition) : Definition := { d with version := none }

theorem Definition.decoder_toJson (d : Definition) :
    Definition.decoder medium (.value d.toJson) = .ok d.unversioned := by
  unfold Definition.decoder Definition.toJson Definition.members
  rw [group_value]
  simp [fieldGroup, once, required, list_actions, unversioned, Except.map, bind,
    Except.bind, pure, Except.pure]

namespace Record

/-- The record with its definition as it is sent. -/
def unversioned (r : Record) : Record := { r with definition := r.definition.unversioned }

theorem decoder_toJson (r : Record) :
    Record.decoder medium (.value r.toJson) = .ok r.unversioned := by
  rcases r with ⟨id, active, definition, nodes, edges⟩
  have readNodes : ∀ nodes : List LooseNode, nullable (list LooseNode.decoder) medium
      (.value (.array (nodes.map LooseNode.toJson))) = .ok (some nodes) :=
    fun _ => nullable_list medium fun n _ => LooseNode.decoder_toJson medium n
  have readEdges : ∀ edges : List Edge, nullable (list Edge.decoder) medium
      (.value (.array (edges.map Edge.toJson))) = .ok (some edges) :=
    fun _ => nullable_list medium fun e _ => Edge.decoder_toJson medium e
  -- The members that are not the record's own are handed on as an object that was read.
  have handed : Decoder.members Definition.fieldGroup .memory (.object
      (definition.members.map fun entry => (some entry.1, .value entry.2)) true) =
        .ok definition.unversioned := definition.decoder_toJson .memory
  simp only [Definition.members, List.map_cons, List.map_nil] at handed
  unfold Record.decoder Record.fieldGroup Record.toJson
  rw [members_value]
  rcases nodes with _ | nodes
  all_goals
    rcases edges with _ | edges
    all_goals
      simp [once, required, readNodes, readEdges, handed, optionalMember, Definition.members,
        unversioned, Except.map, bind, Except.bind, pure, Except.pure]

end Record

end Workflow
