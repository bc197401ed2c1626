import Workflow.Graph.Loose

namespace Workflow

/-!
# Graphs as JSON

A graph is read node by node: each node is read in the editor's format and its type is looked at
before the next node.  It is written in the same format.
-/

open Decoder

/-- What a decoder says of a node whose type is no kind. -/
def GraphError.toDecodeError : GraphError → DecodeError
  | .unknownKind name => .unknownNodeKind name
  | _ => .malformed

/-- A node, its type one of the three kinds. -/
def Node.decoder : Decoder Node :=
  andThen LooseNode.decoder fun raw => raw.toNode.mapError GraphError.toDecodeError

/-- A graph. -/
def Graph.decoder : Decoder Graph := graphDecoder Node.decoder .mk

/-- A node in the editor's format. -/
def Node.toJson (n : Node) : Json := n.toLoose.toJson

/-- The members of a graph's object. -/
def Graph.members (g : Graph) : List (String × Json) :=
  [("nodes", .array (g.nodes.map Node.toJson)), ("edges", .array (g.edges.map Edge.toJson))]

/-- A graph in the editor's format. -/
def Graph.toJson (g : Graph) : Json := .object g.members

end Workflow
