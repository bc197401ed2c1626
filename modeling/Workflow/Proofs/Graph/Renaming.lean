import Workflow.Proofs.Graph.ChainOrder

namespace Workflow

/-!
# Graphs under other ids

Ids are there to be compared with each other.  When each id in a graph is replaced by another one,
in the nodes and at the ends of the edges, and different ids stay different, then an end names the
same position as before, or still none.  So the links are the same, and with them what is reached
from where and how the walk along the edges goes.

The renamed graph has as many nodes as the graph, but its positions are of another type.  Links are
carried over to it position by position, and nothing that is found from links depends on that.
-/

/-- The node under another id. -/
def Node.rename (r : String → String) (n : Node) : Node := { n with id := r n.id }

/-- The edge between the same nodes under other ids. -/
def Edge.rename (r : String → String) (e : Edge) : Edge :=
  { e with source := r e.source, target := r e.target }

/-! ## Positions of another type -/

namespace Adjacency

variable {n m : Nat}

/-- A link between the same positions. -/
def carry (same : n = m) (link : Fin n × Fin n) : Fin m × Fin m :=
  (link.1.cast same, link.2.cast same)

theorem touches_carry (same : n = m) (links : List (Fin n × Fin n)) (i : Nat) :
    touches (links.map (carry same)) i = touches links i := by
  unfold touches
  rw [List.any_map]
  rfl

theorem reachedFrom_carry (same : n = m) (links : List (Fin n × Fin n)) (start : Nat) :
    (reachedFrom (links.map (carry same)) start).toList = (reachedFrom links start).toList := by
  subst same
  have still : carry (rfl : n = n) = id := rfl
  rw [still, List.map_id]

theorem walk_carry (same : n = m) (links : List (Fin n × Fin n)) (start : Fin n) :
    walk (links.map (carry same)) (List.finRange m) (start.cast same) =
      (walk links (List.finRange n) start).map (List.map (Fin.cast same)) := by
  subst same
  have still : carry (rfl : n = n) = id := rfl
  have stays : Fin.cast (rfl : n = n) = id := rfl
  rw [still, stays, List.map_id, List.map_id_fun, Option.map_id]
  rfl

end Adjacency

namespace Graph

variable {g : Graph} {r : String → String}

/-- The graph with each id replaced, in the nodes and at the ends of the edges. -/
def rename (r : String → String) (g : Graph) : Graph :=
  ⟨g.nodes.map (Node.rename r), g.edges.map (Edge.rename r)⟩

/-- The ids that nodes have or edges name. -/
def names (g : Graph) : List String :=
  g.nodes.map Node.id ++ g.edges.flatMap fun e => [e.source, e.target]

/-- Different ids of the graph stay different. -/
def Distinguishes (r : String → String) (g : Graph) : Prop :=
  ∀ a ∈ g.names, ∀ b ∈ g.names, r a = r b → a = b

instance (r : String → String) (g : Graph) : Decidable (g.Distinguishes r) :=
  inferInstanceAs (Decidable (∀ a ∈ g.names, ∀ b ∈ g.names, r a = r b → a = b))

theorem distinguishes_of_injective (injective : Function.Injective r) (g : Graph) :
    g.Distinguishes r := fun _ _ _ _ same => injective same

theorem id_mem_names (i : Fin g.nodes.length) : (g.nodes.get i).id ∈ g.names :=
  List.mem_append_left _ (List.mem_map_of_mem (List.get_mem _ _))

theorem source_mem_names {e : Edge} (member : e ∈ g.edges) : e.source ∈ g.names :=
  List.mem_append_right _ (List.mem_flatMap.mpr ⟨e, member, List.mem_cons_self⟩)

theorem target_mem_names {e : Edge} (member : e ∈ g.edges) : e.target ∈ g.names :=
  List.mem_append_right _
    (List.mem_flatMap.mpr ⟨e, member, List.mem_cons_of_mem _ List.mem_cons_self⟩)

theorem length_rename (r : String → String) (g : Graph) :
    (g.rename r).nodes.length = g.nodes.length := List.length_map _

/-- The position in the renamed graph. -/
def place (r : String → String) {g : Graph} (i : Fin g.nodes.length) :
    Fin (g.rename r).nodes.length := i.cast (length_rename r g).symm

theorem get_place (i : Fin g.nodes.length) :
    (g.rename r).nodes.get (place r i) = (g.nodes.get i).rename r :=
  List.getElem_map (Node.rename r)

theorem exists_place (k : Fin (g.rename r).nodes.length) : ∃ i, place r i = k :=
  ⟨k.cast (length_rename r g), rfl⟩

/-! ## What ends name -/

theorem names_place_iff (distinct : g.Distinguishes r) {id : String} (used : id ∈ g.names)
    {i : Fin g.nodes.length} : (g.rename r).Names (r id) (place r i) ↔ g.Names id i := by
  have same (j : Fin g.nodes.length) :
      ((g.rename r).nodes.get (place r j)).id = r id ↔ (g.nodes.get j).id = id := by
    rw [get_place]
    exact ⟨distinct _ (id_mem_names j) _ used, congrArg r⟩
  unfold Names
  rw [same i]
  apply and_congr_right
  intro _
  constructor
  · intro last j later
    exact (same j).not.mp (last (place r j) later)
  · intro last k later
    rcases exists_place k with ⟨j, rfl⟩
    exact (same j).not.mpr (last j later)

theorem resolve_rename (distinct : g.Distinguishes r) {id : String} (used : id ∈ g.names) :
    (g.rename r).resolve (r id) = (g.resolve id).map (place r) := by
  ext k
  rcases exists_place k with ⟨i, rfl⟩
  rw [resolve_eq_some_iff, names_place_iff distinct used, ← resolve_eq_some_iff,
    Option.map_eq_some_iff]
  constructor
  · intro found
    exact ⟨i, found, rfl⟩
  · rintro ⟨j, found, moved⟩
    rw [found, Fin.cast_injective _ moved]

theorem links_rename (distinct : g.Distinguishes r) :
    (g.rename r).links = g.links.map (Adjacency.carry (length_rename r g).symm) := by
  unfold links
  rw [List.map_filterMap]
  change (g.edges.map (Edge.rename r)).filterMap _ = _
  rw [List.filterMap_map]
  apply List.filterMap_congr
  intro e member
  have source := resolve_rename distinct (source_mem_names member)
  have target := resolve_rename distinct (target_mem_names member)
  dsimp only [Function.comp_apply, Edge.rename]
  rw [source, target]
  cases g.resolve e.source with
  | none => rfl
  | some s => cases g.resolve e.target <;> rfl

theorem touches_rename (distinct : g.Distinguishes r) (i : Nat) :
    Adjacency.touches (g.rename r).links i = Adjacency.touches g.links i := by
  rw [links_rename distinct, Adjacency.touches_carry]

theorem reachedFrom_rename (distinct : g.Distinguishes r) (start : Nat) :
    (g.rename r).reachedFrom start = g.reachedFrom start := by
  unfold reachedFrom
  rw [links_rename distinct, Adjacency.reachedFrom_carry]

/-! ## The order along the edges -/

theorem firstTrigger_rename (r : String → String) (g : Graph) :
    (g.rename r).firstTrigger = g.firstTrigger.map (place r) := by
  have kind (j : Fin g.nodes.length) :
      ((g.rename r).nodes.get (place r j)).kind = (g.nodes.get j).kind := by
    rw [get_place]
    rfl
  ext k
  rcases exists_place k with ⟨i, rfl⟩
  rw [firstTrigger_eq_some_iff, kind, Option.map_eq_some_iff]
  constructor
  · rintro ⟨trigger, first⟩
    refine ⟨i, firstTrigger_eq_some_iff.mpr ⟨trigger, fun j earlier => ?_⟩, rfl⟩
    rw [← kind]
    exact first (place r j) earlier
  · rintro ⟨j, found, moved⟩
    obtain rfl := Fin.cast_injective _ moved
    rcases firstTrigger_eq_some_iff.mp found with ⟨trigger, first⟩
    refine ⟨trigger, fun k earlier => ?_⟩
    rcases exists_place k with ⟨l, rfl⟩
    rw [kind]
    exact first l earlier

theorem actionIds_rename (r : String → String) (path : List (Fin g.nodes.length)) :
    (g.rename r).actionIds (path.map (place r)) = (g.actionIds path).map r := by
  unfold actionIds
  rw [List.filter_map, List.map_map, List.map_map]
  have kinds : (fun i => ((g.rename r).nodes.get i).kind == .action) ∘ place r =
      fun i => (g.nodes.get i).kind == .action := by
    funext i
    rw [Function.comp_apply, get_place]
    rfl
  have ids : (fun i => ((g.rename r).nodes.get i).id) ∘ place r =
      r ∘ fun i => (g.nodes.get i).id := by
    funext i
    rw [Function.comp_apply, get_place]
    rfl
  rw [kinds, ids]

theorem length_nodesOfKind_rename (r : String → String) (g : Graph) (kind : NodeKind) :
    ((g.rename r).nodesOfKind kind).length = (g.nodesOfKind kind).length := by
  unfold nodesOfKind rename
  rw [List.filter_map, List.length_map]
  rfl

/-- The order along the edges, if the walk has met every action. -/
theorem chainOrder_eq (g : Graph) :
    g.chainOrder = (g.firstTrigger.bind fun first =>
      Adjacency.walk g.links (List.finRange g.nodes.length) first).bind fun path =>
        if (g.actionIds path).length = (g.nodesOfKind .action).length then some (g.actionIds path)
        else none := by
  unfold chainOrder
  cases g.firstTrigger <;> rfl

theorem chainOrder_rename (distinct : g.Distinguishes r) :
    (g.rename r).chainOrder = g.chainOrder.map (List.map r) := by
  rw [chainOrder_eq, chainOrder_eq, firstTrigger_rename, links_rename distinct]
  cases g.firstTrigger with
  | none => rfl
  | some first =>
      have walked := Adjacency.walk_carry (length_rename r g).symm g.links first
      rw [Option.map_some, Option.bind_some, Option.bind_some]
      change (Adjacency.walk _ _ (first.cast _)).bind _ = _
      rw [walked]
      cases Adjacency.walk g.links (List.finRange g.nodes.length) first with
      | none => rfl
      | some path =>
          have ids := actionIds_rename r path
          rw [Option.map_some, Option.bind_some, Option.bind_some]
          change (if ((g.rename r).actionIds (path.map (place r))).length = _ then
            some ((g.rename r).actionIds (path.map (place r))) else none) = _
          rw [ids, List.length_map, length_nodesOfKind_rename]
          split <;> rfl

end Graph

end Workflow
