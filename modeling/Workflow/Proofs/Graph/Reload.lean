import Workflow.Proofs.Graph.Reading
import Workflow.Proofs.Json.TextDecoding

namespace Workflow

/-!
# Graphs that are written and read again

Writing a graph as a value and reading the value never changes a graph that was read, or that was
edited from one that was read.  A text between the two is not quite as harmless: the reader can miss
a double by a unit in the last place, and then the graph that comes back has moved.  This is all
that a text can do to a graph that was read from one.  A graph whose doubles read back is read back
from its text, and one with a double that does not need not be.
-/

open Decoder

/-! ## Parts of a graph, as texts -/

theorem Position.alike_decoder (p : Position) : Alike Position.decoder p.toJson := by
  refine alike_group fun m member medium state => ?_
  simp only [List.mem_cons, List.not_mem_nil, or_false] at member
  rcases member with rfl | rfl
  · rfl
  · rfl

theorem Edge.alike_decoder (e : Edge) : Alike Edge.decoder e.toJson := by
  refine alike_group fun m member medium state => ?_
  simp only [List.mem_cons, List.not_mem_nil, or_false] at member
  rcases member with rfl | rfl | rfl
  · rfl
  · rfl
  · rfl

theorem exists_of_mem_optionalMember {α : Type} {key : String} {encode : α → Json}
    {slot : Option α} {m : String × Json} (member : m ∈ optionalMember key encode slot) :
    ∃ a ∈ slot.toList, m = (key, encode a) := by
  cases slot with
  | none => cases member
  | some a => exact ⟨a, List.mem_singleton_self a, List.mem_singleton.mp member⟩

/-- The members of written data: texts, and the objects. -/
theorem LooseData.exists_of_mem_members {d : LooseData} {m : String × Json}
    (member : m ∈ ("label", Json.string d.label) ::
      (optionalMember "triggerType" .string d.triggerType ++
        optionalMember "actionType" .string d.actionType ++
        optionalMember "config" .ofObject d.config ++
        optionalMember "condition" .ofObject d.condition)) :
    (∃ s, m.2 = .string s) ∨
      ∃ o ∈ d.objects, m = ("config", .ofObject o) ∨ m = ("condition", .ofObject o) := by
  simp only [List.mem_cons, List.mem_append] at member
  rcases member with rfl | ((trigger | action) | config) | condition
  · exact .inl ⟨d.label, rfl⟩
  · rcases exists_of_mem_optionalMember trigger with ⟨type, _, rfl⟩
    exact .inl ⟨type, rfl⟩
  · rcases exists_of_mem_optionalMember action with ⟨type, _, rfl⟩
    exact .inl ⟨type, rfl⟩
  · rcases exists_of_mem_optionalMember config with ⟨o, found, rfl⟩
    exact .inr ⟨o, List.mem_append_left _ found, .inl rfl⟩
  · rcases exists_of_mem_optionalMember condition with ⟨o, found, rfl⟩
    exact .inr ⟨o, List.mem_append_right _ found, .inr rfl⟩

theorem LooseData.alike_decoder {room : Nat} {d : LooseData}
    (readable : ∀ o ∈ d.objects, (Json.ofObject o).Readable room) :
    Alike LooseData.decoder d.toJson := by
  refine alike_group fun m member medium state => ?_
  rcases exists_of_mem_members member with ⟨s, text⟩ | ⟨o, inside, object⟩
  · rw [text]
    rfl
  · have alike := alike_nullable (alike_object (readable o inside)) medium
    rcases object with rfl | rfl
    · simp [alike]
    · simp [alike]

theorem LooseNode.alike_decoder {room : Nat} {n : LooseNode}
    (readable : ∀ o ∈ n.data.objects, (Json.ofObject o).Readable room) :
    Alike LooseNode.decoder n.toJson := by
  refine alike_group fun m member medium state => ?_
  simp only [List.mem_cons, List.not_mem_nil, or_false] at member
  rcases member with rfl | rfl | rfl | rfl
  · rfl
  · rfl
  · simp [n.position.alike_decoder medium]
  · simp [LooseData.alike_decoder readable medium]

/-- The doubles of a node: its coordinates, and those in its data. -/
def Node.doubles (n : Node) : List Double :=
  n.position.x :: n.position.y :: n.data.objects.flatMap fun o => (Json.ofObject o).doubles

theorem Node.legible_toJson {room : Nat} {n : Node}
    (readable : ∀ o ∈ n.data.objects, (Json.ofObject o).Readable room)
    (back : ∀ d ∈ n.doubles, (Number.double d).readsBack = true) :
    n.toJson.Legible (room + 2) := by
  have position : n.position.toJson.Legible (room + 1) := by
    refine .object fun m member => ?_
    simp only [List.mem_cons, List.not_mem_nil, or_false] at member
    rcases member with rfl | rfl
    · exact .number (back _ List.mem_cons_self)
    · exact .number (back _ (List.mem_cons_of_mem _ List.mem_cons_self))
  have data : n.data.toLoose.toJson.Legible (room + 1) := by
    refine .object fun m member => ?_
    rcases LooseData.exists_of_mem_members member with ⟨s, text⟩ | ⟨o, inside, object⟩
    · rw [text]
      exact .string s
    · have legible : (Json.ofObject o).Legible room := (readable o inside).legible fun d found =>
        back d (List.mem_cons_of_mem _ (List.mem_cons_of_mem _
          (List.mem_flatMap.mpr ⟨o, inside, found⟩)))
      rcases object with rfl | rfl
      · exact legible
      · exact legible
  refine .object fun m member => ?_
  simp only [List.mem_cons, List.not_mem_nil, or_false] at member
  rcases member with rfl | rfl | rfl | rfl
  · exact .string _
  · exact .string _
  · exact position
  · exact data

theorem Edge.legible_toJson {room : Nat} (e : Edge) : e.toJson.Legible (room + 1) := by
  refine .object fun m member => ?_
  simp only [List.mem_cons, List.not_mem_nil, or_false] at member
  rcases member with rfl | rfl | rfl
  · exact .string _
  · exact .string _
  · exact .string _

namespace Graph

variable {g : Graph}

/-- The doubles of all nodes. -/
def doubles (g : Graph) : List Double := g.nodes.flatMap Node.doubles

theorem alike_decoder (readable : g.Readable) : Alike Graph.decoder g.toJson := by
  have node : ∀ item ∈ g.nodes.map Node.toJson, Alike Node.decoder item := by
    intro item member
    rcases List.mem_map.mp member with ⟨n, inside, rfl⟩
    exact alike_andThen (LooseNode.alike_decoder (n := n.toLoose) (readable n inside)) _
  have edge : ∀ item ∈ g.edges.map Edge.toJson, Alike Edge.decoder item := by
    intro item member
    rcases List.mem_map.mp member with ⟨e, _, rfl⟩
    exact e.alike_decoder
  refine alike_group fun m member medium state => ?_
  simp only [members, List.mem_cons, List.not_mem_nil, or_false] at member
  rcases member with rfl | rfl
  · simp [alike_list node medium]
  · simp [alike_list edge medium]

theorem legible_toJson (readable : g.Readable)
    (back : ∀ d ∈ g.doubles, (Number.double d).readsBack = true) :
    g.toJson.Legible Json.deepest := by
  have nodes : (Json.array (g.nodes.map Node.toJson)).Legible 126 := by
    refine .array fun item member => ?_
    rcases List.mem_map.mp member with ⟨n, inside, rfl⟩
    exact Node.legible_toJson (readable n inside) fun d found =>
      back d (List.mem_flatMap.mpr ⟨n, inside, found⟩)
  have edges : (Json.array (g.edges.map Edge.toJson)).Legible 126 := by
    refine .array fun item member => ?_
    rcases List.mem_map.mp member with ⟨e, _, rfl⟩
    exact e.legible_toJson
  refine .object fun m member => ?_
  simp only [members, List.mem_cons, List.not_mem_nil, or_false] at member
  rcases member with rfl | rfl
  · exact nodes
  · exact edges

/-- Writes a graph as a text and reads the text. -/
def reload (g : Graph) : Except DecodeError Graph := ofText decoder g.toJson.compact

/-- A graph whose doubles read back is read back from its text. -/
theorem reload_eq_self (nonempty : g.NoEmptyTypes) (readable : g.Readable)
    (back : ∀ d ∈ g.doubles, (Number.double d).readsBack = true) : g.reload = .ok g := by
  unfold reload ofText
  rw [Json.read_compact (legible_toJson readable back)]
  dsimp only
  rw [alike_decoder readable .text, decoder_toJson .text nonempty]
  rfl

/-- The graphs that were read, from a text or from a value, and those that come from them by edits
and by nodes that were read. -/
inductive Grown : Graph → Prop
  | empty : Grown .empty
  | read {medium : Medium} {source : Source} {g : Graph}
      (decoded : decoder medium source = .ok g) : Grown g
  | edited {g : Graph} (before : Grown g) (e : Edit) : Grown (g.edit e)
  | inserted {g : Graph} (before : Grown g) {medium : Medium} {source : Source} {n : Node}
      (decoded : Node.decoder medium source = .ok n) : Grown (g.insertNode n)

theorem Grown.noEmptyTypes (grown : g.Grown) : g.NoEmptyTypes := by
  induction grown with
  | empty => exact nofun
  | read decoded => exact noEmptyTypes_of_decoder decoded
  | edited before e inductionHypothesis => exact inductionHypothesis.edit e
  | inserted before decoded inductionHypothesis =>
      exact inductionHypothesis.insertNode (Node.noEmptyType_of_decoder decoded)

/-- Whatever a graph is read from, it is written as a value that is read as the same graph; so is
every graph without an empty type, and no two of these are written alike.  In particular a graph is
never changed by this that was read, or grew by edits from one that was.  With a text between
writing and reading the same holds as soon as each double in the graph reads back and the data are
such as a text can say; a graph that was read from a text has such data, and an edit that puts in
such data keeps them so. -/
theorem read_back_unchanged :
    (∀ medium source g, decoder medium source = .ok g →
      ∀ again, decoder again (.value g.toJson) = .ok g) ∧
    (∀ g : Graph, g.NoEmptyTypes → ∀ medium, decoder medium (.value g.toJson) = .ok g) ∧
    (∀ g h : Graph, g.NoEmptyTypes → h.NoEmptyTypes → g.toJson = h.toJson → g = h) ∧
    (∀ g : Graph, g.Grown → (∀ medium, decoder medium (.value g.toJson) = .ok g) ∧
      (g.Readable → (∀ d ∈ g.doubles, (Number.double d).readsBack = true) →
        g.reload = .ok g)) ∧
    (∀ text g, ofText decoder text = .ok g → g.Grown ∧ g.Readable) ∧
    (∀ (g : Graph) (e : Edit), g.Readable →
      (∀ patch ∈ e.patches, ∀ o, patch.object? = some o →
        (Json.ofObject o).Readable (Json.deepest - 4)) → (g.edit e).Readable) := by
  refine ⟨?_, ?_, ?_, ?_, ?_, ?_⟩
  · intro medium source g read again
    exact decoder_toJson again (noEmptyTypes_of_decoder read)
  · intro g nonempty medium
    exact decoder_toJson medium nonempty
  · intro g h first second same
    have read := decoder_toJson .memory first
    rw [same, decoder_toJson .memory second] at read
    exact (Except.ok.inj read).symm
  · intro g grown
    refine ⟨fun medium => decoder_toJson medium grown.noEmptyTypes, fun readable back => ?_⟩
    exact reload_eq_self grown.noEmptyTypes readable back
  · intro text g read
    have decoded := root_of_ofText read
    exact ⟨.read decoded, readable_of_decoder decoded (Json.within_read text)⟩
  · intro g e readable said
    exact readable.edit said

/-- A graph with an older spelling, an empty type, an integer as a coordinate and data. -/
def plainText : String :=
  "\x7b\"nodes\":[\x7b\"id\":\"a\",\"type\":\"action\",\"position\":\x7b\"x\":250,\"y\":0.5\x7d," ++
  "\"data\":\x7b\"action_type\":\"\",\"config\":\x7b\"to\":[1,0.25,null]\x7d\x7d\x7d]\x7d"

/-- The graph of such a text is read back from its value and from its text, before and after a
node is added. -/
theorem read_back_unchanged_plain :
    ∃ g, ofText decoder plainText = .ok g ∧
      decoder .memory (.value g.toJson) = .ok g ∧
      (∀ h : Graph, h.NoEmptyTypes → g.toJson = h.toJson → g = h) ∧ g.reload = .ok g ∧
      (g.edit (.addNode .trigger .origin)).reload = .ok (g.edit (.addNode .trigger .origin)) := by
  have evaluated : (ofText decoder plainText).toOption.map (fun g =>
      (g.edit (.addNode .trigger .origin)).doubles.all fun d => (Number.double d).readsBack) =
        some true := by
    decide +kernel
  rcases Option.map_eq_some_iff.mp evaluated with ⟨g, found, back⟩
  have read : ofText decoder plainText = .ok g := by
    cases result : ofText decoder plainText with
    | error problem =>
        rw [result] at found
        cases found
    | ok other =>
        rw [result] at found
        exact congrArg Except.ok (Option.some.inj found)
  rcases read_back_unchanged with ⟨values, nonempty, injective, grown, texts, edits⟩
  have ⟨came, readable⟩ := texts plainText g read
  have more : (g.edit (.addNode .trigger .origin)).Readable :=
    edits g (.addNode .trigger .origin) readable nofun
  have each : ∀ d ∈ (g.edit (.addNode .trigger .origin)).doubles,
      (Number.double d).readsBack = true := List.all_eq_true.mp back
  have earlier : ∀ d ∈ g.doubles, d ∈ (g.edit (.addNode .trigger .origin)).doubles := by
    intro d member
    rcases List.mem_flatMap.mp member with ⟨n, inside, own⟩
    exact List.mem_flatMap.mpr ⟨n, List.mem_append_left _ inside, own⟩
  refine ⟨g, read, values .text _ g (root_of_ofText read) .memory, ?_, ?_, ?_⟩
  · exact fun h other same => injective g h came.noEmptyTypes other same
  · exact (grown g came).2 readable fun d member => each d (earlier d member)
  · exact (grown _ (came.edited _)).2 more each

/-- A node at nine times ten to the minus sixty-ninth. -/
def tinyText : String :=
  "\x7b\"nodes\":[\x7b\"id\":\"a\",\"type\":\"action\",\"position\":\x7b\"x\":9e-69,\"y\":0\x7d\x7d]\x7d"

/-- The text of a graph that was read from a text can be read as another graph. -/
theorem reload_moves_node :
    let positions := fun read : Except DecodeError Graph =>
      read.toOption.map fun g => g.nodes.map Node.position
    let read := ofText decoder tinyText
    (positions (read >>= reload)).isSome = true ∧ positions (read >>= reload) ≠ positions read := by
  decide +kernel

end Graph

end Workflow
