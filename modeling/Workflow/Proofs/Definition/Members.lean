import Workflow.Definition.Record
import Workflow.Proofs.Graph.Members

namespace Workflow

/-!
# What definitions and records say

An action, a definition, a record and an answer to saving are defined here by their members.  A
record has those of its definition among its own, and whatever else is among them must have a value.

The decoder of a record reads its own members first, puts the others aside, and reads the definition
from these afterwards.  That comes to the same: the names of both are different, so that each member
is found by the one that asks for it.
-/

open Decoder

namespace Source

/-- An action needs a type. -/
def IsAction (root : Source) (a : ActionStep) : Prop :=
  ∃ entries, root.Lists [["type"], ["config"], ["description"]] entries ∧
    Says IsText (under ["type"] entries) a.type ∧
    OrElse IsObject .empty (under ["config"] entries) a.config ∧
    OrElse IsNullableText "" (under ["description"] entries) a.description

/-- The source is a version, which has 64 bits. -/
def IsVersion : Source → Int → Prop := IsInteger (-Int.pow 2 63) (Int.pow 2 63)

/-- The members of a definition are among some entries. -/
def SaysDefinition (entries : List (String × Source)) (d : Definition) : Prop :=
  Says IsText (under ["name"] entries) d.name ∧
  OrElse IsNullableText "" (under ["description"] entries) d.description ∧
  Says IsText (under ["triggerType"] entries) d.triggerType ∧
  OrElse IsObject .empty (under ["triggerConfig"] entries) d.triggerConfig ∧
  OrElse IsObject .empty (under ["conditions"] entries) d.conditions ∧
  OrElse (IsList IsAction) [] (under ["actions"] entries) d.actions ∧
  MaySay IsVersion (under ["version"] entries) d.version

/-- A record is an object, all of whose other members have values. -/
def IsRecord (root : Source) (r : Record) : Prop :=
  ∃ entries : List (String × Source),
    root.members? = some (entries.map fun m => (some m.1, m.2), true) ∧
    (∀ m ∈ entries, m.1 ∉ ["id", "isActive", "nodes", "edges"] → ∃ v, m.2.IsValue v) ∧
    Says IsId (under ["id"] entries) r.id ∧
    OrElse IsFlag false (under ["isActive"] entries) r.isActive ∧
    MaySay (IsList IsLooseNode) (under ["nodes"] entries) r.nodes ∧
    MaySay (IsList IsEdge) (under ["edges"] entries) r.edges ∧
    SaysDefinition entries r.definition

/-- An answer to saving needs an id. -/
def IsSaved (root : Source) (saved : Saved) : Prop :=
  ∃ entries, root.Lists [["id"], ["version"]] entries ∧
    Says IsId (under ["id"] entries) saved.id ∧
    MaySay IsVersion (under ["version"] entries) saved.version

end Source

open Source

variable {medium : Medium} {root : Source}

/-! ## Actions -/

/-- The fields of an action. -/
def actionStepFields : List (GroupField ActionStepFields ActionStep) :=
  [.needed ["type"] string (·.type) (fun fields type => { fields with type }) (fun _ _ => rfl)
      ActionStep.type,
    .spared ["config"] object (·.config) (fun fields config => { fields with config })
      (fun _ _ => rfl) ActionStep.config .empty,
    .spared ["description"] nullableString (·.description)
      (fun fields description => { fields with description }) (fun _ _ => rfl)
      ActionStep.description ""]

theorem hasFields_actionStep : ActionStep.decoder.HasFields actionStepFields := by
  refine ⟨_, rfl, rfl, rfl, ⟨rfl, rfl, rfl⟩, ?visit, ?apart, ?state, ?finish⟩
  case visit =>
    intro medium state key source
    simp only [actionStepFields, GroupField.needed, GroupField.spared, visitField_cons,
      visitField_nil, List.mem_singleton]
    rfl
  case apart =>
    simp [actionStepFields, GroupField.needed, GroupField.spared, GroupField.apart_iff]
  case state =>
    rintro ⟨_, _⟩ ⟨_, _⟩ same
    rwa [ActionStepFields.mk.injEq]
  case finish =>
    rintro absent ⟨_, _⟩ ⟨_, _⟩
    simp only [bind_eq_ok_iff, required_eq_ok_iff]
    simp [actionStepFields, GroupField.needed, GroupField.spared, pure, Except.pure]

theorem ActionStep.decoder_eq_ok_iff {a : ActionStep} :
    ActionStep.decoder medium root = .ok a ↔ root.IsAction a := by
  refine hasFields_actionStep.eq_ok_iff fun entries => ?_
  exact and_congr (GroupField.means_needed_iff fun _ _ => string_eq_ok_iff) <|
    and_congr (GroupField.means_spared_iff fun _ _ => object_eq_ok_iff)
      (GroupField.means_spared_iff fun _ _ => nullableString_eq_ok_iff)

/-! ## Definitions -/

theorem versionDecoder_eq_ok_iff {version : Option Int} :
    versionDecoder medium root = .ok version ↔ NullOr IsVersion root version :=
  nullable_eq_ok_iff (fun _ _ _ => integer_eq_ok_iff) fun _ said => by cases said.1

/-- The fields of a definition. -/
def definitionFields : List (GroupField DefinitionFields Definition) :=
  [.needed ["name"] string (·.name) (fun fields name => { fields with name }) (fun _ _ => rfl)
      Definition.name,
    .spared ["description"] nullableString (·.description)
      (fun fields description => { fields with description }) (fun _ _ => rfl)
      Definition.description "",
    .needed ["triggerType"] string (·.triggerType)
      (fun fields triggerType => { fields with triggerType }) (fun _ _ => rfl)
      Definition.triggerType,
    .spared ["triggerConfig"] object (·.triggerConfig)
      (fun fields triggerConfig => { fields with triggerConfig }) (fun _ _ => rfl)
      Definition.triggerConfig .empty,
    .spared ["conditions"] object (·.conditions)
      (fun fields conditions => { fields with conditions }) (fun _ _ => rfl)
      Definition.conditions .empty,
    .spared ["actions"] (list ActionStep.decoder) (·.actions)
      (fun fields actions => { fields with actions }) (fun _ _ => rfl) Definition.actions [],
    .spared ["version"] versionDecoder (·.version) (fun fields version => { fields with version })
      (fun _ _ => rfl) Definition.version none]

theorem hasFields_definition : Definition.fieldGroup.HasFields definitionFields := by
  refine ⟨rfl, rfl, ⟨rfl, rfl, rfl, rfl, rfl, rfl, rfl⟩, ?visit, ?apart, ?state, ?finish⟩
  case visit =>
    intro medium state key source
    simp only [definitionFields, GroupField.needed, GroupField.spared, visitField_cons,
      visitField_nil, List.mem_singleton]
    rfl
  case apart =>
    simp [definitionFields, GroupField.needed, GroupField.spared, GroupField.apart_iff]
  case state =>
    rintro ⟨_, _⟩ ⟨_, _⟩ same
    rwa [DefinitionFields.mk.injEq]
  case finish =>
    rintro absent ⟨_, _⟩ ⟨_, _⟩
    simp only [Definition.fieldGroup, bind_eq_ok_iff, required_eq_ok_iff]
    simp [definitionFields, GroupField.needed, GroupField.spared, and_left_comm, pure, Except.pure]

theorem means_definition_iff {entries : List (String × Source)} {d : Definition} :
    definitionFields.Forall (fun f => f.Means medium (under f.names entries) d) ↔
      SaysDefinition entries d :=
  and_congr (GroupField.means_needed_iff fun _ _ => string_eq_ok_iff) <|
    and_congr (GroupField.means_spared_iff fun _ _ => nullableString_eq_ok_iff) <|
    and_congr (GroupField.means_needed_iff fun _ _ => string_eq_ok_iff) <|
    and_congr (GroupField.means_spared_iff fun _ _ => object_eq_ok_iff) <|
    and_congr (GroupField.means_spared_iff fun _ _ => object_eq_ok_iff) <|
    and_congr (GroupField.means_spared_iff fun _ _ =>
      list_eq_ok_iff fun _ _ => ActionStep.decoder_eq_ok_iff)
      (GroupField.means_spared_iff fun _ _ => versionDecoder_eq_ok_iff)

/-! ## Records -/

/-- The names that are a record's own. -/
def Record.names : List String := ["id", "isActive", "nodes", "edges"]

/-- The entries for the definition of a record, which are those that are not its own. -/
def Record.others (entries : List (String × Source)) : List (String × Source) :=
  entries.filter fun m => m.1 ∉ names

/-- What visits to some entries make of the fields of a record. -/
@[mk_iff]
structure RecordFields.Visited (before : RecordFields) (entries : List (String × Source))
    (after : RecordFields) : Prop where
  values : ∀ m ∈ Record.others entries, ∃ v, m.2.IsValue v
  id : Takes IsId before.id (under ["id"] entries) after.id
  isActive : Takes IsFlag before.isActive (under ["isActive"] entries) after.isActive
  nodes : Takes (NullOr (IsList IsLooseNode)) before.nodes (under ["nodes"] entries) after.nodes
  edges : Takes (NullOr (IsList IsEdge)) before.edges (under ["edges"] entries) after.edges
  rest : before.rest ++ (Record.others entries).map (fun m => (some m.1, m.2)) = after.rest

namespace Record

theorem nodes_eq_ok_iff {source : Source} {nodes : Option (List LooseNode)} :
    nullable (list LooseNode.decoder) medium source = .ok nodes ↔
      NullOr (IsList IsLooseNode) source nodes :=
  nullable_list_eq_ok_iff fun _ _ => LooseNode.decoder_eq_ok_iff

theorem edges_eq_ok_iff {source : Source} {edges : Option (List Edge)} :
    nullable (list Edge.decoder) medium source = .ok edges ↔ NullOr (IsList IsEdge) source edges :=
  nullable_list_eq_ok_iff fun _ _ => Edge.decoder_eq_ok_iff

theorem visit_eq_ok_iff {before after : RecordFields} {key : String} {source : Source} :
    fieldGroup.visit medium before key source = .ok after ↔
      before.Visited [(key, source)] after := by
  rcases before with ⟨_, _, _, _, _⟩
  rcases after with ⟨_, _, _, _, _⟩
  rw [RecordFields.visited_iff]
  by_cases id : key = "id"
  · subst id
    simp [fieldGroup, map_once_eq_ok_iff_takes, id_eq_ok_iff, others, names, under, takes_nil_iff]
  by_cases isActive : key = "isActive"
  · subst isActive
    simp [fieldGroup, map_once_eq_ok_iff_takes, bool_eq_ok_iff, others, names, under,
      takes_nil_iff, and_left_comm]
  by_cases nodes : key = "nodes"
  · subst nodes
    simp [fieldGroup, map_once_eq_ok_iff_takes, nodes_eq_ok_iff, others, names, under,
      takes_nil_iff, and_left_comm]
  by_cases edges : key = "edges"
  · subst edges
    simp [fieldGroup, map_once_eq_ok_iff_takes, edges_eq_ok_iff, others, names, under,
      takes_nil_iff, and_left_comm]
  · simp [fieldGroup, map_eq_ok_iff, others, names, under, takes_nil_iff, id, isActive, nodes,
      edges, any_eq_ok_iff]

/-- The visits of a record to some entries, one after the other. -/
theorem visits_eq_ok_iff {before after : RecordFields} {entries : List (String × Source)} :
    entries.foldlM (visitItem fieldGroup medium) before = .ok after ↔
      before.Visited entries after := by
  induction entries generalizing before with
  | nil =>
      rcases before with ⟨_, _, _, _, _⟩
      rcases after with ⟨_, _, _, _, _⟩
      simp [RecordFields.visited_iff, others, under, takes_nil_iff, pure, Except.pure]
  | cons m rest inductionHypothesis =>
      have split : others (m :: rest) = others [m] ++ others rest := by
        rw [← List.singleton_append]
        exact List.filter_append ..
      rw [List.foldlM_cons]
      constructor
      · intro done
        rcases exists_of_bind_eq_ok done with ⟨next, visited, later⟩
        have first := visit_eq_ok_iff.mp visited
        have second := inductionHypothesis.mp later
        rw [RecordFields.visited_iff]
        simp only [split, under_cons m rest, List.map_append, ← List.append_assoc,
          takes_append_iff, List.forall_mem_append]
        exact ⟨⟨first.values, second.values⟩, ⟨_, first.id, second.id⟩,
          ⟨_, first.isActive, second.isActive⟩, ⟨_, first.nodes, second.nodes⟩,
          ⟨_, first.edges, second.edges⟩, first.rest ▸ second.rest⟩
      · intro visited
        rw [RecordFields.visited_iff] at visited
        simp only [split, under_cons m rest, List.map_append, ← List.append_assoc,
          takes_append_iff, List.forall_mem_append] at visited
        rcases visited with ⟨⟨own, values⟩, ⟨id, firstId, secondId⟩,
          ⟨isActive, firstActive, secondActive⟩, ⟨nodes, firstNodes, secondNodes⟩,
          ⟨edges, firstEdges, secondEdges⟩, gathered⟩
        have first : visitItem fieldGroup medium before m = .ok ⟨id, isActive, nodes, edges, _⟩ :=
          visit_eq_ok_iff.mpr ⟨own, firstId, firstActive, firstNodes, firstEdges, rfl⟩
        rw [first]
        exact inductionHypothesis.mpr
          ⟨values, secondId, secondActive, secondNodes, secondEdges, gathered⟩

theorem under_others {keys : List String} (foreign : ∀ key ∈ keys, key ∉ names)
    (entries : List (String × Source)) : under keys (others entries) = under keys entries := by
  rw [under, others, List.filterMap_filter]
  refine List.filterMap_congr fun m _ => ?_
  by_cases named : m.1 ∈ keys
  · rw [if_pos (decide_eq_true (foreign m.1 named))]
  · rw [if_neg named, ite_self]

/-- A definition does not notice what is a record's own. -/
theorem saysDefinition_others {entries : List (String × Source)} {d : Definition} :
    SaysDefinition (others entries) d ↔ SaysDefinition entries d := by
  unfold SaysDefinition
  simp (disch := decide) only [under_others]

/-- The definition of a record is read from the other entries, which have values. -/
theorem definition_eq_ok_iff {entries : List (String × Source)}
    (values : ∀ m ∈ others entries, ∃ v, m.2.IsValue v) {d : Definition} :
    members Definition.fieldGroup .memory
        (.object ((others entries).map fun m => (some m.1, m.2)) true) = .ok d ↔
      SaysDefinition entries d := by
  have injective : Function.Injective fun m : String × Source => (some m.1, m.2) := by
    rintro ⟨_, _⟩ ⟨_, _⟩ same
    rcases Prod.mk.inj same with ⟨keys, sources⟩
    exact Prod.ext (Option.some.inj keys) sources
  have grammatical : ∀ m ∈ others entries, m.2.grammatical = true := by
    intro m member
    rcases values m member with ⟨v, said⟩
    exact grammatical_of_toJson? said
  have means_iff : (definitionFields.Forall fun f => f.Means .memory (under f.names (others entries))
      d) ↔ SaysDefinition entries d := means_definition_iff.trans saysDefinition_others
  rw [members_eq_ok_iff, ← means_iff]
  constructor
  · rintro ⟨found, same, made⟩
    obtain rfl := List.map_injective_iff.mpr injective (Prod.mk.inj (Option.some.inj same)).1
    exact (hasFields_definition.made_eq_ok_iff.mp made).2
  · intro means
    exact ⟨_, rfl, hasFields_definition.made_eq_ok_iff.mpr ⟨fun m member _ => grammatical m member,
      means⟩⟩

theorem finish_eq_ok_iff {absent : String → DecodeError} {fields : RecordFields} {r : Record} :
    fieldGroup.finish absent fields = .ok r ↔
      fields.id = some r.id ∧ fields.isActive.getD false = r.isActive ∧
      fields.nodes.getD none = r.nodes ∧ fields.edges.getD none = r.edges ∧
      members Definition.fieldGroup .memory (.object fields.rest true) = .ok r.definition := by
  rcases r with ⟨id, isActive, definition, nodes, edges⟩
  simp only [fieldGroup, bind_eq_ok_iff, required_eq_ok_iff]
  constructor
  · rintro ⟨_, named, _, defined, made⟩
    rcases Record.mk.inj (Except.ok.inj made) with ⟨rfl, rfl, rfl, rfl, rfl⟩
    exact ⟨named, rfl, rfl, rfl, defined⟩
  · rintro ⟨named, rfl, rfl, rfl, defined⟩
    exact ⟨id, named, definition, defined, rfl⟩

/-- A record is decoded as what its members say. -/
theorem decoder_eq_ok_iff {r : Record} : decoder medium root = .ok r ↔ root.IsRecord r := by
  refine members_eq_ok_iff.trans (exists_congr fun entries => and_congr_right fun _ => ?_)
  have values : (∀ m ∈ others entries, ∃ v, m.2.IsValue v) ↔
      ∀ m ∈ entries, m.1 ∉ names → ∃ v, m.2.IsValue v := by
    simp only [others, List.mem_filter, decide_eq_true_eq, and_imp]
  simp only [visits_eq_ok_iff, finish_eq_ok_iff]
  constructor
  · rintro ⟨state, visited, named, active, nodes, edges, defined⟩
    rw [← visited.rest] at defined
    exact ⟨values.mp visited.values, takes_none_some_iff.mp (named ▸ visited.id),
      exists_takes_getD_iff.mp ⟨_, visited.isActive, active⟩,
      exists_takes_getD_iff.mp ⟨_, visited.nodes, nodes⟩,
      exists_takes_getD_iff.mp ⟨_, visited.edges, edges⟩,
      (definition_eq_ok_iff visited.values).mp defined⟩
  · rintro ⟨valued, named, active, nodes, edges, defined⟩
    have valued := values.mpr valued
    rcases exists_takes_getD_iff.mpr active with ⟨activeSlot, takesActive, active⟩
    rcases exists_takes_getD_iff.mpr nodes with ⟨nodesSlot, takesNodes, nodes⟩
    rcases exists_takes_getD_iff.mpr edges with ⟨edgesSlot, takesEdges, edges⟩
    exact ⟨⟨some r.id, activeSlot, nodesSlot, edgesSlot, _⟩,
      ⟨valued, takes_none_some_iff.mpr named, takesActive, takesNodes, takesEdges, rfl⟩,
      rfl, active, nodes, edges, (definition_eq_ok_iff valued).mpr defined⟩

end Record

/-! ## Answers to saving -/

/-- The fields of an answer to saving. -/
def savedFields : List (GroupField SavedFields Saved) :=
  [.needed ["id"] Decoder.id (·.id) (fun fields id => { fields with id }) (fun _ _ => rfl)
      Saved.id,
    .spared ["version"] versionDecoder (·.version) (fun fields version => { fields with version })
      (fun _ _ => rfl) Saved.version none]

theorem hasFields_saved : Saved.decoder.HasFields savedFields := by
  refine ⟨_, rfl, rfl, rfl, ⟨rfl, rfl⟩, ?visit, ?apart, ?state, ?finish⟩
  case visit =>
    intro medium state key source
    simp only [savedFields, GroupField.needed, GroupField.spared, visitField_cons, visitField_nil,
      List.mem_singleton]
    rfl
  case apart => simp [savedFields, GroupField.needed, GroupField.spared, GroupField.apart_iff]
  case state =>
    rintro ⟨_, _⟩ ⟨_, _⟩ same
    rwa [SavedFields.mk.injEq]
  case finish =>
    rintro absent ⟨_, _⟩ ⟨_, _⟩
    simp only [Saved.fieldGroup, bind_eq_ok_iff, required_eq_ok_iff]
    simp [savedFields, GroupField.needed, GroupField.spared, pure, Except.pure]

theorem Saved.decoder_eq_ok_iff {saved : Saved} :
    Saved.decoder medium root = .ok saved ↔ root.IsSaved saved := by
  refine hasFields_saved.eq_ok_iff fun entries => ?_
  exact and_congr (GroupField.means_needed_iff fun _ _ => id_eq_ok_iff)
    (GroupField.means_spared_iff fun _ _ => versionDecoder_eq_ok_iff)

end Workflow
