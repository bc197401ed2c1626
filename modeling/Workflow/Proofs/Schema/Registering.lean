import Mathlib.Data.List.Induction
import Mathlib.Data.List.Nodup
import Workflow.Proofs.Dictionary
import Workflow.Schema.Catalogue

namespace Workflow

/-!
# What a registry answers

Only the order in which schemas of one kind and name are registered can be seen: the last of them is
the one that is listed, found and used for checks.  Every schema is filed under its own name, which
each registration keeps, so that a list in the order of the names is in the order of the entries;
whoever collects the schemas in another order and sorts them by name gets the same list.

Conditions are never filed, and the two other kinds do not meet.
-/

namespace Registry

/-- The registrations of a kind under a name, the latest at the end. -/
def registrations (schemas : List NodeSchema) (kind : NodeKind) (name : String) :
    List NodeSchema :=
  schemas.filter fun s => s.kind = kind ∧ s.typeName = name

/-- The schema that was registered last for a kind under a name. -/
def latest? (schemas : List NodeSchema) (kind : NodeKind) (name : String) : Option NodeSchema :=
  (registrations schemas kind name).getLast?

/-- A registry to begin with, and the schemas that are registered in it from the start. -/
inductive Initial : Registry → List NodeSchema → Prop
  | empty : Initial .empty []
  | builtIn : Initial .builtIn (Catalogue.triggers ++ Catalogue.actions)

/-- What the registry says of a kind is what was registered last, name by name. -/
structure Reflects (r : Registry) (kind : NodeKind) (registered : List NodeSchema) : Prop where
  ascending : (r.schemas kind).Pairwise fun a b => a.typeName < b.typeName
  names : ∀ name, (∃ s ∈ r.schemas kind, s.typeName = name) ↔
    ∃ s ∈ registered, s.kind = kind ∧ s.typeName = name
  listed : ∀ s, s ∈ r.schemas kind ↔ latest? registered kind s.typeName = some s
  found : ∀ name, r.get? kind name = latest? registered kind name
  checked : ∀ name config, r.checkConfig kind name config =
    ((latest? registered kind name).map (·.check config)).getD []
  /-- A table has its values in no particular order; sorting them by name gives the list. -/
  sorted : ∀ values : List NodeSchema, values.Nodup →
    (∀ s, s ∈ values ↔ latest? registered kind s.typeName = some s) →
    values.mergeSort (fun a b => a.typeName ≤ b.typeName) = r.schemas kind

/-- The registries answer alike whatever is asked about a kind. -/
structure Alike (kind : NodeKind) (r other : Registry) : Prop where
  schemas : r.schemas kind = other.schemas kind
  get? : ∀ name, r.get? kind name = other.get? kind name
  checkConfig : ∀ name config, r.checkConfig kind name config = other.checkConfig kind name config

/-- For each kind that has schemas and each name, both lists have the same registrations in the
same order. -/
def SameOrder (schemas others : List NodeSchema) : Prop :=
  ∀ kind, kind ≠ .condition → ∀ name,
    registrations schemas kind name = registrations others kind name

/-- Every schema is filed under its own name. -/
def Filed (r : Registry) : Prop :=
  ∀ kind, ∀ entry ∈ (r.ofKind kind).entries, entry.1 = entry.2.typeName

variable {r other : Registry} {schemas : List NodeSchema} {s : NodeSchema} {kind : NodeKind}
  {name : String}

/-! ## The last registration -/

theorem mem_registrations_iff :
    s ∈ registrations schemas kind name ↔ s ∈ schemas ∧ s.kind = kind ∧ s.typeName = name := by
  rw [registrations, List.mem_filter, decide_eq_true_iff]

theorem registrations_append (schemas others : List NodeSchema) (kind : NodeKind) (name : String) :
    registrations (schemas ++ others) kind name =
      registrations schemas kind name ++ registrations others kind name :=
  List.filter_append ..

theorem latest?_append_singleton (schemas : List NodeSchema) (s : NodeSchema) (kind : NodeKind)
    (name : String) :
    latest? (schemas ++ [s]) kind name =
      if s.kind = kind ∧ s.typeName = name then some s else latest? schemas kind name := by
  rw [latest?, registrations_append, List.getLast?_append]
  by_cases own : s.kind = kind ∧ s.typeName = name
  · have alone : registrations [s] kind name = [s] :=
      List.filter_cons_of_pos (decide_eq_true own)
    rw [if_pos own, alone]
    rfl
  · have missed : registrations [s] kind name = [] :=
      List.filter_cons_of_neg (by simpa using own)
    rw [if_neg own, missed]
    rfl

theorem exists_latest?_iff :
    (∃ s, latest? schemas kind name = some s) ↔
      ∃ s ∈ schemas, s.kind = kind ∧ s.typeName = name := by
  rw [← Option.isSome_iff_exists, latest?, List.getLast?_isSome]
  constructor
  · intro some
    rcases List.exists_mem_of_ne_nil _ some with ⟨s, member⟩
    exact ⟨s, mem_registrations_iff.mp member⟩
  · rintro ⟨s, registered⟩
    exact List.ne_nil_of_mem (mem_registrations_iff.mpr registered)

theorem typeName_of_latest? (found : latest? schemas kind name = some s) : s.typeName = name :=
  (mem_registrations_iff.mp (List.mem_of_getLast? found)).2.2

/-! ## One registration -/

theorem ofKind_register (r : Registry) (s : NodeSchema) (present : kind ≠ .condition) :
    (r.register s).ofKind kind =
      if s.kind = kind then (r.ofKind kind).insert s.typeName s else r.ofKind kind := by
  cases kind with
  | condition => exact absurd rfl present
  | trigger | action =>
      unfold register
      cases s.kind <;> rfl

theorem get?_register (r : Registry) (s : NodeSchema) (present : kind ≠ .condition)
    (name : String) :
    (r.register s).get? kind name =
      if s.kind = kind ∧ s.typeName = name then some s else r.get? kind name := by
  unfold get?
  rw [ofKind_register r s present]
  by_cases own : s.kind = kind
  · rw [if_pos own, Dictionary.get?_insert]
    simp only [own, true_and, eq_comm]
  · simp only [own, false_and, if_false]

theorem Filed.register (filed : r.Filed) (s : NodeSchema) : (r.register s).Filed := by
  intro kind entry member
  cases kind with
  | condition => cases member
  | trigger | action =>
      rw [ofKind_register r s (by decide)] at member
      split at member
      · rcases Dictionary.mem_insertEntry member with rfl | old
        · rfl
        · exact filed _ entry old
      · exact filed _ entry member

/-! ## All registrations -/

theorem filed_registerAll (schemas : List NodeSchema) :
    (Registry.empty.registerAll schemas).Filed := by
  refine List.foldlRecOn (motive := Filed) schemas Registry.register ?_ ?_
  · intro kind entry member
    cases kind <;> cases member
  · exact fun r filed s _ => filed.register s

theorem get?_registerAll (schemas : List NodeSchema) (present : kind ≠ .condition)
    (name : String) :
    (Registry.empty.registerAll schemas).get? kind name = latest? schemas kind name := by
  induction schemas using List.reverseRecOn with
  | nil => cases kind <;> rfl
  | append_singleton schemas s inductionHypothesis =>
      have last : Registry.empty.registerAll (schemas ++ [s]) =
          (Registry.empty.registerAll schemas).register s := List.foldl_append ..
      rw [last, get?_register _ s present, inductionHypothesis, latest?_append_singleton]

theorem Initial.registerAll {start : Registry} {known : List NodeSchema}
    (initial : Initial start known) (schemas : List NodeSchema) :
    start.registerAll schemas = Registry.empty.registerAll (known ++ schemas) := by
  cases initial with
  | empty => rfl
  | builtIn => exact (List.foldl_append ..).symm

theorem mem_schemas_iff (filed : r.Filed) :
    s ∈ r.schemas kind ↔ r.get? kind s.typeName = some s := by
  unfold schemas Dictionary.values get?
  rw [List.mem_map, Dictionary.get?_eq_some_iff]
  constructor
  · rintro ⟨entry, member, rfl⟩
    rw [← filed kind entry member]
    exact member
  · intro member
    exact ⟨_, member, rfl⟩

theorem schemas_ascending (filed : r.Filed) (kind : NodeKind) :
    (r.schemas kind).Pairwise fun a b => a.typeName < b.typeName := by
  unfold schemas Dictionary.values
  rw [List.pairwise_map]
  refine (r.ofKind kind).ascending.imp_of_mem ?_
  intro a b first second below
  rwa [← filed kind a first, ← filed kind b second]

/-- Sorting by name brings schemas into their ascending order, whatever order they are in. -/
theorem mergeSort_eq_of_ascending {listed values : List NodeSchema}
    (ascending : listed.Pairwise fun a b => a.typeName < b.typeName) (different : values.Nodup)
    (same : ∀ s, s ∈ values ↔ s ∈ listed) :
    values.mergeSort (fun a b => a.typeName ≤ b.typeName) = listed := by
  have names : (listed.map NodeSchema.typeName).Nodup :=
    List.pairwise_map.mpr (ascending.imp String.ne_of_lt)
  have members : (values.mergeSort fun a b => a.typeName ≤ b.typeName).Perm listed :=
    (List.mergeSort_perm ..).trans ((List.perm_ext_iff_of_nodup different names.of_map).mpr same)
  have sorted : (values.mergeSort fun a b => a.typeName ≤ b.typeName).Pairwise
      fun a b => a.typeName ≤ b.typeName := by
    refine (List.pairwise_mergeSort ?_ ?_ values).imp of_decide_eq_true
    · intro a b c first second
      exact decide_eq_true (String.le_trans (of_decide_eq_true first) (of_decide_eq_true second))
    · intro a b
      rw [← Bool.decide_or]
      exact decide_eq_true (String.le_total a.typeName b.typeName)
  have weakly : listed.Pairwise fun a b => a.typeName ≤ b.typeName :=
    ascending.imp fun below => String.not_lt.mp (String.lt_asymm below)
  refine members.eq_of_pairwise ?_ sorted weakly
  intro a b first second below above
  exact List.inj_on_of_nodup_map names (members.subset first) second
    (String.le_antisymm below above)

theorem reflects_registerAll (registered : List NodeSchema) (present : kind ≠ .condition) :
    (Registry.empty.registerAll registered).Reflects kind registered := by
  have filed := filed_registerAll registered
  have found (name : String) := get?_registerAll registered present name
  have ascending := schemas_ascending filed kind
  have listed : ∀ s, s ∈ (Registry.empty.registerAll registered).schemas kind ↔
      latest? registered kind s.typeName = some s := by
    intro s
    rw [mem_schemas_iff filed, found]
  refine ⟨ascending, ?names, listed, found, ?checked, ?sorted⟩
  case names =>
    intro name
    rw [← exists_latest?_iff]
    constructor
    · rintro ⟨s, member, rfl⟩
      exact ⟨s, (listed s).mp member⟩
    · rintro ⟨s, last⟩
      obtain rfl := typeName_of_latest? last
      exact ⟨s, (listed s).mpr last, rfl⟩
  case checked =>
    intro name config
    rw [checkConfig, found]
    cases latest? registered kind name <;> rfl
  case sorted =>
    intro values different same
    exact mergeSort_eq_of_ascending ascending different fun s => (same s).trans (listed s).symm

/-- Registries that find the same schemas under all names of a kind answer alike about it. -/
theorem Alike.of_get? (same : ∀ name, r.get? kind name = other.get? kind name) :
    Alike kind r other := by
  have filed : r.ofKind kind = other.ofKind kind := Dictionary.eq_of_get?_eq same
  refine ⟨congrArg Dictionary.values filed, same, ?_⟩
  intro name config
  rw [Registry.checkConfig, Registry.checkConfig, same name]

theorem alike_condition (r other : Registry) : Alike .condition r other := .of_get? fun _ => rfl

/-- What was registered before does not matter to two lists that agree in what they register. -/
theorem alike_of_sameOrder {known others : List NodeSchema} (present : kind ≠ .condition)
    (same : ∀ name, registrations schemas kind name = registrations others kind name) :
    Alike kind (Registry.empty.registerAll (known ++ schemas))
      (Registry.empty.registerAll (known ++ others)) := by
  refine .of_get? fun name => ?_
  rw [get?_registerAll _ present, get?_registerAll _ present, latest?, latest?,
    registrations_append, registrations_append, same]

theorem registrations_filter_kind (schemas : List NodeSchema) (kind : NodeKind) (name : String) :
    registrations (schemas.filter (·.kind = kind)) kind name = registrations schemas kind name := by
  unfold registrations
  rw [List.filter_filter]
  apply List.filter_congr
  intro s _
  rw [← Bool.decide_and, decide_eq_decide]
  exact and_iff_left_of_imp And.left

/-- After any registrations, in a registry that was empty or held the catalogue, the schemas of the
triggers and those of the actions are in strictly ascending order of their names.  For each name
that was registered for the kind they have the schema that was registered last, and this is the one
that is found and that configs are checked against; it does not matter in which order a table keeps
them.  There are no schemas of conditions.  Registering conditions or schemas of the other kind
changes nothing, and neither does the order in which schemas of different names and kinds are
registered. -/
theorem answers_follow_last_registrations {start : Registry} {known : List NodeSchema}
    (initial : Initial start known) :
    (∀ schemas kind, kind ≠ .condition →
      (start.registerAll schemas).Reflects kind (known ++ schemas)) ∧
    (∀ schemas, (start.registerAll schemas).schemas .condition = [] ∧
      (∀ name, (start.registerAll schemas).get? .condition name = none) ∧
      ∀ name config, (start.registerAll schemas).checkConfig .condition name config = []) ∧
    (∀ schemas kind, Alike kind (start.registerAll schemas)
      (start.registerAll (schemas.filter (·.kind = kind)))) ∧
    ∀ schemas others, SameOrder schemas others →
      ∀ kind, Alike kind (start.registerAll schemas) (start.registerAll others) := by
  refine ⟨?last, ?conditions, ?apart, ?order⟩
  case last =>
    intro schemas kind present
    rw [initial.registerAll]
    exact reflects_registerAll _ present
  case conditions =>
    exact fun schemas => ⟨rfl, fun _ => rfl, fun _ _ => rfl⟩
  case apart =>
    intro schemas kind
    rw [initial.registerAll, initial.registerAll]
    by_cases condition : kind = .condition
    · exact condition ▸ alike_condition ..
    · exact alike_of_sameOrder condition fun name => (registrations_filter_kind ..).symm
  case order =>
    intro schemas others same kind
    rw [initial.registerAll, initial.registerAll]
    by_cases condition : kind = .condition
    · exact condition ▸ alike_condition ..
    · exact alike_of_sameOrder condition (same kind condition)

/-- A trigger, a condition and two actions of one name are registered beside the catalogue, which
has an action of that name, in two orders that agree on the actions.  A table that has the actions
the other way round is sorted into the same list. -/
theorem answers_follow_last_registrations_wait :
    let pause := (NodeSchema.action "WAIT" "Pause").required "minutes" "Minutes" .number
    let hold := NodeSchema.action "WAIT" "Hold"
    let waited := NodeSchema.trigger "WAIT" "Waited"
    let waiting : NodeSchema := ⟨"WAIT", .condition, "Waiting", []⟩
    let r := Registry.builtIn.registerAll [hold, waiting, pause, waited]
    Initial .builtIn (Catalogue.triggers ++ Catalogue.actions) ∧
    SameOrder [hold, waiting, pause, waited] [waited, hold, pause] ∧
    r.get? .action "WAIT" = some pause ∧ r.get? .trigger "WAIT" = some waited ∧
    r.get? .condition "WAIT" = none ∧ pause ∈ r.schemas .action ∧
    r.checkConfig .action "WAIT" .empty = [.missing "Minutes"] ∧
    (r.schemas .action).reverse.mergeSort (fun a b => a.typeName ≤ b.typeName) =
      r.schemas .action ∧
    r.schemas .action =
      (Registry.builtIn.registerAll [waited, hold, pause]).schemas .action := by
  intro pause hold waited waiting r
  have ⟨last, conditions, apart, order⟩ := answers_follow_last_registrations .builtIn
  have actions := last [hold, waiting, pause, waited] .action (by decide)
  have triggers := last [hold, waiting, pause, waited] .trigger (by decide)
  have latestAction : latest? (Catalogue.triggers ++ Catalogue.actions ++
      [hold, waiting, pause, waited]) .action "WAIT" = some pause := by decide +kernel
  have latestTrigger : latest? (Catalogue.triggers ++ Catalogue.actions ++
      [hold, waiting, pause, waited]) .trigger "WAIT" = some waited := by decide +kernel
  have same : SameOrder [hold, waiting, pause, waited] [waited, hold, pause] := by
    intro kind present name
    cases kind with
    | condition => exact absurd rfl present
    | trigger | action => rfl
  have different : (r.schemas .action).reverse.Nodup := by
    rw [List.nodup_reverse]
    exact actions.ascending.imp fun below equal => String.ne_of_lt below (congrArg _ equal)
  refine ⟨.builtIn, same, ?_, ?_, ?_, ?_, ?_, ?_, (order _ _ same .action).schemas⟩
  · rw [actions.found, latestAction]
  · rw [triggers.found, latestTrigger]
  · exact (conditions _).2.1 "WAIT"
  · exact (actions.listed pause).mpr latestAction
  · rw [actions.checked, latestAction]
    decide
  · exact actions.sorted _ different fun s => List.mem_reverse.trans (actions.listed s)

end Registry

end Workflow
