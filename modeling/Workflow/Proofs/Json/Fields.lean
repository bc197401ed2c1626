import Mathlib.Data.List.Pairwise
import Mathlib.Tactic.MkIffOfInductiveProp
import Workflow.Proofs.Json.Sources

namespace Workflow

/-!
# What a group is decoded to

A group of fields may be written as an object or as an array, and an object may have its members in
any order and others between them.  What a group is decoded to depends on none of this.  Each field
takes what is said under one of its names, once at most; whatever no field asks for is only held to
the grammar.

The entries of a source are said first, apart from any decoder.  A group is then described by its
fields, each with its place in the state, and the visits to the entries come to an iff on what each
field takes.
-/

namespace Source

variable {α : Type}

/-- The entries that a source has for some fields, each of which has one or more names, its own one
first.  They are the members of an object, or the items of an array, which go to the fields in their
order and need not reach the last one.  An entry for none of the fields keeps to the grammar. -/
structure Lists (fields : List (List String)) (root : Source) (entries : List (String × Source)) :
    Prop where
  form : root.members? = some (entries.map fun m => (some m.1, m.2), true) ∨
    ∃ items, root.items? = some (items, true) ∧ items.length ≤ fields.length ∧
      entries = (fields.filterMap List.head?).zip items
  others : ∀ m ∈ entries, (∀ names ∈ fields, m.1 ∉ names) → m.2.grammatical = true

/-- The members of an object are its entries, if all of them keep to the grammar. -/
theorem lists_object (fields : List (List String)) {entries : List (String × Source)}
    (grammatical : ∀ m ∈ entries, m.2.grammatical = true) :
    (Source.object (entries.map fun m => (some m.1, m.2)) true).Lists fields entries :=
  ⟨.inl rfl, fun m member _ => grammatical m member⟩

/-- The sources of the entries under some names. -/
def under (names : List String) (entries : List (String × Source)) : List Source :=
  entries.filterMap fun m => if m.1 ∈ names then some m.2 else none

/-- What is in a place after some sources: at most one of them is put there, if it was empty. -/
inductive Takes (reads : Source → α → Prop) : Option α → List Source → Option α → Prop
  | nothing (slot : Option α) : Takes reads slot [] slot
  | once {source : Source} {a : α} (read : reads source a) : Takes reads none [source] (some a)

section Taking

variable {reads : Source → α → Prop} {slot after : Option α} {sources : List Source}

theorem takes_nil_iff : Takes reads slot [] after ↔ slot = after := by
  constructor
  · intro takes
    cases takes
    rfl
  · rintro rfl
    exact .nothing slot

theorem takes_append_iff {later : List Source} :
    Takes reads slot (sources ++ later) after ↔
      ∃ between, Takes reads slot sources between ∧ Takes reads between later after := by
  cases sources with
  | nil => simp only [List.nil_append, takes_nil_iff, exists_eq_left']
  | cons source rest =>
      constructor
      · intro takes
        generalize all : source :: rest ++ later = sources at takes
        cases takes with
        | nothing => cases all
        | once read =>
            rcases List.cons.inj all with ⟨rfl, none⟩
            rcases List.append_eq_nil_iff.mp none with ⟨rfl, rfl⟩
            exact ⟨_, .once read, .nothing _⟩
      · rintro ⟨between, first, second⟩
        cases first with
        | once read =>
            cases second with
            | nothing => exact .once read

/-- What is there in the end, or else what is given, is what the sources say. -/
theorem exists_takes_getD_iff {given a : α} :
    (∃ content, Takes reads none sources content ∧ content.getD given = a) ↔
      OrElse reads given sources a := by
  constructor
  · rintro ⟨content, takes, rfl⟩
    cases takes with
    | nothing => exact .absent
    | once read => exact .value read
  · intro said
    cases said with
    | absent => exact ⟨none, .nothing none, rfl⟩
    | value read => exact ⟨some a, .once read, rfl⟩

theorem takes_none_some_iff {a : α} : Takes reads none sources (some a) ↔ Says reads sources a := by
  constructor
  · intro takes
    cases takes with
    | once read => exact ⟨_, rfl, read⟩
  · rintro ⟨source, rfl, read⟩
    exact .once read

end Taking

theorem members?_eq_none_of_items? {root : Source} {found : List Source × Bool}
    (items : root.items? = some found) : root.members? = none := by
  cases root with
  | value v =>
      cases v with
      | array items => rfl
      | null | bool b | number n | string s | object members => cases items
  | array items complete => rfl
  | object members complete | valueless | broken => cases items

section Names

variable {names : List String} {key : String} {source : Source}

theorem under_cons (m : String × Source) (rest : List (String × Source)) :
    under names (m :: rest) = under names [m] ++ under names rest := by
  rw [← List.singleton_append]
  exact List.filterMap_append

theorem under_of_mem (named : key ∈ names) : under names [(key, source)] = [source] :=
  List.filterMap_cons_some (if_pos named)

theorem under_of_not_mem (other : key ∉ names) : under names [(key, source)] = [] :=
  List.filterMap_cons_none (if_neg other)

end Names

end Source

namespace Decoder

open Source

variable {σ α β : Type}

/-! ## Groups -/

/-- A field of a group: how it is decoded, its place in the state of the group, and what the place
holds at the end if a value is made of the state. -/
structure GroupField (σ α : Type) where
  Value : Type
  names : List String
  decode : Decoder Value
  slot : σ → Option Value
  put : σ → Option Value → σ
  slot_put : ∀ state content, slot (put state content) = content
  Leaves : Option Value → α → Prop

/-- A value is put into a place that is empty. -/
theorem map_once_eq_ok_iff {name : String} {slot : Option β} {value : Except DecodeError β}
    {put : Option β → σ} {after : σ} : (once name slot value).map put = .ok after ↔
      slot = none ∧ ∃ content, value = .ok content ∧ put (some content) = after := by
  cases slot with
  | some earlier => simp [once, Except.map]
  | none => cases value <;> simp [once, Except.map]

theorem map_once_eq_ok_iff_takes {decode : Decoder β} {medium : Medium} {name : String}
    {slot : Option β} {source : Source} {put : Option β → σ} {after : σ} :
    (once name slot (decode medium source)).map put = .ok after ↔
      ∃ content, Takes (fun source a => decode medium source = .ok a) slot [source] content ∧
        put content = after := by
  rw [map_once_eq_ok_iff]
  constructor
  · rintro ⟨rfl, a, read, rfl⟩
    exact ⟨some a, .once read, rfl⟩
  · rintro ⟨content, takes, rfl⟩
    cases takes with
    | once read => exact ⟨rfl, _, read, rfl⟩

namespace GroupField

section Kinds

variable (names : List String) (decode : Decoder β) (slot : σ → Option β)
  (put : σ → Option β → σ) (slot_put : ∀ state content, slot (put state content) = content)
  (get : α → β)

/-- A field that must be there. -/
def needed : GroupField σ α :=
  ⟨β, names, decode, slot, put, slot_put, fun content a => content = some (get a)⟩

/-- A field that may be missing, and what it is then. -/
def spared (given : β) : GroupField σ α :=
  ⟨β, names, decode, slot, put, slot_put, fun content a => content.getD given = get a⟩

end Kinds

variable (medium : Medium)

/-- What a source is decoded to. -/
def Reads (f : GroupField σ α) (source : Source) (content : f.Value) : Prop :=
  f.decode medium source = .ok content

/-- What some sources say for the field of a value. -/
def Means (f : GroupField σ α) (sources : List Source) (a : α) : Prop :=
  ∃ content, Takes (f.Reads medium) none sources content ∧ f.Leaves content a

/-- Puts a source into the place of the field. -/
def visit (f : GroupField σ α) (state : σ) (source : Source) : Except DecodeError σ :=
  (once (f.names.headD "") (f.slot state) (f.decode medium source)).map (f.put state)

/-- Two fields have no name in common, and neither is moved when the other one is put. -/
@[mk_iff]
structure Apart (f g : GroupField σ α) : Prop where
  names : ∀ key ∈ f.names, key ∉ g.names
  slot : ∀ state content, g.slot (f.put state content) = g.slot state
  otherSlot : ∀ state content, f.slot (g.put state content) = f.slot state

instance : Std.Symm (@Apart σ α) where
  symm _ _ apart :=
    ⟨fun key named other => apart.names key other named, apart.otherSlot, apart.slot⟩

variable {medium}

theorem visit_eq_ok_iff {f : GroupField σ α} {state after : σ} {source : Source} :
    f.visit medium state source = .ok after ↔
      f.slot state = none ∧ ∃ a, f.Reads medium source a ∧ f.put state (some a) = after :=
  map_once_eq_ok_iff

section Kinds

variable {names : List String} {decode : Decoder β} {slot : σ → Option β}
  {put : σ → Option β → σ} {slot_put : ∀ state content, slot (put state content) = content}
  {get : α → β} {reads : Source → β → Prop} {sources : List Source} {a : α}

theorem means_needed_iff (read : ∀ source b, decode medium source = .ok b ↔ reads source b) :
    (needed names decode slot put slot_put get).Means medium sources a ↔
      Says reads sources (get a) := by
  have same : (fun source b => decode medium source = .ok b) = reads :=
    funext₂ fun source b => propext (read source b)
  rw [← same, ← takes_none_some_iff]
  exact exists_eq_right

theorem means_spared_iff (read : ∀ source b, decode medium source = .ok b ↔ reads source b)
    {given : β} : (spared names decode slot put slot_put get given).Means medium sources a ↔
      OrElse reads given sources (get a) := by
  have same : (fun source b => decode medium source = .ok b) = reads :=
    funext₂ fun source b => propext (read source b)
  rw [← same, ← exists_takes_getD_iff]
  exact Iff.rfl

end Kinds

end GroupField

/-- Visits a member: the field of its name takes it, or else it is passed over. -/
def visitField (fields : List (GroupField σ α)) (medium : Medium) (state : σ) (key : String)
    (source : Source) : Except DecodeError σ :=
  match fields.find? fun f => key ∈ f.names with
  | some f => f.visit medium state source
  | none => skip state source

section Visiting

variable {medium : Medium}

theorem visitField_nil (state : σ) (key : String) (source : Source) :
    visitField ([] : List (GroupField σ α)) medium state key source = skip state source := rfl

theorem visitField_cons (f : GroupField σ α) (others : List (GroupField σ α)) (state : σ)
    (key : String) (source : Source) : visitField (f :: others) medium state key source =
      if key ∈ f.names then f.visit medium state source
      else visitField others medium state key source := by
  unfold visitField
  rw [List.find?_cons]
  by_cases named : key ∈ f.names
  · rw [decide_eq_true named, if_pos named]
  · rw [decide_eq_false named, if_neg named]

/-- Fields that are apart can be put one after the other, each as it should be. -/
theorem exists_state_of_apart {fields : List (GroupField σ α)}
    (apart : fields.Pairwise GroupField.Apart) (start : σ)
    {P : (f : GroupField σ α) → Option f.Value → Prop}
    (each : ∀ f ∈ fields, ∃ content, P f content) :
    ∃ state, ∀ f ∈ fields, P f (f.slot state) := by
  induction apart with
  | nil => exact ⟨start, List.forall_mem_nil _⟩
  | @cons f rest first apart inductionHypothesis =>
      rcases List.forall_mem_cons.mp each with ⟨⟨content, own⟩, others⟩
      rcases inductionHypothesis others with ⟨state, holds⟩
      refine ⟨f.put state content, List.forall_mem_cons.mpr ⟨?_, fun g member => ?_⟩⟩
      · rw [f.slot_put]
        exact own
      · rw [(first g member).slot]
        exact holds g member

end Visiting

/-- A group has these fields: its state is what they hold, each takes the members of its names and
nothing else, and a value is made of the state just if each field leaves what it should. -/
structure Group.HasFields (g : Group σ α) (fields : List (GroupField σ α)) : Prop where
  names : g.names = (fields.map GroupField.names).filterMap List.head?
  lengths : g.names.length = fields.length
  start : fields.Forall fun f => f.slot g.start = none
  visit : ∀ medium state key source,
    g.visit medium state key source = visitField fields medium state key source
  apart : fields.Pairwise GroupField.Apart
  state : ∀ first second, (fields.Forall fun f => f.slot first = f.slot second) → first = second
  finish : ∀ absent state a,
    g.finish absent state = .ok a ↔ fields.Forall fun f => f.Leaves (f.slot state) a

namespace Group.HasFields

variable {g : Group σ α} {fields : List (GroupField σ α)} {medium : Medium}

/-- A state is what its fields hold. -/
theorem eq_of_slots (has : g.HasFields fields) {first second : σ}
    (same : ∀ f ∈ fields, f.slot first = f.slot second) : first = second :=
  has.state first second (List.forall_iff_forall_mem.mpr same)

/-- A field that is not the one of a name does not have the name, and is not moved with that one. -/
theorem apart_of_ne (has : g.HasFields fields) {f other : GroupField σ α} (member : f ∈ fields)
    (otherMember : other ∈ fields) (different : f ≠ other) : f.Apart other :=
  has.apart.forall member otherMember different

section Visit

variable {state after : σ} {key : String} {source : Source}

/-- A member of no field leaves the state as it is. -/
theorem takes_iff_of_foreign (has : g.HasFields fields) (foreign : ∀ f ∈ fields, key ∉ f.names) :
    (∀ f ∈ fields, Takes (f.Reads medium) (f.slot state) (under f.names [(key, source)])
      (f.slot after)) ↔ state = after := by
  constructor
  · intro takes
    refine has.eq_of_slots fun f member => ?_
    have taken := takes f member
    rw [under_of_not_mem (foreign f member)] at taken
    exact takes_nil_iff.mp taken
  · rintro rfl f member
    rw [under_of_not_mem (foreign f member)]
    exact .nothing _

/-- A member of one field is put into its place, and all the others keep what they hold. -/
theorem takes_iff_of_mem (has : g.HasFields fields) {f : GroupField σ α} (member : f ∈ fields)
    (named : key ∈ f.names) :
    (∀ f ∈ fields, Takes (f.Reads medium) (f.slot state) (under f.names [(key, source)])
      (f.slot after)) ↔
      f.slot state = none ∧ ∃ a, f.Reads medium source a ∧ f.put state (some a) = after := by
  have other : ∀ {g : GroupField σ α}, g ∈ fields → f ≠ g → under g.names [(key, source)] = [] :=
    fun inside different =>
      under_of_not_mem ((has.apart_of_ne member inside different).names key named)
  constructor
  · intro takes
    have taken := takes f member
    rw [under_of_mem named] at taken
    generalize before : f.slot state = slot at taken
    generalize put : f.slot after = content at taken
    cases taken with
    | @once _ a read =>
        refine ⟨rfl, a, read, has.eq_of_slots fun g inside => ?_⟩
        by_cases same : f = g
        · subst same
          rw [put, f.slot_put]
        · have left := takes g inside
          rw [other inside same, takes_nil_iff] at left
          rw [← left, (has.apart_of_ne member inside same).slot]
  · rintro ⟨free, a, read, rfl⟩ g inside
    by_cases same : f = g
    · subst same
      rw [under_of_mem named, free, f.slot_put]
      exact .once read
    · rw [other inside same, (has.apart_of_ne member inside same).slot]
      exact .nothing _

theorem visit_eq_ok_iff (has : g.HasFields fields) :
    g.visit medium state key source = .ok after ↔
      ((∀ f ∈ fields, key ∉ f.names) → source.grammatical = true) ∧
      ∀ f ∈ fields,
        Takes (f.Reads medium) (f.slot state) (under f.names [(key, source)]) (f.slot after) := by
  rw [has.visit, visitField]
  cases found : fields.find? fun f => key ∈ f.names with
  | none =>
      have foreign : ∀ f ∈ fields, key ∉ f.names := by
        simpa only [List.find?_eq_none, decide_eq_true_eq] using found
      rw [has.takes_iff_of_foreign foreign, forall_prop_of_true foreign]
      dsimp only [skip]
      cases source.grammatical <;> simp
  | some f =>
      have member : f ∈ fields := List.mem_of_find?_eq_some found
      have named : key ∈ f.names := by simpa using List.find?_some found
      have claimed : ¬∀ f ∈ fields, key ∉ f.names := fun foreign => foreign f member named
      rw [has.takes_iff_of_mem member named, forall_prop_of_false claimed, true_and]
      exact GroupField.visit_eq_ok_iff

end Visit

/-- After visits to some entries each field has taken what is said under its names. -/
theorem visits_eq_ok_iff (has : g.HasFields fields) {entries : List (String × Source)}
    {state after : σ} :
    entries.foldlM (visitItem g medium) state = .ok after ↔
      (∀ m ∈ entries, (∀ f ∈ fields, m.1 ∉ f.names) → m.2.grammatical = true) ∧
      ∀ f ∈ fields,
        Takes (f.Reads medium) (f.slot state) (under f.names entries) (f.slot after) := by
  induction entries generalizing state with
  | nil =>
      rw [List.foldlM_nil]
      constructor
      · intro done
        obtain rfl := Except.ok.inj done
        exact ⟨List.forall_mem_nil _, fun f _ => .nothing _⟩
      · rintro ⟨_, takes⟩
        exact congrArg _ (has.eq_of_slots fun f member => takes_nil_iff.mp (takes f member))
  | cons m rest inductionHypothesis =>
      rw [List.foldlM_cons]
      constructor
      · intro done
        rcases exists_of_bind_eq_ok done with ⟨next, visited, later⟩
        rcases has.visit_eq_ok_iff.mp visited with ⟨own, first⟩
        rcases inductionHypothesis.mp later with ⟨others, second⟩
        refine ⟨List.forall_mem_cons.mpr ⟨own, others⟩, fun f member => ?_⟩
        rw [under_cons]
        exact takes_append_iff.mpr ⟨_, first f member, second f member⟩
      · rintro ⟨grammatical, takes⟩
        rcases List.forall_mem_cons.mp grammatical with ⟨own, others⟩
        have split : ∀ f ∈ fields, ∃ between,
            Takes (f.Reads medium) (f.slot state) (under f.names [m]) between ∧
              Takes (f.Reads medium) between (under f.names rest) (f.slot after) := by
          intro f member
          have all := takes f member
          rw [under_cons] at all
          exact takes_append_iff.mp all
        rcases exists_state_of_apart has.apart state split with ⟨next, holds⟩
        have visited : visitItem g medium state m = .ok next :=
          has.visit_eq_ok_iff.mpr ⟨own, fun f member => (holds f member).1⟩
        rw [visited]
        exact inductionHypothesis.mpr ⟨others, fun f member => (holds f member).2⟩

/-- What is made of some entries, if all of them can be visited, is what they say. -/
theorem made_eq_ok_iff (has : g.HasFields fields) {entries : List (String × Source)}
    {absent : String → DecodeError} {a : α} :
    (∃ state, entries.foldlM (visitItem g medium) g.start = .ok state ∧
      g.finish absent state = .ok a) ↔
      (∀ m ∈ entries, (∀ names ∈ fields.map GroupField.names, m.1 ∉ names) →
        m.2.grammatical = true) ∧
      fields.Forall fun f => f.Means medium (under f.names entries) a := by
  have started := List.forall_iff_forall_mem.mp has.start
  simp only [has.visits_eq_ok_iff, has.finish, List.forall_mem_map, List.forall_iff_forall_mem]
  constructor
  · rintro ⟨state, ⟨others, takes⟩, left⟩
    refine ⟨others, fun f member => ⟨f.slot state, ?_, left f member⟩⟩
    rw [← started f member]
    exact takes f member
  · rintro ⟨others, means⟩
    rcases exists_state_of_apart has.apart g.start means with ⟨state, holds⟩
    refine ⟨state, ⟨others, fun f member => ?_⟩, fun f member => (holds f member).2⟩
    rw [started f member]
    exact (holds f member).1

end Group.HasFields

/-- The members of an object can be visited only if each of them has a key. -/
theorem visitMembers_eq_ok_iff {g : Group σ α} {medium : Medium}
    {members : List (Option String × Source)} {state after : σ} :
    members.foldlM (visitMember g medium) state = .ok after ↔
      ∃ entries : List (String × Source), members = entries.map (fun m => (some m.1, m.2)) ∧
        entries.foldlM (visitItem g medium) state = .ok after := by
  induction members generalizing state with
  | nil =>
      constructor
      · exact fun done => ⟨[], rfl, done⟩
      · rintro ⟨entries, none, done⟩
        obtain rfl := List.map_eq_nil_iff.mp none.symm
        exact done
  | cons m rest inductionHypothesis =>
      rw [List.foldlM_cons]
      constructor
      · intro done
        rcases exists_of_bind_eq_ok done with ⟨next, visited, later⟩
        rcases inductionHypothesis.mp later with ⟨entries, rfl, reached⟩
        rcases m with ⟨_ | key, source⟩
        · cases visited
        · refine ⟨(key, source) :: entries, rfl, ?_⟩
          rw [List.foldlM_cons]
          change g.visit medium state key source >>= _ = _
          have taken : g.visit medium state key source = .ok next := visited
          rw [taken]
          exact reached
      · rintro ⟨entries, same, done⟩
        rcases List.map_eq_cons_iff.mp same.symm with ⟨⟨key, source⟩, others, rfl, rfl, rfl⟩
        rw [List.foldlM_cons] at done
        rcases exists_of_bind_eq_ok done with ⟨next, visited, later⟩
        change g.visit medium state key source >>= _ = _
        have taken : g.visit medium state key source = .ok next := visited
        rw [taken]
        exact inductionHypothesis.mpr ⟨others, rfl, later⟩

/-- A group that is written as an object: all of its members are visited. -/
theorem members_eq_ok_iff {g : Group σ α} {medium : Medium} {root : Source} {a : α} :
    members g medium root = .ok a ↔ ∃ entries : List (String × Source),
      root.members? = some (entries.map fun m => (some m.1, m.2), true) ∧
      ∃ state, entries.foldlM (visitItem g medium) g.start = .ok state ∧
        g.finish .missingField state = .ok a := by
  unfold Decoder.members
  cases root.members? with
  | none => simp
  | some found =>
      rcases found with ⟨found, complete⟩
      dsimp only
      constructor
      · intro done
        rcases exists_of_bind_eq_ok done with ⟨state, visited, ended⟩
        rcases visitMembers_eq_ok_iff.mp visited with ⟨entries, rfl, reached⟩
        cases complete with
        | false => cases ended
        | true => exact ⟨entries, rfl, state, reached, ended⟩
      · rintro ⟨entries, same, state, reached, finished⟩
        rcases Prod.mk.inj (Option.some.inj same) with ⟨rfl, rfl⟩
        rw [visitMembers_eq_ok_iff.mpr ⟨entries, rfl, reached⟩]
        exact finished

/-- The forms of a group: an object, or an array that has an item at most for each field. -/
theorem group_eq_ok_iff {g : Group σ α} {medium : Medium} {root : Source} {a : α} :
    group g medium root = .ok a ↔
      (∃ entries : List (String × Source),
        root.members? = some (entries.map fun m => (some m.1, m.2), true) ∧
        ∃ state, entries.foldlM (visitItem g medium) g.start = .ok state ∧
          g.finish .missingField state = .ok a) ∨
      ∃ items : List Source, root.items? = some (items, true) ∧
        items.length ≤ g.names.length ∧
        ∃ state, (g.names.zip items).foldlM (visitItem g medium) g.start = .ok state ∧
          g.finish (fun _ => .invalidLength) state = .ok a := by
  rw [← members_eq_ok_iff]
  unfold group
  cases items : root.items? with
  | some found =>
      rcases found with ⟨found, complete⟩
      have noMembers : members g medium root ≠ .ok a := by
        rw [members, members?_eq_none_of_items? items]
        intro done
        cases done
      dsimp only
      constructor
      · intro done
        rcases exists_of_bind_eq_ok done with ⟨state, visited, ended⟩
        cases complete with
        | false => cases ended
        | true =>
            rcases exists_of_bind_eq_ok ended with ⟨value, finished, whole⟩
            split at whole
            · cases whole
            · next short =>
              obtain rfl := Except.ok.inj whole
              exact .inr ⟨found, rfl, Nat.not_lt.mp short, state, visited, finished⟩
      · rintro (done | ⟨same, forms, short, state, visited, finished⟩)
        · exact absurd done noMembers
        · rcases Prod.mk.inj (Option.some.inj forms) with ⟨rfl, rfl⟩
          rw [visited]
          change (g.finish _ state >>= _) = _
          rw [finished]
          exact if_neg (Nat.not_lt.mpr short)
  | none => simp

/-- A group is decoded as what the entries under the names of its fields say. -/
theorem Group.HasFields.group_eq_ok_iff {g : Group σ α} {fields : List (GroupField σ α)}
    (has : g.HasFields fields) {medium : Medium} {root : Source} {a : α} :
    group g medium root = .ok a ↔ ∃ entries, root.Lists (fields.map GroupField.names) entries ∧
      fields.Forall fun f => f.Means medium (under f.names entries) a := by
  have lengths : g.names.length = (fields.map GroupField.names).length := by
    rw [has.lengths, List.length_map]
  rw [Decoder.group_eq_ok_iff, lengths]
  constructor
  · rintro (⟨entries, members, done⟩ | ⟨items, forms, short, done⟩)
    · rcases has.made_eq_ok_iff.mp done with ⟨others, means⟩
      exact ⟨entries, ⟨.inl members, others⟩, means⟩
    · rcases has.made_eq_ok_iff.mp done with ⟨others, means⟩
      exact ⟨_, ⟨.inr ⟨items, forms, short, has.names ▸ rfl⟩, others⟩, means⟩
  · rintro ⟨entries, ⟨members | ⟨items, forms, short, rfl⟩, others⟩, means⟩
    · exact .inl ⟨entries, members, has.made_eq_ok_iff.mpr ⟨others, means⟩⟩
    · rw [← has.names] at others means
      exact .inr ⟨items, forms, short, has.made_eq_ok_iff.mpr ⟨others, means⟩⟩

/-- A decoder is that of a group with these fields. -/
def HasFields (decode : Decoder α) (fields : List (GroupField σ α)) : Prop :=
  ∃ g, decode = group g ∧ g.HasFields fields

/-- A value is decoded just if the entries say it, field by field. -/
theorem HasFields.eq_ok_iff {decode : Decoder α} {fields : List (GroupField σ α)}
    (has : decode.HasFields fields) {medium : Medium} {root : Source} {a : α}
    {said : List (String × Source) → Prop}
    (means : ∀ entries, (fields.Forall fun f => f.Means medium (under f.names entries) a) ↔
      said entries) :
    decode medium root = .ok a ↔
      ∃ entries, root.Lists (fields.map GroupField.names) entries ∧ said entries := by
  rcases has with ⟨g, rfl, has⟩
  rw [has.group_eq_ok_iff]
  exact exists_congr fun entries => and_congr_right fun _ => means entries

theorem required_eq_ok_iff {absent : String → DecodeError} {name : String} {slot : Option β}
    {content : β} : required absent name slot = .ok content ↔ slot = some content := by
  cases slot <;> simp [required]

end Decoder

end Workflow
