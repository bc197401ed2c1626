import Workflow.Proofs.Json.Decoding

namespace Workflow

/-!
# What a source says

A source is said here to be a text, an id, a list and so on, apart from any decoder.  Each decoder
of a single source is then shown to find in it just what it says, and the same in a text and in
memory; only the problem that is reported where it says nothing of the kind is left open.
-/

namespace Source

variable {α : Type}

/-- What sources say that must be one and have a value. -/
def Says (reads : Source → α → Prop) (sources : List Source) (a : α) : Prop :=
  ∃ source, sources = [source] ∧ reads source a

/-- What sources say that are one at most: a value, or else the one that is given. -/
inductive OrElse (reads : Source → α → Prop) (given : α) : List Source → α → Prop
  | absent : OrElse reads given [] given
  | value {source : Source} {a : α} (read : reads source a) : OrElse reads given [source] a

/-- What a source says that may be `null`. -/
inductive NullOr (reads : Source → α → Prop) : Source → Option α → Prop
  | null : NullOr reads (.value .null) none
  | value {source : Source} {a : α} (read : reads source a) : NullOr reads source (some a)

/-- What sources say that are one at most: nothing, also as `null`, or a value. -/
def MaySay (reads : Source → α → Prop) : List Source → Option α → Prop :=
  OrElse (NullOr reads) none

/-- The source is this text. -/
def IsText (source : Source) (s : String) : Prop := source = .value (.string s)

/-- The source is this truth value. -/
def IsFlag (source : Source) (b : Bool) : Prop := source = .value (.bool b)

/-- The source is this integer, which is within bounds. -/
def IsInteger (low high : Int) (source : Source) (i : Int) : Prop :=
  source = .value (.number (.integer i)) ∧ low ≤ i ∧ i < high

/-- The source is this natural number of 64 bits. -/
def IsNatural (source : Source) (n : Nat) : Prop := source.IsInteger 0 (Int.pow 2 64) n

/-- The source is this number of 32 bits. -/
def IsWord (source : Source) (w : UInt32) : Prop :=
  source = .value (.number (.integer w.toNat))

/-- The source is a number, and this double is the nearest one to it. -/
def IsDouble (source : Source) (d : Double) : Prop :=
  ∃ n, source = .value (.number n) ∧ n.toDouble = d

/-- The source says this value, all of which can be read. -/
def IsValue (source : Source) (v : Json) : Prop := source.toJson? = some v

/-- The source says this value, which is not `null`. -/
def IsPresent (source : Source) (v : Json) : Prop := source.IsValue v ∧ v ≠ .null

/-- The source says an object with these members. -/
def IsObject (source : Source) (o : Object) : Prop :=
  ∃ members, source.IsValue (.object members) ∧ Dictionary.ofList members = o

/-- The text of a value that is an id: a string as it is, or a number as it is written. -/
inductive IdText : Json → String → Prop
  | string (s : String) : IdText (.string s) s
  | number (n : Number) : IdText (.number n) (Json.numberText n)

/-- The source says an id with this text. -/
def IsId (source : Source) (name : String) : Prop := ∃ v, source.IsValue v ∧ IdText v name

/-- The source is an array of items that are read as these values. -/
def IsList (reads : Source → α → Prop) (source : Source) (values : List α) : Prop :=
  ∃ items, source.items? = some (items, true) ∧ List.Forall₂ reads items values

/-- The source is one of some named values: its name, or an object with `null` under its name. -/
def IsNamed (name : α → String) (source : Source) (a : α) : Prop :=
  source = .value (.string (name a)) ∨
    source.members? = some ([(some (name a), .value .null)], true)

/-- The source is this text, for which `null` may stand if it is empty. -/
def IsNullableText (source : Source) (s : String) : Prop :=
  ∃ text, NullOr IsText source text ∧ text.getD "" = s

mutual

/-- A source that says a value keeps to the grammar. -/
theorem grammatical_of_toJson? : ∀ {source : Source} {v : Json},
    source.toJson? = some v → source.grammatical = true
  | .value _, _, _ => rfl
  | .array items complete, _, said => by
      rw [toJson?] at said
      split at said
      · next whole =>
        rcases Option.map_eq_some_iff.mp said with ⟨values, each, _⟩
        rw [grammatical, itemsGrammatical_of_itemsToJson? each, whole, Bool.and_self]
      · cases said
  | .object members complete, _, said => by
      rw [toJson?] at said
      split at said
      · next whole =>
        rcases Option.map_eq_some_iff.mp said with ⟨values, each, _⟩
        rw [grammatical, membersGrammatical_of_membersToJson? each, whole, Bool.and_self]
      · cases said
  | .valueless, _, said => by cases said
  | .broken, _, said => by cases said

theorem itemsGrammatical_of_itemsToJson? : ∀ {items : List Source} {values : List Json},
    itemsToJson? items = some values → itemsGrammatical items = true
  | [], _, _ => rfl
  | item :: rest, _, said => by
      unfold itemsToJson? at said
      split at said
      · next first others =>
        rw [itemsGrammatical, grammatical_of_toJson? first,
          itemsGrammatical_of_itemsToJson? others, Bool.and_self]
      · cases said

theorem membersGrammatical_of_membersToJson? :
    ∀ {members : List (Option String × Source)} {values : List (String × Json)},
      membersToJson? members = some values → membersGrammatical members = true
  | [], _, _ => rfl
  | (key, inner) :: rest, _, said => by
      unfold membersToJson? at said
      split at said
      · next first others =>
        rw [membersGrammatical, grammatical_of_toJson? first,
          membersGrammatical_of_membersToJson? others, Bool.and_self]
      · cases said

end

theorem toJson?_eq_null_iff {source : Source} :
    source.toJson? = some .null ↔ source = .value .null := by
  cases source with
  | value v => simp [toJson?]
  | array items complete => simp [toJson?]
  | object members complete => simp [toJson?, Json.ofObject]
  | valueless => simp [toJson?]
  | broken => simp [toJson?]

end Source

namespace Decoder

open Source

variable {α : Type}

variable {medium : Medium} {source : Source}

theorem any_eq_ok_iff {v : Json} : any medium source = .ok v ↔ source.IsValue v := by
  unfold any IsValue
  cases source.toJson? <;> simp

theorem string_eq_ok_iff {s : String} : string medium source = .ok s ↔ source.IsText s := by
  unfold string IsText
  split
  · next found => simp
  · next other =>
    constructor
    · intro done
      cases done
    · rintro rfl
      exact absurd rfl (other s)

theorem bool_eq_ok_iff {b : Bool} : bool medium source = .ok b ↔ source.IsFlag b := by
  unfold bool IsFlag
  split
  · next found => simp
  · next other =>
    constructor
    · intro done
      cases done
    · rintro rfl
      exact absurd rfl (other b)

theorem integer_eq_ok_iff {low high i : Int} :
    integer low high medium source = .ok i ↔ source.IsInteger low high i := by
  unfold integer IsInteger
  split
  · next found =>
    split
    · next bounds =>
      constructor
      · intro done
        obtain rfl := Except.ok.inj done
        exact ⟨rfl, bounds⟩
      · rintro ⟨same, _⟩
        cases same
        rfl
    · next bounds =>
      constructor
      · intro done
        cases done
      · rintro ⟨same, within⟩
        cases same
        exact absurd within bounds
  · next other =>
    constructor
    · intro done
      cases done
    · rintro ⟨rfl, _⟩
      exact absurd rfl (other i)

theorem double_eq_ok_iff {d : Double} : double medium source = .ok d ↔ source.IsDouble d := by
  unfold double IsDouble
  split
  · next n =>
    constructor
    · intro done
      exact ⟨n, rfl, Except.ok.inj done⟩
    · rintro ⟨_, same, rfl⟩
      cases same
      rfl
  · next other =>
    constructor
    · intro done
      cases done
    · rintro ⟨n, rfl, _⟩
      exact absurd rfl (other n)

theorem object_eq_ok_iff {o : Object} : object medium source = .ok o ↔ source.IsObject o := by
  unfold object IsObject IsValue
  cases found : source.members? with
  | none =>
      have noObject : ∀ members, source.toJson? ≠ some (.object members) := by
        intro members said
        cases source with
        | value v =>
            obtain rfl := Option.some.inj said
            cases found
        | array items complete => simp [toJson?] at said
        | object members complete => cases found
        | valueless | broken => cases said
      simp [noObject]
  | some members =>
      dsimp only
      split
      · next said => simp [said]
      · next other =>
        constructor
        · intro done
          cases done
        · rintro ⟨members, said, _⟩
          exact absurd said (other members)

/-- An id is read as the text that it is written with. -/
theorem id_eq_ok_iff {name : String} : Decoder.id medium source = .ok name ↔ source.IsId name := by
  unfold Decoder.id IsId
  constructor
  · intro done
    rcases exists_of_bind_eq_ok done with ⟨v, read, named⟩
    refine ⟨v, any_eq_ok_iff.mp read, ?_⟩
    cases v with
    | string s =>
        obtain rfl := Except.ok.inj named
        exact .string s
    | number n =>
        obtain rfl := Except.ok.inj named
        exact .number n
    | null | bool b | array items | object members => cases named
  · rintro ⟨v, read, text⟩
    rw [any_eq_ok_iff.mpr read]
    cases text with
    | string s => rfl
    | number n => rfl

/-- A list is decoded item by item, if its end was read. -/
theorem list_eq_ok_iff {decode : Decoder α} {reads : Source → α → Prop}
    (read : ∀ item a, decode medium item = .ok a ↔ reads item a) {values : List α} :
    list decode medium source = .ok values ↔ source.IsList reads values := by
  have same : (fun item a => decode medium item = .ok a) = reads :=
    funext₂ fun item a => propext (read item a)
  rw [← same]
  unfold list IsList
  cases source.items? with
  | none => simp
  | some found =>
      rcases found with ⟨items, complete⟩
      dsimp only
      constructor
      · intro done
        rcases exists_of_bind_eq_ok done with ⟨results, read, ended⟩
        cases complete with
        | false => cases ended
        | true =>
            obtain rfl := Except.ok.inj ended
            exact ⟨items, rfl, mapM_eq_ok_iff.mp read⟩
      · rintro ⟨_, same, read⟩
        rcases Prod.mk.inj (Option.some.inj same) with ⟨rfl, rfl⟩
        rw [mapM_eq_ok_iff.mpr read]
        rfl

/-- A value that may be `null` is decoded as what its decoder finds, if that finds nothing in
`null`. -/
theorem nullable_eq_ok_iff {decode : Decoder α} {reads : Source → α → Prop}
    (read : ∀ source a, source ≠ .value .null → (decode medium source = .ok a ↔ reads source a))
    (null : ∀ a, ¬reads (.value .null) a) {value : Option α} :
    nullable decode medium source = .ok value ↔ NullOr reads source value := by
  by_cases isNull : source = .value .null
  · subst isNull
    constructor
    · intro done
      obtain rfl : none = value := Except.ok.inj done
      exact .null
    · intro said
      cases said with
      | null => rfl
      | value found => exact absurd found (null _)
  · have same : nullable decode medium source = (decode medium source).map some := by
      unfold nullable
      split
      · exact absurd rfl isNull
      · rfl
    rw [same, map_eq_ok_iff]
    constructor
    · rintro ⟨a, found, rfl⟩
      exact .value ((read source a isNull).mp found)
    · intro said
      cases said with
      | null => exact absurd rfl isNull
      | @value _ a found => exact ⟨a, (read source a isNull).mpr found, rfl⟩

theorem nullable_string_eq_ok_iff {value : Option String} :
    nullable string medium source = .ok value ↔ NullOr IsText source value :=
  nullable_eq_ok_iff (fun _ _ _ => string_eq_ok_iff) fun _ said => by cases said

theorem nullableString_eq_ok_iff {s : String} :
    nullableString medium source = .ok s ↔ source.IsNullableText s := by
  unfold nullableString IsNullableText
  simp only [map_eq_ok_iff, nullable_string_eq_ok_iff]

theorem nullable_object_eq_ok_iff {value : Option Object} :
    nullable object medium source = .ok value ↔ NullOr IsObject source value := by
  refine nullable_eq_ok_iff (fun _ _ _ => object_eq_ok_iff) ?_
  rintro o ⟨members, said, _⟩
  cases said

theorem nullable_any_eq_ok_iff {value : Option Json} :
    nullable any medium source = .ok value ↔ NullOr IsPresent source value := by
  refine nullable_eq_ok_iff (fun source v present => ?_) ?_
  · rw [any_eq_ok_iff]
    constructor
    · intro said
      refine ⟨said, ?_⟩
      rintro rfl
      exact present (toJson?_eq_null_iff.mp said)
    · exact fun said => said.1
  · rintro v ⟨said, present⟩
    exact present (Option.some.inj said).symm

theorem nullable_list_eq_ok_iff {decode : Decoder α} {reads : Source → α → Prop}
    (read : ∀ item a, decode medium item = .ok a ↔ reads item a) {value : Option (List α)} :
    nullable (list decode) medium source = .ok value ↔ NullOr (IsList reads) source value := by
  refine nullable_eq_ok_iff (fun _ _ _ => list_eq_ok_iff read) ?_
  rintro values ⟨items, found, _⟩
  cases found

/-- A named value is decoded from its name, if the names are told apart. -/
theorem variant_eq_ok_iff {named : String → Option α} {name : α → String}
    (read : ∀ s a, named s = some a ↔ name a = s) {a : α} :
    variant named medium source = .ok a ↔ source.IsNamed name a := by
  unfold variant IsNamed
  split
  · next s =>
    have same : Source.value (.string s) = .value (.string (name a)) ↔ name a = s := by
      simp [eq_comm]
    rw [same, ← read]
    cases named s <;> simp [members?]
  · next other =>
    have noText : source ≠ .value (.string (name a)) := other _
    cases source.members? with
    | none => simp [noText]
    | some found =>
        rcases found with ⟨_ | ⟨⟨_ | key, content⟩, rest⟩, complete⟩
        · simp [noText]
        · simp [noText]
        · dsimp only
          by_cases sole : rest = [] ∧ complete = true
          · rcases sole with ⟨rfl, rfl⟩
            by_cases null : content = .value .null
            · subst null
              have same : some ([(some key, Source.value .null)], true) =
                  some ([(some (name a), .value .null)], true) ↔ name a = key := by
                simp [eq_comm]
              rw [same, ← read]
              cases named key <;> simp [noText]
            · cases named key <;> simp [noText, null]
          · -- Any other member, or an end that was not read, is one thing too many.
            have extra :
                (!complete || decide (1 < ((some key, content) :: rest).length)) = true := by
              cases rest with
              | nil =>
                  cases complete with
                  | false => rfl
                  | true => exact absurd ⟨rfl, rfl⟩ sole
              | cons m others => simp
            have longer :
                (((some key, content) :: rest, complete) : List (Option String × Source) × Bool) ≠
                  ([(some (name a), .value .null)], true) := by
              intro same
              rcases Prod.mk.inj same with ⟨members, ended⟩
              exact sole ⟨(List.cons.inj members).2, ended⟩
            simp only [noText, extra, Option.some.injEq, longer, or_self, iff_false, if_true]
            intro done
            split at done
            · cases done
            · split at done
              · cases done
              · split at done
                · cases done
                · cases done

end Decoder

end Workflow

