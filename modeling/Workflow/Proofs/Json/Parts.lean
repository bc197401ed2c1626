import Workflow.Proofs.Json.Fields
import Workflow.Proofs.Json.Readable

namespace Workflow

/-!
# What is said comes from the parts of a source

A list or a group has each of its items and fields from one of the sources that its own source
holds.  This is said of any source, a text or a value, and in any of the forms in which a group can
be written, so that what holds of the parts of a source can be followed to what it says.
-/

/-- The sources that a container holds. -/
def Source.parts (source : Source) : List Source :=
  match source.items? with
  | some (items, _) => items
  | none =>
    match source.members? with
    | some (members, _) => members.map Prod.snd
    | none => []

/-- The parts of a source have one place less. -/
theorem Source.Within.parts {room : Nat} {source : Source} (within : source.Within room)
    {inner : Source} (member : inner ∈ source.parts) : inner.Within (room - 1) := by
  cases within with
  | valueless => cases member
  | broken => cases member
  | array each complete => exact each inner member
  | object each complete =>
      rcases List.mem_map.mp member with ⟨m, inside, rfl⟩
      exact each m inside
  | @value _ v readable =>
      -- A value that needs no room is no container.
      have flat := readable 0
      cases flat <;> cases member

namespace Source

variable {α : Type} {reads : Source → α → Prop} {root : Source}

/-- The entries that a source has for some fields are parts of it. -/
theorem Lists.mem_parts {fields : List (List String)} {entries : List (String × Source)}
    (lists : root.Lists fields entries) {m : String × Source} (member : m ∈ entries) :
    m.2 ∈ root.parts := by
  unfold parts
  rcases lists.form with members | ⟨items, forms, _, rfl⟩
  · cases found : root.items? with
    | some items =>
        rw [members?_eq_none_of_items? found] at members
        cases members
    | none =>
        rw [members]
        dsimp only
        rw [List.map_map]
        exact List.mem_map_of_mem member
  · rw [forms]
    exact (List.of_mem_zip member).2

theorem exists_of_isList {source : Source} {values : List α} (said : source.IsList reads values)
    {a : α} (member : a ∈ values) : ∃ inner ∈ source.parts, reads inner a := by
  rcases said with ⟨items, found, each⟩
  rcases exists_of_mem_forall₂ each member with ⟨inner, inside, read⟩
  refine ⟨inner, ?_, read⟩
  unfold parts
  rw [found]
  exact inside

section Entries

variable {fields : List (List String)} {names : List String} {entries : List (String × Source)}

/-- What is under some names is a part of the source. -/
theorem Lists.mem_parts_of_under (lists : root.Lists fields entries) {source : Source}
    (member : source ∈ under names entries) : source ∈ root.parts := by
  rcases List.mem_filterMap.mp member with ⟨m, inside, taken⟩
  split at taken
  · obtain rfl := Option.some.inj taken
    exact lists.mem_parts inside
  · cases taken

theorem Lists.exists_of_says (lists : root.Lists fields entries) {a : α}
    (said : Says reads (under names entries) a) : ∃ inner ∈ root.parts, reads inner a := by
  rcases said with ⟨source, sole, read⟩
  exact ⟨source, lists.mem_parts_of_under (sole ▸ List.mem_singleton_self source), read⟩

theorem Lists.eq_or_exists_of_orElse (lists : root.Lists fields entries) {given a : α}
    (said : OrElse reads given (under names entries) a) :
    a = given ∨ ∃ inner ∈ root.parts, reads inner a := by
  generalize sources : under names entries = found at said
  cases said with
  | absent => exact .inl rfl
  | value read =>
      exact .inr ⟨_, lists.mem_parts_of_under (sources ▸ List.mem_singleton_self _), read⟩

theorem Lists.exists_of_maySay (lists : root.Lists fields entries) {a : α}
    (said : MaySay reads (under names entries) (some a)) :
    ∃ inner ∈ root.parts, reads inner a := by
  rcases lists.eq_or_exists_of_orElse said with none | ⟨inner, inside, found⟩
  · cases none
  · cases found with
    | value read => exact ⟨inner, inside, read⟩

end Entries

/-- An object that is data can be said by a text, if its source is within its room. -/
theorem Within.readable_of_isObject {room : Nat} {source : Source} (within : source.Within room)
    {o : Object} (said : source.IsObject o) : (Json.ofObject o).Readable room := by
  rcases said with ⟨members, value, rfl⟩
  have readable := within.readable value
  cases readable with
  | object ascending each =>
      have sorted : Dictionary.ofList members = ⟨members, ascending⟩ :=
        Dictionary.ofList_entries ⟨members, ascending⟩
      rw [sorted]
      exact .object ascending each

end Source

/-- What is decoded from a text is decoded from what is read of it. -/
theorem Decoder.root_of_ofText {α : Type} {decode : Decoder α} {text : String} {a : α}
    (done : ofText decode text = .ok a) : decode .text (Json.read text).root = .ok a := by
  rcases ofText_eq_ok_iff.mp done with ⟨root, read, decoded⟩
  rw [read]
  exact decoded

end Workflow
