namespace Workflow

/-!
# Dictionaries in key order

A finite map from strings, kept as its entries in strictly ascending order of the keys.  The order
of keys is the order of their code points, which is also the order of their UTF-8 bytes.  Two
dictionaries with the same entries are equal, whatever the order of the insertions.
-/

/-- Entries in ascending order of the keys, so that no key occurs twice. -/
structure Dictionary (α : Type) where
  entries : List (String × α)
  ascending : entries.Pairwise fun a b => a.1 < b.1

namespace Dictionary

variable {α : Type}

/-- Puts a key among ascending entries, in place of the entry it has, if any. -/
def insertEntry (key : String) (value : α) : List (String × α) → List (String × α)
  | [] => [(key, value)]
  | (k, v) :: rest =>
    if key < k then (key, value) :: (k, v) :: rest
    else if k < key then (k, v) :: insertEntry key value rest
    else (key, value) :: rest

theorem mem_insertEntry {key : String} {value : α} {entries : List (String × α)}
    {entry : String × α} (member : entry ∈ insertEntry key value entries) :
    entry = (key, value) ∨ entry ∈ entries := by
  induction entries with
  | nil => exact Or.inl (List.mem_singleton.1 member)
  | cons head rest inductionHypothesis =>
    rcases head with ⟨k, v⟩
    rw [insertEntry] at member
    by_cases before : key < k
    · rw [if_pos before] at member
      exact List.mem_cons.1 member
    · rw [if_neg before] at member
      by_cases after : k < key
      · rw [if_pos after] at member
        rcases List.mem_cons.1 member with same | inside
        · rw [same]
          exact Or.inr List.mem_cons_self
        · exact (inductionHypothesis inside).imp_right (List.mem_cons_of_mem _)
      · rw [if_neg after] at member
        exact (List.mem_cons.1 member).imp_right (List.mem_cons_of_mem _)

theorem insertEntry_ascending (key : String) (value : α) {entries : List (String × α)}
    (ascending : entries.Pairwise fun a b => a.1 < b.1) :
    (insertEntry key value entries).Pairwise fun a b => a.1 < b.1 := by
  induction entries with
  | nil => exact List.pairwise_singleton _ _
  | cons head rest inductionHypothesis =>
    rcases head with ⟨k, v⟩
    rcases List.pairwise_cons.1 ascending with ⟨above, restAscending⟩
    rw [insertEntry]
    by_cases before : key < k
    · rw [if_pos before]
      refine List.pairwise_cons.2 ⟨?_, ascending⟩
      intro entry member
      rcases List.mem_cons.1 member with same | inside
      · rw [same]
        exact before
      · exact String.lt_trans before (above entry inside)
    · rw [if_neg before]
      by_cases after : k < key
      · rw [if_pos after]
        refine List.pairwise_cons.2 ⟨?_, inductionHypothesis restAscending⟩
        intro entry member
        rcases mem_insertEntry member with same | inside
        · rw [same]
          exact after
        · exact above entry inside
      · rw [if_neg after]
        have same : k = key :=
          String.le_antisymm (String.not_lt.1 before) (String.not_lt.1 after)
        subst same
        exact List.pairwise_cons.2 ⟨above, restAscending⟩

/-- The dictionary with no entry. -/
def empty : Dictionary α := ⟨[], List.Pairwise.nil⟩

instance : Inhabited (Dictionary α) := ⟨empty⟩

/-- The value of a key. -/
def get? (d : Dictionary α) (key : String) : Option α := d.entries.lookup key

/-- Gives a key a value, in place of the one it has. -/
def insert (d : Dictionary α) (key : String) (value : α) : Dictionary α :=
  ⟨insertEntry key value d.entries, insertEntry_ascending key value d.ascending⟩

/-- Drops a key and its value. -/
def erase (d : Dictionary α) (key : String) : Dictionary α :=
  ⟨d.entries.filter (fun entry => entry.1 != key), d.ascending.filter _⟩

/-- All entries of a list, a later one in place of an earlier one with the same key. -/
def ofList (entries : List (String × α)) : Dictionary α :=
  entries.foldl (fun d entry => d.insert entry.1 entry.2) empty

/-- The values, in the order of their keys. -/
def values (d : Dictionary α) : List α := d.entries.map Prod.snd

/-- How many keys have a value. -/
def size (d : Dictionary α) : Nat := d.entries.length

/-- No key has a value. -/
def isEmpty (d : Dictionary α) : Bool := d.entries.isEmpty

/-- Some value belongs to the key. -/
def contains (d : Dictionary α) (key : String) : Bool := (d.get? key).isSome

end Dictionary

end Workflow
