import Workflow.Dictionary

namespace Workflow

/-!
# Looking up what was put in

A dictionary is known by its entries, and its entries by what can be looked up.  Putting a key in
changes the value of that key only, and so putting the entries of a dictionary into an empty one
gives the dictionary back.
-/

namespace Dictionary

variable {α : Type}

private theorem lookup_cons_eq_if (key k : String) (v : α) (rest : List (String × α)) :
    List.lookup key ((k, v) :: rest) = if key = k then some v else rest.lookup key := by
  by_cases same : key = k
  · simp [same]
  · have missed : (key == k) = false := beq_eq_false_iff_ne.mpr same
    rw [List.lookup_cons, missed, if_neg same]

theorem lookup_insertEntry (key other : String) (value : α) (entries : List (String × α)) :
    (insertEntry key value entries).lookup other =
      if other = key then some value else entries.lookup other := by
  induction entries with
  | nil => exact lookup_cons_eq_if other key value []
  | cons head rest inductionHypothesis =>
      rcases head with ⟨k, v⟩
      rw [insertEntry]
      split
      · rw [lookup_cons_eq_if]
      · split
        · next notBelow below =>
          have different : key ≠ k := (String.ne_of_lt below).symm
          rw [lookup_cons_eq_if, lookup_cons_eq_if, inductionHypothesis]
          by_cases same : other = key
          · rw [same, if_pos rfl, if_pos rfl, if_neg different]
          · rw [if_neg same, if_neg same]
        · next notBelow notAbove =>
          have same : k = key :=
            String.le_antisymm (String.not_lt.1 notBelow) (String.not_lt.1 notAbove)
          subst same
          rw [lookup_cons_eq_if, lookup_cons_eq_if]
          by_cases hit : other = k
          · rw [if_pos hit, if_pos hit]
          · rw [if_neg hit, if_neg hit, if_neg hit]

theorem get?_insert (d : Dictionary α) (key other : String) (value : α) :
    (d.insert key value).get? other = if other = key then some value else d.get? other :=
  lookup_insertEntry key other value d.entries

/-- No entry is found for a key that is below all of the keys. -/
theorem lookup_eq_none_of_forall_lt {key : String} {entries : List (String × α)}
    (above : ∀ entry ∈ entries, key < entry.1) : entries.lookup key = none := by
  rw [List.lookup_eq_none_iff]
  intro entry member
  exact bne_iff_ne.mpr (String.ne_of_lt (above entry member))

/-- Among ascending entries each can be looked up. -/
theorem lookup_eq_some_iff {entries : List (String × α)}
    (ascending : entries.Pairwise fun a b => a.1 < b.1) {key : String} {value : α} :
    entries.lookup key = some value ↔ (key, value) ∈ entries := by
  induction entries with
  | nil => simp
  | cons head rest inductionHypothesis =>
      rcases head with ⟨k, v⟩
      rcases List.pairwise_cons.mp ascending with ⟨above, restAscending⟩
      rw [lookup_cons_eq_if, List.mem_cons, Prod.mk.injEq]
      by_cases same : key = k
      · subst same
        have absent : (key, value) ∉ rest := fun member =>
          String.lt_irrefl key (above (key, value) member)
        simp [absent, eq_comm]
      · simp [same, inductionHypothesis restAscending]

theorem get?_eq_some_iff {d : Dictionary α} {key : String} {value : α} :
    d.get? key = some value ↔ (key, value) ∈ d.entries := lookup_eq_some_iff d.ascending

/-- A dictionary is known by what can be looked up. -/
theorem eq_of_get?_eq {d other : Dictionary α} (same : ∀ key, d.get? key = other.get? key) :
    d = other := by
  have different (d : Dictionary α) : d.entries.Nodup :=
    d.ascending.imp fun below equal => String.ne_of_lt below (congrArg Prod.fst equal)
  have members : d.entries.Perm other.entries := by
    rw [List.perm_ext_iff_of_nodup (different d) (different other)]
    rintro ⟨key, value⟩
    rw [← get?_eq_some_iff, ← get?_eq_some_iff, same key]
  have entries : d.entries = other.entries := by
    refine members.eq_of_pairwise ?_ d.ascending other.ascending
    intro a b _ _ below above
    exact absurd (String.lt_trans below above) (String.lt_irrefl a.1)
  rcases d with ⟨_, _⟩
  rcases other with ⟨_, _⟩
  obtain rfl := entries
  rfl

/-- Entries that are put in take the place of those with their keys. -/
theorem get?_foldl_insert {entries : List (String × α)}
    (ascending : entries.Pairwise fun a b => a.1 < b.1) (d : Dictionary α) (key : String) :
    (entries.foldl (fun d entry => d.insert entry.1 entry.2) d).get? key =
      (entries.lookup key).or (d.get? key) := by
  induction entries generalizing d with
  | nil => rfl
  | cons head rest inductionHypothesis =>
      rcases head with ⟨k, v⟩
      rcases List.pairwise_cons.mp ascending with ⟨above, restAscending⟩
      rw [List.foldl_cons, inductionHypothesis restAscending, get?_insert, lookup_cons_eq_if]
      by_cases same : key = k
      · subst same
        rw [if_pos rfl, if_pos rfl, lookup_eq_none_of_forall_lt above, Option.none_or,
          Option.some_or]
      · rw [if_neg same, if_neg same]

@[simp] theorem ofList_entries (d : Dictionary α) : ofList d.entries = d := by
  apply eq_of_get?_eq
  intro key
  calc
    (ofList d.entries).get? key = (d.entries.lookup key).or (empty.get? key) :=
      get?_foldl_insert d.ascending empty key
    _ = d.get? key := Option.or_none

/-- Whatever is in a dictionary was in it or was put in. -/
theorem mem_of_mem_foldl_insert {entries : List (String × α)} {entry : String × α}
    {d : Dictionary α}
    (member : entry ∈ (entries.foldl (fun d entry => d.insert entry.1 entry.2) d).entries) :
    entry ∈ d.entries ∨ entry ∈ entries := by
  induction entries generalizing d with
  | nil => exact .inl member
  | cons head rest inductionHypothesis =>
      rcases inductionHypothesis member with before | later
      · rcases mem_insertEntry before with rfl | old
        · exact .inr List.mem_cons_self
        · exact .inl old
      · exact .inr (List.mem_cons_of_mem _ later)

theorem mem_of_mem_ofList {entries : List (String × α)} {entry : String × α}
    (member : entry ∈ (ofList entries).entries) : entry ∈ entries := by
  rcases mem_of_mem_foldl_insert member with none | inside
  · cases none
  · exact inside

end Dictionary

end Workflow
