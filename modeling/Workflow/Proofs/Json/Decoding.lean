import Mathlib.Data.List.Forall2
import Workflow.Json.Decoder
import Workflow.Proofs.Dictionary

namespace Workflow

/-!
# Decoding what was encoded

What decoders make of single values, of lists and of objects in memory.  A group of fields that is
written as an object takes its members one after the other, so that an encoded structure is read
back member by member.  These are the laws by which structures are shown to be read back whole.
-/

section Results

variable {α β ε : Type}

theorem bind_eq_ok_iff {first : Except ε α} {next : α → Except ε β} {b : β} :
    (first >>= next) = .ok b ↔ ∃ a, first = .ok a ∧ next a = .ok b := by
  cases first <;> simp [bind, Except.bind]

theorem exists_of_bind_eq_ok {first : Except ε α} {next : α → Except ε β} {b : β}
    (done : (first >>= next) = .ok b) : ∃ a, first = .ok a ∧ next a = .ok b :=
  bind_eq_ok_iff.mp done

theorem map_eq_ok_iff {f : α → β} {result : Except ε α} {b : β} :
    result.map f = .ok b ↔ ∃ a, result = .ok a ∧ f a = b := by
  cases result <;> simp [Except.map]

theorem mapError_eq_ok_iff {ζ : Type} {rename : ε → ζ} {result : Except ε α} {a : α} :
    result.mapError rename = .ok a ↔ result = .ok a := by
  cases result <;> simp [Except.mapError]

/-- Reading what was written gives the items back if it does so for each of them. -/
theorem mapM_map_eq_ok {read : β → Except ε α} {write : α → β} {items : List α}
    (back : ∀ a ∈ items, read (write a) = .ok a) : (items.map write).mapM read = .ok items := by
  induction items with
  | nil => rfl
  | cons head rest inductionHypothesis =>
      have others := inductionHypothesis fun a member => back a (List.mem_cons_of_mem _ member)
      rw [List.map_cons, List.mapM_cons, back head List.mem_cons_self, others]
      rfl

theorem mapM_eq_ok_iff {read : β → Except ε α} {items : List β} {results : List α} :
    items.mapM read = .ok results ↔ List.Forall₂ (fun b a => read b = .ok a) items results := by
  induction items generalizing results with
  | nil =>
      rw [List.forall₂_nil_left_iff]
      exact ⟨fun done => (Except.ok.inj done).symm, fun none => none ▸ rfl⟩
  | cons head rest inductionHypothesis =>
      rw [List.mapM_cons]
      constructor
      · intro done
        rcases exists_of_bind_eq_ok done with ⟨a, first, later⟩
        rcases exists_of_bind_eq_ok later with ⟨others, read, ended⟩
        obtain rfl := Except.ok.inj ended
        exact .cons first (inductionHypothesis.mp read)
      · intro each
        cases each with
        | cons first others =>
            rw [first, inductionHypothesis.mpr others]
            rfl

theorem exists_of_mem_forall₂ {reads : β → α → Prop} {items : List β} {results : List α}
    (each : List.Forall₂ reads items results) {a : α} (member : a ∈ results) :
    ∃ b ∈ items, reads b a := by
  induction each with
  | nil => cases member
  | @cons head result rest others first _ inductionHypothesis =>
      rcases List.mem_cons.mp member with rfl | later
      · exact ⟨head, List.mem_cons_self, first⟩
      · rcases inductionHypothesis later with ⟨b, inside, read⟩
        exact ⟨b, List.mem_cons_of_mem _ inside, read⟩

theorem exists_of_mem_mapM_ok {read : β → Except ε α} {items : List β} {results : List α}
    (done : items.mapM read = .ok results) {a : α} (member : a ∈ results) :
    ∃ b ∈ items, read b = .ok a :=
  exists_of_mem_forall₂ (mapM_eq_ok_iff.mp done) member

/-- Where all results are there, each of them is. -/
theorem map_toOption_of_mapM_ok {read : β → Except ε α} {items : List β} {results : List α}
    (done : items.mapM read = .ok results) :
    items.map (fun b => (read b).toOption) = results.map some := by
  induction items generalizing results with
  | nil =>
      obtain rfl := Except.ok.inj done
      rfl
  | cons head rest inductionHypothesis =>
      rw [List.mapM_cons] at done
      rcases exists_of_bind_eq_ok done with ⟨result, first, done⟩
      rcases exists_of_bind_eq_ok done with ⟨others, later, done⟩
      obtain rfl := Except.ok.inj done
      rw [List.map_cons, List.map_cons, first, inductionHypothesis later]
      rfl

/-- The problem of a list is that of its first item with one, whatever problems are called. -/
theorem mapM_mapError {ζ : Type} (rename : ε → ζ) (read : β → Except ε α) (items : List β) :
    items.mapM (fun b => (read b).mapError rename) = (items.mapM read).mapError rename := by
  induction items with
  | nil => rfl
  | cons head rest inductionHypothesis =>
      rw [List.mapM_cons, List.mapM_cons, inductionHypothesis]
      cases read head with
      | error problem => rfl
      | ok a => cases rest.mapM read <;> rfl

/-- Where one of the results is missing, the first one that is missing is told. -/
theorem exists_of_mapM_eq_error {read : β → Except ε α} {items : List β} {problem : ε}
    (failed : items.mapM read = .error problem) :
    ∃ earlier b later, items = earlier ++ b :: later ∧ (∀ c ∈ earlier, ∃ a, read c = .ok a) ∧
      read b = .error problem := by
  induction items with
  | nil => cases failed
  | cons head rest inductionHypothesis =>
      rw [List.mapM_cons] at failed
      cases first : read head with
      | error other =>
          rw [first] at failed
          obtain rfl := Except.error.inj failed
          exact ⟨[], head, rest, rfl, List.forall_mem_nil _, first⟩
      | ok a =>
          cases others : rest.mapM read with
          | ok results =>
              rw [first, others] at failed
              cases failed
          | error other =>
              rw [first, others] at failed
              obtain rfl := Except.error.inj failed
              rcases inductionHypothesis others with ⟨earlier, b, later, split, read, missing⟩
              refine ⟨head :: earlier, b, later, congrArg (head :: ·) split, ?_, missing⟩
              exact List.forall_mem_cons.mpr ⟨⟨a, first⟩, read⟩

end Results

namespace Decoder

variable {α β σ : Type} (medium : Medium)

@[simp] theorem any_value (v : Json) : any medium (.value v) = .ok v := rfl

@[simp] theorem string_value (s : String) : string medium (.value (.string s)) = .ok s := rfl

@[simp] theorem bool_value (b : Bool) : bool medium (.value (.bool b)) = .ok b := rfl

@[simp] theorem double_value (d : Double) :
    double medium (.value (.number (.double d))) = .ok d := rfl

@[simp] theorem id_value (s : String) : Decoder.id medium (.value (.string s)) = .ok s := rfl

theorem integer_value {low high i : Int} (bounds : low ≤ i ∧ i < high) :
    integer low high medium (.value (.ofInt i)) = .ok i := if_pos bounds

@[simp] theorem object_value (o : Object) : object medium (.value (.ofObject o)) = .ok o := by
  have same : Dictionary.ofList o.entries = o := Dictionary.ofList_entries o
  exact congrArg Except.ok same

/-- A value that is not `null` is read as what it is. -/
theorem nullable_value (decode : Decoder α) {v : Json} (present : v ≠ .null) :
    nullable decode medium (.value v) = (decode medium (.value v)).map some := by
  cases v with
  | null => exact absurd rfl present
  | _ => rfl

@[simp] theorem nullable_string (s : String) :
    nullable string medium (.value (.string s)) = .ok (some s) := rfl

@[simp] theorem nullableString_value (s : String) :
    nullableString medium (.value (.string s)) = .ok s := rfl

@[simp] theorem nullable_object (o : Object) :
    nullable object medium (.value (.ofObject o)) = .ok (some o) := by
  have present : Json.ofObject o ≠ .null := by nofun
  rw [nullable_value medium object present, object_value]
  rfl

/-- A text is decoded as what it says, if it says no more. -/
theorem ofText_eq_ok_iff {decode : Decoder α} {text : String} {a : α} :
    ofText decode text = .ok a ↔
      ∃ root, Json.read text = ⟨root, false⟩ ∧ decode .text root = .ok a := by
  unfold ofText
  generalize Json.read text = document
  rcases document with ⟨root, trailing⟩
  dsimp only
  constructor
  · intro done
    rcases exists_of_bind_eq_ok done with ⟨value, decoded, ended⟩
    cases trailing with
    | true => cases ended
    | false =>
        obtain rfl := Except.ok.inj ended
        exact ⟨root, rfl, decoded⟩
  · rintro ⟨_, same, decoded⟩
    rcases Document.mk.inj same with ⟨rfl, rfl⟩
    rw [decoded]
    rfl

/-- A value that may be missing is read back if it is never written as `null`. -/
theorem nullable_ofOption {decode : Decoder α} {encode : α → Json} {slot : Option α}
    (present : ∀ a, encode a ≠ .null)
    (back : ∀ a ∈ slot, decode medium (.value (encode a)) = .ok a) :
    nullable decode medium (.value (.ofOption encode slot)) = .ok slot := by
  cases slot with
  | none => rfl
  | some a =>
      change nullable decode medium (.value (encode a)) = _
      rw [nullable_value medium decode (present a), back a rfl]
      rfl

/-- A list is read back if each of its items is. -/
theorem list_value {decode : Decoder α} {encode : α → Json} {items : List α}
    (back : ∀ a ∈ items, decode medium (.value (encode a)) = .ok a) :
    list decode medium (.value (.array (items.map encode))) = .ok items := by
  have each : ((items.map encode).map Source.value).mapM (decode medium) = .ok items := by
    rw [List.map_map]
    exact mapM_map_eq_ok back
  change (((items.map encode).map Source.value).mapM (decode medium) >>= _) = _
  rw [each]
  rfl

theorem nullable_list {decode : Decoder α} {encode : α → Json} {items : List α}
    (back : ∀ a ∈ items, decode medium (.value (encode a)) = .ok a) :
    nullable (list decode) medium (.value (.array (items.map encode))) = .ok (some items) := by
  change (list decode medium _).map some = _
  rw [list_value medium back]
  rfl

/-- A group that is written as an object takes the members in their order. -/
theorem members_value (g : Group σ α) (entries : List (String × Json)) :
    members g medium (.value (.object entries)) =
      (entries.foldlM (fun state entry => g.visit medium state entry.1 (.value entry.2)) g.start >>=
        g.finish .missingField) := by
  have visits : (entries.map fun entry => (some entry.1, Source.value entry.2)).foldlM
      (visitMember g medium) g.start = entries.foldlM (fun state entry =>
        g.visit medium state entry.1 (.value entry.2)) g.start := by
    rw [List.foldlM_map]
    rfl
  rw [← visits]
  rfl

theorem group_value (g : Group σ α) (entries : List (String × Json)) :
    group g medium (.value (.object entries)) =
      (entries.foldlM (fun state entry => g.visit medium state entry.1 (.value entry.2)) g.start >>=
        g.finish .missingField) := members_value medium g entries

end Decoder

end Workflow
