import Workflow.Proofs.Json.Decoding
import Workflow.Proofs.Json.Readable

namespace Workflow

/-!
# Decoding a text and decoding its value

A decoder sees a text as a source of its own, so it is not clear that it finds in the text of a
value what it finds in the value.  For a value that was written it does: every member of an object
occurs once in the text, and everything in it can be read.  Data is taken as a whole, and there it
must be a value that a text can say, since the reader sorts the members of objects.
-/

section Results

variable {α β ε σ : Type} {items : List α}

theorem mapM_congr_of_mem {read other : α → Except ε β} (same : ∀ a ∈ items, read a = other a) :
    items.mapM read = items.mapM other := by
  induction items with
  | nil => rfl
  | cons head rest inductionHypothesis =>
      have others := inductionHypothesis fun a member => same a (List.mem_cons_of_mem _ member)
      rw [List.mapM_cons, List.mapM_cons, same head List.mem_cons_self, others]

theorem foldlM_congr_of_mem {step other : σ → α → Except ε σ}
    (same : ∀ a ∈ items, ∀ state, step state a = other state a) (state : σ) :
    items.foldlM step state = items.foldlM other state := by
  induction items generalizing state with
  | nil => rfl
  | cons head rest inductionHypothesis =>
      rw [List.foldlM_cons, List.foldlM_cons, same head List.mem_cons_self]
      refine congrArg (other state head >>= ·) (funext fun next => ?_)
      exact inductionHypothesis (fun a member => same a (List.mem_cons_of_mem _ member)) next

end Results

namespace Decoder

variable {α β σ : Type}

/-- A decoder finds in the text of a value what it finds in the value. -/
def Alike (decode : Decoder α) (v : Json) : Prop :=
  ∀ medium, decode medium v.toSource = decode medium (.value v)

theorem alike_object {room : Nat} {o : Object} (readable : (Json.ofObject o).Readable room) :
    Alike object (.ofObject o) := by
  intro medium
  have said : (Json.ofObject o).toSource.toJson? = some (.ofObject o) := readable.toJson?_toSource
  unfold Json.ofObject at *
  rw [Json.toSource_object] at *
  unfold object
  rw [said]
  rfl

theorem alike_nullable {decode : Decoder α} {v : Json} (alike : Alike decode v) :
    Alike (nullable decode) v := by
  intro medium
  have same := alike medium
  cases v with
  | null | bool | number | string => rfl
  | array items =>
      rw [Json.toSource_array] at same ⊢
      exact congrArg (Except.map some) same
  | object members =>
      rw [Json.toSource_object] at same ⊢
      exact congrArg (Except.map some) same

theorem alike_andThen {decode : Decoder α} {v : Json} (alike : Alike decode v)
    (convert : α → Except DecodeError β) : Alike (andThen decode convert) v := by
  intro medium
  unfold andThen
  rw [alike medium]

theorem alike_list {decode : Decoder α} {items : List Json}
    (each : ∀ item ∈ items, Alike decode item) : Alike (list decode) (.array items) := by
  intro medium
  have same : (items.map Json.toSource).mapM (decode medium) =
      (items.map Source.value).mapM (decode medium) := by
    rw [List.mapM_map, List.mapM_map]
    exact mapM_congr_of_mem fun item member => each item member medium
  rw [Json.toSource_array]
  exact congrArg (· >>= fun values => if true then pure values else throw .malformed) same

/-- A group is decoded alike if each of its members is visited alike. -/
theorem alike_group {g : Group σ α} {members : List (String × Json)}
    (each : ∀ m ∈ members, ∀ medium state,
      g.visit medium state m.1 m.2.toSource = g.visit medium state m.1 (.value m.2)) :
    Alike (group g) (.object members) := by
  intro medium
  have visits : (members.map fun m => (some m.1, m.2.toSource)).foldlM (visitMember g medium)
      g.start = members.foldlM (fun state m => g.visit medium state m.1 (.value m.2)) g.start := by
    rw [List.foldlM_map]
    exact foldlM_congr_of_mem (fun m member state => each m member medium state) g.start
  rw [group_value, Json.toSource_object, ← visits]
  rfl

end Decoder

end Workflow
