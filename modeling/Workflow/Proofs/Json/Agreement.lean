import Workflow.Json.Basic

namespace Workflow

/-!
# When two values agree

Agreement of values is equality, but for the sign of a zero: of the two zeros one is as good as the
other, at any depth of a value.  In particular an integer and a double never agree, nor do objects
with their members in different orders.
-/

/-- The double, a zero without its sign. -/
def Double.unsignZero (d : Double) : Double := if d.mantissa = 0 then zero false else d

/-- The number, a zero without its sign. -/
def Number.unsignZero : Number → Number
  | .integer i => .integer i
  | .double d => .double d.unsignZero

theorem Double.equal_iff (a b : Double) : a.equal b = true ↔ a.unsignZero = b.unsignZero := by
  have zeroMantissa : (zero false).mantissa = 0 := rfl
  unfold equal unsignZero
  rw [Bool.or_eq_true, Bool.and_eq_true, beq_iff_eq, beq_iff_eq, beq_iff_eq]
  by_cases first : a.mantissa = 0
  · by_cases second : b.mantissa = 0
    · simp [first, second]
    · have different : a ≠ b := fun same => second (same ▸ first)
      have apart : zero false ≠ b := fun same => second (same ▸ zeroMantissa)
      simp [first, second, different, apart]
  · by_cases second : b.mantissa = 0
    · have different : a ≠ b := fun same => first (same ▸ second)
      have apart : a ≠ zero false := fun same => first (same ▸ zeroMantissa)
      simp [first, second, different, apart]
    · simp [first, second]

theorem Number.agrees_iff (a b : Number) : a.agrees b = true ↔ a.unsignZero = b.unsignZero := by
  cases a <;> cases b <;> simp [agrees, unsignZero, Double.equal_iff]

namespace Json

mutual

/-- The value, its zeros without their signs. -/
def unsignZeros : Json → Json
  | .null => .null
  | .bool b => .bool b
  | .number n => .number n.unsignZero
  | .string s => .string s
  | .array items => .array (unsignItemZeros items)
  | .object members => .object (unsignMemberZeros members)

/-- The items of an array, their zeros without their signs. -/
def unsignItemZeros : List Json → List Json
  | [] => []
  | item :: rest => unsignZeros item :: unsignItemZeros rest

/-- The members of an object, their zeros without their signs. -/
def unsignMemberZeros : List (String × Json) → List (String × Json)
  | [] => []
  | (key, value) :: rest => (key, unsignZeros value) :: unsignMemberZeros rest

end

mutual

/-- Values agree when they are the same but for the signs of zeros. -/
theorem agrees_iff : ∀ a b : Json, a.agrees b = true ↔ a.unsignZeros = b.unsignZeros
  | .null, b => by cases b <;> simp [agrees, unsignZeros]
  | .bool _, b => by cases b <;> simp [agrees, unsignZeros]
  | .number _, b => by cases b <;> simp [agrees, unsignZeros, Number.agrees_iff]
  | .string _, b => by cases b <;> simp [agrees, unsignZeros]
  | .array items, b => by cases b <;> simp [agrees, unsignZeros, itemsAgree_iff items]
  | .object members, b => by cases b <;> simp [agrees, unsignZeros, membersAgree_iff members]

theorem itemsAgree_iff :
    ∀ as bs : List Json, itemsAgree as bs = true ↔ unsignItemZeros as = unsignItemZeros bs
  | [], bs => by cases bs <;> simp [itemsAgree, unsignItemZeros]
  | a :: as, bs => by
      cases bs <;> simp [itemsAgree, unsignItemZeros, agrees_iff a, itemsAgree_iff as]

theorem membersAgree_iff :
    ∀ as bs : List (String × Json),
      membersAgree as bs = true ↔ unsignMemberZeros as = unsignMemberZeros bs
  | [], bs => by cases bs <;> simp [membersAgree, unsignMemberZeros]
  | (k, a) :: as, bs => by
      cases bs <;>
        simp [membersAgree, unsignMemberZeros, agrees_iff a, membersAgree_iff as, and_assoc]

end

end Json

end Workflow
