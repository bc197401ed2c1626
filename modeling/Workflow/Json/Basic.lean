import Workflow.Decimal.Double
import Workflow.Dictionary

namespace Workflow

/-!
# JSON values

Numbers are either integers or doubles, and the two never agree: `1` and `1.0` are different values.
An object is held as its members; in a value that was read they ascend by key.  Data that a
workflow carries, such as the config of a node, is an `Object`, where the order is part of the type.
-/

/-- A JSON number.  An integer that was read lies between `-2 ^ 63` and `2 ^ 64 - 1`. -/
inductive Number where
  | integer (value : Int)
  | double (value : Double)
  deriving DecidableEq

/-- A JSON value. -/
inductive Json where
  | null
  | bool (value : Bool)
  | number (value : Number)
  | string (value : String)
  | array (items : List Json)
  | object (members : List (String × Json))
  deriving Inhabited

/-- JSON members in ascending order of their keys. -/
abbrev Object := Dictionary Json

namespace Number

/-- The double nearest to the number. -/
def toDouble : Number → Double
  | .integer value => Double.ofInt value
  | .double value => value

/-- Equality of numbers of one kind; the two zeros are equal doubles. -/
def agrees : Number → Number → Bool
  | .integer a, .integer b => a == b
  | .double a, .double b => a.equal b
  | _, _ => false

end Number

namespace Json

/-- The object with these members. -/
def ofObject (o : Object) : Json := .object o.entries

/-- A natural number as a value. -/
def ofNat (n : Nat) : Json := .number (.integer n)

/-- An integer as a value. -/
def ofInt (i : Int) : Json := .number (.integer i)

/-- A value that may be missing, `null` if it is. -/
def ofOption {α : Type} (encode : α → Json) : Option α → Json
  | some a => encode a
  | none => .null

/-- The value of a member of an object. -/
def member? (key : String) : Json → Option Json
  | .object members => members.lookup key
  | _ => none

/-- The text of a string value. -/
def text? : Json → Option String
  | .string s => some s
  | _ => none

/-- The truth value of a boolean. -/
def bool? : Json → Option Bool
  | .bool b => some b
  | _ => none

/-- The value of an integer of 64 bits with sign. -/
def integer? : Json → Option Int
  | .number (.integer i) => if -Int.pow 2 63 ≤ i ∧ i < Int.pow 2 63 then some i else none
  | _ => none

/-- An object with one member set, in place of the one it has; values of other kinds stay. -/
def setMember (v : Json) (key : String) (value : Json) : Json :=
  match v with
  | .object members => .object (Dictionary.insertEntry key value members)
  | other => other

mutual

/-- Equality of values, where the two zeros are equal doubles. -/
def agrees : Json → Json → Bool
  | .null, .null => true
  | .bool a, .bool b => a == b
  | .number a, .number b => a.agrees b
  | .string a, .string b => a == b
  | .array a, .array b => itemsAgree a b
  | .object a, .object b => membersAgree a b
  | _, _ => false

/-- Equality of arrays, item by item. -/
def itemsAgree : List Json → List Json → Bool
  | [], [] => true
  | a :: as, b :: bs => agrees a b && itemsAgree as bs
  | _, _ => false

/-- Equality of objects, member by member. -/
def membersAgree : List (String × Json) → List (String × Json) → Bool
  | [], [] => true
  | (k, a) :: as, (l, b) :: bs => k == l && agrees a b && membersAgree as bs
  | _, _ => false

end

end Json

end Workflow
