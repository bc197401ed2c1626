import Workflow.Text.Blank

namespace Workflow.Text

/-!
# Texts that read as numbers

A sign, digits with a point somewhere among them, at least one digit in all, and a power of ten; or
an infinity or a not-a-number by name, in upper or lower case.  Digits are the ASCII ones.
-/

/-- A character without its case, for ASCII letters. -/
def lower (c : Char) : Char := c.toLower

/-- Digits, at least one of them, with an optional sign before. -/
def isExponent (cs : List Char) : Bool :=
  let digits :=
    match cs with
    | '+' :: rest => rest
    | '-' :: rest => rest
    | _ => cs
  !digits.isEmpty && digits.all Char.isDigit

/-- A decimal without a sign. -/
def isUnsignedDecimal (cs : List Char) : Bool :=
  let whole := cs.takeWhile Char.isDigit
  let afterWhole := cs.drop whole.length
  let fraction :=
    match afterWhole with
    | '.' :: rest => rest.takeWhile Char.isDigit
    | _ => []
  let afterFraction :=
    match afterWhole with
    | '.' :: rest => rest.drop fraction.length
    | _ => afterWhole
  (!whole.isEmpty || !fraction.isEmpty) &&
    match afterFraction with
    | [] => true
    | e :: rest => lower e == 'e' && isExponent rest

/-- The names of numbers that no decimal writes. -/
def isNamedNumber (cs : List Char) : Bool :=
  let name := String.ofList (cs.map lower)
  name == "inf" || name == "infinity" || name == "nan"

/-- A number, with an optional sign. -/
def isNumeral (s : String) : Bool :=
  let unsigned :=
    match s.toList with
    | '+' :: rest => rest
    | '-' :: rest => rest
    | cs => cs
  isUnsignedDecimal unsigned || isNamedNumber unsigned

end Workflow.Text
