import Workflow.Text.Radix

namespace Workflow.Http

/-!
# Percent-encoding

A character that may not stand in some part of an address is written as its UTF-8 bytes, each a
percent sign and two hexadecimal digits.  What may stand differs between paths, queries and the
values of a form.  An existing percent sign is kept in the first two.
-/

/-- A hexadecimal digit in upper case. -/
def hexDigit (n : Nat) : Char := if n < 10 then Char.ofNat (0x30 + n) else Char.ofNat (0x37 + n)

/-- A byte as a percent sign and two digits. -/
def escapeByte (byte : UInt8) : List Char :=
  ['%', hexDigit (byte.toNat / 16), hexDigit (byte.toNat % 16)]

/-- A text in which the characters that may not stand are escaped. -/
def escape (mayStand : Char → Bool) (cs : List Char) : List Char :=
  cs.flatMap fun c => if mayStand c then [c] else (String.utf8EncodeChar c).flatMap escapeByte

/-- The ASCII characters that show, without the space. -/
def isGraphic (c : Char) : Bool := '!' ≤ c && c ≤ '~'

/-- What may stand in a path. -/
def standsInPath (c : Char) : Bool :=
  isGraphic c && !(['"', '#', '<', '>', '?', '\x60', '{', '}'].contains c)

/-- What may stand in a query. -/
def standsInQuery (c : Char) : Bool := isGraphic c && !(['"', '#', '<', '>', '\''].contains c)

/-- What may stand in the values of a form. -/
def standsInForm (c : Char) : Bool :=
  isGraphic c && (c.isAlphanum || ['*', '-', '.', '_'].contains c)

/-- A value of a form, where a space is written as a plus sign. -/
def formText (s : String) : List Char :=
  s.toList.flatMap fun c => if c = ' ' then ['+'] else escape standsInForm [c]

/-- The pairs of a form, joined by ampersands. -/
def formPairs (pairs : List (String × String)) : List Char :=
  ['&'].intercalate (pairs.map fun (name, value) => formText name ++ '=' :: formText value)

/-- The bytes of a text; a percent sign that two digits do not follow stands for itself. -/
def unescape : List Char → List UInt8
  | [] => []
  | '%' :: high :: low :: rest =>
    match Text.hexValue? high, Text.hexValue? low with
    | some h, some l => UInt8.ofNat (16 * h + l) :: unescape rest
    | _, _ => 0x25 :: unescape (high :: low :: rest)
  | c :: rest => String.utf8EncodeChar c ++ unescape rest

end Workflow.Http
