import Workflow.Http.DomainName
import Workflow.Http.Percent
import Workflow.Text.Radix

namespace Workflow.Http

/-!
# Hosts

A host is the name of a domain, or a number for one.  A name whose last label is a number must be an
IPv4 address.  An IPv6 address stands in brackets.
-/

/-- The number that a label stands for, if it is one: hexadecimal after `0x`, octal after `0`. -/
def labelNumber? : List Char → Option Nat
  | [] => none
  | '0' :: 'x' :: digits => Text.numberIn? 16 digits
  | '0' :: 'X' :: digits => Text.numberIn? 16 digits
  | '0' :: digit :: digits => Text.numberIn? 8 (digit :: digits)
  | digits => Text.numberIn? 10 digits

/-- The labels of a name; an empty one at the end does not count. -/
def labels (name : List Char) : List (List Char) :=
  let pieces := Text.splitAtEach (· == '.') name
  if 1 < pieces.length && pieces.getLast? == some [] then pieces.dropLast else pieces

/-- Whether the last label of a name is a number, or would be but for digits that are too high. -/
def endsInNumber (name : List Char) : Bool :=
  match (labels name).getLast? with
  | none => false
  | some label =>
    (!label.isEmpty && label.all Char.isDigit) || (labelNumber? label).isSome

/-- Up to four numbers: those before the last are bytes, and the last fills what is left. -/
def isIPv4 (name : List Char) : Bool :=
  match (labels name).mapM labelNumber? with
  | none => false
  | some numbers =>
    numbers.length ≤ 4 && numbers.dropLast.all (· < 256) &&
      (numbers.getLast?.any (· < Nat.pow 256 (5 - numbers.length)))

/-- The name of a domain, or an IPv4 address. -/
def isDomain (cs : List Char) : Bool :=
  match DomainName.ofBytes? (unescape cs) with
  | none => false
  | some name => !endsInNumber name || isIPv4 name

/-- Up to four hexadecimal digits. -/
def isIPv6Piece (cs : List Char) : Bool :=
  !cs.isEmpty && cs.length ≤ 4 && cs.all fun c => (Text.hexValue? c).isSome

/-- A number up to 255, without a zero before it. -/
def isPlainByte (cs : List Char) : Bool :=
  cs.all Char.isDigit && (cs == ['0'] || cs.head?.any (· ≠ '0')) &&
    (Text.numberIn? 10 cs).any (· < 256)

/-- Four plain bytes. -/
def isPlainIPv4 (cs : List Char) : Bool :=
  let bytes := Text.splitAtEach (· == '.') cs
  bytes.length == 4 && bytes.all isPlainByte

/-- How many 16-bit pieces some colon-separated pieces stand for; the last may be an IPv4 address
where one is allowed, and counts twice. -/
def ipv6Pieces? (allowIPv4 : Bool) (cs : List Char) : Option Nat :=
  if cs.isEmpty then some 0
  else
    let pieces := Text.splitAtEach (· == ':') cs
    if pieces.all isIPv6Piece then some pieces.length
    else if allowIPv4 && pieces.dropLast.all isIPv6Piece && pieces.getLast?.any isPlainIPv4 then
      some (pieces.length + 1)
    else none

/-- The text before and after the first two colons in a row. -/
def splitAtGap : List Char → Option (List Char × List Char)
  | ':' :: ':' :: rest => some ([], rest)
  | c :: rest => (splitAtGap rest).map fun (before, after) => (c :: before, after)
  | [] => none

/-- Eight pieces, or fewer than eight with one gap. -/
def isIPv6 (cs : List Char) : Bool :=
  match splitAtGap cs with
  | none => ipv6Pieces? true cs == some 8
  | some (before, after) =>
    match ipv6Pieces? false before, ipv6Pieces? true after with
    | some first, some second => first + second < 8
    | _, _ => false

/-- A host. -/
def isHost : List Char → Bool
  | '[' :: rest => rest.getLast? == some ']' && isIPv6 rest.dropLast
  | cs => isDomain cs

end Workflow.Http
