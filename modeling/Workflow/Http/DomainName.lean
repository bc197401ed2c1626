import Workflow.Http.DomainName.Encoded
import Workflow.Http.DomainName.Image
import Workflow.Http.DomainName.Joining
import Workflow.Http.DomainName.Refused
import Workflow.Text.Split

namespace Workflow.Http.DomainName

/-!
# Names of domains

The name of a domain is made of labels with points between them.  Names are compared by what their
characters stand for, in normal form.  A label that is encoded in ASCII is held to the same rules as
the label that it encodes, which must be one that it is compared as.
-/

/-- What may not stand in a label: controls, the space, and ASCII marks that have a meaning
elsewhere in an address or none at all. -/
def isForbidden (c : Char) : Bool :=
  c ≤ ' ' || c == '\x7f' || "\"#%/:<>?@[\\]^\x60\x7b|\x7d".contains c

/-- The text of a name as it is compared, if all its characters may stand in one. -/
def folded? (cs : List Char) : Option (List Char) :=
  if cs.any isRefused then none else some (normal (cs.flatMap image))

/-- A character of ASCII. -/
def isAscii (c : Char) : Bool := c.toNat < 128

/-- How encoded labels begin. -/
def encodedMark : List Char := ['x', 'n', '-', '-']

/-- How many characters may follow that beginning. -/
def longestEncoded : Nat := 2000

/-- How many characters a label may have that is not in ASCII. -/
def longestLabel : Nat := 1000

/-- The text of a label, decoded if it is encoded; what is encoded must be what it is compared
as. -/
def labelText? (label : List Char) : Option (List Char) :=
  if encodedMark.isPrefixOf label then
    let code := label.drop encodedMark.length
    if code.isEmpty || code.getLast? == some '-' || !code.all isAscii ||
        longestEncoded < code.length then none
    else
      (decode? code).bind fun text =>
        if text.all (fun c => !isRefused c && isOwnImage c && c ≠ '.') && normal text == text then
          some text
        else none
  else some label

/-- A text that may be a label. -/
def isLabel (text : List Char) : Bool :=
  !text.any isForbidden && !text.head?.any isMark && areJoinersMeant [] text &&
    (text.length ≤ longestLabel || text.all isAscii)

/-- The labels of a name make up a name. -/
def areLabels (labels : List (List Char)) : Bool :=
  match labels.mapM labelText? with
  | none => false
  | some texts => texts.all isLabel && areDirected texts

/-- The name of a domain as it is compared. -/
def ofText? (cs : List Char) : Option (List Char) :=
  (folded? cs).bind fun name =>
    if !name.isEmpty && areLabels (Text.splitAtEach (· == '.') name) then some name else none

/-- The name that some bytes are in UTF-8. -/
def ofBytes? (bytes : List UInt8) : Option (List Char) :=
  (String.fromUTF8? bytes.toByteArray).bind fun text => ofText? text.toList

end Workflow.Http.DomainName
