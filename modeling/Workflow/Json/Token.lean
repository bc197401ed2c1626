import Workflow.Decimal.Literal
import Workflow.Json.Basic
import Workflow.Text.Radix

namespace Workflow.Json

/-!
# The tokens of a JSON text

Blanks between tokens are the space, the tab and the two line ends.  Where the text is no token, the
tokens end with `broken`.  A number takes as many characters as its grammar allows, and a number
whose grammar fails half-way is broken as a whole.
-/

/-- A token; a number or string that keeps to the grammar but has no value is one too. -/
inductive Token where
  | openArray
  | closeArray
  | openObject
  | closeObject
  | comma
  | colon
  | scalar (v : Json)
  | text (s : Option String)
  | numberBeyondRange
  | broken

/-- A token, and how many characters after its first one it takes. -/
abbrev Scan := Token × Nat

/-- The characters between tokens. -/
def isSpace (c : Char) : Bool := c == ' ' || c == '\n' || c == '\t' || c == '\r'

/-- The number of four hexadecimal digits. -/
def hexNumber? (a b c d : Char) : Option Nat := Text.numberIn? 16 [a, b, c, d]

/-- What an escape of one character stands for. -/
def escaped? (c : Char) : Option Char :=
  if c == '"' || c == '\\' || c == '/' then some c
  else if c == 'b' then some '\x08'
  else if c == 'f' then some '\x0c'
  else if c == 'n' then some '\n'
  else if c == 'r' then some '\r'
  else if c == 't' then some '\t'
  else none

/-- Reads a string after its opening quote.  The characters so far are in reverse, or none when a
surrogate has no partner; `taken` counts the characters read. -/
def scanString (taken : Nat) (before : Option (List Char)) : List Char → Scan
  | [] => (.broken, taken)
  | '"' :: _ => (.text (before.map fun cs => String.ofList cs.reverse), taken + 1)
  | '\\' :: 'u' :: a :: b :: c :: d :: '\\' :: 'u' :: e :: f :: g :: h :: rest =>
    match hexNumber? a b c d with
    | none => (.broken, taken)
    | some high =>
      if 0xD800 ≤ high ∧ high < 0xDC00 then
        match hexNumber? e f g h with
        | none => (.broken, taken)
        | some low =>
          if 0xDC00 ≤ low ∧ low < 0xE000 then
            let code := 0x10000 + (high - 0xD800) * 0x400 + (low - 0xDC00)
            scanString (taken + 12) (before.map (Char.ofNat code :: ·)) rest
          else scanString (taken + 6) none ('\\' :: 'u' :: e :: f :: g :: h :: rest)
      else
        let next := if 0xDC00 ≤ high ∧ high < 0xE000 then none
          else before.map (Char.ofNat high :: ·)
        scanString (taken + 6) next ('\\' :: 'u' :: e :: f :: g :: h :: rest)
  | '\\' :: 'u' :: a :: b :: c :: d :: rest =>
    match hexNumber? a b c d with
    | none => (.broken, taken)
    | some code =>
      let next := if 0xD800 ≤ code ∧ code < 0xE000 then none
        else before.map (Char.ofNat code :: ·)
      scanString (taken + 6) next rest
  | '\\' :: c :: rest =>
    match escaped? c with
    | none => (.broken, taken)
    | some e => scanString (taken + 2) (before.map (e :: ·)) rest
  | c :: rest =>
    if c == '\\' || c.toNat < 0x20 then (.broken, taken)
    else scanString (taken + 1) (before.map (c :: ·)) rest

/-- The value of a literal: an integer while it fits 64 bits, and otherwise its double. -/
def literalToken (l : Literal) : Token :=
  let n := Literal.numberOf l.whole
  if l.integral && !l.negative && n < Nat.pow 2 64 then .scalar (.number (.integer n))
  else if l.integral && l.negative && 0 < n && n ≤ Nat.pow 2 63 then
    .scalar (.number (.integer (-n)))
  else
    match l.toDouble? with
    | some d => .scalar (.number (.double d))
    | none => .numberBeyondRange

/-- Reads a number from its sign or first digit on. -/
def scanNumber (text : List Char) : Scan :=
  let negative := text.head? == some '-'
  let unsigned := if negative then text.drop 1 else text
  let whole := unsigned.takeWhile Char.isDigit
  let afterWhole := unsigned.drop whole.length
  if whole.isEmpty || (whole.head? == some '0' && 1 < whole.length) then (.broken, 0)
  else
    let pointed := afterWhole.head? == some '.'
    let fraction := if pointed then (afterWhole.drop 1).takeWhile Char.isDigit else []
    let afterFraction := if pointed then afterWhole.drop (1 + fraction.length) else afterWhole
    if pointed && fraction.isEmpty then (.broken, 0)
    else
      let powered := afterFraction.head? == some 'e' || afterFraction.head? == some 'E'
      let signs := if powered then
          (afterFraction.drop 1).takeWhile (fun c => c == '+' || c == '-') |>.take 1 else []
      let digits := if powered then
          (afterFraction.drop (1 + signs.length)).takeWhile Char.isDigit else []
      if powered && digits.isEmpty then (.broken, 0)
      else
        let magnitude : Int := Literal.numberOf digits
        let exponent := if signs == ['-'] then -magnitude else magnitude
        let taken := (if negative then 1 else 0) + whole.length +
          (if pointed then 1 + fraction.length else 0) +
          (if powered then 1 + signs.length + digits.length else 0)
        (literalToken ⟨negative, whole, fraction, exponent, !pointed && !powered⟩, taken - 1)

/-- Reads a word that stands for a value. -/
def scanWord (text : List Char) : Scan :=
  if ['n', 'u', 'l', 'l'].isPrefixOf text then (.scalar .null, 3)
  else if ['t', 'r', 'u', 'e'].isPrefixOf text then (.scalar (.bool true), 3)
  else if ['f', 'a', 'l', 's', 'e'].isPrefixOf text then (.scalar (.bool false), 4)
  else (.broken, 0)

/-- Reads the token that starts with a character. -/
def scanToken (c : Char) (rest : List Char) : Scan :=
  if c == '[' then (.openArray, 0)
  else if c == ']' then (.closeArray, 0)
  else if c == '\x7b' then (.openObject, 0)
  else if c == '\x7d' then (.closeObject, 0)
  else if c == ',' then (.comma, 0)
  else if c == ':' then (.colon, 0)
  else if c == '"' then scanString 0 (some []) rest
  else if c == '-' || c.isDigit then scanNumber (c :: rest)
  else scanWord (c :: rest)

/-- The tokens of a text. -/
def tokens : List Char → List Token
  | [] => []
  | c :: rest =>
    if isSpace c then tokens rest
    else
      match scanToken c rest with
      | (.broken, _) => [.broken]
      | (token, taken) => token :: tokens (rest.drop taken)
termination_by text => text.length
decreasing_by
  · simp
  · simp only [List.length_drop, List.length_cons]; omega

end Workflow.Json
