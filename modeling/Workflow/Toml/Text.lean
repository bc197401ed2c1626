import Workflow.Text.Radix

namespace Workflow.Toml

/-!
# Characters and strings of a document

Strings stand in double quotes, where a backslash starts an escape, or in single quotes, where it
does not.  Three quotes start a string of several lines; at its end, one or two more quotes still
belong to it.  No control character may stand anywhere but the tab and the line ends.
-/

/-- Reads something at the start of a text and gives the rest. -/
abbrev Reader (α : Type) := List Char → Option (α × List Char)

/-- The characters between the parts of a line. -/
def isGap (c : Char) : Bool := c == ' ' || c == '\t'

/-- The text after the gap at its start. -/
def skipGap (cs : List Char) : List Char := cs.dropWhile isGap

/-- What may stand in strings and comments. -/
def isContent (c : Char) : Bool := c == '\t' || (' ' ≤ c && c ≠ '\x7f')

/-- The text with each line ended by a line feed alone. -/
def unifyLines : List Char → List Char
  | '\r' :: '\n' :: rest => '\n' :: unifyLines rest
  | c :: rest => c :: unifyLines rest
  | [] => []

/-- The character of so many hexadecimal digits. -/
def scalar? (count : Nat) (cs : List Char) : Option Char := do
  let digits := cs.take count
  if digits.length ≠ count then none
  let code ← Text.numberIn? 16 digits
  if code.isValidChar then return Char.ofNat code else none

/-- What an escape of one character stands for. -/
def escaped? (c : Char) : Option Char :=
  if c == '"' || c == '\\' then some c
  else if c == 'b' then some '\x08'
  else if c == 'f' then some '\x0c'
  else if c == 'n' then some '\n'
  else if c == 'r' then some '\r'
  else if c == 't' then some '\t'
  else none

/-- The character of the escape after a backslash, and how many characters the escape takes. -/
def escape? : List Char → Option (Char × Nat)
  | 'u' :: rest => (scalar? 4 rest).map fun c => (c, 5)
  | 'U' :: rest => (scalar? 8 rest).map fun c => (c, 9)
  | c :: _ => (escaped? c).map fun e => (e, 1)
  | [] => none

/-- The rest of a string on one line. -/
def lineText? (quote : Char) : Reader (List Char)
  | [] => none
  | c :: rest =>
    if c == quote then some ([], rest)
    else if c == '\\' && quote == '"' then
      match escape? rest with
      | none => none
      | some (e, taken) =>
        (lineText? quote (rest.drop taken)).map fun (more, after) => (e :: more, after)
    else if isContent c then (lineText? quote rest).map fun (more, after) => (c :: more, after)
    else none
termination_by cs => cs.length
decreasing_by
  · simp only [List.length_drop, List.length_cons]; omega
  · simp

/-- The rest of a string of several lines.  A backslash at the end of a line takes all blanks and
line ends after it away. -/
def blockText? (quote : Char) (skipping : Bool) : Reader (List Char)
  | [] => none
  | c :: rest =>
    if skipping && (isGap c || c == '\n') then blockText? quote true rest
    else if c == quote && rest.take 2 == [quote, quote] then
      let extra := ((rest.drop 2).takeWhile (· == quote)).take 2
      some (extra, rest.drop (2 + extra.length))
    else if c == '\\' && quote == '"' then
      if (skipGap rest).head? == some '\n' then blockText? quote true rest
      else
        match escape? rest with
        | none => none
        | some (e, taken) =>
          (blockText? quote false (rest.drop taken)).map fun (more, after) => (e :: more, after)
    else if isContent c || c == '\n' then
      (blockText? quote false rest).map fun (more, after) => (c :: more, after)
    else none
termination_by cs => cs.length
decreasing_by
  · simp
  · simp
  · simp only [List.length_drop, List.length_cons]; omega
  · simp

/-- A string after its first quote. -/
def string? (quote : Char) : Reader String := fun cs =>
  let found :=
    if cs.take 2 == [quote, quote] then
      let body := cs.drop 2
      blockText? quote false (if body.head? == some '\n' then body.drop 1 else body)
    else lineText? quote cs
  found.map fun (text, rest) => (String.ofList text, rest)

/-- What a key without quotes is made of. -/
def isBare (c : Char) : Bool := c.isAlphanum || c == '-' || c == '_'

/-- One part of a key. -/
def simpleKey? : Reader String := fun cs =>
  match cs with
  | '"' :: rest => (lineText? '"' rest).map fun (text, after) => (String.ofList text, after)
  | '\'' :: rest => (lineText? '\'' rest).map fun (text, after) => (String.ofList text, after)
  | _ =>
    let bare := cs.takeWhile isBare
    if bare.isEmpty then none else some (String.ofList bare, cs.drop bare.length)

/-- A key of at most so many parts with points between them, and gaps around them. -/
def keyParts? : Nat → Reader (List String)
  | 0, _ => none
  | parts + 1, cs => do
    let (first, rest) ← simpleKey? (skipGap cs)
    match skipGap rest with
    | '.' :: more =>
      let (others, after) ← keyParts? parts more
      return (first :: others, after)
    | after => return ([first], after)

/-- How deep tables and arrays may be nested. -/
def deepest : Nat := 79

/-- A key: the path to its table, and its name there. -/
def key? : Reader (List String × String) := fun cs => do
  let (parts, rest) ← keyParts? deepest cs
  return ((parts.dropLast, ← parts.getLast?), rest)

end Workflow.Toml
