import Workflow.Toml.Scalar

namespace Workflow.Toml

/-!
# Reading documents

A document is a list of lines: headers, keys with values, comments and empty lines.  Arrays may go
over several lines and end with a comma; inline tables may not.
-/

/-- What one round of a loop comes to. -/
inductive Round (σ α : Type) where
  | more (state : σ) (rest : List Char)
  | done (value : α) (rest : List Char)

/-- Repeats rounds until one is the last, at most so many. -/
def rounds {σ α : Type} (round : σ → List Char → Option (Round σ α)) :
    Nat → σ → Reader α
  | 0, _, _ => none
  | left + 1, state, cs =>
    match round state cs with
    | none => none
    | some (.done value rest) => some (value, rest)
    | some (.more next rest) => rounds round left next rest

/-- Repeats rounds that each take at least one character, until one is the last. -/
def repeatRounds {σ α : Type} (round : σ → List Char → Option (Round σ α)) (start : σ) :
    Reader α := fun cs => rounds round (cs.length + 1) start cs

/-- The text after the gaps, line ends and comments at its start. -/
def skipBreaks (inComment : Bool) : List Char → List Char
  | [] => []
  | c :: rest =>
    if c == '\n' then skipBreaks false rest
    else if inComment then if isContent c then skipBreaks true rest else c :: rest
    else if isGap c then skipBreaks false rest
    else if c == '#' then skipBreaks true rest
    else c :: rest

/-- The text after the end of a line, which a comment may stand before. -/
def lineEnd? (cs : List Char) : Option (List Char) :=
  let afterGap := skipGap cs
  let afterComment := if afterGap.head? == some '#' then afterGap.dropWhile isContent else afterGap
  match afterComment with
  | [] => some []
  | '\n' :: rest => some rest
  | _ => none

/-- An item of an array with what stands after it, or the end of the array. -/
def arrayRound (item : Reader Toml) (items : List Toml) (cs : List Char) :
    Option (Round (List Toml) Toml) :=
  match skipBreaks false cs with
  | ']' :: rest => some (.done (.array items.reverse) rest)
  | start => do
    let (value, rest) ← item start
    match skipBreaks false rest with
    | ',' :: after => some (.more (value :: items) after)
    | ']' :: after => some (.done (.array (value :: items).reverse) after)
    | _ => none

/-- A key and a value, with an equals sign between them. -/
def entry? (value : Reader Toml) : Reader ((List String × String) × Toml) := fun cs => do
  let (key, rest) ← key? cs
  match rest with
  | '=' :: after =>
    let (v, rest) ← value (skipGap after)
    return ((key, v), rest)
  | _ => none

/-- A key and a value of an inline table with what stands after them. -/
def inlineRound (value : Reader Toml) (entries : Entries) (cs : List Char) :
    Option (Round Entries Toml) := do
  let (((path, key), v), rest) ← entry? value cs
  let added ← addDotted path key v .inlined entries
  match skipGap rest with
  | ',' :: after => some (.more added after)
  | '\x7d' :: after => some (.done (.table .inlined added) after)
  | _ => none

/-- A value, in which arrays and tables are nested at most so deep. -/
def value? (levels : Nat) : Reader Toml := fun cs =>
  match cs with
  | '"' :: rest => (string? '"' rest).map fun (s, after) => (.string s, after)
  | '\'' :: rest => (string? '\'' rest).map fun (s, after) => (.string s, after)
  | '[' :: rest =>
    match levels with
    | 0 => none
    | inner + 1 => repeatRounds (arrayRound (value? inner)) [] rest
  | '\x7b' :: rest =>
    match levels with
    | 0 => none
    | inner + 1 =>
      match skipGap rest with
      | '\x7d' :: after => some (.table .inlined [], after)
      | _ => repeatRounds (inlineRound (value? inner)) [] rest
  | _ => scalarReader? cs

/-- How far the reading of a document has come: what it holds, and the table of the last header. -/
structure Draft where
  root : Entries
  header : List String

/-- One line of a document, or its end. -/
def lineRound (d : Draft) (cs : List Char) : Option (Round Draft Entries) :=
  match skipGap cs with
  | [] => some (.done d.root [])
  | '\n' :: rest => some (.more d rest)
  | '#' :: rest => (lineEnd? ('#' :: rest)).map fun after => .more d after
  | '[' :: '[' :: rest => do
    let ((path, key), after) ← key? rest
    match after with
    | ']' :: ']' :: tail =>
      return .more ⟨← openMember path key d.root, path ++ [key]⟩ (← lineEnd? tail)
    | _ => none
  | '[' :: rest => do
    let ((path, key), after) ← key? rest
    match after with
    | ']' :: tail => return .more ⟨← openTable path key d.root, path ++ [key]⟩ (← lineEnd? tail)
    | _ => none
  | start => do
    let (((path, key), value), after) ← entry? (value? deepest) start
    return .more ⟨← addBelow d.header path key value d.root, d.header⟩ (← lineEnd? after)

/-- The contents of a document. -/
def parse? (text : String) : Option Entries :=
  (repeatRounds lineRound ⟨[], []⟩ (unifyLines (Text.withoutMark text).toList)).map (·.1)

end Workflow.Toml
