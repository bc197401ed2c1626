import Workflow.Text.Blank
import Workflow.Time.Instant

namespace Workflow.Instant

/-!
# Reading instants

A date, a `T` or a space, a time with seconds, and an offset from UTC.  Blanks may stand around the
parts and at both ends.  A year with a sign may have any number of digits and one without has up to
four; other numbers have one or two.  Fraction digits after the ninth are dropped.
-/

/-- Reads something at the start of a text and gives the rest. -/
abbrev Reader (α : Type) := List Char → Option (α × List Char)

/-- At least one digit and at most so many. -/
def digits (most : Nat) : Reader Nat := fun cs =>
  let found := (cs.takeWhile Char.isDigit).take most
  if found.isEmpty then none
  else some (found.foldl (fun n c => 10 * n + (c.toNat - '0'.toNat)) 0, cs.drop found.length)

/-- A number, after any blanks. -/
def number (most : Nat) : Reader Nat := fun cs => digits most (Text.trimStart cs)

/-- A mark, after any blanks. -/
def mark (c : Char) (cs : List Char) : Option (List Char) :=
  match Text.trimStart cs with
  | first :: rest => if first = c then some rest else none
  | [] => none

/-- A year; a sign lifts the bound on its digits. -/
def yearNumber : Reader Int := fun cs =>
  match Text.trimStart cs with
  | '-' :: rest => (digits rest.length rest).map fun (n, after) => (-n, after)
  | '+' :: rest => (digits rest.length rest).map fun (n, after) => (n, after)
  | unsigned => (digits 4 unsigned).map fun (n, after) => (n, after)

/-- A date that exists. -/
def dateReader : Reader Date := fun cs => do
  let (year, cs) ← yearNumber cs
  let (month, cs) ← number 2 (← mark '-' cs)
  let (day, cs) ← number 2 (← mark '-' cs)
  let date : Date := ⟨year, month, day⟩
  if date.isValid then some (date, cs) else none

/-- What stands between date and time. -/
def separator : List Char → Option (List Char)
  | c :: rest => if c = 't' ∨ c = 'T' ∨ c = ' ' then some rest else none
  | [] => none

/-- Nanoseconds, if there is a point. -/
def fraction : Reader Nat := fun cs =>
  match cs with
  | '.' :: rest => do
    let places := (rest.takeWhile Char.isDigit).take 9
    let (n, _) ← digits 9 rest
    some (n * Nat.pow 10 (9 - places.length), rest.dropWhile Char.isDigit)
  | _ => some (0, cs)

/-- A second of the day with its nanoseconds. -/
def timeReader : Reader (Nat × Nat) := fun cs => do
  let (hour, cs) ← number 2 cs
  let (minute, cs) ← number 2 (← mark ':' cs)
  let (second, cs) ← number 2 (← mark ':' cs)
  let (nano, cs) ← fraction cs
  if 23 < hour ∨ 59 < minute ∨ 60 < second then none
  else if second = 60 then some ((hour * 3600 + minute * 60 + 59, nano + nanosPerSecond), cs)
  else some ((hour * 3600 + minute * 60 + second, nano), cs)

/-- The number of two digits. -/
def twoDigits : Reader Nat := fun cs =>
  match cs with
  | a :: b :: rest =>
    if a.isDigit ∧ b.isDigit then
      some (10 * (a.toNat - '0'.toNat) + (b.toNat - '0'.toNat), rest)
    else none
  | _ => none

/-- The text after a name of UTC, `Z` or `UTC` in either case. -/
def afterUtc (cs : List Char) : Option (List Char) :=
  if (cs.take 3).map Char.toLower = ['u', 't', 'c'] then some (cs.drop 3)
  else if (cs.take 1).map Char.toLower = ['z'] then some (cs.drop 1)
  else none

/-- Seconds east of UTC, by a name or as hours and minutes. -/
def offsetReader : Reader Int := fun cs =>
  let cs := Text.trimStart cs
  match afterUtc cs, cs with
  | some rest, _ => some (0, rest)
  | none, sign :: rest => do
    let direction : Int ←
      if sign = '+' then some 1 else if sign = '-' ∨ sign = '\u2212' then some (-1) else none
    let (hours, rest) ← twoDigits rest
    let (minutes, rest) ← twoDigits (rest.dropWhile fun c => c = ':' || Text.isBlankChar c)
    if 23 < hours ∨ 59 < minutes then none
    else some (direction * (hours * 3600 + minutes * 60 : Nat), rest)
  | none, [] => none

/-- The instant of a text. -/
def ofText? (text : String) : Option Instant := do
  let (date, cs) ← dateReader text.toList
  let ((second, nano), cs) ← timeReader (← separator cs)
  let (offset, cs) ← offsetReader cs
  let shifted := date.toDay * 86400 + second - offset
  let day := shifted / 86400
  if (Text.trimStart cs).isEmpty ∧ Date.firstDay ≤ day ∧ day ≤ Date.lastDay then
    some ⟨day, (shifted % 86400).toNat, nano⟩
  else none

end Workflow.Instant
