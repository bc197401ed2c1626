import Workflow.Text.Split
import Workflow.Time.Instant
import Workflow.Toml.Basic
import Workflow.Toml.Text

namespace Workflow.Toml

/-!
# Numbers, truth values and moments

These are written without quotes.  Underscores may stand between two digits; a decimal does not
start with a zero unless it is the only digit.  Integers have 64 bits with sign.  Moments are dates,
times or both, and only days and times that exist are written.
-/

/-- What values without quotes are made of. -/
def isScalarChar (c : Char) : Bool :=
  c.isAlphanum || c == '+' || c == '-' || c == '_' || c == '.' || c == ':'

/-- The digits of a number, without the underscores between them. -/
def grouped? (isDigit : Char → Bool) (cs : List Char) : Option (List Char) :=
  let pieces := Text.splitAtEach (· == '_') cs
  if pieces.all fun piece => !piece.isEmpty && piece.all isDigit then some pieces.flatten else none

/-- The digits of a decimal before its point. -/
def decimal? (cs : List Char) : Option (List Char) :=
  (grouped? Char.isDigit cs).bind fun digits =>
    if cs.length = 1 ∨ digits.head? ≠ some '0' then some digits else none

/-- The text after its sign, and whether the sign is a minus. -/
def signed : List Char → Bool × List Char
  | '-' :: rest => (true, rest)
  | '+' :: rest => (false, rest)
  | cs => (false, cs)

/-- The number of some digits of a base, with underscores between them. -/
def radixNumber? (base : Nat) (cs : List Char) : Option Int := do
  let digits ← grouped? (fun c => (Text.numberIn? base [c]).isSome) cs
  let n ← Text.numberIn? base digits
  if n < Nat.pow 2 63 then return n else none

/-- An integer. -/
def integer? : List Char → Option Int
  | '0' :: 'x' :: digits => radixNumber? 16 digits
  | '0' :: 'o' :: digits => radixNumber? 8 digits
  | '0' :: 'b' :: digits => radixNumber? 2 digits
  | cs => do
    let (negative, unsigned) := signed cs
    let n ← Text.numberIn? 10 (← decimal? unsigned)
    let value : Int := if negative then -n else n
    if -Int.pow 2 63 ≤ value ∧ value < Int.pow 2 63 then return value else none

/-- The least number that rounds to an infinite double. -/
def doubleBound : Nat := Nat.pow 2 1024 - Nat.pow 2 970

/-- Whether a whole number times a power of ten, of so many digits, is beyond all doubles. -/
def isBeyondDoubles (digits : List Char) (exponent : Int) : Bool :=
  let n := (Text.numberIn? 10 digits).getD 0
  if n = 0 then false
  else if 0 ≤ exponent then 400 < exponent || doubleBound ≤ n * Nat.pow 10 exponent.toNat
  else if digits.length < exponent.natAbs then false
  else doubleBound * Nat.pow 10 exponent.natAbs ≤ n

/-- The exponent of a float, after its letter. -/
def exponent? (cs : List Char) : Option Int := do
  let (negative, unsigned) := signed cs
  let n ← Text.numberIn? 10 (← grouped? Char.isDigit unsigned)
  return if negative then -n else n

/-- A float with a point or an exponent or both.  A positive one may not be beyond all doubles. -/
def isDecimalFloat (cs : List Char) : Bool :=
  let (negative, unsigned) := signed cs
  let isPart (c : Char) : Bool := c.isDigit || c == '_'
  let whole := unsigned.takeWhile isPart
  let afterWhole := unsigned.drop whole.length
  let pointed := afterWhole.head? == some '.'
  let fraction := if pointed then (afterWhole.drop 1).takeWhile isPart else []
  let afterFraction := if pointed then afterWhole.drop (1 + fraction.length) else afterWhole
  let places := if pointed then grouped? Char.isDigit fraction else some []
  let power :=
    match afterFraction with
    | [] => if pointed then some 0 else none
    | letter :: rest => if letter == 'e' || letter == 'E' then exponent? rest else none
  match decimal? whole, places, power with
  | some wholeDigits, some fractionDigits, some exponent =>
    negative ||
      !isBeyondDoubles (wholeDigits ++ fractionDigits) (exponent - fractionDigits.length)
  | _, _, _ => false

/-- A float. -/
def isFloat (cs : List Char) : Bool :=
  let name := (signed cs).2
  name == ['i', 'n', 'f'] || name == ['n', 'a', 'n'] || isDecimalFloat cs

/-- The number of exactly so many digits. -/
def fixedNumber? (count : Nat) (cs : List Char) : Option Nat :=
  if cs.length = count ∧ cs.all Char.isDigit then Text.numberIn? 10 cs else none

/-- A day that exists, as `YYYY-MM-DD`. -/
def isDay (cs : List Char) : Bool :=
  match Text.splitAtEach (· == '-') cs with
  | [year, month, day] =>
    match fixedNumber? 4 year, fixedNumber? 2 month, fixedNumber? 2 day with
    | some y, some m, some d => Date.isValid ⟨y, m, d⟩
    | _, _, _ => false
  | _ => false

/-- A time of the day, as `HH:MM:SS` with any number of decimals. -/
def isTime (cs : List Char) : Bool :=
  let clock := cs.takeWhile (· ≠ '.')
  let decimals := cs.drop clock.length
  let decimalsFit :=
    match decimals with
    | [] => true
    | _ :: digits => !digits.isEmpty && digits.all Char.isDigit
  match Text.splitAtEach (· == ':') clock with
  | [hour, minute, second] =>
    (fixedNumber? 2 hour).any (· < 24) && (fixedNumber? 2 minute).any (· < 60) &&
      (fixedNumber? 2 second).any (· ≤ 60) && decimalsFit
  | _ => false

/-- An offset from UTC, as `Z` or `+HH:MM`. -/
def isOffset : List Char → Bool
  | ['Z'] => true
  | ['z'] => true
  | sign :: rest =>
    (sign == '+' || sign == '-') &&
      match Text.splitAtEach (· == ':') rest with
      | [hour, minute] =>
        (fixedNumber? 2 hour).any (· < 24) && (fixedNumber? 2 minute).any (· < 60)
      | _ => false
  | [] => false

/-- A time, with or without an offset. -/
def isTimeWithOffset (cs : List Char) : Bool :=
  let time := cs.takeWhile fun c => c.isDigit || c == ':' || c == '.'
  let offset := cs.drop time.length
  isTime time && (offset.isEmpty || isOffset offset)

/-- A day, a time, or a day and a time joined by the letter T. -/
def isMoment (cs : List Char) : Bool :=
  let day := cs.take 10
  match cs.drop 10 with
  | [] => isDay cs || isTime cs
  | c :: rest => ((c == 'T' || c == 't') && isDay day && isTimeWithOffset rest) || isTime cs

/-- A value written without quotes. -/
def scalarOf? (cs : List Char) : Option Toml :=
  if cs == ['t', 'r', 'u', 'e'] then some (.boolean true)
  else if cs == ['f', 'a', 'l', 's', 'e'] then some (.boolean false)
  else if isMoment cs then some (.moment (String.ofList cs))
  else if isFloat cs then some (.float (String.ofList cs))
  else (integer? cs).map .integer

/-- Reads a value without quotes.  A day and a time may also have a space between them. -/
def scalarReader? : Reader Toml := fun cs =>
  let word := cs.takeWhile isScalarChar
  let rest := cs.drop word.length
  let next := (rest.drop 1).takeWhile isScalarChar
  if isDay word && rest.head? == some ' ' && isTimeWithOffset next then
    some (.moment (String.ofList (word ++ ' ' :: next)), rest.drop (1 + next.length))
  else (scalarOf? word).map fun value => (value, rest)

end Workflow.Toml
