import Mathlib.Data.List.TakeWhile
import Workflow.Json.Printer
import Workflow.Json.Token

namespace Workflow

/-!
# Scanning what was written

A text that was written falls back into the tokens that it was put together from, whatever follows
it.  A string shows where it ends.  A number does not, so what follows must be something that cannot
be part of it; in a written text that is a comma, the end of a container, or the end of the text.

Every string is read as it was written, and so is every integer of 64 bits.  A double need not be:
its text is the shortest one that is nearest to it, but the reader rounds twice and can miss it.
-/

namespace Json

/-! ## Marks and words -/

theorem tokens_mark {c : Char} {token : Token} {rest : List Char} (visible : isSpace c = false)
    (scanned : scanToken c rest = (token, 0)) (sound : token ≠ .broken) :
    tokens (c :: rest) = token :: tokens rest := by
  rw [tokens, if_neg (by simp [visible]), scanned]
  cases token with
  | broken => exact absurd rfl sound
  | _ => rfl

section Marks

variable (rest : List Char)

theorem tokens_openArray : tokens ('[' :: rest) = .openArray :: tokens rest :=
  tokens_mark rfl rfl nofun

theorem tokens_closeArray : tokens (']' :: rest) = .closeArray :: tokens rest :=
  tokens_mark rfl rfl nofun

theorem tokens_openObject : tokens ('\x7b' :: rest) = .openObject :: tokens rest :=
  tokens_mark rfl rfl nofun

theorem tokens_closeObject : tokens ('\x7d' :: rest) = .closeObject :: tokens rest :=
  tokens_mark rfl rfl nofun

theorem tokens_colon : tokens (':' :: rest) = .colon :: tokens rest := tokens_mark rfl rfl nofun

theorem tokens_comma : tokens (',' :: rest) = .comma :: tokens rest := tokens_mark rfl rfl nofun

end Marks

theorem tokens_null (rest : List Char) :
    tokens ("null".toList ++ rest) = .scalar .null :: tokens rest := by
  change tokens ('n' :: 'u' :: 'l' :: 'l' :: rest) = _
  rw [tokens]
  rfl

theorem tokens_true (rest : List Char) :
    tokens ("true".toList ++ rest) = .scalar (.bool true) :: tokens rest := by
  change tokens ('t' :: 'r' :: 'u' :: 'e' :: rest) = _
  rw [tokens]
  rfl

theorem tokens_false (rest : List Char) :
    tokens ("false".toList ++ rest) = .scalar (.bool false) :: tokens rest := by
  change tokens ('f' :: 'a' :: 'l' :: 's' :: 'e' :: rest) = _
  rw [tokens]
  rfl

/-! ## Strings -/

section Strings

variable (taken : Nat) (before : Option (List Char)) (more : List Char)

/-- An escape of one character. -/
theorem scanString_escape {mark c : Char} (stands : escaped? mark = some c) (other : mark ≠ 'u') :
    scanString taken before ('\\' :: mark :: more) =
      scanString (taken + 2) (before.map (c :: ·)) more := by
  rw [scanString.eq_def]
  split
  · next same => cases same
  · next same => cases same
  · next same => exact absurd (List.cons.inj (List.cons.inj same).2).1 other
  · next same => exact absurd (List.cons.inj (List.cons.inj same).2).1 other
  · next same =>
    obtain ⟨rfl, rfl⟩ := List.cons.inj (List.cons.inj same).2
    rw [stands]
  · next unescaped same =>
    obtain ⟨rfl, rfl⟩ := List.cons.inj same
    exact absurd rfl (unescaped mark more rfl)

/-- An escape of a character by its number, which is no half of a pair. -/
theorem scanString_numbered {a b : Char} {code : Nat}
    (number : hexNumber? '0' '0' a b = some code) (below : code < 0xD800) :
    scanString taken before ('\\' :: 'u' :: '0' :: '0' :: a :: b :: more) =
      scanString (taken + 6) (before.map (Char.ofNat code :: ·)) more := by
  have notHigh : ¬ (0xD800 ≤ code ∧ code < 0xDC00) := fun both => by omega
  have notLow : ¬ (0xDC00 ≤ code ∧ code < 0xE000) := fun both => by omega
  have notHalf : ¬ (0xD800 ≤ code ∧ code < 0xE000) := fun both => by omega
  rw [scanString.eq_def]
  split
  · next same => cases same
  · next same => cases same
  · next same =>
    simp only [List.cons.injEq] at same
    obtain ⟨_, _, rfl, rfl, rfl, rfl, rfl⟩ := same
    rw [number]
    dsimp only
    rw [if_neg notHigh, if_neg notLow]
  · next same =>
    simp only [List.cons.injEq] at same
    obtain ⟨_, _, rfl, rfl, rfl, rfl, rfl⟩ := same
    rw [number]
    dsimp only
    rw [if_neg notHalf]
  · next short same =>
    obtain ⟨rfl, rfl⟩ := List.cons.inj (List.cons.inj same).2
    exact absurd rfl (short '0' '0' a b more rfl)
  · next unescaped same =>
    obtain ⟨rfl, rfl⟩ := List.cons.inj same
    exact absurd rfl (unescaped 'u' _ rfl)

/-- A character that stands for itself. -/
theorem scanString_plain {c : Char} (quote : c ≠ '"') (slash : c ≠ '\\')
    (visible : ¬ c.toNat < 0x20) :
    scanString taken before (c :: more) = scanString (taken + 1) (before.map (c :: ·)) more := by
  rw [scanString.eq_def]
  split
  · next same => cases same
  · next same => exact absurd (List.cons.inj same).1 quote
  · next same => exact absurd (List.cons.inj same).1 slash
  · next same => exact absurd (List.cons.inj same).1 slash
  · next same => exact absurd (List.cons.inj same).1 slash
  · next same =>
    obtain ⟨rfl, rfl⟩ := List.cons.inj same
    rw [if_neg (by simp [slash, visible])]

theorem hexNumber?_digitChar {n : Nat} (below : n < 0x20) :
    hexNumber? '0' '0' (Nat.digitChar (n / 16)) (Nat.digitChar (n % 16)) = some n := by
  have all : ∀ n : Fin 0x20, hexNumber? '0' '0' (Nat.digitChar (n.val / 16))
      (Nat.digitChar (n.val % 16)) = some n.val := by decide
  exact all ⟨n, below⟩

/-- A character is read as it was written, whatever follows. -/
theorem scanString_escapeChar (c : Char) :
    scanString taken before (escapeChar c ++ more) =
      scanString (taken + (escapeChar c).length) (before.map (c :: ·)) more := by
  have single : ∀ (mark : Char) {e : Char}, escaped? mark = some e → mark ≠ 'u' → (c == e) = true →
      scanString taken before ('\\' :: mark :: more) =
        scanString (taken + 2) (before.map (c :: ·)) more := by
    intro mark e stands other same
    obtain rfl := eq_of_beq same
    exact scanString_escape taken before more stands other
  unfold escapeChar
  split
  · next same => exact single '"' rfl (by decide) same
  split
  · next same => exact single '\\' rfl (by decide) same
  split
  · next same => exact single 'b' rfl (by decide) same
  split
  · next same => exact single 't' rfl (by decide) same
  split
  · next same => exact single 'n' rfl (by decide) same
  split
  · next same => exact single 'f' rfl (by decide) same
  split
  · next same => exact single 'r' rfl (by decide) same
  split
  · next control =>
    have number := hexNumber?_digitChar control
    have code : Char.ofNat c.toNat = c := Char.ofNat_toNat c
    have read := scanString_numbered taken before more number (by omega)
    rwa [code] at read
  · next quote slash _ _ _ _ _ visible =>
    exact scanString_plain taken before more (fun same => quote (beq_iff_eq.mpr same))
      (fun same => slash (beq_iff_eq.mpr same)) visible

theorem scanString_flatMap_escapeChar (cs read : List Char) :
    scanString taken (some read) (cs.flatMap escapeChar ++ '"' :: more) =
      (.text (some (String.ofList (read.reverse ++ cs))),
        taken + (cs.flatMap escapeChar).length + 1) := by
  induction cs generalizing taken read with
  | nil =>
      rw [List.append_nil]
      rfl
  | cons c rest inductionHypothesis =>
      rw [List.flatMap_cons, List.append_assoc, scanString_escapeChar, Option.map_some,
        inductionHypothesis, List.reverse_cons, List.append_assoc, List.singleton_append,
        List.length_append, Nat.add_assoc taken]

end Strings

theorem tokens_quote (s : String) (rest : List Char) :
    tokens ((quote s).toList ++ rest) = .text (some s) :: tokens rest := by
  have written : (quote s).toList ++ rest =
      '"' :: (s.toList.flatMap escapeChar ++ '"' :: rest) := by
    rw [quote, String.toList_ofList, List.append_assoc]
    rfl
  have scanned : scanToken '"' (s.toList.flatMap escapeChar ++ '"' :: rest) =
      (.text (some s), (s.toList.flatMap escapeChar).length + 1) := by
    change scanString 0 (some []) _ = _
    rw [scanString_flatMap_escapeChar, List.reverse_nil, List.nil_append, String.ofList_toList,
      Nat.zero_add]
  rw [written, tokens, if_neg (by decide), scanned]
  dsimp only
  rw [← List.drop_drop, List.drop_left]
  rfl

/-! ## Numbers -/

/-- What may follow a number: nothing, or a mark that ends an item. -/
def Delimited (rest : List Char) : Prop :=
  ∀ c, rest.head? = some c → c = ',' ∨ c = ']' ∨ c = '\x7d'

variable {rest : List Char}

theorem Delimited.head?_append (delimited : Delimited rest) (cs : List Char) {c : Char}
    (inner : c ≠ ',' ∧ c ≠ ']' ∧ c ≠ '\x7d') :
    ((cs ++ rest).head? == some c) = (cs.head? == some c) := by
  cases cs with
  | cons first others => rfl
  | nil =>
      rw [List.nil_append, List.head?_nil]
      refine Bool.eq_false_iff.mpr fun same => ?_
      rcases delimited c (eq_of_beq same) with rfl | rfl | rfl
      · exact inner.1 rfl
      · exact inner.2.1 rfl
      · exact inner.2.2 rfl

theorem Delimited.takeWhile_append (delimited : Delimited rest) {test : Char → Bool}
    (inner : test ',' = false ∧ test ']' = false ∧ test '\x7d' = false) (cs : List Char) :
    (cs ++ rest).takeWhile test = cs.takeWhile test := by
  have ends : rest.takeWhile test = [] := by
    cases rest with
    | nil => rfl
    | cons c others =>
        have outer : test c = false := by
          rcases delimited c rfl with rfl | rfl | rfl
          · exact inner.1
          · exact inner.2.1
          · exact inner.2.2
        rw [List.takeWhile_cons, outer]
        rfl
  induction cs with
  | nil => exact ends
  | cons first others inductionHypothesis =>
      rw [List.cons_append, List.takeWhile_cons, List.takeWhile_cons, inductionHypothesis]

/-- A run at the start of a text is no longer than the text. -/
theorem drop_takeWhile_append (test : Char → Bool) (cs : List Char) :
    (cs ++ rest).drop (cs.takeWhile test).length = cs.drop (cs.takeWhile test).length ++ rest :=
  List.drop_append_of_le_length (List.takeWhile_prefix test).length_le

theorem exists_of_head? {cs : List Char} {c : Char} (head : (cs.head? == some c) = true) :
    ∃ others, cs = c :: others := by
  rcases cs with _ | ⟨first, others⟩
  · cases head
  · have same : first = c := by simpa using head
    exact ⟨others, by rw [same]⟩

namespace Numeral

/-- The text behind the sign. -/
def unsigned (text : List Char) : List Char :=
  if text.head? == some '-' then text.drop 1 else text

/-- The digits before the point. -/
def whole (text : List Char) : List Char := (unsigned text).takeWhile Char.isDigit

/-- The text behind the digits before the point. -/
def afterWhole (text : List Char) : List Char := (unsigned text).drop (whole text).length

/-- There is a point. -/
def pointed (text : List Char) : Bool := (afterWhole text).head? == some '.'

/-- The digits behind the point. -/
def fraction (text : List Char) : List Char :=
  if pointed text then ((afterWhole text).drop 1).takeWhile Char.isDigit else []

/-- The text behind the digits behind the point. -/
def afterFraction (text : List Char) : List Char :=
  if pointed text then (afterWhole text).drop (1 + (fraction text).length) else afterWhole text

/-- There is a power of ten. -/
def powered (text : List Char) : Bool :=
  (afterFraction text).head? == some 'e' || (afterFraction text).head? == some 'E'

/-- The sign of the power, if it has one. -/
def powerSign (text : List Char) : List Char :=
  if powered text then
    (((afterFraction text).drop 1).takeWhile (fun c => c == '+' || c == '-')).take 1
  else []

/-- The digits of the power. -/
def powerDigits (text : List Char) : List Char :=
  if powered text then
    ((afterFraction text).drop (1 + (powerSign text).length)).takeWhile Char.isDigit
  else []

theorem exists_of_powered {text : List Char} (power : powered text = true) :
    ∃ mark others, afterFraction text = mark :: others := by
  rcases Bool.or_eq_true_iff.mp power with lower | upper
  · exact ⟨'e', exists_of_head? lower⟩
  · exact ⟨'E', exists_of_head? upper⟩

/-- Reading a number, part by part. -/
theorem scanNumber_eq (text : List Char) :
    scanNumber text =
      if (whole text).isEmpty || ((whole text).head? == some '0' && 1 < (whole text).length) then
        (.broken, 0)
      else if pointed text && (fraction text).isEmpty then (.broken, 0)
      else if powered text && (powerDigits text).isEmpty then (.broken, 0)
      else
        (literalToken ⟨text.head? == some '-', whole text, fraction text,
          if powerSign text == ['-'] then -(Literal.numberOf (powerDigits text) : Int)
          else Literal.numberOf (powerDigits text), !pointed text && !powered text⟩,
          (if text.head? == some '-' then 1 else 0) + (whole text).length +
            (if pointed text then 1 + (fraction text).length else 0) +
            (if powered text then 1 + (powerSign text).length + (powerDigits text).length else 0) -
            1) := rfl

variable (delimited : Delimited rest) (cs : List Char)

include delimited

theorem head?_append (c : Char) (member : c ∈ ['-', '.', 'e', 'E']) :
    ((cs ++ rest).head? == some c) = (cs.head? == some c) := by
  refine delimited.head?_append cs ?_
  simp only [List.mem_cons, List.not_mem_nil, or_false] at member
  rcases member with rfl | rfl | rfl | rfl
  all_goals decide

theorem unsigned_append : unsigned (cs ++ rest) = unsigned cs ++ rest := by
  unfold unsigned
  rw [head?_append delimited cs '-' (by decide)]
  split
  · next negative =>
    rcases exists_of_head? negative with ⟨others, rfl⟩
    rfl
  · rfl

theorem whole_append : whole (cs ++ rest) = whole cs := by
  rw [whole, unsigned_append delimited, delimited.takeWhile_append (by decide), ← whole]

theorem afterWhole_append : afterWhole (cs ++ rest) = afterWhole cs ++ rest := by
  rw [afterWhole, unsigned_append delimited, whole_append delimited, whole, drop_takeWhile_append]
  rfl

theorem pointed_append : pointed (cs ++ rest) = pointed cs := by
  rw [pointed, afterWhole_append delimited, head?_append delimited _ '.' (by decide), ← pointed]

theorem fraction_append : fraction (cs ++ rest) = fraction cs := by
  unfold fraction
  rw [pointed_append delimited, afterWhole_append delimited]
  split
  · next point =>
    rcases exists_of_head? point with ⟨others, behind⟩
    rw [behind]
    exact delimited.takeWhile_append (by decide) others
  · rfl

theorem afterFraction_append : afterFraction (cs ++ rest) = afterFraction cs ++ rest := by
  unfold afterFraction
  rw [pointed_append delimited, fraction_append delimited, afterWhole_append delimited]
  split
  · next point =>
    rcases exists_of_head? point with ⟨others, behind⟩
    rw [fraction, if_pos point, behind, Nat.add_comm]
    exact drop_takeWhile_append Char.isDigit others
  · rfl

theorem powered_append : powered (cs ++ rest) = powered cs := by
  rw [powered, afterFraction_append delimited, head?_append delimited _ 'e' (by decide),
    head?_append delimited _ 'E' (by decide), ← powered]

theorem powerSign_append : powerSign (cs ++ rest) = powerSign cs := by
  unfold powerSign
  rw [powered_append delimited, afterFraction_append delimited]
  split
  · next power =>
    rcases exists_of_powered power with ⟨mark, others, behind⟩
    rw [behind]
    exact congrArg (List.take 1) (delimited.takeWhile_append (by decide) others)
  · rfl

theorem powerDigits_append : powerDigits (cs ++ rest) = powerDigits cs := by
  unfold powerDigits
  rw [powered_append delimited, powerSign_append delimited, afterFraction_append delimited]
  split
  · next power =>
    have within : 1 + (powerSign cs).length ≤ (afterFraction cs).length := by
      rcases exists_of_powered power with ⟨mark, others, behind⟩
      rw [powerSign, if_pos power, behind, Nat.add_comm]
      have sign : (others.takeWhile fun c => c == '+' || c == '-').take 1 <+: others :=
        (List.take_prefix 1 _).trans (List.takeWhile_prefix _)
      exact Nat.succ_le_succ sign.length_le
    rw [List.drop_append_of_le_length within]
    exact delimited.takeWhile_append (by decide) _
  · rfl

end Numeral

/-- A number is read alike when something follows that cannot be part of it. -/
theorem scanNumber_append (delimited : Delimited rest) (cs : List Char) :
    scanNumber (cs ++ rest) = scanNumber cs := by
  rw [Numeral.scanNumber_eq, Numeral.scanNumber_eq, Numeral.whole_append delimited,
    Numeral.pointed_append delimited, Numeral.fraction_append delimited,
    Numeral.powered_append delimited, Numeral.powerSign_append delimited,
    Numeral.powerDigits_append delimited, Numeral.head?_append delimited cs '-' (by decide)]

/-- A number that is read starts with a sign or a digit. -/
theorem exists_start_of_scanNumber {text : List Char}
    (read : (scanNumber text).1 ≠ .broken) :
    ∃ c others, text = c :: others ∧ (c == '-' || c.isDigit) = true := by
  rw [Numeral.scanNumber_eq] at read
  split at read
  · exact absurd rfl read
  · next unfit =>
    cases text with
    | nil => exact absurd rfl unfit
    | cons c others =>
        refine ⟨c, others, rfl, Bool.or_eq_true_iff.mpr ?_⟩
        by_cases sign : (c == '-') = true
        · exact .inl sign
        · refine .inr ?_
          have positive : Numeral.unsigned (c :: others) = c :: others := by
            refine if_neg fun head => sign ?_
            simpa using head
          by_cases digit : c.isDigit = true
          · exact digit
          · refine absurd ?_ unfit
            rw [Numeral.whole, positive, List.takeWhile_cons, if_neg digit]
            rfl

/-- The blanks, and the characters that start another token. -/
def otherStarts : List Char := [' ', '\n', '\t', '\r', '[', ']', '\x7b', '\x7d', ',', ':', '"']

theorem scanToken_of_start {c : Char} (start : (c == '-' || c.isDigit) = true)
    (others : List Char) : isSpace c = false ∧ scanToken c others = scanNumber (c :: others) := by
  have apart : ∀ mark ∈ otherStarts, (c == mark) = false := by
    intro mark member
    have none : otherStarts.all (fun mark => !(mark == '-' || mark.isDigit)) = true := by decide
    refine Bool.eq_false_iff.mpr fun same => ?_
    have other := List.all_eq_true.mp none mark member
    rw [← eq_of_beq same, start] at other
    cases other
  simp only [otherStarts, List.forall_mem_cons] at apart
  constructor
  · simp [isSpace, apart]
  · simp [scanToken, apart, start]

end Json

/-- The text of a number is read as that number, to its end. -/
def Number.readsBack (n : Number) : Bool :=
  let text := (Json.numberText n).toList
  match Json.scanNumber text with
  | (.scalar (.number found), taken) => found == n && taken + 1 == text.length
  | _ => false

namespace Json

variable {rest : List Char}

theorem scanNumber_of_readsBack {n : Number} (back : n.readsBack = true) :
    ∃ taken, scanNumber (numberText n).toList = (.scalar (.number n), taken) ∧
      taken + 1 = (numberText n).toList.length := by
  unfold Number.readsBack at back
  dsimp only at back
  split at back
  · next found taken scanned =>
    have agrees := Bool.and_eq_true_iff.mp back
    obtain rfl := eq_of_beq agrees.1
    exact ⟨taken, scanned, eq_of_beq agrees.2⟩
  · cases back

theorem tokens_number {n : Number} (back : n.readsBack = true) (delimited : Delimited rest) :
    tokens ((numberText n).toList ++ rest) = .scalar (.number n) :: tokens rest := by
  rcases scanNumber_of_readsBack back with ⟨taken, scanned, length⟩
  have read : (scanNumber (numberText n).toList).1 ≠ .broken := by
    rw [scanned]
    nofun
  rcases exists_start_of_scanNumber read with ⟨c, others, split, start⟩
  have scan := scanNumber_append delimited (numberText n).toList
  rw [scanned, split, List.cons_append] at scan
  rw [split] at length
  have all : others.length = taken := by simpa using length.symm
  have started := scanToken_of_start start (others ++ rest)
  rw [split, List.cons_append, tokens, if_neg (by simp [started.1]), started.2, scan]
  dsimp only
  rw [← all, List.drop_left]

/-! ## Integers -/

theorem head?_toDigits_ne_zero {n : Nat} (positive : 0 < n) :
    (Nat.toDigits 10 n).head? ≠ some '0' := by
  have single : ∀ digit, 0 < digit → digit < 10 → [Nat.digitChar digit].head? ≠ some '0' := by
    intro digit positive below
    have all : ∀ d : Fin 10, 0 < d.val → [Nat.digitChar d.val].head? ≠ some '0' := by decide
    exact all ⟨digit, below⟩ positive
  induction n using Nat.strongRecOn with
  | _ n inductionHypothesis =>
      by_cases below : n < 10
      · rw [Nat.toDigits_of_lt_base below]
        exact single n positive below
      · have base : 10 ≤ n := Nat.le_of_not_lt below
        have first := inductionHypothesis (n / 10) (by omega) (by omega)
        rw [Nat.toDigits_of_base_le (by decide) base, List.head?_append]
        cases head : (Nat.toDigits 10 (n / 10)).head? with
        | none => exact absurd (List.head?_eq_none_iff.mp head) Nat.toDigits_ne_nil
        | some c => rwa [head] at first

/-- A text that is a sign and digits, or digits alone. -/
theorem scanNumber_of_afterWhole_nil {text : List Char} (ends : Numeral.afterWhole text = [])
    (nonempty : Numeral.whole text ≠ [])
    (plain : (Numeral.whole text).head? = some '0' → (Numeral.whole text).length = 1) :
    scanNumber text = (literalToken ⟨text.head? == some '-', Numeral.whole text, [], 0, true⟩,
      (if text.head? == some '-' then 1 else 0) + (Numeral.whole text).length - 1) := by
  have pointed : Numeral.pointed text = false := by rw [Numeral.pointed, ends]; rfl
  have fraction : Numeral.fraction text = [] := by rw [Numeral.fraction, pointed]; rfl
  have afterFraction : Numeral.afterFraction text = [] := by
    rw [Numeral.afterFraction, pointed, ends]
    rfl
  have powered : Numeral.powered text = false := by rw [Numeral.powered, afterFraction]; rfl
  have sign : Numeral.powerSign text = [] := by rw [Numeral.powerSign, powered]; rfl
  have digits : Numeral.powerDigits text = [] := by rw [Numeral.powerDigits, powered]; rfl
  have fits : ((Numeral.whole text).isEmpty || ((Numeral.whole text).head? == some '0' &&
      decide (1 < (Numeral.whole text).length))) = false := by
    rw [List.isEmpty_eq_false_iff.mpr nonempty, Bool.false_or]
    refine Bool.eq_false_iff.mpr fun zeros => ?_
    have both := Bool.and_eq_true_iff.mp zeros
    have one := plain (eq_of_beq both.1)
    rw [one] at both
    cases both.2
  rw [Numeral.scanNumber_eq, fits, pointed, powered, fraction, sign, digits]
  rfl

theorem scanNumber_toDigits (n : Nat) :
    scanNumber (Nat.toDigits 10 n) =
      (literalToken ⟨false, Nat.toDigits 10 n, [], 0, true⟩, (Nat.toDigits 10 n).length - 1) ∧
    scanNumber ('-' :: Nat.toDigits 10 n) =
      (literalToken ⟨true, Nat.toDigits 10 n, [], 0, true⟩, (Nat.toDigits 10 n).length) := by
  have digits : ∀ c ∈ Nat.toDigits 10 n, c.isDigit = true := fun c member =>
    Nat.isDigit_of_mem_toDigits (by decide) (by decide) member
  have nonempty : Nat.toDigits 10 n ≠ [] := Nat.toDigits_ne_nil
  have plain : (Nat.toDigits 10 n).head? = some '0' → (Nat.toDigits 10 n).length = 1 := by
    intro zero
    rcases Nat.eq_zero_or_pos n with rfl | positive
    · rfl
    · exact absurd zero (head?_toDigits_ne_zero positive)
  generalize Nat.toDigits 10 n = ds at digits nonempty plain ⊢
  have all : ds.takeWhile Char.isDigit = ds := List.takeWhile_eq_self_iff.mpr digits
  have positive : (ds.head? == some '-') = false := by
    refine Bool.eq_false_iff.mpr fun sign => ?_
    rcases exists_of_head? sign with ⟨others, rfl⟩
    exact absurd (digits '-' List.mem_cons_self) (by decide)
  have unsigned : Numeral.unsigned ds = ds := by
    rw [Numeral.unsigned, positive]
    rfl
  have whole : Numeral.whole ds = ds := by rw [Numeral.whole, unsigned, all]
  have behindSign : Numeral.whole ('-' :: ds) = ds := all
  constructor
  · have ends : Numeral.afterWhole ds = [] := by
      rw [Numeral.afterWhole, unsigned, whole, List.drop_length]
    rw [scanNumber_of_afterWhole_nil ends (by rwa [whole]) (by rwa [whole]), whole, positive]
    simp
  · have ends : Numeral.afterWhole ('-' :: ds) = [] := by
      rw [Numeral.afterWhole, behindSign]
      exact List.drop_length
    rw [scanNumber_of_afterWhole_nil ends (by rwa [behindSign]) (by rwa [behindSign]), behindSign]
    simp

theorem numberOf_toDigits (n : Nat) : Literal.numberOf (Nat.toDigits 10 n) = n :=
  Nat.ofDigitChars_ten_toDigits

theorem literalToken_natural {n : Nat} (bound : n < Nat.pow 2 64) :
    literalToken ⟨false, Nat.toDigits 10 n, [], 0, true⟩ = .scalar (.number (.integer n)) := by
  unfold literalToken
  dsimp only
  rw [numberOf_toDigits, if_pos (by simpa using bound)]

theorem literalToken_negative {n : Nat} (positive : 0 < n) (bound : n ≤ Nat.pow 2 63) :
    literalToken ⟨true, Nat.toDigits 10 n, [], 0, true⟩ =
      .scalar (.number (.integer (-(n : Int)))) := by
  unfold literalToken
  dsimp only
  rw [numberOf_toDigits, if_neg (by simp), if_pos (by simpa using ⟨positive, bound⟩)]

end Json

/-- Integers of 64 bits, with a sign or without, read back. -/
theorem Number.readsBack_integer {i : Int} (low : -Int.pow 2 63 ≤ i) (high : i < Int.pow 2 64) :
    (Number.integer i).readsBack = true := by
  unfold readsBack
  dsimp only
  cases i with
  | ofNat n =>
      have text : (Json.numberText (.integer (.ofNat n))).toList = Nat.toDigits 10 n :=
        Nat.toList_repr
      have bound : n < Nat.pow 2 64 := Int.ofNat_lt.mp high
      have some : 1 ≤ (Nat.toDigits 10 n).length := Nat.length_toDigits_pos
      rw [text, (Json.scanNumber_toDigits n).1, Json.literalToken_natural bound]
      simp [Nat.sub_add_cancel some]
  | negSucc n =>
      have text : (Json.numberText (.integer (.negSucc n))).toList =
          '-' :: Nat.toDigits 10 (n + 1) := by
        change ("-" ++ Nat.repr (n + 1)).toList = _
        rw [String.toList_append, Nat.toList_repr]
        rfl
      have bound : n + 1 ≤ Nat.pow 2 63 := by
        have twoTo63 : Int.pow 2 63 = ((Nat.pow 2 63 : Nat) : Int) := rfl
        rw [twoTo63] at low
        omega
      rw [text, (Json.scanNumber_toDigits (n + 1)).2,
        Json.literalToken_negative (Nat.succ_pos n) bound]
      simp [Int.negSucc_eq]

end Workflow
