import Workflow.Http.Percent

namespace Workflow.Http

/-!
# Escapes are read back

Escaping a text and reading it gives the bytes that the text stands for as it is.  An escape that is
in the text already is kept, so that escaping does not show whether a text was escaped before; but a
text without a percent sign is read back as itself.

A percent sign that is no escape does not become one: what is written for the character after it is
that character or another percent sign, and the latter is no digit.
-/

/-- Percent signs, the digits after them and slashes may stand as they are. -/
structure KeepsEscapes (mayStand : Char → Bool) : Prop where
  percent : mayStand '%' = true
  digit : ∀ {c : Char}, (Text.hexValue? c).isSome = true → mayStand c = true
  slash : mayStand '/' = true

/-- The text begins with two digits. -/
def StartsWithByte : List Char → Prop
  | high :: low :: _ => (Text.hexValue? high).isSome = true ∧ (Text.hexValue? low).isSome = true
  | _ => False

variable {mayStand : Char → Bool} {cs : List Char}

/-! ## Digits -/

theorem hexValue?_hexDigit : ∀ n < 16, Text.hexValue? (hexDigit n) = some n := by decide

theorem hexDigit_ne_slash : ∀ n < 16, hexDigit n ≠ '/' := by decide

theorem mem_digits {c : Char} (digit : (Text.hexValue? c).isSome = true) :
    c ∈ "0123456789ABCDEFabcdef".toList := by
  have bounds : c.toNat < 103 ∧ (48 ≤ c.toNat ∧ c.toNat ≤ 57 ∨ 65 ≤ c.toNat ∧ c.toNat ≤ 70 ∨
      97 ≤ c.toNat ∧ c.toNat ≤ 102) := by
    unfold Text.hexValue? at digit
    split at digit
    · next range =>
      have decimal : 48 ≤ c.toNat ∧ c.toNat ≤ 57 := range
      omega
    · split at digit
      · next range =>
        have small : 97 ≤ c.toNat ∧ c.toNat ≤ 102 := range
        omega
      · split at digit
        · next range =>
          have capital : 65 ≤ c.toNat ∧ c.toNat ≤ 70 := range
          omega
        · cases digit
  have all : ∀ n < 103, (48 ≤ n ∧ n ≤ 57 ∨ 65 ≤ n ∧ n ≤ 70 ∨ 97 ≤ n ∧ n ≤ 102) →
      Char.ofNat n ∈ "0123456789ABCDEFabcdef".toList := by decide
  rw [← Char.ofNat_toNat c]
  exact all c.toNat bounds.1 bounds.2

theorem keepsEscapes_standsInPath : KeepsEscapes standsInPath := by
  refine ⟨by decide, ?_, by decide⟩
  intro c digit
  have all : "0123456789ABCDEFabcdef".toList.all standsInPath = true := by decide
  exact List.all_eq_true.mp all c (mem_digits digit)

theorem keepsEscapes_standsInQuery : KeepsEscapes standsInQuery := by
  refine ⟨by decide, ?_, by decide⟩
  intro c digit
  have all : "0123456789ABCDEFabcdef".toList.all standsInQuery = true := by decide
  exact List.all_eq_true.mp all c (mem_digits digit)

/-! ## Reading -/

theorem unescape_byte {high low : Char} {h l : Nat} (first : Text.hexValue? high = some h)
    (second : Text.hexValue? low = some l) :
    unescape ('%' :: high :: low :: cs) = UInt8.ofNat (16 * h + l) :: unescape cs := by
  rw [unescape, first, second]

theorem exists_of_startsWithByte (start : StartsWithByte cs) :
    ∃ high low rest, cs = high :: low :: rest := by
  cases cs with
  | nil => exact start.elim
  | cons high tail =>
      cases tail with
      | nil => exact start.elim
      | cons low rest => exact ⟨high, low, rest, rfl⟩

theorem unescape_percent (single : ¬StartsWithByte cs) :
    unescape ('%' :: cs) = 0x25 :: unescape cs := by
  cases cs with
  | nil => rfl
  | cons high tail =>
      cases tail with
      | nil => rfl
      | cons low rest =>
          rw [unescape]
          split
          · next h l first second =>
            exact absurd ⟨first ▸ rfl, second ▸ rfl⟩ single
          · rfl

theorem unescape_cons_of_ne {c : Char} (plain : c ≠ '%') :
    unescape (c :: cs) = String.utf8EncodeChar c ++ unescape cs :=
  unescape.eq_3 c cs fun _ _ _ percent _ => plain percent

theorem unescape_escapeByte (byte : UInt8) :
    unescape (escapeByte byte ++ cs) = byte :: unescape cs := by
  have small : byte.toNat < 256 := byte.toNat_lt
  have high : byte.toNat / 16 < 16 := by omega
  have low : byte.toNat % 16 < 16 := by omega
  have whole : 16 * (byte.toNat / 16) + byte.toNat % 16 = byte.toNat := Nat.div_add_mod ..
  have read : unescape (escapeByte byte ++ cs) =
      UInt8.ofNat (16 * (byte.toNat / 16) + byte.toNat % 16) :: unescape cs :=
    unescape_byte (hexValue?_hexDigit _ high) (hexValue?_hexDigit _ low)
  rw [read, whole, UInt8.ofNat_toNat]

theorem unescape_escapeBytes (bytes : List UInt8) :
    unescape (bytes.flatMap escapeByte ++ cs) = bytes ++ unescape cs := by
  induction bytes with
  | nil => rfl
  | cons byte rest inductionHypothesis =>
      rw [List.flatMap_cons, List.append_assoc, unescape_escapeByte, inductionHypothesis,
        List.cons_append]

/-- A text without percent signs stands for itself. -/
theorem unescape_of_not_mem (plain : '%' ∉ cs) :
    unescape cs = cs.flatMap String.utf8EncodeChar := by
  induction cs with
  | nil => rfl
  | cons c rest inductionHypothesis =>
      rw [List.mem_cons, not_or] at plain
      rw [unescape_cons_of_ne (Ne.symm plain.1), inductionHypothesis plain.2, List.flatMap_cons]

/-- Texts without percent signs that stand for the same bytes are the same. -/
theorem eq_of_unescape_eq {ds : List Char} (plain : '%' ∉ cs) (alsoPlain : '%' ∉ ds)
    (same : unescape cs = unescape ds) : cs = ds := by
  rw [unescape_of_not_mem plain, unescape_of_not_mem alsoPlain] at same
  have bytes : cs.utf8Encode = ds.utf8Encode := congrArg List.toByteArray same
  rw [← String.toByteArray_ofList, ← String.toByteArray_ofList] at bytes
  exact String.ofList_injective (String.toByteArray_inj.mp bytes)

/-! ## Escaping -/

theorem escape_append (ds : List Char) :
    escape mayStand (cs ++ ds) = escape mayStand cs ++ escape mayStand ds := List.flatMap_append

theorem escape_cons_of_stands {c : Char} (stands : mayStand c = true) :
    escape mayStand (c :: cs) = c :: escape mayStand cs := by
  simp [escape, stands]

theorem escape_cons_of_not {c : Char} (not : mayStand c = false) :
    escape mayStand (c :: cs) =
      (String.utf8EncodeChar c).flatMap escapeByte ++ escape mayStand cs := by
  simp [escape, not]

/-- What is written for a character that may not stand begins with a percent sign. -/
theorem exists_escape_cons_of_not {c : Char} (not : mayStand c = false) (cs : List Char) :
    ∃ rest, escape mayStand (c :: cs) = '%' :: rest := by
  rw [escape_cons_of_not not]
  cases bytes : String.utf8EncodeChar c with
  | nil => exact absurd bytes String.utf8EncodeChar_ne_nil
  | cons byte others => exact ⟨_, rfl⟩

/-- Escaping brings no byte to the front. -/
theorem startsWithByte_of_escape (start : StartsWithByte (escape mayStand cs)) :
    StartsWithByte cs := by
  have percent : (Text.hexValue? '%').isSome = false := by decide
  cases cs with
  | nil => exact start
  | cons c rest =>
      cases first : mayStand c with
      | false =>
          rcases exists_escape_cons_of_not first rest with ⟨after, written⟩
          rw [written] at start
          cases after with
          | nil => exact start.elim
          | cons _ _ => exact absurd start.1 (percent ▸ Bool.false_ne_true)
      | true =>
          rw [escape_cons_of_stands first] at start
          cases rest with
          | nil => exact start.elim
          | cons d others =>
              cases second : mayStand d with
              | false =>
                  rcases exists_escape_cons_of_not second others with ⟨after, written⟩
                  rw [written] at start
                  exact absurd start.2 (percent ▸ Bool.false_ne_true)
              | true =>
                  rw [escape_cons_of_stands second] at start
                  exact start

/-- What is escaped stands for the same bytes as before. -/
theorem unescape_escape (keeps : KeepsEscapes mayStand) :
    unescape (escape mayStand cs) = unescape cs := by
  fun_induction unescape cs with
  | case1 => rfl
  | case2 high low rest h l second first inductionHypothesis =>
      have standsFirst : mayStand high = true := keeps.digit (first ▸ rfl)
      have standsSecond : mayStand low = true := keeps.digit (second ▸ rfl)
      rw [escape_cons_of_stands keeps.percent, escape_cons_of_stands standsFirst,
        escape_cons_of_stands standsSecond, unescape_byte first second, inductionHypothesis]
  | case3 high low rest none inductionHypothesis =>
      have single : ¬StartsWithByte (escape mayStand (high :: low :: rest)) := by
        intro start
        rcases startsWithByte_of_escape start with ⟨first, second⟩
        rcases Option.isSome_iff_exists.mp first with ⟨h, first⟩
        rcases Option.isSome_iff_exists.mp second with ⟨l, second⟩
        exact none h l first second
      rw [escape_cons_of_stands keeps.percent, unescape_percent single, inductionHypothesis]
  | case4 c rest none inductionHypothesis =>
      cases stands : mayStand c with
      | false => rw [escape_cons_of_not stands, unescape_escapeBytes, inductionHypothesis]
      | true =>
          rw [escape_cons_of_stands stands]
          by_cases percent : c = '%'
          · subst percent
            have single : ¬StartsWithByte (escape mayStand rest) := by
              intro start
              rcases exists_of_startsWithByte (startsWithByte_of_escape start) with
                ⟨high, low, others, rfl⟩
              exact none high low others rfl rfl
            rw [unescape_percent single, inductionHypothesis]
            rfl
          · rw [unescape_cons_of_ne percent, inductionHypothesis]

theorem slash_not_mem_escape (undivided : '/' ∉ cs) : '/' ∉ escape mayStand cs := by
  intro member
  rcases List.mem_flatMap.mp member with ⟨c, old, written⟩
  split at written
  · exact undivided (List.mem_singleton.mp written ▸ old)
  · rcases List.mem_flatMap.mp written with ⟨byte, _, digits⟩
    have small : byte.toNat < 256 := byte.toNat_lt
    simp only [escapeByte, List.mem_cons, List.not_mem_nil, or_false] at digits
    rcases digits with percent | high | low
    · exact absurd percent (by decide)
    · exact hexDigit_ne_slash _ (by omega) high.symm
    · exact hexDigit_ne_slash _ (by omega) low.symm

end Workflow.Http
