import Workflow.Text.Split

namespace Workflow.Text

/-!
# Texts as bytes

Bytes are read as UTF-8.  Where they are no character, the longest start of one that breaks off
counts as one failure, and so does any other byte.  A text that may be in UTF-16 says so by a mark
at its start.
-/

/-- The bytes of a text. -/
def toBytes (s : String) : List UInt8 := s.toList.flatMap String.utf8EncodeChar

/-- The character that some bytes start with; none has more than four bytes. -/
def firstCharacter? (bytes : List UInt8) : Option Char :=
  (bytes.take 4).toByteArray.utf8DecodeChar? 0

/-- Whether a byte goes on with a character of any length. -/
def isContinuation (byte : UInt8) : Bool := 0x80 ≤ byte && byte ≤ 0xBF

/-- Whether a byte may be the second one of a character that has at least three. -/
def goesOn (lead second : UInt8) : Bool :=
  if lead = 0xE0 then 0xA0 ≤ second && second ≤ 0xBF
  else if lead = 0xED then 0x80 ≤ second && second ≤ 0x9F
  else if lead = 0xF0 then 0x90 ≤ second && second ≤ 0xBF
  else if lead = 0xF4 then 0x80 ≤ second && second ≤ 0x8F
  else 0xE0 ≤ lead && lead ≤ 0xF4 && isContinuation second

/-- How many bytes after a first one belong to the start of a character that breaks off. -/
def strayLength (lead : UInt8) : List UInt8 → Nat
  | second :: third :: _ =>
    if goesOn lead second then
      if 0xF0 ≤ lead && isContinuation third then 2 else 1
    else 0
  | [second] => if goesOn lead second then 1 else 0
  | [] => 0

/-- The characters of some bytes, none for each failure. -/
def characters : List UInt8 → List (Option Char)
  | [] => []
  | lead :: rest =>
    match firstCharacter? (lead :: rest) with
    | some c => some c :: characters (rest.drop (c.utf8Size - 1))
    | none => none :: characters (rest.drop (strayLength lead rest))
termination_by bytes => bytes.length
decreasing_by
  all_goals simp only [List.length_drop, List.length_cons]; omega

/-- Pairs of bytes as units of UTF-16; none for a byte that is left over. -/
def units (unit : UInt8 → UInt8 → Nat) : List UInt8 → List (Option Nat)
  | first :: second :: rest => some (unit first second) :: units unit rest
  | [_] => [none]
  | [] => []

/-- The characters of units of UTF-16.  Half of a pair is a failure, and so is a byte that is left
over, but both together are one. -/
def wideCharacters : List (Option Nat) → List (Option Char)
  | [] => []
  | none :: _ => [none]
  | some high :: rest =>
    if 0xD800 ≤ high ∧ high < 0xDC00 then
      match rest with
      | some low :: later =>
        if 0xDC00 ≤ low ∧ low < 0xE000 then
          some (Char.ofNat (0x10000 + (high - 0xD800) * 0x400 + (low - 0xDC00))) ::
            wideCharacters later
        else none :: wideCharacters (some low :: later)
      | _ => [none]
    else if 0xDC00 ≤ high ∧ high < 0xE000 then none :: wideCharacters rest
    else some (Char.ofNat high) :: wideCharacters rest

/-- The text of some bytes, where a mark at the start is not part of it and the replacement
character stands for each failure. -/
def ofBytes (bytes : List UInt8) : String :=
  let found :=
    match bytes with
    | 0xEF :: 0xBB :: 0xBF :: rest => characters rest
    | 0xFE :: 0xFF :: rest =>
      wideCharacters (units (fun first second => 0x100 * first.toNat + second.toNat) rest)
    | 0xFF :: 0xFE :: rest =>
      wideCharacters (units (fun first second => first.toNat + 0x100 * second.toNat) rest)
    | _ => characters bytes
  String.ofList (found.map fun c => c.getD '\ufffd')

/-! ## Reading what was written -/

theorem firstCharacter?_append (c : Char) (rest : List UInt8) :
    firstCharacter? (String.utf8EncodeChar c ++ rest) = some c := by
  have short : (String.utf8EncodeChar c).length ≤ 4 := by
    rw [String.length_utf8EncodeChar]
    exact c.utf8Size_le_four
  rw [firstCharacter?, List.take_append, List.take_of_length_le short, List.toByteArray_append]
  exact ByteArray.utf8DecodeChar?_utf8EncodeChar_append

theorem characters_append (c : Char) (rest : List UInt8) :
    characters (String.utf8EncodeChar c ++ rest) = some c :: characters rest := by
  have first := firstCharacter?_append c rest
  have size : (String.utf8EncodeChar c).length = c.utf8Size := String.length_utf8EncodeChar c
  generalize String.utf8EncodeChar c = bytes at first size ⊢
  cases bytes with
  | nil => exact absurd size.symm (Nat.ne_of_gt c.utf8Size_pos)
  | cons lead others =>
      have beyond : (others ++ rest).drop (c.utf8Size - 1) = rest := by
        rw [← size]
        exact List.drop_left
      rw [List.cons_append] at first ⊢
      rw [characters, first]
      dsimp only
      rw [beyond]

/-- The bytes of a text are read as its characters. -/
theorem characters_toBytes (s : String) : characters (toBytes s) = s.toList.map some := by
  unfold toBytes
  induction s.toList with
  | nil => rw [List.flatMap_nil, characters, List.map_nil]
  | cons c rest inductionHypothesis =>
      rw [List.flatMap_cons, characters_append, inductionHypothesis, List.map_cons]

/-- What is no first byte starts no character. -/
theorem firstCharacter?_eq_none {lead : UInt8} (foreign : ¬lead.IsUTF8FirstByte)
    (rest : List UInt8) : firstCharacter? (lead :: rest) = none := by
  cases found : firstCharacter? (lead :: rest) with
  | none => rfl
  | some c =>
      have isFirst := ByteArray.isUTF8FirstByte_of_isSome_utf8DecodeChar?
        (Option.isSome_of_eq_some found)
      rw [List.getElem_toByteArray] at isFirst
      exact absurd isFirst foreign

/-- Bytes that start with something else start no text. -/
theorem toBytes_ne_cons {lead : UInt8} (foreign : ¬lead.IsUTF8FirstByte) (s : String)
    (rest : List UInt8) : toBytes s ≠ lead :: rest := by
  intro same
  have read := characters_toBytes s
  rw [same, characters, firstCharacter?_eq_none foreign] at read
  cases characters : s.toList with
  | nil =>
      rw [characters] at read
      cases read
  | cons c others =>
      rw [characters] at read
      cases (List.cons.inj read).1

theorem map_getD_map_some (cs : List Char) :
    (cs.map some).map (fun c => c.getD '\ufffd') = cs := by
  rw [List.map_map]
  exact List.map_id cs

/-- The text of the bytes of a text is that text, without the mark that it may start with. -/
theorem ofBytes_toBytes (s : String) : ofBytes (toBytes s) = withoutMark s := by
  have read := characters_toBytes s
  unfold ofBytes
  dsimp only
  split
  · next rest marked =>
    -- The three bytes are the mark itself, so that it is the first character.
    have mark : toBytes s = String.utf8EncodeChar '\ufeff' ++ rest := marked
    rw [mark, characters_append] at read
    rcases List.map_eq_cons_iff.mp read.symm with ⟨c, others, found, isMark, later⟩
    rw [← later, map_getD_map_some, withoutMark, found]
    exact (if_pos (congrArg Char.toNat (Option.some.inj isMark))).symm
  · next rest wide => exact absurd wide (toBytes_ne_cons (by decide) s _)
  · next rest wide => exact absurd wide (toBytes_ne_cons (by decide) s _)
  · next unmarked _ _ =>
    rw [read, map_getD_map_some, String.ofList_toList, withoutMark]
    split
    · next c rest found =>
      refine (if_neg fun isMark => ?_).symm
      have same : c = '\ufeff' := Char.toNat_inj.mp isMark
      apply unmarked (rest.flatMap String.utf8EncodeChar)
      rw [toBytes, found, same]
      rfl
    · rfl

end Workflow.Text
