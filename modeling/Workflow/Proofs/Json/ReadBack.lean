import Workflow.Json.Parser
import Workflow.Proofs.Json.Scanning

namespace Workflow

/-!
# Reading back what was written

The compact text of a value is read as that value, container by container, if each of its numbers
reads back and no more containers are nested than the reader takes.  What the reader gives is not
the value in memory but the source that a text is, with every member of an object in its place.

A text is read inside whatever containers are open: after the text of a value, the reader has come
as far as it comes with that value complete, and goes on with what follows.
-/

namespace Json

mutual

/-- What a reader makes of the text of a value: its containers are those of a text. -/
def toSource : Json → Source
  | .array items => .array (itemSources items) true
  | .object members => .object (memberSources members) true
  | .null => .value .null
  | .bool b => .value (.bool b)
  | .number n => .value (.number n)
  | .string s => .value (.string s)

/-- What a reader makes of the items of an array. -/
def itemSources : List Json → List Source
  | [] => []
  | item :: rest => toSource item :: itemSources rest

/-- What a reader makes of the members of an object. -/
def memberSources : List (String × Json) → List (Option String × Source)
  | [] => []
  | (key, value) :: rest => (some key, toSource value) :: memberSources rest

end

theorem toSource_array (items : List Json) :
    (Json.array items).toSource = .array (items.map toSource) true := by
  have sources : itemSources items = items.map toSource := by
    induction items with
    | nil => rfl
    | cons item rest inductionHypothesis => rw [itemSources, inductionHypothesis, List.map_cons]
  rw [toSource, sources]

theorem toSource_object (members : List (String × Json)) :
    (Json.object members).toSource =
      .object (members.map fun m => (some m.1, m.2.toSource)) true := by
  have sources : memberSources members = members.map fun m => (some m.1, m.2.toSource) := by
    induction members with
    | nil => rfl
    | cons m rest inductionHypothesis => rw [memberSources, inductionHypothesis, List.map_cons]
  rw [toSource, sources]

/-- The text of a value can be read: each number in it reads back, and no more containers are nested
than there is room for. -/
inductive Legible : Nat → Json → Prop
  | null {room : Nat} : Legible room .null
  | bool {room : Nat} (b : Bool) : Legible room (.bool b)
  | number {room : Nat} {n : Number} (back : n.readsBack = true) : Legible room (.number n)
  | string {room : Nat} (s : String) : Legible room (.string s)
  | array {room : Nat} {items : List Json} (each : ∀ item ∈ items, Legible room item) :
      Legible (room + 1) (.array items)
  | object {room : Nat} {members : List (String × Json)}
      (each : ∀ m ∈ members, Legible room m.2) : Legible (room + 1) (.object members)

/-- Reads a text from some progress on. -/
def readFrom (progress : Progress) (text : List Char) : Progress :=
  (tokens text).foldl advance progress

theorem readFrom_of_tokens {progress : Progress} {text rest : List Char} {token : Token}
    (scanned : tokens text = token :: tokens rest) :
    readFrom progress text = readFrom (advance progress token) rest := by
  unfold readFrom
  rw [scanned, List.foldl_cons]

/-- The grammar allows a value next. -/
def Expected.Accepts (expected : Expected) : Prop :=
  expected = .value ∨ expected = .valueOrEnd

section Values

variable {frames : List Frame} {expected : Expected}

theorem advance_scalar (accepts : expected.Accepts) (v : Json) :
    advance (.reading frames expected) (.scalar v) = complete (.value v) frames := by
  rcases accepts with rfl | rfl
  · rfl
  · rfl

theorem advance_text (accepts : expected.Accepts) (s : String) :
    advance (.reading frames expected) (.text (some s)) = complete (.value (.string s)) frames := by
  rcases accepts with rfl | rfl
  · rfl
  · rfl

theorem advance_openArray (accepts : expected.Accepts) :
    advance (.reading frames expected) .openArray =
      .reading (.array [] :: frames) .valueOrEnd := by
  rcases accepts with rfl | rfl
  · rfl
  · rfl

theorem advance_openObject (accepts : expected.Accepts) :
    advance (.reading frames expected) .openObject =
      .reading (.object [] :: frames) .keyOrEnd := by
  rcases accepts with rfl | rfl
  · rfl
  · rfl

/-- The text of a value is read as the value, wherever a value may stand. -/
def ReadsAs (room : Nat) (v : Json) : Prop :=
  ∀ (frames : List Frame) (expected : Expected) (rest : List Char), expected.Accepts →
    frames.length + room ≤ deepest → Delimited rest →
      readFrom (.reading frames expected) (v.compact.toList ++ rest) =
        readFrom (complete v.toSource frames) rest

theorem delimited_of_mark {c : Char} (mark : c = ',' ∨ c = ']' ∨ c = '\x7d') (rest : List Char) :
    Delimited (c :: rest) := by
  intro first head
  obtain rfl := Option.some.inj head
  exact mark

theorem readsAs_scalar {room : Nat} {v : Json} (plain : v.toSource = .value v)
    (scanned : ∀ rest, Delimited rest →
      tokens (v.compact.toList ++ rest) = .scalar v :: tokens rest) : ReadsAs room v := by
  intro frames expected rest accepts _ delimited
  rw [readFrom_of_tokens (scanned rest delimited), advance_scalar accepts, plain]

theorem readsAs_string {room : Nat} (s : String) : ReadsAs room (.string s) := by
  intro frames expected rest accepts _ _
  rw [compact, readFrom_of_tokens (tokens_quote s rest), advance_text accepts]
  rfl

variable {room : Nat} {rest : List Char}

theorem closed_of_room (deep : frames.length + (room + 1) ≤ deepest) (container : Source) :
    closed (frames.length + 1) true container = container := if_pos (by omega)

/-- A part, a comma, and the other parts. -/
theorem toList_intercalate_cons_cons (part next : String) (others : List String) :
    (String.intercalate "," (part :: next :: others)).toList ++ rest =
      part.toList ++ ',' :: ((String.intercalate "," (next :: others)).toList ++ rest) := by
  rw [String.intercalate_cons_cons, String.toList_append, String.toList_append, List.append_assoc,
    List.append_assoc]
  rfl

/-- The parts of an open container, if each part is read as it should be wherever one may stand, and
a comma leads to such a place.  The frame holds the parts that were read, the last one first. -/
theorem readFrom_parts {α β : Type} {text : α → String} {source : α → β} {frame : List β → Frame}
    {Starts : Expected → Prop} {next : Expected} {parts : List α}
    (each : ∀ a ∈ parts, ∀ before expected rest, Starts expected → Delimited rest →
      readFrom (.reading (frame before :: frames) expected) ((text a).toList ++ rest) =
        readFrom (.reading (frame (source a :: before) :: frames) .commaOrEnd) rest)
    (comma : ∀ before, advance (.reading (frame before :: frames) .commaOrEnd) .comma =
      .reading (frame before :: frames) next)
    (again : Starts next) (nonempty : parts ≠ []) (starts : Starts expected)
    (delimited : Delimited rest) (before : List β) :
    readFrom (.reading (frame before :: frames) expected)
        ((String.intercalate "," (parts.map text)).toList ++ rest) =
      readFrom (.reading (frame ((parts.map source).reverse ++ before) :: frames) .commaOrEnd)
        rest := by
  induction parts generalizing before expected with
  | nil => exact absurd rfl nonempty
  | cons part others inductionHypothesis =>
      have first := each part List.mem_cons_self before expected
      cases others with
      | nil => exact first rest starts delimited
      | cons second others =>
          have later := inductionHypothesis
            (fun a member => each a (List.mem_cons_of_mem _ member)) nofun again
            (source part :: before)
          have order : ((part :: second :: others).map source).reverse ++ before =
              ((second :: others).map source).reverse ++ source part :: before := by
            rw [List.map_cons, List.reverse_cons, List.append_assoc, List.singleton_append]
          rw [List.map_cons] at later
          rw [order, List.map_cons, List.map_cons, toList_intercalate_cons_cons,
            first _ starts (delimited_of_mark (.inl rfl) _), readFrom_of_tokens (tokens_comma _),
            comma, later]

theorem compactItems_eq_map (items : List Json) : compactItems items = items.map compact := by
  induction items with
  | nil => rfl
  | cons item others inductionHypothesis => rw [compactItems, inductionHypothesis, List.map_cons]

theorem compactMembers_eq_map (members : List (String × Json)) :
    compactMembers members = members.map fun m => quote m.1 ++ ":" ++ m.2.compact := by
  induction members with
  | nil => rfl
  | cons m others inductionHypothesis => rw [compactMembers, inductionHypothesis, List.map_cons]

/-- The items of an array that is open, up to its end. -/
theorem readFrom_items {items : List Json} (each : ∀ item ∈ items, ReadsAs room item)
    (nonempty : items ≠ []) (deep : frames.length + (room + 1) ≤ deepest) :
    readFrom (.reading (.array [] :: frames) .valueOrEnd)
        ((String.intercalate "," (compactItems items)).toList ++ ']' :: rest) =
      readFrom (complete (.array (items.map toSource) true) frames) rest := by
  have first : ∀ item ∈ items, ∀ before expected follow, expected.Accepts → Delimited follow →
      readFrom (.reading (.array before :: frames) expected) (item.compact.toList ++ follow) =
        readFrom (.reading (.array (item.toSource :: before) :: frames) .commaOrEnd) follow := by
    intro item member before expected follow accepts delimited
    have space : (Frame.array before :: frames).length + room ≤ deepest := by
      rw [List.length_cons]
      omega
    exact each item member _ expected follow accepts space delimited
  have ends : Delimited (']' :: rest) := delimited_of_mark (.inr (.inl rfl)) rest
  rw [compactItems_eq_map, readFrom_parts first (fun _ => rfl) (.inl rfl) nonempty (.inr rfl) ends,
    readFrom_of_tokens (tokens_closeArray rest), advance, closed_of_room deep, List.append_nil,
    List.reverse_reverse]

/-- The members of an object that is open, up to its end. -/
theorem readFrom_members {members : List (String × Json)}
    (each : ∀ m ∈ members, ReadsAs room m.2) (nonempty : members ≠ [])
    (deep : frames.length + (room + 1) ≤ deepest) :
    readFrom (.reading (.object [] :: frames) .keyOrEnd)
        ((String.intercalate "," (compactMembers members)).toList ++ '\x7d' :: rest) =
      readFrom (complete (.object (members.map fun m => (some m.1, m.2.toSource)) true) frames)
        rest := by
  have first : ∀ m ∈ members, ∀ before expected follow, expected = .key ∨ expected = .keyOrEnd →
      Delimited follow →
      readFrom (.reading (.object before :: frames) expected)
          ((quote m.1 ++ ":" ++ m.2.compact).toList ++ follow) =
        readFrom (.reading (.object ((some m.1, m.2.toSource) :: before) :: frames) .commaOrEnd)
          follow := by
    intro m member before expected follow key delimited
    have space : (Frame.member before (some m.1) :: frames).length + room ≤ deepest := by
      rw [List.length_cons]
      omega
    have named : advance (.reading (.object before :: frames) expected) (.text (some m.1)) =
        .reading (.member before (some m.1) :: frames) .colon := by
      rcases key with rfl | rfl
      · rfl
      · rfl
    rw [String.toList_append, String.toList_append, List.append_assoc, List.append_assoc,
      readFrom_of_tokens (tokens_quote m.1 _), named]
    change readFrom _ (':' :: _) = _
    rw [readFrom_of_tokens (tokens_colon _), advance]
    exact each m member _ .value follow (.inl rfl) space delimited
  have ends : Delimited ('\x7d' :: rest) := delimited_of_mark (.inr (.inr rfl)) rest
  rw [compactMembers_eq_map,
    readFrom_parts first (fun _ => rfl) (.inl rfl) nonempty (.inr rfl) ends,
    readFrom_of_tokens (tokens_closeObject rest), advance, closed_of_room deep, List.append_nil,
    List.reverse_reverse]

theorem readsAs_array {items : List Json} (each : ∀ item ∈ items, ReadsAs room item) :
    ReadsAs (room + 1) (.array items) := by
  intro frames expected rest accepts deep delimited
  have written : (Json.array items).compact.toList ++ rest =
      '[' :: ((String.intercalate "," (compactItems items)).toList ++ ']' :: rest) := by
    rw [compact, String.toList_append, String.toList_append, List.append_assoc, List.append_assoc]
    rfl
  rw [written, readFrom_of_tokens (tokens_openArray _), advance_openArray accepts, toSource_array]
  cases items with
  | nil =>
      change readFrom _ (']' :: rest) = _
      rw [readFrom_of_tokens (tokens_closeArray rest), advance, closed_of_room deep]
      rfl
  | cons item others => exact readFrom_items each nofun deep

theorem readsAs_object {members : List (String × Json)}
    (each : ∀ m ∈ members, ReadsAs room m.2) : ReadsAs (room + 1) (.object members) := by
  intro frames expected rest accepts deep delimited
  have written : (Json.object members).compact.toList ++ rest =
      '\x7b' :: ((String.intercalate "," (compactMembers members)).toList ++ '\x7d' :: rest) := by
    rw [compact, String.toList_append, String.toList_append, List.append_assoc, List.append_assoc]
    rfl
  rw [written, readFrom_of_tokens (tokens_openObject _), advance_openObject accepts,
    toSource_object]
  cases members with
  | nil =>
      change readFrom _ ('\x7d' :: rest) = _
      rw [readFrom_of_tokens (tokens_closeObject rest), advance, closed_of_room deep]
      rfl
  | cons m others => exact readFrom_members each nofun deep

end Values

theorem Legible.readsAs {room : Nat} {v : Json} (legible : Legible room v) : ReadsAs room v := by
  induction legible with
  | null => exact readsAs_scalar rfl fun rest _ => tokens_null rest
  | bool b =>
      cases b with
      | true => exact readsAs_scalar rfl fun rest _ => tokens_true rest
      | false => exact readsAs_scalar rfl fun rest _ => tokens_false rest
  | number back => exact readsAs_scalar rfl fun rest delimited => tokens_number back delimited
  | string s => exact readsAs_string s
  | array each inductionHypothesis => exact readsAs_array inductionHypothesis
  | object each inductionHypothesis => exact readsAs_object inductionHypothesis

/-- A legible text says its value, and nothing follows. -/
theorem read_compact {v : Json} (legible : Legible deepest v) :
    read v.compact = ⟨v.toSource, false⟩ := by
  have ends : Delimited [] := nofun
  have whole := legible.readsAs [] .value [] (.inl rfl) (Nat.le_of_eq (Nat.zero_add _)) ends
  have finished : readFrom (complete v.toSource []) [] = .finished v.toSource := by
    rw [readFrom, tokens]
    rfl
  rw [List.append_nil, finished] at whole
  exact congrArg Progress.document whole

end Json

end Workflow
