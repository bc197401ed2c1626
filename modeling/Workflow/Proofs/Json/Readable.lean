import Workflow.Proofs.Dictionary
import Workflow.Proofs.Json.ReadBack

namespace Workflow

/-!
# What a text can say

Whatever a text says, an integer in it has 64 bits, the members of its objects ascend, and its
containers are nested no deeper than the reader takes.  For the rest of the text nothing is assumed:
it may break off, leave the grammar, repeat keys and nest deeper, and then has less to say.

The bounds hold of each token, and of all that lies on the stack of the machine, where the room that
is left shrinks by one with each container that is open.
-/

namespace Json

/-- A value that a text can say, in so much room for nested containers. -/
inductive Readable : Nat → Json → Prop
  | null {room : Nat} : Readable room .null
  | bool {room : Nat} (b : Bool) : Readable room (.bool b)
  | integer {room : Nat} {i : Int} (low : -Int.pow 2 63 ≤ i) (high : i < Int.pow 2 64) :
      Readable room (.number (.integer i))
  | double {room : Nat} (d : Double) : Readable room (.number (.double d))
  | string {room : Nat} (s : String) : Readable room (.string s)
  | array {room : Nat} {items : List Json} (each : ∀ item ∈ items, Readable room item) :
      Readable (room + 1) (.array items)
  | object {room : Nat} {members : List (String × Json)}
      (ascending : members.Pairwise fun a b => a.1 < b.1)
      (each : ∀ m ∈ members, Readable room m.2) : Readable (room + 1) (.object members)

end Json

/-- A source all of whose values a text can say. -/
inductive Source.Within : Nat → Source → Prop
  | value {room : Nat} {v : Json} (readable : ∀ room, v.Readable room) : Within room (.value v)
  | valueless {room : Nat} : Within room .valueless
  | broken {room : Nat} : Within room .broken
  | array {room : Nat} {items : List Source} (each : ∀ item ∈ items, Within room item)
      (complete : Bool) : Within (room + 1) (.array items complete)
  | object {room : Nat} {members : List (Option String × Source)}
      (each : ∀ m ∈ members, Within room m.2) (complete : Bool) :
      Within (room + 1) (.object members complete)

namespace Json

/-! ## Tokens -/

/-- A value in a token is one that a text can say, whatever room there is. -/
def Token.Sound : Token → Prop
  | .scalar v => ∀ room, v.Readable room
  | _ => True

theorem sound_literalToken (l : Literal) : (literalToken l).Sound := by
  have none : (0 : Int) ≤ Int.pow 2 63 := by decide
  have least : (0 : Int) < Int.pow 2 64 := by decide
  unfold literalToken
  dsimp only
  split
  · next whole =>
    intro room
    have bound : Literal.numberOf l.whole < Nat.pow 2 64 := by
      simpa using (Bool.and_eq_true_iff.mp whole).2
    have high : (Literal.numberOf l.whole : Int) < (Nat.pow 2 64 : Nat) := Int.ofNat_lt.mpr bound
    exact .integer (by omega) high
  · split
    · next negative =>
      intro room
      have bound : Literal.numberOf l.whole ≤ Nat.pow 2 63 := by
        simpa using (Bool.and_eq_true_iff.mp negative).2
      have low : (Literal.numberOf l.whole : Int) ≤ (Nat.pow 2 63 : Nat) := Int.ofNat_le.mpr bound
      exact .integer (Int.neg_le_neg low) (by omega)
    · split
      · exact fun room => .double _
      · trivial

theorem sound_scanString (taken : Nat) (before : Option (List Char)) (text : List Char) :
    (scanString taken before text).1.Sound := by
  fun_induction scanString taken before text <;> trivial

theorem sound_scanNumber (text : List Char) : (scanNumber text).1.Sound := by
  rw [Numeral.scanNumber_eq]
  split
  · trivial
  split
  · trivial
  split
  · trivial
  · exact sound_literalToken _

theorem sound_scanWord (text : List Char) : (scanWord text).1.Sound := by
  unfold scanWord
  split
  · exact fun room => .null
  split
  · exact fun room => .bool true
  split
  · exact fun room => .bool false
  · trivial

theorem sound_scanToken (c : Char) (rest : List Char) : (scanToken c rest).1.Sound := by
  unfold scanToken
  iterate 6 (split; · trivial)
  split
  · exact sound_scanString 0 (some []) rest
  split
  · exact sound_scanNumber (c :: rest)
  · exact sound_scanWord (c :: rest)

theorem sound_of_mem_tokens {text : List Char} {token : Token} (member : token ∈ tokens text) :
    token.Sound := by
  fun_induction tokens text with
  | case1 => cases member
  | case2 c rest space inductionHypothesis => exact inductionHypothesis member
  | case3 c rest visible taken scanned =>
      obtain rfl := List.mem_singleton.mp member
      trivial
  | case4 c rest visible first taken sound scanned inductionHypothesis =>
      rcases List.mem_cons.mp member with rfl | later
      · have own := sound_scanToken c rest
        rwa [scanned] at own
      · exact inductionHypothesis later

/-! ## The machine -/

/-- What lies in an open container leaves the room that is left in it. -/
def Frame.Within (room : Nat) : Frame → Prop
  | .array items => ∀ item ∈ items, item.Within room
  | .object members => ∀ m ∈ members, m.2.Within room
  | .member members _ => ∀ m ∈ members, m.2.Within room

/-- Each container that is open holds what its depth has room for. -/
def FramesWithin : List Frame → Prop
  | [] => True
  | frame :: outer => frame.Within (deepest - (outer.length + 1)) ∧ FramesWithin outer

/-- All that has been read is within its room. -/
def Progress.Within : Progress → Prop
  | .reading frames _ => FramesWithin frames
  | .finished root => root.Within deepest
  | .stopped document => document.root.Within deepest

variable {frames outer : List Frame} {frame : Frame} {source : Source}

/-- A container that is closed has one place more than its contents, unless it is too deep. -/
theorem within_closed {depth : Nat} {complete : Bool}
    (within : source.Within (deepest - (depth + 1) + 1)) :
    (closed (depth + 1) complete source).Within (deepest - depth) := by
  unfold closed
  split
  · next shallow =>
    rwa [show deepest - (depth + 1) + 1 = deepest - depth by omega] at within
  · split
    · exact .valueless
    · exact .broken

theorem within_put {room : Nat} (within : frame.Within room) (inner : source.Within room) :
    (frame.put source).Within room := by
  cases frame with
  | array items =>
      intro item member
      rcases List.mem_cons.mp member with rfl | earlier
      · exact inner
      · exact within item earlier
  | object members => exact within
  | member members key =>
      intro m member
      rcases List.mem_cons.mp member with rfl | earlier
      · exact inner
      · exact within m earlier

theorem within_cut {depth : Nat} (within : frame.Within (deepest - (depth + 1))) :
    (frame.cut (depth + 1)).Within (deepest - depth) := by
  cases frame with
  | array items =>
      exact within_closed (.array (fun item member => within item (List.mem_reverse.mp member)) _)
  | object members =>
      exact within_closed (.object (fun m member => within m (List.mem_reverse.mp member)) _)
  | member members key =>
      refine within_closed (.object (fun m member => ?_) _)
      rcases List.mem_cons.mp (List.mem_reverse.mp member) with rfl | earlier
      · exact .broken
      · exact within m earlier

theorem within_cutAll (within : FramesWithin frames)
    (inner : source.Within (deepest - frames.length)) : (cutAll frames source).Within deepest := by
  induction frames generalizing source with
  | nil => exact inner
  | cons frame outer inductionHypothesis =>
      exact inductionHypothesis within.2 (within_cut (within_put within.1 inner))

theorem within_stop (within : FramesWithin frames) : (stop frames).Within := by
  cases frames with
  | nil => exact .broken
  | cons frame outer => exact within_cutAll within.2 (within_cut within.1)

theorem within_complete (within : FramesWithin frames)
    (inner : source.Within (deepest - frames.length)) : (complete source frames).Within := by
  cases frames with
  | nil => exact inner
  | cons frame outer => exact ⟨within_put within.1 inner, within.2⟩

theorem within_closeArray {items : List Source} (within : FramesWithin (.array items :: outer)) :
    (complete (closed (outer.length + 1) true (.array items.reverse true)) outer).Within :=
  within_complete within.2
    (within_closed (.array (fun item member => within.1 item (List.mem_reverse.mp member)) true))

theorem within_closeObject {members : List (Option String × Source)}
    (within : FramesWithin (.object members :: outer)) :
    (complete (closed (outer.length + 1) true (.object members.reverse true)) outer).Within :=
  within_complete within.2
    (within_closed (.object (fun m member => within.1 m (List.mem_reverse.mp member)) true))

theorem Progress.Within.advance {progress : Progress} {token : Token} (within : progress.Within)
    (sound : token.Sound) : (Json.advance progress token).Within := by
  have empty : ∀ {α : Type} {P : α → Prop}, ∀ a ∈ ([] : List α), P a := nofun
  unfold Json.advance
  split
  · exact within
  · exact within
  · split
    -- Scalars and strings, each as a first item or as a value that must follow.
    · exact within_complete within (.value sound)
    · exact within_complete within (.value sound)
    · exact within_complete within (.value fun room => .string _)
    · exact within_complete within (.value fun room => .string _)
    · exact within_complete within .valueless
    · exact within_complete within .valueless
    · exact within_complete within .valueless
    · exact within_complete within .valueless
    -- Containers that are opened and closed.
    · exact ⟨empty, within⟩
    · exact ⟨empty, within⟩
    · exact ⟨empty, within⟩
    · exact ⟨empty, within⟩
    · exact within_closeArray within
    · exact within_closeArray within
    · exact within_closeObject within
    · exact within_closeObject within
    -- What stands between the values.
    · exact within
    · exact within
    · exact within
    · exact within
    · exact within
    · exact within_stop within

theorem Progress.Within.document {progress : Progress} (within : progress.Within) :
    progress.document.root.Within deepest := by
  cases progress with
  | stopped document => exact within
  | finished root => exact within
  | reading frames expected =>
      have stopped := within_stop within
      cases frames with
      | nil => exact .broken
      | cons frame outer => exact stopped

theorem Progress.Within.foldl_advance {progress : Progress} (within : progress.Within)
    {ts : List Token} (sound : ∀ token ∈ ts, token.Sound) :
    (ts.foldl Json.advance progress).Within := by
  induction ts generalizing progress with
  | nil => exact within
  | cons token rest inductionHypothesis =>
      exact inductionHypothesis (within.advance (sound token List.mem_cons_self))
        fun other member => sound other (List.mem_cons_of_mem _ member)

/-- What is read of any text is within the room that the reader has. -/
theorem within_read (text : String) : (read text).root.Within deepest := by
  have start : (Progress.reading [] .value).Within := trivial
  have sound : ∀ token ∈ tokens text.toList, token.Sound := fun _ => sound_of_mem_tokens
  exact (start.foldl_advance sound).document

end Json

/-! ## Values -/

namespace Source

theorem itemsToJson?_mem {items : List Source} {vs : List Json}
    (said : itemsToJson? items = some vs) {v : Json} (member : v ∈ vs) :
    ∃ item ∈ items, item.toJson? = some v := by
  induction items generalizing vs with
  | nil =>
      obtain rfl := Option.some.inj said
      cases member
  | cons item rest inductionHypothesis =>
      rw [itemsToJson?] at said
      split at said
      · next first others own later =>
        obtain rfl := Option.some.inj said
        rcases List.mem_cons.mp member with rfl | inside
        · exact ⟨item, List.mem_cons_self, own⟩
        · rcases inductionHypothesis later inside with ⟨other, found, read⟩
          exact ⟨other, List.mem_cons_of_mem _ found, read⟩
      · cases said

theorem membersToJson?_mem {members : List (Option String × Source)} {ms : List (String × Json)}
    (said : membersToJson? members = some ms) {m : String × Json} (member : m ∈ ms) :
    ∃ entry ∈ members, entry.2.toJson? = some m.2 := by
  induction members generalizing ms with
  | nil =>
      obtain rfl := Option.some.inj said
      cases member
  | cons entry rest inductionHypothesis =>
      rcases entry with ⟨key, inner⟩
      unfold membersToJson? at said
      split at said
      · next k v others named own later =>
        obtain rfl := Option.some.inj said
        rcases List.mem_cons.mp member with rfl | inside
        · exact ⟨_, List.mem_cons_self, own⟩
        · rcases inductionHypothesis later inside with ⟨other, found, read⟩
          exact ⟨other, List.mem_cons_of_mem _ found, read⟩
      · cases said

/-- The value of a source that is within its room can be said by a text. -/
theorem Within.readable {room : Nat} {source : Source} (within : source.Within room) {v : Json}
    (said : source.toJson? = some v) : v.Readable room := by
  induction within generalizing v with
  | @value room w readable =>
      obtain rfl := Option.some.inj said
      exact readable room
  | valueless => cases said
  | broken => cases said
  | @array room items each complete inductionHypothesis =>
      rw [toJson?] at said
      split at said
      · rcases Option.map_eq_some_iff.mp said with ⟨vs, found, rfl⟩
        refine .array fun v member => ?_
        rcases itemsToJson?_mem found member with ⟨item, inside, read⟩
        exact inductionHypothesis item inside read
      · cases said
  | @object room members each complete inductionHypothesis =>
      rw [toJson?] at said
      split at said
      · rcases Option.map_eq_some_iff.mp said with ⟨ms, found, rfl⟩
        refine .object (Dictionary.ofList ms).ascending fun m member => ?_
        have listed := Dictionary.mem_of_mem_ofList member
        rcases membersToJson?_mem found listed with ⟨entry, inside, read⟩
        exact inductionHypothesis entry inside read
      · cases said

end Source

namespace Json

mutual

/-- The doubles in a value. -/
def doubles : Json → List Double
  | .number (.double d) => [d]
  | .array items => itemDoubles items
  | .object members => memberDoubles members
  | .null | .bool _ | .number (.integer _) | .string _ => []

/-- The doubles in the items of an array. -/
def itemDoubles : List Json → List Double
  | [] => []
  | item :: rest => doubles item ++ itemDoubles rest

/-- The doubles in the members of an object. -/
def memberDoubles : List (String × Json) → List Double
  | [] => []
  | (_, value) :: rest => doubles value ++ memberDoubles rest

end

theorem mem_itemDoubles {items : List Json} {item : Json} (inside : item ∈ items) {d : Double}
    (member : d ∈ item.doubles) : d ∈ itemDoubles items := by
  induction items with
  | nil => cases inside
  | cons head rest inductionHypothesis =>
      rw [itemDoubles]
      rcases List.mem_cons.mp inside with rfl | later
      · exact List.mem_append_left _ member
      · exact List.mem_append_right _ (inductionHypothesis later)

theorem mem_memberDoubles {members : List (String × Json)} {m : String × Json}
    (inside : m ∈ members) {d : Double} (member : d ∈ m.2.doubles) :
    d ∈ memberDoubles members := by
  induction members with
  | nil => cases inside
  | cons head rest inductionHypothesis =>
      rw [memberDoubles]
      rcases List.mem_cons.mp inside with rfl | later
      · exact List.mem_append_left _ member
      · exact List.mem_append_right _ (inductionHypothesis later)

variable {room : Nat} {v : Json}

/-- The text of a value that a text can say is legible as soon as its doubles are. -/
theorem Readable.legible (readable : v.Readable room)
    (back : ∀ d ∈ v.doubles, (Number.double d).readsBack = true) : Legible room v := by
  induction readable with
  | null => exact .null
  | bool b => exact .bool b
  | integer low high => exact .number (Number.readsBack_integer low high)
  | double d => exact .number (back d (List.mem_singleton_self d))
  | string s => exact .string s
  | array each inductionHypothesis =>
      exact .array fun item inside =>
        inductionHypothesis item inside fun d member => back d (mem_itemDoubles inside member)
  | object ascending each inductionHypothesis =>
      exact .object fun m inside =>
        inductionHypothesis m inside fun d member => back d (mem_memberDoubles inside member)

theorem itemsToJson?_map_toSource {items : List Json}
    (each : ∀ item ∈ items, item.toSource.toJson? = some item) :
    Source.itemsToJson? (items.map toSource) = some items := by
  induction items with
  | nil => rfl
  | cons item rest inductionHypothesis =>
      have others := inductionHypothesis fun v member => each v (List.mem_cons_of_mem _ member)
      rw [List.map_cons, Source.itemsToJson?, each item List.mem_cons_self, others]

theorem membersToJson?_map_toSource {members : List (String × Json)}
    (each : ∀ m ∈ members, m.2.toSource.toJson? = some m.2) :
    Source.membersToJson? (members.map fun m => (some m.1, m.2.toSource)) = some members := by
  induction members with
  | nil => rfl
  | cons m rest inductionHypothesis =>
      have others := inductionHypothesis fun v member => each v (List.mem_cons_of_mem _ member)
      have first := each m List.mem_cons_self
      simp only [List.map_cons, Source.membersToJson?, first, others]

/-- What a reader makes of a value that a text can say, says the value. -/
theorem Readable.toJson?_toSource (readable : v.Readable room) : v.toSource.toJson? = some v := by
  induction readable with
  | null | bool b | integer low high | double d | string s => rfl
  | array each inductionHypothesis =>
      rw [toSource_array, Source.toJson?, if_pos rfl,
        itemsToJson?_map_toSource inductionHypothesis]
      rfl
  | @object room members ascending each inductionHypothesis =>
      have sorted : Dictionary.ofList members = ⟨members, ascending⟩ :=
        Dictionary.ofList_entries ⟨members, ascending⟩
      rw [toSource_object, Source.toJson?, if_pos rfl,
        membersToJson?_map_toSource inductionHypothesis, Option.map_some, sorted]
      rfl

end Json

end Workflow
