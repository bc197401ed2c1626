import Workflow.Http.Url
import Workflow.Proofs.Http.Escaping

namespace Workflow.Http

/-!
# Paths made of segments

A path is read segment by segment, and some segments do not stand for themselves: `.` and `..` move
along the path, and a slash, a question mark or a number sign in a segment ends it.  Segments with
nothing of this kind stay what they are wherever the path has come to before them, and can be told
from the path.
-/

/-- Segments, each after a slash. -/
def slashed (segments : List (List Char)) : List Char := segments.flatMap ('/' :: ·)

/-- The text is one segment of a path: it has no character that ends a segment or is not read, it
does not end in a blank, and it does not move along the path. -/
structure IsSegment (cs : List Char) : Prop where
  undivided : ∀ c ∈ cs, Url.isSlash c = false
  inPath : ∀ c ∈ cs, c ≠ '?' ∧ c ≠ '#'
  significant : ∀ c ∈ cs, c ≠ '\t' ∧ c ≠ '\n' ∧ c ≠ '\r'
  ends : ∀ c ∈ cs.getLast?, ' ' < c
  notHere : Url.isHere (escape standsInPath cs) = false
  notBack : Url.isBack (escape standsInPath cs) = false

/-- The test for segments. -/
def isSegment (cs : List Char) : Bool :=
  cs.all (fun c => !Url.isSlash c && !(['?', '#', '\t', '\n', '\r'].contains c)) &&
    cs.getLast?.all (fun c => 0x20 < c.toNat) && !Url.isHere (escape standsInPath cs) &&
    !Url.isBack (escape standsInPath cs)

variable {cs : List Char} {segments : List (List Char)}

theorem isSegment_iff : isSegment cs = true ↔ IsSegment cs := by
  simp only [isSegment, Bool.and_eq_true, List.all_eq_true, Option.all_eq_true, Bool.not_eq_true',
    List.contains_eq_mem, List.mem_cons, List.not_mem_nil, or_false, not_or, decide_eq_true_eq,
    decide_eq_false_iff_not]
  constructor
  · rintro ⟨⟨⟨each, ends⟩, notHere⟩, notBack⟩
    refine ⟨fun c member => (each c member).1, fun c member => ?_, fun c member => ?_, ends,
      notHere, notBack⟩
    · exact ⟨(each c member).2.1, (each c member).2.2.1⟩
    · exact (each c member).2.2.2
  · intro segment
    refine ⟨⟨⟨fun c member => ?_, segment.ends⟩, segment.notHere⟩, segment.notBack⟩
    rcases segment.inPath c member with ⟨question, fragment⟩
    exact ⟨segment.undivided c member, question, fragment, segment.significant c member⟩

instance : Decidable (IsSegment cs) := decidable_of_iff _ isSegment_iff

namespace IsSegment

theorem slash_not_mem (segment : IsSegment cs) : '/' ∉ cs := by
  intro member
  exact absurd (segment.undivided '/' member) (by decide)

end IsSegment

/-! ## Slashes between segments -/

theorem slashed_append (others : List (List Char)) :
    slashed (segments ++ others) = slashed segments ++ slashed others := List.flatMap_append

theorem slashed_cons : slashed (cs :: segments) = '/' :: (cs ++ slashed segments) := rfl

theorem cons_intercalate_eq_slashed (some : segments ≠ []) :
    '/' :: ['/'].intercalate segments = slashed segments := by
  induction segments with
  | nil => exact absurd rfl some
  | cons head rest inductionHypothesis =>
      cases rest with
      | nil => simp [slashed]
      | cons next others =>
          rw [slashed_cons, ← inductionHypothesis (List.cons_ne_nil _ _)]
          simp [List.intercalate]

/-- The first segment ends where the next one begins. -/
theorem takeWhile_append_slashed (undivided : '/' ∉ cs) (segments : List (List Char)) :
    (cs ++ slashed segments).takeWhile (· ≠ '/') = cs := by
  have rest : (slashed segments).takeWhile (· ≠ '/') = [] := by
    cases segments with
    | nil => rfl
    | cons head others => exact List.takeWhile_cons_of_neg (by decide)
  have all : ∀ c ∈ cs, decide (c ≠ '/') = true := by
    intro c member
    exact decide_eq_true fun slash => undivided (slash ▸ member)
  rw [List.takeWhile_append_of_pos all, rest, List.append_nil]

theorem slashed_injective {others : List (List Char)} (undivided : ∀ s ∈ segments, '/' ∉ s)
    (othersUndivided : ∀ s ∈ others, '/' ∉ s) (same : slashed segments = slashed others) :
    segments = others := by
  induction segments generalizing others with
  | nil =>
      cases others with
      | nil => rfl
      | cons _ _ => cases same
  | cons head rest inductionHypothesis =>
      cases others with
      | nil => cases same
      | cons other more =>
          have texts : head ++ slashed rest = other ++ slashed more := (List.cons.inj same).2
          rcases List.forall_mem_cons.mp undivided with ⟨headUndivided, restUndivided⟩
          rcases List.forall_mem_cons.mp othersUndivided with ⟨otherUndivided, moreUndivided⟩
          have heads : head = other := by
            rw [← takeWhile_append_slashed headUndivided rest, texts,
              takeWhile_append_slashed otherUndivided more]
          subst heads
          rw [inductionHypothesis restUndivided moreUndivided (List.append_cancel_left texts)]

/-! ## Pieces between slashes -/

section Pieces

variable {isSeparator : Char → Bool} {c : Char} {before after : List Char}

theorem splitAtEach_ne_nil : Text.splitAtEach isSeparator cs ≠ [] := by
  cases cs with
  | nil => exact List.cons_ne_nil _ _
  | cons c rest =>
      rw [Text.splitAtEach]
      split
      · exact List.cons_ne_nil _ _
      · split <;> exact List.cons_ne_nil _ _

theorem splitAtEach_append (separates : isSeparator c = true) :
    Text.splitAtEach isSeparator (before ++ c :: after) =
      Text.splitAtEach isSeparator before ++ Text.splitAtEach isSeparator after := by
  induction before with
  | nil => simp [Text.splitAtEach, separates]
  | cons d rest inductionHypothesis =>
      rw [List.cons_append, Text.splitAtEach, Text.splitAtEach, inductionHypothesis]
      split
      · rfl
      · cases pieces : Text.splitAtEach isSeparator rest with
        | nil => exact absurd pieces splitAtEach_ne_nil
        | cons piece others => rfl

theorem splitAtEach_of_none (none : ∀ c ∈ cs, isSeparator c = false) :
    Text.splitAtEach isSeparator cs = [cs] := by
  induction cs with
  | nil => rfl
  | cons c rest inductionHypothesis =>
      rcases List.forall_mem_cons.mp none with ⟨first, others⟩
      rw [Text.splitAtEach, inductionHypothesis others, first]
      rfl

end Pieces

theorem splitAtEach_append_slashed (first : IsSegment cs) (all : ∀ s ∈ segments, IsSegment s) :
    Text.splitAtEach Url.isSlash (cs ++ slashed segments) = cs :: segments := by
  induction segments generalizing cs with
  | nil =>
      rw [slashed, List.flatMap_nil, List.append_nil]
      exact splitAtEach_of_none first.undivided
  | cons next rest inductionHypothesis =>
      rcases List.forall_mem_cons.mp all with ⟨second, others⟩
      rw [slashed_cons, splitAtEach_append (by decide), splitAtEach_of_none first.undivided,
        inductionHypothesis second others, List.singleton_append]

/-! ## Resolving -/

namespace Url

theorem resolve_cons {segment : List Char} {rest reached : List (List Char)} (more : rest ≠ []) :
    resolve reached (segment :: rest) =
      if isBack segment then resolve (back reached) rest
      else if isHere segment then resolve reached rest
      else resolve (segment :: reached) rest := by
  cases rest with
  | nil => exact absurd rfl more
  | cons _ _ => rfl

/-- Segments that do not move along the path are put after what was reached. -/
theorem resolve_of_stay {reached : List (List Char)}
    (stay : ∀ s ∈ segments, isHere s = false ∧ isBack s = false) :
    resolve reached segments = segments.reverse ++ reached := by
  induction segments generalizing reached with
  | nil => rfl
  | cons head rest inductionHypothesis =>
      rcases List.forall_mem_cons.mp stay with ⟨⟨here, back⟩, others⟩
      cases rest with
      | nil => simp [resolve, here, back]
      | cons next more =>
          rw [resolve_cons (List.cons_ne_nil _ _), back, here, if_neg Bool.false_ne_true,
            if_neg Bool.false_ne_true, inductionHypothesis others,
            @List.reverse_cons _ head (next :: more), List.append_assoc, List.singleton_append]

/-- What is reached before them does not depend on them. -/
theorem exists_resolve_append (reached before : List (List Char)) :
    ∃ so, ∀ segments ≠ [], (∀ s ∈ segments, isHere s = false ∧ isBack s = false) →
      resolve reached (before ++ segments) = segments.reverse ++ so := by
  induction before generalizing reached with
  | nil => exact ⟨reached, fun segments _ stay => resolve_of_stay stay⟩
  | cons head rest inductionHypothesis =>
      have step (segments : List (List Char)) (some : segments ≠ []) :
          rest ++ segments ≠ [] := List.append_ne_nil_of_right_ne_nil _ some
      by_cases back : isBack head = true
      · rcases inductionHypothesis (Url.back reached) with ⟨so, resolved⟩
        refine ⟨so, fun segments some stay => ?_⟩
        rw [List.cons_append, resolve_cons (step segments some), if_pos back]
        exact resolved segments some stay
      · by_cases here : isHere head = true
        · rcases inductionHypothesis reached with ⟨so, resolved⟩
          refine ⟨so, fun segments some stay => ?_⟩
          rw [List.cons_append, resolve_cons (step segments some), if_neg back, if_pos here]
          exact resolved segments some stay
        · rcases inductionHypothesis (head :: reached) with ⟨so, resolved⟩
          refine ⟨so, fun segments some stay => ?_⟩
          rw [List.cons_append, resolve_cons (step segments some), if_neg back, if_neg here]
          exact resolved segments some stay

/-- The pieces of what stands before some segments. -/
def leading : List Char → List (List Char)
  | [] => []
  | c :: rest => Text.splitAtEach isSlash (if isSlash c then rest else c :: rest)

theorem pieces_append_slashed (front : List Char) (some : segments ≠ [])
    (all : ∀ s ∈ segments, IsSegment s) :
    let text := front ++ slashed segments
    Text.splitAtEach isSlash (if text.head?.any isSlash then text.drop 1 else text) =
      leading front ++ segments := by
  intro text
  cases segments with
  | nil => exact absurd rfl some
  | cons head rest =>
      rcases List.forall_mem_cons.mp all with ⟨first, others⟩
      have own := splitAtEach_append_slashed first others
      cases front with
      | nil => exact own
      | cons c more =>
          change Text.splitAtEach isSlash (if isSlash c then more ++ slashed (head :: rest)
            else c :: more ++ slashed (head :: rest)) = _
          rw [leading]
          split
          · rw [slashed_cons, splitAtEach_append (by decide), own]
          · rw [slashed_cons, splitAtEach_append (by decide), own]

/-- A path ends in its last segments as they are written, after what the text before them comes
to. -/
theorem exists_resolvedPath (front : List Char) :
    ∃ so, ∀ segments ≠ [], (∀ s ∈ segments, IsSegment s) →
      resolvedPath (front ++ slashed segments) =
        so ++ slashed (segments.map (escape standsInPath)) := by
  rcases exists_resolve_append [] ((leading front).map (escape standsInPath)) with ⟨so, resolved⟩
  refine ⟨slashed so.reverse, fun segments some all => ?_⟩
  have written : segments.map (escape standsInPath) ≠ [] := by simpa using some
  have stay : ∀ s ∈ segments.map (escape standsInPath), isHere s = false ∧ isBack s = false := by
    intro s member
    rcases List.mem_map.mp member with ⟨plain, inside, rfl⟩
    exact ⟨(all plain inside).notHere, (all plain inside).notBack⟩
  rw [resolvedPath, pieces_append_slashed front some all, List.map_append,
    resolved _ written stay, List.reverse_append, List.reverse_reverse,
    cons_intercalate_eq_slashed (List.append_ne_nil_of_right_ne_nil _ written), slashed_append]

end Url

end Workflow.Http
