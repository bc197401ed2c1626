import Mathlib.Data.List.TakeWhile
import Workflow.Proofs.Http.Segments

namespace Workflow.Http.Url

/-!
# Reading an address that ends in segments

The end of an address is read on its own.  Whatever text a path is put after, the scheme, the server
and the front of the path are those of that text, or the text has no server and the first segment is
taken for one; and the rest of the segments are the end of the target, in the query if the text
began one.  Only a number sign in the text makes them go.
-/

section Stops

variable {test : Char → Bool} {stop : Char} {before after cs : List Char}

theorem drop_takeWhile (test : Char → Bool) (cs : List Char) :
    cs.drop (cs.takeWhile test).length = cs.dropWhile test := by
  induction cs with
  | nil => rfl
  | cons c rest inductionHypothesis =>
      by_cases passes : test c = true
      · rw [List.takeWhile_cons_of_pos passes, List.dropWhile_cons_of_pos passes,
          List.length_cons, List.drop_succ_cons, inductionHypothesis]
      · rw [List.takeWhile_cons_of_neg passes, List.dropWhile_cons_of_neg passes]
        rfl

theorem takeWhile_append_cons (stops : test stop = false) :
    (before ++ stop :: after).takeWhile test = before.takeWhile test := by
  induction before with
  | nil => exact List.takeWhile_cons_of_neg (Bool.eq_false_iff.mp stops)
  | cons c rest inductionHypothesis =>
      rw [List.cons_append, List.takeWhile_cons, List.takeWhile_cons, inductionHypothesis]

theorem dropWhile_append_cons (stops : test stop = false) :
    (before ++ stop :: after).dropWhile test = before.dropWhile test ++ stop :: after := by
  induction before with
  | nil => exact List.dropWhile_cons_of_neg (Bool.eq_false_iff.mp stops)
  | cons c rest inductionHypothesis =>
      rw [List.cons_append, List.dropWhile_cons, List.dropWhile_cons, inductionHypothesis]
      split <;> rfl

end Stops

variable {segments : List (List Char)}

/-! ## The text without what is ignored -/

/-- The characters that are ignored at both ends. -/
def isOuter (c : Char) : Bool := c ≤ ' '

/-- The characters that are not ignored everywhere. -/
def isKept (c : Char) : Bool := c ≠ '\t' ∧ c ≠ '\n' ∧ c ≠ '\r'

/-- What counts of the text before a path. -/
def front (base : String) : List Char := (base.toList.dropWhile isOuter).filter isKept

theorem front_subset (base : String) : front base ⊆ base.toList := by
  intro c member
  exact (List.dropWhile_sublist _).subset (List.mem_filter.mp member).1

theorem isKept_slashed (all : ∀ s ∈ segments, IsSegment s) :
    ∀ c ∈ slashed segments, isKept c = true := by
  intro c member
  rcases List.mem_flatMap.mp member with ⟨s, inside, part⟩
  rcases List.mem_cons.mp part with rfl | own
  · rfl
  · exact decide_eq_true ((all s inside).significant c own)

theorem exists_slashed_eq_append (some : segments ≠ []) (all : ∀ s ∈ segments, IsSegment s) :
    ∃ before last, slashed segments = before ++ [last] ∧ isOuter last = false := by
  rcases List.eq_nil_or_concat segments with none | ⟨others, final, rfl⟩
  · exact absurd none some
  · rw [List.concat_eq_append, slashed_append, slashed_cons]
    rcases List.eq_nil_or_concat final with rfl | ⟨front, last, rfl⟩
    · exact ⟨slashed others, '/', rfl, by decide⟩
    · have ends := (all (front.concat last) (by simp)).ends last (by simp)
      refine ⟨slashed others ++ '/' :: front, last, by simp [slashed], ?_⟩
      exact decide_eq_false (Char.not_le.mpr ends)

/-- What is ignored is in the text before the segments. -/
theorem significant_append (base : String) {text : String} (same : text.toList = slashed segments)
    (some : segments ≠ []) (all : ∀ s ∈ segments, IsSegment s) :
    significant (base ++ text) = front base ++ slashed segments := by
  have first : ∃ rest, slashed segments = '/' :: rest := by
    cases segments with
    | nil => exact absurd rfl some
    | cons head rest => exact ⟨_, slashed_cons⟩
  rcases first with ⟨rest, starts⟩
  have outer : (base ++ text).toList.dropWhile isOuter =
      base.toList.dropWhile isOuter ++ slashed segments := by
    rw [String.toList_append, same, starts]
    exact dropWhile_append_cons (by decide)
  have back : ((base.toList.dropWhile isOuter ++ slashed segments).reverse.dropWhile
      isOuter).reverse = base.toList.dropWhile isOuter ++ slashed segments := by
    rcases exists_slashed_eq_append some all with ⟨before, last, split, solid⟩
    rw [split, ← List.append_assoc, List.reverse_append, List.reverse_singleton,
      List.singleton_append, List.dropWhile_cons_of_neg (Bool.eq_false_iff.mp solid),
      List.reverse_cons, List.reverse_reverse]
  have kept : (slashed segments).filter isKept = slashed segments :=
    List.filter_eq_self.mpr (isKept_slashed all)
  change (((base ++ text).toList.dropWhile isOuter).reverse.dropWhile isOuter).reverse.filter
    isKept = _
  rw [outer, back, List.filter_append, kept, front]

/-! ## The scheme and the server -/

/-- A scheme is over before the path. -/
theorem scheme?_append {before after : List Char} :
    scheme? (before ++ '/' :: after) =
      (scheme? before).map fun (name, rest) => (name, rest ++ '/' :: after) := by
  unfold scheme?
  dsimp only
  rw [drop_takeWhile, drop_takeWhile, takeWhile_append_cons (by decide),
    dropWhile_append_cons (by decide)]
  generalize before.takeWhile _ = name
  generalize before.dropWhile _ = rest
  rcases rest with _ | ⟨c, others⟩
  · cases name.head? <;> rfl
  · by_cases colon : c = ':'
    · subst colon
      cases name.head? with
      | none => rfl
      | some first => simp
    · cases name.head? <;> simp [colon]

theorem subset_of_scheme? {cs rest : List Char} {name : String}
    (known : scheme? cs = some (name, rest)) : rest ⊆ cs := by
  unfold scheme? at known
  dsimp only at known
  split at known
  · next first after starts colon =>
    split at known
    · obtain rfl := (Prod.mk.inj (Option.some.inj known)).2
      intro c member
      have later : c ∈ ':' :: after := List.mem_cons_of_mem _ member
      rw [← colon] at later
      exact List.mem_of_mem_drop later
    · cases known
  · cases known

/-- The characters of a server, and of who asks it. -/
def inAuthority (c : Char) : Bool := !isSlash c && c ≠ '?' && c ≠ '#'

/-- The server, without who asks it. -/
def server (authority : List Char) : List Char :=
  ((splitAtLast? (· == '@') authority).getD ([], authority)).2

/-- The characters of a path. -/
def inPath (c : Char) : Bool := c ≠ '?' && c ≠ '#'

/-- The target that a text stands for. -/
def targetText (text : List Char) : List Char :=
  let path := text.takeWhile inPath
  let query :=
    match text.drop path.length with
    | '?' :: query => some (escape standsInQuery (query.takeWhile (· ≠ '#')))
    | _ => none
  resolvedPath path ++ (query.map ('?' :: ·)).getD []

/-- What an address is read from, after its scheme. -/
theorem of_parse?_eq_some {text : String} {url : Url} (read : parse? text = some url) :
    ∃ rest, scheme? (significant text) = some ("http", rest) ∧
      hostAndService? (server ((rest.dropWhile isSlash).takeWhile inAuthority)) =
        some (url.host, url.service) ∧
      url.target.toList = targetText ((rest.dropWhile isSlash).dropWhile inAuthority) := by
  unfold parse? at read
  simp only [Option.bind_eq_bind, Option.bind_eq_some_iff] at read
  rcases read with ⟨⟨name, rest⟩, found, read⟩
  dsimp only at read
  split at read
  · cases read
  · next http =>
    rcases Option.bind_eq_some_iff.mp read with ⟨⟨host, service⟩, located, made⟩
    obtain rfl := Option.some.inj made
    obtain rfl : name = "http" := Decidable.not_not.mp http
    refine ⟨rest, found, located, ?_⟩
    rw [← drop_takeWhile inAuthority]
    exact String.toList_ofList

/-! ## The target -/

theorem targetText_of_path {path : List Char} (all : ∀ c ∈ path, inPath c = true) :
    targetText path = resolvedPath path := by
  have whole : path.takeWhile inPath = path := List.takeWhile_eq_self_iff.mpr all
  rw [targetText, whole, List.drop_length]
  exact List.append_nil _

theorem targetText_of_query {path query : List Char} (all : ∀ c ∈ path, inPath c = true)
    (noFragment : '#' ∉ query) :
    targetText (path ++ '?' :: query) = resolvedPath path ++ '?' :: escape standsInQuery query := by
  have whole : (path ++ '?' :: query).takeWhile inPath = path := by
    rw [takeWhile_append_cons (by decide), List.takeWhile_eq_self_iff.mpr all]
  have asked : query.takeWhile (· ≠ '#') = query := by
    refine List.takeWhile_eq_self_iff.mpr ?_
    intro c member
    exact decide_eq_true fun fragment => noFragment (fragment ▸ member)
  rw [targetText, whole, List.drop_left]
  change resolvedPath path ++ '?' :: escape standsInQuery (query.takeWhile (· ≠ '#')) = _
  rw [asked]

theorem inPath_slashed (all : ∀ s ∈ segments, IsSegment s) :
    ∀ c ∈ slashed segments, inPath c = true := by
  intro c member
  rcases List.mem_flatMap.mp member with ⟨s, inside, part⟩
  rcases List.mem_cons.mp part with rfl | own
  · decide
  · rcases (all s inside).inPath c own with ⟨question, fragment⟩
    exact Bool.and_eq_true_iff.mpr ⟨decide_eq_true question, decide_eq_true fragment⟩

theorem escape_slashed {mayStand : Char → Bool} (keeps : KeepsEscapes mayStand) :
    escape mayStand (slashed segments) = slashed (segments.map (escape mayStand)) := by
  induction segments with
  | nil => rfl
  | cons head rest inductionHypothesis =>
      rw [List.map_cons, slashed_cons, slashed_cons, escape_cons_of_stands keeps.slash,
        escape_append, inductionHypothesis]

/-- Whatever text they are put after, if it has no number sign, segments are the end of the target
as they are written in the part of it that they come to stand in. -/
theorem exists_targetText {front : List Char} (noFragment : '#' ∉ front) :
    ∃ so mayStand, KeepsEscapes mayStand ∧ ∀ segments ≠ [], (∀ s ∈ segments, IsSegment s) →
      targetText (front ++ slashed segments) = so ++ slashed (segments.map (escape mayStand)) := by
  by_cases asks : '?' ∈ front
  · rcases List.eq_append_cons_of_mem asks with ⟨path, query, rfl, first⟩
    rw [List.mem_append, List.mem_cons, not_or, not_or] at noFragment
    refine ⟨resolvedPath path ++ '?' :: escape standsInQuery query, standsInQuery,
      keepsEscapes_standsInQuery, fun segments _ all => ?_⟩
    have passes : ∀ c ∈ path, inPath c = true := by
      intro c member
      have question : c ≠ '?' := fun same => first (same ▸ member)
      have fragment : c ≠ '#' := fun same => noFragment.1 (same ▸ member)
      exact Bool.and_eq_true_iff.mpr ⟨decide_eq_true question, decide_eq_true fragment⟩
    have still : '#' ∉ query ++ slashed segments := by
      intro member
      rcases List.mem_append.mp member with old | new
      · exact noFragment.2.2 old
      · exact absurd (inPath_slashed all '#' new) (by decide)
    rw [List.append_assoc, List.cons_append, targetText_of_query passes still, escape_append,
      escape_slashed keepsEscapes_standsInQuery, List.append_assoc, List.cons_append]
  · rcases exists_resolvedPath front with ⟨so, resolved⟩
    refine ⟨so, standsInPath, keepsEscapes_standsInPath, fun segments some all => ?_⟩
    have passes : ∀ c ∈ front ++ slashed segments, inPath c = true := by
      intro c member
      rcases List.mem_append.mp member with old | new
      · have question : c ≠ '?' := fun same => asks (same ▸ old)
        have fragment : c ≠ '#' := fun same => noFragment (same ▸ old)
        exact Bool.and_eq_true_iff.mpr ⟨decide_eq_true question, decide_eq_true fragment⟩
      · exact inPath_slashed all c new
    rw [targetText_of_path passes, resolved segments some all]

/-! ## Segments after a base address -/

/-- A server that is not in brackets is named up to the colon. -/
theorem host_of_hostAndService? {cs host : List Char} {service : Nat}
    (unbracketed : cs.head? ≠ some '[')
    (located : hostAndService? cs = some (host, service)) : host = cs.takeWhile (· ≠ ':') := by
  unfold hostAndService? at located
  dsimp only at located
  split at located
  · next tail => exact absurd rfl unbracketed
  · split at located
    · cases located
    · split at located
      · exact (Prod.mk.inj (Option.some.inj located)).1.symm
      · split at located
        · exact (Prod.mk.inj (Option.some.inj located)).1.symm
        · split at located
          · rcases Option.bind_eq_some_iff.mp located with ⟨number, _, bounded⟩
            split at bounded
            · exact (Prod.mk.inj (Option.some.inj bounded)).1.symm
            · cases bounded
          · cases located

/-- A segment that would name a server. -/
structure NamesServer (name : List Char) : Prop where
  segment : IsSegment name
  nonempty : name ≠ []
  whole : (server name).takeWhile (· ≠ ':') = name
  unbracketed : (server name).head? ≠ some '['

/-- A text is a path of segments, the first of which would name a server. -/
structure Routes (text : String) (name : List Char) (rest : List (List Char)) : Prop where
  path : text.toList = slashed (name :: rest)
  named : NamesServer name
  nonempty : rest ≠ []
  all : ∀ s ∈ rest, IsSegment s

namespace Routes

variable {text : String} {name : List Char} {rest : List (List Char)}

theorem all_segments (routes : Routes text name rest) : ∀ s ∈ name :: rest, IsSegment s :=
  List.forall_mem_cons.mpr ⟨routes.named.segment, routes.all⟩

/-- The first segment ends the authority, if one begins with it. -/
theorem inAuthority_name (routes : Routes text name rest) : ∀ c ∈ name, inAuthority c = true := by
  intro c member
  have segment := routes.named.segment
  rcases segment.inPath c member with ⟨question, fragment⟩
  simp [inAuthority, segment.undivided c member, question, fragment]

/-- What follows the scheme, from the server on. -/
def address (start name : List Char) (rest : List (List Char)) : List Char :=
  (start ++ '/' :: (name ++ slashed rest)).dropWhile isSlash

/-- The server and the target are read from what follows the scheme. -/
theorem of_scheme?_eq_some (routes : Routes text name rest) {base scheme : String}
    {start : List Char} (known : scheme? (front base) = some (scheme, start)) {url : Url}
    (read : parse? (base ++ text) = some url) :
    hostAndService? (server ((address start name rest).takeWhile inAuthority)) =
        some (url.host, url.service) ∧
      url.target.toList = targetText ((address start name rest).dropWhile inAuthority) := by
  rcases of_parse?_eq_some read with ⟨after, found, located, target⟩
  rw [significant_append base routes.path (List.cons_ne_nil _ _) routes.all_segments, slashed_cons,
    scheme?_append, known] at found
  obtain rfl := (Prod.mk.inj (Option.some.inj found)).2
  exact ⟨located, target⟩

/-- Without a server before it, the path loses its slash, and the first segment is the server. -/
theorem address_of_bare (routes : Routes text name rest) {start : List Char}
    (bare : start.dropWhile isSlash = []) :
    (address start name rest).takeWhile inAuthority = name ∧
      (address start name rest).dropWhile inAuthority = slashed rest := by
  have named := routes.named
  have addressed : address start name rest = name ++ slashed rest := by
    rw [address, List.dropWhile_append, bare, if_pos List.isEmpty_nil,
      List.dropWhile_cons_of_pos (by decide)]
    cases texts : name with
    | nil => exact absurd texts named.nonempty
    | cons c others =>
        have first : isSlash c = false := named.segment.undivided c (texts ▸ List.mem_cons_self)
        exact List.dropWhile_cons_of_neg (Bool.eq_false_iff.mp first)
  have more : ∃ others, slashed rest = '/' :: others := by
    cases rest with
    | nil => exact absurd rfl routes.nonempty
    | cons head others => exact ⟨_, slashed_cons⟩
  rcases more with ⟨others, path⟩
  rw [addressed, path, takeWhile_append_cons (by decide), dropWhile_append_cons (by decide),
    List.takeWhile_eq_self_iff.mpr routes.inAuthority_name,
    List.dropWhile_eq_nil_iff.mpr routes.inAuthority_name, List.nil_append]
  exact ⟨rfl, rfl⟩

/-- With a server before it, the path is as it is. -/
theorem address_of_server {start : List Char} (some : start.dropWhile isSlash ≠ []) :
    (address start name rest).dropWhile inAuthority =
      (start.dropWhile isSlash).dropWhile inAuthority ++ slashed (name :: rest) := by
  have more : (start.dropWhile isSlash).isEmpty = false := List.isEmpty_eq_false_iff.mpr some
  rw [address, List.dropWhile_append, more, if_neg Bool.false_ne_true,
    dropWhile_append_cons (by decide), slashed_cons]

end Routes

/-- The text before a path has a server, and then the path is the end of the target; or it has none,
and the first segment names it. -/
theorem exists_ending {base : String} (noFragment : '#' ∉ base.toList) :
    (∃ so mayStand, KeepsEscapes mayStand ∧ ∀ text name rest, Routes text name rest →
      ∀ url, parse? (base ++ text) = some url →
        url.target.toList = so ++ slashed ((name :: rest).map (escape mayStand))) ∨
    (∃ so mayStand, KeepsEscapes mayStand ∧ ∀ text name rest, Routes text name rest →
      ∀ url, parse? (base ++ text) = some url →
        url.host = name ∧ url.target.toList = so ++ slashed (rest.map (escape mayStand))) := by
  cases known : scheme? (front base) with
  | none =>
      -- A slash cannot be part of a scheme, so none is found further on.
      refine .inl ⟨[], standsInPath, keepsEscapes_standsInPath,
        fun text name rest routes url read => ?_⟩
      rcases of_parse?_eq_some read with ⟨after, found, _⟩
      rw [significant_append base routes.path (List.cons_ne_nil _ _) routes.all_segments,
        slashed_cons, scheme?_append, known] at found
      cases found
  | some reading =>
      rcases reading with ⟨scheme, start⟩
      by_cases bare : start.dropWhile isSlash = []
      · have nothing : '#' ∉ ([] : List Char) := List.not_mem_nil
        rcases exists_targetText nothing with ⟨so, mayStand, keeps, ends⟩
        refine .inr ⟨so, mayStand, keeps, fun text name rest routes url read => ?_⟩
        rcases routes.of_scheme?_eq_some known read with ⟨located, target⟩
        rcases routes.address_of_bare bare with ⟨authority, remaining⟩
        rw [authority] at located
        rw [remaining] at target
        refine ⟨?_, target.trans (ends rest routes.nonempty routes.all)⟩
        rw [host_of_hostAndService? routes.named.unbracketed located, routes.named.whole]
      · have still : '#' ∉ (start.dropWhile isSlash).dropWhile inAuthority := by
          intro member
          have early : '#' ∈ start :=
            (List.dropWhile_sublist _).subset ((List.dropWhile_sublist _).subset member)
          exact noFragment (front_subset base (subset_of_scheme? known early))
        rcases exists_targetText still with ⟨so, mayStand, keeps, ends⟩
        refine .inl ⟨so, mayStand, keeps, fun text name rest routes url read => ?_⟩
        rw [(routes.of_scheme?_eq_some known read).2, Routes.address_of_server bare]
        exact ends _ (List.cons_ne_nil _ _) routes.all_segments

end Workflow.Http.Url
