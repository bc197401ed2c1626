import Mathlib.Data.List.FinRange
import Workflow.Proofs.Definition.Compile
import Workflow.Proofs.Dictionary
import Workflow.Proofs.Json.Agreement

namespace Workflow

/-!
# The conditions of a definition

Compiling merges the objects of all conditions into one.  A key of the merged object has the value
that the last condition with the key gives it.  On the way a key can get one value after another,
and each change of a value is logged, with the node that made it.

Both are said here of the nodes by their positions, without the merging.  What stands in the merged
object before a position is what the nearest earlier condition with the key says, and so it is this
one with which a later condition is compared.
-/

/-- The object of a condition; a condition without one, and any other node, has an empty one. -/
def Node.condition (n : Node) : Object :=
  match n.data with
  | .condition d => d.condition.getD .empty
  | .trigger _ | .action _ => .empty

section Folds

variable {α β σ : Type} {step : σ → α → σ} {log : σ → List β} {entry : σ → α → List β}

/-- What a fold logs is what its steps log, each at the state that it finds. -/
theorem log_foldl (each : ∀ state a, log (step state a) = log state ++ entry state a)
    (items : List α) (state : σ) :
    log (items.foldl step state) =
      log state ++ (List.finRange items.length).flatMap fun i : Fin items.length =>
        entry ((items.take i).foldl step state) (items.get i) := by
  induction items generalizing state with
  | nil => simp
  | cons a rest inductionHypothesis =>
      have first : log ((a :: rest).foldl step state) =
          log state ++ (entry state a ++
            (List.finRange rest.length).flatMap fun i : Fin rest.length =>
              entry ((rest.take i).foldl step (step state a)) (rest.get i)) := by
        rw [List.foldl_cons, inductionHypothesis, each, List.append_assoc]
      have positions : List.finRange (a :: rest).length =
          0 :: (List.finRange rest.length).map Fin.succ := List.finRange_succ
      rw [first, positions, List.flatMap_cons, List.flatMap_map]
      rfl

end Folds

namespace Graph

/-! ## Merging one condition -/

/-- The merged object has another value for the key of an entry. -/
def changes (merged : Object) (entry : String × Json) : Bool :=
  match merged.get? entry.1 with
  | some previous => !previous.agrees entry.2
  | none => false

theorem changes_iff {merged : Object} {entry : String × Json} :
    changes merged entry = true ↔
      ∃ previous, merged.get? entry.1 = some previous ∧
        previous.unsignZeros ≠ entry.2.unsignZeros := by
  unfold changes
  cases merged.get? entry.1 with
  | none => simp
  | some previous => simp [← Json.agrees_iff]

theorem changes_insert_of_ne {merged : Object} {key : String} {value : Json} {entry : String × Json}
    (different : entry.1 ≠ key) :
    changes (merged.insert key value) entry = changes merged entry := by
  unfold changes
  rw [Dictionary.get?_insert, if_neg different]

/-- What taking over some entries of a node logs, if no key comes twice. -/
theorem overwritten_foldl_mergeEntry (node : String) {entries : List (String × Json)}
    (ascending : entries.Pairwise fun a b => a.1 < b.1) (m : Merge) :
    (entries.foldl (mergeEntry node) m).overwritten = m.overwritten ++
      (entries.filter (changes m.merged)).map fun entry => .conditionOverwritten node entry.1 := by
  induction entries generalizing m with
  | nil => simp
  | cons head rest inductionHypothesis =>
      rcases List.pairwise_cons.mp ascending with ⟨above, restAscending⟩
      -- The keys that follow are others, so what the head puts in does not matter to them.
      have later : rest.filter (changes (mergeEntry node m head).merged) =
          rest.filter (changes m.merged) := by
        apply List.filter_congr
        intro entry member
        exact changes_insert_of_ne (String.ne_of_lt (above entry member)).symm
      have own : (mergeEntry node m head).overwritten = if changes m.merged head then
          m.overwritten ++ [.conditionOverwritten node head.1] else m.overwritten := rfl
      rw [List.foldl_cons, inductionHypothesis restAscending, later, own, List.filter_cons]
      cases changes m.merged head with
      | true => simp
      | false => simp

theorem merged_foldl_mergeEntry (node : String) (entries : List (String × Json)) (m : Merge) :
    (entries.foldl (mergeEntry node) m).merged =
      entries.foldl (fun d entry => d.insert entry.1 entry.2) m.merged :=
  (List.foldl_hom Merge.merged fun _ _ => rfl).symm

/-- Takes over the object of a node. -/
def mergeNode (m : Merge) (n : Node) : Merge := n.condition.entries.foldl (mergeEntry n.id) m

theorem get?_mergeNode (m : Merge) (n : Node) (key : String) :
    (mergeNode m n).merged.get? key = (n.condition.get? key).or (m.merged.get? key) := by
  unfold mergeNode
  rw [merged_foldl_mergeEntry, Dictionary.get?_foldl_insert n.condition.ascending]
  rfl

theorem overwritten_mergeNode (m : Merge) (n : Node) :
    (mergeNode m n).overwritten = m.overwritten ++
      (n.condition.entries.filter (changes m.merged)).map fun entry =>
        .conditionOverwritten n.id entry.1 :=
  overwritten_foldl_mergeEntry n.id n.condition.ascending m

/-! ## Merging all of them -/

variable (g : Graph)

/-- Merging the conditions is merging all nodes, the others having nothing to merge. -/
theorem mergeConditions_eq_foldl : g.mergeConditions = g.nodes.foldl mergeNode ⟨.empty, []⟩ := by
  unfold mergeConditions conditions
  rw [List.foldl_filterMap]
  congr 1
  funext m n
  unfold mergeNode Node.condition
  cases n.data with
  | trigger d => rfl
  | action d => rfl
  | condition d =>
      cases object : d.condition with
      | none => simp [mergeCondition, object, Dictionary.empty]
      | some o => simp [mergeCondition, object]

/-- What is merged before a position. -/
def mergedBefore (i : Nat) : Object := ((g.nodes.take i).foldl mergeNode ⟨.empty, []⟩).merged

/-- The nearest node before a position with the key in its condition gives it this value. -/
def GivenBefore (bound : Nat) (key : String) (value : Json) : Prop :=
  ∃ j : Fin g.nodes.length, j.val < bound ∧ (g.nodes.get j).condition.get? key = some value ∧
    ∀ k : Fin g.nodes.length, j < k → k.val < bound → (g.nodes.get k).condition.get? key = none

theorem not_givenBefore_zero (key : String) (value : Json) : ¬g.GivenBefore 0 key value := by
  rintro ⟨j, below, _⟩
  exact Nat.not_lt_zero j below

/-- One more node decides if it has the key, and otherwise leaves it to those before. -/
theorem givenBefore_succ_iff (i : Fin g.nodes.length) (key : String) (value : Json) :
    g.GivenBefore (i + 1) key value ↔
      (g.nodes.get i).condition.get? key = some value ∨
        (g.nodes.get i).condition.get? key = none ∧ g.GivenBefore i key value := by
  constructor
  · rintro ⟨j, below, given, nearest⟩
    rcases Nat.lt_succ_iff_lt_or_eq.mp below with earlier | same
    · refine .inr ⟨nearest i earlier (Nat.lt_succ_self i), j, earlier, given, ?_⟩
      exact fun k after before => nearest k after (Nat.lt_succ_of_lt before)
    · obtain rfl := Fin.ext same
      exact .inl given
  · rintro (given | ⟨absent, j, below, given, nearest⟩)
    -- Nothing stands between the node and the new bound.
    · refine ⟨i, Nat.lt_succ_self i, given, ?_⟩
      exact fun k after before => absurd before (Nat.not_lt.mpr after)
    · refine ⟨j, Nat.lt_succ_of_lt below, given, ?_⟩
      intro k after before
      rcases Nat.lt_succ_iff_lt_or_eq.mp before with earlier | same
      · exact nearest k after earlier
      · obtain rfl := Fin.ext same
        exact absent

/-- What is merged before a position is what the nearest nodes before it give. -/
theorem get?_mergedBefore_iff {i : Nat} (inside : i ≤ g.nodes.length) (key : String)
    (value : Json) : (g.mergedBefore i).get? key = some value ↔ g.GivenBefore i key value := by
  induction i with
  | zero =>
      have nothing : (g.mergedBefore 0).get? key = none := rfl
      simp [nothing, not_givenBefore_zero]
  | succ i inductionHypothesis =>
      have own : (g.mergedBefore (i + 1)).get? key =
          (g.nodes[i].condition.get? key).or ((g.mergedBefore i).get? key) := by
        unfold mergedBefore
        rw [List.take_succ_eq_append_getElem inside, List.foldl_append]
        exact get?_mergeNode _ _ key
      rw [own, Option.or_eq_some_iff, inductionHypothesis (Nat.le_of_succ_le inside)]
      exact (g.givenBefore_succ_iff ⟨i, inside⟩ key value).symm

/-- The changes of a value, by the position of the node that makes them and the key. -/
def rewrites : List (Fin g.nodes.length × String) :=
  (List.finRange g.nodes.length).flatMap fun i =>
    ((g.nodes.get i).condition.entries.filter (changes (g.mergedBefore i))).map fun entry =>
      (i, entry.1)

/-- A change is logged for each node and key where the node nearest before it that has the key gives
it another value. -/
theorem mem_rewrites_iff {i : Fin g.nodes.length} {key : String} :
    (i, key) ∈ g.rewrites ↔
      ∃ value previous, (g.nodes.get i).condition.get? key = some value ∧
        g.GivenBefore i key previous ∧ previous.unsignZeros ≠ value.unsignZeros := by
  have before (previous : Json) : (g.mergedBefore i).get? key = some previous ↔
      g.GivenBefore i key previous := g.get?_mergedBefore_iff (Nat.le_of_lt i.isLt) key previous
  have here : (i, key) ∈ g.rewrites ↔ ∃ value, (key, value) ∈ (g.nodes.get i).condition.entries ∧
      changes (g.mergedBefore i) (key, value) = true := by
    simp [rewrites]
  rw [here]
  apply exists_congr
  intro value
  rw [← Dictionary.get?_eq_some_iff, changes_iff]
  simp only [before, ← exists_and_left]

/-- The changes come in the order of the nodes, and at one node in the order of the keys. -/
theorem pairwise_rewrites : g.rewrites.Pairwise fun a b => a.1 < b.1 ∨ a.1 = b.1 ∧ a.2 < b.2 := by
  unfold rewrites
  rw [List.pairwise_flatMap]
  constructor
  · intro i _
    rw [List.pairwise_map]
    apply ((g.nodes.get i).condition.ascending.filter _).imp
    exact fun below => .inr ⟨rfl, below⟩
  · apply (List.pairwise_lt_finRange _).imp
    intro i j below first firstMember second secondMember
    rcases List.mem_map.mp firstMember with ⟨_, _, rfl⟩
    rcases List.mem_map.mp secondMember with ⟨_, _, rfl⟩
    exact .inl below

theorem overwritten_mergeConditions : g.mergeConditions.overwritten =
    g.rewrites.map fun r => .conditionOverwritten (g.nodes.get r.1).id r.2 := by
  rw [mergeConditions_eq_foldl, log_foldl overwritten_mergeNode, List.nil_append, rewrites,
    List.map_flatMap]
  apply congrArg (List.flatMap · (List.finRange g.nodes.length))
  funext i
  rw [List.map_map]
  rfl

end Graph

namespace Draft

theorem conditions_of_compile_ok {d : Draft} {definition : Definition}
    (compiled : d.compile = .ok definition) :
    definition.conditions = d.graph.mergeConditions.merged := by
  have ended := d.outcome
  rw [compiled] at ended
  cases ended with
  | compiled first typed allTyped inOrder => rfl

/-- Which events say that a condition has another value for a key than one before it. -/
theorem filter_compileEvents {d : Draft} {definition : Definition}
    (compiled : d.compile = .ok definition) :
    d.compileEvents.filter (·.message == "condition key overwritten by later node") =
      d.graph.mergeConditions.overwritten := by
  have order : d.graph.edgeOrderEvents.filter
      (·.message == "condition key overwritten by later node") = [] := by
    rw [List.filter_eq_nil_iff]
    intro event member
    unfold Graph.edgeOrderEvents at member
    dsimp only at member
    split at member
    · split at member
      · cases member
      · obtain rfl := List.mem_singleton.mp member
        simp [Event.message]
    · cases member
  have overwritten : d.graph.mergeConditions.overwritten.filter
      (·.message == "condition key overwritten by later node") =
        d.graph.mergeConditions.overwritten := by
    rw [List.filter_eq_self, Graph.overwritten_mergeConditions]
    intro event member
    rcases List.mem_map.mp member with ⟨r, _, rfl⟩
    exact beq_self_eq_true _
  have last : [Event.graphCompiled d.name definition.actions.length
      definition.conditions.size].filter
        (·.message == "condition key overwritten by later node") = [] := rfl
  unfold compileEvents
  rw [compiled]
  dsimp only
  rw [List.filter_append, List.filter_append, order, overwritten, last, List.nil_append,
    List.append_nil]

/-- A definition has a value for a key of its conditions exactly if the last condition with the key
gives it this value.  The changes of values that compiling logs are those of a node and a key where
the nearest condition before the node that has the key gives it another value, each of them once, in
the order of the nodes, and at one node in the order of the keys. -/
theorem conditions_follow_last_node {d : Draft} {definition : Definition}
    (compiled : d.compile = .ok definition) :
    (∀ key value, definition.conditions.get? key = some value ↔
      d.graph.GivenBefore d.graph.nodes.length key value) ∧
    ∃ rewrites : List (Fin d.graph.nodes.length × String),
      (∀ i key, (i, key) ∈ rewrites ↔
        ∃ value previous, (d.graph.nodes.get i).condition.get? key = some value ∧
          d.graph.GivenBefore i key previous ∧ previous.unsignZeros ≠ value.unsignZeros) ∧
      (rewrites.Pairwise fun a b => a.1 < b.1 ∨ a.1 = b.1 ∧ a.2 < b.2) ∧
      d.compileEvents.filter (·.message == "condition key overwritten by later node") =
        rewrites.map fun r => .conditionOverwritten (d.graph.nodes.get r.1).id r.2 := by
  have whole : definition.conditions = d.graph.mergedBefore d.graph.nodes.length := by
    rw [conditions_of_compile_ok compiled, Graph.mergeConditions_eq_foldl, Graph.mergedBefore,
      List.take_length]
  constructor
  · intro key value
    rw [whole]
    exact d.graph.get?_mergedBefore_iff (Nat.le_refl _) key value
  · refine ⟨d.graph.rewrites, fun i key => d.graph.mem_rewrites_iff, d.graph.pairwise_rewrites, ?_⟩
    rw [filter_compileEvents compiled, Graph.overwritten_mergeConditions]

/-- A key that goes from an integer to a double and back, beside one that keeps its value. -/
def alternating : Draft :=
  let one : Json := .ofInt 1
  let double : Json := .number (.double (Double.ofNat 1))
  let condition (id : String) (object : Option Object) : Node :=
    ⟨id, .origin, .condition ⟨"", object⟩⟩
  ⟨"Alternating", "", ⟨[⟨"t", .origin, .trigger ⟨"", some "MANUAL", .empty⟩⟩,
    condition "a" (some ⟨[("k", one), ("z", one)], by decide⟩), condition "b" none,
    condition "c" (some ⟨[("k", double), ("z", one)], by decide⟩),
    condition "d" (some ⟨[("k", one)], by decide⟩)], []⟩⟩

/-- Both changes are logged, and the last condition with a key has the last word. -/
theorem conditions_follow_last_node_alternating :
    ∃ definition, alternating.compile = .ok definition ∧
      definition.conditions.get? "k" = some (.ofInt 1) ∧
      definition.conditions.get? "z" = some (.ofInt 1) ∧
      alternating.compileEvents.filter
          (·.message == "condition key overwritten by later node") =
        [.conditionOverwritten "c" "k", .conditionOverwritten "d" "k"] := by
  have compiled : alternating.compile = .ok _ := rfl
  have law := (conditions_follow_last_node compiled).1
  refine ⟨_, compiled, ?_, ?_, by decide +kernel⟩
  · exact (law "k" (.ofInt 1)).mpr ⟨⟨4, by decide⟩, by decide, rfl, by decide⟩
  · exact (law "z" (.ofInt 1)).mpr ⟨⟨3, by decide⟩, by decide, rfl, by decide⟩

end Draft

end Workflow
