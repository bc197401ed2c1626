import Workflow.Proofs.Graph.Consistency

namespace Workflow

/-!
# Patches of a node

An edit of a node's data is a list of patches of any length, and a patch may name a field that the
node does not have.  Whether it does depends on the kind of the node alone, which no patch changes,
so the first patch that does not fit can be told before any patch is applied.  The others then do
not matter: the edit is refused as a whole.

The data of a node are compared field by field, each field written as the patch that would set it.
Of the patches that name a field only the last one counts.
-/

namespace NodePatch

/-- Which kinds of node have the field that is changed. -/
def fits : NodePatch → NodeKind → Bool
  | .label _, _ => true
  | .triggerType _, kind => kind == .trigger
  | .actionType _, kind => kind == .action
  | .config _, kind => kind != .condition
  | .condition _, kind => kind == .condition

/-- The patch as it takes effect: an empty type is no type. -/
def settled : NodePatch → NodePatch
  | .triggerType type => .triggerType (if type = some "" then none else type)
  | .actionType type => .actionType (if type = some "" then none else type)
  | other => other

/-- What a field holds after some patches: the value of the last patch that names the field, or else
the value it held. -/
def latest (patches : List NodePatch) (held : NodePatch) : NodePatch :=
  ((patches.filter (·.field == held.field)).getLast?.map settled).getD held

end NodePatch

/-- The fields of the data, each as the patch that sets it. -/
def NodeData.fields : NodeData → List NodePatch
  | .trigger d => [.label d.label, .triggerType d.triggerType, .config d.config]
  | .condition d => [.label d.label, .condition d.condition]
  | .action d => [.label d.label, .actionType d.actionType, .config d.config]

theorem chosenType_eq_if (type : Option String) :
    chosenType type = if type = some "" then none else type := by
  unfold chosenType
  cases type with
  | none => rfl
  | some text =>
      by_cases empty : text = ""
      · simp [empty]
      · simp [empty]

namespace NodePatch

variable {patch : NodePatch} {data after : NodeData}

theorem field_settled (patch : NodePatch) : patch.settled.field = patch.field := by
  cases patch <;> rfl

/-- A patch takes effect exactly on the kinds that have its field. -/
theorem isSome_patched? (patch : NodePatch) (data : NodeData) :
    (patch.patched? data).isSome = patch.fits data.kind := by
  cases patch <;> cases data <;> rfl

/-- A patch sets the field that it names and no other. -/
theorem fields_patched (patched : patch.patched? data = some after) :
    after.fields =
      data.fields.map fun held => if held.field = patch.field then patch.settled else held := by
  cases patch with
  | triggerType type | actionType type =>
      cases data <;> cases patched
      simp [NodeData.fields, field, settled, chosenType_eq_if]
  | label value | config value | condition value =>
      cases data <;> cases patched <;> simp [NodeData.fields, field, settled]

/-- With one more patch in front, a field first takes the value of that patch, if it is named. -/
theorem latest_cons (patch : NodePatch) (rest : List NodePatch) (held : NodePatch) :
    latest (patch :: rest) held =
      latest rest (if held.field = patch.field then patch.settled else held) := by
  unfold latest
  by_cases named : held.field = patch.field
  · rw [if_pos named, List.filter_cons_of_pos (by simp [named]), List.getLast?_cons, field_settled,
      named]
    cases (rest.filter (·.field == patch.field)).getLast? <;> rfl
  · rw [if_neg named, List.filter_cons_of_neg (by simpa using Ne.symm named)]

end NodePatch

namespace Graph

variable {data after : NodeData} {patches : List NodePatch}

/-- The patches are refused for the first that does not fit, and applied if there is none. -/
theorem patchData_eq_error_iff {field : String} :
    patchData data patches = .error field ↔
      ∃ patch, patches.find? (!·.fits data.kind) = some patch ∧ field = patch.field := by
  induction patches generalizing data with
  | nil => simp [patchData]
  | cons patch rest inductionHypothesis =>
      have fits := patch.isSome_patched? data
      rw [patchData]
      cases patched : patch.patched? data with
      | none =>
          rw [patched] at fits
          rw [List.find?_cons_of_pos (by simp [← fits])]
          simp [eq_comm]
      | some next =>
          rw [patched] at fits
          have alone : patchData data [patch] = .ok next := by simp [patchData, patched]
          have sameKind : next.kind = data.kind := kind_of_patchData alone
          rw [List.find?_cons_of_neg (by simp [← fits]), ← sameKind]
          exact inductionHypothesis

theorem exists_patchData_eq_ok_iff :
    (∃ after, patchData data patches = .ok after) ↔
      ∀ patch ∈ patches, patch.fits data.kind = true := by
  have refused (field : String) : patchData data patches = .error field ↔
      ∃ patch, patches.find? (!·.fits data.kind) = some patch ∧ field = patch.field :=
    patchData_eq_error_iff
  cases result : patchData data patches with
  | error field =>
      rcases (refused field).mp result with ⟨patch, first, _⟩
      constructor
      · rintro ⟨_, ⟨⟩⟩
      · intro all
        have unfit := List.find?_some first
        rw [all patch (List.mem_of_find?_eq_some first)] at unfit
        cases unfit
  | ok after =>
      refine ⟨fun _ patch member => ?_, fun _ => ⟨after, rfl⟩⟩
      cases first : patches.find? (!·.fits data.kind) with
      | none => simpa using List.find?_eq_none.mp first patch member
      | some unfit =>
          have error := (refused unfit.field).mpr ⟨unfit, first, rfl⟩
          rw [result] at error
          cases error

/-- Each field ends with the value of the last patch that names it. -/
theorem fields_patchData (applied : patchData data patches = .ok after) :
    after.fields = data.fields.map (NodePatch.latest patches) := by
  induction patches generalizing data with
  | nil =>
      obtain rfl := Except.ok.inj applied
      exact (List.map_id _).symm
  | cons patch rest inductionHypothesis =>
      rw [patchData] at applied
      cases patched : patch.patched? data with
      | none =>
          rw [patched] at applied
          cases applied
      | some next =>
          rw [patched] at applied
          rw [inductionHypothesis applied, NodePatch.fields_patched patched, List.map_map]
          apply List.map_congr_left
          intro held _
          exact (NodePatch.latest_cons patch rest held).symm

theorem patchData_append (data : NodeData) (patches more : List NodePatch) :
    patchData data (patches ++ more) = (patchData data patches).bind (patchData · more) := by
  induction patches generalizing data with
  | nil => rfl
  | cons patch rest inductionHypothesis =>
      rw [List.cons_append, patchData, patchData]
      cases patch.patched? data with
      | none => rfl
      | some next => exact inductionHypothesis next

section ModifyFirst

variable {α : Type} {test : α → Bool} {change : α → α} {items earlier later : List α} {a : α}

/-- The first element that satisfies the test is changed, and everything else stays where it is. -/
theorem modifyFirst_append_cons (missed : ∀ b ∈ earlier, test b = false) (hit : test a = true) :
    modifyFirst test change (earlier ++ a :: later) = earlier ++ change a :: later := by
  induction earlier with
  | nil => rw [List.nil_append, modifyFirst, if_pos hit, List.nil_append]
  | cons b rest inductionHypothesis =>
      rw [List.forall_mem_cons] at missed
      rw [List.cons_append, modifyFirst, if_neg (by simp [missed.1]), inductionHypothesis missed.2,
        List.cons_append]

variable (kept : ∀ a, test (change a) = test a)
include kept

theorem find?_modifyFirst :
    (modifyFirst test change items).find? test = (items.find? test).map change := by
  induction items with
  | nil => rfl
  | cons a rest inductionHypothesis =>
      cases hit : test a with
      | true => simp [modifyFirst, hit, kept]
      | false => simp [modifyFirst, hit, inductionHypothesis]

theorem modifyFirst_modifyFirst (again : α → α) :
    modifyFirst test again (modifyFirst test change items) =
      modifyFirst test (fun a => again (change a)) items := by
  induction items with
  | nil => rfl
  | cons a rest inductionHypothesis =>
      cases hit : test a with
      | true => simp [modifyFirst, hit, kept]
      | false => simp [modifyFirst, hit, inductionHypothesis]

end ModifyFirst

variable {g : Graph} {id : String}

theorem updateNode_eq_of_patchData_ok {n : Node} (found : g.node? id = some n)
    (applied : patchData n.data patches = .ok data) :
    g.updateNode id patches =
      .ok { g with nodes := modifyFirst (·.id == id) ({ · with data := data }) g.nodes } := by
  simp only [updateNode, found, applied]

theorem updateNode_eq_of_patchData_error {n : Node} {field : String} (found : g.node? id = some n)
    (refused : patchData n.data patches = .error field) :
    g.updateNode id patches = .error (.patchMismatch id n.kind field) := by
  simp only [updateNode, found, refused]

theorem updateNode_eq_of_absent (absent : g.node? id = none) (patches : List NodePatch) :
    g.updateNode id patches = .error (.nodeNotFound id) := by
  simp only [updateNode, absent]

theorem exists_updateNode_eq_ok_iff :
    (∃ updated, g.updateNode id patches = .ok updated) ↔
      ∃ n, g.node? id = some n ∧ ∀ patch ∈ patches, patch.fits n.kind = true := by
  cases found : g.node? id with
  | none =>
      rw [updateNode_eq_of_absent found]
      exact ⟨nofun, nofun⟩
  | some n =>
      have fits : (∃ after, patchData n.data patches = .ok after) ↔
          ∀ patch ∈ patches, patch.fits n.data.kind = true := exists_patchData_eq_ok_iff
      cases result : patchData n.data patches with
      | error field =>
          rw [updateNode_eq_of_patchData_error found result]
          rw [result] at fits
          constructor
          · rintro ⟨_, ⟨⟩⟩
          · rintro ⟨_, ⟨⟩, all⟩
            exact absurd (fits.mpr all) nofun
      | ok data =>
          rw [updateNode_eq_of_patchData_ok found result]
          rw [result] at fits
          exact ⟨fun _ => ⟨n, rfl, fits.mp ⟨data, rfl⟩⟩, fun _ => ⟨_, rfl⟩⟩

/-- A refusal names the missing node, or the kind of the node and the first field that does not
fit. -/
theorem of_updateNode_eq_error {problem : GraphError}
    (refused : g.updateNode id patches = .error problem) :
    (g.node? id = none ∧ problem = .nodeNotFound id) ∨
      ∃ n patch, g.node? id = some n ∧ patches.find? (!·.fits n.kind) = some patch ∧
        problem = .patchMismatch id n.kind patch.field := by
  cases found : g.node? id with
  | none =>
      rw [updateNode_eq_of_absent found] at refused
      exact .inl ⟨rfl, (Except.error.inj refused).symm⟩
  | some n =>
      cases result : patchData n.data patches with
      | ok data =>
          rw [updateNode_eq_of_patchData_ok found result] at refused
          cases refused
      | error field =>
          rw [updateNode_eq_of_patchData_error found result] at refused
          rcases patchData_eq_error_iff.mp result with ⟨patch, first, rfl⟩
          exact .inr ⟨n, patch, rfl, first, (Except.error.inj refused).symm⟩

/-- What an edit of data that succeeds does: the first node with the id has its fields patched, and
everything else stays as it is. -/
theorem of_updateNode_eq_ok {updated : Graph} (succeeded : g.updateNode id patches = .ok updated) :
    updated.edges = g.edges ∧
      ∃ earlier n later data, g.nodes = earlier ++ n :: later ∧
        (∀ other ∈ earlier, other.id ≠ id) ∧ n.id = id ∧
        updated.nodes = earlier ++ { n with data := data } :: later ∧ data.kind = n.kind ∧
        data.fields = n.data.fields.map (NodePatch.latest patches) := by
  cases found : g.node? id with
  | none =>
      rw [updateNode_eq_of_absent found] at succeeded
      cases succeeded
  | some n =>
      cases result : patchData n.data patches with
      | error field =>
          rw [updateNode_eq_of_patchData_error found result] at succeeded
          cases succeeded
      | ok data =>
          rw [updateNode_eq_of_patchData_ok found result] at succeeded
          obtain rfl := Except.ok.inj succeeded
          rcases List.find?_eq_some_iff_append.mp found with ⟨hit, earlier, later, nodes, missed⟩
          have apart : ∀ other ∈ earlier, (other.id == id) = false := by simpa using missed
          refine ⟨rfl, earlier, n, later, data, nodes, by simpa using missed, beq_iff_eq.mp hit, ?_,
            kind_of_patchData result, fields_patchData result⟩
          rw [nodes]
          exact modifyFirst_append_cons apart hit

/-- After an edit of its data the node is found as before, with the new data. -/
theorem node?_of_patched {n : Node} (found : g.node? id = some n) (data : NodeData) :
    node? { g with nodes := modifyFirst (·.id == id) ({ · with data := data }) g.nodes } id =
      some { n with data := data } := by
  have kept : ∀ m : Node, ({ m with data := data } : Node).id = m.id := fun _ => rfl
  unfold node? at found ⊢
  dsimp only
  rw [find?_modifyFirst (fun m => by rw [kept]), found, Option.map_some]

/-- Patches can be applied in two edits as well as in one. -/
theorem updateNode_append (g : Graph) (id : String) (patches more : List NodePatch) :
    g.updateNode id (patches ++ more) = (g.updateNode id patches).bind (·.updateNode id more) := by
  cases found : g.node? id with
  | none =>
      rw [updateNode_eq_of_absent found, updateNode_eq_of_absent found]
      rfl
  | some n =>
      have both := patchData_append n.data patches more
      cases first : patchData n.data patches with
      | error field =>
          rw [first] at both
          rw [updateNode_eq_of_patchData_error found first,
            updateNode_eq_of_patchData_error found both]
          rfl
      | ok between =>
          rw [first] at both
          rw [updateNode_eq_of_patchData_ok found first]
          have again := node?_of_patched found between
          change _ = Graph.updateNode _ id more
          cases second : patchData between more with
          | error field =>
              have sameKind : ({ n with data := between } : Node).kind = n.kind :=
                kind_of_patchData first
              rw [updateNode_eq_of_patchData_error found (both.trans second),
                updateNode_eq_of_patchData_error again second, sameKind]
          | ok data =>
              rw [updateNode_eq_of_patchData_ok found (both.trans second),
                updateNode_eq_of_patchData_ok again second]
              have once : modifyFirst (·.id == id) ({ · with data := data })
                    (modifyFirst (·.id == id) ({ · with data := between }) g.nodes) =
                  modifyFirst (·.id == id) ({ · with data := data }) g.nodes := by
                apply modifyFirst_modifyFirst
                intro m
                rfl
              rw [once]

/-- An edit of a node's data is made as a whole or not at all.  It is made exactly when a node has
the id and every patch fits its kind.  Otherwise the graph stays as it is, and the refusal names the
missing node, or the kind of the node and the field of the first patch that does not fit.  An edit
that is made keeps the id, the position and the kind of the first node with the id, gives each of
its fields the value of the last patch that names the field, an empty type being none, and leaves
all other nodes and the edges as they are.  Two such edits, one after the other, are one edit with
the patches of both. -/
theorem updateNode_all_or_nothing (g : Graph) (id : String) (patches : List NodePatch) :
    ((∃ updated, g.updateNode id patches = .ok updated) ↔
      ∃ n, g.node? id = some n ∧ ∀ patch ∈ patches, patch.fits n.kind = true) ∧
    (∀ problem, g.updateNode id patches = .error problem →
      g.edit (.updateNode id patches) = g ∧
      ((g.node? id = none ∧ problem = .nodeNotFound id) ∨
        ∃ n patch, g.node? id = some n ∧ patches.find? (!·.fits n.kind) = some patch ∧
          problem = .patchMismatch id n.kind patch.field)) ∧
    (∀ updated, g.updateNode id patches = .ok updated →
      g.edit (.updateNode id patches) = updated ∧ updated.edges = g.edges ∧
      ∃ earlier n later data, g.nodes = earlier ++ n :: later ∧
        (∀ other ∈ earlier, other.id ≠ id) ∧ n.id = id ∧
        updated.nodes = earlier ++ { n with data := data } :: later ∧ data.kind = n.kind ∧
        data.fields = n.data.fields.map (NodePatch.latest patches)) ∧
    ∀ more, g.updateNode id (patches ++ more) =
      (g.updateNode id patches).bind (·.updateNode id more) := by
  refine ⟨exists_updateNode_eq_ok_iff, ?_, ?_, updateNode_append g id patches⟩
  · intro problem refused
    have unchanged : g.edit (.updateNode id patches) = g := by simp only [edit, refused]; rfl
    exact ⟨unchanged, of_updateNode_eq_error refused⟩
  · intro updated succeeded
    have changed : g.edit (.updateNode id patches) = updated := by simp only [edit, succeeded]; rfl
    exact ⟨changed, of_updateNode_eq_ok succeeded⟩

/-- Of two actions with one id the first is patched, and ends without a type.  With one more patch,
for a condition, neither is. -/
theorem updateNode_all_or_nothing_action :
    let n : Node := ⟨"a", .origin, .empty .action⟩
    let g : Graph := ⟨[n, n], []⟩
    let fitting : List NodePatch :=
      [.actionType (some "NOTE"), .label "Note", .actionType (some "")]
    (∃ updated data, g.updateNode "a" fitting = .ok updated ∧
      g.edit (.updateNode "a" fitting) = updated ∧ updated.nodes = [{ n with data := data }, n] ∧
      data.fields = [.label "Note", .actionType none, .config .empty]) ∧
    g.updateNode "a" (fitting ++ [.condition none]) =
      .error (.patchMismatch "a" .action "condition") ∧
    g.edit (.updateNode "a" (fitting ++ [.condition none])) = g := by
  intro n g fitting
  have found : g.node? "a" = some n := rfl
  have fits : ∀ patch ∈ fitting, patch.fits n.kind = true := by decide
  rcases (updateNode_all_or_nothing g "a" fitting).1.mpr ⟨n, found, fits⟩ with ⟨updated, succeeded⟩
  have refused : g.updateNode "a" (fitting ++ [.condition none]) =
      .error (.patchMismatch "a" .action "condition") := rfl
  have law := updateNode_all_or_nothing g "a" (fitting ++ [.condition none])
  refine ⟨?_, refused, (law.2.1 _ refused).1⟩
  rcases (updateNode_all_or_nothing g "a" fitting).2.2.1 updated succeeded with
    ⟨changed, _, earlier, m, later, data, nodes, missed, _, after, _, fields⟩
  cases earlier with
  | nil =>
      cases nodes
      exact ⟨updated, data, succeeded, changed, after, fields⟩
  | cons first rest =>
      have same : n = first := (List.cons.inj nodes).1
      exact absurd rfl (same ▸ missed first List.mem_cons_self)

end Graph

end Workflow
