import Workflow.Proofs.Backend.Interleaving
import Workflow.Proofs.Backend.Kept
import Workflow.Proofs.Graph.FreshIds

namespace Workflow

/-!
# What an answer of the store does to one id

Seen from one id, an answer of the store in memory is one of four things: the id is new and a
request is kept under it, or a request takes the place of another with the next version, or the id
is new and becomes a copy, or what is kept under the id stays.  For this the records must be under
ids that were given out before, and each must be a request that was saved; both go on to hold.

The store reads versions of 64 bits.  Here they can have any size.
-/

/-- A save that succeeded: where it went, the version that it was given, and what was saved. -/
structure Save where
  id : String
  version : Option Int
  request : SaveRequest

namespace Exchange

/-- The save, if a workflow was created or updated. -/
def save? : Exchange → Option Save
  | ⟨.createWorkflow request, .ok saved⟩ => some ⟨saved.id, saved.version, request⟩
  | ⟨.updateWorkflow id request, .ok saved⟩ => some ⟨id, saved.version, request⟩
  | _ => none

/-- The id that was given out, if a workflow was created, cloned or imported. -/
def issuedId? : Exchange → Option String
  | ⟨.createWorkflow _, .ok saved⟩ => some saved.id
  | ⟨.cloneWorkflow _, .ok id⟩ => some id
  | ⟨.importWorkflow _, .ok id⟩ => some id
  | _ => none

/-- Nothing is saved to an id, or copied to it. -/
structure Spares (x : Exchange) (id : String) : Prop where
  unsaved : ∀ save ∈ x.save?, save.id ≠ id
  uncopied : ∀ source, x ≠ ⟨.cloneWorkflow source, .ok id⟩

theorem spares_of_error (c : Call) (cause : ClientError) (id : String) :
    Spares ⟨c, .error cause⟩ id := by
  cases c with
  | _ => exact ⟨(fun save saves => by cases saves), fun source copies => by cases copies⟩

end Exchange

/-- Whether a call asks to store a workflow, be it saved or copied. -/
def Call.stores : Call → Bool
  | .createWorkflow _ => true
  | .updateWorkflow _ _ => true
  | .cloneWorkflow _ => true
  | _ => false

theorem Exchange.spares_of_stores_eq_false {c : Call} (other : c.stores = false) (reply : c.Reply)
    (id : String) : Spares ⟨c, reply⟩ id := by
  cases c with
  | createWorkflow request | updateWorkflow id request | cloneWorkflow source => cases other
  | _ => exact ⟨(fun save saves => by cases saves), fun source copies => by cases copies⟩

/-! ## The stored form -/

theorem SaveRequest.setMember_id_stored (r : SaveRequest) (id other : String) (version : Int)
    (active : Option Bool) :
    (r.stored id version active).setMember "id" (.string other) =
      r.stored other version active := by
  cases active with
  | none | some flag =>
      simp only [stored, optionalMember, Json.setMember, Dictionary.insertEntry, List.cons_append,
        List.nil_append, String.reduceLT, if_true, if_false]

theorem SaveRequest.member?_version_stored (r : SaveRequest) (id : String) (version : Int)
    (active : Option Bool) :
    (r.stored id version active).member? "version" = some (.ofInt version) := by
  cases active with
  | none | some flag => rfl

namespace Store

/-- The version of a record, of any size; one without a version has version zero. -/
def wholeVersionOf (record : Json) : Int :=
  match record.member? "version" with
  | some (.number (.integer version)) => version
  | _ => 0

/-- Answers a call as the store does, but that a version can have any size. -/
def answerUncapped : Session.Server Store := fun c s =>
  match c with
  | .updateWorkflow id request =>
    let noted := s.note "update" id
    match s.records.get? id with
    | none => (.error notFound, noted)
    | some record =>
      let version := wholeVersionOf record + 1
      (.ok ⟨id, some version⟩, noted.keep id request version)
  | other => answer other s

theorem wholeVersionOf_stored (r : SaveRequest) (id : String) (version : Int)
    (active : Option Bool) : wholeVersionOf (r.stored id version active) = version := by
  unfold wholeVersionOf
  rw [r.member?_version_stored]
  rfl

theorem versionOf_stored (r : SaveRequest) (id : String) {version : Int} (active : Option Bool)
    (bounds : -Int.pow 2 63 ≤ version ∧ version < Int.pow 2 63) :
    versionOf (r.stored id version active) = version := by
  unfold versionOf
  rw [r.member?_version_stored]
  change Option.getD (if -Int.pow 2 63 ≤ version ∧ version < Int.pow 2 63 then some version
    else none) 0 = _
  rw [if_pos bounds]
  rfl

variable {s : Store} {id : String}

/-- There is one version under an id. -/
theorem Keeps.version_unique {first second : SaveRequest} {v w : Int} (one : s.Keeps id first v)
    (other : s.Keeps id second w) : v = w := by
  rcases one with ⟨active, found⟩
  rcases other with ⟨flag, found'⟩
  have same := congrArg wholeVersionOf (Option.some.inj (found.symm.trans found'))
  rwa [wholeVersionOf_stored, wholeVersionOf_stored] at same

theorem Keeps.found {request : SaveRequest} {version : Int} (kept : s.Keeps id request version) :
    s.records.get? id ≠ none := by
  rcases kept with ⟨active, found⟩
  rw [found]
  exact Option.some_ne_none _

/-! ## The ids of workflows -/

/-- The id of the workflow that was counted after so many others. -/
def workflowId (n : Nat) : String := "wf-" ++ toString (n + 1)

theorem workflowId_injective {m n : Nat} (same : workflowId m = workflowId n) : m = n := by
  have dash : "wf-" = "wf" ++ "-" := by decide
  unfold workflowId at same
  rw [dash] at same
  exact Nat.succ.inj (number_eq_of_numbered_eq same)

/-- The records are under ids that were given out, and each is a request that was saved. -/
structure Sound (s : Store) : Prop where
  numbered : ∀ id, s.records.get? id ≠ none → ∃ n < s.issued, workflowId n = id
  whole : ∀ id, s.records.get? id ≠ none → ∃ request version, s.Keeps id request version

theorem sound_empty : empty.Sound := by
  have nothing (id : String) : empty.records.get? id = none := rfl
  exact ⟨fun id found => absurd (nothing id) found, fun id found => absurd (nothing id) found⟩

/-- The next id is new. -/
theorem Sound.free (sound : s.Sound) : s.records.get? s.nextId = none := by
  by_contra found
  rcases sound.numbered _ found with ⟨n, below, same⟩
  have equal : n = s.issued := workflowId_injective same
  omega

theorem Sound.exists_stored (sound : s.Sound) {record : Json}
    (found : s.records.get? id = some record) :
    ∃ request version active, record = SaveRequest.stored request id version active := by
  rcases sound.whole id (by rw [found]; exact Option.some_ne_none _) with
    ⟨request, version, active, held⟩
  exact ⟨request, version, active, Option.some.inj (found.symm.trans held)⟩

/-- An answer gives out the next id and counts it, or gives out none. -/
theorem issues_answerUncapped (c : Call) (s : Store) :
    ((Exchange.mk c (answerUncapped c s).1).issuedId? = some s.nextId ∧
      (answerUncapped c s).2.issued = s.issued + 1) ∨
    ((Exchange.mk c (answerUncapped c s).1).issuedId? = none ∧
      (answerUncapped c s).2.issued = s.issued) := by
  cases c with
  | createWorkflow request | importWorkflow request => exact .inl ⟨rfl, rfl⟩
  | cloneWorkflow source =>
      simp only [answerUncapped, answer]
      split
      · exact .inr ⟨rfl, rfl⟩
      · exact .inl ⟨rfl, rfl⟩
  | updateWorkflow other request =>
      simp only [answerUncapped]
      split
      · exact .inr ⟨rfl, rfl⟩
      · exact .inr ⟨rfl, rfl⟩
  | toggleWorkflow other | exportWorkflow other | executeWorkflow other =>
      simp only [answerUncapped, answer]
      split
      · exact .inr ⟨rfl, rfl⟩
      · exact .inr ⟨rfl, rfl⟩
  | getWorkflow other =>
      simp only [answerUncapped, answer]
      split
      · exact .inr ⟨rfl, rfl⟩
      · split
        · exact .inr ⟨rfl, rfl⟩
        · exact .inr ⟨rfl, rfl⟩
  | listExecutions filter => exact .inr ⟨rfl, rfl⟩
  | getExecution other =>
      simp only [answerUncapped, answer, look]
      split
      · exact .inr ⟨rfl, rfl⟩
      · exact .inr ⟨rfl, rfl⟩
  | transition action other =>
      simp only [answerUncapped, answer, move]
      split
      · exact .inr ⟨rfl, rfl⟩
      · split
        · exact .inr ⟨rfl, rfl⟩
        · exact .inr ⟨rfl, rfl⟩

/-! ## What an answer does to one id -/

/-- What an answer can do to one id. -/
inductive Effect (id : String) (m : Answering Store) : Prop
  | created {request : SaveRequest} (saves : m.exchange.save? = some ⟨id, some 1, request⟩)
      (issued : m.exchange.issuedId? = some id) (absent : m.before.records.get? id = none)
      (kept : m.after.Keeps id request 1)
  | updated {earlier request : SaveRequest} {version : Int}
      (saves : m.exchange.save? = some ⟨id, some (version + 1), request⟩)
      (held : m.before.Keeps id earlier version)
      (kept : m.after.Keeps id request (version + 1))
  | copied {source : String} {request : SaveRequest} {version : Int}
      (copies : m.exchange = ⟨.cloneWorkflow source, .ok id⟩)
      (absent : m.before.records.get? id = none) (held : m.before.Keeps source request version)
      (kept : m.after.Keeps id request version)
  | stays (spares : m.exchange.Spares id)
      (absent : m.before.records.get? id = none → m.after.records.get? id = none)
      (kept : ∀ request version, m.before.Keeps id request version →
        m.after.Keeps id request version)

variable {m : Answering Store}

theorem Effect.of_same (spares : m.exchange.Spares id)
    (same : m.after.records = m.before.records) : Effect id m := by
  refine .stays spares (fun absent => by rw [same, absent]) ?_
  rintro request version ⟨active, found⟩
  exact ⟨active, by rw [same, found]⟩

theorem Effect.of_put {other : String} {record : Json} (apart : other ≠ id)
    (spares : m.exchange.Spares id)
    (put : m.after.records = m.before.records.insert other record) : Effect id m := by
  refine .stays spares (fun absent => ?_) fun request version kept => ?_
  · rw [put, Dictionary.get?_insert, if_neg apart.symm, absent]
  · exact kept.of_insert apart put

theorem records_look (s : Store) (id : String) : (s.look id).2.records = s.records := by
  unfold look
  split <;> rfl

theorem records_move (s : Store) (action : ExecutionAction) (id : String) :
    (s.move action id).2.records = s.records := by
  unfold move
  split
  · rfl
  · split <;> rfl

open Session

theorem Sound.effect_create (sound : s.Sound) (request : SaveRequest) (id : String) :
    Effect id (answering answerUncapped (.createWorkflow request) s) := by
  by_cases same : s.nextId = id
  · subst same
    exact .created rfl rfl sound.free (keeps_keep _ _ _ _)
  · refine .of_put same ⟨?_, fun source copies => by cases copies⟩ rfl
    rintro save ⟨⟩
    exact same

theorem Sound.effect_update (sound : s.Sound) (other : String) (request : SaveRequest)
    (id : String) : Effect id (answering answerUncapped (.updateWorkflow other request) s) := by
  unfold answering
  cases found : s.records.get? other with
  | none =>
      have answered : answerUncapped (.updateWorkflow other request) s =
          (.error notFound, s.note "update" other) := by
        simp only [answerUncapped, found]
      rw [answered]
      exact .of_same (Exchange.spares_of_error _ _ id) rfl
  | some record =>
      have answered : answerUncapped (.updateWorkflow other request) s =
          (.ok ⟨other, some (wholeVersionOf record + 1)⟩,
            (s.note "update" other).keep other request (wholeVersionOf record + 1)) := by
        simp only [answerUncapped, found]
      rw [answered]
      by_cases same : other = id
      · subst same
        rcases sound.exists_stored found with ⟨earlier, version, active, rfl⟩
        rw [wholeVersionOf_stored]
        exact .updated rfl ⟨active, found⟩ (keeps_keep _ _ _ _)
      · refine .of_put same ⟨?_, fun source copies => by cases copies⟩ rfl
        rintro save ⟨⟩
        exact same

theorem effect_toggle (s : Store) (other id : String) :
    Effect id (answering answerUncapped (.toggleWorkflow other) s) := by
  refine .stays (Exchange.spares_of_stores_eq_false rfl _ id) (fun absent => ?_) ?_
  · change (answer (.toggleWorkflow other) s).2.records.get? id = none
    simp only [answer]
    split
    · exact absent
    · next record found =>
      have apart : id ≠ other := by
        rintro rfl
        cases found.symm.trans absent
      rw [Dictionary.get?_insert, if_neg apart]
      exact absent
  · intro request version kept
    exact kept.answer (c := .toggleWorkflow other) fun stored => by cases stored

theorem Sound.effect_clone (sound : s.Sound) (source id : String) :
    Effect id (answering answerUncapped (.cloneWorkflow source) s) := by
  unfold answering
  cases found : s.records.get? source with
  | none =>
      have answered : answerUncapped (.cloneWorkflow source) s =
          (.error notFound, s.note "clone" source) := by
        simp only [answerUncapped, answer, found]
      rw [answered]
      exact .of_same (Exchange.spares_of_error _ _ id) rfl
  | some record =>
      have answered : answerUncapped (.cloneWorkflow source) s =
          (.ok s.nextId, { s.note "clone" source with
            issued := s.issued + 1
            records :=
              s.records.insert s.nextId (withMember record "id" (.string s.nextId)) }) := by
        simp only [answerUncapped, answer, found]
      rw [answered]
      by_cases same : s.nextId = id
      · subst same
        rcases sound.exists_stored found with ⟨request, version, active, rfl⟩
        have copy : withMember (request.stored source version active) "id" (.string s.nextId) =
            request.stored s.nextId version active :=
          request.setMember_id_stored source s.nextId version active
        refine .copied rfl sound.free ⟨active, found⟩ ⟨active, ?_⟩
        rw [Dictionary.get?_insert, if_pos rfl, copy]
      · refine .of_put same ⟨(fun save saves => by cases saves), ?_⟩ rfl
        rintro other ⟨⟩
        exact same rfl

/-- Seen from one id, an answer creates, updates or copies, or leaves what is there. -/
theorem Sound.effect (sound : s.Sound) (c : Call) (id : String) :
    Effect id (answering answerUncapped c s) := by
  cases c with
  | createWorkflow request => exact sound.effect_create request id
  | updateWorkflow other request => exact sound.effect_update other request id
  | toggleWorkflow other => exact s.effect_toggle other id
  | cloneWorkflow source => exact sound.effect_clone source id
  | getWorkflow other =>
      refine .of_same (Exchange.spares_of_stores_eq_false rfl _ id) ?_
      simp only [answering, answerUncapped, answer]
      split
      · rfl
      · split <;> rfl
  | exportWorkflow other | executeWorkflow other =>
      refine .of_same (Exchange.spares_of_stores_eq_false rfl _ id) ?_
      simp only [answering, answerUncapped, answer]
      split <;> rfl
  | importWorkflow request | listExecutions filter =>
      exact .of_same (Exchange.spares_of_stores_eq_false rfl _ id) rfl
  | getExecution other =>
      exact .of_same (Exchange.spares_of_stores_eq_false rfl _ id)
        ((s.note "get-execution" other).records_look other)
  | transition action other =>
      exact .of_same (Exchange.spares_of_stores_eq_false rfl _ id)
        ((s.note action.name other).records_move action other)

theorem Effect.issued_or_found (effect : Effect id m) (found : m.after.records.get? id ≠ none) :
    m.exchange.issuedId? = some id ∨ m.before.records.get? id ≠ none := by
  cases effect with
  | created saves issued => exact .inl issued
  | updated saves held => exact .inr held.found
  | copied copies =>
      rw [copies]
      exact .inl rfl
  | stays spares absent => exact .inr fun missing => found (absent missing)

theorem Effect.exists_kept (effect : Effect id m) (found : m.after.records.get? id ≠ none)
    (sound : m.before.Sound) : ∃ request version, m.after.Keeps id request version := by
  cases effect with
  | created saves issued absent kept | updated saves held kept | copied copies absent held kept =>
      exact ⟨_, _, kept⟩
  | stays spares absent kept =>
      rcases sound.whole id (fun missing => found (absent missing)) with ⟨request, version, held⟩
      exact ⟨request, version, kept request version held⟩

theorem Sound.answered (sound : s.Sound) (c : Call) : (answerUncapped c s).2.Sound := by
  refine ⟨fun id found => ?_, fun id found => (sound.effect c id).exists_kept found sound⟩
  rcases (sound.effect c id).issued_or_found found with issued | before
  · rcases issues_answerUncapped c s with ⟨given, counted⟩ | ⟨none, _⟩
    · exact ⟨s.issued, by omega, Option.some.inj (given.symm.trans issued)⟩
    · cases none.symm.trans issued
  · rcases sound.numbered id before with ⟨n, below, same⟩
    refine ⟨n, ?_, same⟩
    rcases issues_answerUncapped c s with ⟨_, counted⟩ | ⟨_, counted⟩ <;> omega

end Store

end Workflow
