import Workflow.Http.Client
import Workflow.Proofs.Http.Reading

namespace Workflow.Http

/-!
# What a request addresses

The path of a call holds the id that the call names as it is.  If the id is one segment of a path,
the request says which operation is meant and what it is made on: two requests with one method and
one target on one server are of one operation, and their ids stand for the same bytes.

Nothing makes an id one segment.  With a slash in it, an id can turn a request for one workflow into
the export of another.
-/

/-- What a call that names an id does, apart from the id. -/
inductive Operation where
  | updateWorkflow
  | getWorkflow
  | toggleWorkflow
  | cloneWorkflow
  | exportWorkflow
  | executeWorkflow
  | getExecution
  | transition (action : ExecutionAction)
  deriving DecidableEq

/-- The operation of a call and the id that it names, if it names one. -/
def operation? : Call → Option (Operation × String)
  | .createWorkflow _ => none
  | .updateWorkflow id _ => some (.updateWorkflow, id)
  | .getWorkflow id => some (.getWorkflow, id)
  | .toggleWorkflow id => some (.toggleWorkflow, id)
  | .cloneWorkflow id => some (.cloneWorkflow, id)
  | .exportWorkflow id => some (.exportWorkflow, id)
  | .importWorkflow _ => none
  | .executeWorkflow id => some (.executeWorkflow, id)
  | .listExecutions _ => none
  | .getExecution id => some (.getExecution, id)
  | .transition action id => some (.transition action, id)

/-- Where a request goes and what it does there. -/
def Request.destination (r : Request) : (String × Nat) × Method × String :=
  ((r.host, r.service), r.method, r.target)

namespace Operation

/-- All operations. -/
def all : List Operation :=
  [updateWorkflow, getWorkflow, toggleWorkflow, cloneWorkflow, exportWorkflow, executeWorkflow,
    getExecution, transition .pause, transition .resume, transition .cancel]

theorem mem_all (o : Operation) : o ∈ all := by
  cases o with
  | transition action => cases action <;> decide
  | _ => decide

/-- The method of an operation. -/
def method : Operation → Method
  | updateWorkflow => .put
  | toggleWorkflow => .patch
  | getWorkflow | exportWorkflow | getExecution => .get
  | cloneWorkflow | executeWorkflow | transition _ => .post

/-- The first segment of a path. -/
def root : Operation → String
  | getExecution | transition .cancel => "workflow-executions"
  | _ => "workflows"

/-- The segments before the id, without the first one. -/
def before : Operation → List String
  | transition .pause | transition .resume => ["executions"]
  | _ => []

/-- The segments after the id. -/
def after : Operation → List String
  | updateWorkflow | getWorkflow | getExecution => []
  | toggleWorkflow => ["toggle"]
  | cloneWorkflow => ["clone"]
  | exportWorkflow => ["export"]
  | executeWorkflow => ["execute"]
  | transition .pause => ["pause"]
  | transition .resume => ["resume"]
  | transition .cancel => ["cancel"]

/-- The segments after the first one. -/
def rest (o : Operation) (id : String) : List (List Char) :=
  (o.before ++ id :: o.after).map String.toList

end Operation

variable {c : Call} {o : Operation} {id : String}

theorem method_eq (named : operation? c = some (o, id)) : method c = o.method := by
  cases c <;> simp only [operation?, reduceCtorEq, Option.some.injEq, Prod.mk.injEq] at named <;>
    rcases named with ⟨rfl, rfl⟩ <;> rfl

/-- The texts of paths are those of their segments. -/
theorem path_eq_slashed (named : operation? c = some (o, id)) :
    (path c).toList = slashed (o.root.toList :: o.rest id) := by
  cases c <;> simp only [operation?, reduceCtorEq, Option.some.injEq, Prod.mk.injEq] at named <;>
    rcases named with ⟨rfl, rfl⟩
  case transition action name =>
      cases action <;> unfold path <;>
        simp [Operation.rest, Operation.before, Operation.after, Operation.root, slashed]
  all_goals
    unfold path
    simp [Operation.rest, Operation.before, Operation.after, Operation.root, slashed]

/-! ## The segments of an operation -/

theorem namesServer_root (o : Operation) : Url.NamesServer o.root.toList := by
  have roots : ∀ o ∈ Operation.all, o.root = "workflows" ∨ o.root = "workflow-executions" := by
    decide
  rcases roots o o.mem_all with root | root <;> rw [root] <;>
    exact ⟨by decide, by decide, by decide, by decide⟩

/-- The names beside an id are segments. -/
theorem isSegment_of_mem (o : Operation) : ∀ name ∈ o.before ++ o.after, IsSegment name.toList := by
  have names : ∀ o ∈ Operation.all, ∀ name ∈ o.before ++ o.after, IsSegment name.toList := by
    decide
  exact names o o.mem_all

theorem routes (named : operation? c = some (o, id)) (segment : IsSegment id.toList) :
    Url.Routes (path c) o.root.toList (o.rest id) where
  path := path_eq_slashed named
  named := namesServer_root o
  nonempty := by simp [Operation.rest]
  all := by
    intro s member
    rcases List.mem_map.mp member with ⟨name, inside, rfl⟩
    rcases List.mem_append.mp inside with early | late
    · exact isSegment_of_mem o name (List.mem_append_left _ early)
    · rcases List.mem_cons.mp late with rfl | late
      · exact segment
      · exact isSegment_of_mem o name (List.mem_append_right _ late)

/-- What the segments of some names stand for. -/
def standing (names : List String) : List (List UInt8) := names.map fun name => unescape name.toList

section Telling

variable {first second : Operation}

/-- Operations with one method, one root and equally many segments have their ids in one place. -/
theorem before_length_eq (methods : first.method = second.method)
    (roots : unescape first.root.toList = unescape second.root.toList)
    (lengths : (first.before ++ first.after).length = (second.before ++ second.after).length) :
    first.before.length = second.before.length := by
  have places : ∀ first ∈ Operation.all, ∀ second ∈ Operation.all,
      first.method = second.method → unescape first.root.toList = unescape second.root.toList →
      (first.before ++ first.after).length = (second.before ++ second.after).length →
      first.before.length = second.before.length := by
    decide
  exact places first first.mem_all second second.mem_all methods roots lengths

/-- The names around the id tell the operations with one method and one root apart. -/
theorem eq_of_standing (methods : first.method = second.method)
    (roots : unescape first.root.toList = unescape second.root.toList)
    (befores : standing first.before = standing second.before)
    (afters : standing first.after = standing second.after) : first = second := by
  have telling : ∀ first ∈ Operation.all, ∀ second ∈ Operation.all,
      first.method = second.method → unescape first.root.toList = unescape second.root.toList →
      standing first.before = standing second.before →
      standing first.after = standing second.after → first = second := by
    decide
  exact telling first first.mem_all second second.mem_all methods roots befores afters

/-- Segments that stand for the same bytes are of one operation, on ids that stand for the same
bytes. -/
theorem eq_of_segments {other : String} (methods : first.method = second.method)
    (roots : unescape first.root.toList = unescape second.root.toList)
    (same : (first.rest id).map unescape = (second.rest other).map unescape) :
    first = second ∧ unescape id.toList = unescape other.toList := by
  have parts (o : Operation) (name : String) : (o.rest name).map unescape =
      standing o.before ++ unescape name.toList :: standing o.after := by
    simp [Operation.rest, standing, Function.comp_def]
  rw [parts, parts] at same
  -- An id may be a name that other operations have before theirs, so its place comes first.
  have lengths := congrArg List.length same
  simp only [standing, List.length_append, List.length_cons, List.length_map] at lengths
  have place : first.before.length = second.before.length := by
    refine before_length_eq methods roots ?_
    rw [List.length_append, List.length_append]
    omega
  have places : (standing first.before).length = (standing second.before).length := by
    rw [standing, standing, List.length_map, List.length_map, place]
  rcases List.append_inj same places with ⟨befores, rest⟩
  rcases List.cons.inj rest with ⟨ids, afters⟩
  exact ⟨eq_of_standing methods roots befores afters, ids⟩

end Telling

/-- Segments that are written alike stand for the same bytes. -/
theorem map_unescape_eq {mayStand : Char → Bool} (keeps : KeepsEscapes mayStand)
    {segments others : List (List Char)} (all : ∀ s ∈ segments, IsSegment s)
    (alsoAll : ∀ s ∈ others, IsSegment s)
    (same : slashed (segments.map (escape mayStand)) = slashed (others.map (escape mayStand))) :
    segments.map unescape = others.map unescape := by
  have undivided {segments : List (List Char)} (all : ∀ s ∈ segments, IsSegment s) :
      ∀ s ∈ segments.map (escape mayStand), '/' ∉ s := by
    intro s member
    rcases List.mem_map.mp member with ⟨plain, inside, rfl⟩
    exact slash_not_mem_escape (all plain inside).slash_not_mem
  have written := slashed_injective (undivided all) (undivided alsoAll) same
  have read : unescape ∘ escape mayStand = unescape := funext fun _ => unescape_escape keeps
  rw [← read, ← List.map_map, written, List.map_map]

/-! ## Requests -/

namespace Client

variable {client : Client} {r : Request}

/-- A request that names an id goes where its address says, as it is. -/
theorem of_request?_eq_some (named : operation? c = some (o, id))
    (sent : client.request? c = some r) :
    ∃ url, Url.parse? (client.baseUrl ++ path c) = some url ∧
      r.destination = ((String.ofList url.host, url.service), o.method, url.target) := by
  have noPairs : pairs? c = none := by
    cases c <;> first | rfl | cases named
  rw [request?, noPairs] at sent
  rcases Option.bind_eq_some_iff.mp sent with ⟨url, read, made⟩
  refine ⟨url, read, ?_⟩
  dsimp only at made
  split at made
  · obtain rfl := Option.some.inj made
    rw [Request.destination, method_eq named]
  · cases made

/-- Requests address what they name: two calls with ids that are single segments, whose requests go
to one place to do one thing, are of one operation, and their ids stand for the same bytes. -/
theorem requests_address_what_they_name (client : Client) (noFragment : '#' ∉ client.baseUrl.toList)
    {c d : Call} {first second : Operation} {id other : String}
    (named : operation? c = some (first, id)) (alsoNamed : operation? d = some (second, other))
    (segment : IsSegment id.toList) (alsoSegment : IsSegment other.toList) {r s : Request}
    (sent : client.request? c = some r) (alsoSent : client.request? d = some s)
    (same : r.destination = s.destination) :
    first = second ∧ unescape id.toList = unescape other.toList ∧
      ('%' ∉ id.toList → '%' ∉ other.toList → id = other) := by
  rcases of_request?_eq_some named sent with ⟨url, read, goes⟩
  rcases of_request?_eq_some alsoNamed alsoSent with ⟨alsoUrl, alsoRead, alsoGoes⟩
  rw [goes, alsoGoes] at same
  simp only [Prod.mk.injEq] at same
  rcases same with ⟨⟨hosts, _⟩, methods, targets⟩
  have hosts : url.host = alsoUrl.host := String.ofList_injective hosts
  have route := routes named segment
  have alsoRoute := routes alsoNamed alsoSegment
  have both : first = second ∧ unescape id.toList = unescape other.toList := by
    have targets := congrArg String.toList targets
    rcases Url.exists_ending noFragment with
      ⟨so, mayStand, keeps, ends⟩ | ⟨so, mayStand, keeps, ends⟩
    · rw [ends _ _ _ route _ read, ends _ _ _ alsoRoute _ alsoRead] at targets
      have bytes := map_unescape_eq keeps route.all_segments alsoRoute.all_segments
        (List.append_cancel_left targets)
      rcases List.cons.inj bytes with ⟨roots, rests⟩
      exact eq_of_segments methods roots rests
    · rcases ends _ _ _ route _ read with ⟨host, target⟩
      rcases ends _ _ _ alsoRoute _ alsoRead with ⟨alsoHost, alsoTarget⟩
      rw [target, alsoTarget] at targets
      have rests := map_unescape_eq keeps route.all alsoRoute.all (List.append_cancel_left targets)
      have roots : first.root.toList = second.root.toList := by rw [← host, hosts, alsoHost]
      exact eq_of_segments methods (congrArg unescape roots) rests
  refine ⟨both.1, both.2, fun plain alsoPlain => ?_⟩
  exact String.toList_injective (eq_of_unescape_eq plain alsoPlain both.2)

/-- An escape in an id and the character that it stands for are sent alike. -/
theorem requests_address_what_they_name_escaped :
    ∃ (r s : Request), (⟨"http://[::1]", none⟩ : Client).request? (.getWorkflow "a b") = some r ∧
      (⟨"http://[::1]", none⟩ : Client).request? (.getWorkflow "a%20b") = some s ∧
      r.destination = s.destination ∧ unescape "a b".toList = unescape "a%20b".toList := by
  have first : ((⟨"http://[::1]", none⟩ : Client).request? (.getWorkflow "a b")).map
      Request.destination = some (("[::1]", 80), .get, "/workflows/a%20b") := by decide +kernel
  have second : ((⟨"http://[::1]", none⟩ : Client).request? (.getWorkflow "a%20b")).map
      Request.destination = some (("[::1]", 80), .get, "/workflows/a%20b") := by decide +kernel
  rcases Option.map_eq_some_iff.mp first with ⟨r, sent, goes⟩
  rcases Option.map_eq_some_iff.mp second with ⟨s, alsoSent, alsoGoes⟩
  have same : r.destination = s.destination := goes.trans alsoGoes.symm
  refine ⟨r, s, sent, alsoSent, same, ?_⟩
  exact (requests_address_what_they_name ⟨"http://[::1]", none⟩ (by decide) rfl rfl
    (by decide) (by decide) sent alsoSent same).2.1

/-- A slash in an id turns the request for a workflow into the export of another. -/
theorem not_requests_address_what_they_name :
    ¬∀ (client : Client) (c d : Call) (first second : Operation) (id other : String),
      operation? c = some (first, id) → operation? d = some (second, other) → ∀ (r s : Request),
      client.request? c = some r → client.request? d = some s → r.destination = s.destination →
      first = second ∧ id = other := by
  intro claim
  let client : Client := ⟨"http://[::1]", none⟩
  have get : (client.request? (.getWorkflow "a/export")).map Request.destination =
      some (("[::1]", 80), .get, "/workflows/a/export") := by decide +kernel
  have exporting : (client.request? (.exportWorkflow "a")).map Request.destination =
      some (("[::1]", 80), .get, "/workflows/a/export") := by decide +kernel
  rcases Option.map_eq_some_iff.mp get with ⟨r, sent, goes⟩
  rcases Option.map_eq_some_iff.mp exporting with ⟨s, alsoSent, alsoGoes⟩
  have both := claim client _ _ _ _ _ _ rfl rfl r s sent alsoSent (goes.trans alsoGoes.symm)
  exact absurd both.1 (by decide)

end Client

end Workflow.Http
