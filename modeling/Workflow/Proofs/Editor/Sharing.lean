import Workflow.Proofs.Backend.LastSaves
import Workflow.Proofs.Editor.Saving

namespace Workflow

/-!
# Editors that share a backend

Any number of editors share the backend in memory, each in one operation at a time, while others
toggle, clone, import and execute workflows.  No editor knows of the others: one may save a workflow
that it opened long ago, with a version that is out of date.  The backend does not look at that
version; the last save wins, and no save is mixed with another or lost on the way.
-/

namespace Editor

open Answering Session

/-- Editors hold what came of an operation when it has ended, and others make any call. -/
def usage : Usage Operation Call Editor Outcome := ⟨perform, fun held _ => held, fun c => c⟩

/-- Any number of editors share a backend that starts with nothing, and take turns in any order with
each other and with calls of others.  At every moment of such a run, versions being of any size: the
ids that were given out are different, and none had a record before it was given out; an update
stores the version after the one that was stored before, and the versions given to one id ascend, so
that none is given twice; what is kept under an id is what was saved to it last, whoever saved it,
or, as long as nobody has saved to it, what the workflow that it was copied from had at that time,
and nothing else is stored.  The backend reads versions of 64 bits, and while all versions fit, its
run is the same. -/
theorem shared_store_keeps_last_saves {ι : Type} [DecidableEq ι] (held : ι → Editor)
    (turns : List (Turn ι Operation Call)) :
    let start := Shared.opened Store.empty held
    let run := start.answerings Store.answerUncapped usage turns
    let reached := start.after Store.answerUncapped usage turns
    (issuedIds run).Nodup ∧
    (∀ m ∈ run, ∀ id, m.exchange.issuedId? = some id → m.before.records.get? id = none) ∧
    (∀ m ∈ run, ∀ id request saved, m.exchange = ⟨.updateWorkflow id request, .ok saved⟩ →
      ∃ earlier version, m.before.Keeps id earlier version ∧ saved.version = some (version + 1) ∧
        m.after.Keeps id request (version + 1)) ∧
    (∀ id, (versionsOf run id).Pairwise (· < ·)) ∧
    (∀ id save, (savesTo run id).getLast? = some save →
      ∃ version, save.version = some version ∧ reached.state.Keeps id save.request version) ∧
    (∀ m ∈ run, ∀ source id, m.exchange = ⟨.cloneWorkflow source, .ok id⟩ → savesTo run id = [] →
      ∃ request version, m.before.Keeps source request version ∧
        reached.state.Keeps id request version) ∧
    (∀ id, reached.state.records.get? id ≠ none → savesTo run id ≠ [] ∨
      ∃ m ∈ run, ∃ source, m.exchange = ⟨.cloneWorkflow source, .ok id⟩) ∧
    ((∀ id, ∀ version ∈ versionsOf run id, version < Int.pow 2 63) →
      start.after Store.answer usage turns = reached ∧
        start.answerings Store.answer usage turns = run) := by
  intro start run reached
  have served : Served Store.answerUncapped Store.empty run reached.state :=
    Shared.served_answerings usage Store.empty held turns
  refine ⟨Store.nodup_issuedIds served, ?_, ?_, Store.versionsOf_ascending served, ?_, ?_, ?_, ?_⟩
  · intro m member id issued
    exact Store.absent_of_issued served member issued
  · intro m member id request saved updates
    exact Store.next_version_of_update served member updates
  · intro id save last
    exact Store.keeps_last_save served last
  · intro m member source id copies unsaved
    exact Store.keeps_copy served member copies unsaved
  · intro id found
    exact Store.saved_or_copied served found
  · intro fit
    apply Shared.run_eq_of_agree
    intro m member
    exact Store.answer_eq_of_mem served fit member

/-- An editor with a valid draft that is not stored. -/
def noteEditor : Editor :=
  let note : ActionStep := ⟨"NOTE", .ofList [("text", .null)], ""⟩
  let definition : Definition := ⟨"Notes", "", "MANUAL", .empty, .empty, [note], none⟩
  ⟨.builtIn, definition.toDraft, none, none⟩

/-- As many steps as an operation of an editor with that draft can have. -/
def pairSteps (who : Bool) : List (Turn Bool Operation Call) := List.replicate 5 (.advance who)

/-- One editor saves its draft, and the other opens it and describes it.  Both begin to save, the
one that described it is last, and a copy is made.  Then the first saves once more, although it has
not seen the description. -/
def pairTurns : List (Turn Bool Operation Call) :=
  .begin true .save :: pairSteps true ++ .begin false (.openWorkflow "wf-1") :: pairSteps false ++
    .begin false (.describe "Second") :: pairSteps false ++
    [.begin true .save, .begin false .save] ++ pairSteps true ++ pairSteps false ++
    [.call (.cloneWorkflow "wf-1"), .call (.toggleWorkflow "wf-1"), .begin true .save] ++
    pairSteps true ++ [.call (.importWorkflow ⟨.null, false⟩)]

/-- The description is lost in the first workflow and kept in its copy, and the backend with
versions of 64 bits has the same run. -/
theorem shared_store_keeps_last_saves_pair :
    let start := Shared.opened Store.empty fun _ : Bool => noteEditor
    let run := start.answerings Store.answerUncapped usage pairTurns
    let reached := start.after Store.answerUncapped usage pairTurns
    issuedIds run = ["wf-1", "wf-2", "wf-3"] ∧ versionsOf run "wf-1" = [1, 2, 3, 4] ∧
    (∃ save version, (savesTo run "wf-1").getLast? = some save ∧
      save.request.definition.description = "" ∧
      reached.state.Keeps "wf-1" save.request version) ∧
    (∃ m ∈ run, ∃ source request version, m.exchange = ⟨.cloneWorkflow source, .ok "wf-2"⟩ ∧
      m.before.Keeps source request version ∧ reached.state.Keeps "wf-2" request version) ∧
    start.after Store.answer usage pairTurns = reached := by
  intro start run reached
  have law := shared_store_keeps_last_saves (fun _ => noteEditor) pairTurns
  rcases law with ⟨_, _, _, _, last, copied, origin, alike⟩
  have description : ((savesTo run "wf-1").getLast?.map fun save =>
      save.request.definition.description) = some "" := by decide +kernel
  have unsaved : savesTo run "wf-2" = [] := List.isEmpty_iff.mp (by decide +kernel)
  have fit : ((run.filterMap fun m => m.exchange.save?).all fun save =>
      save.version.all fun version => version < Int.pow 2 63) = true := by decide +kernel
  refine ⟨by decide +kernel, by decide +kernel, ?_, ?_, ?_⟩
  · rcases Option.map_eq_some_iff.mp description with ⟨save, isLast, described⟩
    rcases last "wf-1" save isLast with ⟨version, _, kept⟩
    exact ⟨save, version, isLast, described, kept⟩
  · have stored := origin "wf-2" (Option.isSome_iff_ne_none.mp (by decide +kernel))
    rcases stored with saved | ⟨m, member, source, copies⟩
    · exact absurd unsaved saved
    · rcases copied m member source "wf-2" copies unsaved with ⟨request, version, held, kept⟩
      exact ⟨m, member, source, request, version, copies, held, kept⟩
  · refine (alike ?_).1
    intro id version given
    rcases List.mem_filterMap.mp given with ⟨save, saved, same⟩
    have below := List.all_eq_true.mp fit save (List.mem_filter.mp saved).1
    rw [same] at below
    exact of_decide_eq_true below

end Editor

end Workflow
