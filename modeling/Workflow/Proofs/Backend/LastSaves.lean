import Mathlib.Data.List.Nodup
import Workflow.Proofs.Backend.Effects

namespace Workflow

/-!
# The last save of each workflow

Whoever makes the calls, a history of the store in memory says for each id what was saved to it and
from what it was copied, and what is kept under the id now is the last of it.  Each law is proved by
induction over the history, with one case for each thing that an answer can do to an id.

Versions have any size here, and the store that reads versions of 64 bits answers alike until a
version does not fit.
-/

namespace Answering

variable {σ : Type}

/-- The ids that were given out, in order. -/
def issuedIds (past : List (Answering σ)) : List String :=
  past.filterMap fun m => m.exchange.issuedId?

/-- The saves to an id, in order. -/
def savesTo (past : List (Answering σ)) (id : String) : List Save :=
  (past.filterMap fun m => m.exchange.save?).filter fun save => save.id = id

/-- The versions given to the saves to an id, in order. -/
def versionsOf (past : List (Answering σ)) (id : String) : List Int :=
  (savesTo past id).filterMap Save.version

variable {past : List (Answering σ)} {m : Answering σ} {id : String}

theorem savesTo_of_saved {save : Save} (saves : m.exchange.save? = some save) :
    savesTo (past ++ [m]) save.id = savesTo past save.id ++ [save] := by
  simp [savesTo, saves]

theorem savesTo_of_unsaved (unsaved : ∀ save ∈ m.exchange.save?, save.id ≠ id) :
    savesTo (past ++ [m]) id = savesTo past id := by
  cases saves : m.exchange.save? with
  | none => simp [savesTo, saves]
  | some save => simp [savesTo, saves, unsaved save saves]

theorem savesTo_of_copied {source copy : String}
    (copies : m.exchange = ⟨.cloneWorkflow source, .ok copy⟩) :
    savesTo (past ++ [m]) id = savesTo past id := by
  apply savesTo_of_unsaved
  rw [copies]
  intro save saves
  cases saves

theorem versionsOf_of_saved {save : Save} {version : Int} (saves : m.exchange.save? = some save)
    (given : save.version = some version) :
    versionsOf (past ++ [m]) save.id = versionsOf past save.id ++ [version] := by
  simp [versionsOf, savesTo_of_saved saves, given]

theorem mem_versionsOf_append {version : Int} {later : List (Answering σ)}
    (given : version ∈ versionsOf past id) : version ∈ versionsOf (past ++ later) id := by
  unfold versionsOf savesTo at given ⊢
  rw [List.filterMap_append, List.filter_append, List.filterMap_append]
  exact List.mem_append_left _ given

end Answering

namespace Store

open Answering Session

variable {s : Store} {id : String} {m : Answering Store} {past : List (Answering Store)}

theorem sound_of_served (served : Served answerUncapped .empty past s) : s.Sound := by
  induction served with
  | nothing => exact sound_empty
  | answered served c inductionHypothesis => exact inductionHypothesis.answered c

/-- The ids that were given out are numbered in their order. -/
theorem issuedIds_eq (served : Served answerUncapped .empty past s) :
    issuedIds past = (List.range s.issued).map workflowId := by
  induction served with
  | nothing => rfl
  | @answered past s served c inductionHypothesis =>
      unfold issuedIds at inductionHypothesis ⊢
      rw [List.filterMap_append, inductionHypothesis]
      rcases issues_answerUncapped c s with ⟨given, counted⟩ | ⟨none, counted⟩
      · rw [counted, List.range_succ, List.map_append]
        simp [answering, given, nextId, workflowId]
      · rw [counted]
        simp [answering, none]

theorem nodup_issuedIds (served : Served answerUncapped .empty past s) :
    (issuedIds past).Nodup := by
  rw [issuedIds_eq served]
  exact List.Nodup.map (fun m n => workflowId_injective) List.nodup_range

/-- An id that is given out is new. -/
theorem absent_of_issued (served : Served answerUncapped .empty past s) (member : m ∈ past)
    (issued : m.exchange.issuedId? = some id) : m.before.records.get? id = none := by
  rcases served.of_mem member with ⟨earlier, c, _, reached, same⟩
  rw [same] at issued
  rcases issues_answerUncapped c m.before with ⟨given, _⟩ | ⟨none, _⟩
  · rw [← Option.some.inj (given.symm.trans issued)]
    exact (sound_of_served reached).free
  · cases none.symm.trans issued

theorem effect_of_mem (served : Served answerUncapped .empty past s) (member : m ∈ past)
    (id : String) : Effect id m := by
  rcases served.of_mem member with ⟨earlier, c, _, reached, same⟩
  rw [same]
  exact (sound_of_served reached).effect c id

/-- An update stores the version after the one that was stored before. -/
theorem next_version_of_update (served : Served answerUncapped .empty past s) (member : m ∈ past)
    {request : SaveRequest} {saved : Saved}
    (updates : m.exchange = ⟨.updateWorkflow id request, .ok saved⟩) :
    ∃ earlier version, m.before.Keeps id earlier version ∧ saved.version = some (version + 1) ∧
      m.after.Keeps id request (version + 1) := by
  have given : m.exchange.save? = some ⟨id, saved.version, request⟩ := by
    rw [updates]
    rfl
  cases effect_of_mem served member id with
  | created saves issued =>
      rw [updates] at issued
      cases issued
  | @updated earlier _ version saves held kept =>
      rcases Save.mk.inj (Option.some.inj (given.symm.trans saves)) with ⟨_, given, rfl⟩
      exact ⟨earlier, version, held, given, kept⟩
  | copied copies =>
      rw [updates] at copies
      cases copies
  | stays spares => exact absurd rfl (spares.unsaved _ given)

/-- Every save to an id was given a version, and none above the one that is stored. -/
theorem le_version_of_saved (served : Served answerUncapped .empty past s) {save : Save}
    (saved : save ∈ savesTo past id) :
    ∃ given request version, save.version = some given ∧ s.Keeps id request version ∧
      given ≤ version := by
  induction served with
  | nothing => cases saved
  | @answered past s served c inductionHypothesis =>
      cases (sound_of_served served).effect c id with
      | created saves issued absent kept =>
          rw [savesTo_of_saved saves] at saved
          rcases List.mem_append.mp saved with before | last
          · rcases inductionHypothesis before with ⟨_, _, _, _, earlier, _⟩
            exact absurd absent earlier.found
          · obtain rfl := List.mem_singleton.mp last
            exact ⟨1, _, 1, rfl, kept, Int.le_refl 1⟩
      | @updated earlier request version saves held kept =>
          rw [savesTo_of_saved saves] at saved
          rcases List.mem_append.mp saved with before | last
          · rcases inductionHypothesis before with ⟨given, _, reached, same, stored, below⟩
            have equal : reached = version := stored.version_unique held
            exact ⟨given, request, version + 1, same, kept, by omega⟩
          · obtain rfl := List.mem_singleton.mp last
            exact ⟨version + 1, request, version + 1, rfl, kept, Int.le_refl _⟩
      | copied copies absent held kept =>
          rw [savesTo_of_copied copies] at saved
          rcases inductionHypothesis saved with ⟨_, _, _, _, earlier, _⟩
          exact absurd absent earlier.found
      | stays spares absent kept =>
          rw [savesTo_of_unsaved spares.unsaved] at saved
          rcases inductionHypothesis saved with ⟨given, request, version, same, stored, below⟩
          exact ⟨given, request, version, same, kept request version stored, below⟩

theorem savesTo_eq_nil (served : Served answerUncapped .empty past s)
    (absent : s.records.get? id = none) : savesTo past id = [] := by
  apply List.eq_nil_iff_forall_not_mem.mpr
  intro save saved
  rcases le_version_of_saved served saved with ⟨_, _, _, _, stored, _⟩
  exact stored.found absent

/-- Each save to an id is given a version above those of all earlier saves to it. -/
theorem versionsOf_ascending (served : Served answerUncapped .empty past s) (id : String) :
    (versionsOf past id).Pairwise (· < ·) := by
  induction served with
  | nothing => exact .nil
  | @answered past s served c inductionHypothesis =>
      cases (sound_of_served served).effect c id with
      | created saves issued absent kept =>
          have first : versionsOf past id = [] := by
            rw [versionsOf, savesTo_eq_nil served absent, List.filterMap_nil]
          rw [versionsOf_of_saved saves rfl, first]
          exact List.pairwise_singleton _ _
      | @updated earlier request version saves held kept =>
          -- All versions given so far are at most the one that is stored.
          rw [versionsOf_of_saved saves rfl]
          refine List.pairwise_append.mpr ⟨inductionHypothesis, List.pairwise_singleton _ _, ?_⟩
          intro given before last isLast
          obtain rfl := List.mem_singleton.mp isLast
          rcases List.mem_filterMap.mp before with ⟨save, saved, same⟩
          rcases le_version_of_saved served saved with ⟨reached, _, found, other, stored, below⟩
          obtain rfl := Option.some.inj (other.symm.trans same)
          have equal : found = version := stored.version_unique held
          omega
      | copied copies =>
          rw [versionsOf, savesTo_of_copied copies]
          exact inductionHypothesis
      | stays spares =>
          rw [versionsOf, savesTo_of_unsaved spares.unsaved]
          exact inductionHypothesis

/-- What was saved to an id last is kept there, with the version that it was given. -/
theorem keeps_last_save (served : Served answerUncapped .empty past s) {save : Save}
    (last : (savesTo past id).getLast? = some save) :
    ∃ version, save.version = some version ∧ s.Keeps id save.request version := by
  induction served with
  | nothing => cases last
  | @answered past s served c inductionHypothesis =>
      cases (sound_of_served served).effect c id with
      | created saves issued absent kept | updated saves held kept =>
          rw [savesTo_of_saved saves, List.getLast?_concat] at last
          obtain rfl := Option.some.inj last
          exact ⟨_, rfl, kept⟩
      | copied copies absent held kept =>
          rw [savesTo_of_copied copies, savesTo_eq_nil served absent] at last
          cases last
      | stays spares absent kept =>
          rw [savesTo_of_unsaved spares.unsaved] at last
          rcases inductionHypothesis last with ⟨version, given, held⟩
          exact ⟨version, given, kept _ version held⟩

/-- What was copied to an id is kept there, as it was when it was copied, until it is saved to. -/
theorem keeps_copy (served : Served answerUncapped .empty past s) (member : m ∈ past)
    {source : String} (copies : m.exchange = ⟨.cloneWorkflow source, .ok id⟩)
    (unsaved : savesTo past id = []) :
    ∃ request version, m.before.Keeps source request version ∧ s.Keeps id request version := by
  induction served with
  | nothing => cases member
  | @answered past s served c inductionHypothesis =>
      have effect := (sound_of_served served).effect c id
      rcases List.mem_append.mp member with before | last
      · cases effect with
        | created saves | updated saves =>
            rw [savesTo_of_saved saves] at unsaved
            cases List.append_ne_nil_of_right_ne_nil _ (List.cons_ne_nil _ _) unsaved
        | copied again absent held kept =>
            -- An id that was copied to has a record, so that it is not given out once more.
            rw [savesTo_of_copied again] at unsaved
            rcases inductionHypothesis before unsaved with ⟨_, _, _, now⟩
            exact absurd absent now.found
        | stays spares absent kept =>
            rw [savesTo_of_unsaved spares.unsaved] at unsaved
            rcases inductionHypothesis before unsaved with ⟨request, version, held, now⟩
            exact ⟨request, version, held, kept request version now⟩
      · obtain rfl := List.mem_singleton.mp last
        cases effect with
        | created saves | updated saves =>
            rw [copies] at saves
            cases saves
        | copied again absent held kept =>
            have same := congrArg Exchange.call (again.symm.trans copies)
            obtain rfl := Call.cloneWorkflow.inj same
            exact ⟨_, _, held, kept⟩
        | stays spares => exact absurd copies (spares.uncopied source)

/-- Whatever is stored under an id was saved to it or copied to it. -/
theorem saved_or_copied (served : Served answerUncapped .empty past s)
    (found : s.records.get? id ≠ none) :
    savesTo past id ≠ [] ∨
      ∃ m ∈ past, ∃ source, m.exchange = ⟨.cloneWorkflow source, .ok id⟩ := by
  induction served with
  | nothing => exact absurd rfl found
  | @answered past s served c inductionHypothesis =>
      cases (sound_of_served served).effect c id with
      | created saves | updated saves =>
          rw [savesTo_of_saved saves]
          exact .inl (List.append_ne_nil_of_right_ne_nil _ (List.cons_ne_nil _ _))
      | copied copies =>
          exact .inr ⟨_, List.mem_append_right _ (List.mem_singleton_self _), _, copies⟩
      | stays spares absent =>
          rw [savesTo_of_unsaved spares.unsaved]
          rcases inductionHypothesis (fun missing => found (absent missing)) with
            saved | ⟨m, member, copied⟩
          · exact .inl saved
          · exact .inr ⟨m, List.mem_append_left _ member, copied⟩

/-! ## Versions of 64 bits -/

/-- Each version that is stored was given to a save, be it one of the workflow that was copied. -/
theorem exists_version_given (served : Served answerUncapped .empty past s)
    {request : SaveRequest} {version : Int} (kept : s.Keeps id request version) :
    0 ≤ version ∧ ∃ other, version ∈ versionsOf past other := by
  induction served generalizing id request version with
  | nothing => exact absurd rfl kept.found
  | @answered past s served c inductionHypothesis =>
      cases (sound_of_served served).effect c id with
      | created saves issued absent now =>
          obtain rfl := kept.version_unique now
          refine ⟨by decide, id, ?_⟩
          rw [versionsOf_of_saved saves rfl]
          exact List.mem_append_right _ (List.mem_singleton_self _)
      | updated saves held now =>
          obtain rfl := kept.version_unique now
          have above := (inductionHypothesis held).1
          refine ⟨by omega, id, ?_⟩
          rw [versionsOf_of_saved saves rfl]
          exact List.mem_append_right _ (List.mem_singleton_self _)
      | copied copies absent held now =>
          obtain rfl := kept.version_unique now
          rcases inductionHypothesis held with ⟨above, other, given⟩
          exact ⟨above, other, mem_versionsOf_append given⟩
      | stays spares absent stay =>
          have before : s.records.get? id ≠ none := fun missing => kept.found (absent missing)
          rcases (sound_of_served served).whole id before with ⟨earlier, stored, held⟩
          obtain rfl := kept.version_unique (stay earlier stored held)
          rcases inductionHypothesis held with ⟨above, other, given⟩
          exact ⟨above, other, mem_versionsOf_append given⟩

/-- While all versions fit, the store answers as if they could have any size. -/
theorem answer_eq_answerUncapped (served : Served answerUncapped .empty past s)
    (fit : ∀ id, ∀ version ∈ versionsOf past id, version < Int.pow 2 63) (c : Call) :
    answer c s = answerUncapped c s := by
  cases c with
  | updateWorkflow id request =>
      simp only [answer, answerUncapped]
      cases found : s.records.get? id with
      | none => rfl
      | some record =>
          rcases (sound_of_served served).exists_stored found with
            ⟨earlier, version, active, rfl⟩
          rcases exists_version_given served ⟨active, found⟩ with ⟨above, other, given⟩
          have below := fit other version given
          have bounds : -Int.pow 2 63 ≤ version ∧ version < Int.pow 2 63 := by
            have negative : -Int.pow 2 63 ≤ 0 := by decide
            exact ⟨Int.le_trans negative above, below⟩
          dsimp only
          rw [versionOf_stored earlier id active bounds, wholeVersionOf_stored]
  | _ => rfl

theorem answer_eq_of_mem (served : Served answerUncapped .empty past s)
    (fit : ∀ id, ∀ version ∈ versionsOf past id, version < Int.pow 2 63) (member : m ∈ past) :
    answer m.exchange.call m.before = answerUncapped m.exchange.call m.before := by
  rcases served.of_mem member with ⟨earlier, c, ⟨later, rfl⟩, reached, _⟩
  exact answer_eq_answerUncapped reached
    (fun id version given => fit id version (mem_versionsOf_append given)) _

end Store

end Workflow
