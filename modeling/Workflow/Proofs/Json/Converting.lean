import Workflow.Proofs.Json.Decoding

namespace Workflow

/-!
# Converting while decoding and converting afterwards

What was decoded can be converted part by part, each part as soon as it is there, or as a whole in
the end.  The first way may stop earlier, at a part that cannot be converted, while the second goes
on to decode.  So they need not fail alike, but they succeed alike, and where everything can be
decoded they end alike: a part that cannot be converted is reported by both.

This is said of results first, and carried from the parts of a source to lists and to groups, whose
state of decoding is itself converted along the way.
-/

/-- A result that was converted on the way, beside the one that was not: where the other is there,
it is what the other converts to, and it is there only where the other is. -/
structure Converts {α β ε : Type} (convert : α → Except ε β) (plain : Except ε α)
    (converted : Except ε β) : Prop where
  eq_convert : ∀ a, plain = .ok a → converted = convert a
  exists_plain : ∀ b, converted = .ok b → ∃ a, plain = .ok a

namespace Converts

variable {α β γ δ σ ε : Type} {convert : α → Except ε β} {plain : Except ε α}
  {converted : Except ε β}

theorem of_eq_ok {a : α} (found : plain = .ok a) (same : converted = convert a) :
    Converts convert plain converted := by
  constructor
  · intro other equal
    obtain rfl := Except.ok.inj (found.symm.trans equal)
    exact same
  · exact fun _ _ => ⟨a, found⟩

theorem of_eq_error {first second : ε} (missing : plain = .error first)
    (also : converted = .error second) : Converts convert plain converted := by
  constructor
  · intro a found
    rw [missing] at found
    cases found
  · intro b found
    rw [also] at found
    cases found

/-- Where nothing is there, nothing has to be converted. -/
theorem error (first second : ε) (before : Except ε σ) :
    Converts convert (.error first) (before >>= fun _ => .error second) := by
  cases before with
  | error problem => exact of_eq_error rfl rfl
  | ok found => exact of_eq_error rfl rfl

/-- The converted result is there exactly if the other one is and can be converted. -/
theorem eq_ok_iff (converts : Converts convert plain converted) {b : β} :
    converted = .ok b ↔ ∃ a, plain = .ok a ∧ convert a = .ok b := by
  constructor
  · intro found
    rcases converts.exists_plain b found with ⟨a, decoded⟩
    exact ⟨a, decoded, (converts.eq_convert a decoded).symm.trans found⟩
  · rintro ⟨a, decoded, done⟩
    exact (converts.eq_convert a decoded).trans done

/-- What is made of a result, if it is made of the converted one likewise. -/
theorem map (converts : Converts convert plain converted) {make : α → γ} {convertedMake : β → δ}
    {finish : γ → Except ε δ} (same : ∀ a, finish (make a) = (convert a).map convertedMake) :
    Converts finish (plain.map make) (converted.map convertedMake) := by
  cases decoded : plain with
  | ok a =>
      refine of_eq_ok rfl ?_
      rw [converts.eq_convert a decoded, same]
  | error problem =>
      cases found : converted with
      | ok b =>
          rcases converts.exists_plain b found with ⟨a, other⟩
          rw [decoded] at other
          cases other
      | error another => exact of_eq_error rfl rfl

/-- What goes on after a result, if it converts likewise from wherever it starts. -/
theorem bind (converts : Converts convert plain converted) {finish : γ → Except ε δ}
    {next : α → Except ε γ} {convertedNext : β → Except ε δ}
    (each : ∀ a, Converts finish (next a) (convert a >>= convertedNext)) :
    Converts finish (plain >>= next) (converted >>= convertedNext) := by
  constructor
  · intro c done
    rcases exists_of_bind_eq_ok done with ⟨a, decoded, later⟩
    rw [converts.eq_convert a decoded]
    exact (each a).eq_convert c later
  · intro d done
    rcases exists_of_bind_eq_ok done with ⟨b, found, later⟩
    rcases converts.exists_plain b found with ⟨a, decoded⟩
    have own : convert a = .ok b := (converts.eq_convert a decoded).symm.trans found
    have rest : (convert a >>= convertedNext) = .ok d := by
      rw [own]
      exact later
    rcases (each a).exists_plain d rest with ⟨c, last⟩
    exact ⟨c, by rw [decoded]; exact last⟩

/-- Items that are read one after the other, each converted when it is there. -/
theorem mapM (read : γ → Except ε α) (items : List γ) :
    Converts (·.mapM convert) (items.mapM read) (items.mapM fun c => (read c).bind convert) := by
  induction items with
  | nil => exact of_eq_ok rfl rfl
  | cons head rest inductionHypothesis =>
      rw [List.mapM_cons, List.mapM_cons]
      cases first : read head with
      | error problem => exact of_eq_error rfl rfl
      | ok a =>
          constructor
          · intro values done
            rcases exists_of_bind_eq_ok done with ⟨own, same, done⟩
            obtain rfl := Except.ok.inj same
            rcases exists_of_bind_eq_ok done with ⟨others, later, done⟩
            obtain rfl := Except.ok.inj done
            rw [inductionHypothesis.eq_convert others later, List.mapM_cons]
            rfl
          · intro results done
            rcases exists_of_bind_eq_ok done with ⟨b, own, done⟩
            rcases exists_of_bind_eq_ok done with ⟨bs, others, done⟩
            rcases inductionHypothesis.exists_plain bs others with ⟨values, later⟩
            exact ⟨a :: values, by rw [later]; rfl⟩

/-- Items that change a state one after the other, if each change converts likewise. -/
theorem foldlM {step : α → γ → Except ε α} {convertedStep : β → γ → Except ε β}
    {items : List γ}
    (each : ∀ c ∈ items, ∀ a,
      Converts convert (step a c) (convert a >>= fun b => convertedStep b c)) (a : α) :
    Converts convert (items.foldlM step a)
      (convert a >>= fun b => items.foldlM convertedStep b) := by
  induction items generalizing a with
  | nil =>
      refine of_eq_ok rfl ?_
      cases convert a <;> rfl
  | cons head rest inductionHypothesis =>
      -- The state is converted before the first step or after it, and the rest goes on from there.
      have both : (convert a >>= fun b => (head :: rest).foldlM convertedStep b) =
          ((convert a >>= fun b => convertedStep b head) >>= fun b =>
            rest.foldlM convertedStep b) := by
        cases convert a <;> rfl
      rw [List.foldlM_cons, both]
      apply (each head List.mem_cons_self a).bind
      exact inductionHypothesis fun c member => each c (List.mem_cons_of_mem head member)

end Converts

namespace Decoder

variable {α β σ τ : Type}

/-- A list whose items are converted when they are decoded. -/
theorem converts_list (decode : Decoder α) (convert : α → Except DecodeError β) (medium : Medium)
    (source : Source) :
    Converts (·.mapM convert) (list decode medium source)
      (list (andThen decode convert) medium source) := by
  unfold list
  cases source.items? with
  | none => exact .of_eq_error rfl rfl
  | some found =>
      rcases found with ⟨items, complete⟩
      dsimp only
      apply (Converts.mapM (decode medium) items).bind
      intro values
      cases complete with
      | true =>
          refine .of_eq_ok rfl ?_
          cases values.mapM convert <;> rfl
      | false => exact .error .malformed .malformed (values.mapM convert)

/-- Two groups of the same fields, the second of which converts its state along the way. -/
structure GroupConverts (state : σ → Except DecodeError τ) (value : α → Except DecodeError β)
    (plain : Group σ α) (converted : Group τ β) : Prop where
  names : converted.names = plain.names
  start : state plain.start = .ok converted.start
  visit : ∀ medium s key source, Converts state (plain.visit medium s key source)
    (state s >>= fun t => converted.visit medium t key source)
  finish : ∀ absent s, Converts value (plain.finish absent s)
    (state s >>= fun t => converted.finish absent t)

namespace GroupConverts

variable {state : σ → Except DecodeError τ} {value : α → Except DecodeError β}
  {plain : Group σ α} {converted : Group τ β}

/-- The state after visits, if each visit converts likewise. -/
theorem visits (groups : GroupConverts state value plain converted) {ε : Type}
    {visit : σ → ε → Except DecodeError σ} {convertedVisit : τ → ε → Except DecodeError τ}
    {entries : List ε} (each : ∀ entry ∈ entries, ∀ s,
      Converts state (visit s entry) (state s >>= fun t => convertedVisit t entry)) :
    Converts state (entries.foldlM visit plain.start)
      (entries.foldlM convertedVisit converted.start) := by
  have fold := Converts.foldlM each plain.start
  rw [groups.start] at fold
  exact fold

theorem members (groups : GroupConverts state value plain converted) (medium : Medium)
    (source : Source) : Converts value (Decoder.members plain medium source)
      (Decoder.members converted medium source) := by
  unfold Decoder.members
  cases source.members? with
  | none => exact .of_eq_error rfl rfl
  | some found =>
      rcases found with ⟨entries, complete⟩
      dsimp only
      have visits : Converts state (entries.foldlM (visitMember plain medium) plain.start)
          (entries.foldlM (visitMember converted medium) converted.start) := by
        apply groups.visits
        rintro ⟨_ | key, inner⟩ _ s
        · exact .error .malformed .malformed (state s)
        · exact groups.visit medium s key inner
      apply visits.bind
      intro s
      cases complete with
      | true => exact groups.finish .missingField s
      | false => exact .error .malformed .malformed (state s)

/-- Groups that convert are decoded likewise, in any of the forms of a group. -/
theorem group (groups : GroupConverts state value plain converted) (medium : Medium)
    (source : Source) : Converts value (Decoder.group plain medium source)
      (Decoder.group converted medium source) := by
  unfold Decoder.group
  cases source.items? with
  | none => exact groups.members medium source
  | some found =>
      rcases found with ⟨items, complete⟩
      dsimp only
      rw [groups.names]
      have visits : Converts state
          ((plain.names.zip items).foldlM (visitItem plain medium) plain.start)
          ((plain.names.zip items).foldlM (visitItem converted medium) converted.start) := by
        apply groups.visits
        exact fun entry _ s => groups.visit medium s entry.1 entry.2
      apply visits.bind
      intro s
      cases complete with
      | false => exact .error .malformed .malformed (state s)
      | true =>
          have finish := groups.finish (fun _ => .invalidLength) s
          simp only [Bool.not_true, Bool.false_eq_true, if_false]
          by_cases long : plain.names.length < items.length
          · simp only [if_pos long]
            rw [← bind_assoc]
            apply finish.bind
            exact fun a => .error _ _ (value a)
          · simp only [if_neg long, bind_pure]
            exact finish

end GroupConverts

end Decoder

end Workflow
