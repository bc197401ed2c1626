import Mathlib.Data.List.Forall2
import Mathlib.Data.List.Nodup
import Workflow.Proofs.Dictionary
import Workflow.Schema.Basic

namespace Workflow

/-!
# What the check of a config finds

A field is met when a value of its type is filled in, and also when no value is and it can do
without one: because it is optional, or because the field that excuses it is filled in.  A check
finds one issue for each field that is not met, in the order of the fields, and nothing else.

So a check sees nothing of a config but the values that are filled in under the keys of the fields
and of their excuses, and a field that is filled in as it should be loses its own issue, excuses the
fields that wait for it, and leaves all others as they are.
-/

/-- The value says nothing: it is null, or a text of nothing but blanks. -/
inductive Json.Blank : Json → Prop
  | null : Blank .null
  | text {s : String} (blanks : ∀ c ∈ s.toList, Text.isBlankChar c = true) : Blank (.string s)

/-- The key has a value in the config, and the value is not blank. -/
def Filled (config : Object) (key : String) (v : Json) : Prop :=
  config.get? key = some v ∧ ¬ v.Blank

/-- The value is of the type; that of a choice is one of its options. -/
inductive FieldType.Fits : FieldType → Json → Prop
  | text (s : String) : Fits .text (.string s)
  | number (n : Number) : Fits .number (.number n)
  /-- A number may be written as a text, with blanks around it. -/
  | numeral {s : String} (written : Text.isNumeral (Text.trim s) = true) : Fits .number (.string s)
  | choice {options : List String} {s : String} (listed : s ∈ options) :
      Fits (.choice options) (.string s)
  | name (entity s : String) : Fits (.reference entity) (.string s)
  | serial (entity : String) (i : Int) : Fits (.reference entity) (.number (.integer i))

namespace FieldSpec

/-- The field is filled in as it should be, or can do without a value. -/
inductive Met (f : FieldSpec) (config : Object) : Prop
  | filled {v : Json} (value : Filled config f.key v) (fits : f.fieldType.Fits v)
  | optional (blank : ∀ v, ¬ Filled config f.key v) (optional : f.required = false)
  | excused (blank : ∀ v, ¬ Filled config f.key v) {other : String} {v : Json}
      (excuse : f.excuse = some other) (value : Filled config other v)

/-- What is to be said of the field. -/
inductive Finds (f : FieldSpec) (config : Object) : ConfigIssue → Prop
  | missing (blank : ∀ v, ¬ Filled config f.key v) (required : f.required = true)
      (unexcused : ∀ other v, f.excuse = some other → ¬ Filled config other v) :
      Finds f config (.missing f.label)
  /-- A text for a choice is of the right kind, even if it is none of the options. -/
  | wrongType {v : Json} (value : Filled config f.key v) (unfit : ¬ f.fieldType.Fits v)
      (unread : ∀ options s, f.fieldType = .choice options → v ≠ .string s) :
      Finds f config (.wrongType f.label f.fieldType.description)
  | notAnOption {options : List String} {s : String} (type : f.fieldType = .choice options)
      (value : Filled config f.key (.string s)) (unlisted : s ∉ options) :
      Finds f config (.notAnOption f.label s)

end FieldSpec

section Values

variable {config : Object} {key : String} {v : Json}

theorem Json.isBlank_iff : v.isBlank = true ↔ v.Blank := by
  cases v with
  | null => exact iff_of_true rfl .null
  | string s =>
      change Text.isBlank s = true ↔ _
      rw [Text.isBlank, List.all_eq_true]
      constructor
      · exact .text
      · intro blank
        cases blank with
        | text blanks => exact blanks
  | bool _ | number _ | array _ | object _ =>
      refine iff_of_false Bool.false_ne_true fun blank => ?_
      cases blank

instance : DecidablePred Json.Blank := fun _ => decidable_of_iff _ Json.isBlank_iff

theorem filled?_eq_some_iff : filled? config key = some v ↔ Filled config key v := by
  unfold filled? Filled
  rw [Option.filter_eq_some_iff, Bool.not_eq_true', ← Json.isBlank_iff, Bool.not_eq_true]

theorem filled?_eq_none_iff : filled? config key = none ↔ ∀ v, ¬ Filled config key v := by
  rw [Option.eq_none_iff_forall_ne_some]
  exact forall_congr' fun v => not_congr filled?_eq_some_iff

/-- Filling in a key leaves the other keys as they are. -/
theorem filled?_insert (present : ¬ v.Blank) (other : String) :
    filled? (config.insert key v) other = if other = key then some v else filled? config other := by
  have said : v.isBlank = false := Bool.eq_false_iff.mpr fun blank =>
    present (Json.isBlank_iff.mp blank)
  unfold filled?
  rw [Dictionary.get?_insert]
  by_cases same : other = key
  · rw [if_pos same, if_pos same, Option.filter_some, said]
    rfl
  · rw [if_neg same, if_neg same]

/-- The members that are not blank. -/
def withoutBlanks (config : Object) : Object :=
  ⟨config.entries.filter fun entry => ¬ entry.2.Blank, config.ascending.filter _⟩

theorem get?_withoutBlanks (config : Object) (key : String) :
    (withoutBlanks config).get? key = filled? config key := by
  ext v
  rw [Dictionary.get?_eq_some_iff, filled?_eq_some_iff, Filled, Dictionary.get?_eq_some_iff]
  unfold withoutBlanks
  rw [List.mem_filter, decide_eq_true_iff]

theorem filled?_withoutBlanks (config : Object) (key : String) :
    filled? (withoutBlanks config) key = filled? config key := by
  rw [filled?, get?_withoutBlanks, filled?, Option.filter_filter]
  simp only [Bool.and_self]

end Values

/-! ## One value -/

namespace FieldType

variable {v : Json}

theorem accepts_text_iff : accepts .text v = true ↔ ∃ s, v = .string s := by
  cases v <;> simp [accepts]

theorem accepts_number_iff :
    accepts .number v = true ↔
      (∃ n, v = .number n) ∨ ∃ s, v = .string s ∧ Text.isNumeral (Text.trim s) = true := by
  cases v <;> simp [accepts]

theorem accepts_choice_iff {options : List String} :
    accepts (.choice options) v = true ↔ ∃ s, v = .string s := by
  cases v <;> simp [accepts]

theorem accepts_reference_iff {entity : String} :
    accepts (.reference entity) v = true ↔
      (∃ s, v = .string s) ∨ ∃ i, v = .number (.integer i) := by
  cases v with
  | number n => cases n <;> simp [accepts]
  | null | bool _ | string _ | array _ | object _ => simp [accepts]

theorem accepts_of_fits {type : FieldType} (fits : type.Fits v) : type.accepts v = true := by
  cases fits with
  | text s => exact accepts_text_iff.mpr ⟨s, rfl⟩
  | number n => exact accepts_number_iff.mpr (.inl ⟨n, rfl⟩)
  | numeral written => exact accepts_number_iff.mpr (.inr ⟨_, rfl, written⟩)
  | choice listed => exact accepts_choice_iff.mpr ⟨_, rfl⟩
  | name entity s => exact accepts_reference_iff.mpr (.inl ⟨s, rfl⟩)
  | serial entity i => exact accepts_reference_iff.mpr (.inr ⟨i, rfl⟩)

end FieldType

namespace FieldSpec

variable {f : FieldSpec} {config : Object} {v : Json} {issue : ConfigIssue}

/-- A value that has the right kind can still be none of the options. -/
theorem valueIssue?_of_accepts (accepted : f.fieldType.accepts v = true) :
    f.valueIssue? v = none ∧ f.fieldType.Fits v ∨
      ∃ options s, f.fieldType = .choice options ∧ v = .string s ∧ s ∉ options ∧
        f.valueIssue? v = some (.notAnOption f.label s) := by
  rcases f with ⟨key, label, type, required, excuse⟩
  unfold valueIssue?
  rw [if_pos accepted]
  dsimp only at accepted ⊢
  cases type with
  | text =>
      rcases FieldType.accepts_text_iff.mp accepted with ⟨s, rfl⟩
      exact .inl ⟨rfl, .text s⟩
  | number =>
      rcases FieldType.accepts_number_iff.mp accepted with ⟨n, rfl⟩ | ⟨s, rfl, written⟩
      · exact .inl ⟨rfl, .number n⟩
      · exact .inl ⟨rfl, .numeral written⟩
  | choice options =>
      rcases FieldType.accepts_choice_iff.mp accepted with ⟨s, rfl⟩
      by_cases listed : s ∈ options
      · exact .inl ⟨if_pos listed, .choice listed⟩
      · exact .inr ⟨options, s, rfl, rfl, listed, if_neg listed⟩
  | reference entity =>
      rcases FieldType.accepts_reference_iff.mp accepted with ⟨s, rfl⟩ | ⟨i, rfl⟩
      · exact .inl ⟨rfl, .name entity s⟩
      · exact .inl ⟨rfl, .serial entity i⟩

theorem valueIssue?_of_refused (refused : f.fieldType.accepts v = false) :
    f.valueIssue? v = some (.wrongType f.label f.fieldType.description) := by
  unfold valueIssue?
  rw [refused]
  rfl

theorem valueIssue?_of_fits (fits : f.fieldType.Fits v) : f.valueIssue? v = none := by
  unfold valueIssue?
  generalize f.fieldType = type at fits ⊢
  cases fits with
  | text s => rfl
  | number n => rfl
  | numeral written => exact if_pos written
  | choice listed => exact if_pos listed
  | name entity s => rfl
  | serial entity i => rfl

/-! ## One field -/

theorem issue?_of_filled (value : Filled config f.key v) :
    f.issue? config = f.valueIssue? v := by
  unfold issue?
  rw [filled?_eq_some_iff.mpr value]

theorem issue?_of_blank (blank : ∀ v, ¬ Filled config f.key v) :
    f.issue? config = if f.isRequired config then some (.missing f.label) else none := by
  unfold issue?
  rw [filled?_eq_none_iff.mpr blank]

theorem isRequired_iff :
    f.isRequired config = true ↔
      f.required = true ∧ ∀ other v, f.excuse = some other → ¬ Filled config other v := by
  unfold isRequired
  rw [Bool.and_eq_true]
  apply and_congr_right
  intro _
  cases f.excuse with
  | none => simp
  | some other =>
      rw [Option.isNone_iff_eq_none, filled?_eq_none_iff]
      constructor
      · intro blank named v same
        obtain rfl := Option.some.inj same
        exact blank v
      · intro unexcused v
        exact unexcused other v rfl

/-- The check of a field finds nothing exactly if the field is met, and otherwise finds what is to
be said of it. -/
theorem met_or_finds (f : FieldSpec) (config : Object) :
    f.issue? config = none ∧ f.Met config ∨
      ∃ issue, f.issue? config = some issue ∧ f.Finds config issue := by
  by_cases blank : ∀ v, ¬ Filled config f.key v
  · rw [issue?_of_blank blank]
    by_cases needed : f.isRequired config = true
    · have ⟨required, unexcused⟩ := isRequired_iff.mp needed
      exact .inr ⟨_, if_pos needed, .missing blank required unexcused⟩
    · refine .inl ⟨if_neg needed, ?_⟩
      by_cases required : f.required = true
      · by_contra unmet
        refine needed (isRequired_iff.mpr ⟨required, fun other v excuse value => ?_⟩)
        exact unmet (.excused blank excuse value)
      · exact .optional blank (Bool.eq_false_iff.mpr required)
  · rcases not_forall_not.mp blank with ⟨v, value⟩
    rw [issue?_of_filled value]
    by_cases accepted : f.fieldType.accepts v = true
    · rcases valueIssue?_of_accepts accepted with
        ⟨none, fits⟩ | ⟨options, s, type, rfl, unlisted, found⟩
      · exact .inl ⟨none, .filled value fits⟩
      · exact .inr ⟨_, found, .notAnOption type value unlisted⟩
    · have refused := Bool.eq_false_iff.mpr accepted
      refine .inr ⟨_, valueIssue?_of_refused refused, .wrongType value ?_ ?_⟩
      · exact fun fits => accepted (FieldType.accepts_of_fits fits)
      · intro options s type text
        rw [type] at accepted
        exact accepted (FieldType.accepts_choice_iff.mpr ⟨s, text⟩)

theorem issue?_of_met (met : f.Met config) : f.issue? config = none := by
  cases met with
  | filled value fits =>
      rw [issue?_of_filled value]
      exact valueIssue?_of_fits fits
  | optional blank optional =>
      rw [issue?_of_blank blank]
      refine if_neg fun needed => ?_
      rw [(isRequired_iff.mp needed).1] at optional
      cases optional
  | excused blank excuse value =>
      rw [issue?_of_blank blank]
      exact if_neg fun needed => (isRequired_iff.mp needed).2 _ _ excuse value

theorem issue?_eq_none_iff : f.issue? config = none ↔ f.Met config := by
  constructor
  · intro none
    rcases met_or_finds f config with ⟨_, met⟩ | ⟨issue, found, _⟩
    · exact met
    · rw [none] at found
      cases found
  · exact issue?_of_met

theorem finds_of_issue? (found : f.issue? config = some issue) : f.Finds config issue := by
  rcases met_or_finds f config with ⟨none, _⟩ | ⟨other, same, finds⟩
  · rw [none] at found
    cases found
  · rw [found] at same
    exact Option.some.inj same ▸ finds

instance (config : Object) : DecidablePred fun f : FieldSpec => f.Met config :=
  fun _ => decidable_of_iff _ issue?_eq_none_iff

/-- A field is checked by what is filled in under its own key and that of its excuse. -/
theorem issue?_congr {other : Object} (own : filled? config f.key = filled? other f.key)
    (excuse : ∀ key, f.excuse = some key → filled? config key = filled? other key) :
    f.issue? config = f.issue? other := by
  have required : f.isRequired config = f.isRequired other := by
    unfold isRequired
    cases named : f.excuse with
    | none => rfl
    | some key =>
        dsimp only
        rw [excuse key named]
  unfold issue?
  rw [own, required]

end FieldSpec

/-! ## All fields -/

namespace NodeSchema

variable {s : NodeSchema} {config : Object}

/-- The keys that the schema speaks of. -/
def keys (s : NodeSchema) : List String := s.fields.flatMap fun f => f.key :: f.excuse.toList

/-- The issues of a config, each with the field that it is about. -/
def findings (s : NodeSchema) (config : Object) : List (FieldSpec × ConfigIssue) :=
  s.fields.filterMap fun f => (f.issue? config).map (f, ·)

theorem map_findings (s : NodeSchema) (config : Object) :
    (s.findings config).map Prod.snd = s.check config := by
  unfold findings check
  rw [List.map_filterMap]
  apply List.filterMap_congr
  intro f _
  cases f.issue? config <;> rfl

theorem check_eq_nil_iff : s.check config = [] ↔ ∀ f ∈ s.fields, f.Met config := by
  unfold check
  rw [List.filterMap_eq_nil_iff]
  exact forall₂_congr fun f _ => FieldSpec.issue?_eq_none_iff

/-- The issues belong to the fields that are not met, one to each. -/
theorem forall₂_check (s : NodeSchema) (config : Object) :
    List.Forall₂ (fun f issue => f.Finds config issue)
      (s.fields.filter fun f => ¬ f.Met config) (s.check config) := by
  unfold check
  induction s.fields with
  | nil => exact .nil
  | cons f rest inductionHypothesis =>
      rcases FieldSpec.met_or_finds f config with ⟨none, met⟩ | ⟨issue, found, finds⟩
      · rw [List.filterMap_cons, none, List.filter_cons_of_neg (by simpa using met)]
        exact inductionHypothesis
      · have unmet : ¬ f.Met config := by
          intro met
          rw [FieldSpec.issue?_of_met met] at found
          cases found
        rw [List.filterMap_cons, found, List.filter_cons_of_pos (by simpa using unmet)]
        exact .cons finds inductionHypothesis

theorem check_congr {other : Object}
    (same : ∀ key ∈ s.keys, filled? config key = filled? other key) :
    s.check config = s.check other := by
  unfold check
  apply List.filterMap_congr
  intro f member
  have spoken : ∀ key ∈ f.key :: f.excuse.toList, filled? config key = filled? other key :=
    fun key inside => same key (List.mem_flatMap.mpr ⟨f, member, inside⟩)
  apply FieldSpec.issue?_congr
  · exact spoken f.key List.mem_cons_self
  · intro key excuse
    exact spoken key (List.mem_cons_of_mem _ (Option.mem_toList.mpr excuse))

/-- A check has one issue for each field that is not met, in the order of the fields, and each says
what is wrong with its field; it has none exactly if every field is met.  It sees neither blank
members nor any that are not under the key of a field or of an excuse. -/
theorem check_finds_unmet_fields (s : NodeSchema) (config : Object) :
    List.Forall₂ (fun f issue => f.Finds config issue)
      (s.fields.filter fun f => ¬ f.Met config) (s.check config) ∧
    s.check (withoutBlanks config) = s.check config ∧
    (∀ other : Object, (∀ key ∈ s.keys, other.get? key = config.get? key) →
      s.check other = s.check config) ∧
    (s.check config = [] ↔ ∀ f ∈ s.fields, f.Met config) := by
  refine ⟨forall₂_check s config, ?_, ?_, check_eq_nil_iff⟩
  · exact check_congr fun key _ => filled?_withoutBlanks config key
  · intro other same
    apply check_congr
    intro key spoken
    rw [filled?, filled?, same key spoken]

/-- An optional template, a subject that is needed without one, and a level. -/
def messageSchema : NodeSchema :=
  ⟨"MESSAGE", .action, "Message",
    [⟨"template", "Template", .reference "template", false, none⟩,
      ⟨"subject", "Subject", .text, true, some "template"⟩,
      ⟨"level", "Level", .choice ["LOW", "HIGH"], false, none⟩]⟩

/-- A subject of blanks is missing, with or without it, and a note that no field asks for changes
nothing. -/
theorem check_finds_unmet_fields_message :
    let config : Object := .ofList [("level", .string "MIDDLE"), ("subject", .string "  ")]
    let other : Object := config.insert "note" (.bool true)
    (∀ key ∈ messageSchema.keys, other.get? key = config.get? key) ∧
      messageSchema.check config = [.missing "Subject", .notAnOption "Level" "MIDDLE"] ∧
      messageSchema.check other = messageSchema.check config ∧
      messageSchema.check (withoutBlanks config) = messageSchema.check config := by
  intro config other
  have same : ∀ key ∈ messageSchema.keys, other.get? key = config.get? key := by
    intro key spoken
    rw [Dictionary.get?_insert]
    refine if_neg fun named => ?_
    rw [named] at spoken
    exact absurd spoken (by decide)
  have ⟨_, blanks, others, _⟩ := check_finds_unmet_fields messageSchema config
  exact ⟨same, by decide, others other same, blanks⟩

/-! ## Filling in a field -/

/-- Filling in the field settles its own issue, and that of a field which it excuses and which is
missing. -/
def Settles (f : FieldSpec) (finding : FieldSpec × ConfigIssue) : Prop :=
  finding.1 = f ∨ (finding.1.excuse = some f.key ∧ finding.2 = .missing finding.1.label)

instance (f : FieldSpec) : DecidablePred (Settles f) := fun _ => inferInstanceAs (Decidable (_ ∨ _))

variable {f g : FieldSpec} {v : Json}

/-- What a field comes to when one with another key is filled in: it can only be excused. -/
theorem issue?_insert (present : ¬ v.Blank) (different : g.key ≠ f.key) :
    g.issue? (config.insert f.key v) =
      (g.issue? config).filter fun issue => ¬ Settles f (g, issue) := by
  have own : filled? (config.insert f.key v) g.key = filled? config g.key := by
    rw [filled?_insert present, if_neg different]
  by_cases freed : g.excuse = some f.key ∧ ∀ w, ¬ Filled config g.key w
  · rcases freed with ⟨excuse, blank⟩
    have met : g.Met (config.insert f.key v) := by
      refine .excused (v := v) ?_ excuse ?_
      · rw [← filled?_eq_none_iff, own]
        exact filled?_eq_none_iff.mpr blank
      · rw [← filled?_eq_some_iff, filled?_insert present, if_pos rfl]
    rw [FieldSpec.issue?_of_met met, eq_comm, Option.filter_eq_none_iff]
    intro issue found
    cases FieldSpec.finds_of_issue? found with
    | missing => simp [Settles, excuse]
    | wrongType value | notAnOption _ value => exact absurd value (blank _)
  · have unchanged : g.issue? (config.insert f.key v) = g.issue? config := by
      by_cases blank : ∀ w, ¬ Filled config g.key w
      · refine FieldSpec.issue?_congr own fun key named => ?_
        rw [filled?_insert present]
        refine if_neg fun same => freed ⟨?_, blank⟩
        rw [named, same]
      · rcases not_forall_not.mp blank with ⟨w, value⟩
        have after : Filled (config.insert f.key v) g.key w := by
          rw [← filled?_eq_some_iff, own]
          exact filled?_eq_some_iff.mpr value
        rw [FieldSpec.issue?_of_filled value, FieldSpec.issue?_of_filled after]
    have kept : ∀ issue, g.issue? config = some issue → ¬ Settles f (g, issue) := by
      rintro issue found (same | ⟨excuse, missing⟩)
      · exact different (congrArg FieldSpec.key same)
      · cases FieldSpec.finds_of_issue? found with
        | missing blank => exact freed ⟨excuse, blank⟩
        | wrongType | notAnOption => cases missing
    rw [unchanged]
    cases found : g.issue? config with
    | none => rfl
    | some issue => rw [Option.filter_some, if_pos (decide_eq_true (kept issue found))]

/-- Where each field has a key of its own, a field that is filled in as it should be settles what it
settles, and every other finding stays, in the same order.  So the issues that are left are those
from before but for its own and those of the fields that were missing and that it excuses. -/
theorem check_after_filling (s : NodeSchema) (config : Object) {f : FieldSpec} {v : Json}
    (distinct : (s.fields.map FieldSpec.key).Nodup) (declared : f ∈ s.fields)
    (present : ¬ v.Blank) (fits : f.fieldType.Fits v) :
    s.check config = (s.findings config).map Prod.snd ∧
      s.check (config.insert f.key v) =
        ((s.findings config).filter fun finding => ¬ Settles f finding).map Prod.snd := by
  refine ⟨(map_findings s config).symm, ?_⟩
  rw [← map_findings]
  apply congrArg (List.map Prod.snd)
  unfold findings
  rw [List.filter_filterMap]
  apply List.filterMap_congr
  intro g member
  rw [Option.filter_map]
  apply congrArg (Option.map (g, ·))
  by_cases same : g = f
  · subst same
    have value : Filled (config.insert g.key v) g.key v := by
      rw [← filled?_eq_some_iff, filled?_insert present, if_pos rfl]
    rw [FieldSpec.issue?_of_met (.filled value fits), eq_comm, Option.filter_eq_none_iff]
    intro issue _
    simp [Settles]
  · exact issue?_insert present fun keys =>
      same (List.inj_on_of_nodup_map distinct member declared keys)

/-- A template settles that there is no subject, and leaves the level as wrong as it was. -/
theorem check_after_filling_message :
    let template : FieldSpec := ⟨"template", "Template", .reference "template", false, none⟩
    let config : Object := .ofList [("level", .string "MIDDLE")]
    (messageSchema.fields.map FieldSpec.key).Nodup ∧ template ∈ messageSchema.fields ∧
      ¬ (Json.ofNat 7).Blank ∧ template.fieldType.Fits (Json.ofNat 7) ∧
      messageSchema.check config = [.missing "Subject", .notAnOption "Level" "MIDDLE"] ∧
      messageSchema.check (config.insert "template" (.ofNat 7)) =
        [.notAnOption "Level" "MIDDLE"] := by
  intro template config
  have distinct : (messageSchema.fields.map FieldSpec.key).Nodup := by decide
  have declared : template ∈ messageSchema.fields := List.mem_cons_self
  have present : ¬ (Json.ofNat 7).Blank := by
    intro blank
    cases blank
  have fits : template.fieldType.Fits (Json.ofNat 7) := .serial "template" 7
  have ⟨_, after⟩ := check_after_filling messageSchema config distinct declared present fits
  refine ⟨distinct, declared, present, fits, by decide, ?_⟩
  rw [after]
  decide

end NodeSchema

end Workflow
