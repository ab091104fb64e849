import Mathlib.Data.List.Perm.Basic
import SchemaChecks.Proofs.Depth
import SchemaChecks.Proofs.WellFormed

/-!
Validators against the list of all that is wrong with an instance. A validator stops at the first
element of that list, so neither the order of fields and checks nor the kind of the instance matters
for what it accepts.
-/

namespace SchemaChecks

def firstOf {ε α : Type} : List (Except ε α) → Except ε (Option α)
  | [] => .ok none
  | .ok a :: _ => .ok (some a)
  | .error e :: _ => .error e

section first

variable {ε α β : Type}

theorem firstOf_eq_none {l : List (Except ε α)} : firstOf l = .ok none ↔ l = [] := by
  cases l with
  | nil => exact ⟨fun _ => rfl, fun _ => rfl⟩
  | cons x rest =>
    constructor
    · intro h
      cases x <;> cases h
    · intro h
      cases h

theorem firstOf_append (l more : List (Except ε α)) :
    firstOf (l ++ more) = match firstOf l with
      | .ok none => firstOf more
      | answer => answer := by
  cases l with
  | nil => rfl
  | cons x rest => cases x <;> rfl

theorem firstOf_map (g : α → β) (l : List (Except ε α)) :
    firstOf (l.map (Except.map g)) = (firstOf l).map (Option.map g) := by
  cases l with
  | nil => rfl
  | cons x rest => cases x <;> rfl

end first

namespace Check

/-- What a check reports of a value if its pattern is compiled for the purpose: a violation, or that
there is no answer. -/
def reported? (value : Datum) (c : Check) : Option (Except (Failure Pattern.Error) Violation) :=
  match c.violation? value with
  | .ok none => none
  | .ok (some v) => some (.ok v)
  | .error e => some (.error e)

theorem violation_of_ready {c : Check} {r : Ready} (h : c.ready = .ok r) (value : Datum) :
    c.violation? value = (r.violation? value).mapError .fault := by
  rw [violation?, h]

end Check

namespace FieldChecks

def reports (f : FieldChecks) (value : Datum) : List (Except (Failure Pattern.Error) Violation) :=
  if value.isNull then (if f.nullable then [] else [.ok .null])
  else
    match f.type.violation? value with
    | some v => [.ok v]
    | none => f.checks.filterMap (Check.reported? value)

structure SameChecks (f g : FieldChecks) : Prop where
  name : f.name = g.name
  type : f.type = g.type
  nullable : f.nullable = g.nullable
  checks : f.checks.Perm g.checks

theorem SameChecks.reports {f g : FieldChecks} (h : SameChecks f g) (value : Datum) :
    (f.reports value).Perm (g.reports value) := by
  unfold FieldChecks.reports
  rw [h.type, h.nullable]
  split
  · exact .refl _
  · split
    · exact .refl _
    · exact h.checks.filterMap _

end FieldChecks

namespace FieldValidator

variable {cs : List Check} {rs : List Check.Ready} {value : Datum}

/-- The checks of a field stop at the first report. -/
theorem firstViolation_eq_firstOf (h : readyAll cs = .ok rs) :
    (firstViolation? value rs).mapError .fault =
      firstOf (cs.filterMap (Check.reported? value)) := by
  induction cs generalizing rs with
  | nil =>
    cases h
    rfl
  | cons c rest ih =>
    unfold readyAll at h
    split at h
    · cases h
    · rename_i r hr
      obtain ⟨more, hmore, rfl⟩ := exists_of_map_eq_ok h
      have reported := Check.violation_of_ready hr value
      rw [firstViolation?, List.filterMap_cons, Check.reported?, reported]
      cases r.violation? value with
      | error e => rfl
      | ok answer =>
        cases answer with
        | none => exact ih hmore
        | some v => rfl

theorem violation_eq_firstOf {v : FieldValidator} (h : readyAll v.field.checks = .ok v.checks) :
    (v.violation? value).mapError .fault = firstOf (v.field.reports value) := by
  unfold violation? FieldChecks.reports
  split
  · cases v.field.nullable <;> rfl
  · cases v.field.type.violation? value with
    | some wrong => rfl
    | none => exact firstViolation_eq_firstOf h

end FieldValidator

namespace Validator

def reports (fields : List FieldChecks) (subject : Datum) :
    List (Except (Failure Pattern.Error) Rejection) :=
  fields.flatMap fun f => (f.reports (subject.read f.name)).map (Except.map (⟨f.name, ·⟩))

variable {fields : List FieldChecks} {vs : List FieldValidator} {subject : Datum}

theorem field_of_ofChecks {f : FieldChecks} {v : FieldValidator}
    (h : FieldValidator.ofChecks f = .ok v) :
    v.field = f ∧ FieldValidator.readyAll v.field.checks = .ok v.checks := by
  obtain ⟨rs, hrs, rfl⟩ := exists_of_map_eq_ok h
  exact ⟨rfl, hrs⟩

/-- The fields of a validator stop at the first report. -/
theorem firstRejection_eq_firstOf (h : compileFields fields = .ok vs) :
    (firstRejection? subject vs).mapError .fault = firstOf (reports fields subject) := by
  induction fields generalizing vs with
  | nil =>
    cases h
    rfl
  | cons f rest ih =>
    unfold compileFields at h
    split at h
    · cases h
    · rename_i v hv
      obtain ⟨more, hmore, rfl⟩ := exists_of_map_eq_ok h
      obtain ⟨rfl, ready⟩ := field_of_ofChecks hv
      have here := @FieldValidator.violation_eq_firstOf (subject.read v.field.name) v ready
      rw [firstRejection?, reports, List.flatMap_cons, firstOf_append, firstOf_map, ← here]
      cases v.violation? (subject.read v.field.name) with
      | error e => rfl
      | ok answer =>
        cases answer with
        | none => exact ih hmore
        | some wrong => rfl

def Reordered (fields others : List FieldChecks) : Prop :=
  ∃ between, List.Forall₂ FieldChecks.SameChecks fields between ∧ between.Perm others

theorem reports_reordered {others : List FieldChecks} (h : Reordered fields others)
    (subject : Datum) : (reports fields subject).Perm (reports others subject) := by
  obtain ⟨between, same, perm⟩ := h
  have within : (reports fields subject).Perm (reports between subject) := by
    clear perm
    induction same with
    | nil => exact .refl _
    | cons first _ ih =>
      rw [reports, reports, List.flatMap_cons, List.flatMap_cons, first.name]
      exact ((first.reports _).map _).append ih
  exact within.trans (perm.flatMap_right _)

theorem readyAll_ok_iff {cs : List Check} :
    (∃ rs, FieldValidator.readyAll cs = .ok rs) ↔ ∀ c ∈ cs, ∃ r, c.ready = .ok r := by
  induction cs with
  | nil => simp [FieldValidator.readyAll]
  | cons c rest ih =>
    rw [List.forall_mem_cons, ← ih, FieldValidator.readyAll]
    cases c.ready with
    | error e => simp
    | ok r =>
      cases FieldValidator.readyAll rest with
      | error e => simp [Except.map]
      | ok rs => simp [Except.map]

theorem compileFields_ok_iff :
    (∃ vs, compileFields fields = .ok vs) ↔
      ∀ f ∈ fields, ∀ c ∈ f.checks, ∃ r, c.ready = .ok r := by
  induction fields with
  | nil => simp [compileFields]
  | cons f rest ih =>
    rw [List.forall_mem_cons, ← ih, ← readyAll_ok_iff, compileFields, FieldValidator.ofChecks]
    cases FieldValidator.readyAll f.checks with
    | error e => simp [Except.map]
    | ok rs =>
      cases compileFields rest with
      | error e => simp [Except.map]
      | ok vs => simp [Except.map]

theorem ready_reordered {others : List FieldChecks} (h : Reordered fields others)
    (ready : ∀ f ∈ fields, ∀ c ∈ f.checks, ∃ r, c.ready = .ok r) :
    ∀ f ∈ others, ∀ c ∈ f.checks, ∃ r, c.ready = .ok r := by
  obtain ⟨between, same, perm⟩ := h
  intro f hf c hc
  obtain ⟨g, hg, alike⟩ := exists_of_forall₂ same.flip (perm.mem_iff.mpr hf)
  exact ready g hg c (alike.checks.mem_iff.mpr hc)

/-- A validator with nothing to report accepts, and it accepts nothing else. -/
theorem accepts_iff {schema : String} {v : Validator} (h : ofFields schema fields = .ok v)
    (subject : Datum) : v.rejection? subject = .ok none ↔ reports fields subject = [] := by
  obtain ⟨vs, hvs, rfl⟩ := exists_of_map_eq_ok h
  rw [← firstOf_eq_none, ← firstRejection_eq_firstOf hvs, rejection?]
  cases firstRejection? subject vs with
  | error e =>
    constructor
    · intro none_
      cases none_
    · intro none_
      cases none_
  | ok answer =>
    constructor
    · intro none_
      rw [none_]
      rfl
    · intro none_
      cases none_
      rfl

end Validator

namespace Check

inductive Suits : BaseType → Check → Prop
  | length (b : Bounds) : Suits .string (.length b)
  | pattern (regex : String) : Suits .string (.pattern regex)
  | range (b : Bounds) : Suits .integer (.range b)
  | minItems (n : Int) : Suits .array (.minItems n)

theorem fits_of_suits {t : BaseType} {c : Check} (suits : Suits t c)
    (ready : ∃ r, c.ready = .ok r) : Fits t c := by
  cases suits with
  | length b => exact .length b
  | pattern regex =>
    obtain ⟨r, hr⟩ := ready
    obtain ⟨q, hq, -⟩ := exists_of_map_eq_ok hr
    exact .pattern hq
  | range b => exact .range b
  | minItems n => exact .minItems n

/-- On a value of its type a check reports a violation, unless the violation's numbers are too long
to be told. -/
theorem reported_of_fits {t : BaseType} {c : Check} {value : Datum}
    {report : Except (Failure Pattern.Error) Violation} (fits : Fits t c)
    (typed : t.admits value = true) (h : c.reported? value = some report) :
    (∃ v, report = .ok v) ∨
      (report = .error (.fault (.scalar .tooManyDigitsToWrite)) ∧ c.isPrintable = false) := by
  obtain ⟨r, hr⟩ := ready_of_fits fits
  rw [reported?, violation_of_ready hr, ready_violation fits hr typed] at h
  cases hb : c.breach? value with
  | none =>
    rw [hb] at h
    cases h
  | some v =>
    have same := breach_isPrintable hb
    cases hp : v.isPrintable with
    | true =>
      rw [hb, Violation.told, hp] at h
      cases h
      exact .inl ⟨v, rfl⟩
    | false =>
      rw [hb, Violation.told, hp] at h
      cases h
      exact .inr ⟨rfl, same.symm.trans hp⟩

end Check

theorem FieldChecks.reports_of_fits {f : FieldChecks} {value : Datum}
    {report : Except (Failure Pattern.Error) Violation} (fits : f.Fits)
    (h : report ∈ f.reports value) :
    (∃ v, report = .ok v) ∨ (report = .error (.fault (.scalar .tooManyDigitsToWrite)) ∧
      ∃ c ∈ f.checks, c.isPrintable = false) := by
  unfold FieldChecks.reports at h
  split at h
  · split at h
    · cases h
    · exact .inl ⟨.null, List.mem_singleton.mp h⟩
  · unfold BaseType.violation? at h
    cases typed : f.type.admits value with
    | false =>
      rw [typed] at h
      exact .inl ⟨.wrongType f.type, List.mem_singleton.mp h⟩
    | true =>
      rw [typed] at h
      obtain ⟨c, hc, reported⟩ := List.mem_filterMap.mp h
      rcases Check.reported_of_fits (fits c hc) typed reported with told | ⟨fault, long⟩
      · exact .inl told
      · exact .inr ⟨fault, c, hc, long⟩

namespace Validator

variable {fields : List FieldChecks}

/-- Checks that suit the types of their fields report rejections, unless one has numbers that are
too long to be told. -/
theorem reports_of_suits (suits : ∀ f ∈ fields, ∀ c ∈ f.checks, Check.Suits f.type c)
    (ready : ∀ f ∈ fields, ∀ c ∈ f.checks, ∃ r, c.ready = .ok r) (subject : Datum) :
    ∀ report ∈ reports fields subject, (∃ r, report = .ok r) ∨
      (report = .error (.fault (.scalar .tooManyDigitsToWrite)) ∧
        ∃ f ∈ fields, ∃ c ∈ f.checks, c.isPrintable = false) := by
  intro report hr
  obtain ⟨f, hf, hr⟩ := List.mem_flatMap.mp hr
  obtain ⟨inner, hinner, rfl⟩ := List.mem_map.mp hr
  have fits : f.Fits := fun c hc => Check.fits_of_suits (suits f hf c hc) (ready f hf c hc)
  rcases FieldChecks.reports_of_fits fits hinner with ⟨v, rfl⟩ | ⟨rfl, c, hc, long⟩
  · exact .inl ⟨⟨f.name, v⟩, rfl⟩
  · exact .inr ⟨rfl, f, hf, c, hc, long⟩

theorem fields_of_compile {vs : List FieldValidator} (h : compileFields fields = .ok vs) :
    vs.map FieldValidator.field = fields := by
  induction fields generalizing vs with
  | nil =>
    cases h
    rfl
  | cons f rest ih =>
    unfold compileFields at h
    split at h
    · cases h
    · rename_i v hv
      obtain ⟨more, hmore, rfl⟩ := exists_of_map_eq_ok h
      rw [List.map_cons, (field_of_ofChecks hv).1, ih hmore]

/-- What a validator does with an instance. It raises the first of all reports, field by field and
check by check, and accepts what has none; where the checks suit the types of their fields, a report
is a violation unless its numbers are too long to be told. Validators of the same fields and checks
in another order accept the same instances, and instances of which every field reads the same value
are treated the same, whether they are dictionaries or objects. -/
theorem raises_first_report {schema : String} {v : Validator}
    (hv : ofFields schema fields = .ok v) :
    (∀ subject, (v.rejection? subject).mapError .fault = firstOf (reports fields subject) ∧
      (v.rejection? subject = .ok none ↔ reports fields subject = [])) ∧
    ((∀ f ∈ fields, ∀ c ∈ f.checks, Check.Suits f.type c) → ∀ subject,
      ∀ report ∈ reports fields subject, (∃ r, report = .ok r) ∨
        (report = .error (.fault (.scalar .tooManyDigitsToWrite)) ∧
          ∃ f ∈ fields, ∃ c ∈ f.checks, c.isPrintable = false)) ∧
    (∀ others, Reordered fields others → ∀ name, ∃ w, ofFields name others = .ok w ∧
      ∀ subject, w.rejection? subject = .ok none ↔ v.rejection? subject = .ok none) ∧
    (∀ x y : Datum, (∀ f ∈ fields, Datum.Alike (x.read f.name) (y.read f.name)) →
      v.rejection? x = v.rejection? y) := by
  obtain ⟨vs, hvs, rfl⟩ := exists_of_map_eq_ok hv
  have ready := compileFields_ok_iff.mp ⟨vs, hvs⟩
  refine ⟨?_, ?_, ?_, ?_⟩
  · intro subject
    exact ⟨firstRejection_eq_firstOf hvs, accepts_iff hv subject⟩
  · intro suits subject
    exact reports_of_suits suits ready subject
  · intro others reordered name
    obtain ⟨ws, hws⟩ := compileFields_ok_iff.mpr (ready_reordered reordered ready)
    have hw : ofFields name others = .ok ⟨name, ws⟩ := by
      rw [ofFields, hws]
      rfl
    refine ⟨⟨name, ws⟩, hw, fun subject => ?_⟩
    rw [accepts_iff hw, accepts_iff hv]
    have perm := reports_reordered reordered subject
    constructor
    · intro none_
      exact List.perm_nil.mp (none_ ▸ perm)
    · intro none_
      exact List.nil_perm.mp (none_ ▸ perm)
  · intro x y alike
    refine firstRejection_of_alike fun f hf => ?_
    have member : f.field ∈ fields := fields_of_compile hvs ▸ List.mem_map_of_mem hf
    exact alike f.field member

end Validator

namespace Sample

def orderFields : List FieldChecks :=
  [⟨"code", .string, false, [.length ⟨some 2, none⟩, .length ⟨none, some 4⟩]⟩,
    ⟨"size", .integer, true, [.range ⟨some 1, some 5⟩]⟩,
    ⟨"code", .string, true, [.length ⟨some 1, some 3⟩]⟩]

def longOrder : Datum :=
  .dict [(.text "code", .atom (.text "abcde")), (.text "size", .atom (.int 9))]

def longOrderObject : Datum :=
  .object [("size", .atom (.int 9)), ("code", .atom (.text "abcde"))]

/-- The validator of the sample raises the first of three reports, for the object as well, and one
of the same fields backwards accepts the same instances. -/
theorem orderFields_reports :
    ∃ v, Validator.ofFields "Order" orderFields = .ok v ∧
      (Validator.reports orderFields longOrder).length = 3 ∧
      (v.rejection? longOrder).mapError .fault =
        (.ok (some ⟨"code", .length ⟨none, some 4⟩⟩) : Except (Failure Pattern.Error) _) ∧
      v.rejection? longOrder = v.rejection? longOrderObject ∧
      ∃ w, Validator.ofFields "Order" orderFields.reverse = .ok w ∧
        ∀ subject, w.rejection? subject = .ok none ↔ v.rejection? subject = .ok none := by
  have fits : ∀ f ∈ orderFields, f.Fits := by
    intro f hf c hc
    simp only [orderFields, List.mem_cons, List.not_mem_nil, or_false] at hf
    rcases hf with rfl | rfl | rfl
    · simp only [List.mem_cons, List.not_mem_nil, or_false] at hc
      rcases hc with rfl | rfl <;> exact .length _
    · exact List.mem_singleton.mp hc ▸ .range _
    · exact List.mem_singleton.mp hc ▸ .length _
  obtain ⟨v, hv, -⟩ := Validator.ofFields_of_fits "Order" fits
  obtain ⟨raises, -, reordered, alike⟩ := Validator.raises_first_report hv
  have same : ∀ f : FieldChecks, f.SameChecks f := fun _ => ⟨rfl, rfl, rfl, .refl _⟩
  have backwards : Validator.Reordered orderFields orderFields.reverse :=
    ⟨orderFields, List.forall₂_same.mpr fun f _ => same f, (List.reverse_perm _).symm⟩
  refine ⟨v, hv, by decide +kernel, (raises longOrder).1.trans (by decide +kernel), ?_,
    reordered _ backwards "Order"⟩
  apply alike
  intro f hf
  simp only [orderFields, List.mem_cons, List.not_mem_nil, or_false] at hf
  rcases hf with rfl | rfl | rfl <;> exact .refl _

end Sample

end SchemaChecks
