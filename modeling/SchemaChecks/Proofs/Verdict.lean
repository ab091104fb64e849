import Mathlib.Data.List.Forall2
import SchemaChecks.Validator

/-!
What a validator says. Every check that fits the type of its field has at most one violation by a
value of that type; the verdict on an instance is the first of all violations, told if its numbers
have texts.
-/

namespace SchemaChecks

theorem toOption_eq_some_iff {ε α : Type} {x : Except ε α} {a : α} :
    x.toOption = some a ↔ x = .ok a := by
  cases x <;> simp [Except.toOption]

theorem exists_of_map_eq_ok {ε α β : Type} {f : α → β} {x : Except ε α} {b : β}
    (h : x.map f = .ok b) : ∃ a, x = .ok a ∧ f a = b := by
  cases x with
  | error e => cases h
  | ok a => exact ⟨a, rfl, Except.ok.inj h⟩

theorem exists_of_bind_eq_ok {ε α β : Type} {f : α → Except ε β} {x : Except ε α} {b : β}
    (h : x.bind f = .ok b) : ∃ a, x = .ok a ∧ f a = .ok b := by
  cases x with
  | error e => cases h
  | ok a => exact ⟨a, rfl, h⟩

theorem exists_ok_map {ε α β : Type} {f : α → β} {x : Except ε α} :
    (∃ b, x.map f = .ok b) ↔ ∃ a, x = .ok a := by
  cases x <;> simp [Except.map]

/-- Two results are joined if there are both, -/
theorem exists_ok_join {ε α β γ : Type} {f : α → β → γ} {x : Except ε α} {y : Except ε β} :
    (∃ c, (x.bind fun a => y.map (f a)) = .ok c) ↔ (∃ a, x = .ok a) ∧ ∃ b, y = .ok b := by
  cases x <;> cases y <;> simp [Except.bind, Except.map]

theorem exists_of_forall₂ {α β : Type} {R : α → β → Prop} {as : List α} {bs : List β}
    (h : List.Forall₂ R as bs) {a : α} (ha : a ∈ as) : ∃ b ∈ bs, R a b := by
  induction h with
  | nil => cases ha
  | cons first _ ih =>
    rcases List.mem_cons.mp ha with rfl | ha
    · exact ⟨_, List.mem_cons_self, first⟩
    · obtain ⟨b, hb, related⟩ := ih ha
      exact ⟨b, List.mem_cons_of_mem _ hb, related⟩

theorem map_eq_of_forall₂ {α β γ : Type} {R : α → β → Prop} {as : List α} {bs : List β}
    (h : List.Forall₂ R as bs) {f : α → γ} {g : β → γ} (same : ∀ a b, R a b → g b = f a) :
    bs.map g = as.map f := by
  induction h with
  | nil => rfl
  | cons first _ ih => rw [List.map_cons, List.map_cons, same _ _ first, ih]

namespace BaseType

theorem admits_string {value : Datum} :
    BaseType.string.admits value = true ↔ ∃ s, value = .atom (.text s) := by
  constructor
  · intro h
    unfold admits at h
    split at h <;> simp_all
  · rintro ⟨s, rfl⟩; rfl

theorem admits_integer {value : Datum} :
    BaseType.integer.admits value = true ↔ ∃ n, value = .atom (.int n) := by
  constructor
  · intro h
    unfold admits at h
    split at h <;> simp_all
  · rintro ⟨n, rfl⟩; rfl

theorem admits_array {value : Datum} :
    BaseType.array.admits value = true ↔ ∃ kind parts, value = .array kind parts := by
  constructor
  · intro h
    unfold admits at h
    split at h <;> simp_all
  · rintro ⟨kind, parts, rfl⟩; rfl

end BaseType

namespace Violation

def isPrintable (v : Violation) : Bool := v.numbers.all Atom.intIsPrintable

def told : Option Violation → Except Fault (Option Violation)
  | none => .ok none
  | some v => if v.isPrintable then .ok (some v) else .error (.scalar .tooManyDigitsToWrite)

end Violation

namespace Check

inductive Fits : BaseType → Check → Prop where
  | length (b : Bounds) : Fits .string (.length b)
  | pattern {regex : String} {q : Pattern.Compiled} (h : Pattern.compile regex = .ok q) :
    Fits .string (.pattern regex)
  | range (b : Bounds) : Fits .integer (.range b)
  | minItems (n : Int) : Fits .array (.minItems n)

def accepts (regex text : String) : Bool :=
  match Pattern.compile regex with
  | .ok q => q.matchesAll text
  | .error _ => false

/-- The violation of a check by a value of the type that the check is for. -/
def breach? : Check → Datum → Option Violation
  | .length b, .atom (.text s) => if b.contains s.length then none else some (.length b)
  | .pattern regex, .atom (.text s) => if accepts regex s then none else some (.noMatch regex)
  | .range b, .atom (.int n) => if b.contains n then none else some (.range b)
  | .minItems n, .array _ items => if n ≤ items.length then none else some (.tooFewItems n)
  | _, _ => none

theorem ready_of_fits {t : BaseType} {c : Check} (h : Fits t c) : ∃ r, c.ready = .ok r := by
  cases h with
  | pattern hq => exact ⟨_, by rw [ready, hq]; rfl⟩
  | length b => exact ⟨_, rfl⟩
  | range b => exact ⟨_, rfl⟩
  | minItems n => exact ⟨_, rfl⟩

theorem report_eq_told (v : Violation) : report v = Violation.told (some v) := rfl

/-- A check that is ready tells its violation by any value of its type. -/
theorem ready_violation {t : BaseType} {c : Check} {r : Ready} {value : Datum} (h : Fits t c)
    (hr : c.ready = .ok r) (hv : t.admits value = true) :
    r.violation? value = Violation.told (c.breach? value) := by
  cases h with
  | length b =>
    cases hr
    obtain ⟨s, rfl⟩ := BaseType.admits_string.mp hv
    by_cases hb : b.contains s.length <;>
      simp [Ready.violation?, lengthOf, Datum.length?, Except.bind, breach?, hb, report_eq_told,
        Violation.told]
  | @pattern regex q hq =>
    rw [ready, hq] at hr
    cases hr
    obtain ⟨s, rfl⟩ := BaseType.admits_string.mp hv
    by_cases hm : q.matchesAll s <;>
      simp [Ready.violation?, patternViolation, breach?, accepts, hq, hm, report_eq_told,
        Violation.told]
  | range b =>
    cases hr
    obtain ⟨n, rfl⟩ := BaseType.admits_integer.mp hv
    by_cases hb : b.contains n <;>
      simp [Ready.violation?, rangeViolation, breach?, hb, report_eq_told, Violation.told]
  | minItems n =>
    cases hr
    obtain ⟨kind, parts, rfl⟩ := BaseType.admits_array.mp hv
    by_cases hn : n ≤ parts.length <;>
      simp [Ready.violation?, lengthOf, Datum.length?, Except.bind, breach?, hn, report_eq_told,
        Violation.told]

end Check

namespace FieldChecks

def Fits (f : FieldChecks) : Prop := ∀ c ∈ f.checks, Check.Fits f.type c

def breaches (f : FieldChecks) (value : Datum) : List Violation :=
  if value.isNull then (if f.nullable then [] else [.null])
  else if f.type.admits value then f.checks.filterMap (·.breach? value)
  else [.wrongType f.type]

end FieldChecks

namespace FieldValidator

variable {t : BaseType} {cs : List Check} {rs : List Check.Ready}

theorem readyAll_of_fits (h : ∀ c ∈ cs, Check.Fits t c) : ∃ rs, readyAll cs = .ok rs := by
  induction cs with
  | nil => exact ⟨[], rfl⟩
  | cons c rest ih =>
    obtain ⟨r, hr⟩ := Check.ready_of_fits (h c List.mem_cons_self)
    obtain ⟨rs, hrs⟩ := ih fun d hd => h d (List.mem_cons_of_mem _ hd)
    exact ⟨r :: rs, by simp [readyAll, hr, hrs, Except.map]⟩

theorem firstViolation_eq_told {value : Datum} (h : ∀ c ∈ cs, Check.Fits t c)
    (hr : readyAll cs = .ok rs) (hv : t.admits value = true) :
    firstViolation? value rs = Violation.told (cs.filterMap (·.breach? value)).head? := by
  induction cs generalizing rs with
  | nil => cases hr; rfl
  | cons c rest ih =>
    have hc := h c List.mem_cons_self
    obtain ⟨r, hready⟩ := Check.ready_of_fits hc
    simp only [readyAll, hready] at hr
    obtain ⟨tail, hrest, rfl⟩ := exists_of_map_eq_ok hr
    have hi := ih (fun d hd => h d (List.mem_cons_of_mem _ hd)) hrest
    rw [firstViolation?, Check.ready_violation hc hready hv]
    cases hb : c.breach? value with
    | none => simpa [Violation.told, hb] using hi
    | some v => cases hp : v.isPrintable <;> simp [Violation.told, hb, hp]

theorem ofChecks_of_fits {f : FieldChecks} (h : f.Fits) :
    ∃ v, ofChecks f = .ok v ∧ v.field = f ∧ readyAll f.checks = .ok v.checks := by
  obtain ⟨rs, hrs⟩ := readyAll_of_fits h
  exact ⟨⟨f, rs⟩, by simp [ofChecks, hrs, Except.map], rfl, hrs⟩

theorem violation_eq_told {v : FieldValidator} {value : Datum} (h : v.field.Fits)
    (hr : readyAll v.field.checks = .ok v.checks) :
    v.violation? value = Violation.told (v.field.breaches value).head? := by
  unfold violation? FieldChecks.breaches
  cases hn : value.isNull with
  | true => cases hu : v.field.nullable <;> rfl
  | false =>
    cases ha : v.field.type.admits value with
    | true => simpa [BaseType.violation?, ha] using firstViolation_eq_told h hr ha
    | false => simp [BaseType.violation?, ha]; rfl

end FieldValidator

namespace Rejection

def isPrintable (r : Rejection) : Bool := r.violation.isPrintable

/-- A rejection as a validator gives it; numbers without texts cannot be told. -/
def told : Option Rejection → Except Fault (Option Rejection)
  | none => .ok none
  | some r => if r.isPrintable then .ok (some r) else .error (.scalar .tooManyDigitsToWrite)

end Rejection

namespace Validator

def rejections (fields : List FieldChecks) (subject : Datum) : List Rejection :=
  fields.flatMap fun f => (f.breaches (subject.read f.name)).map (⟨f.name, ·⟩)

theorem rejections_cons (f : FieldChecks) (rest : List FieldChecks) (subject : Datum) :
    rejections (f :: rest) subject =
      (f.breaches (subject.read f.name)).map (⟨f.name, ·⟩) ++ rejections rest subject := rfl

variable {fields : List FieldChecks} {vs : List FieldValidator}

theorem compileFields_of_fits (h : ∀ f ∈ fields, f.Fits) : ∃ vs, compileFields fields = .ok vs := by
  induction fields with
  | nil => exact ⟨[], rfl⟩
  | cons f rest ih =>
    obtain ⟨v, hv, _⟩ := FieldValidator.ofChecks_of_fits (h f List.mem_cons_self)
    obtain ⟨vs, hvs⟩ := ih fun g hg => h g (List.mem_cons_of_mem _ hg)
    exact ⟨v :: vs, by simp [compileFields, hv, hvs, Except.map]⟩

theorem firstRejection_eq_told (h : ∀ f ∈ fields, f.Fits) (hc : compileFields fields = .ok vs)
    (subject : Datum) :
    firstRejection? subject vs = Rejection.told (rejections fields subject).head? := by
  induction fields generalizing vs with
  | nil => cases hc; rfl
  | cons f rest ih =>
    obtain ⟨v, hv, rfl, hready⟩ := FieldValidator.ofChecks_of_fits (h f List.mem_cons_self)
    simp only [compileFields, hv] at hc
    obtain ⟨tail, hrest, rfl⟩ := exists_of_map_eq_ok hc
    have hi := ih (fun g hg => h g (List.mem_cons_of_mem _ hg)) hrest
    rw [firstRejection?, FieldValidator.violation_eq_told (h _ List.mem_cons_self) hready,
      rejections_cons]
    cases hb : v.field.breaches (subject.read v.field.name) with
    | nil => simpa [Violation.told] using hi
    | cons b more =>
      cases hp : b.isPrintable <;>
        simp [Violation.told, Rejection.told, Rejection.isPrintable, hp]

/-- A validator whose verdicts are the first of all rejections by the fields of a schema. -/
def Judges (v : Validator) (schema : String × List FieldChecks) : Prop :=
  v.schema = schema.1 ∧
    ∀ subject, v.rejection? subject = Rejection.told (rejections schema.2 subject).head?

theorem ofFields_of_fits (schema : String) (h : ∀ f ∈ fields, f.Fits) :
    ∃ v, ofFields schema fields = .ok v ∧ v.Judges (schema, fields) := by
  obtain ⟨vs, hvs⟩ := compileFields_of_fits h
  exact ⟨⟨schema, vs⟩, by simp [ofFields, hvs, Except.map], rfl, firstRejection_eq_told h hvs⟩

end Validator

namespace ValidatorSet

variable {e : Extraction} {s : ValidatorSet}

/-- Fields that fit their types can always be made into validators, one for each schema. -/
theorem ofExtraction_of_fits (h : ∀ schema ∈ e, schema.2 ≠ [] ∧ ∀ f ∈ schema.2, f.Fits) :
    ∃ s, ofExtraction e = .ok s ∧ List.Forall₂ Validator.Judges s e := by
  induction e with
  | nil => exact ⟨[], rfl, .nil⟩
  | cons schema rest ih =>
    obtain ⟨name, fields⟩ := schema
    obtain ⟨hne, hf⟩ := h (name, fields) List.mem_cons_self
    obtain ⟨v, hv, hj⟩ := Validator.ofFields_of_fits name hf
    obtain ⟨s, hs, hall⟩ := ih fun t ht => h t (List.mem_cons_of_mem _ ht)
    refine ⟨v :: s, ?_, .cons hj hall⟩
    cases fields with
    | nil => exact absurd rfl hne
    | cons f more => simp [ofExtraction, hv, hs, Except.map]

theorem names_of_judges (h : List.Forall₂ Validator.Judges s e) : s.names = e.names :=
  map_eq_of_forall₂ h.flip fun _ _ judges => judges.1

theorem rejection_of_judges (h : List.Forall₂ Validator.Judges s e) (name : String)
    (subject : Datum) :
    s.rejection? name subject =
      Rejection.told (Validator.rejections ((e.get? name).getD []) subject).head? := by
  induction h with
  | nil => rfl
  | @cons v schema s e hj _ ih =>
    obtain ⟨n, fields⟩ := schema
    by_cases hn : n = name
    · have hv : v.schema = name := hj.1.trans hn
      simp [rejection?, get?, Extraction.get?, hv, hn, hj.2 subject]
    · have hv : ¬ v.schema = name := fun hv => hn (hj.1.symm.trans hv)
      have hb : (name == n) = false := by simpa using fun hb : name = n => hn hb.symm
      simpa [rejection?, get?, Extraction.get?, List.lookup_cons, hv, hb] using ih

end ValidatorSet

end SchemaChecks
