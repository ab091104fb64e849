import SchemaChecks.Proofs.Verdict

/-!
How far validators look into an instance. Of a field's value they see an atom, or which kind of
collection it is and how many parts it has; what the parts are makes no difference.
-/

namespace SchemaChecks

def Value.upTo : Nat → Value → Value
  | _, .scalar s => .scalar s
  | 0, _ => .null
  | depth + 1, .list items => .list (items.map (upTo depth))
  | depth + 1, .dict entries => .dict (entries.map fun e => (e.1, upTo depth e.2))

namespace Datum

inductive Alike : Datum → Datum → Prop
  | refl (d : Datum) : Alike d d
  | array {kind : ArrayKind} {xs ys : List Datum} (same : xs.length = ys.length) :
      Alike (.array kind xs) (.array kind ys)
  | dict {xs ys : List (Atom × Datum)} (same : xs.length = ys.length) :
      Alike (.dict xs) (.dict ys)

variable {x y : Datum}

theorem Alike.isNull (h : Alike x y) : x.isNull = y.isNull := by cases h <;> rfl

theorem Alike.typeName (h : Alike x y) : x.typeName = y.typeName := by
  cases h with
  | refl => rfl
  | @array kind => cases kind <;> rfl
  | dict => rfl

theorem Alike.length? (h : Alike x y) : x.length? = y.length? := by
  cases h with
  | refl => rfl
  | array same => exact congrArg some same
  | dict same => exact congrArg some same

theorem Alike.admits (h : Alike x y) (t : BaseType) : t.admits x = t.admits y := by
  cases h <;> cases t <;> rfl

theorem ofItems_eq_map (items : List Value) : ofItems items = items.map ofValue := by
  induction items with
  | nil => rfl
  | cons v rest ih => rw [ofItems, ih, List.map_cons]

theorem ofEntries_eq_map (entries : List (Atom × Value)) :
    ofEntries entries = entries.map fun e => (e.1, ofValue e.2) := by
  induction entries with
  | nil => rfl
  | cons e rest ih => rw [ofEntries, ih, List.map_cons]

end Datum

open Datum

variable {x y : Datum}

theorem Check.Ready.violation_of_alike (r : Ready) (h : Alike x y) :
    r.violation? x = r.violation? y := by
  cases r with
  | length b => simp only [violation?, lengthOf, h.length?, h.typeName]
  | minItems n => simp only [violation?, lengthOf, h.length?, h.typeName]
  | unknown => rfl
  | pattern regex p =>
    cases h with
    | refl => rfl
    | @array kind => cases kind <;> rfl
    | dict => rfl
  | range b =>
    cases h with
    | refl => rfl
    | @array kind => cases kind <;> rfl
    | dict => rfl

theorem FieldValidator.firstViolation_of_alike (h : Alike x y) (checks : List Check.Ready) :
    firstViolation? x checks = firstViolation? y checks := by
  induction checks with
  | nil => rfl
  | cons r rest ih => simp only [firstViolation?, r.violation_of_alike h, ih]

theorem FieldValidator.violation_of_alike (f : FieldValidator) (h : Alike x y) :
    f.violation? x = f.violation? y := by
  simp only [violation?, h.isNull, BaseType.violation?, h.admits, firstViolation_of_alike h]

theorem Validator.firstRejection_of_alike {fs : List FieldValidator}
    (h : ∀ f ∈ fs, Alike (x.read f.field.name) (y.read f.field.name)) :
    firstRejection? x fs = firstRejection? y fs := by
  induction fs with
  | nil => rfl
  | cons f rest ih =>
    have here := f.violation_of_alike (h f List.mem_cons_self)
    have later := ih fun g hg => h g (List.mem_cons_of_mem _ hg)
    simp only [firstRejection?, here, later]

end SchemaChecks
