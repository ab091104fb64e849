import SchemaChecks.Violation

/-!
Validators: the checks of a schema with their patterns compiled, applied to instances field by field
up to the first violation.
-/

namespace SchemaChecks

structure Rejection where
  field : String
  violation : Violation
  deriving DecidableEq, Repr

def Rejection.message (r : Rejection) : String := s!"{r.field}: {r.violation.message}"

structure FieldValidator where
  field : FieldChecks
  checks : List Check.Ready

namespace FieldValidator

def readyAll : List Check → Except (Failure Pattern.Error) (List Check.Ready)
  | [] => .ok []
  | c :: rest =>
    match c.ready with
    | .error e => .error e
    | .ok r => (readyAll rest).map (r :: ·)

def ofChecks (f : FieldChecks) : Except (Failure Pattern.Error) FieldValidator :=
  (readyAll f.checks).map (⟨f, ·⟩)

def firstViolation? (value : Datum) : List Check.Ready → Except Fault (Option Violation)
  | [] => .ok none
  | r :: rest =>
    match r.violation? value with
    | .error f => .error f
    | .ok (some v) => .ok (some v)
    | .ok none => firstViolation? value rest

/-- What is wrong with a field's value: null first, then the type, then the checks in order. -/
def violation? (f : FieldValidator) (value : Datum) : Except Fault (Option Violation) :=
  if value.isNull then .ok (if f.field.nullable then none else some .null)
  else
    match f.field.type.violation? value with
    | some v => .ok (some v)
    | none => firstViolation? value f.checks

end FieldValidator

structure Validator where
  schema : String
  fields : List FieldValidator

namespace Validator

def compileFields : List FieldChecks → Except (Failure Pattern.Error) (List FieldValidator)
  | [] => .ok []
  | f :: rest =>
    match FieldValidator.ofChecks f with
    | .error e => .error e
    | .ok v => (compileFields rest).map (v :: ·)

def ofFields (schema : String) (fields : List FieldChecks) :
    Except (Failure Pattern.Error) Validator :=
  (compileFields fields).map (⟨schema, ·⟩)

def fieldChecks (v : Validator) : List FieldChecks := v.fields.map (·.field)

def shown (v : Validator) : String :=
  s!"SchemaValidator({Text.quoted v.schema}, fields={v.fields.length})"

def firstRejection? (subject : Datum) : List FieldValidator → Except Fault (Option Rejection)
  | [] => .ok none
  | f :: rest =>
    match f.violation? (subject.read f.field.name) with
    | .error e => .error e
    | .ok (some v) => .ok (some ⟨f.field.name, v⟩)
    | .ok none => firstRejection? subject rest

def rejection? (v : Validator) (subject : Datum) : Except Fault (Option Rejection) :=
  firstRejection? subject v.fields

end Validator

abbrev ValidatorSet := List Validator

namespace ValidatorSet

def ofExtraction : Extraction → Except (Failure Pattern.Error) ValidatorSet
  | [] => .ok []
  | (_, []) :: rest => ofExtraction rest
  | (name, fields) :: rest =>
    match Validator.ofFields name fields with
    | .error e => .error e
    | .ok v => (ofExtraction rest).map (v :: ·)

def names (s : ValidatorSet) : List String := s.map (·.schema)

def get? (s : ValidatorSet) (name : String) : Option Validator := s.find? (·.schema = name)

def has (s : ValidatorSet) (name : String) : Bool := (s.get? name).isSome

/-- What is wrong with an instance of a schema; nothing is wrong under a name without a
validator. -/
def rejection? (s : ValidatorSet) (name : String) (subject : Datum) :
    Except Fault (Option Rejection) :=
  match s.get? name with
  | none => .ok none
  | some v => v.rejection? subject

def demand (s : ValidatorSet) (name : String) : Except Fault Validator :=
  match s.get? name with
  | some v => .ok v
  | none => .error (.unknownName name)

end ValidatorSet

end SchemaChecks
