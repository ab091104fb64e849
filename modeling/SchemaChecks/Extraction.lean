import SchemaChecks.Definition
import SchemaChecks.Pattern.Parser

/-!
From definitions to checks. A property has checks if it is no reference, its type is known, and it
declares at least one usable keyword of its type.
-/

namespace SchemaChecks

abbrev ExtractFailure := Failure StructureError

/-- The whole number that a scalar gives as a bound: an integer, or a double without a fraction. -/
def Scalar.bound? : Scalar → Option Int
  | .atom (.int i) => some i
  | .atom (.real x) => x.toInt?
  | _ => none

namespace Property

def bound? (p : Property) (k : Keyword) : Option Int := (p.constraint? k).bind Scalar.bound?

def bounds (p : Property) (least most : Keyword) : Bounds := ⟨p.bound? least, p.bound? most⟩

def pattern? (p : Property) : Option String := (p.constraint? .pattern).bind Scalar.text?

def plainChecks (p : Property) : List Check :=
  match p.type with
  | .string =>
    let b := p.bounds .minLength .maxLength
    (if b.isOpen then [] else [.length b]) ++ (p.pattern?.map .pattern).toList
  | .integer =>
    let b := p.bounds .minimum .maximum
    if b.isOpen then [] else [.range b]
  | .array => ((p.bound? .minItems).map .minItems).toList
  | .unsupported => []

def compilable (schema : String) (p : Property) : Except ExtractFailure Unit :=
  match p.type, p.pattern? with
  | .string, some regex =>
    match Pattern.compile regex with
    | .ok _ => .ok ()
    | .error e => .error (e.map (.invalidPattern schema p.name regex))
  | _, _ => .ok ()

def checks (schema : String) (p : Property) : Except ExtractFailure (List Check) :=
  if p.isReference then .ok []
  else (p.compilable schema).map fun () => p.plainChecks

def fieldChecks? (schema : String) (p : Property) : Except ExtractFailure (Option FieldChecks) :=
  (p.checks schema).map fun
    | [] => none
    | checks => some ⟨p.name, p.type, p.nullable, checks⟩

end Property

namespace Definition

def fieldsOf (schema : String) : List Property → Except ExtractFailure (List FieldChecks)
  | [] => .ok []
  | p :: rest =>
    match p.fieldChecks? schema with
    | .error e => .error e
    | .ok field => (fieldsOf schema rest).map fun fields => field.toList ++ fields

def fieldChecks (d : Definition) : Except ExtractFailure (List FieldChecks) :=
  fieldsOf d.name d.properties

end Definition

namespace Extraction

/-- The checks of schemas in order; schemas without any are left out. -/
def ofDefinitions : List Definition → Except ExtractFailure (List (String × List FieldChecks))
  | [] => .ok []
  | d :: rest =>
    match d.fieldChecks with
    | .error e => .error e
    | .ok [] => ofDefinitions rest
    | .ok fields => (ofDefinitions rest).map fun more => (d.name, fields) :: more

def ofTree (root : Tree) (path : Option String) : Except ExtractFailure Extraction :=
  match definitionsOf root path with
  | .error e => .error (.error e)
  | .ok ds => (ofDefinitions ds).map ofList

end Extraction

end SchemaChecks
