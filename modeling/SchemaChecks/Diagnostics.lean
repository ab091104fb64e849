import SchemaChecks.Document
import SchemaChecks.Extraction
import SchemaChecks.Log
import SchemaChecks.Validator

/-!
What a run notes in its log on the way from a document to validators.
-/

namespace SchemaChecks.Diagnostics

def loading (message : String) : Log.Record :=
  ⟨"contract_validators.schema_loading.document_loader", Log.debug, message⟩

def extraction (message : String) : Log.Record :=
  ⟨"contract_validators.constraint_extraction.constraint_extractor", Log.debug, message⟩

def emission (message : String) : Log.Record :=
  ⟨"contract_validators.validator_emission.compiled_validators", Log.debug, message⟩

def ofDocument (text : String) (d : Document) : Log.Record :=
  loading s!"Parsed {d.format.name} schema document ({text.length} characters)"

def ofCollection (c : Collection) : List Log.Record :=
  extraction s!"Using schema collection {c.path} ({c.entries.length} entries)" ::
    c.entries.filterMap fun (name, node) =>
      if (Definition.ofTree? name node).isSome then none
      else some (extraction s!"Skipping schema {name}: not an object with properties")

def ofDefinitions (root : Tree) (path : Option String) : List Log.Record :=
  match Collection.ofTree root path with
  | .error _ => []
  | .ok c => ofCollection c

/-- A scalar that stands where a bound should and is none; truth values pass unnoticed. -/
def ofBound (p : Property) (k : Keyword) : List Log.Record :=
  match p.constraint? k with
  | none | some (.atom (.bool _)) => []
  | some s =>
    if s.bound?.isSome then []
    else [extraction s!"Ignoring non-integer {k.name} bound: {s.shown}"]

def boundKeywords : BaseType → List Keyword
  | .string => [.minLength, .maxLength]
  | .integer => [.minimum, .maximum]
  | .array => [.minItems]
  | .unsupported => []

def ofProperty (schema : String) (p : Property) : List Log.Record :=
  if p.isReference then [extraction s!"Skipping {schema}.{p.name}: schema reference"]
  else if p.type = .unsupported then [extraction s!"Skipping {schema}.{p.name}: unsupported type"]
  else (boundKeywords p.type).flatMap (ofBound p)

/-- Notes on properties in order, up to the first one that has no checks for an error. -/
def ofProperties (schema : String) : List Property → List Log.Record
  | [] => []
  | p :: rest =>
    match p.checks schema with
    | .error _ => ofProperty schema p
    | .ok _ => ofProperty schema p ++ ofProperties schema rest

def ofSchemas : List Definition → List Log.Record
  | [] => []
  | d :: rest =>
    let notes := ofProperties d.name d.properties
    match d.fieldChecks with
    | .error _ => notes
    | .ok [] =>
      notes ++ extraction s!"Schema {d.name} has no constrained fields; no validator" ::
        ofSchemas rest
    | .ok _ => notes ++ ofSchemas rest

def ofExtraction (root : Tree) (path : Option String) : List Log.Record :=
  match definitionsOf root path with
  | .error _ => []
  | .ok ds => ofDefinitions root path ++ ofSchemas ds

def ofValidators (s : ValidatorSet) : Log.Record :=
  emission s!"Compiled {s.length} schema validators"

end SchemaChecks.Diagnostics
