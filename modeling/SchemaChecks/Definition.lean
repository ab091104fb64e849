import SchemaChecks.Check
import SchemaChecks.Pattern.Error

/-!
Schemas as a document defines them: a collection of named definitions, of which those count that are
objects with properties.
-/

namespace SchemaChecks

inductive StructureError where
  | rootNotMapping
  | collectionNotMapping (path : String)
  | collectionNotFound (path : String)
  | noCollection
  | invalidPattern (schema field pattern : String) (e : Pattern.Error)
  deriving DecidableEq, Repr

def collectionPaths : List String := ["components.schemas", "definitions", "$defs"]

def StructureError.message : StructureError → String
  | .rootNotMapping => "Schema document root must be a mapping."
  | .collectionNotMapping path => s!"Schema collection '{path}' must be a mapping."
  | .collectionNotFound path => s!"Schema collection '{path}' not found."
  | .noCollection =>
    let places := ", ".intercalate collectionPaths
    s!"Schema document has no named schema collection (looked for {places})."
  | .invalidPattern schema field pattern e =>
    s!"Invalid pattern for {schema}.{field}: {pattern} ({e.message pattern})"

inductive Keyword where
  | pattern
  | minLength
  | maxLength
  | minimum
  | maximum
  | minItems
  deriving DecidableEq, Repr

namespace Keyword

def all : List Keyword := [.pattern, .minLength, .maxLength, .minimum, .maximum, .minItems]

def name : Keyword → String
  | .pattern => "pattern"
  | .minLength => "minLength"
  | .maxLength => "maxLength"
  | .minimum => "minimum"
  | .maximum => "maximum"
  | .minItems => "minItems"

end Keyword

structure Property where
  name : String
  type : BaseType
  /-- The property only points to schemas. -/
  isReference : Bool
  nullable : Bool
  /-- The keywords that stand in the property, with null for what is no scalar. -/
  constraints : List (Keyword × Scalar)
  deriving DecidableEq, Repr

namespace Property

/-- The scalar of a keyword; null is as good as none. -/
def constraint? (p : Property) (k : Keyword) : Option Scalar :=
  (p.constraints.lookup k).filter (!·.isNull)

/-- The types that a list names besides null. -/
def isNullMember (s : Scalar) : Bool := s = .text "null" || s.isNull

/-- The type that a property declares, and whether null is among its types. -/
def typeOf : Option Tree → BaseType × Bool
  | some (.scalar s) => (.ofScalar s, false)
  | some (.seq items) =>
    let members := Tree.scalars items
    let hasNull := members.any isNullMember
    match members.find? (!isNullMember ·) with
    | some first => (.ofScalar first, hasNull)
    | none => (.unsupported, hasNull)
  | _ => (.unsupported, false)

def compositions : List String := ["allOf", "oneOf", "anyOf"]

def areReferences : Option Tree → Bool
  | some (.seq items) => !items.isEmpty && items.all (Tree.has "$ref")
  | _ => false

/-- A property is a reference if it has a target of its own, or combines nothing but references. -/
def refersOnly (node : Tree) : Bool :=
  node.has "$ref" || compositions.any fun k => areReferences (node.get? k)

def constraintsOf (node : Tree) : List (Keyword × Scalar) :=
  Keyword.all.filterMap fun k =>
    if node.has k.name then some (k, (node.scalar? k.name).getD .null) else none

def isMarkedNullable (node : Tree) : Bool := node.scalar? "nullable" = some (.atom (.bool true))

/-- The property that a node defines; the fields that are not `required` may be null. -/
def ofTree (required : List String) (name : String) (node : Tree) : Property :=
  match node with
  | .map _ =>
    let (type, hasNull) := typeOf (node.get? "type")
    { name := name
      type := type
      isReference := refersOnly node
      nullable := hasNull || isMarkedNullable node || !required.contains name
      constraints := constraintsOf node }
  | _ =>
    { name := name
      type := .unsupported
      isReference := false
      nullable := !required.contains name
      constraints := [] }

end Property

structure Definition where
  name : String
  required : List String
  properties : List Property
  deriving DecidableEq, Repr

namespace Definition

def requiredOf : Option Tree → List String
  | some (.seq items) => (Tree.scalars items).filterMap Scalar.text?
  | _ => []

def ofTree? (name : String) (node : Tree) : Option Definition :=
  if node.scalar? "type" = some (.text "object") then
    match node.get? "properties" with
    | some (.map (e :: es)) =>
      let required := requiredOf (node.get? "required")
      some ⟨name, required, (e :: es).map fun (n, t) => Property.ofTree required n t⟩
    | _ => none
  else none

end Definition

structure Collection where
  path : String
  entries : List (String × Tree)
  deriving Repr

namespace Collection

def firstOf (root : Tree) : List String → Option (String × Tree)
  | [] => none
  | path :: rest =>
    match root.find path with
    | some t => some (path, t)
    | none => firstOf root rest

/-- The paths to try: the given one alone, or the usual ones. -/
def candidates : Option String → List String
  | none | some "" => collectionPaths
  | some path => [path]

def missing : Option String → StructureError
  | none | some "" => .noCollection
  | some path => .collectionNotFound path

def ofTree (root : Tree) (path : Option String) : Except StructureError Collection :=
  match root with
  | .map _ =>
    match firstOf root (candidates path) with
    | some (path, .map entries) => .ok ⟨path, entries⟩
    | some (path, _) => .error (.collectionNotMapping path)
    | none => .error (missing path)
  | _ => .error .rootNotMapping

def definitions (c : Collection) : List Definition :=
  c.entries.filterMap fun (name, node) => Definition.ofTree? name node

end Collection

def definitionsOf (root : Tree) (path : Option String) : Except StructureError (List Definition) :=
  (Collection.ofTree root path).map Collection.definitions

end SchemaChecks
