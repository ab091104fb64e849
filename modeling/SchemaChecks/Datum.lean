import SchemaChecks.Tree

/-!
Instances: the values that checks are applied to. A document gives atoms, lists and dictionaries; a
caller may also bring tuples, sets, and objects with named attributes.
-/

namespace SchemaChecks

inductive ArrayKind where
  | list
  | tuple
  | set
  deriving DecidableEq, Repr

inductive Datum where
  | atom (a : Atom)
  | array (kind : ArrayKind) (items : List Datum)
  | dict (entries : List (Atom × Datum))
  | object (attributes : List (String × Datum))
  deriving Repr

instance : Inhabited Datum := ⟨.atom .null⟩

namespace Datum

def null : Datum := .atom .null

def isNull : Datum → Bool
  | .atom .null => true
  | _ => false

mutual

def ofValue : Value → Datum
  | .scalar (.atom a) => .atom a
  | .scalar (.set members) => .array .set (members.map .atom)
  | .list items => .array .list (ofItems items)
  | .dict entries => .dict (ofEntries entries)

def ofItems : List Value → List Datum
  | [] => []
  | v :: rest => ofValue v :: ofItems rest

def ofEntries : List (Atom × Value) → List (Atom × Datum)
  | [] => []
  | (k, v) :: rest => (k, ofValue v) :: ofEntries rest

end

def lookup (name : String) : List (Atom × Datum) → Option Datum
  | [] => none
  | (k, v) :: rest => if k = .text name then some v else lookup name rest

/-- The value of a field: a dictionary's value or an object's attribute. A field that is absent
reads as null. A text, a number or an array stands for itself without attributes; one whose
attributes are to be read stands here as the object of them. -/
def read (name : String) : Datum → Datum
  | .dict entries => (lookup name entries).getD null
  | .object attributes => (attributes.lookup name).getD null
  | _ => null

/-- The number of characters of a text, or of the parts of anything else that has parts. -/
def length? : Datum → Option Nat
  | .atom (.text s) => some s.length
  | .atom (.bytes b) => some b.length
  | .array _ items => some items.length
  | .dict entries => some entries.length
  | _ => none

def typeName : Datum → String
  | .atom .null => "NoneType"
  | .atom (.bool _) => "bool"
  | .atom (.int _) => "int"
  | .atom (.real _) => "float"
  | .atom (.text _) => "str"
  | .atom (.bytes _) => "bytes"
  | .atom (.date _) => "datetime.date"
  | .atom (.moment _) => "datetime.datetime"
  | .array .list _ => "list"
  | .array .tuple _ => "tuple"
  | .array .set _ => "set"
  | .dict _ => "dict"
  | .object _ => "types.SimpleNamespace"

end Datum

end SchemaChecks
