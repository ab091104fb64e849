import SchemaChecks.Calendar
import SchemaChecks.Number.Shortest
import SchemaChecks.Text.Quoted

/-!
Documents as plain values and as trees. A plain value is what a document says: atoms, lists and
dictionaries, whose keys are atoms. A tree has texts for keys, in the order of the document, and is
what schemas are read from; two keys of a dictionary may have one text in the tree.
-/

namespace SchemaChecks

inductive Atom where
  | null
  | bool (b : Bool)
  | int (i : Int)
  | real (x : Binary64)
  | text (s : String)
  | bytes (b : List UInt8)
  | date (d : Date)
  | moment (t : Moment)
  deriving DecidableEq, Repr

inductive Scalar where
  | atom (a : Atom)
  | set (members : List Atom)
  deriving DecidableEq, Repr

inductive Value where
  | scalar (s : Scalar)
  | list (items : List Value)
  | dict (entries : List (Atom × Value))
  deriving Repr

inductive Tree where
  | scalar (s : Scalar)
  | seq (items : List Tree)
  | map (entries : List (String × Tree))
  deriving Repr

namespace Atom

/-- The number that an atom stands for; a truth value counts as 0 or 1. -/
def toInt? : Atom → Option Int
  | .bool b => some (if b then 1 else 0)
  | .int i => some i
  | .real x => x.toInt?
  | _ => none

/-- Equality of keys: numbers by their value, times by their instant, all else by identity. -/
def sameKey (a b : Atom) : Bool :=
  match a, b with
  | .moment s, .moment t => s.sameInstant t
  | .real x, .real y => x.sameNumber y || (x.isNaN && y.isNaN)
  | _, _ =>
    a = b || match a.toInt?, b.toInt? with
      | some i, some j => i = j
      | _, _ => false

def keyText : Atom → String
  | .null => "None"
  | .bool b => if b then "True" else "False"
  | .int i => toString i
  | .real x => x.text
  | .text s => s
  | .bytes b => Text.quotedBytes b
  | .date d => String.ofList d.text
  | .moment t => String.ofList (t.text ' ')

/-- Numbers with more decimal digits have no text. -/
def digitLimit : Nat := 4300

def intIsPrintable (i : Int) : Bool := i.natAbs < Nat.pow 10 digitLimit

def isPrintable : Atom → Bool
  | .int i => intIsPrintable i
  | _ => true

def shown : Atom → String
  | .text s => Text.quoted s
  | .date d => s!"datetime.date({d.year}, {d.month}, {d.day})"
  | .moment t =>
    let seconds := if t.microsecond ≠ 0 then [t.second, t.microsecond]
      else if t.second ≠ 0 then [t.second] else []
    let parts := [t.date.year, t.date.month, t.date.day, t.hour, t.minute] ++ seconds
    let zone := match t.offset with
      | none => []
      | some 0 => ["tzinfo=datetime.timezone.utc"]
      | some minutes => ["tzinfo=datetime.timezone(" ++ spanText minutes ++ ")"]
    "datetime.datetime(" ++ ", ".intercalate (parts.map toString ++ zone) ++ ")"
  | a => a.keyText

end Atom

namespace Scalar

def null : Scalar := .atom .null
def text (s : String) : Scalar := .atom (.text s)

def text? : Scalar → Option String
  | .atom (.text s) => some s
  | _ => none

def isNull : Scalar → Bool
  | .atom .null => true
  | _ => false

def shown : Scalar → String
  | .atom a => a.shown
  | .set [] => "set()"
  | .set members => "\x7b" ++ ", ".intercalate (members.map Atom.shown) ++ "\x7d"

end Scalar

namespace Value

def null : Value := .scalar Scalar.null

/-- Puts a value under a key: a new key goes to the end, a known one keeps its place. -/
def insert (key : Atom) (value : Value) : List (Atom × Value) → List (Atom × Value)
  | [] => [(key, value)]
  | (k, v) :: rest =>
    if k.sameKey key then (k, value) :: rest else (k, v) :: insert key value rest

def dictOf (entries : List (Atom × Value)) : Value :=
  .dict (entries.foldl (fun acc e => insert e.1 e.2 acc) [])

def get? (key : String) : List (Atom × Value) → Option Value
  | [] => none
  | (k, v) :: rest => if k = .text key then some v else get? key rest

end Value

namespace Tree

mutual

def ofValue : Value → Tree
  | .scalar s => .scalar s
  | .list items => .seq (ofItems items)
  | .dict entries => .map (ofEntries entries)

def ofItems : List Value → List Tree
  | [] => []
  | v :: rest => ofValue v :: ofItems rest

def ofEntries : List (Atom × Value) → List (String × Tree)
  | [] => []
  | (k, v) :: rest => (k.keyText, ofValue v) :: ofEntries rest

end

mutual

/-- The plain value of a tree: of entries with one key the first gives the place, the last the
value. -/
def toValue : Tree → Value
  | .scalar s => .scalar s
  | .seq items => .list (toItems items)
  | .map entries => Value.dictOf (toEntries entries)

def toItems : List Tree → List Value
  | [] => []
  | t :: rest => toValue t :: toItems rest

def toEntries : List (String × Tree) → List (Atom × Value)
  | [] => []
  | (k, t) :: rest => (.text k, toValue t) :: toEntries rest

end

def lookup (key : String) : List (String × Tree) → Option Tree
  | [] => none
  | (k, t) :: rest => if k = key then some t else lookup key rest

def get? (key : String) : Tree → Option Tree
  | .map entries => lookup key entries
  | _ => none

def has (key : String) (t : Tree) : Bool := (t.get? key).isSome

def scalar? (key : String) (t : Tree) : Option Scalar :=
  match t.get? key with
  | some (.scalar s) => some s
  | _ => none

def follow : List String → Tree → Option Tree
  | [], t => some t
  | key :: rest, t => (t.get? key).bind (follow rest)

def pathSegments (path : String) : List String :=
  (path.toList.splitOn '.').map String.ofList

def find (path : String) (t : Tree) : Option Tree := t.follow (pathSegments path)

def scalars : List Tree → List Scalar
  | [] => []
  | .scalar s :: rest => s :: scalars rest
  | _ :: rest => scalars rest

end Tree

end SchemaChecks
