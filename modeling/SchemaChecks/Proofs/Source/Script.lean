import SchemaChecks.Module.Rendering
import SchemaChecks.Proofs.Source.Layout

/-!
What the generated source means. Its statements read a field, guard, raise and return; a condition
either holds, or does not, or has no answer for the value at hand.
-/

namespace SchemaChecks.Source

inductive Class where
  | str
  | int
  | bool
  | bytes
  | bytearray
  | sequence
  | set
  deriving DecidableEq, Repr

namespace Class

def all : List Class := [.str, .int, .bool, .bytes, .bytearray, .sequence, .set]

def text : Class → String
  | .str => "str"
  | .int => "int"
  | .bool => "bool"
  | .bytes => "bytes"
  | .bytearray => "bytearray"
  | .sequence => "Sequence"
  | .set => "Set"

/-- Truth values are integers too, and texts and byte strings are sequences. -/
def hasInstance : Class → Datum → Bool
  | .str, .atom (.text _) => true
  | .int, .atom (.int _) | .int, .atom (.bool _) => true
  | .bool, .atom (.bool _) => true
  | .bytes, .atom (.bytes _) => true
  | .sequence, .atom (.text _) | .sequence, .atom (.bytes _) => true
  | .sequence, .array .list _ | .sequence, .array .tuple _ => true
  | .set, .array .set _ => true
  | _, _ => false

end Class

structure ClassTest where
  negated : Bool
  classes : List Class
  deriving DecidableEq, Repr

def ClassTest.holds (t : ClassTest) (value : Datum) : Bool :=
  (t.classes.any fun c => c.hasInstance value) != t.negated

inductive Quantity where
  | whole (n : Int)
  | real (x : Binary64)

namespace Quantity

def of? : Measure → Datum → Option Quantity
  | .value, .atom (.int n) => some (.whole n)
  | .value, .atom (.bool b) => some (.whole (if b then 1 else 0))
  | .value, .atom (.real x) => some (.real x)
  | .value, _ => none
  | .length, value => value.length?.map fun n => .whole n

/-- Comparisons with an integer; a double that is no number is in no order. -/
def atLeast (q : Quantity) (n : Int) : Bool :=
  match q with
  | .whole m => n ≤ m
  | .real x => (x.compareInt n).any (· ≠ .gt)

def atMost (q : Quantity) (n : Int) : Bool :=
  match q with
  | .whole m => m ≤ n
  | .real x => (x.compareInt n).any (· ≠ .lt)

def below (q : Quantity) (n : Int) : Bool :=
  match q with
  | .whole m => m < n
  | .real x => x.compareInt n = some .gt

def above (q : Quantity) (n : Int) : Bool :=
  match q with
  | .whole m => n < m
  | .real x => x.compareInt n = some .lt

end Quantity

inductive Test where
  | isNull
  | isNotNull
  /-- One of some tests holds. -/
  | classes (tests : List ClassTest)
  | outside (m : Measure) (least most : Int)
  | below (m : Measure) (least : Int)
  | above (m : Measure) (most : Int)
  /-- The pattern bound to a name does not match the whole value. -/
  | noMatch (name : String)
  deriving DecidableEq, Repr

inductive Block where
  | done
  | remark (rest : Block)
  | read (field : String) (rest : Block)
  | raise (field text : String) (rest : Block)
  | returnSubject (rest : Block)
  | branch (t : Test) (inner rest : Block)
  deriving DecidableEq, Repr

inductive Global where
  | pattern (regex : String)
  | function (body : Block)
  deriving DecidableEq, Repr

structure Script where
  globals : List (String × Global)
  table : List (String × String)
  deriving DecidableEq, Repr

inductive Ending where
  | returned
  | raised (field text : String)
  deriving DecidableEq, Repr

inductive Flow where
  | onward (value : Option Datum)
  | ended (e : Ending)
  | stuck

namespace Script

/-- Of several bindings of a name the last one counts. -/
def global? (s : Script) (name : String) : Option Global := s.globals.reverse.lookup name

def patternMatches? (s : Script) (name : String) : Datum → Option Bool
  | .atom (.text value) =>
    match s.global? name with
    | some (.pattern regex) =>
      match Pattern.compile regex with
      | .ok p => some (p.matchesAll value)
      | .error _ => none
    | _ => none
  | _ => none

def holds (s : Script) (value : Datum) : Test → Option Bool
  | .isNull => some value.isNull
  | .isNotNull => some (!value.isNull)
  | .classes tests => some (tests.any fun t => t.holds value)
  | .outside m least most =>
    (Quantity.of? m value).map fun q => !(q.atLeast least && q.atMost most)
  | .below m least => (Quantity.of? m value).map fun q => q.below least
  | .above m most => (Quantity.of? m value).map fun q => q.above most
  | .noMatch name => (s.patternMatches? name value).map (!·)

def run (s : Script) (subject : Datum) : Option Datum → Block → Flow
  | value, .done => .onward value
  | value, .remark rest => s.run subject value rest
  | _, .read field rest => s.run subject (some (subject.read field)) rest
  | _, .raise field text _ => .ended (.raised field text)
  | _, .returnSubject _ => .ended .returned
  | value, .branch t inner rest =>
    match value.bind fun v => s.holds v t with
    | none => .stuck
    | some false => s.run subject value rest
    | some true =>
      match s.run subject value inner with
      | .onward value => s.run subject value rest
      | other => other

/-- Calls the function that the table has for a schema. A call that comes to the end of the function
gives nothing. -/
def call (s : Script) (schema : String) (subject : Datum) : Option Ending :=
  match s.table.reverse.lookup schema with
  | none => none
  | some name =>
    match s.global? name with
    | some (.function body) =>
      match s.run subject none body with
      | .ended e => some e
      | _ => none
    | _ => none

end Script

end SchemaChecks.Source
