import SchemaChecks.Check
import SchemaChecks.Datum
import SchemaChecks.Pattern.Matching
import SchemaChecks.Pattern.Parser

/-!
What is wrong with a value: it is null where it must not be, of another type, or against a check. A
check on a value of another type than its own may have no answer at all.
-/

namespace SchemaChecks

inductive Violation where
  | null
  | wrongType (t : BaseType)
  /-- The length is not within bounds. -/
  | length (b : Bounds)
  /-- The number is not within bounds. -/
  | range (b : Bounds)
  | noMatch (regex : String)
  | tooFewItems (n : Int)
  deriving DecidableEq, Repr

namespace Violation

def boundsText (b : Bounds) : String :=
  match b.least, b.most with
  | some lo, some hi => s!"must be between {lo} and {hi}"
  | some lo, none => s!"must be at least {lo}"
  | none, some hi => s!"must be at most {hi}"
  | none, none => "must be at most None"

def typeText : BaseType → String
  | .string => "must be a string"
  | .integer => "must be an integer"
  | .array => "must be an array"
  | .unsupported => ""

def message : Violation → String
  | .null => "must not be null"
  | .wrongType t => typeText t
  | .length b => "length " ++ boundsText b
  | .range b => boundsText b
  | .noMatch regex => "must match pattern " ++ regex
  | .tooFewItems n => s!"must have at least {n} item(s)"

def numbers : Violation → List Int
  | .length b | .range b => (Check.range b).numbers
  | .tooFewItems n => [n]
  | _ => []

end Violation

namespace BaseType

/-- Whether a value is of a type; a truth value is no integer, and a text is no array. -/
def admits : BaseType → Datum → Bool
  | .string, .atom (.text _) => true
  | .integer, .atom (.int _) => true
  | .array, .array _ _ => true
  | .unsupported, _ => true
  | _, _ => false

def violation? (t : BaseType) (value : Datum) : Option Violation :=
  if t.admits value then none else some (.wrongType t)

end BaseType

namespace Bounds

/-- The bound that a number is compared with first, with the comparison's sign and order. -/
def notOrdered (b : Bounds) (type : String) : Option Fault :=
  match b.least, b.most with
  | some _, some _ => some (.noOrder "<=" "int" type)
  | some _, none => some (.noOrder "<" type "int")
  | none, some _ => some (.noOrder ">" type "int")
  | none, none => none

def contains (b : Bounds) (n : Int) : Bool := b.least.all (· ≤ n) && b.most.all (n ≤ ·)

/-- Whether a double is within bounds. One that is no number is out of bounds only if both sides are
closed. -/
def containsReal (b : Bounds) (x : Binary64) : Bool :=
  match b.least, b.most with
  | some lo, some hi =>
    (x.compareInt lo).any (· ≠ .gt) && (x.compareInt hi).any (· ≠ .lt)
  | some lo, none => x.compareInt lo ≠ some .gt
  | none, some hi => x.compareInt hi ≠ some .lt
  | none, none => true

end Bounds

namespace Check

/-- A violation whose numbers have no text cannot be told. -/
def report (v : Violation) : Except Fault (Option Violation) :=
  if v.numbers.all Atom.intIsPrintable then .ok (some v)
  else .error (.scalar .tooManyDigitsToWrite)

def lengthOf (value : Datum) : Except Fault Nat :=
  match value.length? with
  | some n => .ok n
  | none => .error (.noLength value.typeName)

def rangeViolation (b : Bounds) (value : Datum) : Except Fault (Option Violation) :=
  let answer (within : Bool) := if within then .ok none else report (.range b)
  match value with
  | .atom (.int n) => answer (b.contains n)
  | .atom (.bool v) => answer (b.contains (if v then 1 else 0))
  | .atom (.real x) => answer (b.containsReal x)
  | _ =>
    match b.notOrdered value.typeName with
    | some f => .error f
    | none => .ok none

def patternViolation (regex : String) (p : Pattern.Compiled) (value : Datum) :
    Except Fault (Option Violation) :=
  match value with
  | .atom (.text s) => if p.matchesAll s then .ok none else report (.noMatch regex)
  | .atom (.bytes _) => .error .bytesForText
  | _ => .error (.notText value.typeName)

inductive Ready where
  | length (b : Bounds)
  | pattern (regex : String) (p : Pattern.Compiled)
  | range (b : Bounds)
  | minItems (n : Int)
  | unknown

def ready : Check → Except (Failure Pattern.Error) Ready
  | .length b => .ok (.length b)
  | .pattern regex => (Pattern.compile regex).map (.pattern regex)
  | .range b => .ok (.range b)
  | .minItems n => .ok (.minItems n)
  | .unknown => .ok .unknown

def Ready.violation? (r : Ready) (value : Datum) : Except Fault (Option Violation) :=
  match r with
  | .length b =>
    (lengthOf value).bind fun n => if b.contains n then .ok none else report (.length b)
  | .pattern regex p => patternViolation regex p value
  | .range b => rangeViolation b value
  | .minItems n =>
    (lengthOf value).bind fun count => if n ≤ count then .ok none else report (.tooFewItems n)
  | .unknown => .error .unsupportedCheck

def violation? (c : Check) (value : Datum) : Except (Failure Pattern.Error) (Option Violation) :=
  match c.ready with
  | .error e => .error e
  | .ok r => (r.violation? value).mapError .fault

end Check

end SchemaChecks
