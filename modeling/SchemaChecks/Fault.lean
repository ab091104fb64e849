import SchemaChecks.Calendar
import SchemaChecks.Text.Utf8

/-!
Failures that no report covers: the input is well formed, and yet a step on it has no answer. They
end a run wherever they arise.
-/

namespace SchemaChecks

inductive FaultKind where
  | value
  | overflow
  | key
  | index
  | type
  | attribute
  | depth
  deriving DecidableEq, Repr

inductive ScalarFault where
  | calendar (e : CalendarError)
  | notAnInt (base : Nat) (text : String)
  | notAReal (text : String)
  /-- More decimal digits than are converted from a text. -/
  | tooManyDigits (count : Nat)
  /-- More decimal digits than are written into a text. -/
  | tooManyDigitsToWrite
  | noNumber
  | notATruthValue (text : String)
  | notATimestamp
  | timestampOfMapping
  /-- An escape for a number that is no character. -/
  | notACharacter (code : Nat)
  | tooLargeForReal
  deriving DecidableEq, Repr

namespace ScalarFault

def kind : ScalarFault → FaultKind
  | .notATruthValue _ => .key
  | .noNumber => .index
  | .notATimestamp => .attribute
  | .timestampOfMapping => .type
  | .notACharacter code => if code < Nat.pow 2 31 then .value else .overflow
  | .tooLargeForReal => .overflow
  | _ => .value

def message : ScalarFault → String
  | .calendar e => e.message
  | .notAnInt base text =>
    s!"invalid literal for int() with base {base}: " ++
      String.ofList ((Text.quoted text).toList.take 200)
  | .notAReal text => "could not convert string to float: " ++ Text.quoted text
  | .tooManyDigits count =>
    s!"Exceeds the limit (4300 digits) for integer string conversion: value has {count} digits; " ++
      "use sys.set_int_max_str_digits() to increase the limit"
  | .tooManyDigitsToWrite =>
    "Exceeds the limit (4300 digits) for integer string conversion; " ++
      "use sys.set_int_max_str_digits() to increase the limit"
  | .noNumber => "string index out of range"
  | .notATruthValue text => Text.quoted text
  | .notATimestamp => "'NoneType' object has no attribute 'groupdict'"
  | .timestampOfMapping => "expected string or bytes-like object, got 'list'"
  | .notACharacter code =>
    if code < Nat.pow 2 31 then "chr() arg not in range(0x110000)"
    else "Python int too large to convert to C int"
  | .tooLargeForReal => "int too large to convert to float"

end ScalarFault

inductive Fault where
  | scalar (f : ScalarFault)
  /-- Something nests deeper than is followed, or holds itself. -/
  | tooDeep
  /-- A pattern asks for more repetitions than are counted. -/
  | repetitionTooLarge
  /-- A pattern asks for ASCII and for all scripts at once. -/
  | mixedAlphabets
  /-- A check of no known kind. -/
  | unsupportedCheck
  /-- A value without a length, by the name of its type. -/
  | noLength (type : String)
  /-- Two values without an order, by the names of their types. -/
  | noOrder (relation left right : String)
  /-- A value that is no text, where a pattern is matched. -/
  | notText (type : String)
  /-- Bytes where a pattern is matched. -/
  | bytesForText
  /-- No validator of this name. -/
  | unknownName (name : String)
  /-- A path with a null character. -/
  | nullCharacter
  /-- A text, or a path, with surrogates that have no bytes. -/
  | unencodable (e : Text.Utf8.Unencodable)
  deriving DecidableEq, Repr

namespace Fault

def kind : Fault → FaultKind
  | .scalar f => f.kind
  | .tooDeep => .depth
  | .repetitionTooLarge => .overflow
  | .mixedAlphabets | .nullCharacter | .unencodable _ => .value
  | .unknownName _ => .key
  | _ => .type

def message : Fault → String
  | .scalar f => f.message
  | .tooDeep => "maximum recursion depth exceeded"
  | .repetitionTooLarge => "the repetition number is too large"
  | .mixedAlphabets => "ASCII and UNICODE flags are incompatible"
  | .unsupportedCheck => "Unsupported check: None"
  | .noLength type => s!"object of type '{type}' has no len()"
  | .noOrder relation left right =>
    s!"'{relation}' not supported between instances of '{left}' and '{right}'"
  | .notText type => s!"expected string or bytes-like object, got '{type}'"
  | .bytesForText => "cannot use a string pattern on a bytes-like object"
  | .unknownName name => Text.quoted name
  | .nullCharacter => "embedded null byte"
  | .unencodable e => e.message

end Fault

/-- Why a step has no result: an error that it reports, or a fault that ends the run. -/
inductive Failure (ε : Type) where
  | error (e : ε)
  | fault (f : Fault)
  deriving DecidableEq, Repr

def Failure.map {ε ζ : Type} (f : ε → ζ) : Failure ε → Failure ζ
  | .error e => .error (f e)
  | .fault x => .fault x

end SchemaChecks
