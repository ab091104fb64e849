import SchemaChecks.CommandLine.Usage
import SchemaChecks.Text.Similarity

/-!
Reading the arguments of a command by its options. An option takes its value from the argument
itself, or else the next argument whatever it looks like. Two dashes end the options.
-/

namespace SchemaChecks.CommandLine

structure Given where
  option : Opt
  value : String
  deriving DecidableEq, Repr

structure Line where
  given : List Given
  operands : List String
  deriving DecidableEq, Repr

namespace Arguments

def longOption? (options : List Opt) (name : String) : Option Opt :=
  options.find? (·.longName = name)

def shortOption? (options : List Opt) (c : Char) : Option Opt :=
  options.find? (·.short = some c)

def unknown (options : List Opt) (name : String) : UsageError :=
  .unknownOption name (Text.Similarity.closeTo name (options.map Opt.longName))

def splitValue (arg : List Char) : List Char × Option (List Char) :=
  match arg.dropWhile (· ≠ '=') with
  | _ :: value => (arg.takeWhile (· ≠ '='), some value)
  | [] => (arg, none)

/-- What an argument of options says: options with their values, and an option that waits for the
next argument, with the name it was called by. -/
structure Reading where
  given : List Given
  waiting : Option (Opt × String)

/-- Letters after a single dash. The first option with a value takes what follows it. -/
def readLetters (options : List Opt) : List Char → Except UsageError Reading
  | [] => .ok ⟨[], none⟩
  | c :: rest =>
    let name := String.ofList ['-', c]
    match shortOption? options c with
    | none => .error (.unknownOption name [])
    | some o =>
      if o.takesValue then
        if rest.isEmpty then .ok ⟨[], some (o, name)⟩ else .ok ⟨[⟨o, String.ofList rest⟩], none⟩
      else (readLetters options rest).map fun r => ⟨⟨o, ""⟩ :: r.given, r.waiting⟩

def readOption (options : List Opt) (arg : String) : Except UsageError Reading :=
  let (nameChars, value) := splitValue arg.toList
  let name := String.ofList nameChars
  match longOption? options name with
  | some o =>
    match o.takesValue, value with
    | true, some v => .ok ⟨[⟨o, String.ofList v⟩], none⟩
    | true, none => .ok ⟨[], some (o, name)⟩
    | false, some _ => .error (.flagWithValue name)
    | false, none => .ok ⟨[⟨o, ""⟩], none⟩
  | none =>
    match arg.toList with
    | '-' :: '-' :: _ => .error (unknown options name)
    | _ :: letters => readLetters options letters
    | [] => .error (unknown options name)

def isOption (arg : String) : Bool := arg.startsWith "-" && 1 < arg.length

def withGiven (given : List Given) (l : Line) : Line := { l with given := given ++ l.given }

/-- Reads a line. If `mixed`, options may follow operands; else the first operand ends them. -/
def read (options : List Opt) (mixed : Bool) : List String → Except UsageError Line
  | [] => .ok ⟨[], []⟩
  | arg :: rest =>
    if arg = "--" then .ok ⟨[], rest⟩
    else if isOption arg then
      match readOption options arg with
      | .error e => .error e
      | .ok ⟨given, none⟩ => (read options mixed rest).map (withGiven given)
      | .ok ⟨given, some (o, name)⟩ =>
        match rest with
        | [] => .error (.valueMissing name)
        | value :: rest => (read options mixed rest).map (withGiven (given ++ [⟨o, value⟩]))
    else if mixed then
      (read options mixed rest).map fun l => { l with operands := arg :: l.operands }
    else .ok ⟨[], arg :: rest⟩

end Arguments

namespace Line

def eager? (l : Line) : Option Action := (l.given.find? (·.option.isEager)).map (·.option.action)

def value? (l : Line) (o : Opt) : Option String :=
  match l.given.reverse.find? (·.option = o) with
  | some g => some g.value
  | none => o.default

def has (l : Line) (o : Opt) : Bool := l.given.any (·.option = o)

def missing? (l : Line) (options : List Opt) : Option Opt :=
  options.find? fun o => o.required && (l.value? o).isNone

def paths (l : Line) : List String :=
  (l.given.filter (·.option.action = .path)).map fun g => (l.value? g.option).getD ""

end Line

end SchemaChecks.CommandLine
