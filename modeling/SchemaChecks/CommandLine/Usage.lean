import SchemaChecks.CommandLine.Declaration
import SchemaChecks.Text.Quoted

/-!
Errors in the use of a command line.
-/

namespace SchemaChecks.CommandLine

inductive UsageError where
  | unknownOption (name : String) (alike : List String)
  | flagWithValue (name : String)
  | valueMissing (name : String)
  | optionMissing (name : String)
  | commandMissing
  | unknownCommand (name : String) (alike : List String)
  | extraArguments (args : List String)
  deriving DecidableEq, Repr

namespace UsageError

def hint (many : String → String) : List String → String
  | [] => ""
  | [one] => s!" Did you mean {one}?"
  | alike => " " ++ many (", ".intercalate (alike.mergeSort fun a b => decide (a ≤ b)))

def message : UsageError → String
  | .unknownOption name alike =>
    s!"No such option: {name}" ++ hint (fun names => s!"(Possible options: {names})") alike
  | .flagWithValue name => s!"Option {Text.quoted name} does not take a value."
  | .valueMissing name => s!"Option {Text.quoted name} requires an argument."
  | .optionMissing name => s!"Missing option {Text.quoted name}."
  | .commandMissing => "Missing command."
  | .unknownCommand name alike =>
    s!"No such command {Text.quoted name}." ++
      hint (fun names => s!"(Did you mean one of: {names}?)") (alike.map Text.quoted)
  | .extraArguments [one] => s!"Got unexpected extra argument ({one})"
  | .extraArguments args =>
    let listed := " ".intercalate args
    s!"Got unexpected extra arguments ({listed})"

def showsUsage : UsageError → Bool
  | .flagWithValue _ | .valueMissing _ => false
  | _ => true

end UsageError

end SchemaChecks.CommandLine
