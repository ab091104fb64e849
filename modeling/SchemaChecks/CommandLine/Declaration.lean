/-!
What a command line may say: commands with their options.
-/

namespace SchemaChecks.CommandLine

inductive Action where
  /-- Takes a text. -/
  | text
  /-- Takes a path. -/
  | path
  | flag
  | help
  | version
  deriving DecidableEq, Repr

structure Opt where
  /-- The names without their dashes; a name of one letter has one dash. -/
  short : Option Char
  long : String
  action : Action
  required : Bool
  /-- The value that counts if none is given. -/
  default : Option String
  help : String
  deriving DecidableEq, Repr

namespace Opt

def longName (o : Opt) : String := "--" ++ o.long
def shortName (o : Opt) : Option String := o.short.map fun c => String.ofList ['-', c]

def takesValue (o : Opt) : Bool := o.action = .text || o.action = .path

def isEager (o : Opt) : Bool := o.action = .help || o.action = .version

end Opt

structure Command where
  /-- The words that call the command, the program's own name first. -/
  path : List String
  summary : String
  options : List Opt
  /-- How the rest of the line is told in the usage. -/
  operands : List String
  deriving Repr

namespace Command

def name (c : Command) : String := c.path.getLastD ""
def fullName (c : Command) : String := " ".intercalate c.path

end Command

def helpOption : Opt := ⟨some 'h', "help", .help, false, none, "Show this message and exit."⟩

end SchemaChecks.CommandLine
