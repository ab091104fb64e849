import SchemaChecks.Fault
import SchemaChecks.Text.Quoted

/-!
Errors of file operations.
-/

namespace SchemaChecks

inductive FileErrorKind where
  | notFound
  | alreadyExists
  | notADirectory
  | isADirectory
  | nameTooLong
  | other (number : Nat) (text : String)
  deriving DecidableEq, Repr

namespace FileErrorKind

def number : FileErrorKind → Nat
  | .notFound => 2
  | .alreadyExists => 17
  | .notADirectory => 20
  | .isADirectory => 21
  | .nameTooLong => 36
  | .other number _ => number

def text : FileErrorKind → String
  | .notFound => "No such file or directory"
  | .alreadyExists => "File exists"
  | .notADirectory => "Not a directory"
  | .isADirectory => "Is a directory"
  | .nameTooLong => "File name too long"
  | .other _ text => text

def isAbsence : FileErrorKind → Bool
  | .notFound | .notADirectory => true
  | _ => false

end FileErrorKind

structure FileError where
  kind : FileErrorKind
  path : String
  target : Option String
  deriving DecidableEq, Repr

def FileError.message (e : FileError) : String :=
  let place := match e.target with
    | none => Text.quoted e.path
    | some target => Text.quoted e.path ++ " -> " ++ Text.quoted target
  s!"[Errno {e.kind.number}] {e.kind.text}: {place}"

end SchemaChecks
