import SchemaChecks.Files.Error
import SchemaChecks.Path
import SchemaChecks.Text.Utf8

/-!
A disk as a value: files and directories by the names that lead to them from the root. There are no
links, neither symbolic nor hard ones, so each file has one place, and no two names are spelled by
the same bytes. All that is said of a state of the files is said of one like this.
-/

namespace SchemaChecks

inductive NodeKind where
  | file
  | directory
  deriving DecidableEq, Repr

inductive Node where
  | file (content : List UInt8)
  | directory
  deriving DecidableEq, Repr

def Node.kind : Node → NodeKind
  | .file _ => .file
  | .directory => .directory

abbrev Place := List String

structure Disk where
  nodes : List (Place × Node)
  deriving DecidableEq, Repr

abbrev FileResult (α : Type) := Except FileErrorKind α

namespace Disk

/-- The root is always there. -/
def get? (d : Disk) (place : Place) : Option Node :=
  if place.isEmpty then some .directory else d.nodes.lookup place

def put (d : Disk) (place : Place) (n : Node) : Disk :=
  ⟨d.nodes.filter (·.1 ≠ place) ++ [(place, n)]⟩

def erase (d : Disk) (place : Place) : Disk := ⟨d.nodes.filter (·.1 ≠ place)⟩

def nameLimit : Nat := 255

/-- Follows names from a place. Every place on the way has to be a directory; the last one need not
be there. -/
def walk (d : Disk) (place : Place) : List String → FileResult Place
  | [] => .ok place
  | name :: rest =>
    match d.get? place with
    | none => .error .notFound
    | some (.file _) => .error .notADirectory
    | some .directory =>
      if name = ".." then d.walk place.dropLast rest
      else if nameLimit < (Text.Utf8.encodeName name.toList).length then .error .nameTooLong
      else d.walk (place ++ [name]) rest

def locate (d : Disk) (here : Place) (p : Path) : FileResult Place :=
  d.walk (if p.isAbsolute then [] else here) p.names

def nodeAt (d : Disk) (here : Place) (p : Path) : FileResult Node :=
  match d.locate here p with
  | .error e => .error e
  | .ok place =>
    match d.get? place with
    | some n => .ok n
    | none => .error .notFound

def read (d : Disk) (here : Place) (p : Path) : FileResult (List UInt8) :=
  match d.nodeAt here p with
  | .error e => .error e
  | .ok .directory => .error .isADirectory
  | .ok (.file content) => .ok content

def makeDirectory (d : Disk) (here : Place) (p : Path) : FileResult Disk :=
  match d.locate here p with
  | .error e => .error e
  | .ok place =>
    if (d.get? place).isSome then .error .alreadyExists else .ok (d.put place .directory)

def write (d : Disk) (here : Place) (p : Path) (content : List UInt8) : FileResult Disk :=
  match d.locate here p with
  | .error e => .error e
  | .ok place =>
    match d.get? place with
    | some .directory => .error .isADirectory
    | _ => .ok (d.put place (.file content))

def firstFree (d : Disk) (here : Place) (directory : Path) : List String → Option Path
  | [] => none
  | name :: rest =>
    let p := { directory with names := directory.names ++ [name] }
    match d.nodeAt here p with
    | .ok _ => d.firstFree here directory rest
    | .error _ => some p

def eightDigits (k : Nat) : String :=
  String.ofList (List.replicate (8 - (toString k).length) '0') ++ toString k

/-- Names of temporary files: as many as there are nodes, and one more. -/
def temporaryNames (d : Disk) (stem : String) : List String :=
  (List.range (d.nodes.length + 1)).map fun k => s!".{stem}.{eightDigits k}.tmp"

def createTemporary (d : Disk) (here : Place) (directory : Path) (stem : String) :
    FileResult (Path × Disk) :=
  match d.firstFree here directory (d.temporaryNames stem) with
  | none => .error .alreadyExists
  | some p => (d.write here p []).map (p, ·)

def replace (d : Disk) (here : Place) (source target : Path) : FileResult Disk :=
  match d.read here source, d.locate here source, d.locate here target with
  | .error e, _, _ => .error e
  | _, .error e, _ => .error e
  | _, _, .error e => .error e
  | .ok content, .ok old, .ok place =>
    match d.get? place with
    | some .directory => .error .isADirectory
    | _ => .ok ((d.erase old).put place (.file content))

def remove (d : Disk) (here : Place) (p : Path) : FileResult Disk :=
  match d.locate here p with
  | .error e => .error e
  | .ok place =>
    match d.get? place with
    | none => .error .notFound
    | some .directory => .error .isADirectory
    | some (.file _) => .ok (d.erase place)

end Disk

end SchemaChecks
