import SchemaChecks.Text.LetterCase

/-!
Paths of files: names with slashes between them. Empty names and single dots say nothing and are
left out.
-/

namespace SchemaChecks

/-- Where a path starts: at the working directory, at the root, or at the root that two slashes
name. -/
inductive Anchorage where
  | relative
  | root
  | doubleRoot
  deriving DecidableEq, Repr

structure Path where
  anchorage : Anchorage
  names : List String
  deriving DecidableEq, Repr

namespace Path

def splitSlashes : List Char → List (List Char)
  | [] => [[]]
  | c :: rest =>
    if c = '/' then [] :: splitSlashes rest
    else match splitSlashes rest with
      | [] => [[c]]
      | part :: parts => (c :: part) :: parts

def anchorageOf : List Char → Anchorage
  | '/' :: '/' :: '/' :: _ => .root
  | '/' :: '/' :: _ => .doubleRoot
  | '/' :: _ => .root
  | _ => .relative

def ofText (s : String) : Path where
  anchorage := anchorageOf s.toList
  names := ((splitSlashes s.toList).filter fun n => n ≠ [] && n ≠ ['.']).map String.ofList

def Anchorage.text : Anchorage → String
  | .relative => ""
  | .root => "/"
  | .doubleRoot => "//"

def text (p : Path) : String :=
  if p.anchorage = .relative && p.names.isEmpty then "."
  else Anchorage.text p.anchorage ++ "/".intercalate p.names

def isAbsolute (p : Path) : Bool := p.anchorage ≠ .relative

def name (p : Path) : String := p.names.getLastD ""

def parent (p : Path) : Path := { p with names := p.names.dropLast }

def join (p q : Path) : Path := if q.isAbsolute then q else { p with names := p.names ++ q.names }

/-- The end of a name from its last dot on, which is neither its first nor its last character. -/
def suffixOf (name : List Char) : List Char :=
  let tail := (name.reverse.takeWhile (· ≠ '.')).reverse
  if tail.isEmpty || name.length ≤ tail.length + 1 then [] else '.' :: tail

def suffix (p : Path) : String := String.ofList (suffixOf p.name.toList)

/-- Names without the steps up: each takes the name before it away, as far as there is one. -/
def climb (names : List String) : List String :=
  (names.foldl (fun acc n => if n = ".." then acc.tail else n :: acc) []).reverse

/-- The absolute path that names the same file from the directory `here`, without steps up. -/
def resolve (here : List String) (p : Path) : Path where
  anchorage := .root
  names := climb (if p.isAbsolute then p.names else here ++ p.names)

end Path

end SchemaChecks
