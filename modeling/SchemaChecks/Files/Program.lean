import SchemaChecks.Files.Disk
import SchemaChecks.Log

/-!
Programs that work on files: each is done, or asks for one operation and goes on with the answer.
What an operation does is said elsewhere, by whoever runs the program.
-/

namespace SchemaChecks

namespace Path

/-- No file's name holds a null character, or a surrogate that stands for no byte. -/
def isRefusedName (n : String) : Bool :=
  n.toList.any fun c => c = Char.ofNat 0 || (Text.isSurrogate c && !Text.isByteSurrogate c)

def isRefused (p : Path) : Bool := p.names.any isRefusedName

def refusalOf (text : String) : Fault :=
  match Text.Utf8.unencodable? Text.isByteSurrogate text.toList with
  | some e => .unencodable e
  | none => .nullCharacter

def refusal (p : Path) : Fault := refusalOf p.text

/-- The names that a path leads through from its start, with the steps up taken. A relative path may
step up from where it starts. -/
def followed (isAbsolute : Bool) (names : List String) : List String :=
  (names.foldl (fun acc n =>
    if n ≠ ".." then n :: acc
    else match acc with
      | [] => if isAbsolute then [] else [n]
      | last :: above => if last = ".." then n :: acc else above) []).reverse

/-- The path up to its first refused name, where following it ends. -/
def refusedPart (p : Path) : Path where
  anchorage := if p.isAbsolute then .root else .relative
  names :=
    followed p.isAbsolute (p.names.takeWhile (!isRefusedName ·)) ++
      (p.names.dropWhile (!isRefusedName ·)).take 1

def resolved (here : Place) (p : Path) : Except Fault Path :=
  if p.isRefused then .error p.refusedPart.refusal else .ok (p.resolve here)

end Path

inductive Request where
  /-- The directory in which the program runs. -/
  | here
  | kindOf (p : Path)
  | read (p : Path)
  | makeDirectory (p : Path)
  /-- A new empty file in a directory, under a name of its own that holds the stem. -/
  | createTemporary (directory : Path) (stem : String)
  | write (p : Path) (content : List UInt8)
  | replace (source target : Path)
  | remove (p : Path)
  | splitLog (level threshold : Int)
  | note (r : Log.Record)
  | print (stream : Stream) (text : String)
  deriving Repr

abbrev Reply (α : Type) := Except (Failure FileError) α

def Request.Answer : Request → Type
  | .here => Place
  | .kindOf _ => Reply NodeKind
  | .read _ => Reply (List UInt8)
  | .createTemporary _ _ => Reply Path
  | .makeDirectory _ | .write _ _ | .replace _ _ | .remove _ => Reply Unit
  | .splitLog _ _ | .note _ | .print _ _ => Unit

inductive Program (α : Type) where
  | done (a : α)
  | ask (r : Request) (next : r.Answer → Program α)

namespace Program

def bind {α β : Type} : Program α → (α → Program β) → Program β
  | .done a, f => f a
  | .ask r next, f => .ask r fun a => (next a).bind f

instance : Monad Program where
  pure := .done
  bind := bind

def perform (r : Request) : Program r.Answer := .ask r .done

def runWith {σ α : Type} (step : (r : Request) → σ → r.Answer × σ) : Program α → σ → α × σ
  | .done a, s => (a, s)
  | .ask r next, s => runWith step (next (step r s).1) (step r s).2

def kindOf (p : Path) : Program (Reply NodeKind) := perform (.kindOf p)
def read (p : Path) : Program (Reply (List UInt8)) := perform (.read p)
def makeDirectory (p : Path) : Program (Reply Unit) := perform (.makeDirectory p)
def createTemporary (directory : Path) (stem : String) : Program (Reply Path) :=
  perform (.createTemporary directory stem)
def write (p : Path) (content : List UInt8) : Program (Reply Unit) := perform (.write p content)
def replace (source target : Path) : Program (Reply Unit) := perform (.replace source target)
def remove (p : Path) : Program (Reply Unit) := perform (.remove p)

def note (logger : String) (level : Int) (message : String) : Program Unit :=
  perform (.note ⟨logger, level, message⟩)

def noteAll : List Log.Record → Program Unit
  | [] => pure ()
  | r :: rest => do
    perform (.note r)
    noteAll rest

/-- A line on a stream, which is a terminal's: others would lose colour sequences. -/
def echo (stream : Stream) (line : String) : Program Unit := perform (.print stream (line ++ "\n"))

/-- The absolute path without steps up that names the same file. -/
def resolve (p : Path) : Program (Except Fault Path) := do
  let here ← perform .here
  pure (p.resolved here)

def exists? (p : Path) : Program (Except FileError Bool) := do
  match ← kindOf p with
  | .ok _ => pure (.ok true)
  | .error (.fault _) => pure (.ok false)
  | .error (.error e) => pure (if e.kind.isAbsence then .ok false else .error e)

end Program

end SchemaChecks
