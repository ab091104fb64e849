import SchemaChecks.Proofs.Source.Script

/-!
Reading the generated source back as a script: conditions, statements, blocks, and the module with
its patterns, functions and table. A source of any other form is not read.
-/

namespace SchemaChecks.Source

def isNameChar (c : Char) : Bool := c.isAlphanum || c = '_'

def name? (cs : List Char) : Option (String × List Char) :=
  match cs.takeWhile isNameChar with
  | [] => none
  | c :: w =>
    if c.isDigit then none else some (String.ofList (c :: w), cs.dropWhile isNameChar)

/-! ### Conditions -/

def class? (cs : List Char) : Option (Class × List Char) := do
  let (name, cs) ← name? cs
  let c ← Class.all.find? fun c => c.text = name
  some (c, cs)

def classList? : Nat → List Char → Option (List Class × List Char)
  | 0, _ => none
  | fuel + 1, cs => do
    let (c, cs) ← class? cs
    match after ", ".toList cs with
    | some cs => (classList? fuel cs).map fun p => (c :: p.1, p.2)
    | none => some ([c], cs)

def classes? (cs : List Char) : Option (List Class × List Char) :=
  match after "(".toList cs with
  | some cs => do
    let (classes, cs) ← classList? cs.length cs
    let cs ← after ")".toList cs
    some (classes, cs)
  | none => (class? cs).map fun p => ([p.1], p.2)

def classTest? (cs : List Char) : Option (ClassTest × List Char) := do
  let (negated, cs) := match after "not ".toList cs with
    | some cs => (true, cs)
    | none => (false, cs)
  let cs ← after "isinstance(value, ".toList cs
  let (classes, cs) ← classes? cs
  let cs ← after ")".toList cs
  some (⟨negated, classes⟩, cs)

def classTests? : Nat → List Char → Option (List ClassTest × List Char)
  | 0, _ => none
  | fuel + 1, cs => do
    let (t, cs) ← classTest? cs
    match after " or ".toList cs with
    | some cs => (classTests? fuel cs).map fun p => (t :: p.1, p.2)
    | none => some ([t], cs)

def measure? (cs : List Char) : Option (Measure × List Char) :=
  match after "len(value)".toList cs with
  | some cs => some (.length, cs)
  | none => (after "value".toList cs).map fun cs => (.value, cs)

def nullTest? (cs : List Char) : Option (Test × List Char) :=
  match after "value is None".toList cs with
  | some cs => some (.isNull, cs)
  | none => (after "value is not None".toList cs).map fun cs => (.isNotNull, cs)

def outsideTest? (cs : List Char) : Option (Test × List Char) := do
  let cs ← after "not ".toList cs
  let (least, cs) ← integer? cs
  let cs ← after " <= ".toList cs
  let (m, cs) ← measure? cs
  let cs ← after " <= ".toList cs
  let (most, cs) ← integer? cs
  some (.outside m least most, cs)

def boundTest? (cs : List Char) : Option (Test × List Char) := do
  let (m, cs) ← measure? cs
  match after " < ".toList cs with
  | some cs => (integer? cs).map fun p => (.below m p.1, p.2)
  | none => do
    let cs ← after " > ".toList cs
    let (most, cs) ← integer? cs
    some (.above m most, cs)

def matchTest? (cs : List Char) : Option (Test × List Char) := do
  let (name, cs) ← name? cs
  let cs ← after ".fullmatch(value) is None".toList cs
  some (.noMatch name, cs)

def test? (cs : List Char) : Option (Test × List Char) :=
  nullTest? cs
    <|> (classTests? cs.length cs).map (fun p => (.classes p.1, p.2))
    <|> outsideTest? cs
    <|> boundTest? cs
    <|> matchTest? cs

/-! ### Statements -/

/-- A line of a function as it stands without the lines that belong to it. -/
inductive Head where
  | remark
  | read (field : String)
  | raise (field text : String)
  | returnSubject
  | branch (t : Test)
  deriving DecidableEq, Repr

def readHead? (line : List Char) : Option Head := do
  let cs ← after "value = _read(instance, ".toList line
  let (field, cs) ← text? cs
  if cs = ")".toList then some (.read field) else none

def raiseHead? (line : List Char) : Option Head := do
  let cs ← after "raise ValidationError(".toList line
  let (field, cs) ← text? cs
  let cs ← after ", ".toList cs
  let (text, cs) ← text? cs
  if cs = ")".toList then some (.raise field text) else none

def branchHead? (line : List Char) : Option Head := do
  let cs ← after "if ".toList line
  let (t, cs) ← test? cs
  if cs = ":".toList then some (.branch t) else none

def head? (line : List Char) : Option Head :=
  if isRemark line then some .remark
  else if line = "return instance".toList then some .returnSubject
  else readHead? line <|> raiseHead? line <|> branchHead? line

def block? : Forest → Option Block
  | .nil => some .done
  | .cons line inner rest =>
    match head? line, block? inner, block? rest with
    | some .remark, some .done, some r => some (.remark r)
    | some (.read field), some .done, some r => some (.read field r)
    | some (.raise field text), some .done, some r => some (.raise field text r)
    | some .returnSubject, some .done, some r => some (.returnSubject r)
    | some (.branch t), some b, some r => if b = .done then none else some (.branch t b r)
    | _, _, _ => none

/-! ### Modules -/

/-- Names that statements use; a module that binds one of them means something else. -/
def reserved : List String :=
  ["_read", "ValidationError", "VALIDATORS", "instance", "value", "re", "Mapping", "Sequence",
    "Set", "isinstance", "len", "str", "int", "bool", "bytes", "bytearray"]

def newName? (cs : List Char) : Option (String × List Char) := do
  let (name, cs) ← name? cs
  if name ∈ reserved then none else some (name, cs)

def functionBinding? (line : List Char) (inner : Forest) : Option (String × Global) := do
  let cs ← after "def ".toList line
  let (name, cs) ← newName? cs
  let body ← block? inner
  if cs = "(instance):".toList then some (name, .function body) else none

def patternBinding? (line : List Char) (inner : Forest) : Option (String × Global) := do
  let (name, cs) ← newName? line
  let cs ← after " = re.compile(".toList cs
  let (regex, cs) ← text? cs
  if cs = ")".toList ∧ inner = .nil then some (name, .pattern regex) else none

def binding? (line : List Char) (inner : Forest) : Option (String × Global) :=
  functionBinding? line inner <|> patternBinding? line inner

def row? (line : List Char) : Option (String × String) := do
  let (schema, cs) ← text? line
  let cs ← after ": ".toList cs
  let (name, cs) ← name? cs
  if cs = ",".toList then some (schema, name) else none

def rows? : Forest → Option (List (String × String))
  | .nil => some []
  | .cons line .nil rest => do
    let row ← row? line
    let more ← rows? rest
    some (row :: more)
  | _ => none

def tableOpening : List Char := "VALIDATORS = \x7b".toList

def tableClosing : Forest := .cons "\x7d".toList .nil .nil

def script? : Forest → Option Script
  | .nil => none
  | .cons line inner rest =>
    if line = tableOpening then
      if rest = tableClosing then (rows? inner).map fun table => ⟨[], table⟩ else none
    else do
      let global ← binding? line inner
      let s ← script? rest
      some { s with globals := global :: s.globals }

/-- The script of a source that starts with a documentation string and the preamble. Null
characters, which no source may hold, are read like any other. -/
def read? (source : String) : Option Script :=
  match linesFrom .code source.toList with
  | [] => none
  | doc :: ls =>
    if isRemark doc then do
      let ls ← after (ValidatorModule.preamble.map String.toList) ls
      let forest ← nesting? ((kept ls).map measured)
      script? forest
    else none

def outline? (source : String) : Option Forest :=
  match linesFrom .code source.toList with
  | [] => none
  | doc :: ls =>
    if isRemark doc then do
      let ls ← after (ValidatorModule.preamble.map String.toList) ls
      nesting? ((kept ls).map measured)
    else none

theorem read?_eq_outline (source : String) : read? source = (outline? source).bind script? := by
  unfold read? outline?
  split
  · rfl
  · split
    · simp only [Option.bind_eq_bind, Option.bind_assoc]
    · rfl

end SchemaChecks.Source
