import SchemaChecks.CommandLine.Declaration

/-!
Help texts: the usage of a command, its summary, and lists in two columns, no line longer than the
width.
-/

namespace SchemaChecks.CommandLine.Help

def width : Nat := 78

def columnLimit : Nat := 30

def blanks (n : Nat) : String := String.ofList (List.replicate n ' ')

structure Word where
  gap : Nat
  text : String

def wordsOf (sentences : List String) : List Word :=
  sentences.flatMap fun s =>
    match s.splitOn " " with
    | [] => []
    | first :: rest => ⟨2, first⟩ :: rest.map (⟨1, ·⟩)

def wrap (limit : Nat) : List Word → List String
  | [] => []
  | w :: rest =>
    match rest.foldl (fun (lines, line) v =>
      if line.length + v.gap + v.text.length ≤ limit then (lines, line ++ blanks v.gap ++ v.text)
      else (lines ++ [line], v.text)) (([] : List String), w.text) with
    | (lines, line) => lines ++ [line]

structure Row where
  term : String
  sentences : List String

def firstColumn (rows : List Row) : Nat :=
  min ((rows.map (·.term.length)).foldl max 0) columnLimit + 2

def rowLines (column : Nat) (r : Row) : List String :=
  let indent := blanks (column + 2)
  let texts := wrap (width - column - 2) (wordsOf r.sentences)
  if r.term.length + 2 ≤ column then
    match texts with
    | [] => ["  " ++ r.term]
    | first :: rest =>
      ("  " ++ r.term ++ blanks (column - r.term.length) ++ first) :: rest.map (indent ++ ·)
  else ("  " ++ r.term) :: texts.map (indent ++ ·)

def titled (title : String) (rows : List Row) : List String :=
  "" :: (title ++ ":") :: rows.flatMap (rowLines (firstColumn rows))

def metavar : Action → String
  | .text => " TEXT"
  | .path => " PATH"
  | .flag | .help | .version => ""

def optionRow (o : Opt) : Row where
  term := ", ".intercalate (o.shortName.toList ++ [o.longName]) ++ metavar o.action
  sentences :=
    let remarks := (o.default.map fun d => s!"default: {d}").toList ++
      (if o.required then ["required"] else [])
    if remarks.isEmpty then [o.help] else [o.help, "[" ++ "; ".intercalate remarks ++ "]"]

/-- As many words as fit with three dots after them, or all of them. -/
def shorten (limit : Nat) (s : String) : String :=
  if s.length ≤ limit then s
  else
    let kept := (s.splitOn " ").foldl (fun (line, go) word =>
      let longer := if line.isEmpty then word else line ++ " " ++ word
      if go && longer.length + 3 ≤ limit then (longer, true) else (line, false)) ("", true)
    kept.1 ++ "..."

def commandRows (commands : List Command) : List Row :=
  let widest := (commands.map (·.name.length)).foldl max 0
  (commands.mergeSort fun a b => decide (a.name ≤ b.name)).map fun c =>
    ⟨c.name, [shorten (width - 6 - widest) c.summary]⟩

def usage (c : Command) : String :=
  "Usage: " ++ " ".intercalate (c.fullName :: "[OPTIONS]" :: c.operands)

def lines (c : Command) (below : List Command) : List String :=
  [usage c, "", "  " ++ c.summary] ++ titled "Options" (c.options.map optionRow) ++
    (if below.isEmpty then [] else titled "Commands" (commandRows below))

def text (c : Command) (below : List Command) : String := "\n".intercalate (lines c below)

end SchemaChecks.CommandLine.Help
