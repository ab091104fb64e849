import SchemaChecks.Text.Surrogate

/-!
A place in a YAML text: the rest of the text with its index, line and column. The end of the text
reads as a NUL, which no YAML text holds.
-/

namespace SchemaChecks.Yaml

def isAllowed (c : Char) : Bool :=
  let n := Text.codeOf c
  n = 0x09 || n = 0x0a || n = 0x0d || (0x20 ≤ n && n ≤ 0x7e) || n = 0x85 ||
    (0xa0 ≤ n && n ≤ 0xd7ff) || (0xe000 ≤ n && n ≤ 0xfffd) || 0x10000 ≤ n

def nul : Char := Char.ofNat 0

def isBreak (c : Char) : Bool :=
  c = '\n' || c = '\r' || c.toNat = 0x85 || c.toNat = 0x2028 || c.toNat = 0x2029

def isEndOrBreak (c : Char) : Bool := c = nul || isBreak c

def isGap (c : Char) : Bool := c = ' ' || isEndOrBreak c

def isWideGap (c : Char) : Bool := c = '\t' || isGap c

structure Cursor where
  rest : List Char
  index : Nat
  line : Nat
  column : Nat

namespace Cursor

def start (text : List Char) : Cursor := ⟨text, 0, 0, 0⟩

def peek (c : Cursor) : Char := c.rest.headD nul

def peekAt (c : Cursor) (n : Nat) : Char := (c.rest.drop n).headD nul

/-- One character on. A carriage return before a line feed does not end its line yet, and a byte
order mark takes no column. -/
def step (c : Cursor) : Cursor :=
  match c.rest with
  | [] => c
  | x :: rest =>
    if isBreak x && !(x = '\r' && rest.head? = some '\n') then ⟨rest, c.index + 1, c.line + 1, 0⟩
    else if x = '\ufeff' then { c with rest := rest, index := c.index + 1 }
    else { c with rest := rest, index := c.index + 1, column := c.column + 1 }

def steps : Nat → Cursor → Cursor
  | 0, c => c
  | n + 1, c => steps n c.step

def span (p : Char → Bool) (c : Cursor) : List Char × Cursor :=
  let run := c.rest.takeWhile p
  (run, steps run.length c)

def skip (p : Char → Bool) (c : Cursor) : Cursor := (c.span p).2

/-- Over one line break: its line feed, or the separator itself where it is one. -/
def lineBreak? (c : Cursor) : Option (Char × Cursor) :=
  match c.rest with
  | '\r' :: '\n' :: _ => some ('\n', c.step.step)
  | x :: _ =>
    if x = '\r' || x = '\n' || x.toNat = 0x85 then some ('\n', c.step)
    else if isBreak x then some (x, c.step)
    else none
  | [] => none

def atDocumentMark (c : Cursor) : Bool :=
  match c.rest with
  | '-' :: '-' :: '-' :: rest => isWideGap (rest.headD nul)
  | '.' :: '.' :: '.' :: rest => isWideGap (rest.headD nul)
  | _ => false

end Cursor

end SchemaChecks.Yaml
