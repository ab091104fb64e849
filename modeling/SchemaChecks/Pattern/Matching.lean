import SchemaChecks.Pattern.Basic

/-!
Whether a whole text matches an expression. Alternatives are tried in order and repetitions as their
kind says; a later failure goes back to the last choice. A repetition beyond the least count may
not start twice in a row at one place, so it ends. Atomic groups, possessive repetitions and
assertions keep the first way in which they succeed.
-/

namespace SchemaChecks.Pattern

structure Place where
  pos : Nat
  starts : Array (Option Nat)
  ends : Array (Option Nat)
  deriving Repr

namespace Place

def span? (s : Place) (index : Nat) : Option (Nat × Nat) :=
  match s.starts[index]?, s.ends[index]? with
  | some (some a), some (some b) => if a ≤ b then some (a, b) else none
  | _, _ => none

def openGroup (index : Nat) (s : Place) : Place :=
  { s with starts := s.starts.setIfInBounds index (some s.pos) }

def closeGroup (index : Nat) (s : Place) : Place :=
  { s with ends := s.ends.setIfInBounds index (some s.pos) }

end Place

def isWordAt (text : Array Char) (ascii : Bool) (i : Nat) : Bool :=
  match text[i]? with
  | some c => CharClass.word.holds ascii c
  | none => false

def atWordEdge (text : Array Char) (ascii : Bool) (pos : Nat) : Bool :=
  (0 < pos && isWordAt text ascii (pos - 1)) != isWordAt text ascii pos

/-- An empty text has neither word edges nor places that are none. -/
def Anchor.holds (text : Array Char) (pos : Nat) : Anchor → Bool
  | .textStart => pos = 0
  | .lineStart => pos = 0 || text[pos - 1]? = some '\n'
  | .lastLineEnd => pos = text.size || (pos + 1 = text.size && text[pos]? = some '\n')
  | .lineEnd => pos = text.size || text[pos]? = some '\n'
  | .textEnd => pos = text.size
  | .wordEdge ascii => text.size ≠ 0 && atWordEdge text ascii pos
  | .notWordEdge ascii => text.size ≠ 0 && !atWordEdge text ascii pos

/-- The text from `i` goes on with the same `n` characters as from `j`, up to letter case. -/
def sameText (text : Array Char) (casing : Casing) : Nat → Nat → Nat → Bool
  | 0, _, _ => true
  | n + 1, i, j =>
    match text[i]?, text[j]? with
    | some a, some b =>
      casing.fold (Text.codeOf a) = casing.fold (Text.codeOf b) &&
        sameText text casing n (i + 1) (j + 1)
    | _, _ => false

abbrev Rest := Place → Option Place

abbrev Walk := Rest → Place → Option Place

def mayRepeat (most : Option Nat) (count : Nat) (last : Option Nat) (s : Place) : Bool :=
  most.all (count < ·) && last ≠ some s.pos

/-- As often as possible, fewer times when the rest fails. `last` is where the last repetition
beyond the least count started. -/
def greedy (body : Walk) (least : Nat) (most : Option Nat) (k : Rest) :
    Nat → Nat → Option Nat → Place → Option Place
  | 0, _, _, _ => none
  | fuel + 1, count, last, s =>
    if count < least then body (greedy body least most k fuel (count + 1) last) s
    else if mayRepeat most count last s then
      match body (greedy body least most k fuel (count + 1) (some s.pos)) s with
      | some r => some r
      | none => k s
    else k s

/-- As rarely as possible, more often when the rest fails. -/
def reluctant (body : Walk) (least : Nat) (most : Option Nat) (k : Rest) :
    Nat → Nat → Option Nat → Place → Option Place
  | 0, _, _, _ => none
  | fuel + 1, count, last, s =>
    if count < least then body (reluctant body least most k fuel (count + 1) last) s
    else
      match k s with
      | some r => some r
      | none =>
        if mayRepeat most count last s then
          body (reluctant body least most k fuel (count + 1) (some s.pos)) s
        else none

def possessive (body : Walk) (least : Nat) (most : Option Nat) :
    Nat → Nat → Option Nat → Place → Option Place
  | 0, _, _, _ => none
  | fuel + 1, count, last, s =>
    if count < least then
      match body some s with
      | some r => possessive body least most fuel (count + 1) last r
      | none => none
    else if mayRepeat most count last s then
      match body some s with
      | some r => possessive body least most fuel (count + 1) (some s.pos) r
      | none => some s
    else some s

def Expr.walk (text : Array Char) : Expr → Walk
  | .empty, k, s => k s
  | .never, _, _ => none
  | .set cs, k, s =>
    match text[s.pos]? with
    | some c => if cs.test c then k { s with pos := s.pos + 1 } else none
    | none => none
  | .any lineFeed, k, s =>
    match text[s.pos]? with
    | some c => if lineFeed || c ≠ '\n' then k { s with pos := s.pos + 1 } else none
    | none => none
  | .seq p q, k, s => p.walk text (q.walk text k) s
  | .alt p q, k, s =>
    match p.walk text k s with
    | some r => some r
    | none => q.walk text k s
  | .group index p, k, s =>
    p.walk text (fun s => k (s.closeGroup index)) (s.openGroup index)
  | .backref index casing _, k, s =>
    match s.span? index with
    | some (a, b) =>
      if sameText text casing (b - a) a s.pos then k { s with pos := s.pos + (b - a) } else none
    | none => none
  | .anchor a, k, s => if a.holds text s.pos then k s else none
  | .lookAhead negated p, k, s =>
    match p.walk text some s with
    | some r => if negated then none else k { r with pos := s.pos }
    | none => if negated then k s else none
  | .lookBehind negated width p, k, s =>
    if s.pos < width.least then (if negated then k s else none)
    else
      match p.walk text some { s with pos := s.pos - width.least } with
      | some r => if negated then none else k { r with pos := s.pos }
      | none => if negated then k s else none
  | .atomic p, k, s =>
    match p.walk text some s with
    | some r => k r
    | none => none
  | .rep kind least most p, k, s =>
    let fuel := least + (text.size - s.pos) + 2
    match kind with
    | .greedy => greedy (p.walk text) least most k fuel 0 none s
    | .lazy => reluctant (p.walk text) least most k fuel 0 none s
    | .possessive =>
      match possessive (p.walk text) least most fuel 0 none s with
      | some r => k r
      | none => none
  | .cond index yes no, k, s =>
    match s.span? index with
    | some _ => yes.walk text k s
    | none => no.walk text k s

def Compiled.matchesAll (p : Compiled) (text : String) : Bool :=
  let chars := text.toList.toArray
  let start : Place :=
    { pos := 0, starts := Array.replicate (p.groups + 1) none
      ends := Array.replicate (p.groups + 1) none }
  (p.expr.walk chars (fun s => if s.pos = chars.size then some s else none) start).isSome

end SchemaChecks.Pattern
