import SchemaChecks.Pattern.CharSet

/-!
Regular expressions with groups, back references, assertions, atomic groups and conditions.
-/

namespace SchemaChecks.Pattern

inductive Anchor where
  | textStart
  | lineStart
  /-- The end of the text, or before a line feed that ends it. -/
  | lastLineEnd
  | lineEnd
  | textEnd
  | wordEdge (ascii : Bool)
  | notWordEdge (ascii : Bool)
  deriving DecidableEq, Repr

inductive Repetition where
  | greedy
  | lazy
  | possessive
  deriving DecidableEq, Repr

structure Width where
  least : Nat
  most : Nat
  deriving DecidableEq, Repr

inductive Expr where
  | empty
  | never
  | set (s : CharSet)
  /-- Any character, or any but a line feed. -/
  | any (lineFeed : Bool)
  | seq (p q : Expr)
  | alt (p q : Expr)
  | group (index : Nat) (p : Expr)
  /-- The text of a group again; `width` is that of the group. -/
  | backref (index : Nat) (casing : Casing) (width : Width)
  | anchor (a : Anchor)
  | lookAhead (negated : Bool) (p : Expr)
  /-- `p` right before the current place, where it takes as many characters as it does at least. -/
  | lookBehind (negated : Bool) (width : Width) (p : Expr)
  | atomic (p : Expr)
  | rep (kind : Repetition) (least : Nat) (most : Option Nat) (p : Expr)
  /-- `yes` if the group has matched, `no` otherwise. -/
  | cond (index : Nat) (yes no : Expr)
  deriving DecidableEq, Repr

/-- A number of repetitions beyond all that can be written. -/
def manyTimes : Nat := 4294967295

def Width.seq (a b : Width) : Width :=
  ⟨min (a.least + b.least) (manyTimes - 1), min (a.most + b.most) manyTimes⟩

def Width.alt (a b : Width) : Width := ⟨min a.least b.least, max a.most b.most⟩

def Expr.width : Expr → Width
  | .empty | .never | .anchor _ | .lookAhead _ _ | .lookBehind _ _ _ => ⟨0, 0⟩
  | .set _ | .any _ => ⟨1, 1⟩
  | .seq p q => p.width.seq q.width
  | .alt p q => p.width.alt q.width
  | .group _ p | .atomic p => p.width
  | .backref _ _ w => w
  | .rep _ least most p =>
    ⟨min (p.width.least * least) (manyTimes - 1),
     min (p.width.most * most.getD manyTimes) manyTimes⟩
  | .cond _ yes no => yes.width.alt no.width

structure Compiled where
  expr : Expr
  groups : Nat
  deriving DecidableEq, Repr

end SchemaChecks.Pattern
