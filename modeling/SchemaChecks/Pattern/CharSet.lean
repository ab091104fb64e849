import SchemaChecks.Text.Blank
import SchemaChecks.Text.DecimalDigit
import SchemaChecks.Text.Letter
import SchemaChecks.Text.LetterCase
import SchemaChecks.Text.Surrogate

/-!
Sets of characters in patterns. A set is tested against one code point, under one of three ways to
treat letter case: to tell cases apart, to join the cases of ASCII letters, or to join those of all
letters.
-/

namespace SchemaChecks.Pattern

inductive Casing where
  | exact
  | ascii
  | unicode
  deriving DecidableEq, Repr

inductive CharClass where
  | digit
  | space
  | word
  deriving DecidableEq, Repr

/-- One member of a set. A class may be taken over ASCII only, and may stand for its complement. -/
inductive SetItem where
  | code (n : Nat)
  | range (lo hi : Nat)
  | category (c : CharClass) (ascii negated : Bool)
  deriving DecidableEq, Repr

structure CharSet where
  negated : Bool
  items : List SetItem
  casing : Casing
  deriving DecidableEq, Repr

def CharClass.holds (c : CharClass) (ascii : Bool) (x : Char) : Bool :=
  match c, ascii with
  | .digit, false => Text.isDecimalDigit x
  | .digit, true => x.isDigit
  | .space, false => Text.isBlank x
  | .space, true => Text.isAsciiBlank x
  | .word, false => Text.isWordChar x
  | .word, true => Text.isAsciiWordChar x

/-- The code point that stands for all cases of a letter, up to letters with a shared upper case. -/
def Casing.fold : Casing → Nat → Nat
  | .exact, n => n
  | .ascii, n => Text.asciiLowerCode n
  | .unicode, n => Text.lowerCode n

def within (lo hi n : Nat) : Bool := lo ≤ n && n ≤ hi

def capitalsOf (n : Nat) : List Nat :=
  Text.lowerRuns.toList.filterMap fun r =>
    let m := r.first + (n - r.target)
    if r.target ≤ n && m ≤ r.last && (n - r.target) % r.step = 0 then some m else none

def lowersInto (lo hi n : Nat) : Bool :=
  (within lo hi n && Text.lowerCode n = n) ||
    (within 0x61 0x7a n && within lo hi (n - 32)) ||
    (capitalsOf n).any (within lo hi)

def SetItem.fits (casing : Casing) (n : Nat) : SetItem → Bool
  | .code m =>
    match casing with
    | .exact => m = n
    | .ascii => Text.asciiLowerCode m = n
    | .unicode => Text.lowerCode m = n || (Text.lowerSiblings n).contains (Text.lowerCode m)
  | .range lo hi =>
    match casing with
    | .exact => within lo hi n
    | .ascii =>
      (within lo hi n && Text.asciiLowerCode n = n) ||
        (within 0x61 0x7a n && within lo hi (n - 32))
    | .unicode => (n :: Text.lowerSiblings n).any (lowersInto lo hi)
  | .category c ascii negated => c.holds ascii (Char.ofNat n) != negated

def CharSet.test (s : CharSet) (x : Char) : Bool :=
  s.items.any (·.fits s.casing (s.casing.fold (Text.codeOf x))) != s.negated

end SchemaChecks.Pattern
