import SchemaChecks.Number.Binary64
import SchemaChecks.Text.Blank
import SchemaChecks.Text.DecimalDigit

/-!
Numbers in texts. Digits of every script count, and blank characters at either end are skipped.
-/

namespace SchemaChecks.Number

open SchemaChecks.Text

/-- Blank characters that may stand around a number: all but the information separators. -/
def isPadding (c : Char) : Bool := isBlank c && !(0x1c ≤ c.toNat && c.toNat ≤ 0x1f)

def trimmed (cs : List Char) : List Char :=
  ((cs.dropWhile isPadding).reverse.dropWhile isPadding).reverse

def asciiDigits (cs : List Char) : List Char :=
  cs.map fun c => match decimalDigit? c with
    | some d => Char.ofNat (0x30 + d)
    | none => c

def digitValue? (c : Char) : Option Nat :=
  let n := c.toNat
  if 0x30 ≤ n && n ≤ 0x39 then some (n - 0x30)
  else if 0x61 ≤ n && n ≤ 0x7a then some (n - 0x57)
  else if 0x41 ≤ n && n ≤ 0x5a then some (n - 0x37)
  else none

/-- The number written by digits of a base, `none` for no digit or a character that is none. -/
def ofDigits? (base : Nat) (cs : List Char) : Option Nat :=
  if cs.isEmpty then none
  else cs.foldl (fun acc c => do
    let n ← acc
    let d ← digitValue? c
    if d < base then some (n * base + d) else none) (some 0)

/-- The value of decimal digits; characters that are none count as zero. -/
def ofDecimalDigits (cs : List Char) : Nat :=
  cs.foldl (fun n c => n * 10 + (c.toNat - 0x30)) 0

def splitSign : List Char → Bool × List Char
  | '-' :: rest => (true, rest)
  | '+' :: rest => (false, rest)
  | cs => (false, cs)

def baseLetter (base : Nat) (c : Char) : Bool :=
  match base with
  | 2 => c = 'b' || c = 'B'
  | 8 => c = 'o' || c = 'O'
  | 16 => c = 'x' || c = 'X'
  | _ => false

def dropBaseMark (base : Nat) : List Char → List Char
  | '0' :: c :: rest => if baseLetter base c then rest else '0' :: c :: rest
  | cs => cs

def dropUnderscores? : List Char → Option (List Char)
  | [] => some []
  | ['_'] => none
  | '_' :: '_' :: _ => none
  | '_' :: c :: rest => dropUnderscores? (c :: rest)
  | c :: rest => (dropUnderscores? rest).map (c :: ·)

inductive IntError where
  /-- Not a number of the base. -/
  | malformed
  /-- More decimal digits than a number may be read from. -/
  | tooManyDigits (count : Nat)
  deriving DecidableEq, Repr

/-- The most decimal digits that are converted between text and number. -/
def digitLimit : Nat := 4300

def readInt (base : Nat) (cs : List Char) : Except IntError Int :=
  let (negative, body) := splitSign (asciiDigits (trimmed cs))
  let marked := dropBaseMark base body
  let body := if marked.length < body.length then
      match marked with
      | '_' :: rest => rest
      | other => other
    else body
  match body.head? with
  | some '_' => .error .malformed
  | _ =>
    match dropUnderscores? body with
    | none => .error .malformed
    | some digits =>
      match ofDigits? base digits with
      | none => .error .malformed
      | some n =>
        if base = 10 && digitLimit < digits.length then .error (.tooManyDigits digits.length)
        else .ok (if negative then -(n : Int) else n)

def readExponent? : List Char → Option Int
  | [] => some 0
  | c :: rest =>
    if c = 'e' || c = 'E' then
      let (negative, digits) := splitSign rest
      (ofDigits? 10 digits).map fun n => if negative then -(n : Int) else n
    else none

def readUnsignedReal? (negative : Bool) (cs : List Char) : Option Binary64 :=
  let whole := cs.takeWhile Char.isDigit
  let rest := cs.dropWhile Char.isDigit
  let (fraction, rest) := match rest with
    | '.' :: more => (more.takeWhile Char.isDigit, more.dropWhile Char.isDigit)
    | other => ([], other)
  if whole.isEmpty && fraction.isEmpty then none
  else (readExponent? rest).map fun e =>
    Binary64.ofDecimal negative (ofDecimalDigits (whole ++ fraction)) (e - fraction.length)

def readReal? (s : List Char) : Option Binary64 :=
  match dropUnderscores? (asciiDigits (trimmed s)) with
  | none => none
  | some cs =>
    let (negative, body) := splitSign cs
    match String.ofList (body.map Char.toLower) with
    | "inf" | "infinity" => some (.infinity negative)
    | "nan" => some .nan
    | _ => readUnsignedReal? negative body

end SchemaChecks.Number
