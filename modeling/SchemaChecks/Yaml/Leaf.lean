import SchemaChecks.Number.Reading
import SchemaChecks.Text.LetterCase
import SchemaChecks.Tree
import SchemaChecks.Yaml.Tag

/-!
Reading the text of a scalar under its tag.
-/

namespace SchemaChecks.Yaml

def readInt (base : Nat) (cs : List Char) : Except ScalarFault Int :=
  match Number.readInt base cs with
  | .ok i => .ok i
  | .error .malformed => .error (.notAnInt base (String.ofList cs))
  | .error (.tooManyDigits count) => .error (.tooManyDigits count)

def readReal (cs : List Char) : Except ScalarFault Binary64 :=
  match Number.readReal? cs with
  | some x => .ok x
  | none => .error (.notAReal (String.ofList cs))

def splitColons : List Char → List (List Char)
  | [] => [[]]
  | c :: rest =>
    if c = ':' then [] :: splitColons rest
    else match splitColons rest with
      | [] => [[c]]
      | part :: parts => (c :: part) :: parts

def withoutUnderscores (cs : List Char) : List Char := cs.filter (· ≠ '_')

/-- An integer: binary after `0b`, hexadecimal after `0x`, octal after `0`, in sixtieths with
colons, decimal otherwise. -/
def intOf (text : List Char) : Except ScalarFault Int :=
  let value := withoutUnderscores text
  let (negative, body) := Number.splitSign value
  let signed (i : Int) : Int := if negative then -i else i
  match body with
  | [] => .error .noNumber
  | ['0'] => .ok 0
  | '0' :: 'b' :: rest => (readInt 2 rest).map signed
  | '0' :: 'x' :: rest => (readInt 16 rest).map signed
  | '0' :: _ => (readInt 8 body).map signed
  | _ =>
    if body.contains ':' then do
      let parts ← (splitColons body).mapM (readInt 10)
      .ok (signed (parts.foldl (fun n part => n * 60 + part) 0))
    else (readInt 10 body).map signed

/-- The sum of parts, last one first, where each weighs sixty times the one before. -/
def sixtiethSum : Nat → Binary64 → List Binary64 → Except ScalarFault Binary64
  | _, sum, [] => .ok sum
  | base, sum, part :: rest =>
    let weight := Binary64.ofInt base
    if weight.isInfinite then .error .tooLargeForReal
    else sixtiethSum (base * 60) (sum.add (part.mul weight)) rest

def realOf (text : List Char) : Except ScalarFault Binary64 :=
  let value := (Text.lowercase (String.ofList (withoutUnderscores text))).toList
  if value.isEmpty then .error .noNumber
  else
    let (negative, body) := Number.splitSign value
    let signed (x : Binary64) : Binary64 := if negative then x.neg else x
    if body = ['.', 'i', 'n', 'f'] then .ok (.infinity negative)
    else if body = ['.', 'n', 'a', 'n'] then .ok .nan
    else if body.contains ':' then do
      let parts ← (splitColons body).mapM readReal
      (sixtiethSum 1 (.zero false) parts.reverse).map signed
    else (readReal body).map signed

def truthOf (text : String) : Except ScalarFault Bool :=
  let word := Text.lowercase text
  match truthWords.lookup word with
  | some b => .ok b
  | none => .error (.notATruthValue word)

def natOf (digits : List Char) : Nat := Number.ofDecimalDigits digits

/-- The first six digits of a fraction, filled up with zeros. -/
def microseconds (fraction : List Char) : Nat :=
  let digits := fraction.take 6
  natOf (digits ++ List.replicate (6 - digits.length) '0')

def offsetOf (zone : Option (Option ZoneSpelling)) : Except CalendarError (Option Int) :=
  match zone with
  | none => .ok none
  | some none => .ok (some 0)
  | some (some z) =>
    let n : Int := natOf z.hour * 60 + natOf z.minute
    let minutes := if z.negative then -n else n
    if 1440 ≤ n then .error (.offsetOutOfRange minutes) else .ok (some minutes)

def timestampOf (cs : List Char) : Except ScalarFault Atom :=
  match timeOf? (withoutFinalBreak cs) with
  | none => .error .notATimestamp
  | some t =>
    let read : Except CalendarError Atom := do
      match t.clock with
      | none => (Date.make (natOf t.year) (natOf t.month) (natOf t.day)).map .date
      | some c =>
        let offset ← offsetOf c.zone
        let date ← Date.make (natOf t.year) (natOf t.month) (natOf t.day)
        (Moment.make date (natOf c.hour) (natOf c.minute) (natOf c.second)
          (microseconds c.fraction) offset).map .moment
    read.mapError .calendar

def sextet? (c : Char) : Option Nat :=
  let n := c.toNat
  if 0x41 ≤ n && n ≤ 0x5a then some (n - 0x41)
  else if 0x61 ≤ n && n ≤ 0x7a then some (n - 0x61 + 26)
  else if 0x30 ≤ n && n ≤ 0x39 then some (n - 0x30 + 52)
  else if c = '+' then some 62
  else if c = '/' then some 63
  else none

/-- Bytes of a text in base 64; characters outside the alphabet are skipped. `place` counts the
characters of the current group of four, `left` holds the bits not yet used, `pads` counts padding.
A group that ends too early is an error. -/
def base64 : Nat → Nat → Nat → List UInt8 → List Char → Option (List UInt8)
  | place, _, _, acc, [] => if place = 0 then some acc.reverse else none
  | place, left, pads, acc, c :: rest =>
    if c = '=' then
      if 2 ≤ place && 4 ≤ place + pads + 1 then some acc.reverse
      else base64 place left (if 2 ≤ place then pads + 1 else pads) acc rest
    else
      match sextet? c with
      | none => base64 place left pads acc rest
      | some n =>
        match place with
        | 0 => base64 1 n 0 acc rest
        | 1 => base64 2 (n % 16) 0 (UInt8.ofNat (left * 4 + n / 16) :: acc) rest
        | 2 => base64 3 (n % 4) 0 (UInt8.ofNat (left * 16 + n / 4) :: acc) rest
        | _ => base64 0 0 0 (UInt8.ofNat (left * 64 + n) :: acc) rest

/-- The atom that a scalar with this tag and text stands for. Tags of collections and unknown tags
have no scalars. -/
def atomOf (tag : Tag) (text : String) : Except Fault Atom :=
  let cs := text.toList
  match tag with
  | .null => .ok .null
  | .bool => (truthOf text).map .bool |>.mapError .scalar
  | .int => (intOf cs).map .int |>.mapError .scalar
  | .float => (realOf cs).map .real |>.mapError .scalar
  | .timestamp => (timestampOf cs).mapError .scalar
  | .str => .ok (.text text)
  | .binary =>
    if cs.any (128 ≤ ·.toNat) then .error .malformed
    else match base64 0 0 0 [] cs with
      | some bytes => .ok (.bytes bytes)
      | none => .error .malformed
  | _ => .error .malformed

end SchemaChecks.Yaml
