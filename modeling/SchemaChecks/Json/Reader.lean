import SchemaChecks.Number.Reading
import SchemaChecks.Text.Position
import SchemaChecks.Text.Surrogate
import SchemaChecks.Tree

/-!
Reading JSON texts. The names `NaN`, `Infinity` and `-Infinity` are numbers too, a key that returns
keeps its first place and takes the last value, and a number without fraction and exponent is an
integer of any size up to the digit limit.

Every reader works on the rest of the text. A fault notes how much of the text was left, which is
turned into an offset at the end.
-/

namespace SchemaChecks.Json

inductive Cause where
  | byteOrderMark
  | expectingValue
  | expectingName
  | expectingColon
  | expectingComma
  | extraData
  | unterminatedString
  | controlCharacter
  | badEscape
  | badUnicodeEscape
  deriving DecidableEq, Repr

def Cause.message : Cause → String
  | .byteOrderMark => "Unexpected UTF-8 BOM (decode using utf-8-sig)"
  | .expectingValue => "Expecting value"
  | .expectingName => "Expecting property name enclosed in double quotes"
  | .expectingColon => "Expecting ':' delimiter"
  | .expectingComma => "Expecting ',' delimiter"
  | .extraData => "Extra data"
  | .unterminatedString => "Unterminated string starting at"
  | .controlCharacter => "Invalid control character at"
  | .badEscape => "Invalid \\escape"
  | .badUnicodeEscape => "Invalid \\uXXXX escape"

/-- What stops the reading; `left` is the length of the rest of the text at the fault. -/
inductive Fault where
  | malformed (cause : Cause) (left : Nat)
  | tooManyDigits (count : Nat)
  | tooDeep
  deriving DecidableEq, Repr

abbrev Reading (α : Type) := Except Fault (α × List Char)

def isSpace (c : Char) : Bool := c = ' ' || c = '\t' || c = '\n' || c = '\r'

def skipSpace (cs : List Char) : List Char := cs.dropWhile isSpace

def fail {α : Type} (cause : Cause) (rest : List Char) : Reading α :=
  .error (.malformed cause rest.length)

def codeUnit? (a b c d : Char) : Option Nat := Number.ofDigits? 16 [a, b, c, d]

def isHighSurrogate (n : Nat) : Bool := 0xd800 ≤ n && n < 0xdc00
def isLowSurrogate (n : Nat) : Bool := 0xdc00 ≤ n && n < 0xe000

def joinSurrogates (high low : Nat) : Nat := 0x10000 + (high - 0xd800) * 0x400 + (low - 0xdc00)

def escaped? : Char → Option Char
  | '"' => some '"'
  | '\\' => some '\\'
  | '/' => some '/'
  | 'b' => some (Char.ofNat 8)
  | 'f' => some (Char.ofNat 12)
  | 'n' => some '\n'
  | 'r' => some '\r'
  | 't' => some '\t'
  | _ => none

/-- The code point after `\u`, with the low surrogate that may follow a high one. A code unit never
ends the text. -/
def unicodeEscape : List Char → Reading Char
  | a :: b :: c :: d :: e :: rest =>
    match codeUnit? a b c d with
    | none => .error (.malformed .badUnicodeEscape (rest.length + 6))
    | some unit =>
      let after := e :: rest
      if isHighSurrogate unit && 6 < after.length then
        match after with
        | '\\' :: 'u' :: w :: x :: y :: z :: more =>
          match codeUnit? w x y z with
          | none => .error (.malformed .badUnicodeEscape (after.length - 1))
          | some low =>
            if isLowSurrogate low then .ok (Char.ofNat (joinSurrogates unit low), more)
            else .ok (Text.charOfCode unit, after)
        | _ => .ok (Text.charOfCode unit, after)
      else .ok (Text.charOfCode unit, after)
  | cs => .error (.malformed .badUnicodeEscape (cs.length + 1))

/-- The rest of a string after its opening quote, which stood with `opened` characters left. -/
def stringBody (opened : Nat) : Nat → List Char → List Char → Reading String
  | 0, _, _ => .error (.malformed .unterminatedString opened)
  | fuel + 1, acc, cs =>
    match cs with
    | [] => .error (.malformed .unterminatedString opened)
    | '"' :: rest => .ok (String.ofList acc.reverse, rest)
    | '\\' :: [] => .error (.malformed .unterminatedString opened)
    | '\\' :: 'u' :: rest =>
      match unicodeEscape rest with
      | .error e => .error e
      | .ok (c, rest) => stringBody opened fuel (c :: acc) rest
    | '\\' :: c :: rest =>
      match escaped? c with
      | none => .error (.malformed .badEscape (rest.length + 2))
      | some c => stringBody opened fuel (c :: acc) rest
    | c :: rest =>
      if c.toNat ≤ 0x1f then fail .controlCharacter (c :: rest)
      else stringBody opened fuel (c :: acc) rest

def string (rest : List Char) : Reading String :=
  stringBody (rest.length + 1) (rest.length + 1) [] rest

def wholePart? : List Char → Option (List Char × List Char)
  | '0' :: rest => some (['0'], rest)
  | c :: rest =>
    if c.isDigit then some (c :: rest.takeWhile Char.isDigit, rest.dropWhile Char.isDigit) else none
  | [] => none

def fractionPart : List Char → List Char × List Char
  | '.' :: c :: rest =>
    if c.isDigit then (c :: rest.takeWhile Char.isDigit, rest.dropWhile Char.isDigit)
    else ([], '.' :: c :: rest)
  | cs => ([], cs)

/-- An exponent mark with at least one digit after it; anything less is no part of the number. -/
def exponentPart (cs : List Char) : Option Int × List Char :=
  match cs with
  | c :: rest =>
    if c = 'e' || c = 'E' then
      let (negative, more) := Number.splitSign rest
      let digits := more.takeWhile Char.isDigit
      if digits.isEmpty then (none, cs)
      else
        let n : Int := Number.ofDecimalDigits digits
        (some (if negative then -n else n), more.dropWhile Char.isDigit)
    else (none, cs)
  | [] => (none, cs)

def number (cs : List Char) : Reading Atom :=
  let (negative, body) := match cs with
    | '-' :: rest => (true, rest)
    | rest => (false, rest)
  match wholePart? body with
  | none => fail .expectingValue cs
  | some (whole, rest) =>
    let (fraction, rest) := fractionPart rest
    let (exponent, rest) := exponentPart rest
    if fraction.isEmpty && exponent.isNone then
      if Number.digitLimit < whole.length then .error (.tooManyDigits whole.length)
      else
        let n : Int := Number.ofDecimalDigits whole
        .ok (.int (if negative then -n else n), rest)
    else
      let digits := Number.ofDecimalDigits (whole ++ fraction)
      .ok (.real (.ofDecimal negative digits (exponent.getD 0 - fraction.length)), rest)

def afterWord? (word : String) (cs : List Char) : Option (List Char) :=
  if word.toList.isPrefixOf cs then some (cs.drop word.length) else none

def words : List (String × Atom) :=
  [("null", .null), ("true", .bool true), ("false", .bool false), ("NaN", .real .nan),
   ("Infinity", .real (.infinity false)), ("-Infinity", .real (.infinity true))]

def atom (cs : List Char) : Reading Atom :=
  match words.findSome? fun (w, a) => (afterWord? w cs).map fun rest => (a, rest) with
  | some found => .ok found
  | none => number cs

/-- How many brackets may be open at once. -/
def depthLimit : Nat := 985

mutual

def value (fuel depth : Nat) (cs : List Char) : Reading Value :=
  match fuel with
  | 0 => .error .tooDeep
  | fuel + 1 =>
    match cs with
    | [] => fail .expectingValue cs
    | '"' :: rest => (string rest).map fun (s, rest) => (.scalar (.text s), rest)
    | '\x7b' :: rest =>
      match depth with
      | 0 => .error .tooDeep
      | depth + 1 =>
        match skipSpace rest with
        | '\x7d' :: rest => .ok (.dict [], rest)
        | rest =>
          (members fuel depth rest).map fun (entries, rest) => (Value.dictOf entries, rest)
    | '[' :: rest =>
      match depth with
      | 0 => .error .tooDeep
      | depth + 1 =>
        match skipSpace rest with
        | ']' :: rest => .ok (.list [], rest)
        | rest => (elements fuel depth rest).map fun (items, rest) => (.list items, rest)
    | _ => (atom cs).map fun (a, rest) => (.scalar (.atom a), rest)

def elements (fuel depth : Nat) (cs : List Char) : Reading (List Value) :=
  match fuel with
  | 0 => .error .tooDeep
  | fuel + 1 =>
    match value fuel depth cs with
    | .error e => .error e
    | .ok (v, rest) =>
      match skipSpace rest with
      | ']' :: rest => .ok ([v], rest)
      | ',' :: rest => (elements fuel depth (skipSpace rest)).map fun (vs, rest) => (v :: vs, rest)
      | rest => fail .expectingComma rest

def members (fuel depth : Nat) (cs : List Char) : Reading (List (Atom × Value)) :=
  match fuel with
  | 0 => .error .tooDeep
  | fuel + 1 =>
    match cs with
    | '"' :: rest =>
      match string rest with
      | .error e => .error e
      | .ok (name, rest) =>
        match skipSpace rest with
        | ':' :: rest =>
          match value fuel depth (skipSpace rest) with
          | .error e => .error e
          | .ok (v, rest) =>
            match skipSpace rest with
            | '\x7d' :: rest => .ok ([(.text name, v)], rest)
            | ',' :: rest =>
              (members fuel depth (skipSpace rest)).map fun (es, rest) =>
                ((.text name, v) :: es, rest)
            | rest => fail .expectingComma rest
        | rest => fail .expectingColon rest
    | rest => fail .expectingName rest

end

def readChars (cs : List Char) : Except Fault Value :=
  match cs with
  | '\ufeff' :: _ => .error (.malformed .byteOrderMark cs.length)
  | _ =>
    match value (2 * cs.length + 2) depthLimit (skipSpace cs) with
    | .error e => .error e
    | .ok (v, rest) =>
      match skipSpace rest with
      | [] => .ok v
      | rest => .error (.malformed .extraData rest.length)

def read (text : String) : Except Fault Value := readChars text.toList

def faultText (text : String) (cause : Cause) (left : Nat) : String :=
  let offset := text.length - left
  let p := Text.positionAt text.toList offset
  s!"{cause.message}: line {p.line} column {p.column} (char {offset})"

end SchemaChecks.Json
