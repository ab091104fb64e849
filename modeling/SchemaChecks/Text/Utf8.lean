import SchemaChecks.Text.Quoted

/-!
UTF-8: characters as bytes, and bytes back as characters with the first place that fits no
character. Surrogates have no bytes.
-/

namespace SchemaChecks.Text.Utf8

inductive Reason where
  | invalidStart
  | invalidContinuation
  | unexpectedEnd
  deriving DecidableEq, Repr

/-- The bytes from `start` up to, not with, `stop` are no character; `first` is the first of
them. -/
structure Malformed where
  start : Nat
  stop : Nat
  first : UInt8
  reason : Reason
  deriving DecidableEq, Repr

def encodeChar (c : Char) : List UInt8 :=
  let n := c.toNat
  let tail (shift : Nat) : UInt8 := UInt8.ofNat (0x80 + n / Nat.pow 2 shift % 0x40)
  if n < 0x80 then [UInt8.ofNat n]
  else if n < 0x800 then [UInt8.ofNat (0xc0 + n / 0x40), tail 0]
  else if n < 0x10000 then [UInt8.ofNat (0xe0 + n / 0x1000), tail 6, tail 0]
  else [UInt8.ofNat (0xf0 + n / 0x40000), tail 12, tail 6, tail 0]

def encode (cs : List Char) : List UInt8 := cs.flatMap encodeChar

/-- The characters from `start` up to, not with, `stop` are surrogates; `first` is the first of
them. -/
structure Unencodable where
  start : Nat
  stop : Nat
  first : Char
  deriving DecidableEq, Repr

/-- The first run of surrogates, from its first one on that is not `taken` for something else. -/
def unencodable? (taken : Char → Bool) (cs : List Char) : Option Unencodable :=
  match cs.dropWhile fun c => !isSurrogate c || taken c with
  | [] => none
  | c :: rest =>
    let start := cs.length - (rest.length + 1)
    some ⟨start, start + 1 + (rest.takeWhile isSurrogate).length, c⟩

/-- The bytes of a file's name, in which a surrogate may stand for a byte. -/
def encodeName (cs : List Char) : List UInt8 :=
  cs.flatMap fun c => if isSurrogate c then [UInt8.ofNat (codeOf c)] else encodeChar c

def escapeOf (c : Char) : List Char := '\\' :: 'u' :: Quoted.hexDigits 4 (codeOf c)

def spelled (s : String) : String :=
  String.ofList (s.toList.flatMap fun c => if isSurrogate c then escapeOf c else [c])

def Unencodable.message (e : Unencodable) : String :=
  let place :=
    if e.stop = e.start + 1 then
      s!"character '{String.ofList (escapeOf e.first)}' in position {e.start}"
    else s!"characters in position {e.start}-{e.stop - 1}"
  s!"'utf-8' codec can't encode {place}: surrogates not allowed"

def isContinuation (b : UInt8) : Bool := 0x80 ≤ b.toNat && b.toNat < 0xc0

/-- The second byte keeps the character at its shortest form, off the surrogates and in range. -/
def isSecond (first second : UInt8) : Bool :=
  isContinuation second &&
    !(first = 0xe0 && second.toNat < 0xa0) && !(first = 0xed && 0xa0 ≤ second.toNat) &&
    !(first = 0xf0 && second.toNat < 0x90) && !(first = 0xf4 && 0x90 ≤ second.toNat)

def width? (b : UInt8) : Option Nat :=
  let n := b.toNat
  if n < 0x80 then some 1
  else if n < 0xc2 then none
  else if n < 0xe0 then some 2
  else if n < 0xf0 then some 3
  else if n < 0xf5 then some 4
  else none

def payload (bytes : List UInt8) : Nat :=
  bytes.foldl (fun n b => n * 0x40 + b.toNat % 0x40) 0

/-- The character at the start of the bytes with its width, or the fault there with the number of
bytes it takes up. -/
def decodeChar (first : UInt8) (rest : List UInt8) : Except (Reason × Nat) (Char × Nat) :=
  match width? first with
  | none => .error (.invalidStart, 1)
  | some 1 => .ok (Char.ofNat first.toNat, 1)
  | some width =>
    let tail := rest.take (width - 1)
    let good := match tail with
      | [] => 0
      | second :: more =>
        if isSecond first second then 1 + (more.takeWhile isContinuation).length else 0
    if good < tail.length then .error (.invalidContinuation, good + 1)
    else if tail.length < width - 1 then .error (.unexpectedEnd, tail.length + 1)
    else
      let lead := first.toNat % Nat.pow 2 (7 - width)
      .ok (Char.ofNat (lead * Nat.pow 0x40 (width - 1) + payload tail), width)

def decodeFrom : Nat → Nat → List Char → List UInt8 → Except Malformed (List Char)
  | 0, _, acc, _ => .ok acc.reverse
  | fuel + 1, start, acc, bytes =>
    match bytes with
    | [] => .ok acc.reverse
    | first :: rest =>
      match decodeChar first rest with
      | .error (reason, length) => .error ⟨start, start + length, first, reason⟩
      | .ok (c, width) => decodeFrom fuel (start + width) (c :: acc) (rest.drop (width - 1))

def decode (bytes : List UInt8) : Except Malformed (List Char) :=
  decodeFrom bytes.length 0 [] bytes

def Reason.message : Reason → String
  | .invalidStart => "invalid start byte"
  | .invalidContinuation => "invalid continuation byte"
  | .unexpectedEnd => "unexpected end of data"

def hexByte (b : UInt8) : String :=
  let digit (n : Nat) : Char := if n < 10 then Char.ofNat (0x30 + n) else Char.ofNat (0x57 + n)
  String.ofList [digit (b.toNat / 16), digit (b.toNat % 16)]

def Malformed.message (e : Malformed) : String :=
  let place :=
    if e.stop = e.start + 1 then s!"byte 0x{hexByte e.first} in position {e.start}"
    else s!"bytes in position {e.start}-{e.stop - 1}"
  s!"'utf-8' codec can't decode {place}: {e.reason.message}"

end SchemaChecks.Text.Utf8
