import SchemaChecks.Number.Reading
import SchemaChecks.Text.Utf8
import SchemaChecks.Yaml.Cursor
import SchemaChecks.Yaml.Fault
import SchemaChecks.Yaml.Token

/-!
The spelling of single tokens: directives, names, tags and scalars. Texts are gathered back to
front.
-/

namespace SchemaChecks.Yaml

def isNameChar (c : Char) : Bool := c.isAlphanum || c = '-' || c = '_'

def isHexDigit (c : Char) : Bool := (Number.digitValue? c).any (· < 16)

def endsName (c : Char) : Bool :=
  isWideGap c || c = '?' || c = ':' || c = ',' || c = ']' || c = '\x7d' || c = '%' || c = '@' ||
    c.toNat = 0x60

def anchorName (c : Cursor) : Except Fault (String × Cursor) :=
  let (name, after) := c.step.span isNameChar
  if name.isEmpty || !endsName after.peek then .error .malformed
  else .ok (String.ofList name, after)

/-! ### Tags -/

def isUriChar (c : Char) : Bool :=
  c.isAlphanum || "-;/?:@&=+$,_.!~*'()[]%".toList.contains c

def uriBytes : Nat → List UInt8 → Cursor → Except Fault (List UInt8 × Cursor)
  | 0, acc, c => .ok (acc.reverse, c)
  | fuel + 1, acc, c =>
    match c.rest with
    | '%' :: x :: y :: _ =>
      match Number.ofDigits? 16 [x, y] with
      | some b => uriBytes fuel (UInt8.ofNat b :: acc) (c.steps 3)
      | none => .error .malformed
    | '%' :: _ => .error .malformed
    | _ => .ok (acc.reverse, c)

def uriChars : Nat → List Char → Cursor → Except Fault (List Char × Cursor)
  | 0, acc, c => .ok (acc.reverse, c)
  | fuel + 1, acc, c =>
    if !isUriChar c.peek then .ok (acc.reverse, c)
    else if c.peek = '%' then do
      let (bytes, after) ← uriBytes (c.rest.length + 1) [] c
      match Text.Utf8.decode bytes with
      | .error _ => .error .malformed
      | .ok cs => uriChars fuel (cs.reverse ++ acc) after
    else uriChars fuel (c.peek :: acc) c.step

def uri (c : Cursor) : Except Fault (String × Cursor) := do
  let (cs, after) ← uriChars (c.rest.length + 1) [] c
  if after.index = c.index then .error .malformed else .ok (String.ofList cs, after)

/-- `!`, or a name between two of them. -/
def tagHandle (c : Cursor) : Except Fault (String × Cursor) :=
  if c.peek ≠ '!' then .error .malformed
  else if c.peekAt 1 = ' ' then .ok ("!", c.step)
  else
    let (name, after) := c.step.span isNameChar
    if after.peek = '!' then .ok (String.ofList ('!' :: name ++ ['!']), after.step)
    else .error .malformed

def afterTag (token : Token) (c : Cursor) : Except Fault (Token × Cursor) :=
  if isGap c.peek then .ok (token, c) else .error .malformed

def tag (c : Cursor) : Except Fault (Token × Cursor) :=
  let next := c.peekAt 1
  if next = '<' then do
    let (suffix, after) ← uri (c.steps 2)
    if after.peek ≠ '>' then .error .malformed else afterTag (.tag none suffix) after.step
  else if isWideGap next then afterTag (.tag none "!") c.step
  else do
    let word := (c.rest.drop 1).takeWhile (!isGap ·)
    let (handle, after) ← if word.contains '!' then tagHandle c else .ok ("!", c.step)
    let (suffix, after) ← uri after
    afterTag (.tag (some handle) suffix) after

/-! ### Directives -/

def skipSpaces (c : Cursor) : Cursor := c.skip (· = ' ')

def skipLine (c : Cursor) : Cursor := c.skip (!isEndOrBreak ·)

def endOfLine (c : Cursor) : Except Fault Cursor :=
  let c := skipSpaces c
  let c := if c.peek = '#' then skipLine c else c
  if !isEndOrBreak c.peek then .error .malformed
  else match c.lineBreak? with
    | some (_, after) => .ok after
    | none => .ok c

def versionNumber (c : Cursor) : Except Fault (Nat × Cursor) :=
  let (digits, after) := c.span Char.isDigit
  if digits.isEmpty then .error .malformed
  else if Number.digitLimit < digits.length then .error (.scalar (.tooManyDigits digits.length))
  else .ok (Number.ofDecimalDigits digits, after)

def versionDirective (c : Cursor) : Except Fault (Directive × Cursor) := do
  let (major, c) ← versionNumber (skipSpaces c)
  if c.peek ≠ '.' then .error .malformed
  else
    let (minor, c) ← versionNumber c.step
    if isGap c.peek then .ok (.version major minor, c) else .error .malformed

def tagDirective (c : Cursor) : Except Fault (Directive × Cursor) := do
  let (handle, c) ← tagHandle (skipSpaces c)
  if c.peek ≠ ' ' then .error .malformed
  else
    let (expansion, c) ← uri (skipSpaces c)
    if isGap c.peek then .ok (.tag handle expansion, c) else .error .malformed

def directive (c : Cursor) : Except Fault (Token × Cursor) := do
  let (name, after) := c.step.span isNameChar
  if name.isEmpty || !isGap after.peek then .error .malformed
  else
    let (d, after) ← match String.ofList name with
      | "YAML" => versionDirective after
      | "TAG" => tagDirective after
      | _ => .ok (.other, skipLine after)
    let after ← endOfLine after
    .ok (.directive d, after)

/-! ### Block scalars -/

inductive Chomping where
  | clip
  | strip
  | keep
  deriving DecidableEq, Repr

def chompingOf? : Char → Option Chomping
  | '+' => some .keep
  | '-' => some .strip
  | _ => none

/-- An indentation indicator; zero is none. -/
def indentDigit (c : Cursor) : Except Fault (Option Nat × Cursor) :=
  if c.peek.isDigit then
    if c.peek = '0' then .error .malformed else .ok (some (c.peek.toNat - 0x30), c.step)
  else .ok (none, c)

def blockHeader (c : Cursor) : Except Fault ((Chomping × Option Nat) × Cursor) := do
  let (header, after) ← match chompingOf? c.peek with
    | some chomping => do
      let (increment, after) ← indentDigit c.step
      .ok ((chomping, increment), after)
    | none => do
      let (increment, after) ← indentDigit c
      match increment, chompingOf? after.peek with
      | some n, some chomping => .ok ((chomping, some n), after.step)
      | _, _ => .ok ((Chomping.clip, increment), after)
  if isGap after.peek then .ok (header, after) else .error .malformed

/-- Line breaks and spaces before the first line with content: the breaks, back to front, and the
widest indentation met. -/
def leadingBreaks : Nat → List Char → Nat → Cursor → List Char × Nat × Cursor
  | 0, acc, widest, c => (acc, widest, c)
  | fuel + 1, acc, widest, c =>
    if c.peek = ' ' then leadingBreaks fuel acc (max widest c.step.column) c.step
    else match c.lineBreak? with
      | some (b, after) => leadingBreaks fuel (b :: acc) widest after
      | none => (acc, widest, c)

def skipIndent (indent : Nat) : Nat → Cursor → Cursor
  | 0, c => c
  | fuel + 1, c => if c.column < indent && c.peek = ' ' then skipIndent indent fuel c.step else c

def emptyLines (indent : Nat) : Nat → List Char → Cursor → List Char × Cursor
  | 0, acc, c => (acc, c)
  | fuel + 1, acc, c =>
    let c := skipIndent indent indent c
    match c.lineBreak? with
    | some (b, after) => emptyLines indent fuel (b :: acc) after
    | none => (acc, c)

def isSpaceOrTab (c : Char) : Bool := c = ' ' || c = '\t'

/-- The lines of a block scalar. `breaks` are the empty lines before the next line, back to front;
the answer has the text so far, the break of its last line and the empty lines after it. -/
def blockLines (folded : Bool) (indent : Nat) :
    Nat → List Char → List Char → List Char → Cursor → List Char × List Char × List Char × Cursor
  | 0, acc, last, breaks, c => (acc, last, breaks, c)
  | fuel + 1, acc, last, breaks, c =>
    if c.column = indent && c.peek ≠ nul then
      let startsWithText := !isSpaceOrTab c.peek
      let (line, after) := c.span (!isEndOrBreak ·)
      let acc := line.reverse ++ (breaks ++ acc)
      let (last, after) := match after.lineBreak? with
        | some (b, next) => ([b], next)
        | none => ([], after)
      let (breaks, after) := emptyLines indent (after.rest.length + 1) [] after
      if after.column = indent && after.peek ≠ nul then
        let acc :=
          if folded && last = ['\n'] && startsWithText && !isSpaceOrTab after.peek then
            if breaks.isEmpty then ' ' :: acc else acc
          else last ++ acc
        blockLines folded indent fuel acc last breaks after
      else (acc, last, breaks, after)
    else (acc, last, breaks, c)

def blockScalar (folded : Bool) (blockIndent : Int) (c : Cursor) :
    Except Fault (Token × Cursor) := do
  let ((chomping, increment), c) ← blockHeader c.step
  let c ← endOfLine c
  let least := (max (blockIndent + 1) 1).toNat
  let size := c.rest.length + 1
  let (breaks, indent, c) := match increment with
    | none =>
      let (breaks, widest, c) := leadingBreaks size [] 0 c
      (breaks, max least widest, c)
    | some n =>
      let indent := least + n - 1
      let (breaks, c) := emptyLines indent size [] c
      (breaks, indent, c)
  let (acc, last, breaks, c) := blockLines folded indent size [] [] breaks c
  let acc := if chomping = .strip then acc else last ++ acc
  let acc := if chomping = .keep then breaks ++ acc else acc
  .ok (.scalar (String.ofList acc.reverse) false, c)

/-! ### Quoted scalars -/

def escaped? (c : Char) : Option Char :=
  match c with
  | '0' => some nul
  | 'a' => some (Char.ofNat 0x07)
  | 'b' => some (Char.ofNat 0x08)
  | 't' => some '\t'
  | '\t' => some '\t'
  | 'n' => some '\n'
  | 'v' => some (Char.ofNat 0x0b)
  | 'f' => some (Char.ofNat 0x0c)
  | 'r' => some '\r'
  | 'e' => some (Char.ofNat 0x1b)
  | ' ' => some ' '
  | '"' => some '"'
  | '\\' => some '\\'
  | '/' => some '/'
  | 'N' => some (Char.ofNat 0x85)
  | '_' => some (Char.ofNat 0xa0)
  | 'L' => some (Char.ofNat 0x2028)
  | 'P' => some (Char.ofNat 0x2029)
  | _ => none

def escapeWidth? : Char → Option Nat
  | 'x' => some 2
  | 'u' => some 4
  | 'U' => some 8
  | _ => none

def charOfCode (code : Nat) : Except Fault Char :=
  if 0x110000 ≤ code then .error (.scalar (.notACharacter code))
  else .ok (Text.charOfCode code)

/-- Blank lines inside a quoted scalar; a document mark may not start any of them. -/
def quotedBreaks : Nat → List Char → Cursor → Except Fault (List Char × Cursor)
  | 0, acc, c => .ok (acc, c)
  | fuel + 1, acc, c =>
    if c.atDocumentMark then .error .malformed
    else
      let c := c.skip isSpaceOrTab
      match c.lineBreak? with
      | some (b, after) => quotedBreaks fuel (b :: acc) after
      | none => .ok (acc, c)

def quotedEscape (acc : List Char) (c : Cursor) : Except Fault (List Char × Cursor) :=
  match escaped? c.peek with
  | some x => .ok (x :: acc, c.step)
  | none =>
    match escapeWidth? c.peek with
    | some width =>
      let digits := (c.step.rest.take width)
      if digits.length < width || !digits.all isHexDigit then .error .malformed
      else do
        let x ← charOfCode ((Number.ofDigits? 16 digits).getD 0)
        .ok (x :: acc, c.step.steps width)
    | none =>
      match c.lineBreak? with
      | none => .error .malformed
      | some (_, after) => do
        let (breaks, after) ← quotedBreaks (after.rest.length + 1) [] after
        .ok (breaks ++ acc, after)

/-- Spaces and line breaks inside a quoted scalar: one break is a space, more lose the first. -/
def quotedSpaces (acc : List Char) (c : Cursor) : Except Fault (List Char × Cursor) :=
  let (spaces, after) := c.span isSpaceOrTab
  if after.rest.isEmpty then .error .malformed
  else match after.lineBreak? with
    | none => .ok (spaces.reverse ++ acc, after)
    | some (b, after) => do
      let (breaks, after) ← quotedBreaks (after.rest.length + 1) [] after
      let acc :=
        if b ≠ '\n' then b :: acc
        else if breaks.isEmpty then ' ' :: acc
        else acc
      .ok (breaks ++ acc, after)

def quotedText (double : Bool) : Nat → List Char → Cursor → Except Fault (List Char × Cursor)
  | 0, _, _ => .error .malformed
  | fuel + 1, acc, c =>
    match c.rest with
    | [] => .error .malformed
    | x :: rest =>
      if isSpaceOrTab x || isBreak x then do
        let (acc, after) ← quotedSpaces acc c
        quotedText double fuel acc after
      else if double then
        if x = '"' then .ok (acc, c.step)
        else if x = '\\' then do
          let (acc, after) ← quotedEscape acc c.step
          quotedText double fuel acc after
        else quotedText double fuel (x :: acc) c.step
      else if x = '\'' then
        if rest.head? = some '\'' then quotedText double fuel ('\'' :: acc) (c.steps 2)
        else .ok (acc, c.step)
      else quotedText double fuel (x :: acc) c.step

def quotedScalar (double : Bool) (c : Cursor) : Except Fault (Token × Cursor) := do
  let (acc, after) ← quotedText double (c.rest.length + 1) [] c.step
  .ok (.scalar (String.ofList acc.reverse) false, after)

/-! ### Plain scalars -/

def isFlowIndicator (c : Char) : Bool :=
  c = ',' || c = '[' || c = ']' || c = '\x7b' || c = '\x7d'

def endsPlain (inFlow : Bool) (x next : Char) : Bool :=
  isWideGap x || (x = ':' && (isWideGap next || (inFlow && isFlowIndicator next))) ||
    (inFlow && (x = '?' || isFlowIndicator x))

def plainRun (inFlow : Bool) : List Char → List Char → List Char
  | acc, [] => acc
  | acc, x :: rest =>
    if endsPlain inFlow x (rest.headD nul) then acc else plainRun inFlow (x :: acc) rest

/-- Line breaks and spaces between two lines of a plain scalar, back to front; `none` at a document
mark. -/
def plainBreaks : Nat → List Char → Cursor → Option (List Char) × Cursor
  | 0, acc, c => (some acc, c)
  | fuel + 1, acc, c =>
    if c.peek = ' ' then plainBreaks fuel acc c.step
    else match c.lineBreak? with
      | none => (some acc, c)
      | some (b, after) =>
        if after.atDocumentMark then (none, after) else plainBreaks fuel (b :: acc) after

/-- The space after a run of a plain scalar, back to front. The second part tells whether a line
ended there. -/
def plainSpaces (c : Cursor) : List Char × Bool × Cursor :=
  let (spaces, after) := c.span (· = ' ')
  match after.lineBreak? with
  | none => (spaces, false, after)
  | some (b, after) =>
    if after.atDocumentMark then ([], true, after)
    else match plainBreaks (after.rest.length + 1) [] after with
      | (none, after) => ([], true, after)
      | (some breaks, after) =>
        let lead := if b ≠ '\n' then [b] else if breaks.isEmpty then [' '] else []
        (breaks ++ lead, true, after)

def plainText (inFlow : Bool) (indent : Int) :
    Nat → List Char → List Char → Bool → Cursor → List Char × Bool × Cursor
  | 0, acc, _, ended, c => (acc, ended, c)
  | fuel + 1, acc, spaces, ended, c =>
    if c.peek = '#' then (acc, ended, c)
    else
      let run := plainRun inFlow [] c.rest
      if run.isEmpty then (acc, ended, c)
      else
        let acc := run ++ (spaces ++ acc)
        let (spaces, ended, after) := plainSpaces (c.steps run.length)
        if spaces.isEmpty || after.peek = '#' || (!inFlow && after.column < indent) then
          (acc, ended, after)
        else plainText inFlow indent fuel acc spaces ended after

def plainScalar (inFlow : Bool) (blockIndent : Int) (c : Cursor) : Token × Bool × Cursor :=
  let (acc, ended, after) :=
    plainText inFlow (blockIndent + 1) (c.rest.length + 1) [] [] false c
  (.scalar (String.ofList acc.reverse) true, ended, after)

end SchemaChecks.Yaml
