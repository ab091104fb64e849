import SchemaChecks.Yaml.Lexeme

/-!
The tokens of a YAML text. A token at which a key may start is held back until the text shows
whether it is one: when a `:` follows on the same line, within 1024 characters, a key token goes in
front of it. The stream ends at the end of the text or at the first fault; the tokens before a
fault are those whose role was known by then.
-/

namespace SchemaChecks.Yaml

/-- A token that may turn out to be a key. -/
structure KeyCandidate where
  /-- The place of the token among all tokens. -/
  number : Nat
  /-- A block mapping is open at this column, so the token has to be a key. -/
  required : Bool
  index : Nat
  line : Nat
  column : Nat

structure Scanner where
  cursor : Cursor
  flowLevel : Nat
  /-- The column of the innermost open block, -1 outside of all. -/
  indent : Int
  /-- The columns of the blocks around it. -/
  outer : List Int
  allowKey : Bool
  /-- At most one candidate for each level of flow. -/
  candidates : List (Nat × KeyCandidate)
  /-- Tokens read and not yet given out. -/
  pending : List Token
  taken : Nat
  finished : Bool

structure TokenStream where
  tokens : List Token
  fault : Option Fault

namespace Scanner

abbrev Step := Except Fault Scanner

def start (text : List Char) : Scanner where
  cursor := Cursor.start text
  flowLevel := 0
  indent := -1
  outer := []
  allowKey := true
  candidates := []
  pending := []
  taken := 0
  finished := false

def emit (t : Token) (s : Scanner) : Scanner := { s with pending := s.pending ++ [t] }

def insertAt (number : Nat) (t : Token) (s : Scanner) : Scanner :=
  let n := number - s.taken
  { s with pending := s.pending.take n ++ t :: s.pending.drop n }

def isStale (s : Scanner) (k : KeyCandidate) : Bool :=
  k.line ≠ s.cursor.line || 1024 < s.cursor.index - k.index

/-- Gives up candidates on earlier lines or too far back. -/
def dropStale (s : Scanner) : Step :=
  if s.candidates.any fun c => s.isStale c.2 && c.2.required then .error .malformed
  else .ok { s with candidates := s.candidates.filter fun c => !s.isStale c.2 }

def candidate? (s : Scanner) : Option KeyCandidate :=
  (s.candidates.find? (·.1 = s.flowLevel)).map (·.2)

def dropCandidate (s : Scanner) : Step :=
  match s.candidate? with
  | none => .ok s
  | some k =>
    if k.required then .error .malformed
    else .ok { s with candidates := s.candidates.filter (·.1 ≠ s.flowLevel) }

def noteCandidate (s : Scanner) : Step :=
  if !s.allowKey then .ok s
  else do
    let s ← s.dropCandidate
    let k : KeyCandidate :=
      { number := s.taken + s.pending.length
        required := s.flowLevel = 0 && s.indent = s.cursor.column
        index := s.cursor.index
        line := s.cursor.line
        column := s.cursor.column }
    .ok { s with candidates := s.candidates ++ [(s.flowLevel, k)] }

def closeBlocks (column : Int) (s : Scanner) : Scanner :=
  if s.flowLevel ≠ 0 then s
  else go s.outer.length s
where
  go : Nat → Scanner → Scanner
    | 0, s => s
    | fuel + 1, s =>
      if column < s.indent then
        match s.outer with
        | [] => s
        | i :: rest => go fuel (emit .blockEnd { s with indent := i, outer := rest })
      else s

def openBlock? (column : Nat) (s : Scanner) : Option Scanner :=
  if s.indent < column then some { s with indent := column, outer := s.indent :: s.outer }
  else none

def skipToToken : Nat → Scanner → Scanner
  | 0, s => s
  | fuel + 1, s =>
    let c := skipSpaces s.cursor
    let c := if c.peek = '#' then skipLine c else c
    match c.lineBreak? with
    | none => { s with cursor := c }
    | some (_, after) =>
      skipToToken fuel { s with cursor := after, allowKey := s.allowKey || s.flowLevel = 0 }

def skipMark (s : Scanner) : Scanner :=
  if s.cursor.index = 0 && s.cursor.peek = '\ufeff' then { s with cursor := s.cursor.step } else s

def advance (n : Nat) (s : Scanner) : Scanner := { s with cursor := s.cursor.steps n }

def forbidKey (s : Scanner) : Scanner := { s with allowKey := false }

def fetchStreamEnd (s : Scanner) : Step := do
  let s ← (s.closeBlocks (-1)).dropCandidate
  .ok (emit .streamEnd { s with allowKey := false, candidates := [], finished := true })

def fetchDirective (s : Scanner) : Step := do
  let s ← (s.closeBlocks (-1)).dropCandidate
  let (t, after) ← directive s.cursor
  .ok (emit t { s with cursor := after, allowKey := false })

def fetchDocumentMark (t : Token) (s : Scanner) : Step := do
  let s ← (s.closeBlocks (-1)).dropCandidate
  .ok (emit t (s.forbidKey.advance 3))

def fetchFlowStart (t : Token) (s : Scanner) : Step := do
  let s ← s.noteCandidate
  .ok (emit t ({ s with flowLevel := s.flowLevel + 1, allowKey := true }.advance 1))

def fetchFlowEnd (t : Token) (s : Scanner) : Step := do
  let s ← s.dropCandidate
  .ok (emit t ({ s with flowLevel := s.flowLevel - 1, allowKey := false }.advance 1))

def fetchFlowEntry (s : Scanner) : Step := do
  let s ← s.dropCandidate
  .ok (emit .flowEntry ({ s with allowKey := true }.advance 1))

/-- In a block, an indicator may stand only where a key may, and opens a block where none is open at
its column. -/
def enterBlock (opening : Token) (s : Scanner) : Step :=
  if s.flowLevel ≠ 0 then .ok s
  else if !s.allowKey then .error .malformed
  else match s.openBlock? s.cursor.column with
    | some s => .ok (emit opening s)
    | none => .ok s

def fetchBlockEntry (s : Scanner) : Step := do
  let s ← s.enterBlock .blockSequenceStart
  let s ← { s with allowKey := true }.dropCandidate
  .ok (emit .blockEntry (s.advance 1))

def fetchKey (s : Scanner) : Step := do
  let s ← s.enterBlock .blockMappingStart
  let s ← { s with allowKey := s.flowLevel = 0 }.dropCandidate
  .ok (emit .key (s.advance 1))

/-- The candidate of the level turns out to be a key, and may open a block mapping. -/
def confirmKey (k : KeyCandidate) (s : Scanner) : Scanner :=
  let s := { s with candidates := s.candidates.filter (·.1 ≠ s.flowLevel), allowKey := false }
  let s := s.insertAt k.number .key
  if s.flowLevel ≠ 0 then s
  else match s.openBlock? k.column with
    | some s => s.insertAt k.number .blockMappingStart
    | none => s

def fetchValue (s : Scanner) : Step := do
  let s ← match s.candidate? with
    | some k => Except.ok (s.confirmKey k)
    | none => do
      let s ← s.enterBlock .blockMappingStart
      { s with allowKey := s.flowLevel = 0 }.dropCandidate
  .ok (emit .value (s.advance 1))

def fetchWith (read : Cursor → Except Fault (Token × Cursor)) (s : Scanner) : Step := do
  let s ← s.noteCandidate
  let (t, after) ← read s.cursor
  .ok (emit t { s with cursor := after, allowKey := false })

def fetchBlockScalar (folded : Bool) (s : Scanner) : Step := do
  let s ← { s with allowKey := true }.dropCandidate
  let (t, after) ← blockScalar folded s.indent s.cursor
  .ok (emit t { s with cursor := after })

def fetchPlain (s : Scanner) : Step := do
  let s ← s.noteCandidate
  let (t, ended, after) := plainScalar (s.flowLevel ≠ 0) s.indent s.cursor
  .ok (emit t { s with cursor := after, allowKey := ended })

def isIndicator (c : Char) : Bool :=
  isWideGap c || "-?:,[]\x7b\x7d#&*!|>'\"%@".toList.contains c || c.toNat = 0x60

def startsPlain (s : Scanner) : Bool :=
  let c := s.cursor.peek
  !isIndicator c ||
    (!isWideGap (s.cursor.peekAt 1) && (c = '-' || (s.flowLevel = 0 && (c = '?' || c = ':'))))

def fetchAtToken (s : Scanner) : Step :=
  let c := s.cursor.peek
  let inFlow := s.flowLevel ≠ 0
  let beforeGap := isWideGap (s.cursor.peekAt 1)
  if c = nul then s.fetchStreamEnd
  else if c = '%' && s.cursor.column = 0 then s.fetchDirective
  else if c = '-' && s.cursor.column = 0 && s.cursor.atDocumentMark then
    s.fetchDocumentMark .documentStart
  else if c = '.' && s.cursor.column = 0 && s.cursor.atDocumentMark then
    s.fetchDocumentMark .documentEnd
  else if c = '[' then s.fetchFlowStart .flowSequenceStart
  else if c = '\x7b' then s.fetchFlowStart .flowMappingStart
  else if c = ']' then s.fetchFlowEnd .flowSequenceEnd
  else if c = '\x7d' then s.fetchFlowEnd .flowMappingEnd
  else if c = ',' then s.fetchFlowEntry
  else if c = '-' && beforeGap then s.fetchBlockEntry
  else if c = '?' && (inFlow || beforeGap) then s.fetchKey
  else if c = ':' && (inFlow || beforeGap) then s.fetchValue
  else if c = '*' then s.fetchWith fun c => (anchorName c).map fun (n, after) => (.alias n, after)
  else if c = '&' then s.fetchWith fun c => (anchorName c).map fun (n, after) => (.anchor n, after)
  else if c = '!' then s.fetchWith tag
  else if c = '|' && !inFlow then s.fetchBlockScalar false
  else if c = '>' && !inFlow then s.fetchBlockScalar true
  else if c = '\'' then s.fetchWith (quotedScalar false)
  else if c = '"' then s.fetchWith (quotedScalar true)
  else if s.startsPlain then s.fetchPlain
  else .error .malformed

def fetch (s : Scanner) : Step := do
  let s := skipToToken (s.cursor.rest.length + 1) s.skipMark
  let s ← s.dropStale
  (s.closeBlocks s.cursor.column).fetchAtToken

def headIsOpen (s : Scanner) : Bool := s.candidates.any (·.2.number = s.taken)

/-- Gives out tokens until the text or the fuel ends. Every round reads at least a character or
gives out a token. -/
def run : Nat → List Token → Scanner → TokenStream
  | 0, acc, _ => ⟨acc.reverse, none⟩
  | fuel + 1, acc, s =>
    if s.finished then ⟨acc.reverse ++ s.pending, none⟩
    else
      match s.pending with
      | [] =>
        match s.fetch with
        | .error e => ⟨acc.reverse, some e⟩
        | .ok s => run fuel acc s
      | t :: rest =>
        match s.dropStale with
        | .error e => ⟨acc.reverse, some e⟩
        | .ok s =>
          if s.headIsOpen then
            match s.fetch with
            | .error e => ⟨acc.reverse, some e⟩
            | .ok s => run fuel acc s
          else run fuel (t :: acc) { s with pending := rest, taken := s.taken + 1 }

end Scanner

def TokenStream.ofText (text : List Char) : TokenStream :=
  if !text.all isAllowed then ⟨[], some .malformed⟩
  else Scanner.run (8 * text.length + 16) [] (Scanner.start text)

end SchemaChecks.Yaml
