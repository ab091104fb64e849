import SchemaChecks.Number.Reading
import SchemaChecks.Pattern.Error
import SchemaChecks.Text.CharacterName
import SchemaChecks.Text.Identifier

/-!
Reading patterns. The reader looks one unit ahead, a unit being a character or a backslash with the
character after it. A backslash at the very end is found as soon as the unit before it is taken.
-/

namespace SchemaChecks.Pattern

/-! ### Units -/

inductive Glyph where
  | plain (c : Char)
  | escaped (c : Char)
  | dangling
  deriving DecidableEq, Repr

def Glyph.chars : Glyph → List Char
  | .plain c => [c]
  | .escaped c => ['\\', c]
  | .dangling => ['\\']

def Glyph.text (g : Glyph) : String := String.ofList g.chars

structure PlacedGlyph where
  /-- Counts the characters of the pattern before it. -/
  offset : Nat
  glyph : Glyph

def unitsFrom : Nat → List Char → List PlacedGlyph
  | _, [] => []
  | n, ['\\'] => [⟨n, .dangling⟩]
  | n, '\\' :: c :: rest => ⟨n, .escaped c⟩ :: unitsFrom (n + 2) rest
  | n, c :: rest => ⟨n, .plain c⟩ :: unitsFrom (n + 1) rest

/-! ### Reader -/

structure Flags where
  ignoreCase : Bool := false
  multiline : Bool := false
  dotAll : Bool := false
  verbose : Bool := false
  ascii : Bool := false
  deriving DecidableEq, Repr

def Flags.casing (f : Flags) : Casing :=
  if !f.ignoreCase then .exact else if f.ascii then .ascii else .unicode

inductive Flag where
  | ignoreCase
  | locale
  | multiline
  | dotAll
  | verbose
  | ascii
  | template
  | unicode
  deriving DecidableEq, Repr

def Flags.change (on off : List Flag) (f : Flags) : Flags where
  ignoreCase := (f.ignoreCase || on.contains .ignoreCase) && !off.contains .ignoreCase
  multiline := (f.multiline || on.contains .multiline) && !off.contains .multiline
  dotAll := (f.dotAll || on.contains .dotAll) && !off.contains .dotAll
  verbose := (f.verbose || on.contains .verbose) && !off.contains .verbose
  ascii := (f.ascii && !on.contains .unicode) || on.contains .ascii

structure Reader where
  units : List PlacedGlyph
  /-- The number of characters in the pattern. -/
  size : Nat
  /-- Flags that hold for the whole pattern. -/
  flags : Flags
  asciiAsked : Bool
  unicodeAsked : Bool
  /-- Repetitions are ruled out. -/
  template : Bool
  /-- The width of every group, `none` while it is open; the first entry is no group. -/
  groups : Array (Option Width)
  names : List (String × Nat)
  /-- The number of groups when the outermost look-behind started. -/
  behind : Option Nat
  /-- Groups that conditions ask for, with the offset of the first question, latest first. -/
  asked : List (Nat × Nat)

abbrev Parse := StateT Reader (Except (Failure Error))

namespace Parse

def failAt {α : Type} (cause : Cause) (offset : Nat) : Parse α :=
  throw (.error ⟨cause, some offset⟩)

def fault {α : Type} (f : Fault) : Parse α := throw (.fault f)

def tell : Parse Nat := do
  let s ← get
  match s.units with
  | u :: _ => pure u.offset
  | [] => pure s.size

def fail {α : Type} (cause : Cause) (back : Nat) : Parse α := do failAt cause ((← tell) - back)

def peek : Parse (Option Glyph) := do
  match (← get).units with
  | u :: _ => pure (some u.glyph)
  | [] => pure none

def checkEnd : Parse Unit := do
  let s ← get
  match s.units with
  | ⟨_, .dangling⟩ :: _ => failAt .danglingBackslash (s.size - 1)
  | _ => pure ()

def take : Parse (Option Glyph) := do
  let s ← get
  match s.units with
  | [] => pure none
  | u :: rest =>
    set { s with units := rest }
    checkEnd
    pure (some u.glyph)

def accept (c : Char) : Parse Bool := do
  if (← peek) = some (.plain c) then
    discard take
    pure true
  else pure false

def takeWhile (p : Char → Bool) : Nat → Parse (List Char)
  | 0 => pure []
  | n + 1 => do
    match ← peek with
    | some (.plain c) =>
      if p c then
        discard take
        pure (c :: (← takeWhile p n))
      else pure []
    | _ => pure []

def takeUntil (terminator : Char) (what : String) : Nat → List Char → Parse (List Char)
  | 0, acc => pure acc
  | fuel + 1, acc => do
    match ← take with
    | none =>
      if acc.isEmpty then fail (.missingName what) 0
      else fail (.unterminatedName terminator) acc.length
    | some g =>
      if g = .plain terminator then
        if acc.isEmpty then fail (.missingName what) 1 else pure acc
      else takeUntil terminator what fuel (acc ++ g.chars)

def name (terminator : Char) (what : String) : Parse (List Char) := do
  takeUntil terminator what ((← get).size + 1) []

/-! ### Groups -/

def groupCount : Parse Nat := do pure (← get).groups.size

def closedGroup? (index : Nat) : Parse (Option Width) := do
  pure ((← get).groups[index]?.join)

/-- In a look-behind, only groups closed before it may be referred to. -/
def checkBehind (index : Nat) : Parse Unit := do
  match (← get).behind with
  | none => pure ()
  | some bound =>
    if (← closedGroup? index).isNone then fail .openGroup 0
    else if bound ≤ index then fail .groupInLookBehind 0
    else pure ()

def openGroup (groupName : Option String) : Parse Nat := do
  let s ← get
  let index := s.groups.size
  match groupName with
  | none => set { s with groups := s.groups.push none }
  | some n =>
    match s.names.lookup n with
    | some old => fail (.groupRedefined n index old) (n.length + 1)
    | none => set { s with groups := s.groups.push none, names := (n, index) :: s.names }
  pure index

def closeGroup (index : Nat) (w : Width) : Parse Unit :=
  modify fun s => { s with groups := s.groups.setIfInBounds index (some w) }

/-! ### Escapes -/

inductive Escape where
  | code (n : Nat)
  | category (c : CharClass) (negated : Bool)
  | anchor (a : Anchor)
  | backref (index : Nat) (width : Width)

def controlCode? : Char → Option Nat
  | 'a' => some 7
  | 'b' => some 8
  | 'f' => some 12
  | 'n' => some 10
  | 'r' => some 13
  | 't' => some 9
  | 'v' => some 11
  | '\\' => some 0x5c
  | _ => none

def category? : Char → Option Escape
  | 'd' => some (.category .digit false)
  | 'D' => some (.category .digit true)
  | 's' => some (.category .space false)
  | 'S' => some (.category .space true)
  | 'w' => some (.category .word false)
  | 'W' => some (.category .word true)
  | _ => none

def isHexDigit (c : Char) : Bool := (Number.digitValue? c).any (· < 16)
def isOctalDigit (c : Char) : Bool := '0' ≤ c && c ≤ '7'

def valueOf (base : Nat) (digits : List Char) : Nat := (Number.ofDigits? base digits).getD 0

def escapeText (cs : List Char) : String := String.ofList ('\\' :: cs)

def hexEscape (letter : Char) (width : Nat) : Parse Escape := do
  let digits ← takeWhile isHexDigit width
  if digits.length ≠ width then
    fail (.incompleteEscape (escapeText (letter :: digits))) (digits.length + 2)
  else
    let n := valueOf 16 digits
    if 0x110000 ≤ n then fail (.badEscape (escapeText (letter :: digits))) (digits.length + 2)
    else pure (.code n)

def namedEscape : Parse Escape := do
  if !(← accept '\x7b') then fail .missingBrace 0
  else
    let n := String.ofList (← name '\x7d' "character name")
    match Text.characterNamed? n with
    | some code => pure (.code code)
    | none => fail (.unknownCharacter n) (n.length + 4)

def octalEscape (digits : List Char) : Parse Escape := do
  let n := valueOf 8 digits
  if 0o377 < n then fail (.octalTooLarge (escapeText digits)) (digits.length + 1)
  else pure (.code n)

/-- A letter of ASCII has to have a meaning after a backslash; any other character stands for
itself. -/
def literalEscape (c : Char) : Parse Escape := do
  if c.isAlpha then fail (.badEscape (escapeText [c])) 2 else pure (.code (Text.codeOf c))

def commonEscape (c : Char) : Parse Escape := do
  match c with
  | 'x' => hexEscape 'x' 2
  | 'u' => hexEscape 'u' 4
  | 'U' => hexEscape 'U' 8
  | 'N' => namedEscape
  | _ => literalEscape c

def setEscape (c : Char) : Parse Escape := do
  match controlCode? c, category? c with
  | some n, _ => pure (.code n)
  | none, some e => pure e
  | none, none =>
    if isOctalDigit c then do
      let more ← takeWhile isOctalDigit 2
      octalEscape (c :: more)
    else if c.isDigit then fail (.badEscape (escapeText [c])) 2
    else commonEscape c

def groupReference (digits : List Char) : Parse Escape := do
  let index := valueOf 10 digits
  if index < (← groupCount) then
    match ← closedGroup? index with
    | none => fail .openGroup (digits.length + 1)
    | some width =>
      checkBehind index
      pure (.backref index width)
  else fail (.noSuchGroup index) digits.length

/-- Three octal digits are a character; fewer, unless they start with zero, are a group. -/
def numberEscape (c : Char) : Parse Escape := do
  match ← peek with
  | some (.plain d) =>
    if d.isDigit then
      discard take
      match ← peek with
      | some (.plain e) =>
        if isOctalDigit c && isOctalDigit d && isOctalDigit e then
          discard take
          octalEscape [c, d, e]
        else groupReference [c, d]
      | _ => groupReference [c, d]
    else groupReference [c]
  | _ => groupReference [c]

def escape (flags : Flags) (c : Char) : Parse Escape := do
  match c with
  | 'A' => pure (.anchor .textStart)
  | 'Z' => pure (.anchor .textEnd)
  | 'b' => pure (.anchor (.wordEdge flags.ascii))
  | 'B' => pure (.anchor (.notWordEdge flags.ascii))
  | '0' => do
    let more ← takeWhile isOctalDigit 2
    octalEscape (c :: more)
  | _ =>
    match category? c, controlCode? c with
    | some e, _ => pure e
    | none, some n => pure (.code n)
    | none, none => if c.isDigit then numberEscape c else commonEscape c

/-! ### Sets -/

def setItem (flags : Flags) : Escape → SetItem
  | .code n => .code n
  | .category c negated => .category c flags.ascii negated
  | _ => .code 0

def setMember (g : Glyph) : Parse Escape := do
  match g with
  | .plain c => pure (.code (Text.codeOf c))
  | .escaped c => setEscape c
  | .dangling => pure (.code 0x5c)

/-- The members of a set up to its bracket; `start` is the offset of the set. -/
def setItems (flags : Flags) (start : Nat) : Nat → List SetItem → Parse (List SetItem)
  | 0, acc => pure acc
  | fuel + 1, acc => do
    match ← take with
    | none => failAt .unterminatedSet start
    | some this =>
      if this = .plain ']' && !acc.isEmpty then pure acc.reverse
      else
        let first ← setMember this
        if !(← accept '-') then setItems flags start fuel (setItem flags first :: acc)
        else
          match ← take with
          | none => failAt .unterminatedSet start
          | some that =>
            if that = .plain ']' then
              pure (.code 0x2d :: setItem flags first :: acc).reverse
            else
              let last ← setMember that
              let bad : Parse (List SetItem) :=
                fail (.badRange this.text that.text) (this.chars.length + 1 + that.chars.length)
              match first, last with
              | .code lo, .code hi =>
                if hi < lo then bad else setItems flags start fuel (.range lo hi :: acc)
              | _, _ => bad

/-! ### Flags -/

def flagOf? : Glyph → Option Flag
  | .plain 'i' => some .ignoreCase
  | .plain 'L' => some .locale
  | .plain 'm' => some .multiline
  | .plain 's' => some .dotAll
  | .plain 'x' => some .verbose
  | .plain 'a' => some .ascii
  | .plain 't' => some .template
  | .plain 'u' => some .unicode
  | _ => none

def isAlphabet (f : Flag) : Bool := f = .ascii || f = .unicode || f = .locale

def isLetterGlyph : Glyph → Bool
  | .plain c => Text.isLetter c
  | _ => false

inductive FlagEnd where
  | close
  | minus
  | colon
  deriving DecidableEq

def flagsOn : Nat → Flag → List Flag → Parse (List Flag × FlagEnd)
  | 0, _, _ => fault .tooDeep
  | fuel + 1, f, acc => do
    if f = .locale then fail .localeFlag 0
    else
      let acc := f :: acc
      if isAlphabet f && acc.any fun g => isAlphabet g && g ≠ f then fail .twoAlphabets 0
      else
        match ← take with
        | none => fail .missingFlagEnd 0
        | some (.plain ')') => pure (acc, .close)
        | some (.plain '-') => pure (acc, .minus)
        | some (.plain ':') => pure (acc, .colon)
        | some g =>
          match flagOf? g with
          | some f => flagsOn fuel f acc
          | none =>
            fail (if isLetterGlyph g then .unknownFlag else .missingFlagEnd) g.chars.length

def flagsOff : Nat → Flag → List Flag → Parse (List Flag)
  | 0, _, _ => fault .tooDeep
  | fuel + 1, f, acc => do
    if isAlphabet f then fail .alphabetOff 0
    else
      let acc := f :: acc
      match ← take with
      | none => fail .missingColon 0
      | some (.plain ':') => pure acc
      | some g =>
        match flagOf? g with
        | some f => flagsOff fuel f acc
        | none => fail (if isLetterGlyph g then .unknownFlag else .missingColon) g.chars.length

inductive InlineFlags where
  | everywhere (on : List Flag)
  | scoped (on off : List Flag)

def inlineFlags (g : Glyph) : Parse InlineFlags := do
  let fuel := (← get).size + 1
  let (on, stop) ← match flagOf? g with
    | some f => flagsOn fuel f []
    | none => pure ([], FlagEnd.minus)
  match stop with
  | .close => pure (.everywhere on)
  | stop =>
    if on.contains .template then fail .globalFlagOn 1
    else
      let off ← match stop with
        | .minus => do
          match ← take with
          | none => fail .missingFlag 0
          | some g =>
            match flagOf? g with
            | some f => flagsOff fuel f []
            | none => fail (if isLetterGlyph g then .unknownFlag else .missingFlag) g.chars.length
        | _ => pure []
      if off.contains .template then fail .globalFlagOff 1
      else if on.any off.contains then fail .flagOnAndOff 1
      else pure (.scoped on off)

def setEverywhere (on : List Flag) : Parse Flags := do
  let s ← get
  let flags := s.flags.change (on.filter (· ≠ .unicode)) []
  set { s with
    flags := flags
    asciiAsked := s.asciiAsked || on.contains .ascii
    unicodeAsked := s.unicodeAsked || on.contains .unicode
    template := s.template || on.contains .template }
  pure flags

/-! ### Repetitions -/

/-- How an item may be repeated: anchors never, repetitions not again. -/
inductive ItemKind where
  | ordinary
  | anchor
  | repetition
  deriving DecidableEq

structure Item where
  expr : Expr
  kind : ItemKind

/-- The bounds in braces, `none` if the brace stands for itself. -/
def bounds : Parse (Option (Nat × Option Nat)) := do
  let before ← get
  let start ← tell
  if (← peek) = some (.plain '\x7d') then pure none
  else
    let size := before.size
    let lo ← takeWhile Char.isDigit size
    let hi ← if ← accept ',' then takeWhile Char.isDigit size else pure lo
    if !(← accept '\x7d') then
      set before
      pure none
    else
      let limit (digits : List Char) : Parse (Option Nat) := do
        if digits.isEmpty then pure none
        else if Number.digitLimit < digits.length then
          fault (.scalar (.tooManyDigits digits.length))
        else
          let n := valueOf 10 digits
          if manyTimes ≤ n then fault .repetitionTooLarge else pure (some n)
      let least ← limit lo
      let most ← limit hi
      let least := least.getD 0
      match most with
      | some m =>
        if m < least then failAt .leastAboveMost start else pure (some (least, some m))
      | none => pure (some (least, none))

def repetitionKind : Parse Repetition := do
  if ← accept '?' then pure .lazy
  else if ← accept '+' then pure .possessive
  else pure .greedy

def repeatLast (start : Nat) (least : Nat) (most : Option Nat) (acc : List Item) :
    Parse (List Item) := do
  match acc with
  | [] => failAt .nothingToRepeat start
  | item :: rest =>
    match item.kind with
    | .anchor => failAt .nothingToRepeat start
    | .repetition => failAt .multipleRepeat start
    | .ordinary =>
      pure (⟨.rep (← repetitionKind) least most item.expr, .repetition⟩ :: rest)

/-! ### Expressions -/

def sequence (acc : List Item) : Expr :=
  match acc with
  | [] => .empty
  | last :: before => before.foldl (fun e item => .seq item.expr e) last.expr

def skipComment : Nat → Parse Unit
  | 0 => pure ()
  | fuel + 1 => do
    match ← take with
    | none => pure ()
    | some g => if g = .plain '\n' then pure () else skipComment fuel

def skipRemark (start : Nat) : Nat → Parse Unit
  | 0 => pure ()
  | fuel + 1 => do
    match ← peek with
    | none => failAt .unterminatedComment start
    | some _ => if (← take) = some (.plain ')') then pure () else skipRemark start fuel

def checkName (n : List Char) (back : Nat) : Parse Unit := do
  if Text.isIdentifier n then pure ()
  else fail (.badGroupName (String.ofList n)) (n.length + back)

def conditionGroup : Parse Nat := do
  let n ← name ')' "group name"
  let text := String.ofList n
  if Text.isIdentifier n then
    match (← get).names.lookup text with
    | some index => pure index
    | none => fail (.unknownGroup text) (n.length + 1)
  else
    match Number.readInt 10 n with
    | .ok (.ofNat index) =>
      if index = 0 then fail .groupZero (n.length + 1)
      else if 1073741823 ≤ index then fail (.noSuchGroup index) (n.length + 1)
      else
        let s ← get
        if (s.asked.lookup index).isNone then
          set { s with asked := (index, (← tell) - n.length - 1) :: s.asked }
        pure index
    | _ => fail (.badGroupName text) (n.length + 1)

def namedReference (flags : Flags) : Parse Expr := do
  let n ← name ')' "group name"
  checkName n 1
  let text := String.ofList n
  match (← get).names.lookup text with
  | none => fail (.unknownGroup text) (n.length + 1)
  | some index =>
    match ← closedGroup? index with
    | none => fail .openGroup (n.length + 1)
    | some width =>
      checkBehind index
      pure (.backref index flags.casing width)

def escapeItem (flags : Flags) (c : Char) : Parse Item := do
  match ← escape flags c with
  | .code n => pure ⟨.set ⟨false, [.code n], flags.casing⟩, .ordinary⟩
  | .category cl negated =>
    pure ⟨.set ⟨false, [.category cl flags.ascii negated], flags.casing⟩, .ordinary⟩
  | .anchor a => pure ⟨.anchor a, .anchor⟩
  | .backref index width => pure ⟨.backref index flags.casing width, .ordinary⟩

def literal (flags : Flags) (c : Char) : Item :=
  ⟨.set ⟨false, [.code (Text.codeOf c)], flags.casing⟩, .ordinary⟩

def isVerboseSpace (c : Char) : Bool :=
  c = ' ' || c = '\t' || c = '\n' || c = '\r' || c.toNat = 11 || c.toNat = 12

def depthLimit : Nat := 480

def closeParenthesis (start : Nat) : Parse Unit := do
  if ← accept ')' then pure () else failAt .unterminatedGroup start

inductive Group where
  | item (e : Expr)
  | nothing
  | flags (f : Flags)

mutual

/-- Alternatives up to a closing parenthesis or the end. At the top, flags for the whole pattern
may stand before the first one. -/
def alternatives (fuel depth : Nat) (flags : Flags) (top first : Bool) : Parse Expr := do
  match fuel with
  | 0 => fault .tooDeep
  | fuel + 1 =>
    let flags ← if top then do pure (← get).flags else pure flags
    let p ← items fuel depth flags (top && first) []
    if ← accept '|' then
      let q ← alternatives fuel depth flags top false
      pure (.alt p q)
    else pure p

/-- Items up to an alternative's end; `first` while flags for the whole pattern may still come. -/
def items (fuel depth : Nat) (flags : Flags) (first : Bool) (acc : List Item) : Parse Expr := do
  match fuel with
  | 0 => fault .tooDeep
  | fuel + 1 =>
    let start ← tell
    match ← peek with
    | none => pure (sequence acc)
    | some (.plain '|') => pure (sequence acc)
    | some (.plain ')') => pure (sequence acc)
    | some g =>
      discard take
      match g with
      | .dangling => pure (sequence acc)
      | .escaped c => do
        let item ← escapeItem flags c
        items fuel depth flags first (item :: acc)
      | .plain c =>
        if flags.verbose && isVerboseSpace c then items fuel depth flags first acc
        else if flags.verbose && c = '#' then
          skipComment ((← get).size + 1)
          items fuel depth flags first acc
        else if c = '[' then
          let negated ← accept '^'
          let members ← setItems flags start ((← get).size + 1) []
          items fuel depth flags first (⟨.set ⟨negated, members, flags.casing⟩, .ordinary⟩ :: acc)
        else if c = '?' then items fuel depth flags first (← repeatLast start 0 (some 1) acc)
        else if c = '*' then items fuel depth flags first (← repeatLast start 0 none acc)
        else if c = '+' then items fuel depth flags first (← repeatLast start 1 none acc)
        else if c = '\x7b' then
          match ← bounds with
          | none => items fuel depth flags first (literal flags c :: acc)
          | some (least, most) =>
            items fuel depth flags first (← repeatLast start least most acc)
        else if c = '.' then
          items fuel depth flags first (⟨.any flags.dotAll, .ordinary⟩ :: acc)
        else if c = '^' then
          let a := if flags.multiline then Anchor.lineStart else .textStart
          items fuel depth flags first (⟨.anchor a, .anchor⟩ :: acc)
        else if c = '$' then
          let a := if flags.multiline then Anchor.lineEnd else .lastLineEnd
          items fuel depth flags first (⟨.anchor a, .anchor⟩ :: acc)
        else if c = '(' then
          match ← group fuel depth flags (first && acc.isEmpty) start with
          | .item e => items fuel depth flags first (⟨e, .ordinary⟩ :: acc)
          | .nothing => items fuel depth flags first acc
          | .flags f => items fuel depth f first acc
        else items fuel depth flags first (literal flags c :: acc)

def groupBody (fuel depth : Nat) (flags : Flags) (start : Nat) (index : Option Nat) :
    Parse Expr := do
  match fuel, depth with
  | fuel + 1, depth + 1 =>
    let p ← alternatives fuel depth flags false false
    closeParenthesis start
    match index with
    | none => pure p
    | some i =>
      closeGroup i p.width
      pure (.group i p)
  | _, _ => fault .tooDeep

def assertion (fuel depth : Nat) (flags : Flags) (start : Nat) (ahead negated : Bool) :
    Parse Expr := do
  match fuel, depth with
  | fuel + 1, depth + 1 =>
    let outer := (← get).behind
    if !ahead && outer.isNone then modify fun s => { s with behind := some s.groups.size }
    let p ← alternatives fuel depth flags false false
    if !ahead && outer.isNone then modify fun s => { s with behind := none }
    closeParenthesis start
    if negated && p = .empty then pure .never
    else if ahead then pure (.lookAhead negated p)
    else pure (.lookBehind negated p.width p)
  | _, _ => fault .tooDeep

def condition (fuel depth : Nat) (flags : Flags) (start : Nat) : Parse Expr := do
  match fuel, depth with
  | fuel + 1, depth + 1 =>
    let index ← conditionGroup
    checkBehind index
    let yes ← items fuel depth flags false []
    let no ←
      if ← accept '|' then do
        let no ← items fuel depth flags false []
        if (← peek) = some (.plain '|') then fail .tooManyBranches 0 else pure no
      else pure .empty
    closeParenthesis start
    pure (.cond index yes no)
  | _, _ => fault .tooDeep

def group (fuel depth : Nat) (flags : Flags) (first : Bool) (start : Nat) : Parse Group := do
  match fuel with
  | 0 => fault .tooDeep
  | fuel + 1 =>
    if !(← accept '?') then
      let i ← openGroup none
      pure (.item (← groupBody fuel depth flags start (some i)))
    else
      match ← take with
      | none => fail .unexpectedEnd 0
      | some (.plain 'P') =>
        if ← accept '<' then
          let n ← name '>' "group name"
          checkName n 1
          let i ← openGroup (some (String.ofList n))
          pure (.item (← groupBody fuel depth flags start (some i)))
        else if ← accept '=' then pure (.item (← namedReference flags))
        else
          match ← take with
          | none => fail .unexpectedEnd 0
          | some g => fail (.unknownExtension ("P" ++ g.text)) (g.chars.length + 2)
      | some (.plain ':') => pure (.item (← groupBody fuel depth flags start none))
      | some (.plain '#') =>
        skipRemark start ((← get).size + 1)
        pure .nothing
      | some (.plain '=') => pure (.item (← assertion fuel depth flags start true false))
      | some (.plain '!') => pure (.item (← assertion fuel depth flags start true true))
      | some (.plain '<') =>
        match ← take with
        | none => fail .unexpectedEnd 0
        | some (.plain '=') => pure (.item (← assertion fuel depth flags start false false))
        | some (.plain '!') => pure (.item (← assertion fuel depth flags start false true))
        | some g => fail (.unknownExtension ("<" ++ g.text)) (g.chars.length + 2)
      | some (.plain '(') => pure (.item (← condition fuel depth flags start))
      | some (.plain '>') => pure (.item (.atomic (← groupBody fuel depth flags start none)))
      | some g =>
        if (flagOf? g).isNone && g ≠ .plain '-' then
          fail (.unknownExtension g.text) (g.chars.length + 1)
        else
          match ← inlineFlags g with
          | .everywhere on =>
            let f ← setEverywhere on
            if first then pure (.flags f) else failAt .lateFlags start
          | .scoped on off =>
            pure (.item (← groupBody fuel depth (flags.change on off) start none))

end

/-- The whole pattern: nothing may follow its alternatives, and every group that a condition asks
for has to exist. -/
def whole : Parse Expr := do
  checkEnd
  let size := (← get).size
  let p ← alternatives (8 * size + 16) depthLimit {} true true
  let s ← get
  if s.asciiAsked && s.unicodeAsked then fault .mixedAlphabets
  else if !s.units.isEmpty then fail .unbalanced 0
  else
    match s.asked.reverse.find? fun a => s.groups.size ≤ a.1 with
    | some (index, offset) => failAt (.noSuchGroup index) offset
    | none => pure p

end Parse

/-- The first thing in an expression that cannot be compiled: a look-behind without a fixed width,
or a repetition where they are ruled out. -/
def Expr.obstacle? (template : Bool) : Expr → Option Cause
  | .seq p q | .alt p q | .cond _ p q =>
    match p.obstacle? template with
    | some c => some c
    | none => q.obstacle? template
  | .group _ p | .atomic p | .lookAhead _ p => p.obstacle? template
  | .lookBehind _ w p => if w.least ≠ w.most then some .variableLookBehind else p.obstacle? template
  | .rep kind _ _ p => if template then some (.noRepetition kind) else p.obstacle? template
  | _ => none

def compile (pattern : String) : Except (Failure Error) Compiled :=
  let cs := pattern.toList
  let start : Reader :=
    { units := unitsFrom 0 cs, size := cs.length, flags := {}, asciiAsked := false
      unicodeAsked := false, template := false, groups := #[none], names := []
      behind := none, asked := [] }
  match Parse.whole.run start with
  | .error e => .error e
  | .ok (p, s) =>
    match p.obstacle? s.template with
    | some c => .error (.error ⟨c, none⟩)
    | none => .ok ⟨p, s.groups.size - 1⟩

end SchemaChecks.Pattern
