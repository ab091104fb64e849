import SchemaChecks.Yaml.Fault

/-!
Tags of YAML nodes: the tag that a plain scalar has by its spelling, and the spelling of times.
-/

namespace SchemaChecks.Yaml

inductive Tag where
  | null
  | bool
  | int
  | float
  | binary
  | timestamp
  | str
  | seq
  | map
  | set
  | orderedMap
  | pairs
  /-- The key `<<`. -/
  | merge
  /-- The key `=`. -/
  | default
  | unknown
  deriving DecidableEq, Repr

namespace Tag

def ofName (name : String) : Tag :=
  match name with
  | "tag:yaml.org,2002:null" => .null
  | "tag:yaml.org,2002:bool" => .bool
  | "tag:yaml.org,2002:int" => .int
  | "tag:yaml.org,2002:float" => .float
  | "tag:yaml.org,2002:binary" => .binary
  | "tag:yaml.org,2002:timestamp" => .timestamp
  | "tag:yaml.org,2002:str" => .str
  | "tag:yaml.org,2002:seq" => .seq
  | "tag:yaml.org,2002:map" => .map
  | "tag:yaml.org,2002:set" => .set
  | "tag:yaml.org,2002:omap" => .orderedMap
  | "tag:yaml.org,2002:pairs" => .pairs
  | "tag:yaml.org,2002:merge" => .merge
  | "tag:yaml.org,2002:value" => .default
  | _ => .unknown

end Tag

/-! ### Spellings -/

def dropSign : List Char → List Char
  | '-' :: rest => rest
  | '+' :: rest => rest
  | cs => cs

def isDigitOr_ (c : Char) : Bool := c.isDigit || c = '_'

def truthWords : List (String × Bool) :=
  [("yes", true), ("no", false), ("true", true), ("false", false), ("on", true), ("off", false)]

def spellings (word : String) : List (List Char) :=
  let cs := word.toList
  [cs, (cs.take 1).map Char.toUpper ++ cs.drop 1, cs.map Char.toUpper]

def spellsBool (cs : List Char) : Bool := truthWords.any fun w => (spellings w.1).contains cs

def spellsNull (cs : List Char) : Bool :=
  cs = [] || cs = ['~'] || (spellings "null").contains cs

def sixtieths? : Nat → List Char → Option (List Char)
  | 0, _ => none
  | fuel + 1, cs =>
    match cs with
    | ':' :: rest =>
      let digits := rest.takeWhile Char.isDigit
      let after := rest.dropWhile Char.isDigit
      let fits := match digits with
        | [_] => true
        | [tens, _] => tens ≤ '5'
        | _ => false
      if !fits then none
      else if after.head? = some ':' then sixtieths? fuel after
      else some after
    | _ => none

def spellsInt (cs : List Char) : Bool :=
  match dropSign cs with
  | ['0'] => true
  | '0' :: 'b' :: rest => !rest.isEmpty && rest.all fun c => c = '0' || c = '1' || c = '_'
  | '0' :: 'x' :: rest =>
    !rest.isEmpty && rest.all fun c =>
      c.isDigit || ('a' ≤ c && c ≤ 'f') || ('A' ≤ c && c ≤ 'F') || c = '_'
  | '0' :: rest => rest.all fun c => ('0' ≤ c && c ≤ '7') || c = '_'
  | c :: rest =>
    if !c.isDigit then false
    else
      let after := rest.dropWhile isDigitOr_
      after.isEmpty || sixtieths? after.length after = some []
  | [] => false

def spellsExponent : List Char → Bool
  | [] => true
  | [_] => false
  | e :: sign :: digits =>
    (e = 'e' || e = 'E') && (sign = '-' || sign = '+') && !digits.isEmpty && digits.all Char.isDigit

def spellsFraction (cs : List Char) : Bool := spellsExponent (cs.dropWhile isDigitOr_)

def spellsInfinity (cs : List Char) : Bool :=
  cs = ['.', 'i', 'n', 'f'] || cs = ['.', 'I', 'n', 'f'] || cs = ['.', 'I', 'N', 'F']

def spellsNaN (cs : List Char) : Bool :=
  cs = ['.', 'n', 'a', 'n'] || cs = ['.', 'N', 'a', 'N'] || cs = ['.', 'N', 'A', 'N']

/-- A fraction, an infinity or NaN. A fraction has a point, and a sign only before a digit. -/
def spellsFloat (cs : List Char) : Bool :=
  if spellsInfinity (dropSign cs) || spellsNaN cs then true
  else
    match dropSign cs with
    | [] => false
    | c :: rest =>
      if c = '.' then cs.head? = some '.' && rest.head?.any Char.isDigit && spellsFraction rest
      else if !c.isDigit then false
      else
        match rest.dropWhile isDigitOr_ with
        | [] => false
        | d :: after =>
          if d = '.' then spellsFraction after
          else
            match sixtieths? (after.length + 1) (d :: after) with
            | some ('.' :: fraction) => fraction.all isDigitOr_
            | _ => false

/-! ### Times -/

structure ZoneSpelling where
  negative : Bool
  hour : List Char
  minute : List Char
  deriving DecidableEq, Repr

structure ClockSpelling where
  hour : List Char
  minute : List Char
  second : List Char
  fraction : List Char
  /-- No zone, universal time, or hours and minutes from it. -/
  zone : Option (Option ZoneSpelling)
  deriving DecidableEq, Repr

structure TimeSpelling where
  year : List Char
  month : List Char
  day : List Char
  clock : Option ClockSpelling
  deriving DecidableEq, Repr

def digitRun? (least most : Nat) (cs : List Char) : Option (List Char × List Char) :=
  let run := (cs.takeWhile Char.isDigit).take most
  if run.length < least then none else some (run, cs.drop run.length)

def afterChar? (x : Char) : List Char → Option (List Char)
  | c :: rest => if c = x then some rest else none
  | [] => none

def isTimeGap (c : Char) : Bool := c = ' ' || c = '\t'

def zoneOf? (cs : List Char) : Option (Option (Option ZoneSpelling)) :=
  match cs with
  | [] => some none
  | _ =>
    match cs.dropWhile isTimeGap with
    | ['Z'] => some (some none)
    | sign :: rest =>
      if sign ≠ '-' && sign ≠ '+' then none
      else do
        let (hour, rest) ← digitRun? 1 2 rest
        match rest with
        | [] => some (some (some ⟨sign = '-', hour, []⟩))
        | _ =>
          let rest ← afterChar? ':' rest
          let (minute, rest) ← digitRun? 2 2 rest
          if rest.isEmpty then some (some (some ⟨sign = '-', hour, minute⟩)) else none
    | [] => none

def clockOf? (cs : List Char) : Option ClockSpelling := do
  let (hour, rest) ← digitRun? 1 2 cs
  let rest ← afterChar? ':' rest
  let (minute, rest) ← digitRun? 2 2 rest
  let rest ← afterChar? ':' rest
  let (second, rest) ← digitRun? 2 2 rest
  let (fraction, rest) := match rest with
    | '.' :: more => (more.takeWhile Char.isDigit, more.dropWhile Char.isDigit)
    | other => ([], other)
  let zone ← zoneOf? rest
  some ⟨hour, minute, second, fraction, zone⟩

/-- Reads a date, or a date with a time after `T` or blanks. -/
def timeOf? (cs : List Char) : Option TimeSpelling := do
  let (year, rest) ← digitRun? 4 4 cs
  let rest ← afterChar? '-' rest
  let (month, rest) ← digitRun? 1 2 rest
  let rest ← afterChar? '-' rest
  let (day, rest) ← digitRun? 1 2 rest
  match rest with
  | [] => some ⟨year, month, day, none⟩
  | c :: more =>
    let rest ←
      if c = 'T' || c = 't' then some more
      else if isTimeGap c then some (more.dropWhile isTimeGap)
      else none
    let clock ← clockOf? rest
    some ⟨year, month, day, some clock⟩

/-- A plain scalar is a time when it has a clock or both parts of its date have two digits. -/
def spellsTimestamp (cs : List Char) : Bool :=
  (timeOf? cs).any fun t => t.clock.isSome || (t.month.length = 2 && t.day.length = 2)

/-- A line feed at the end does not count for the spelling of a scalar. -/
def withoutFinalBreak (cs : List Char) : List Char :=
  if cs.getLast? = some '\n' then cs.dropLast else cs

def Tag.ofSpelling (text : String) : Tag :=
  if text.isEmpty then .null
  else
    let cs := withoutFinalBreak text.toList
    if cs.isEmpty then .str
    else if spellsBool cs then .bool
    else if spellsFloat cs then .float
    else if spellsInt cs then .int
    else if cs = ['<', '<'] then .merge
    else if spellsNull cs then .null
    else if spellsTimestamp cs then .timestamp
    else if cs = ['='] then .default
    else .str

end SchemaChecks.Yaml
