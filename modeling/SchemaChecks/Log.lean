/-!
Log records and where they go. Records are dropped below the level of the log; of the others each
handler takes those within its own bounds. The split setup has two handlers, whose bounds leave no
record to both: one for records below a threshold, one for all from the threshold on. The texts of
records are such as a stream can write.
-/

namespace SchemaChecks

inductive Stream where
  | output
  | error
  deriving DecidableEq, Repr

namespace Log

structure Record where
  /-- The name of the logger; the root has none. -/
  logger : String
  level : Int
  message : String
  deriving DecidableEq, Repr

def debug : Int := 10
def info : Int := 20
def warning : Int := 30

def levelName (level : Int) : String :=
  if level = 0 then "NOTSET"
  else if level = debug then "DEBUG"
  else if level = info then "INFO"
  else if level = warning then "WARNING"
  else if level = 40 then "ERROR"
  else if level = 50 then "CRITICAL"
  else s!"Level {level}"

/-! ### Layouts -/

/-- How a field is written: as a text, of which a precision keeps the start, or as a number, for
which it is the least count of digits. A precision without digits is 0. -/
structure FieldStyle where
  isNumber : Bool := false
  flags : List Char := []
  width : Nat := 0
  precision : Option (List Char) := none
  deriving DecidableEq, Repr

inductive Piece where
  | text (s : String)
  | field (name : String) (style : FieldStyle)
  deriving DecidableEq, Repr

abbrev Layout := List Piece

namespace Layout

def countOf (digits : List Char) : Nat := digits.foldl (fun n c => n * 10 + (c.toNat - 0x30)) 0

def precision? : List Char → Option (List Char) × List Char
  | '.' :: rest => (some (rest.takeWhile Char.isDigit), rest.dropWhile Char.isDigit)
  | cs => (none, cs)

/-- What follows `%(`: a name, a parenthesis, flags, a width, a precision and a letter. -/
def field? (cs : List Char) : Option (Piece × List Char) :=
  let name := cs.takeWhile (· ≠ ')')
  match cs.dropWhile (· ≠ ')') with
  | ')' :: rest =>
    let flags := rest.takeWhile fun c => c = '-' || c = '+' || c = ' ' || c = '#' || c = '0'
    let rest := rest.drop flags.length
    let width := rest.takeWhile Char.isDigit
    let (precision, rest) := precision? (rest.drop width.length)
    match rest with
    | conversion :: rest =>
      if conversion = 's' || conversion = 'd' || conversion = 'i' then
        some (.field (String.ofList name) ⟨conversion ≠ 's', flags, countOf width, precision⟩, rest)
      else none
    | [] => none
  | _ => none

def piecesOf : Nat → List Char → Layout
  | 0, _ => []
  | _, [] => []
  | fuel + 1, '%' :: '%' :: rest => .text "%" :: piecesOf fuel rest
  | fuel + 1, '%' :: '(' :: rest =>
    match field? rest with
    | some (p, rest) => p :: piecesOf fuel rest
    | none => .text "%(" :: piecesOf fuel rest
  | fuel + 1, c :: rest => .text c.toString :: piecesOf fuel rest

def ofText (s : String) : Layout := piecesOf s.length s.toList

/-- Whether a field stands in the layout; one whose precision has no digits does not count. -/
def showsField (l : Layout) : Bool :=
  l.any fun
    | .field _ style => style.precision ≠ some []
    | .text _ => false

def read (s : String) : Except String Layout :=
  let l := ofText s
  if l.showsField then .ok l else .error s!"Invalid format '{s}' for '%' style"

def standard : Layout :=
  [.field "name" {}, .text " - ", .field "levelname" {}, .text " - ", .field "message" {}]

def fieldText (r : Record) : String → String
  | "name" => if r.logger.isEmpty then "root" else r.logger
  | "levelname" => levelName r.level
  | "levelno" => toString r.level
  | "message" | "msg" => r.message
  | _ => ""

def fill (c : Char) (width taken : Nat) : List Char := List.replicate (width - taken) c

def signOf (flags : List Char) : List Char :=
  if flags.contains '+' then ['+'] else if flags.contains ' ' then [' '] else []

/-- A number that is not negative with its sign; zeros fill its width if the flags say so. -/
def numberText (style : FieldStyle) (digits : List Char) : List Char :=
  let sign := signOf style.flags
  let digits := fill '0' (countOf (style.precision.getD [])) digits.length ++ digits
  if style.flags.contains '0' && !style.flags.contains '-' then
    sign ++ fill '0' style.width (sign.length + digits.length) ++ digits
  else sign ++ digits

def styled (style : FieldStyle) (s : String) : String :=
  let cs :=
    if style.isNumber then numberText style s.toList
    else (style.precision.map fun n => s.toList.take (countOf n)).getD s.toList
  let blanks := fill ' ' style.width cs.length
  String.ofList (if style.flags.contains '-' then cs ++ blanks else blanks ++ cs)

def pieceText (r : Record) : Piece → String
  | .text s => s
  | .field name style => styled style (fieldText r name)

def line (l : Layout) (r : Record) : String := String.join (l.map (pieceText r)) ++ "\n"

end Layout

/-! ### Handlers -/

structure Handler where
  stream : Stream
  least : Int
  most : Option Int
  layout : Layout
  deriving DecidableEq, Repr

def Handler.takes (h : Handler) (level : Int) : Bool := h.least ≤ level && h.most.all (level ≤ ·)

/-- What writes records if a log has no handler. -/
def lastResort : Handler := ⟨.error, warning, none, [.field "message" {}]⟩

end Log

/-- A log with its level; 0 lets every level from 1 on pass. -/
structure Log where
  level : Int
  handlers : List Log.Handler
  deriving DecidableEq, Repr

namespace Log

def unset : Log := ⟨warning, []⟩

def enables (l : Log) (level : Int) : Bool := 0 < level && l.level ≤ level

def activeHandlers (l : Log) : List Handler :=
  if l.handlers.isEmpty then [lastResort] else l.handlers

def deliver (l : Log) (r : Record) : List (Stream × String) :=
  if l.enables r.level then
    (l.activeHandlers.filter (·.takes r.level)).map fun h => (h.stream, h.layout.line r)
  else []

/-- Sets the log up anew, whatever it was: debug records and better below the threshold go to the
output, all from the threshold on to the error stream. -/
def split (level threshold : Int) (layout : Layout) (_ : Log) : Log :=
  ⟨level, [⟨.output, debug, some (threshold - 1), layout⟩, ⟨.error, threshold, none, layout⟩]⟩

end Log

end SchemaChecks
