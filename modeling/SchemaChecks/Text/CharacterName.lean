import SchemaChecks.Text.CharacterName.Alias
import SchemaChecks.Text.CharacterName.Ancient
import SchemaChecks.Text.CharacterName.Asian
import SchemaChecks.Text.CharacterName.Compatibility
import SchemaChecks.Text.CharacterName.EastAsian
import SchemaChecks.Text.CharacterName.European
import SchemaChecks.Text.CharacterName.Hieroglyph
import SchemaChecks.Text.CharacterName.Notated
import SchemaChecks.Text.CharacterName.Phonetic
import SchemaChecks.Text.CharacterName.Pictograph
import SchemaChecks.Text.CharacterName.Symbol
import SchemaChecks.Text.RangeTable

/-!
Characters by their Unicode names. Unified ideographs are named by their code points and Hangul
syllables by their letters, both in capitals only; any other name is found whatever its case.
-/

namespace SchemaChecks.Text

namespace CharacterName

def leadingLetters : List String :=
  ["G", "GG", "N", "D", "DD", "R", "M", "B", "BB", "S", "SS", "", "J", "JJ", "C", "K", "T", "P",
   "H"]

def vowels : List String :=
  ["A", "AE", "YA", "YAE", "EO", "E", "YEO", "YE", "O", "WA", "WAE", "OE", "YO", "U", "WEO", "WE",
   "WI", "YU", "EU", "YI", "I"]

def trailingLetters : List String :=
  ["", "G", "GG", "GS", "N", "NJ", "NH", "D", "L", "LG", "LM", "LB", "LS", "LT", "LP", "LH", "M",
   "B", "BS", "S", "SS", "NG", "J", "C", "K", "T", "P", "H"]

def syllables : List String :=
  leadingLetters.flatMap fun l => vowels.flatMap fun v => trailingLetters.map fun t => l ++ v ++ t

def syllable? (letters : String) : Option Nat := (syllables.idxOf? letters).map (0xac00 + ·)

def unifiedIdeographs : RangeTable :=
  #[(0x3400, 0x4dbf), (0x4e00, 0x9fff), (0x20000, 0x2a6df), (0x2a700, 0x2b738), (0x2b740, 0x2b81d),
   (0x2b820, 0x2cea1), (0x2ceb0, 0x2ebe0), (0x30000, 0x3134a)]

def capitalHexDigit? (c : Char) : Option Nat :=
  if c.isDigit then some (c.toNat - '0'.toNat)
  else if 'A' ≤ c ∧ c ≤ 'F' then some (c.toNat - 'A'.toNat + 10)
  else none

/-- The ideograph whose number has four or five digits. -/
def ideograph? (digits : List Char) : Option Nat := do
  let ds ← digits.mapM capitalHexDigit?
  let n := ds.foldl (fun n d => n * 16 + d) 0
  if (ds.length = 4 ∨ ds.length = 5) ∧ unifiedIdeographs.contains n then some n else none

def tables : List (List NameRun) :=
  [european, asian, phonetic, symbol, eastAsian, compatibility, ancient, hieroglyph, notated,
   pictograph, aliases]

def listed? (name : String) : Option Nat :=
  let name := name.map Char.toUpper
  tables.findSome? (·.findSome? (·.code? name))

end CharacterName

def characterNamed? (name : String) : Option Nat :=
  match name.dropPrefix? "HANGUL SYLLABLE " with
  | some letters => CharacterName.syllable? letters.toString
  | none =>
    match name.dropPrefix? "CJK UNIFIED IDEOGRAPH-" with
    | some digits => CharacterName.ideograph? digits.toString.toList
    | none => CharacterName.listed? name

end SchemaChecks.Text
