import SchemaChecks.Fault
import SchemaChecks.Pattern.Basic
import SchemaChecks.Text.Position

/-!
Why a text is no pattern, and how that is said.
-/

namespace SchemaChecks.Pattern

inductive Cause where
  | danglingBackslash
  | missingName (what : String)
  | unterminatedName (terminator : Char)
  | badGroupName (name : String)
  | incompleteEscape (escape : String)
  | badEscape (escape : String)
  | missingBrace
  | unknownCharacter (name : String)
  | octalTooLarge (escape : String)
  | openGroup
  | groupInLookBehind
  | noSuchGroup (index : Nat)
  | unterminatedSet
  | badRange (first last : String)
  | leastAboveMost
  | nothingToRepeat
  | multipleRepeat
  | unexpectedEnd
  | unknownExtension (text : String)
  | unterminatedComment
  | unterminatedGroup
  | unknownGroup (name : String)
  | groupZero
  | tooManyBranches
  | lateFlags
  | groupRedefined (name : String) (new old : Nat)
  | unbalanced
  | localeFlag
  | twoAlphabets
  | missingFlagEnd
  | unknownFlag
  | globalFlagOn
  | globalFlagOff
  | missingFlag
  | alphabetOff
  | missingColon
  | flagOnAndOff
  | variableLookBehind
  | noRepetition (kind : Repetition)
  deriving DecidableEq, Repr

/-- A cause with its offset in the pattern; causes that concern the whole have none. -/
structure Error where
  cause : Cause
  offset : Option Nat
  deriving DecidableEq, Repr

def Cause.message : Cause → String
  | .danglingBackslash => "bad escape (end of pattern)"
  | .missingName what => "missing " ++ what
  | .unterminatedName terminator => s!"missing {terminator}, unterminated name"
  | .badGroupName name => "bad character in group name " ++ Text.quoted name
  | .incompleteEscape escape => "incomplete escape " ++ escape
  | .badEscape escape => "bad escape " ++ escape
  | .missingBrace => "missing \x7b"
  | .unknownCharacter name => "undefined character name " ++ Text.quoted name
  | .octalTooLarge escape => s!"octal escape value {escape} outside of range 0-0o377"
  | .openGroup => "cannot refer to an open group"
  | .groupInLookBehind => "cannot refer to group defined in the same lookbehind subpattern"
  | .noSuchGroup index => s!"invalid group reference {index}"
  | .unterminatedSet => "unterminated character set"
  | .badRange first last => s!"bad character range {first}-{last}"
  | .leastAboveMost => "min repeat greater than max repeat"
  | .nothingToRepeat => "nothing to repeat"
  | .multipleRepeat => "multiple repeat"
  | .unexpectedEnd => "unexpected end of pattern"
  | .unknownExtension text => "unknown extension ?" ++ text
  | .unterminatedComment => "missing ), unterminated comment"
  | .unterminatedGroup => "missing ), unterminated subpattern"
  | .unknownGroup name => "unknown group name " ++ Text.quoted name
  | .groupZero => "bad group number"
  | .tooManyBranches => "conditional backref with more than two branches"
  | .lateFlags => "global flags not at the start of the expression"
  | .groupRedefined name new old =>
    "redefinition of group name " ++ Text.quoted name ++ s!" as group {new}; was group {old}"
  | .unbalanced => "unbalanced parenthesis"
  | .localeFlag => "bad inline flags: cannot use 'L' flag with a str pattern"
  | .twoAlphabets => "bad inline flags: flags 'a', 'u' and 'L' are incompatible"
  | .missingFlagEnd => "missing -, : or )"
  | .unknownFlag => "unknown flag"
  | .globalFlagOn => "bad inline flags: cannot turn on global flag"
  | .globalFlagOff => "bad inline flags: cannot turn off global flag"
  | .missingFlag => "missing flag"
  | .alphabetOff => "bad inline flags: cannot turn off flags 'a', 'u' and 'L'"
  | .missingColon => "missing :"
  | .flagOnAndOff => "bad inline flags: flag turned on and off"
  | .variableLookBehind => "look-behind requires fixed-width pattern"
  | .noRepetition kind =>
    let name := match kind with
      | .greedy => "MAX_REPEAT"
      | .lazy => "MIN_REPEAT"
      | .possessive => "POSSESSIVE_REPEAT"
    "internal: unsupported template operator " ++ name

/-- The error with its place in the pattern; the line is told for patterns of several lines. -/
def Error.message (pattern : String) (e : Error) : String :=
  match e.offset with
  | none => e.cause.message
  | some offset =>
    let cs := pattern.toList
    let p := Text.positionAt cs offset
    let place := s!"{e.cause.message} at position {offset}"
    if cs.contains '\n' then s!"{place} (line {p.line}, column {p.column})" else place

end SchemaChecks.Pattern
