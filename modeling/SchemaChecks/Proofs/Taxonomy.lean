import SchemaChecks.Proofs.ExtractionFailure
import SchemaChecks.Proofs.JsonReading
import SchemaChecks.Proofs.PatternFaults
import SchemaChecks.Proofs.YamlFaults

/-!
Which errors there are. Loading a document is meant to end with a document or with an error about
the text, and extraction with checks or with an error about the structure. What ends them in another
way is listed, with the place that it comes from.
-/

namespace SchemaChecks

/-! ### Keys without a text -/

namespace Value

end Value

/-! ### The errors of loading and extraction -/

section

variable (text : String) (format path : Option String)

/-- What ends loading or extraction in another way: a number of a JSON text with too many digits, a
scalar of a YAML text that cannot be read, a whole number as a key that has too many digits to be
written, and the first pattern that cannot be read, if its reading breaks off. -/
inductive Escapes : Fault → Prop
  | jsonNumber {n : Nat} (written : Text.isBlankText text = false)
      (chosen : Document.formatFor format text = .ok .json)
      (reads : Json.read text = .error (.tooManyDigits n)) : Escapes (.scalar (.tooManyDigits n))
  | yamlScalar {f : ScalarFault} (written : Text.isBlankText text = false)
      (chosen : Document.formatFor format text = .ok .yaml)
      (reads : Yaml.read text = .error (.scalar f)) : Escapes (.scalar f)
  | yamlKey {v : Value} {i : Int} (written : Text.isBlankText text = false)
      (chosen : Document.formatFor format text = .ok .yaml) (reads : Yaml.read text = .ok v)
      (fits : v.fits Document.depthLimit) (key : v.HasKey (.int i))
      (long : 10 ^ Atom.digitLimit ≤ i.natAbs) : Escapes (.scalar .tooManyDigitsToWrite)
  | pattern {d : Document} {entries : List (String × Tree)} {before after : List PatternSite}
      {site : PatternSite} {f : Fault} (loads : Document.load text format = .ok d)
      (collection : Reading.IsCollection d.root path entries)
      (sites : Reading.patternSites entries = before ++ site :: after)
      (readable : ∀ s ∈ before, ∃ q, Pattern.compile s.regex = .ok q)
      (breaks : Pattern.compile site.regex = .error (.fault f)) : Escapes f

end

inductive Origin (text : String) : Fault → Prop
  /-- More digits in a row than a number may have. -/
  | digits {n : Nat} (long : Number.digitLimit < n) (run : Json.HasRun n text.toList) :
      Origin text (.scalar (.tooManyDigits n))
  | scalar {f : ScalarFault} (breaks : Yaml.BreaksOff text f) : Origin text (.scalar f)
  | key : Origin text (.scalar .tooManyDigitsToWrite)
  | pattern {f : Fault} (kind : Pattern.IsFault f) : Origin text f

variable {text : String} {format path : Option String} {f : Fault}

namespace Document

end Document

theorem Escapes.origin (h : Escapes text format path f) : Origin text f := by
  cases h with
  | jsonNumber written chosen reads =>
    obtain ⟨long, run⟩ := Json.read_tooManyDigits reads
    exact .digits long run
  | yamlScalar written chosen reads => exact .scalar (Yaml.breaksOff_of_read reads)
  | yamlKey => exact .key
  | @pattern _ _ _ _ site _ loads collection sites readable breaks =>
    exact .pattern (Pattern.compile_raises site.regex _ breaks)

/-- A day of a thirteenth month escapes. -/
example : Escapes "d: 2020-13-01" none none (.scalar (.calendar .monthOutOfRange)) := by
  have reads : (match Yaml.read "d: 2020-13-01" with
      | .error e => some e
      | .ok _ => none) = some (.scalar (.calendar .monthOutOfRange)) := by decide +kernel
  refine .yamlScalar (by decide +kernel) (by decide +kernel) ?_
  split at reads
  next e h =>
    cases reads
    exact h
  next => cases reads

end SchemaChecks
