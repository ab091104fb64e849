import SchemaChecks.Proofs.Rendering
import SchemaChecks.Proofs.WellFormed

/-!
How rendered statements run. The condition of a guard holds exactly if the check behind it is
violated, and a rendered body ends with the first rejection.
-/

namespace SchemaChecks

def Check.IsClosed : Check → Prop
  | .length b | .range b => b.isOpen = false
  | _ => True

namespace FieldChecks

theorem Shape.closed {t : BaseType} {cs : List Check} (h : Shape t cs) : ∀ c ∈ cs, c.IsClosed := by
  intro c hc
  cases h with
  | length hb | range hb => cases List.mem_singleton.mp hc; exact hb
  | pattern hq => cases List.mem_singleton.mp hc; trivial
  | lengthPattern hb hq =>
    rcases List.mem_cons.mp hc with rfl | hc
    · exact hb
    · cases List.mem_singleton.mp hc; trivial
  | minItems n => cases List.mem_singleton.mp hc; trivial

theorem Shape.supported {t : BaseType} {cs : List Check} (h : Shape t cs) : t ≠ .unsupported := by
  cases h <;> simp

end FieldChecks

namespace Source

def HasPatterns (s : Script) (patterns : List String) : Prop :=
  ∀ i regex, patterns[i]? = some regex → s.global? (patternName i) = some (.pattern regex)

structure Decides (s : Script) (value : Datum) (g : Guard) (v? : Option Violation) : Prop where
  holds : s.holds value (.ofCondition g.condition) = some v?.isSome
  raises : ∀ v, v? = some v → v = g.violation

/-! ### Conditions -/

theorem holds_wrongType (s : Script) (t : BaseType) (value : Datum) :
    s.holds value (.ofCondition (.wrongType t)) = some (t.violation? value).isSome := by
  cases value with
  | atom a => cases t <;> cases a <;> rfl
  | array kind parts => cases t <;> cases kind <;> rfl
  | dict entries => cases t <;> rfl
  | object attributes => cases t <;> rfl

theorem decides_type (s : Script) (t : BaseType) (value : Datum) :
    Decides s value ⟨.wrongType t, .wrongType t⟩ (t.violation? value) := by
  refine ⟨holds_wrongType s t value, ?_⟩
  intro v hv
  unfold BaseType.violation? at hv
  split at hv
  · cases hv
  · exact (Option.some.inj hv).symm

theorem decide_lt_eq_not (a b : Int) : decide (a < b) = !decide (b ≤ a) := by
  by_cases h : b ≤ a
  · have : ¬ a < b := by omega
    simp [h, this]
  · have : a < b := by omega
    simp [h, this]

/-- The condition of bounds holds of a number exactly if it is out of them. -/
theorem holds_bounds (s : Script) {b : Bounds} (closed : b.isOpen = false) {m : Measure}
    {value : Datum} {n : Int} (measured : Quantity.of? m value = some (.whole n)) :
    s.holds value (.ofCondition (b.condition m)) = some (!b.contains n) := by
  obtain ⟨least, most⟩ := b
  cases least with
  | some lo =>
    cases most with
    | some hi =>
      simp [Bounds.condition, Test.ofCondition, Script.holds, measured, Bounds.contains,
        Quantity.atLeast, Quantity.atMost]
    | none =>
      simp [Bounds.condition, Test.ofCondition, Script.holds, measured, Bounds.contains,
        Quantity.below, decide_lt_eq_not]
  | none =>
    cases most with
    | some hi =>
      simp [Bounds.condition, Test.ofCondition, Script.holds, measured, Bounds.contains,
        Quantity.above, decide_lt_eq_not]
    | none => cases closed

/-- A violation that a test reports if it fails. -/
theorem decides_of_holds {s : Script} {value : Datum} {g : Guard} {within : Bool}
    (holds : s.holds value (.ofCondition g.condition) = some (!within)) :
    Decides s value g (if within then none else some g.violation) := by
  cases within with
  | true => exact ⟨holds, by simp⟩
  | false => exact ⟨holds, fun v hv => by simpa using hv.symm⟩

theorem condition_isComplete {b : Bounds} (closed : b.isOpen = false) (m : Measure) :
    (b.condition m).IsComplete := by
  obtain ⟨least, most⟩ := b
  cases least <;> cases most <;> trivial

theorem patternMatches?_eq {s : Script} {patterns : List String} (hs : HasPatterns s patterns)
    {regex : String} {q : Pattern.Compiled} (hq : Pattern.compile regex = .ok q)
    (known : regex ∈ patterns) (text : String) :
    s.patternMatches? (patternName (patterns.idxOf regex)) (.atom (.text text)) =
      some (Check.accepts regex text) := by
  have place : patterns[patterns.idxOf regex]? = some regex :=
    List.getElem?_idxOf known
  have bound := hs _ _ place
  simp [Script.patternMatches?, bound, hq, Check.accepts]

/-- The guard of a check decides it on all values of the type that the check is for. -/
theorem guardOf_decides {s : Script} {patterns : List String} (hs : HasPatterns s patterns)
    {t : BaseType} {c : Check} {g : Guard} (fits : Check.Fits t c) (closed : c.IsClosed)
    (known : ∀ regex, c = .pattern regex → regex ∈ patterns)
    (hg : ValidatorModule.guardOf patterns c = .ok g) :
    g.condition.IsComplete ∧
      ∀ value, t.admits value = true → Decides s value g (c.breach? value) := by
  unfold ValidatorModule.guardOf at hg
  split at hg
  · cases hg
  cases fits with
  | length b =>
    cases hg
    refine ⟨condition_isComplete closed .length, fun value hv => ?_⟩
    obtain ⟨text, rfl⟩ := BaseType.admits_string.mp hv
    have measured : Quantity.of? .length (.atom (.text text)) = some (.whole text.length) := rfl
    exact decides_of_holds (holds_bounds s closed measured)
  | range b =>
    cases hg
    refine ⟨condition_isComplete closed .value, fun value hv => ?_⟩
    obtain ⟨n, rfl⟩ := BaseType.admits_integer.mp hv
    have measured : Quantity.of? .value (.atom (.int n)) = some (.whole n) := rfl
    exact decides_of_holds (holds_bounds s closed measured)
  | minItems n =>
    cases hg
    refine ⟨trivial, fun value hv => ?_⟩
    obtain ⟨kind, parts, rfl⟩ := BaseType.admits_array.mp hv
    have below : s.holds (.array kind parts) (.below .length n) =
        some (!decide (n ≤ (parts.length : Int))) := by
      rw [← decide_lt_eq_not]
      rfl
    have decided := decides_of_holds (g := ⟨.below .length n, .tooFewItems n⟩) below
    simpa [Check.breach?] using decided
  | @pattern regex q hq =>
    cases hg
    refine ⟨trivial, fun value hv => ?_⟩
    obtain ⟨text, rfl⟩ := BaseType.admits_string.mp hv
    have accepted := patternMatches?_eq hs hq (known regex rfl) text
    refine decides_of_holds ?_
    simp [Test.ofCondition, Script.holds, accepted]

theorem guardsOf_decide {s : Script} {patterns : List String} (hs : HasPatterns s patterns)
    {t : BaseType} {cs : List Check} {gs : List Guard}
    (fits : ∀ c ∈ cs, Check.Fits t c ∧ c.IsClosed ∧
      ∀ regex, c = .pattern regex → regex ∈ patterns)
    (hgs : ValidatorModule.guardsOf patterns cs = .ok gs) :
    (∀ g ∈ gs, g.condition.IsComplete) ∧ ∀ value, t.admits value = true →
      List.Forall₂ (fun c g => Decides s value g (c.breach? value)) cs gs := by
  replace hgs := ValidatorModule.guardsOf_eq_ok hgs
  induction hgs with
  | nil => exact ⟨by simp, fun _ _ => .nil⟩
  | @cons c g _ _ hg _ ih =>
    obtain ⟨⟨fit, closed, known⟩, later⟩ := List.forall_mem_cons.mp fits
    obtain ⟨first, decided⟩ := guardOf_decides hs fit closed known hg
    obtain ⟨others, all⟩ := ih later
    exact ⟨List.forall_mem_cons.mpr ⟨first, others⟩,
      fun value hv => .cons (decided value hv) (all value hv)⟩

/-! ### Runs -/

def raisedOr (field : String) (onward : Flow) : Option Violation → Flow
  | some v => .ended (.raised field v.message)
  | none => onward

/-- A guard raises its violation, or the statements behind it go on. -/
theorem run_guard {s : Script} {value : Datum} {g : Guard} {v? : Option Violation}
    (h : Decides s value g v?) (subject : Datum) (field : String) (gs : List Guard)
    (rest : Block) :
    s.run subject (some value) (guardsBlock field (g :: gs) rest) =
      raisedOr field (s.run subject (some value) (guardsBlock field gs rest)) v? := by
  have holds := h.holds
  cases v? with
  | none =>
    simp only [guardsBlock, List.foldr_cons, Script.run, Option.bind_some, holds,
      Option.isSome_none, raisedOr]
  | some v =>
    obtain rfl := h.raises v rfl
    simp only [guardsBlock, List.foldr_cons, Script.run, Option.bind_some, holds,
      Option.isSome_some, raisedOr]

theorem run_guards {s : Script} {value : Datum} {cs : List Check} {gs : List Guard}
    (h : List.Forall₂ (fun c g => Decides s value g (c.breach? value)) cs gs) (subject : Datum)
    (field : String) (rest : Block) :
    s.run subject (some value) (guardsBlock field gs rest) =
      raisedOr field (s.run subject (some value) rest)
        (cs.filterMap (·.breach? value)).head? := by
  induction h with
  | nil => rfl
  | @cons c g cs gs first _ ih =>
    rw [run_guard first, ih]
    cases hb : c.breach? value <;> simp [hb, raisedOr]

structure Decided (s : Script) (f : FieldChecks) (b : FieldBlock) : Prop where
  field : b.field = f.name
  nullable : b.nullable = f.nullable
  guards : ∃ gs, b.guards = ⟨.wrongType f.type, .wrongType f.type⟩ :: gs ∧
    ∀ value, f.type.admits value = true →
      List.Forall₂ (fun c g => Decides s value g (c.breach? value)) f.checks gs

/-- The guards of a field raise the first thing that is wrong with a value that is not null. -/
theorem run_field_guards {s : Script} {f : FieldChecks} {b : FieldBlock} (h : Decided s f b)
    {value : Datum} (present : value.isNull = false) (subject : Datum) (rest : Block) :
    s.run subject (some value) (guardsBlock f.name b.guards rest) =
      raisedOr f.name (s.run subject (some value) rest) (f.breaches value).head? := by
  obtain ⟨gs, hgs, decided⟩ := h.guards
  rw [hgs, run_guard (decides_type s f.type value)]
  unfold BaseType.violation? FieldChecks.breaches
  cases ha : f.type.admits value with
  | true => simpa [present, raisedOr] using run_guards (decided value ha) subject f.name rest
  | false => simp [present, raisedOr]

theorem run_nullable {s : Script} {f : FieldChecks} {b : FieldBlock} (h : Decided s f b)
    (nullable : f.nullable = true) (subject value : Datum) (rest : Block) :
    s.run subject (some value) (.branch .isNotNull (guardsBlock f.name b.guards .done) rest) =
      raisedOr f.name (s.run subject (some value) rest) (f.breaches value).head? := by
  have test : s.holds value .isNotNull = some (!value.isNull) := rfl
  rw [Script.run, Option.bind_some, test]
  cases hn : value.isNull with
  | true => simp [FieldChecks.breaches, hn, nullable, raisedOr]
  | false =>
    simp only [Bool.not_false, run_field_guards h hn]
    cases (f.breaches value).head? <;> rfl

theorem run_required {s : Script} {f : FieldChecks} {b : FieldBlock} (h : Decided s f b)
    (required : f.nullable = false) (subject value : Datum) (rest : Block) :
    s.run subject (some value) (.branch .isNull (.raise f.name Violation.null.message .done)
        (guardsBlock f.name b.guards rest)) =
      raisedOr f.name (s.run subject (some value) rest) (f.breaches value).head? := by
  have test : s.holds value .isNull = some value.isNull := rfl
  rw [Script.run, Option.bind_some, test]
  cases hn : value.isNull with
  | true => simp [Script.run, FieldChecks.breaches, hn, required, raisedOr]
  | false => exact run_field_guards h hn subject rest

/-- The statements about a field raise the first thing that is wrong with its value. -/
theorem run_field {s : Script} {f : FieldChecks} {b : FieldBlock} (h : Decided s f b)
    (subject : Datum) (value : Option Datum) (rest : Block) :
    s.run subject value (fieldBlock b rest) =
      raisedOr f.name (s.run subject (some (subject.read f.name)) rest)
        (f.breaches (subject.read f.name)).head? := by
  rw [fieldBlock, Script.run, h.field, h.nullable]
  cases hn : f.nullable with
  | true => exact run_nullable h hn subject _ rest
  | false => exact run_required h hn subject _ rest

def Ending.ofVerdict : Option Rejection → Ending
  | none => .returned
  | some r => .raised r.field r.violation.message

/-- A body whose blocks decide the fields of a schema ends with the first rejection. -/
theorem run_body {s : Script} {fields : List FieldChecks} {f : ValidatorFunction}
    (h : List.Forall₂ (Decided s) fields f.blocks) (subject : Datum) :
    s.run subject none (bodyBlock f) =
      .ended (.ofVerdict (Validator.rejections fields subject).head?) := by
  have blocks : ∀ {fields : List FieldChecks} {bs : List FieldBlock},
      List.Forall₂ (Decided s) fields bs → ∀ value,
        s.run subject value (bs.foldr fieldBlock (.returnSubject .done)) =
          .ended (.ofVerdict (Validator.rejections fields subject).head?) := by
    intro fields bs h
    induction h with
    | nil => exact fun _ => rfl
    | @cons first b fields bs decided _ ih =>
      intro value
      rw [List.foldr_cons, run_field decided, ih, Validator.rejections_cons]
      cases first.breaches (subject.read first.name) <;> rfl
  exact blocks h none

theorem typeGuard_of_supported {t : BaseType} (h : t ≠ .unsupported) :
    ValidatorModule.typeGuard t = [⟨.wrongType t, .wrongType t⟩] := by
  cases t <;> first | rfl | exact absurd rfl h

/-- The block of a field whose checks fit it decides them, and can be read. -/
theorem blockOf_decided {s : Script} {patterns : List String} (hs : HasPatterns s patterns)
    {f : FieldChecks} {b : FieldBlock} (shape : FieldChecks.Shape f.type f.checks)
    (known : ∀ regex, .pattern regex ∈ f.checks → regex ∈ patterns)
    (hb : ValidatorModule.blockOf patterns f = .ok b) : IsComplete b ∧ Decided s f b := by
  obtain ⟨gs, hgs, rfl⟩ := exists_of_map_eq_ok hb
  have fits : ∀ c ∈ f.checks, Check.Fits f.type c ∧ c.IsClosed ∧
      ∀ regex, c = .pattern regex → regex ∈ patterns :=
    fun c hc => ⟨shape.fits c hc, shape.closed c hc, fun regex he => known regex (he ▸ hc)⟩
  obtain ⟨complete, decided⟩ := guardsOf_decide hs fits hgs
  have guard := typeGuard_of_supported shape.supported
  refine ⟨⟨?_, by simp [guard]⟩, ⟨rfl, rfl, gs, by simp [guard], decided⟩⟩
  intro g hg
  rcases List.mem_append.mp hg with hg | hg
  · rw [guard] at hg
    obtain rfl := List.mem_singleton.mp hg
    exact shape.supported
  · exact complete g hg

end Source

end SchemaChecks
