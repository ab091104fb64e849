import Mathlib.Algebra.Order.Field.Power
import Mathlib.Data.Rat.Cast.Order
import Mathlib.Tactic.FieldSimp
import Mathlib.Tactic.NormNum
import Mathlib.Tactic.Ring
import SchemaChecks.Proofs.Reference

/-!
Bounds as exact numbers. A double has a value by the fields of its word, and gives a bound if and
only if that value is whole; an integer is checked against the numbers that are written, however
large.
-/

namespace SchemaChecks

namespace Binary64

/-- The absolute value of a finite double. Before the fraction of a normal one stands a one; a
subnormal one has none, and the least exponent. -/
def magnitude (x : Binary64) : ℚ :=
  if x.exponentField = 0 then x.fractionField / 2 ^ 52 * (2 : ℚ) ^ (-1022 : ℤ)
  else (1 + x.fractionField / 2 ^ 52) * (2 : ℚ) ^ ((x.exponentField : ℤ) - 1023)

def value (x : Binary64) : ℚ := if x.isNegative then -x.magnitude else x.magnitude

theorem magnitude_eq (x : Binary64) : x.magnitude = x.significand * 2 ^ x.scale := by
  have unit : ∀ k : ℤ, (2 : ℚ) ^ k = 2 ^ 52 * 2 ^ (k - 52) := by
    intro k
    rw [← zpow_natCast, ← zpow_add₀ two_ne_zero]
    congr 1
    omega
  unfold magnitude significand scale
  split
  · have least : (-1022 : ℤ) - 52 = -1074 := by decide
    rw [unit, least]
    field_simp
  · rw [unit, Nat.cast_add, sub_sub]
    field_simp
    rfl

theorem value_eq (x : Binary64) : x.value = x.signedSignificand * 2 ^ x.scale := by
  rw [value, magnitude_eq, signedSignificand]
  cases x.isNegative <;> simp

/-- A double that is a multiple of some power of two stands for that integer. -/
theorem value_of_scale_nonneg {x : Binary64} (large : 0 ≤ x.scale) :
    x.value = ((x.signedSignificand * Int.pow 2 x.scale.toNat : ℤ) : ℚ) := by
  obtain ⟨k, hk⟩ := Int.eq_ofNat_of_zero_le large
  rw [value_eq, hk, Int.cast_mul, Int.toNat_natCast, Int.pow_eq, Int.cast_pow, zpow_natCast]
  rfl

theorem value_of_scale_neg {x : Binary64} (small : x.scale < 0) :
    x.value * ((Int.pow 2 (-x.scale).toNat : ℤ) : ℚ) = x.signedSignificand := by
  obtain ⟨k, hk⟩ := Int.eq_ofNat_of_zero_le (Int.neg_nonneg_of_nonpos (Int.le_of_lt small))
  have scale : x.scale = -k := by omega
  rw [value_eq, scale, neg_neg, Int.toNat_natCast, Int.pow_eq, Int.cast_pow, zpow_neg, zpow_natCast]
  exact inv_mul_cancel_right₀ (pow_ne_zero k two_ne_zero) _

/-- A double gives an integer if and only if it is finite and its number is that integer. -/
theorem toInt?_eq_some_iff {x : Binary64} {n : ℤ} :
    x.toInt? = some n ↔ x.isFinite = true ∧ x.value = n := by
  unfold toInt?
  cases x.isFinite with
  | false => simp
  | true =>
    simp only [Bool.not_true, Bool.false_eq_true, if_false, true_and]
    by_cases large : 0 ≤ x.scale
    · rw [if_pos large, value_of_scale_nonneg large, Option.some.injEq, Int.cast_inj]
    · have small := value_of_scale_neg (Int.not_le.mp large)
      have unit : (0 : ℤ) < Int.pow 2 (-x.scale).toNat := by
        rw [Int.pow_eq]
        exact Int.pow_pos (by decide)
      have whole : x.value = n ↔ x.signedSignificand = n * Int.pow 2 (-x.scale).toNat := by
        rw [← mul_left_inj' (Int.cast_ne_zero.mpr (Int.ne_of_gt unit)), small, ← Int.cast_mul,
          Int.cast_inj]
      rw [if_neg large, whole]
      constructor
      · intro h
        split at h
        next divides =>
          obtain rfl := Option.some.inj h
          exact (Int.ediv_mul_cancel (Int.dvd_of_emod_eq_zero divides)).symm
        next => cases h
      · intro multiple
        rw [multiple, if_pos (Int.mul_emod_left _ _), Int.mul_ediv_cancel _ (Int.ne_of_gt unit)]

theorem significand_lt (x : Binary64) : x.significand < 2 ^ 53 := by
  have fraction : x.fractionField < 2 ^ 52 := Nat.mod_lt _ (Nat.two_pow_pos 52)
  have lead : Nat.pow 2 52 = 2 ^ 52 := rfl
  unfold significand
  split <;> omega

theorem abs_value (x : Binary64) : |x.value| = x.magnitude := by
  have nonneg : 0 ≤ x.magnitude := by
    rw [magnitude_eq]
    exact mul_nonneg (Nat.cast_nonneg _) (zpow_nonneg (by norm_num) _)
  unfold value
  split
  · rw [abs_neg, abs_of_nonneg nonneg]
  · exact abs_of_nonneg nonneg

/-- Large doubles have no fraction. -/
theorem whole_of_large {x : Binary64} (large : 2 ^ 53 ≤ |x.value|) : ∃ n : ℤ, x.value = n := by
  by_cases scale : 0 ≤ x.scale
  · exact ⟨_, value_of_scale_nonneg scale⟩
  · have below : |x.value| < 2 ^ 53 :=
      calc |x.value| = x.significand * 2 ^ x.scale := by rw [abs_value, magnitude_eq]
        _ ≤ x.significand := mul_le_of_le_one_right (Nat.cast_nonneg _)
            (zpow_le_one_of_nonpos₀ one_le_two (Int.le_of_not_le scale))
        _ < 2 ^ 53 := by exact_mod_cast x.significand_lt
    exact absurd large (not_le.mpr below)

end Binary64

/-- The exact number that a scalar stands for; truth values and doubles that are not finite stand
for none. -/
def Scalar.number? : Scalar → Option ℚ
  | .atom (.int n) => some n
  | .atom (.real x) => if x.isFinite then some x.value else none
  | _ => none

theorem Scalar.bound?_eq_some_iff {s : Scalar} {n : ℤ} :
    s.bound? = some n ↔ s.number? = some (n : ℚ) := by
  unfold bound? number?
  split
  next i => rw [Option.some.injEq, Option.some.injEq, Int.cast_inj]
  next x => rw [Binary64.toInt?_eq_some_iff, Option.ite_none_right_eq_some, Option.some.injEq]
  next => simp

namespace Reading

/-- A keyword of a node sets a number as a bound: that of the scalar that it holds, if it is
whole. -/
def SetsBound (node : Tree) (keyword : String) (q : ℚ) : Prop :=
  (node.scalar? keyword).bind Scalar.number? = some q ∧ ∃ n : ℤ, q = n

def Allows (node : Tree) (n : ℤ) : Prop :=
  (∀ q, SetsBound node "minimum" q → q ≤ n) ∧ ∀ q, SetsBound node "maximum" q → n ≤ q

section

variable {node : Tree} {keyword : String}

theorem whole?_eq_bind (node : Tree) (keyword : String) :
    whole? node keyword = (node.scalar? keyword).bind Scalar.bound? := by
  unfold whole? Scalar.bound?
  cases node.scalar? keyword with
  | none => rfl
  | some s =>
    cases s with
    | set members => rfl
    | atom a => cases a <;> rfl

theorem whole?_eq_some_iff {n : ℤ} : whole? node keyword = some n ↔ SetsBound node keyword n := by
  rw [whole?_eq_bind, SetsBound, Option.bind_eq_some_iff, Option.bind_eq_some_iff]
  simp only [Scalar.bound?_eq_some_iff, Int.cast_inj, exists_eq', and_true]

theorem setsBound_iff {q : ℚ} :
    SetsBound node keyword q ↔ ∃ n : ℤ, whole? node keyword = some n ∧ q = n := by
  constructor
  · rintro ⟨held, n, rfl⟩
    exact ⟨n, whole?_eq_some_iff.mpr ⟨held, n, rfl⟩, rfl⟩
  · rintro ⟨n, held, rfl⟩
    exact whole?_eq_some_iff.mp held

/-- The bounds of a node in integers leave the integers that it allows. -/
theorem within_iff_allows {n : ℤ} :
    Within ⟨whole? node "minimum", whole? node "maximum"⟩ n ↔ Allows node n := by
  constructor
  · rintro ⟨least, most⟩
    constructor
    · intro q sets
      obtain ⟨lo, held, rfl⟩ := setsBound_iff.mp sets
      exact Int.cast_le.mpr (least lo held)
    · intro q sets
      obtain ⟨hi, held, rfl⟩ := setsBound_iff.mp sets
      exact Int.cast_le.mpr (most hi held)
  · rintro ⟨least, most⟩
    constructor
    · intro lo held
      exact Int.cast_le.mp (least lo (whole?_eq_some_iff.mp held))
    · intro hi held
      exact Int.cast_le.mp (most hi (whole?_eq_some_iff.mp held))

end

end Reading

theorem Check.range_accepts_iff {b : Bounds} {n : ℤ} :
    (Check.range b).violation? (.atom (.int n)) = .ok none ↔ Reading.Within b n := by
  have verdict : (Check.range b).violation? (.atom (.int n)) =
      (Violation.told ((Check.range b).breach? (.atom (.int n)))).mapError .fault :=
    congrArg (Except.mapError _) (ready_violation (.range b) rfl rfl)
  rw [verdict, breach?, Reading.Demand.contains_eq_within]
  by_cases within : Reading.Within b n
  · simp [within, Violation.told, Except.mapError]
  · simp only [within, decide_false, Bool.false_eq_true, if_false, Violation.told, iff_false]
    split <;> simp [Except.mapError]

namespace Reading

def IsOwnInteger (node : Tree) : Prop :=
  declaredType? node = some (.text "integer") ∧ ¬ PointsElsewhere node

instance (node : Tree) : Decidable (IsOwnInteger node) :=
  inferInstanceAs (Decidable (_ ∧ ¬ PointsElsewhere node))

/-- A field has one check, which accepts exactly the integers that a node allows. -/
def ChecksExactly (node : Tree) (f : FieldChecks) : Prop :=
  ∃ b, f.checks = [.range b] ∧
    ∀ n : ℤ, (Check.range b).violation? (.atom (.int n)) = .ok none ↔ Allows node n

def IsBounded (node : Tree) : Prop :=
  ∃ q, SetsBound node "minimum" q ∨ SetsBound node "maximum" q

section

variable {definition node : Tree} {name : String}

theorem isBounded_iff :
    IsBounded node ↔ ¬ (whole? node "minimum" = none ∧ whole? node "maximum" = none) := by
  simp only [IsBounded, setsBound_iff, not_and_or, Option.ne_none_iff_exists']
  constructor
  · rintro ⟨q, ⟨n, held, -⟩ | ⟨n, held, -⟩⟩
    · exact .inl ⟨n, held⟩
    · exact .inr ⟨n, held⟩
  · rintro (⟨n, held⟩ | ⟨n, held⟩)
    · exact ⟨n, .inl ⟨n, held, rfl⟩⟩
    · exact ⟨n, .inr ⟨n, held, rfl⟩⟩

theorem demand?_of_integer (declared : declaredType? node = some (.text "integer")) :
    demand? node = if whole? node "minimum" = none ∧ whole? node "maximum" = none then none
      else some (.number ⟨whole? node "minimum", whole? node "maximum"⟩) := by
  rw [demand?, declared]
  rfl

theorem integer_of_demand {b : Bounds} (demands : demand? node = some (.number b)) :
    declaredType? node = some (.text "integer") := by
  unfold demand? at demands
  split at demands
  next =>
    dsimp only at demands
    split at demands <;> cases demands
  next declared => exact declared
  next =>
    obtain ⟨n, -, other⟩ := Option.map_eq_some_iff.mp demands
    cases other
  next => cases demands

/-- An integer property that sets a bound is checked for exactly what it allows. -/
theorem field?_of_bounded (own : IsOwnInteger node) (bounded : IsBounded node) :
    ∃ f, field? definition name node = some f ∧ f.name = name ∧ f.type = .integer ∧
      ChecksExactly node f := by
  have some_bound := isBounded_iff.mp bounded
  have closed : Bounds.isOpen ⟨whole? node "minimum", whole? node "maximum"⟩ = false := by
    rw [← Bool.not_eq_true, Bounds.isOpen, Bool.and_eq_true]
    simpa using some_bound
  have demands := (demand?_of_integer own.1).trans (if_neg some_bound)
  have checked : field? definition name node =
      some (fieldOf definition name node
        (.number ⟨whole? node "minimum", whole? node "maximum"⟩)) := by
    rw [field?, if_neg own.2, demands, Option.map_some]
  refine ⟨_, checked, rfl, rfl, _, ?_, fun n => Check.range_accepts_iff.trans within_iff_allows⟩
  exact if_neg (Bool.eq_false_iff.mp closed)

theorem field?_of_unbounded (own : IsOwnInteger node) (unbounded : ¬ IsBounded node) :
    field? definition name node = none := by
  rw [isBounded_iff, not_not] at unbounded
  rw [field?, demand?_of_integer own.1, if_pos unbounded, Option.map_none, ite_self]

/-- A field for integers is that of an integer property that sets a bound. -/
theorem integer_of_field {f : FieldChecks} (checked : field? definition name node = some f)
    (type : f.type = .integer) : IsOwnInteger node ∧ IsBounded node := by
  obtain ⟨points, demands⟩ := Option.ite_none_left_eq_some.mp checked
  obtain ⟨d, hd, rfl⟩ := Option.map_eq_some_iff.mp demands
  cases d with
  | text b regex => cases type
  | items least => cases type
  | number b =>
    have own : IsOwnInteger node := ⟨integer_of_demand hd, points⟩
    refine ⟨own, not_not.mp fun unbounded => ?_⟩
    rw [field?_of_unbounded own unbounded] at checked
    cases checked

theorem allows_of_unbounded (unbounded : ¬ IsBounded node) (n : ℤ) : Allows node n :=
  ⟨fun q sets => absurd ⟨q, .inl sets⟩ unbounded, fun q sets => absurd ⟨q, .inr sets⟩ unbounded⟩

/-- Nothing in an integer property keeps its field from being read. -/
theorem fieldChecks?_of_integer (own : IsOwnInteger node) (schema : String) :
    (Property.ofTree (Definition.requiredOf (definition.get? "required")) name node).fieldChecks?
      schema = .ok (field? definition name node) := by
  refine Property.fieldChecks?_eq_ok.mpr ⟨?_, (field?_ofTree definition name node).symm⟩
  have mapping : ∃ es, node = .map es := by
    by_contra leaf
    have undeclared : declaredType? node = none := by
      simp [declaredType?, membersUnder, Tree.scalar?, get?_of_leaf (not_exists.mp leaf)]
    have declared := undeclared.symm.trans own.1
    cases declared
  obtain ⟨es, rfl⟩ := mapping
  have type : (Property.ofTree (Definition.requiredOf (definition.get? "required")) name
      (.map es)).type = .integer := by
    rw [Property.type_ofTree, own.1]
    rfl
  intro _ text
  rw [type] at text
  cases text

end

/-- Every field that is extracted is that of a property of a schema. -/
theorem property_of_field {root : Tree} {path : Option String} {e : Extraction}
    (h : Extraction.ofTree root path = .ok e) {schema : String × List FieldChecks} (hs : schema ∈ e)
    {f : FieldChecks} (hf : f ∈ schema.2) :
    ∃ entries definition properties node, IsCollection root path entries ∧
      (schema.1, definition) ∈ entries ∧ definition.get? "properties" = some (.map properties) ∧
      (f.name, node) ∈ properties ∧ field? definition f.name node = some f := by
  obtain ⟨c, hc, hw, -⟩ := Extraction.ofTree_well_formed h
  obtain ⟨definition, d, properties, stands, defined, fields, under, -⟩ := hw.declared schema hs
  have object : IsObject definition := by
    obtain ⟨type, some_properties, same, nonempty, -⟩ := Definition.ofTree?_eq_some.mp defined
    refine ⟨type, ?_⟩
    rw [entriesUnder, same]
    exact nonempty
  have own_fields : schema.2 = fieldsOf definition properties := by
    have read := @fields_of_object schema.1 definition object
    rw [defined, Option.elim_some, schemaFields, entriesUnder, under] at read
    exact (Definition.fieldChecks_eq_ok.mp fields).2.trans read
  rw [own_fields] at hf
  obtain ⟨⟨name, node⟩, listed, checked⟩ := List.mem_filterMap.mp hf
  have named : f.name = name := by
    obtain ⟨-, demands⟩ := Option.ite_none_left_eq_some.mp checked
    obtain ⟨d, -, rfl⟩ := Option.map_eq_some_iff.mp demands
    rfl
  exact ⟨c.entries, definition, properties, node, Collection.isCollection_of_ofTree hc, stands,
    under, named ▸ listed, named ▸ checked⟩

/-- Bounds are read exactly. A scalar gives an integer as a bound if and only if its exact number is
that integer: a double if it is finite and whole, as every large one is, and no truth value. So do
the keywords of a property. An integer property that sets a bound has a field that accepts an
integer if and only if it is not below the minimum and not above the maximum in exact numbers, and
one that sets none has no field and allows all integers. The fields for integers that are extracted
from a document are those of such properties. -/
theorem bounds_exact :
    (∀ (s : Scalar) (n : ℤ), s.bound? = some n ↔ s.number? = some (n : ℚ)) ∧
    (∀ x : Binary64, x.isFinite = true → 2 ^ 53 ≤ |x.value| →
      ∃ n : ℤ, Scalar.bound? (.atom (.real x)) = some n ∧ x.value = n) ∧
    (∀ (required : List String) (name : String) (entries : List (String × Tree)) (k : Keyword)
        (n : ℤ),
      (Property.ofTree required name (.map entries)).bound? k = some n ↔
        SetsBound (.map entries) k.name n) ∧
    (∀ (schema name : String) (definition node : Tree), IsOwnInteger node →
      let read := (Property.ofTree (Definition.requiredOf (definition.get? "required")) name
        node).fieldChecks? schema
      (IsBounded node → ∃ f, read = .ok (some f) ∧ f.name = name ∧ ChecksExactly node f) ∧
        (¬ IsBounded node → read = .ok none ∧ ∀ n, Allows node n)) ∧
    ∀ (root : Tree) (path : Option String) (e : Extraction), Extraction.ofTree root path = .ok e →
      ∀ schema ∈ e, ∀ f ∈ schema.2, f.type = .integer →
        ∃ entries definition properties node, IsCollection root path entries ∧
          (schema.1, definition) ∈ entries ∧
          definition.get? "properties" = some (.map properties) ∧ (f.name, node) ∈ properties ∧
          IsOwnInteger node ∧ ChecksExactly node f := by
  refine ⟨fun _ _ => Scalar.bound?_eq_some_iff, ?_, ?_, ?_, ?_⟩
  · intro x finite large
    obtain ⟨n, whole⟩ := Binary64.whole_of_large large
    exact ⟨n, Binary64.toInt?_eq_some_iff.mpr ⟨finite, whole⟩, whole⟩
  · intro required name entries k n
    rw [Property.bound_ofTree, whole?_eq_some_iff]
  · intro schema name definition node own
    have reads := @fieldChecks?_of_integer definition node name own schema
    refine ⟨fun bounded => ?_, fun unbounded => ⟨?_, allows_of_unbounded unbounded⟩⟩
    · obtain ⟨f, checked, named, -, exactly⟩ := @field?_of_bounded definition node name own bounded
      exact ⟨f, reads.trans (congrArg Except.ok checked), named, exactly⟩
    · exact reads.trans (congrArg Except.ok (field?_of_unbounded own unbounded))
  · intro root path e h schema hs f hf type
    obtain ⟨entries, definition, properties, node, collection, stands, under, listed, checked⟩ :=
      property_of_field h hs hf
    obtain ⟨own, bounded⟩ := integer_of_field checked type
    obtain ⟨g, same, -, -, exactly⟩ := field?_of_bounded own bounded
    obtain rfl := Option.some.inj (same.symm.trans checked)
    exact ⟨entries, definition, properties, node, collection, stands, under, listed, own, exactly⟩

end Reading

namespace Sample

def greatest : Binary64 := .ofFields false 2046 0xfffffffffffff

def real (x : Binary64) : Tree := .scalar (.atom (.real x))

def meter : Tree :=
  .map [("type", text "integer"), ("minimum", real (.zero true)), ("maximum", real greatest)]

def looseMeter : Tree :=
  .map [("type", text "integer"), ("minimum", real (.ofFields false 1022 0)),
    ("maximum", .scalar (.atom (.bool true)))]

def meters : Tree :=
  .map [("type", text "object"), ("properties", .map [("exact", meter), ("loose", looseMeter)])]

def meterField : FieldChecks :=
  ⟨"exact", .integer, true, [.range ⟨some 0, some ((Int.pow 2 53 - 1) * Int.pow 2 971)⟩]⟩

theorem meters_extraction :
    Extraction.ofTree (documentOf [("Meters", meters)]) none = .ok [("Meters", [meterField])] := by
  decide +kernel

theorem greatest_toInt : greatest.toInt? = some ((Int.pow 2 53 - 1) * Int.pow 2 971) := by
  decide +kernel

end Sample

/-- The doubles of a meter are read as the integers that they are, and a meter without whole bounds
takes any number. -/
theorem Reading.meter_bounds_exact :
    Sample.greatest.isFinite = true ∧ 2 ^ 53 ≤ |Sample.greatest.value| ∧
      (∃ n : ℤ, Scalar.bound? (.atom (.real Sample.greatest)) = some n ∧
        Sample.greatest.value = n) ∧
      IsOwnInteger Sample.meter ∧ IsBounded Sample.meter ∧
      (∃ f, (Property.ofTree [] "exact" Sample.meter).fieldChecks? "Meters" = .ok (some f) ∧
        f.name = "exact" ∧ ChecksExactly Sample.meter f) ∧
      IsOwnInteger Sample.looseMeter ∧ ¬ IsBounded Sample.looseMeter ∧
      (Property.ofTree [] "loose" Sample.looseMeter).fieldChecks? "Meters" = .ok none ∧
      Extraction.ofTree (Sample.documentOf [("Meters", Sample.meters)]) none =
        .ok [("Meters", [Sample.meterField])] ∧
      ∃ (properties : List (String × Tree)) (node : Tree),
        (Sample.meterField.name, node) ∈ properties ∧ IsOwnInteger node ∧
        ChecksExactly node Sample.meterField := by
  obtain ⟨finite, value⟩ := Binary64.toInt?_eq_some_iff.mp Sample.greatest_toInt
  have large : (2 : ℚ) ^ 53 ≤ |Sample.greatest.value| := by
    rw [value, ← Int.cast_abs]
    exact_mod_cast (by decide +kernel : (2 : ℤ) ^ 53 ≤ |(Int.pow 2 53 - 1) * Int.pow 2 971|)
  have own : IsOwnInteger Sample.meter := by decide +kernel
  have loose : IsOwnInteger Sample.looseMeter := by decide +kernel
  have bounded : IsBounded Sample.meter := isBounded_iff.mpr (by decide +kernel)
  have unbounded : ¬ IsBounded Sample.looseMeter :=
    mt isBounded_iff.mp (not_not.mpr (by decide +kernel))
  obtain ⟨-, whole, -, read, extracted⟩ := bounds_exact
  obtain ⟨-, -, properties, node, -, -, -, listed, integer, exactly⟩ :=
    extracted _ _ _ Sample.meters_extraction _ List.mem_cons_self _ List.mem_cons_self rfl
  exact ⟨finite, large, whole _ finite large, own, bounded,
    (read "Meters" "exact" (.map []) _ own).1 bounded, loose, unbounded,
    ((read "Meters" "loose" (.map []) _ loose).2 unbounded).1, Sample.meters_extraction, properties,
    node, listed, integer, exactly⟩

end SchemaChecks
