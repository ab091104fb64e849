import SchemaChecks.Proofs.WellFormed

/-!
A direct reading of a document: what is wrong with an instance, told from the tree of the schemas
alone. Every property is read where it stands, and all violations are listed in order. Validators
answer with the first of them.
-/

namespace SchemaChecks

namespace Reading

/-- The entries of the collection that a path names: of the mapping that it leads to, or without a
path of the first of the usual places that is there. -/
inductive IsCollection (root : Tree) : Option String → List (String × Tree) → Prop where
  | given {path : String} {entries : List (String × Tree)} (hp : path ≠ "")
    (h : root.find path = some (.map entries)) : IsCollection root (some path) entries
  | usual {path : Option String} {entries : List (String × Tree)} {place : String}
    (hp : path.getD "" = "")
    (hf : ["components.schemas", "definitions", "$defs"].find? (fun q => (root.find q).isSome) =
      some place)
    (h : root.find place = some (.map entries)) : IsCollection root path entries

theorem IsCollection.unique {root : Tree} {path : Option String} {a b : List (String × Tree)}
    (ha : IsCollection root path a) (hb : IsCollection root path b) : a = b := by
  cases ha with
  | given hp h =>
    cases hb with
    | given _ k => cases h.symm.trans k; rfl
    | usual hq => exact absurd hq hp
  | usual hp hf h =>
    cases hb with
    | given hq => exact absurd hp hq
    | usual _ kf k =>
      cases hf.symm.trans kf
      cases h.symm.trans k
      rfl

def membersUnder (key : String) (node : Tree) : List Scalar :=
  match node.get? key with
  | some (.seq items) => Tree.scalars items
  | _ => []

def entriesUnder (key : String) (node : Tree) : List (String × Tree) :=
  match node.get? key with
  | some (.map entries) => entries
  | _ => []

def IsObject (node : Tree) : Prop :=
  node.scalar? "type" = some (.text "object") ∧ entriesUnder "properties" node ≠ []

instance (node : Tree) : Decidable (IsObject node) := inferInstanceAs (Decidable (_ ∧ _ ≠ []))

def IsNullMark (s : Scalar) : Prop := s = .null ∨ s = .text "null"

instance (s : Scalar) : Decidable (IsNullMark s) :=
  inferInstanceAs (Decidable (s = .null ∨ s = .text "null"))

/-- The type of a property: a scalar, or the first member of a union that is not null. -/
def declaredType? (node : Tree) : Option Scalar :=
  match node.scalar? "type" with
  | some s => some s
  | none => (membersUnder "type" node).find? fun s => ¬ IsNullMark s

/-- A sequence of one or more mappings that all point to schemas. -/
def OnlyReferences : Option Tree → Prop
  | some (.seq members) => members ≠ [] ∧ ∀ m ∈ members, (m.get? "$ref").isSome
  | _ => False

instance (t : Option Tree) : Decidable (OnlyReferences t) := by
  unfold OnlyReferences
  split <;> infer_instance

def PointsElsewhere (node : Tree) : Prop :=
  (node.get? "$ref").isSome ∨ ∃ key ∈ ["allOf", "oneOf", "anyOf"], OnlyReferences (node.get? key)

instance (node : Tree) : Decidable (PointsElsewhere node) :=
  inferInstanceAs (Decidable (_ ∨ ∃ key ∈ _, _))

/-- A property may be null if it is not required, is marked so, or has null in its type union. -/
def MayBeNull (definition : Tree) (name : String) (node : Tree) : Prop :=
  .text name ∉ membersUnder "required" definition ∨
    node.scalar? "nullable" = some (.atom (.bool true)) ∨
    ∃ s ∈ membersUnder "type" node, IsNullMark s

instance (definition : Tree) (name : String) (node : Tree) :
    Decidable (MayBeNull definition name node) :=
  inferInstanceAs (Decidable (_ ∨ _ ∨ ∃ s ∈ _, _))

/-- The whole number under a keyword; a truth value is none. -/
def whole? (node : Tree) (keyword : String) : Option Int :=
  match node.scalar? keyword with
  | some (.atom (.int n)) => some n
  | some (.atom (.real x)) => x.toInt?
  | _ => none

def regex? (node : Tree) : Option String :=
  match node.scalar? "pattern" with
  | some (.atom (.text s)) => some s
  | _ => none

inductive Demand where
  | text (b : Bounds) (regex : Option String)
  | number (b : Bounds)
  | items (least : Int)

def demand? (node : Tree) : Option Demand :=
  match declaredType? node with
  | some (.atom (.text "string")) =>
    let least := whole? node "minLength"
    let most := whole? node "maxLength"
    if least = none ∧ most = none ∧ regex? node = none then none
    else some (.text ⟨least, most⟩ (regex? node))
  | some (.atom (.text "integer")) =>
    let least := whole? node "minimum"
    let most := whole? node "maximum"
    if least = none ∧ most = none then none else some (.number ⟨least, most⟩)
  | some (.atom (.text "array")) => (whole? node "minItems").map .items
  | _ => none

def Within (b : Bounds) (n : Int) : Prop := (∀ lo ∈ b.least, lo ≤ n) ∧ ∀ hi ∈ b.most, n ≤ hi

instance (b : Bounds) (n : Int) : Decidable (Within b n) :=
  inferInstanceAs (Decidable ((∀ lo ∈ b.least, lo ≤ n) ∧ ∀ hi ∈ b.most, n ≤ hi))

def Demand.violations : Demand → Datum → List Violation
  | .text b regex, .atom (.text s) =>
    (if Within b s.length then [] else [.length b]) ++
      (regex.toList.filter fun r => !Check.accepts r s).map .noMatch
  | .text _ _, _ => [.wrongType .string]
  | .number b, .atom (.int n) => if Within b n then [] else [.range b]
  | .number _, _ => [.wrongType .integer]
  | .items least, .array _ parts => if least ≤ parts.length then [] else [.tooFewItems least]
  | .items _, _ => [.wrongType .array]

def fieldViolations (definition : Tree) (name : String) (node : Tree) (value : Datum) :
    List Violation :=
  if PointsElsewhere node then []
  else
    match demand? node with
    | none => []
    | some d =>
      if value.isNull then (if MayBeNull definition name node then [] else [.null])
      else d.violations value

/-- Everything that is wrong with an instance of an object schema, property by property; anything
that is no object schema asks for nothing. -/
def rejections (definition : Tree) (subject : Datum) : List Rejection :=
  match definition.scalar? "type", definition.get? "properties" with
  | some (.atom (.text "object")), some (.map properties) =>
    properties.flatMap fun s =>
      (fieldViolations definition s.1 s.2 (subject.read s.1)).map (⟨s.1, ·⟩)
  | _, _ => []

/-- The verdict of a collection on an instance of the schema with a name. -/
def verdict (entries : List (String × Tree)) (name : String) (subject : Datum) : Option Rejection :=
  (Tree.lookup name entries).bind fun definition => (rejections definition subject).head?

/-! ### Nodes that are no mappings -/

section

variable {node : Tree} (leaf : ∀ es, node ≠ .map es)

include leaf

theorem get?_of_leaf (key : String) : node.get? key = none := by
  cases node with
  | map es => exact absurd rfl (leaf es)
  | scalar s => rfl
  | seq items => rfl

theorem demand?_of_leaf : demand? node = none := by
  simp [demand?, declaredType?, membersUnder, Tree.scalar?, get?_of_leaf leaf]

theorem fieldViolations_of_leaf (definition : Tree) (name : String) (value : Datum) :
    fieldViolations definition name node value = [] := by
  simp [fieldViolations, demand?_of_leaf leaf]

end

end Reading

/-! ### Properties as they are read -/

namespace Property

variable {required : List String} {name : String} {entries : List (String × Tree)}

theorem ofTree_of_leaf {node : Tree} (leaf : ∀ es, node ≠ .map es) :
    ofTree required name node = ⟨name, .unsupported, false, !required.contains name, []⟩ := by
  cases node with
  | map es => exact absurd rfl (leaf es)
  | scalar s => rfl
  | seq items => rfl

private theorem lookup_filterMap {P : Keyword → Bool} {f : Keyword → Scalar} {l : List Keyword}
    (k : Keyword) (hk : k ∈ l) :
    (l.filterMap fun k => if P k then some (k, f k) else none).lookup k =
      if P k then some (f k) else none := by
  induction l with
  | nil => cases hk
  | cons first rest ih =>
    by_cases hf : k = first
    · subst hf
      cases hP : P k with
      | true => simp [hP]
      | false =>
        have hr : (rest.filterMap fun k => if P k then some (k, f k) else none).lookup k =
            none := by
          rw [List.lookup_eq_none_iff]
          intro s hs
          obtain ⟨j, _, hj⟩ := List.mem_filterMap.mp hs
          by_cases hPj : P j = true
          · rw [if_pos hPj] at hj
            cases hj
            have hne : k ≠ j := fun h => by rw [h, hPj] at hP; cases hP
            simpa using hne
          · rw [if_neg hPj] at hj; cases hj
        simp [hP, hr]
    · have hi := ih ((List.mem_cons.mp hk).resolve_left hf)
      have hb : (k == first) = false := by simpa using hf
      cases hP : P first <;> simp [hP, List.lookup_cons, hb, hi]

/-- A constraint is the scalar under its keyword. -/
theorem constraint_ofTree (k : Keyword) :
    (ofTree required name (.map entries)).constraint? k =
      ((Tree.map entries).scalar? k.name).filter (!·.isNull) := by
  have hk : k ∈ Keyword.all := by cases k <;> decide
  have hc : (ofTree required name (.map entries)).constraints = constraintsOf (.map entries) := rfl
  rw [constraint?, hc, constraintsOf, lookup_filterMap k hk]
  unfold Tree.has Tree.scalar?
  cases (Tree.map entries).get? k.name with
  | none => rfl
  | some t => cases t <;> rfl

theorem bound_ofTree (k : Keyword) :
    (ofTree required name (.map entries)).bound? k = Reading.whole? (.map entries) k.name := by
  rw [bound?, constraint_ofTree, Reading.whole?]
  cases (Tree.map entries).scalar? k.name with
  | none => rfl
  | some s =>
    cases s with
    | set members => rfl
    | atom a => cases a <;> rfl

theorem pattern_ofTree :
    (ofTree required name (.map entries)).pattern? = Reading.regex? (.map entries) := by
  rw [pattern?, constraint_ofTree, Reading.regex?, show Keyword.pattern.name = "pattern" from rfl]
  cases (Tree.map entries).scalar? "pattern" with
  | none => rfl
  | some s =>
    cases s with
    | set members => rfl
    | atom a => cases a <;> rfl

theorem typeOf_get (node : Tree) :
    typeOf (node.get? "type") =
      ((Reading.declaredType? node).elim .unsupported BaseType.ofScalar,
        decide (∃ s ∈ Reading.membersUnder "type" node, Reading.IsNullMark s)) := by
  have hmark : ∀ s, isNullMember s = decide (Reading.IsNullMark s) := by
    intro s
    cases s with
    | set members =>
      simp [isNullMember, Reading.IsNullMark, Scalar.isNull, Scalar.null, Scalar.text]
    | atom a => cases a <;>
        simp [isNullMember, Reading.IsNullMark, Scalar.isNull, Scalar.null, Scalar.text]
  unfold typeOf Reading.declaredType? Reading.membersUnder Tree.scalar?
  cases node.get? "type" with
  | none => rfl
  | some t =>
    cases t with
    | scalar s => rfl
    | map entries => rfl
    | seq items =>
      have hany : (Tree.scalars items).any isNullMember =
          decide (∃ s ∈ Tree.scalars items, Reading.IsNullMark s) := by
        rw [Bool.eq_iff_iff]
        simp [hmark]
      simp only [hany, hmark]
      cases hf : (Tree.scalars items).find? fun s => !decide (Reading.IsNullMark s) <;> simp [hf]

theorem areReferences_iff (t : Option Tree) :
    areReferences t = true ↔ Reading.OnlyReferences t := by
  unfold areReferences Reading.OnlyReferences
  split <;> simp [Tree.has]

theorem refersOnly_iff (node : Tree) : refersOnly node = true ↔ Reading.PointsElsewhere node := by
  simp [refersOnly, Reading.PointsElsewhere, Tree.has, compositions, areReferences_iff]

theorem requiredOf_contains (definition : Tree) (name : String) :
    (Definition.requiredOf (definition.get? "required")).contains name = true ↔
      .text name ∈ Reading.membersUnder "required" definition := by
  have htext : ∀ s : Scalar, s.text? = some name ↔ s = .text name := by
    intro s
    cases s with
    | set members => simp [Scalar.text?, Scalar.text]
    | atom a => cases a <;> simp [Scalar.text?, Scalar.text]
  unfold Reading.membersUnder
  cases definition.get? "required" with
  | none => simp [Definition.requiredOf]
  | some t => cases t <;> simp [Definition.requiredOf, htext]

theorem nullable_ofTree (definition : Tree) :
    (ofTree (Definition.requiredOf (definition.get? "required")) name (.map entries)).nullable =
      decide (Reading.MayBeNull definition name (.map entries)) := by
  have hr := requiredOf_contains definition name
  rw [Bool.eq_iff_iff, decide_eq_true_iff]
  simp only [ofTree, typeOf_get, isMarkedNullable, Reading.MayBeNull, Bool.or_eq_true,
    decide_eq_true_eq, Bool.not_eq_true', ← Bool.not_eq_true, hr]
  constructor
  · rintro ((h | h) | h)
    · exact Or.inr (Or.inr h)
    · exact Or.inr (Or.inl h)
    · exact Or.inl h
  · rintro (h | h | h)
    · exact Or.inr h
    · exact Or.inl (Or.inr h)
    · exact Or.inl (Or.inl h)

end Property

namespace Reading

namespace Demand

def type : Demand → BaseType
  | .text _ _ => .string
  | .number _ => .integer
  | .items _ => .array

def checks : Demand → List Check
  | .text b regex => (if b.isOpen then [] else [.length b]) ++ (regex.map .pattern).toList
  | .number b => if b.isOpen then [] else [.range b]
  | .items least => [.minItems least]

theorem contains_eq_within (b : Bounds) (n : Int) : b.contains n = decide (Within b n) := by
  obtain ⟨least, most⟩ := b
  cases least <;> cases most <;> simp [Bounds.contains, Within]

theorem within_of_open {b : Bounds} (h : b.isOpen = true) (n : Int) : Within b n := by
  obtain ⟨least, most⟩ := b
  cases least <;> cases most <;> simp [Bounds.isOpen] at h
  simp [Within]

private theorem violations_of_not_admits {d : Demand} {value : Datum}
    (h : d.type.admits value = false) : d.violations value = [.wrongType d.type] := by
  unfold violations
  split <;> simp_all [type, BaseType.admits]

private theorem violations_of_admits {d : Demand} {value : Datum}
    (h : d.type.admits value = true) :
    d.violations value = d.checks.filterMap (·.breach? value) := by
  cases d with
  | text b regex =>
    obtain ⟨s, rfl⟩ := BaseType.admits_string.mp h
    have hl : (if Within b s.length then [] else [Violation.length b]) =
        (if b.isOpen then [] else [.length b]).filterMap (Check.breach? · (.atom (.text s))) := by
      cases ho : b.isOpen with
      | true => simp [within_of_open ho]
      | false =>
        by_cases hw : Within b s.length <;> simp [Check.breach?, contains_eq_within, hw]
    rw [violations, checks, List.filterMap_append, ← hl]
    cases regex with
    | none => rfl
    | some r => cases hr : Check.accepts r s <;> simp [Check.breach?, hr]
  | number b =>
    obtain ⟨n, rfl⟩ := BaseType.admits_integer.mp h
    cases ho : b.isOpen with
    | true => simp [violations, checks, ho, within_of_open ho]
    | false =>
      by_cases hw : Within b n <;>
        simp [violations, checks, ho, Check.breach?, contains_eq_within, hw]
  | items least =>
    obtain ⟨kind, parts, rfl⟩ := BaseType.admits_array.mp h
    by_cases hl : least ≤ parts.length <;> simp [violations, checks, Check.breach?, hl]

theorem violations_eq_breaches (d : Demand) (value : Datum) :
    d.violations value =
      if d.type.admits value then d.checks.filterMap (·.breach? value)
      else [.wrongType d.type] := by
  cases h : d.type.admits value with
  | true => exact violations_of_admits h
  | false => exact violations_of_not_admits h

end Demand

end Reading

namespace Property

variable {required : List String} {name : String} {entries : List (String × Tree)}

theorem type_ofTree :
    (ofTree required name (.map entries)).type =
      (Reading.declaredType? (.map entries)).elim .unsupported BaseType.ofScalar := by
  simp [ofTree, typeOf_get]

/-- A property is checked for what its node demands. -/
theorem plainChecks_ofTree :
    (ofTree required name (.map entries)).plainChecks =
      (Reading.demand? (.map entries)).elim [] Reading.Demand.checks ∧
    ∀ d, Reading.demand? (.map entries) = some d →
      (ofTree required name (.map entries)).type = d.type ∧ d.checks ≠ [] := by
  have hb := fun k => @bound_ofTree required name entries k
  have hp := @pattern_ofTree required name entries
  have ht := @type_ofTree required name entries
  unfold Reading.demand?
  split
  next hd =>
    have hs : (ofTree required name (.map entries)).type = .string := by rw [ht, hd]; rfl
    simp only [plainChecks, hs, bounds, hb, hp, Keyword.name]
    cases Reading.whole? (.map entries) "minLength" <;>
      cases Reading.whole? (.map entries) "maxLength" <;>
      cases Reading.regex? (.map entries) <;>
      simp [Bounds.isOpen, Reading.Demand.checks, Reading.Demand.type]
  next hd =>
    have hi : (ofTree required name (.map entries)).type = .integer := by rw [ht, hd]; rfl
    simp only [plainChecks, hi, bounds, hb, Keyword.name]
    cases Reading.whole? (.map entries) "minimum" <;>
      cases Reading.whole? (.map entries) "maximum" <;>
      simp [Bounds.isOpen, Reading.Demand.checks, Reading.Demand.type]
  next hd =>
    have ha : (ofTree required name (.map entries)).type = .array := by rw [ht, hd]; rfl
    simp only [plainChecks, ha, hb, Keyword.name]
    cases Reading.whole? (.map entries) "minItems" <;>
      simp [Reading.Demand.checks, Reading.Demand.type]
  next hs hi ha =>
    have hu : (ofTree required name (.map entries)).type = .unsupported := by
      rw [ht]
      cases hd : Reading.declaredType? (.map entries) with
      | none => rfl
      | some s =>
        rw [hd] at hs hi ha
        unfold Option.elim BaseType.ofScalar
        split <;> simp_all
    simp [plainChecks, hu]

theorem field?_elim_breaches (p : Property) (value : Datum) :
    p.field?.elim [] (·.breaches value) =
      if p.usableChecks = [] then []
      else FieldChecks.breaches ⟨p.name, p.type, p.nullable, p.usableChecks⟩ value := by
  unfold field?
  cases p.usableChecks <;> simp

/-- A property that points elsewhere has no checks, any other those that its node demands. -/
theorem usableChecks_ofTree :
    (ofTree required name (.map entries)).usableChecks =
      if Reading.PointsElsewhere (.map entries) then []
      else (Reading.demand? (.map entries)).elim [] Reading.Demand.checks := by
  have reference : (ofTree required name (.map entries)).isReference =
      decide (Reading.PointsElsewhere (.map entries)) := by
    rw [Bool.eq_iff_iff, decide_eq_true_iff]
    exact refersOnly_iff (.map entries)
  rw [usableChecks, reference, plainChecks_ofTree.1]
  simp only [decide_eq_true_eq]

/-- What a field finds wrong is what the reading of its node does. -/
theorem breaches_ofTree (definition : Tree) (node : Tree) (value : Datum) :
    (ofTree (Definition.requiredOf (definition.get? "required")) name node).field?.elim []
        (·.breaches value) =
      Reading.fieldViolations definition name node value := by
  rw [field?_elim_breaches]
  by_cases leaf : ∀ es, node ≠ .map es
  · rw [Reading.fieldViolations_of_leaf leaf, ofTree_of_leaf leaf]
    rfl
  · obtain ⟨entries, rfl⟩ := not_forall_not.mp leaf
    rw [usableChecks_ofTree, Reading.fieldViolations]
    by_cases points : Reading.PointsElsewhere (.map entries)
    · simp [points]
    · cases demands : Reading.demand? (.map entries) with
      | none => simp [points]
      | some d =>
        obtain ⟨type, nonempty⟩ := (@plainChecks_ofTree
          (Definition.requiredOf (definition.get? "required")) name entries).2 d demands
        simp only [points, if_false, Option.elim, nonempty, FieldChecks.breaches, nullable_ofTree,
          type, Reading.Demand.violations_eq_breaches, decide_eq_true_eq]

end Property

/-- A definition is an object with the entries under its properties. -/
theorem Definition.ofTree?_eq_ite (name : String) (node : Tree) :
    Definition.ofTree? name node =
      if Reading.IsObject node then
        some ⟨name, requiredOf (node.get? "required"),
          propertiesOf (requiredOf (node.get? "required")) (Reading.entriesUnder "properties" node)⟩
      else none := by
  refine Option.ext fun d => ?_
  rw [Definition.ofTree?_eq_some, Option.ite_none_right_eq_some, Reading.IsObject, and_assoc]
  refine and_congr_right fun _ => ?_
  unfold Reading.entriesUnder
  split
  next entries h => simp [h, eq_comm]
  next other =>
    simp only [ne_eq, not_true_eq_false, false_and, iff_false]
    rintro ⟨entries, h, -⟩
    exact other entries h

/-! ### Collections as they are read -/

namespace Collection

variable {root : Tree} {path : Option String} {c : Collection}

theorem firstOf_eq_some {places : List String} {place : String} {t : Tree}
    (h : firstOf root places = some (place, t)) :
    places.find? (fun q => (root.find q).isSome) = some place ∧ root.find place = some t := by
  induction places with
  | nil => cases h
  | cons first rest ih =>
    unfold firstOf at h
    cases hf : root.find first with
    | some u =>
      rw [hf] at h
      cases h
      exact ⟨by simp [hf], hf⟩
    | none =>
      rw [hf] at h
      obtain ⟨hr, ht⟩ := ih h
      exact ⟨by simpa [hf] using hr, ht⟩

theorem isCollection_of_ofTree (h : ofTree root path = .ok c) :
    Reading.IsCollection root path c.entries := by
  unfold ofTree at h
  split at h
  next rootEntries =>
    split at h
    next place entries hf =>
      cases h
      obtain ⟨hc, ht⟩ := firstOf_eq_some hf
      by_cases hp : path.getD "" = ""
      · have hu : candidates path = collectionPaths := by
          unfold candidates
          split
          next => rfl
          next => rfl
          next given hne => exact absurd hp hne
        rw [hu] at hc
        exact .usual hp hc ht
      · obtain ⟨given, rfl⟩ : ∃ given, path = some given := by
          cases path with
          | none => exact absurd rfl hp
          | some given => exact ⟨given, rfl⟩
        have hg : candidates (some given) = [given] := by
          unfold candidates
          split
          next h => cases h
          next h => cases h; exact absurd rfl hp
          next h => cases h; rfl
        rw [hg] at hc
        cases List.mem_singleton.mp (List.mem_of_find?_eq_some hc)
        exact .given hp ht
    next => cases h
    next => cases h
  next => cases h

end Collection

namespace Reading

theorem property_rejections (definition : Tree) (name : String) (node : Tree) (subject : Datum) :
    Validator.rejections
        (Property.ofTree (Definition.requiredOf (definition.get? "required")) name
          node).field?.toList
        subject =
      (fieldViolations definition name node (subject.read name)).map (⟨name, ·⟩) := by
  rw [← Property.breaches_ofTree]
  cases hf : (Property.ofTree (Definition.requiredOf (definition.get? "required")) name node).field?
    with
  | none => rfl
  | some f =>
    have hn : f.name = name := by rw [(Property.field?_eq_some.mp hf).2, Property.ofTree_name]
    simp [Validator.rejections, hn]

/-- The fields of a schema find the same wrong as the reading of its tree, in the same order. -/
theorem rejections_eq_fields (name : String) (definition : Tree) (subject : Datum) :
    rejections definition subject =
      Validator.rejections ((Definition.ofTree? name definition).elim [] Definition.fields)
        subject := by
  cases hd : Definition.ofTree? name definition with
  | none =>
    unfold rejections
    split
    next properties ht hp =>
      cases properties with
      | nil => rfl
      | cons first rest =>
        have hs : ∃ d, Definition.ofTree? name definition = some d :=
          ⟨_, Definition.ofTree?_eq_some.mpr ⟨ht, first :: rest, hp, by simp, rfl⟩⟩
        rw [hd] at hs
        obtain ⟨d, hs⟩ := hs
        cases hs
    next => rfl
  | some d =>
    obtain ⟨ht, properties, hp, _, rfl⟩ := Definition.ofTree?_eq_some.mp hd
    simp only [rejections, ht, hp, Option.elim, Definition.fields, Definition.propertiesOf,
      Scalar.text]
    rw [Validator.rejections, List.filterMap_eq_flatMap_toList, List.flatMap_map,
      List.flatMap_assoc]
    exact List.flatMap_congr fun s _ => (property_rejections definition s.1 s.2 subject).symm

theorem entries_get_none {entries : List (String × Tree)} {name : String}
    (h : name ∉ entries.map Prod.fst) :
    Extraction.get? ((entries.filterMap fun s => Definition.ofTree? s.1 s.2).filterMap
      Definition.entry?) name = none := by
  have hs := (Extraction.entries_names_sublist _).trans
    (Collection.definitions_names_sublist ⟨"", entries⟩)
  refine List.lookup_eq_none_iff.mpr fun schema hm => ?_
  simp only [bne_iff_ne, ne_eq]
  rintro rfl
  exact h (hs.subset (List.mem_map_of_mem hm))

/-- Under names that are all different, the fields of a schema are those of its own definition. -/
theorem entries_get {entries : List (String × Tree)} (hd : (entries.map Prod.fst).Nodup)
    (name : String) :
    ((Extraction.get? ((entries.filterMap fun s => Definition.ofTree? s.1 s.2).filterMap
        Definition.entry?) name).getD []) =
      ((Tree.lookup name entries).bind (Definition.ofTree? name)).elim [] Definition.fields := by
  induction entries with
  | nil => rfl
  | cons s rest ih =>
    obtain ⟨hs, hrest⟩ := List.nodup_cons.mp hd
    have hi := ih hrest
    cases ho : Definition.ofTree? s.1 s.2 with
    | none =>
      by_cases hn : s.1 = name
      · subst hn
        have hnone := entries_get_none hs
        simp [Tree.lookup, ho, hnone]
      · simpa [Tree.lookup, ho, hn] using hi
    | some d =>
      have hname : d.name = s.1 := by
        obtain ⟨_, _, _, _, rfl⟩ := Definition.ofTree?_eq_some.mp ho
        rfl
      by_cases hn : s.1 = name
      · subst hn
        have hnone := entries_get_none hs
        by_cases hf : d.fields = []
        · simp [Tree.lookup, ho, Definition.entry?, hf, hnone]
        · simp [Tree.lookup, ho, Definition.entry?, hf, Extraction.get?, hname]
      · have hb : (name == s.1) = false := by simpa using fun h : name = s.1 => hn h.symm
        by_cases hf : d.fields = []
        · simpa [Tree.lookup, ho, hn, Definition.entry?, hf] using hi
        · simpa [Tree.lookup, ho, hn, Definition.entry?, hf, Extraction.get?, hname, hb,
            List.lookup_cons] using hi

/-- The validators of a document judge instances as its collection is read. -/
theorem exists_judging {root : Tree} {path : Option String} {e : Extraction}
    (h : Extraction.ofTree root path = .ok e) :
    ∃ s, ValidatorSet.ofExtraction e = .ok s ∧
      ∀ {entries : List (String × Tree)}, IsCollection root path entries →
        (entries.map Prod.fst).Nodup → ∀ name subject,
          s.rejection? name subject = Rejection.told (verdict entries name subject) := by
  obtain ⟨c, hc, hcompiles, rfl⟩ := Extraction.ofTree_eq_ok.mp h
  obtain ⟨s, hs, hj⟩ :=
    ValidatorSet.ofExtraction_of_fits (Extraction.wellFormed_of_definitions hcompiles).fits
  refine ⟨s, hs, fun {entries} he distinct name subject => ?_⟩
  obtain rfl := he.unique (Collection.isCollection_of_ofTree hc)
  have names : ((c.definitions.filterMap Definition.entry?).map Prod.fst).Nodup :=
    ((Extraction.entries_names_sublist _).trans c.definitions_names_sublist).nodup distinct
  rw [ValidatorSet.rejection_of_judges hj, Extraction.ofList_of_nodup names, Collection.definitions,
    entries_get distinct name]
  unfold verdict
  cases Tree.lookup name c.entries with
  | none => rfl
  | some definition => exact congrArg (Rejection.told ·.head?) (rejections_eq_fields ..).symm

/-- The verdict of the validators of a document on an instance is the one that the tree gives: the
first thing wrong with it, told if its numbers have texts. -/
theorem verdict_of_validators {root : Tree} {path : Option String} {e : Extraction}
    (h : Extraction.ofTree root path = .ok e) :
    (∃! entries, IsCollection root path entries) ∧
      ∃ s, ValidatorSet.ofExtraction e = .ok s ∧
        ∀ entries, IsCollection root path entries → (entries.map Prod.fst).Nodup →
          ∀ name subject,
            s.rejection? name subject = Rejection.told (verdict entries name subject) := by
  obtain ⟨c, hc, hcompiles, rfl⟩ := Extraction.ofTree_eq_ok.mp h
  have hcoll := Collection.isCollection_of_ofTree hc
  obtain ⟨s, hs, hj⟩ :=
    ValidatorSet.ofExtraction_of_fits (Extraction.wellFormed_of_definitions hcompiles).fits
  refine ⟨⟨c.entries, hcoll, fun other ho => ho.unique hcoll⟩, s, hs, ?_⟩
  intro entries he hd name subject
  obtain rfl := he.unique hcoll
  have hnames : ((c.definitions.filterMap Definition.entry?).map Prod.fst).Nodup :=
    ((Extraction.entries_names_sublist _).trans c.definitions_names_sublist).nodup hd
  rw [ValidatorSet.rejection_of_judges hj, Extraction.ofList_of_nodup hnames,
    Collection.definitions, entries_get hd name]
  unfold verdict
  cases Tree.lookup name c.entries with
  | none => rfl
  | some definition => exact congrArg (Rejection.told ·.head?) (rejections_eq_fields ..).symm

/-- A short identifier is what is wrong first. -/
theorem tenants_verdict :
    Extraction.ofTree Sample.tenants none = .ok [("Tenant", Sample.tenantFields)] ∧
      IsCollection Sample.tenants none Sample.tenantSchemas ∧
      (Sample.tenantSchemas.map Prod.fst).Nodup ∧
      ∃ s, ValidatorSet.ofExtraction [("Tenant", Sample.tenantFields)] = .ok s ∧
        (∀ name subject,
          s.rejection? name subject = Rejection.told (verdict Sample.tenantSchemas name subject)) ∧
        s.rejection? "Tenant" (.dict [(.text "id", .atom (.text "ab"))]) =
          .ok (some ⟨"id", .length ⟨some 3, some 63⟩⟩) := by
  have hc : IsCollection Sample.tenants none Sample.tenantSchemas :=
    @IsCollection.usual _ none _ "definitions" rfl (by decide +kernel) (by cbv)
  have hd : (Sample.tenantSchemas.map Prod.fst).Nodup := by decide
  obtain ⟨_, s, hs, hv⟩ := verdict_of_validators Sample.tenants_extraction
  refine ⟨Sample.tenants_extraction, hc, hd, s, hs, hv _ hc hd, ?_⟩
  rw [hv _ hc hd]
  decide +kernel

end Reading

end SchemaChecks
