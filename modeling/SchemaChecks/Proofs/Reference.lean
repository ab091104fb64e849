import SchemaChecks.Proofs.Independence
import SchemaChecks.Proofs.Tightening

/-!
Properties that only point to schemas. A property without a target of its own is skipped if its only
entry is a list of references, and also if it has such a list beside other entries: whatever it
demands there is lost. Every other property with a demand is checked for exactly this demand.
-/

namespace SchemaChecks

namespace Reading

/-- A property with nothing but a list of references. -/
def IsPureReference (es : List (String × Tree)) : Prop :=
  ∃ key ∈ ["allOf", "oneOf", "anyOf"], ∃ t, es = [(key, t)] ∧ OnlyReferences (some t)

/-- A property with a list of references beside other entries. -/
def MixesReferences (es : List (String × Tree)) : Prop :=
  1 < es.length ∧ ∃ key ∈ ["allOf", "oneOf", "anyOf"], OnlyReferences ((Tree.map es).get? key)

instance (es : List (String × Tree)) : Decidable (MixesReferences es) :=
  inferInstanceAs (Decidable (_ ∧ ∃ key ∈ _, _))

theorem not_onlyReferences_none : ¬ OnlyReferences none := id

theorem exists_onlyReferences_iff (es : List (String × Tree)) :
    (∃ key ∈ ["allOf", "oneOf", "anyOf"], OnlyReferences ((Tree.map es).get? key)) ↔
      IsPureReference es ∨ MixesReferences es := by
  constructor
  · rintro ⟨key, listed, refers⟩
    match es with
    | [] => exact absurd refers not_onlyReferences_none
    | [(k, t)] =>
      by_cases same : k = key
      · subst same
        exact Or.inl ⟨k, listed, t, rfl, by simpa [Tree.get?, Tree.lookup] using refers⟩
      · exact absurd refers (by simp [Tree.get?, Tree.lookup, same, OnlyReferences])
    | _ :: _ :: rest => exact Or.inr ⟨by simp, key, listed, refers⟩
  · rintro (⟨key, listed, t, rfl, refers⟩ | ⟨-, key, listed, refers⟩)
    · exact ⟨key, listed, by simpa [Tree.get?, Tree.lookup] using refers⟩
    · exact ⟨key, listed, refers⟩

theorem not_mixes_of_pure {es : List (String × Tree)} (pure : IsPureReference es) :
    ¬ MixesReferences es := by
  obtain ⟨key, -, t, rfl, -⟩ := pure
  rintro ⟨more, -⟩
  simp at more

theorem pointsElsewhere_iff {es : List (String × Tree)} (own : "$ref" ∉ es.map Prod.fst) :
    PointsElsewhere (.map es) ↔ IsPureReference es ∨ MixesReferences es := by
  have target : (Tree.map es).get? "$ref" = none := Tree.lookup_eq_none own
  rw [PointsElsewhere, target, exists_onlyReferences_iff]
  simp

/-- A list alone demands nothing. -/
theorem demand?_of_pure {es : List (String × Tree)} (pure : IsPureReference es) :
    demand? (.map es) = none := by
  obtain ⟨key, listed, t, rfl, -⟩ := pure
  have untyped : ¬ key = "type" := by
    rintro rfl
    revert listed
    decide
  have undeclared : declaredType? (.map [(key, t)]) = none := by
    simp [declaredType?, membersUnder, Tree.scalar?, Tree.get?, Tree.lookup, untyped]
  rw [demand?, undeclared]

/-- A property with a demand stays unless it mixes references into it. -/
theorem stays_of_unmixed {es : List (String × Tree)} {d : Demand} (own : "$ref" ∉ es.map Prod.fst)
    (unmixed : ¬ MixesReferences es) (demands : demand? (.map es) = some d) :
    ¬ PointsElsewhere (.map es) := by
  rw [pointsElsewhere_iff own]
  rintro (pure | mixed)
  · rw [demand?_of_pure pure] at demands
    cases demands
  · exact unmixed mixed

def fieldOf (definition : Tree) (name : String) (node : Tree) (d : Demand) : FieldChecks :=
  ⟨name, d.type, decide (MayBeNull definition name node), d.checks⟩

def field? (definition : Tree) (name : String) (node : Tree) : Option FieldChecks :=
  if PointsElsewhere node then none else (demand? node).map (fieldOf definition name node)

def fieldsOf (definition : Tree) (properties : List (String × Tree)) : List FieldChecks :=
  properties.filterMap fun s => field? definition s.1 s.2

theorem fieldsOf_append (definition : Tree) (before after : List (String × Tree)) :
    fieldsOf definition (before ++ after) =
      fieldsOf definition before ++ fieldsOf definition after :=
  List.filterMap_append ..

theorem fieldsOf_cons (definition : Tree) (s : String × Tree) (rest : List (String × Tree)) :
    fieldsOf definition (s :: rest) =
      (field? definition s.1 s.2).toList ++ fieldsOf definition rest := by
  cases checked : field? definition s.1 s.2 <;> simp [fieldsOf, checked]

/-- A property is checked as its node is read. -/
theorem field?_ofTree (definition : Tree) (name : String) (node : Tree) :
    (Property.ofTree (Definition.requiredOf (definition.get? "required")) name node).field? =
      field? definition name node := by
  by_cases leaf : ∀ es, node ≠ .map es
  · have nothing : field? definition name node = none := by simp [field?, demand?_of_leaf leaf]
    rw [nothing, Property.ofTree_of_leaf leaf]
    rfl
  · obtain ⟨es, rfl⟩ := not_forall_not.mp leaf
    have usable := @Property.usableChecks_ofTree
      (Definition.requiredOf (definition.get? "required")) name es
    unfold field?
    by_cases points : PointsElsewhere (.map es)
    · simp [Property.field?, usable, points]
    · cases demands : demand? (.map es) with
      | none => simp [Property.field?, usable, demands]
      | some d =>
        obtain ⟨type, nonempty⟩ := (@Property.plainChecks_ofTree
          (Definition.requiredOf (definition.get? "required")) name es).2 d demands
        rw [if_neg points, demands, Option.elim_some] at usable
        rw [if_neg points, Option.map_some, Property.field?_eq_some, usable, type,
          Property.nullable_ofTree, Property.ofTree_name]
        exact ⟨nonempty, rfl⟩

def schemaFields (definition : Tree) : List FieldChecks :=
  fieldsOf definition (entriesUnder "properties" definition)

theorem fields_of_object {name : String} {definition : Tree} (object : IsObject definition) :
    (Definition.ofTree? name definition).elim [] Definition.fields = schemaFields definition := by
  rw [Definition.ofTree?_eq_ite, if_pos object]
  simp [schemaFields, fieldsOf, Definition.fields, Definition.propertiesOf, List.filterMap_map,
    field?_ofTree]

/-- The fields of a schema around one of its properties. -/
theorem schemaFields_around {definition node : Tree} {before after : List (String × Tree)}
    {field : String}
    (under : definition.get? "properties" = some (.map (before ++ (field, node) :: after))) :
    schemaFields definition = fieldsOf definition before ++
      ((field? definition field node).toList ++ fieldsOf definition after) := by
  rw [schemaFields, entriesUnder, under, fieldsOf_append, fieldsOf_cons]

theorem isObject_of_property {definition node : Tree} {before after : List (String × Tree)}
    {field : String} (object : definition.scalar? "type" = some (.text "object"))
    (under : definition.get? "properties" = some (.map (before ++ (field, node) :: after))) :
    IsObject definition := by
  refine ⟨object, ?_⟩
  rw [entriesUnder, under]
  simp

/-- Which properties of an object schema are skipped as references. Without a target of its own a
property is told right, as a reference exactly if it is nothing but a list of references, unless it
has such a list beside other entries. A list alone demands nothing. What a property demands beside
a list is lost: the schema has the fields of its other properties, and these alone judge instances.
A property of any other kind that demands something has a field with exactly this demand, and an
instance whose value violates it is rejected. -/
theorem references_skipped {root : Tree} {path : Option String}
    {entries before es after : List (String × Tree)} {name field : String} {definition : Tree}
    (hc : IsCollection root path entries) (stands : (name, definition) ∈ entries)
    (object : definition.scalar? "type" = some (.text "object"))
    (under : definition.get? "properties" = some (.map (before ++ (field, .map es) :: after)))
    (own : "$ref" ∉ es.map Prod.fst) :
    (((Property.ofTree (Definition.requiredOf (definition.get? "required")) field
        (.map es)).isReference = true ↔ IsPureReference es) ↔ ¬ MixesReferences es) ∧
      (IsPureReference es → demand? (.map es) = none) ∧
      ∀ {e}, Extraction.ofTree root path = .ok e →
        (∀ other, (name, other) ∈ entries → other = definition) →
        ∃ s, ValidatorSet.ofExtraction e = .ok s ∧
          (MixesReferences es →
            (e.get? name).getD [] = fieldsOf definition (before ++ after) ∧
            ∀ subject, s.rejection? name subject = Rejection.told
              (Validator.rejections (fieldsOf definition (before ++ after)) subject).head?) ∧
          (¬ MixesReferences es → ∀ d, demand? (.map es) = some d →
            e.get? name = some (fieldsOf definition before ++
              fieldOf definition field (.map es) d :: fieldsOf definition after) ∧
            ∀ subject, (subject.read field).isNull = false →
              d.violations (subject.read field) ≠ [] →
              ∃ r, s.rejection? name subject = Rejection.told (some r)) := by
  have points := pointsElsewhere_iff own
  have classified : (Property.ofTree (Definition.requiredOf (definition.get? "required")) field
      (.map es)).isReference = true ↔ IsPureReference es ∨ MixesReferences es := by
    rw [← points]
    exact Property.refersOnly_iff (.map es)
  refine ⟨?_, demand?_of_pure, fun {e} h only => ?_⟩
  · rw [classified]
    constructor
    · intro right mixed
      exact not_mixes_of_pure (right.mp (Or.inr mixed)) mixed
    · intro unmixed
      exact or_iff_left unmixed
  · obtain ⟨s, hs, judged⟩ := judged_by_only hc h
    obtain ⟨fields, verdicts⟩ := judged ⟨stands, only⟩
    have rejected := rejections_eq_fields name definition
    rw [fields_of_object (isObject_of_property object under), schemaFields_around under]
      at fields rejected
    refine ⟨s, hs, fun mixed => ?_, fun unmixed d demands => ?_⟩
    · have skipped : field? definition field (.map es) = none :=
        if_pos (points.mpr (Or.inr mixed))
      rw [skipped, Option.toList_none, List.nil_append, ← fieldsOf_append] at fields rejected
      refine ⟨fields, fun subject => ?_⟩
      rw [verdicts, rejected]
    · have stays := stays_of_unmixed own unmixed demands
      have checked : field? definition field (.map es) =
          some (fieldOf definition field (.map es) d) := by
        rw [field?, if_neg stays, demands, Option.map_some]
      rw [checked] at fields
      refine ⟨?_, fun subject present violated => ?_⟩
      · cases found : e.get? name with
        | none => simp [found] at fields
        | some own => simpa [found] using fields
      · have wrong : fieldViolations definition field (.map es) (subject.read field) ≠ [] := by
          simpa [fieldViolations, stays, demands, present] using violated
        obtain ⟨r, first⟩ := exists_rejection object under (by simp) wrong
        exact ⟨r, by rw [verdicts, first]⟩

end Reading

namespace Sample

def codeEntries : List (String × Tree) :=
  [("type", text "string"), ("maxLength", number 4),
    ("allOf", .seq [.map [("$ref", text "#/definitions/Code")]])]

def noteEntries : List (String × Tree) :=
  [("type", text "string"), ("minLength", number 2),
    ("anyOf", .seq [.map [("$ref", text "#/definitions/Note")], .map [("type", text "null")]])]

def order : Tree := .map [("type", text "object"),
  ("properties", .map [("code", .map codeEntries), ("note", .map noteEntries)])]

def noteField : FieldChecks := ⟨"note", .string, true, [.length ⟨some 2, none⟩]⟩

theorem order_extraction :
    Extraction.ofTree (documentOf [("Order", order)]) none = .ok [("Order", [noteField])] := by
  decide +kernel

end Sample

/-- A long code is accepted, as its property is skipped, and a short note is rejected. -/
theorem Reading.order_references :
    Extraction.ofTree (Sample.documentOf [("Order", Sample.order)]) none =
        .ok [("Order", [Sample.noteField])] ∧
      MixesReferences Sample.codeEntries ∧ ¬ MixesReferences Sample.noteEntries ∧
      ∃ s, ValidatorSet.ofExtraction [("Order", [Sample.noteField])] = .ok s ∧
        s.rejection? "Order" (.dict [(.text "code", .atom (.text "A-1729"))]) = .ok none ∧
        ∃ r, s.rejection? "Order" (.dict [(.text "note", .atom (.text "x"))]) =
          Rejection.told (some r) := by
  have mixed : MixesReferences Sample.codeEntries := by decide
  have unmixed : ¬ MixesReferences Sample.noteEntries := by decide
  have collection := Sample.isCollection_documentOf [("Order", Sample.order)]
  have stands : ("Order", Sample.order) ∈ [("Order", Sample.order)] := List.mem_singleton_self _
  have only : ∀ other, ("Order", other) ∈ [("Order", Sample.order)] → other = Sample.order :=
    fun other ho => by simpa using ho
  obtain ⟨-, -, code⟩ := @references_skipped _ _ _ [] _ [_] _ "code" _ collection stands (by decide)
    rfl (by decide)
  obtain ⟨-, -, note⟩ := @references_skipped _ _ _ [_] _ [] _ "note" _ collection stands (by decide)
    rfl (by decide)
  obtain ⟨s, hs, lost, -⟩ := code Sample.order_extraction only
  obtain ⟨t, ht, -, kept⟩ := note Sample.order_extraction only
  obtain rfl := Except.ok.inj (hs.symm.trans ht)
  obtain ⟨-, accepts⟩ := lost mixed
  obtain ⟨-, rejects⟩ := kept unmixed (.text ⟨some 2, none⟩ none) rfl
  refine ⟨Sample.order_extraction, mixed, unmixed, s, hs, ?_, ?_⟩
  · rw [accepts]
    decide +kernel
  · exact rejects _ (by decide) (by decide +kernel)

end SchemaChecks
