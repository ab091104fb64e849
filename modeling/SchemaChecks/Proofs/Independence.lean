import SchemaChecks.Proofs.ExtractionFailure

/-!
Schemas do not touch each other. Collections that share no name are extracted one after the other,
and the validator of a schema is made from its own definition alone, whatever stands beside it.
-/

namespace SchemaChecks

namespace Extraction

/-- What is extracted from a document is told by the entries of its collection. -/
theorem ofTree_of_isCollection {root : Tree} {path : Option String} {entries : List (String × Tree)}
    (h : Reading.IsCollection root path entries) :
    ofTree root path =
      (ofDefinitions (entries.filterMap fun s => Definition.ofTree? s.1 s.2)).map ofList := by
  obtain ⟨c, hc, rfl⟩ := Collection.ofTree_of_isCollection h
  unfold ofTree definitionsOf
  rw [hc]
  rfl

theorem ofDefinitions_names {entries : List (String × Tree)} {es : List (String × List FieldChecks)}
    (h : ofDefinitions (entries.filterMap fun s => Definition.ofTree? s.1 s.2) = .ok es) :
    (es.map Prod.fst).Sublist (entries.map Prod.fst) := by
  obtain ⟨-, rfl⟩ := ofDefinitions_eq_ok.mp h
  exact (entries_names_sublist _).trans (Collection.definitions_names_sublist ⟨"", entries⟩)

/-- A collection in two parts without a common name gives the extraction of the first part and then
that of the second; of two errors it gives the one of the first part. -/
theorem ofTree_append {root left right : Tree} {path leftPath rightPath : Option String}
    {A B : List (String × Tree)} (h : Reading.IsCollection root path (A ++ B))
    (hA : Reading.IsCollection left leftPath A) (hB : Reading.IsCollection right rightPath B)
    (apart : ∀ name ∈ A.map Prod.fst, name ∉ B.map Prod.fst) :
    ofTree root path =
      (ofTree left leftPath).bind fun a => (ofTree right rightPath).map (a ++ ·) := by
  rw [ofTree_of_isCollection h, ofTree_of_isCollection hA, ofTree_of_isCollection hB,
    List.filterMap_append, ofDefinitions_append]
  cases first : ofDefinitions (A.filterMap fun s => Definition.ofTree? s.1 s.2) with
  | error e => rfl
  | ok es =>
    cases second : ofDefinitions (B.filterMap fun s => Definition.ofTree? s.1 s.2) with
    | error e => rfl
    | ok more =>
      have parted : ∀ name ∈ es.map Prod.fst, name ∉ more.map Prod.fst := fun name here there =>
        apart name ((ofDefinitions_names first).subset here)
          ((ofDefinitions_names second).subset there)
      exact congrArg Except.ok (ofList_append parted)

end Extraction

/-! ### Validators by the definitions of their schemas -/

namespace ValidatorSet

/-- The validator under a name is made from the fields under that name. -/
theorem get?_ofExtraction {e : Extraction} {s : ValidatorSet}
    (nonempty : ∀ schema ∈ e, schema.2 ≠ [])
    (h : ofExtraction e = .ok s) (name : String) :
    s.get? name = (e.get? name).bind fun fields => (Validator.ofFields name fields).toOption := by
  induction e generalizing s with
  | nil => cases h; rfl
  | cons schema rest ih =>
    obtain ⟨n, fields⟩ := schema
    obtain ⟨f, more, rfl⟩ := List.exists_cons_of_ne_nil (nonempty _ List.mem_cons_self)
    unfold ofExtraction at h
    split at h
    next => cases h
    next v hv =>
      obtain ⟨tail, htail, rfl⟩ := exists_of_map_eq_ok h
      have others := ih (fun t ht => nonempty t (List.mem_cons_of_mem _ ht)) htail
      have schema : v.schema = n := by
        obtain ⟨vs, -, rfl⟩ := exists_of_map_eq_ok hv
        rfl
      by_cases hn : n = name
      · subst hn
        simp [get?, Extraction.get?, schema, hv, Except.toOption]
      · have other : (name == n) = false := by simpa using fun same : name = n => hn same.symm
        simpa [get?, Extraction.get?, List.lookup_cons, schema, hn, other] using others

end ValidatorSet

namespace Reading

theorem lookup_eq_some_iff {entries : List (String × Tree)}
    (distinct : (entries.map Prod.fst).Nodup)
    {name : String} {definition : Tree} :
    Tree.lookup name entries = some definition ↔ (name, definition) ∈ entries := by
  induction entries with
  | nil => simp [Tree.lookup]
  | cons s rest ih =>
    obtain ⟨n, t⟩ := s
    obtain ⟨fresh, distinct⟩ := List.nodup_cons.mp distinct
    by_cases hn : n = name
    · subst hn
      have later : (n, definition) ∉ rest := fun hm => fresh (List.mem_map.mpr ⟨_, hm, rfl⟩)
      simp [Tree.lookup, later, eq_comm]
    · have other : ¬ name = n := fun same => hn same.symm
      simpa [Tree.lookup, hn, other] using ih distinct

/-- A name has fields exactly if it has some that are checked. -/
theorem get?_of_nonempty {e : Extraction} (nonempty : ∀ schema ∈ e, schema.2 ≠ []) (name : String) :
    e.get? name = if (e.get? name).getD [] = [] then none else some ((e.get? name).getD []) := by
  cases found : e.get? name with
  | none => rfl
  | some fields =>
    obtain ⟨before, after, rfl, -⟩ := List.lookup_eq_some_iff.mp found
    have checked := nonempty (name, fields) (by simp)
    simp [checked]

/-- The fields under a name are those of the definition under it. -/
theorem get?_of_definition {root : Tree} {path : Option String} {entries : List (String × Tree)}
    {e : Extraction} (hc : IsCollection root path entries)
    (distinct : (entries.map Prod.fst).Nodup) (h : Extraction.ofTree root path = .ok e)
    (name : String) :
    (∀ schema ∈ e, schema.2 ≠ []) ∧ (e.get? name).getD [] =
      ((Tree.lookup name entries).bind (Definition.ofTree? name)).elim [] Definition.fields := by
  obtain ⟨c, found, hcompiles, rfl⟩ := Extraction.ofTree_eq_ok.mp h
  obtain rfl := hc.unique (Collection.isCollection_of_ofTree found)
  have names : ((c.definitions.filterMap Definition.entry?).map Prod.fst).Nodup :=
    ((Extraction.entries_names_sublist _).trans c.definitions_names_sublist).nodup distinct
  refine ⟨(Extraction.wellFormed_of_definitions hcompiles).nonempty, ?_⟩
  rw [Extraction.ofList_of_nodup names]
  exact entries_get distinct name

def IsOnly (entries : List (String × Tree)) (name : String) (definition : Tree) : Prop :=
  (name, definition) ∈ entries ∧ ∀ other, (name, other) ∈ entries → other = definition

theorem IsOnly.fields_of_entry {c : Collection} {name : String} {definition : Tree}
    {fields : List FieldChecks} (only : IsOnly c.entries name definition)
    (h : (name, fields) ∈ c.definitions.filterMap Definition.entry?) :
    ∃ d, Definition.ofTree? name definition = some d ∧ fields = d.fields := by
  obtain ⟨d, hd, -, same⟩ := Extraction.mem_entries h
  obtain ⟨⟨n, t⟩, ht, defines⟩ := Collection.mem_definitions.mp hd
  have named : d.name = n := Definition.name_of_ofTree? defines
  obtain ⟨rfl, rfl⟩ := Prod.mk.inj same
  subst named
  exact ⟨d, only.2 t ht ▸ defines, rfl⟩

theorem IsOnly.fields_of_extraction {c : Collection} {name : String} {definition : Tree}
    (only : IsOnly c.entries name definition) :
    ((Extraction.ofList (c.definitions.filterMap Definition.entry?)).get? name).getD [] =
      (Definition.ofTree? name definition).elim [] Definition.fields := by
  rw [Extraction.get?_ofList, Extraction.get?]
  cases kept : List.lookup name (c.definitions.filterMap Definition.entry?).reverse with
  | some fields =>
    obtain ⟨before, after, whole, -⟩ := List.lookup_eq_some_iff.mp kept
    have listed : (name, fields) ∈ (c.definitions.filterMap Definition.entry?).reverse := by
      simp [whole]
    obtain ⟨d, defines, rfl⟩ := only.fields_of_entry (List.mem_reverse.mp listed)
    rw [defines]
    rfl
  | none =>
    cases defines : Definition.ofTree? name definition with
    | none => rfl
    | some d =>
      by_contra checked
      have entry : d.entry? = some (name, d.fields) := by
        rw [Definition.entry?, Definition.name_of_ofTree? defines]
        exact if_neg fun none => checked none.symm
      have listed := List.mem_reverse.mpr (List.mem_filterMap.mpr
        ⟨d, Collection.mem_definitions.mpr ⟨_, only.1, defines⟩, entry⟩)
      simpa using List.lookup_eq_none_iff.mp kept _ listed

/-- Under a name with one definition are the fields of this definition, and instances are judged by
it, whatever names the others share. -/
theorem judged_by_only {root : Tree} {path : Option String} {entries : List (String × Tree)}
    {e : Extraction} (hc : IsCollection root path entries)
    (h : Extraction.ofTree root path = .ok e) :
    ∃ s, ValidatorSet.ofExtraction e = .ok s ∧
      ∀ {name definition}, IsOnly entries name definition →
        (e.get? name).getD [] = (Definition.ofTree? name definition).elim [] Definition.fields ∧
        ∀ subject,
          s.rejection? name subject = Rejection.told (rejections definition subject).head? := by
  obtain ⟨c, found, hcompiles, rfl⟩ := Extraction.ofTree_eq_ok.mp h
  obtain rfl := hc.unique (Collection.isCollection_of_ofTree found)
  obtain ⟨s, hs, hj⟩ :=
    ValidatorSet.ofExtraction_of_fits (Extraction.wellFormed_of_definitions hcompiles).fits
  refine ⟨s, hs, fun {name definition} only => ⟨only.fields_of_extraction, fun subject => ?_⟩⟩
  rw [ValidatorSet.rejection_of_judges hj, only.fields_of_extraction, ← rejections_eq_fields]

/-- What is wrong with one property makes an instance be rejected, if not for something before
it. -/
theorem exists_rejection {definition node : Tree} {properties : List (String × Tree)}
    {field : String} {subject : Datum} (object : definition.scalar? "type" = some (.text "object"))
    (under : definition.get? "properties" = some (.map properties))
    (stands : (field, node) ∈ properties)
    (wrong : fieldViolations definition field node (subject.read field) ≠ []) :
    ∃ r, (rejections definition subject).head? = some r := by
  obtain ⟨v, hv⟩ := List.exists_mem_of_ne_nil _ wrong
  have rejection : ⟨field, v⟩ ∈ rejections definition subject := by
    simp only [rejections, object, under, Scalar.text]
    exact List.mem_flatMap.mpr ⟨_, stands, List.mem_map_of_mem hv⟩
  exact ⟨_, List.head?_eq_some_head (List.ne_nil_of_mem rejection)⟩

section

variable {root root' : Tree} {path path' : Option String} {entries entries' : List (String × Tree)}
  {e e' : Extraction}

/-- Two documents that have the same definition under a name, or both none, have the same validator
under it. -/
theorem get?_eq_of_same_definition (hc : IsCollection root path entries)
    (hc' : IsCollection root' path' entries') (distinct : (entries.map Prod.fst).Nodup)
    (distinct' : (entries'.map Prod.fst).Nodup) (h : Extraction.ofTree root path = .ok e)
    (h' : Extraction.ofTree root' path' = .ok e') :
    ∃ s s', ValidatorSet.ofExtraction e = .ok s ∧ ValidatorSet.ofExtraction e' = .ok s' ∧
      ∀ name, (∀ definition, (name, definition) ∈ entries ↔ (name, definition) ∈ entries') →
        s.get? name = s'.get? name := by
  obtain ⟨s, hs, -⟩ := exists_judging h
  obtain ⟨s', hs', -⟩ := exists_judging h'
  refine ⟨s, s', hs, hs', fun name same => ?_⟩
  have found : Tree.lookup name entries = Tree.lookup name entries' := by
    refine Option.ext fun definition => ?_
    rw [lookup_eq_some_iff distinct, lookup_eq_some_iff distinct', same]
  obtain ⟨nonempty, fields⟩ := get?_of_definition hc distinct h name
  obtain ⟨nonempty', fields'⟩ := get?_of_definition hc' distinct' h' name
  rw [ValidatorSet.get?_ofExtraction nonempty hs, ValidatorSet.get?_ofExtraction nonempty' hs',
    get?_of_nonempty nonempty, get?_of_nonempty nonempty', fields, fields', found]

end

/-- Schemas do not interfere. Parts of a collection without a common name are extracted
independently, the first error deciding; and of two documents with distinct names that have the same
definition under a name, whatever else they hold and in whichever order, the validators under it are
the same and say the same of every instance. -/
theorem schemas_independent :
    (∀ {root left right : Tree} {path leftPath rightPath : Option String}
      {A B : List (String × Tree)}, IsCollection root path (A ++ B) →
      IsCollection left leftPath A → IsCollection right rightPath B →
      (∀ name ∈ A.map Prod.fst, name ∉ B.map Prod.fst) →
        Extraction.ofTree root path = (Extraction.ofTree left leftPath).bind fun a =>
          (Extraction.ofTree right rightPath).map (a ++ ·)) ∧
    (∀ {root root' : Tree} {path path' : Option String} {entries entries' : List (String × Tree)}
      {e e' : Extraction}, IsCollection root path entries → IsCollection root' path' entries' →
      (entries.map Prod.fst).Nodup → (entries'.map Prod.fst).Nodup →
      Extraction.ofTree root path = .ok e → Extraction.ofTree root' path' = .ok e' →
        ∃ s s', ValidatorSet.ofExtraction e = .ok s ∧ ValidatorSet.ofExtraction e' = .ok s' ∧
          ∀ name, (∀ definition, (name, definition) ∈ entries ↔ (name, definition) ∈ entries') →
            s.get? name = s'.get? name ∧
              ∀ subject, s.rejection? name subject = s'.rejection? name subject) := by
  refine ⟨Extraction.ofTree_append, fun hc hc' distinct distinct' h h' => ?_⟩
  obtain ⟨s, s', hs, hs', same⟩ := get?_eq_of_same_definition hc hc' distinct distinct' h h'
  refine ⟨s, s', hs, hs', fun name definitions => ⟨same name definitions, fun subject => ?_⟩⟩
  unfold ValidatorSet.rejection?
  rw [same name definitions]

end Reading

namespace Sample

def documentOf (schemas : List (String × Tree)) : Tree := .map [("definitions", .map schemas)]

theorem isCollection_documentOf (schemas : List (String × Tree)) :
    Reading.IsCollection (documentOf schemas) none schemas :=
  @Reading.IsCollection.usual _ none _ "definitions" rfl (by cbv) (by cbv)

def entrySchemas : List (String × Tree) := ledgerSchemas.drop 1

theorem entry_extraction : Extraction.ofTree (documentOf entrySchemas) none =
    .error (.error (.invalidPattern "Entry" "code" "(" ⟨.unterminatedGroup, some 0⟩)) := by
  decide +kernel

end Sample

/-- A bad pattern behind the tenants decides, and the order of the tenants' schemas does not. -/
theorem Reading.tenants_independent :
    (∀ name ∈ Sample.tenantSchemas.map Prod.fst, name ∉ Sample.entrySchemas.map Prod.fst) ∧
      Extraction.ofTree (Sample.documentOf (Sample.tenantSchemas ++ Sample.entrySchemas)) none =
        .error (.error (.invalidPattern "Entry" "code" "(" ⟨.unterminatedGroup, some 0⟩)) ∧
      (Sample.tenantSchemas.map Prod.fst).Nodup ∧
      (Sample.tenantSchemas.reverse.map Prod.fst).Nodup ∧
      Extraction.ofTree (Sample.documentOf Sample.tenantSchemas) none =
        .ok [("Tenant", Sample.tenantFields)] ∧
      Extraction.ofTree (Sample.documentOf Sample.tenantSchemas.reverse) none =
        .ok [("Tenant", Sample.tenantFields)] ∧
      ∃ s s', ValidatorSet.ofExtraction [("Tenant", Sample.tenantFields)] = .ok s ∧
        ValidatorSet.ofExtraction [("Tenant", Sample.tenantFields)] = .ok s' ∧
        ∀ name, s.get? name = s'.get? name ∧
          ∀ subject, s.rejection? name subject = s'.rejection? name subject := by
  have collection := Sample.isCollection_documentOf
  have apart : ∀ name ∈ Sample.tenantSchemas.map Prod.fst,
      name ∉ Sample.entrySchemas.map Prod.fst := by decide
  have distinct : (Sample.tenantSchemas.map Prod.fst).Nodup := by decide
  have distinct' : (Sample.tenantSchemas.reverse.map Prod.fst).Nodup := by decide
  have extracted : Extraction.ofTree (Sample.documentOf Sample.tenantSchemas) none =
      .ok [("Tenant", Sample.tenantFields)] := Sample.tenants_extraction
  have reversed : Extraction.ofTree (Sample.documentOf Sample.tenantSchemas.reverse) none =
      .ok [("Tenant", Sample.tenantFields)] := by decide +kernel
  obtain ⟨append, same⟩ := schemas_independent
  refine ⟨apart, ?_, distinct, distinct', extracted, reversed, ?_⟩
  · rw [append (collection _) (collection Sample.tenantSchemas)
      (collection Sample.entrySchemas) apart, extracted, Sample.entry_extraction]
    rfl
  · obtain ⟨s, s', hs, hs', agree⟩ := same (collection Sample.tenantSchemas)
      (collection Sample.tenantSchemas.reverse) distinct distinct' extracted reversed
    exact ⟨s, s', hs, hs', fun name => agree name fun definition => List.mem_reverse.symm⟩

end SchemaChecks
