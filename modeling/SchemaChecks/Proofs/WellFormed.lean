import SchemaChecks.Module.Rendering
import SchemaChecks.Proofs.Definition
import SchemaChecks.Proofs.Extraction
import SchemaChecks.Proofs.Verdict

/-!
Extractions are well formed: which checks a field of each type has, and in which order names stand.
What is well formed can be made into validators and into a module, and no verdict on an instance is
a fault.
-/

namespace SchemaChecks

namespace FieldChecks

inductive Shape : BaseType → List Check → Prop where
  | length {b : Bounds} (hb : b.isOpen = false) : Shape .string [.length b]
  | pattern {regex : String} {q : Pattern.Compiled} (h : Pattern.compile regex = .ok q) :
    Shape .string [.pattern regex]
  | lengthPattern {b : Bounds} {regex : String} {q : Pattern.Compiled} (hb : b.isOpen = false)
    (h : Pattern.compile regex = .ok q) : Shape .string [.length b, .pattern regex]
  | range {b : Bounds} (hb : b.isOpen = false) : Shape .integer [.range b]
  | minItems (n : Int) : Shape .array [.minItems n]

theorem Shape.fits {t : BaseType} {cs : List Check} (h : Shape t cs) :
    ∀ c ∈ cs, Check.Fits t c := by
  intro c hc
  cases h with
  | length _ => cases List.mem_singleton.mp hc; exact .length _
  | pattern hq => cases List.mem_singleton.mp hc; exact .pattern hq
  | lengthPattern _ hq =>
    rcases List.mem_cons.mp hc with rfl | hc
    · exact .length _
    · cases List.mem_singleton.mp hc; exact .pattern hq
  | range _ => cases List.mem_singleton.mp hc; exact .range _
  | minItems n => cases List.mem_singleton.mp hc; exact .minItems n

end FieldChecks

namespace Property

theorem plainChecks_shape {p : Property} (hne : p.plainChecks ≠ [])
    (h : p.type = .string → ∀ regex, p.pattern? = some regex → ∃ q, Pattern.compile regex = .ok q) :
    FieldChecks.Shape p.type p.plainChecks := by
  unfold plainChecks at hne ⊢
  cases ht : p.type with
  | string =>
    simp only [ht] at hne ⊢
    cases hb : (p.bounds .minLength .maxLength).isOpen <;> cases hp : p.pattern? with
    | none => simp_all [FieldChecks.Shape.length]
    | some regex =>
      obtain ⟨q, hq⟩ := h ht regex hp
      first
      | exact .lengthPattern hb hq
      | exact .pattern hq
  | integer =>
    simp only [ht] at hne ⊢
    cases hb : (p.bounds .minimum .maximum).isOpen with
    | true => simp [hb] at hne
    | false => exact .range hb
  | array =>
    simp only [ht] at hne ⊢
    cases hn : p.bound? .minItems with
    | none => simp [hn] at hne
    | some n => exact .minItems n
  | unsupported => simp [ht] at hne

/-- A field that a property gives has checks of the shape of its type. -/
theorem field?_shape {p : Property} {f : FieldChecks} (hc : p.Compiles) (hf : p.field? = some f) :
    FieldChecks.Shape f.type f.checks := by
  obtain ⟨hne, rfl⟩ := field?_eq_some.mp hf
  unfold usableChecks at hne ⊢
  cases hr : p.isReference with
  | true => simp [hr] at hne
  | false =>
    simp only [hr, Bool.false_eq_true, if_false] at hne ⊢
    exact plainChecks_shape hne (hc hr)

end Property

namespace Extraction

def IsPrintable (e : Extraction) : Prop :=
  ∀ schema ∈ e, ∀ f ∈ schema.2, ∀ c ∈ f.checks, c.isPrintable = true

instance (e : Extraction) : Decidable e.IsPrintable :=
  inferInstanceAs (Decidable (∀ schema ∈ e, ∀ f ∈ schema.2, ∀ c ∈ f.checks, c.isPrintable = true))

structure WellFormed (entries : List (String × Tree)) (e : Extraction) : Prop where
  nonempty : ∀ schema ∈ e, schema.2 ≠ []
  shape : ∀ schema ∈ e, ∀ f ∈ schema.2, FieldChecks.Shape f.type f.checks
  distinct : e.names.Nodup
  order : e.names.Sublist (entries.map Prod.fst)
  /-- A schema has the fields of a definition under its name, in the order of its properties. -/
  declared : ∀ schema ∈ e, ∃ node d properties, (schema.1, node) ∈ entries ∧
    Definition.ofTree? schema.1 node = some d ∧ d.fieldChecks = .ok schema.2 ∧
    node.get? "properties" = some (.map properties) ∧
    (schema.2.map FieldChecks.name).Sublist (properties.map Prod.fst)

theorem mem_entries {ds : List Definition} {schema : String × List FieldChecks}
    (h : schema ∈ ds.filterMap Definition.entry?) :
    ∃ d ∈ ds, d.fields ≠ [] ∧ schema = (d.name, d.fields) := by
  obtain ⟨d, hd, he⟩ := List.mem_filterMap.mp h
  unfold Definition.entry? at he
  split at he
  next => cases he
  next hne => exact ⟨d, hd, hne, (Option.some.inj he).symm⟩

theorem entries_names_sublist (ds : List Definition) :
    ((ds.filterMap Definition.entry?).map Prod.fst).Sublist (ds.map Definition.name) := by
  induction ds with
  | nil => simp
  | cons d rest ih =>
    by_cases hd : d.fields = []
    · simpa [Definition.entry?, hd] using ih.cons _
    · simpa [Definition.entry?, hd] using ih

theorem wellFormed_of_definitions {c : Collection} (hc : ∀ d ∈ c.definitions, d.Compiles) :
    WellFormed c.entries (ofList (c.definitions.filterMap Definition.entry?)) where
  nonempty := by
    intro schema hs
    obtain ⟨d, _, hne, rfl⟩ := mem_entries (mem_of_mem_ofList hs)
    exact hne
  shape := by
    intro schema hs f hf
    obtain ⟨d, hd, _, rfl⟩ := mem_entries (mem_of_mem_ofList hs)
    obtain ⟨p, hp, hpf⟩ := List.mem_filterMap.mp hf
    exact Property.field?_shape (hc d hd p hp) hpf
  distinct := ofList_names_nodup _
  order :=
    (ofList_names_sublist _).trans
      ((entries_names_sublist _).trans c.definitions_names_sublist)
  declared := by
    intro schema hs
    obtain ⟨d, hd, _, rfl⟩ := mem_entries (mem_of_mem_ofList hs)
    obtain ⟨s, hse, hds⟩ := Collection.mem_definitions.mp hd
    obtain ⟨_, properties, hp, _, hdef⟩ := Definition.ofTree?_eq_some.mp hds
    have hname : d.name = s.1 := by rw [hdef]
    have hnames : d.properties.map Property.name = properties.map Prod.fst := by
      rw [hdef, Definition.propertiesOf_names]
    refine ⟨s.2, d, properties, ?_, ?_, ?_, hp, ?_⟩
    · rw [hname]; exact hse
    · rw [hname]; exact hds
    · exact Definition.fieldChecks_eq_ok.mpr ⟨hc d hd, rfl⟩
    · rw [← hnames]; exact d.fields_names_sublist

theorem WellFormed.fits {entries : List (String × Tree)} {e : Extraction}
    (h : WellFormed entries e) : ∀ schema ∈ e, schema.2 ≠ [] ∧ ∀ f ∈ schema.2, f.Fits :=
  fun schema hs => ⟨h.nonempty schema hs, fun f hf => (h.shape schema hs f hf).fits⟩

end Extraction

/-! ### Verdicts without faults -/

theorem Check.breach_isPrintable {c : Check} {value : Datum} {v : Violation}
    (h : c.breach? value = some v) : v.isPrintable = c.isPrintable := by
  unfold breach? at h
  split at h
  all_goals
    first
    | cases h
    | (split at h <;> cases h
       rfl)

theorem FieldChecks.breaches_isPrintable {f : FieldChecks} {value : Datum} {v : Violation}
    (hp : ∀ c ∈ f.checks, c.isPrintable = true) (h : v ∈ f.breaches value) :
    v.isPrintable = true := by
  unfold breaches at h
  split at h
  next =>
    split at h
    next => cases h
    next => cases List.mem_singleton.mp h; rfl
  next =>
    split at h
    next =>
      obtain ⟨c, hc, hb⟩ := List.mem_filterMap.mp h
      rw [Check.breach_isPrintable hb]
      exact hp c hc
    next => cases List.mem_singleton.mp h; rfl

theorem Validator.rejections_isPrintable {fields : List FieldChecks} {subject : Datum}
    {r : Rejection} (hp : ∀ f ∈ fields, ∀ c ∈ f.checks, c.isPrintable = true)
    (h : r ∈ rejections fields subject) : r.isPrintable = true := by
  obtain ⟨f, hf, hr⟩ := List.mem_flatMap.mp h
  obtain ⟨v, hv, rfl⟩ := List.mem_map.mp hr
  exact FieldChecks.breaches_isPrintable (hp f hf) hv

/-- If all numbers have texts, a verdict is the first rejection and never a fault. -/
theorem Rejection.told_of_printable {rs : List Rejection} (h : ∀ r ∈ rs, r.isPrintable = true) :
    told rs.head? = .ok rs.head? := by
  cases rs with
  | nil => rfl
  | cons r rest => simp [told, h r List.mem_cons_self]

/-! ### Modules -/

def Check.IsRenderable (c : Check) : Prop := c.isPrintable = true ∧ c ≠ .unknown

instance (c : Check) : Decidable c.IsRenderable := inferInstanceAs (Decidable (_ ∧ _))

theorem Check.known_of_fits {t : BaseType} {c : Check} (h : Check.Fits t c) : c ≠ .unknown := by
  rintro rfl
  cases h

namespace ValidatorModule

section

variable {patterns : List String}

theorem guardsOf_cons (c : Check) (rest : List Check) :
    guardsOf patterns (c :: rest) =
      (guardOf patterns c).bind fun g => (guardsOf patterns rest).map (g :: ·) := by
  rw [guardsOf]
  cases guardOf patterns c <;> rfl

theorem blocksOf_cons (f : FieldChecks) (rest : List FieldChecks) :
    blocksOf patterns (f :: rest) =
      (blockOf patterns f).bind fun b => (blocksOf patterns rest).map (b :: ·) := by
  rw [blocksOf]
  cases blockOf patterns f <;> rfl

theorem functionsOf_cons (name schema : String) (f : FieldChecks) (more : List FieldChecks)
    (rest : List (String × String × List FieldChecks)) :
    functionsOf patterns ((name, schema, f :: more) :: rest) =
      (blocksOf patterns (f :: more)).bind fun blocks =>
        (functionsOf patterns rest).map (⟨name, schema, blocks⟩ :: ·) := by
  rw [functionsOf]
  · cases blocksOf patterns (f :: more) <;> rfl
  · intro h
    cases h

theorem guardsOf_eq_ok {cs : List Check} {gs : List Guard} (h : guardsOf patterns cs = .ok gs) :
    List.Forall₂ (fun c g => guardOf patterns c = .ok g) cs gs := by
  induction cs generalizing gs with
  | nil =>
    cases h
    exact .nil
  | cons c rest ih =>
    rw [guardsOf_cons] at h
    obtain ⟨g, hg, joined⟩ := exists_of_bind_eq_ok h
    obtain ⟨more, hmore, rfl⟩ := exists_of_map_eq_ok joined
    exact .cons hg (ih hmore)

/-- A check has a guard whatever the patterns are that have numbers. -/
theorem guardOf_renders {c : Check} : (∃ g, guardOf patterns c = .ok g) ↔ c.IsRenderable := by
  unfold guardOf Check.IsRenderable
  cases hp : c.isPrintable with
  | false => simp
  | true => cases c <;> simp

theorem guardsOf_renders {cs : List Check} :
    (∃ gs, guardsOf patterns cs = .ok gs) ↔ ∀ c ∈ cs, c.IsRenderable := by
  induction cs with
  | nil => simp [guardsOf]
  | cons c rest ih =>
    rw [guardsOf_cons, exists_ok_join, guardOf_renders, ih, List.forall_mem_cons]

theorem blocksOf_renders {fields : List FieldChecks} :
    (∃ bs, blocksOf patterns fields = .ok bs) ↔
      ∀ f ∈ fields, ∀ c ∈ f.checks, c.IsRenderable := by
  induction fields with
  | nil => simp [blocksOf]
  | cons f rest ih =>
    rw [blocksOf_cons, exists_ok_join, blockOf, exists_ok_map, guardsOf_renders, ih,
      List.forall_mem_cons]

/-- Functions are rendered unless one of their checks cannot be written. -/
theorem functionsOf_renders {named : List (String × String × List FieldChecks)} :
    (∃ fs, functionsOf patterns named = .ok fs) ↔
      ∀ n ∈ named, ∀ f ∈ n.2.2, ∀ c ∈ f.checks, c.IsRenderable := by
  induction named with
  | nil => simp [functionsOf]
  | cons n rest ih =>
    obtain ⟨name, schema, fields⟩ := n
    rw [List.forall_mem_cons, ← ih, ← @blocksOf_renders patterns]
    cases fields with
    | nil => simp [functionsOf, blocksOf]
    | cons f more => rw [functionsOf_cons, exists_ok_join]

end

/-- A module can be made of fitting fields whose numbers have texts. -/
theorem ofExtraction_of_fits {e : Extraction}
    (h : ∀ schema ∈ e, schema.2 ≠ [] ∧ ∀ f ∈ schema.2, f.Fits) (hp : e.IsPrintable)
    (doc : Option String) : ∃ m, ofExtraction e doc = .ok m := by
  refine exists_ok_map.mpr (functionsOf_renders.mpr ?_)
  intro n hn f hf c hc
  have hs := (List.of_mem_zip hn).2
  exact ⟨hp n.2 hs f hf c hc, Check.known_of_fits ((h n.2 hs).2 f hf c hc)⟩

end ValidatorModule

namespace Extraction

/-- Every extraction is well formed. Validators can be made of it, one for each name in order, and a
module if all numbers have texts; then no verdict is a fault. -/
theorem ofTree_well_formed {root : Tree} {path : Option String} {e : Extraction}
    (h : ofTree root path = .ok e) :
    ∃ c, Collection.ofTree root path = .ok c ∧ e.WellFormed c.entries ∧
      (∃ s, ValidatorSet.ofExtraction e = .ok s ∧ s.names = e.names ∧
        (e.IsPrintable → ∀ v ∈ s, ∀ subject, ∃ verdict, v.rejection? subject = .ok verdict)) ∧
      (e.IsPrintable → ∀ doc, ∃ m, ValidatorModule.ofExtraction e doc = .ok m) := by
  obtain ⟨c, hc, hcompiles, rfl⟩ := ofTree_eq_ok.mp h
  have hw := wellFormed_of_definitions hcompiles
  obtain ⟨s, hs, hj⟩ := ValidatorSet.ofExtraction_of_fits hw.fits
  refine ⟨c, hc, hw, ⟨s, hs, ValidatorSet.names_of_judges hj, ?_⟩, fun hp doc =>
    ValidatorModule.ofExtraction_of_fits hw.fits hp doc⟩
  intro hp v hv subject
  obtain ⟨schema, hschema, hjudges⟩ := exists_of_forall₂ hj hv
  refine ⟨_, (hjudges.2 subject).trans (Rejection.told_of_printable fun r hr => ?_)⟩
  exact Validator.rejections_isPrintable (hp schema hschema) hr

end Extraction

/-! ### A document with an object schema, and what is extracted from it -/

namespace Sample

def text (s : String) : Tree := .scalar (.text s)

def number (i : Int) : Tree := .scalar (.atom (.int i))

def tenantProperties : List (String × Tree) :=
  [("id", .map [("type", text "string"), ("minLength", number 3), ("maxLength", number 63),
      ("pattern", text "[a-z]+")]),
   ("seats", .map [("type", .seq [text "null", text "integer"]), ("minimum", number 1)]),
   ("owner", .map [("$ref", text "#/definitions/Note"), ("type", text "string"),
      ("minLength", number 1)])]

def tenantSchemas : List (String × Tree) :=
  [("Tenant", .map [("type", text "object"), ("required", .seq [text "id"]),
      ("properties", .map tenantProperties)]),
   ("Note", .map [("type", text "string")])]

def tenants : Tree := .map [("definitions", .map tenantSchemas)]

def tenantFields : List FieldChecks :=
  [⟨"id", .string, false, [.length ⟨some 3, some 63⟩, .pattern "[a-z]+"]⟩,
   ⟨"seats", .integer, true, [.range ⟨some 1, none⟩]⟩]

theorem tenants_extraction : Extraction.ofTree tenants none = .ok [("Tenant", tenantFields)] := by
  decide +kernel

theorem tenants_printable : Extraction.IsPrintable [("Tenant", tenantFields)] := by decide +kernel

end Sample

theorem tenants_well_formed :
    Extraction.ofTree Sample.tenants none = .ok [("Tenant", Sample.tenantFields)] ∧
      Extraction.IsPrintable [("Tenant", Sample.tenantFields)] ∧
      ∃ c, Collection.ofTree Sample.tenants none = .ok c ∧
        Extraction.WellFormed c.entries [("Tenant", Sample.tenantFields)] ∧
        (∃ s, ValidatorSet.ofExtraction [("Tenant", Sample.tenantFields)] = .ok s ∧
          s.names = ["Tenant"] ∧ ∀ v ∈ s, ∀ subject, ∃ verdict,
            v.rejection? subject = .ok verdict) ∧
        ∀ doc, ∃ m, ValidatorModule.ofExtraction [("Tenant", Sample.tenantFields)] doc = .ok m := by
  have hp := Sample.tenants_printable
  obtain ⟨c, hc, hw, ⟨s, hs, hn, hv⟩, hm⟩ := Extraction.ofTree_well_formed Sample.tenants_extraction
  exact ⟨Sample.tenants_extraction, hp, c, hc, hw, ⟨s, hs, hn, hv hp⟩, hm hp⟩

end SchemaChecks
