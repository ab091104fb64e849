import SchemaChecks.Proofs.Evaluation
import SchemaChecks.Proofs.ModuleText

/-!
Modules and validators agree. The function that a module has for a schema ends on every instance as
the validator of the schema says.
-/

namespace SchemaChecks

namespace Extraction

theorem mem_addAll {s : String} (known l : List String) :
    s ∈ l.foldl addOnce known ↔ s ∈ known ∨ s ∈ l := by
  induction l generalizing known with
  | nil => simp
  | cons first rest ih =>
    rw [List.foldl_cons, ih, addOnce]
    by_cases hf : first ∈ known
    · rw [if_pos hf, List.mem_cons]
      constructor
      · rintro (h | h)
        · exact .inl h
        · exact .inr (.inr h)
      · rintro (h | rfl | h)
        · exact .inl h
        · exact .inl hf
        · exact .inr h
    · rw [if_neg hf, List.mem_append, List.mem_singleton, List.mem_cons, or_assoc]

/-- Every pattern of a check is among the patterns of the module. -/
theorem mem_patterns {e : Extraction} {schema : String × List FieldChecks} {f : FieldChecks}
    {regex : String} (hs : schema ∈ e) (hf : f ∈ schema.2) (hc : .pattern regex ∈ f.checks) :
    regex ∈ e.patterns := by
  refine (mem_addAll [] e.patternList).mpr (.inr ?_)
  refine List.mem_flatMap.mpr ⟨schema, hs, List.mem_flatMap.mpr ⟨f, hf, ?_⟩⟩
  exact List.mem_filterMap.mpr ⟨.pattern regex, hc, rfl⟩

end Extraction

namespace Source

/-! ### Names -/

theorem lookup_of_mem {α : Type} {l : List (String × α)} {k : String} {v : α}
    (distinct : (l.map Prod.fst).Nodup) (h : (k, v) ∈ l) : l.lookup k = some v := by
  induction l with
  | nil => cases h
  | cons first rest ih =>
    obtain ⟨name, w⟩ := first
    obtain ⟨fresh, distinct⟩ := List.nodup_cons.mp distinct
    rcases List.mem_cons.mp h with same | later
    · cases same
      exact List.lookup_cons_self
    · have other : k ≠ name := by
        rintro rfl
        exact fresh (List.mem_map.mpr ⟨(k, v), later, rfl⟩)
      rw [List.lookup_cons, beq_false_of_ne other]
      exact ih distinct later

/-- Of bindings with distinct names each is the last one of its name. -/
theorem lookup_reverse_of_mem {α : Type} {l : List (String × α)} {k : String} {v : α}
    (distinct : (l.map Prod.fst).Nodup) (h : (k, v) ∈ l) : l.reverse.lookup k = some v := by
  refine lookup_of_mem ?_ (List.mem_reverse.mpr h)
  rw [List.map_reverse]
  exact List.nodup_reverse.mpr distinct

theorem mem_patternGlobals {patterns : List String} (i j : Nat) {regex : String}
    (h : patterns[j]? = some regex) :
    (patternName (i + j), .pattern regex) ∈ patternGlobals i patterns := by
  induction patterns generalizing i j with
  | nil => cases h
  | cons first rest ih =>
    cases j with
    | zero =>
      cases h
      exact List.mem_cons_self
    | succ j =>
      have later := ih (i + 1) j h
      rw [Nat.add_assoc, Nat.add_comm 1 j] at later
      exact List.mem_cons_of_mem _ later

theorem patternGlobals_names (i : Nat) (patterns : List String) :
    (patternGlobals i patterns).map Prod.fst =
      (List.range' i patterns.length).map patternName := by
  induction patterns generalizing i with
  | nil => rfl
  | cons first rest ih =>
    rw [patternGlobals, List.map_cons, ih, List.length_cons, List.range'_succ, List.map_cons]

theorem functionGlobals_names (fs : List ValidatorFunction) :
    (functionGlobals fs).map Prod.fst = fs.map ValidatorFunction.name := by
  simp [functionGlobals, Function.comp_def]

theorem patternName_ne_name {i : Nat} {s : String} (h : FunctionName.IsName s) :
    patternName i ≠ s := by
  rintro rfl
  obtain ⟨tail, ht, -⟩ := h
  rw [patternName_toList] at ht
  simp at ht

/-- No two bindings of a module have the same name. -/
theorem globals_distinct {m : ValidatorModule}
    (named : ∀ f ∈ m.functions, FunctionName.IsName f.name)
    (distinct : (m.functions.map ValidatorFunction.name).Nodup) :
    ((Script.ofModule m).globals.map Prod.fst).Nodup := by
  have patterns : ((patternGlobals 0 m.patterns).map Prod.fst).Nodup := by
    rw [patternGlobals_names]
    exact List.Nodup.map (fun _ _ h => patternName_injective h) List.nodup_range'
  rw [Script.ofModule, List.map_append]
  refine List.Nodup.append patterns ((functionGlobals_names _).symm ▸ distinct) ?_
  intro name hp hf
  rw [patternGlobals_names] at hp
  rw [functionGlobals_names] at hf
  obtain ⟨i, -, rfl⟩ := List.mem_map.mp hp
  obtain ⟨f, hf, same⟩ := List.mem_map.mp hf
  exact patternName_ne_name (named f hf) same.symm

/-! ### Functions -/

structure Renders (patterns : List String) (n : String × String × List FieldChecks)
    (f : ValidatorFunction) : Prop where
  name : f.name = n.1
  schema : f.schema = n.2.1
  blocks : List.Forall₂ (fun c b => ValidatorModule.blockOf patterns c = .ok b) n.2.2 f.blocks

theorem blocksOf_eq_ok {patterns : List String} {fields : List FieldChecks}
    {bs : List FieldBlock} (h : ValidatorModule.blocksOf patterns fields = .ok bs) :
    List.Forall₂ (fun c b => ValidatorModule.blockOf patterns c = .ok b) fields bs := by
  induction fields generalizing bs with
  | nil =>
    cases h
    exact .nil
  | cons f rest ih =>
    unfold ValidatorModule.blocksOf at h
    split at h
    · cases h
    · rename_i b hb
      obtain ⟨more, hmore, rfl⟩ := exists_of_map_eq_ok h
      exact .cons hb (ih hmore)

theorem functionsOf_eq_ok {patterns : List String}
    {named : List (String × String × List FieldChecks)} {fs : List ValidatorFunction}
    (nonempty : ∀ n ∈ named, n.2.2 ≠ [])
    (h : ValidatorModule.functionsOf patterns named = .ok fs) :
    List.Forall₂ (Renders patterns) named fs := by
  induction named generalizing fs with
  | nil =>
    cases h
    exact .nil
  | cons n rest ih =>
    obtain ⟨name, schema, fields⟩ := n
    obtain ⟨f, more, rfl⟩ := List.exists_cons_of_ne_nil (nonempty _ List.mem_cons_self)
    unfold ValidatorModule.functionsOf at h
    split at h
    · cases h
    · rename_i bs hbs
      obtain ⟨others, hothers, rfl⟩ := exists_of_map_eq_ok h
      have renders : Renders patterns (name, schema, f :: more) ⟨name, schema, bs⟩ :=
        ⟨rfl, rfl, blocksOf_eq_ok hbs⟩
      exact .cons renders (ih (fun n hn => nonempty n (List.mem_cons_of_mem _ hn)) hothers)

/-- The blocks of a field's checks are complete and decide them. -/
theorem blocks_decided {s : Script} {patterns : List String} (hs : HasPatterns s patterns)
    {fields : List FieldChecks} {bs : List FieldBlock}
    (shape : ∀ f ∈ fields, FieldChecks.Shape f.type f.checks)
    (known : ∀ f ∈ fields, ∀ regex, .pattern regex ∈ f.checks → regex ∈ patterns)
    (h : List.Forall₂ (fun c b => ValidatorModule.blockOf patterns c = .ok b) fields bs) :
    (∀ b ∈ bs, IsComplete b) ∧ List.Forall₂ (Decided s) fields bs := by
  induction h with
  | nil => exact ⟨by simp, .nil⟩
  | @cons f b fields bs rendered _ ih =>
    obtain ⟨complete, decided⟩ :=
      blockOf_decided hs (shape f List.mem_cons_self) (known f List.mem_cons_self) rendered
    obtain ⟨others, all⟩ := ih (fun f hf => shape f (List.mem_cons_of_mem _ hf))
      fun f hf => known f (List.mem_cons_of_mem _ hf)
    refine ⟨?_, .cons decided all⟩
    intro c hc
    rcases List.mem_cons.mp hc with rfl | hc
    · exact complete
    · exact others c hc

/-! ### Modules -/

variable {e : Extraction} {doc : Option String} {m : ValidatorModule}

theorem functions_rendered (nonempty : ∀ schema ∈ e, schema.2 ≠ [])
    (hm : ValidatorModule.ofExtraction e doc = .ok m) :
    m.patterns = e.patterns ∧
      List.Forall₂ (Renders e.patterns) ((FunctionName.assign e.names).zip e) m.functions := by
  obtain ⟨fs, hfs, rfl⟩ := exists_of_map_eq_ok hm
  refine ⟨rfl, functionsOf_eq_ok ?_ hfs⟩
  intro n hn
  exact nonempty n.2 (List.of_mem_zip hn).2

theorem zip_schemas (e : Extraction) : ((FunctionName.assign e.names).zip e).map Prod.snd = e := by
  have length := (FunctionName.assign_spec e.names).1
  rw [Extraction.names, List.length_map] at length
  exact List.map_snd_zip (Nat.le_of_eq length.symm)

theorem zip_names (e : Extraction) :
    ((FunctionName.assign e.names).zip e).map Prod.fst = FunctionName.assign e.names := by
  have length := (FunctionName.assign_spec e.names).1
  rw [Extraction.names, List.length_map] at length
  exact List.map_fst_zip (Nat.le_of_eq length)

/-- An extraction is rendered unless one of its checks cannot be written. No pattern of it is
without a number. -/
theorem ofExtraction_renders :
    (∃ m, ValidatorModule.ofExtraction e doc = .ok m) ↔
      ∀ schema ∈ e, ∀ f ∈ schema.2, ∀ c ∈ f.checks, c.IsRenderable := by
  rw [ValidatorModule.ofExtraction, exists_ok_map, ValidatorModule.functionsOf_renders]
  conv_rhs => rw [← zip_schemas e]
  simp only [List.forall_mem_map]

/-- The functions of a module in order: their names, and the schemas that they are for. -/
theorem functions_names
    (h : List.Forall₂ (Renders e.patterns) ((FunctionName.assign e.names).zip e) m.functions) :
    m.functions.map ValidatorFunction.name = FunctionName.assign e.names ∧
      m.functions.map ValidatorFunction.schema = e.names := by
  constructor
  · exact (map_eq_of_forall₂ h fun _ _ r => r.name).trans (zip_names e)
  · calc m.functions.map ValidatorFunction.schema
        = ((FunctionName.assign e.names).zip e).map fun n => n.2.1 :=
          map_eq_of_forall₂ h fun _ _ r => r.schema
      _ = (((FunctionName.assign e.names).zip e).map Prod.snd).map Prod.fst := by
          rw [List.map_map]
          rfl
      _ = e.names := by rw [zip_schemas, Extraction.names]

/-- What a module binds: distinct names to its patterns and functions, and its schemas to them. -/
structure IsBound (m : ValidatorModule) : Prop where
  named : ∀ f ∈ m.functions, FunctionName.IsName f.name
  names : (m.functions.map ValidatorFunction.name).Nodup
  schemas : (m.functions.map ValidatorFunction.schema).Nodup

theorem isBound_of_rendered (distinct : e.names.Nodup)
    (h : List.Forall₂ (Renders e.patterns) ((FunctionName.assign e.names).zip e) m.functions) :
    IsBound m := by
  obtain ⟨names, schemas⟩ := functions_names h
  obtain ⟨-, distinctNames, isName⟩ := FunctionName.assign_spec e.names
  refine ⟨?_, names.symm ▸ distinctNames, schemas.symm ▸ distinct⟩
  intro f hf
  exact isName f.name (names ▸ List.mem_map_of_mem hf)

theorem hasPatterns_of_bound (h : IsBound m) : HasPatterns (.ofModule m) m.patterns := by
  intro i regex hi
  refine lookup_reverse_of_mem (globals_distinct h.named h.names) ?_
  have here := mem_patternGlobals 0 i hi
  rw [Nat.zero_add] at here
  exact List.mem_append_left _ here

/-- What is rendered from a well-formed extraction can be read. -/
theorem read?_of_rendered {entries : List (String × Tree)} (hw : e.WellFormed entries)
    (patterns : m.patterns = e.patterns)
    (rendered : List.Forall₂ (Renders e.patterns) ((FunctionName.assign e.names).zip e)
      m.functions) : read? m.text = some (.ofModule m) := by
  have bound := isBound_of_rendered hw.distinct rendered
  have hs := patterns ▸ hasPatterns_of_bound bound
  refine read?_text fun f hf => ⟨bound.named f hf, ?_⟩
  obtain ⟨n, hn, renders⟩ := exists_of_forall₂ rendered.flip hf
  have schema := (List.of_mem_zip hn).2
  have known : ∀ field ∈ n.2.2, ∀ regex, .pattern regex ∈ field.checks → regex ∈ e.patterns :=
    fun _ hfield _ hc => Extraction.mem_patterns schema hfield hc
  exact (blocks_decided hs (hw.shape n.2 schema) known renders.blocks).1

/-- A call for a schema runs the body of the function that was rendered for it. -/
theorem call_of_bound (h : IsBound m) {f : ValidatorFunction} (hf : f ∈ m.functions)
    {subject : Datum} {e : Ending}
    (runs : (Script.ofModule m).run subject none (bodyBlock f) = .ended e) :
    (Script.ofModule m).call f.schema subject = some e := by
  have row : (Script.ofModule m).table.reverse.lookup f.schema = some f.name := by
    refine lookup_reverse_of_mem ?_ (List.mem_map.mpr ⟨f, hf, rfl⟩)
    simpa [Script.ofModule, Function.comp_def] using h.schemas
  have bound : (Script.ofModule m).global? f.name = some (.function (bodyBlock f)) := by
    refine lookup_reverse_of_mem (globals_distinct h.named h.names) ?_
    exact List.mem_append_right _ (List.mem_map.mpr ⟨f, hf, rfl⟩)
  simp only [Script.call, row, bound, runs]

end Source

open Source

/-- The source that is generated for an extraction and its validators are the same on every schema
and instance: the text reads back as a script with one function for each schema, and a call of it
returns the instance or raises the field and the text of the violation as the validator does. -/
theorem Extraction.source_agrees_with_validators {root : Tree} {path : Option String}
    {e : Extraction} (h : ofTree root path = .ok e) (printable : e.IsPrintable)
    (doc : Option String) :
    ∃ m script, ValidatorModule.ofExtraction e doc = .ok m ∧ read? m.text = some script ∧
      script.table.map Prod.fst = e.names ∧
      ∀ schema ∈ e, ∃ v, Validator.ofFields schema.1 schema.2 = .ok v ∧
        ∀ subject, ∃ verdict, v.rejection? subject = .ok verdict ∧
          script.call schema.1 subject = some (.ofVerdict verdict) := by
  obtain ⟨c, -, hw, -, modules⟩ := ofTree_well_formed h
  obtain ⟨m, hm⟩ := modules printable doc
  obtain ⟨patterns, rendered⟩ := functions_rendered hw.nonempty hm
  have bound := isBound_of_rendered hw.distinct rendered
  have hs : HasPatterns (.ofModule m) e.patterns := patterns ▸ hasPatterns_of_bound bound
  have decided : ∀ schema ∈ e, ∀ bs,
      List.Forall₂ (fun c b => ValidatorModule.blockOf e.patterns c = .ok b) schema.2 bs →
        (∀ b ∈ bs, IsComplete b) ∧ List.Forall₂ (Decided (.ofModule m)) schema.2 bs := by
    intro schema hschema bs hbs
    exact blocks_decided hs (hw.shape schema hschema)
      (fun f hf regex hc => mem_patterns hschema hf hc) hbs
  have complete : AreComplete m.functions := by
    intro f hf
    obtain ⟨n, hn, r⟩ := exists_of_forall₂ rendered.flip hf
    exact ⟨bound.named f hf, (decided n.2 (List.of_mem_zip hn).2 f.blocks r.blocks).1⟩
  refine ⟨m, .ofModule m, hm, read?_text complete, ?_, ?_⟩
  · rw [← (functions_names rendered).2, Script.ofModule, List.map_map]
    rfl
  intro schema hschema
  obtain ⟨v, hv, judges⟩ := Validator.ofFields_of_fits schema.1 (hw.fits schema hschema).2
  refine ⟨v, hv, fun subject => ?_⟩
  have told : Rejection.told (Validator.rejections schema.2 subject).head? = .ok _ :=
    Rejection.told_of_printable fun r hr =>
      Validator.rejections_isPrintable (printable schema hschema) hr
  refine ⟨_, (judges.2 subject).trans told, ?_⟩
  obtain ⟨n, hn, rfl⟩ := List.mem_map.mp ((zip_schemas e).symm ▸ hschema)
  obtain ⟨f, hf, r⟩ := exists_of_forall₂ rendered hn
  rw [← r.schema]
  exact call_of_bound bound hf (run_body (decided n.2 hschema f.blocks r.blocks).2 subject)

/-- A module for the tenants of the sample reads back, and its function agrees on all instances. -/
theorem tenants_source_agrees :
    Extraction.ofTree Sample.tenants none = .ok [("Tenant", Sample.tenantFields)] ∧
      Extraction.IsPrintable [("Tenant", Sample.tenantFields)] ∧
      ∃ m script, ValidatorModule.ofExtraction [("Tenant", Sample.tenantFields)] none = .ok m ∧
        read? m.text = some script ∧ script.table.map Prod.fst = ["Tenant"] ∧
        ∃ v, Validator.ofFields "Tenant" Sample.tenantFields = .ok v ∧
          ∀ subject, ∃ verdict, v.rejection? subject = .ok verdict ∧
            script.call "Tenant" subject = some (.ofVerdict verdict) := by
  have hp := Sample.tenants_printable
  obtain ⟨m, script, hm, read, table, agree⟩ :=
    Extraction.source_agrees_with_validators Sample.tenants_extraction hp none
  exact ⟨Sample.tenants_extraction, hp, m, script, hm, read, table,
    agree ("Tenant", Sample.tenantFields) List.mem_cons_self⟩

end SchemaChecks
