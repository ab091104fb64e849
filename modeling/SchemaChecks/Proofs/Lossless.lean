import SchemaChecks.Proofs.Agreement

/-!
A rendered module loses nothing. Its text reads back as a script, and a script tells what it was
rendered from: the table has the names of the schemas, and the bodies of the functions have the
fields with their checks.
-/

namespace SchemaChecks

theorem eq_of_forall₂ {α β : Type} {R : α → β → Prop} {S : β → β → Prop} {as as' : List α}
    {bs bs' : List β} (h : List.Forall₂ R as bs) (h' : List.Forall₂ R as' bs')
    (same : List.Forall₂ S bs bs') (tells : ∀ a a' b b', R a b → R a' b' → S b b' → a = a') :
    as = as' := by
  induction same generalizing as as' with
  | nil =>
    cases h
    cases h'
    rfl
  | cons first _ ih =>
    obtain _ | ⟨r, rs⟩ := h
    obtain _ | ⟨r', rs'⟩ := h'
    rw [tells _ _ _ _ r r' first, ih rs rs']

namespace Source

/-! ### What statements tell -/

def Block.IsBranch : Block → Prop
  | .branch _ _ _ => True
  | _ => False

def SameTest (g h : Guard) : Prop := Test.ofCondition g.condition = Test.ofCondition h.condition

structure SameBlock (b c : FieldBlock) : Prop where
  field : b.field = c.field
  nullable : b.nullable = c.nullable
  guards : List.Forall₂ SameTest b.guards c.guards

/-- The guards of a field end where no test follows. -/
theorem sameTests_of_guardsBlock {field field' : String} {gs hs : List Guard} {r s : Block}
    (ends : ¬ r.IsBranch) (ends' : ¬ s.IsBranch)
    (same : guardsBlock field gs r = guardsBlock field' hs s) :
    List.Forall₂ SameTest gs hs ∧ r = s := by
  induction gs generalizing hs with
  | nil =>
    cases hs with
    | nil => exact ⟨.nil, same⟩
    | cons h hs =>
      obtain rfl : r = _ := same
      exact absurd trivial ends
  | cons g gs ih =>
    cases hs with
    | nil =>
      obtain rfl : _ = s := same
      exact absurd trivial ends'
    | cons h hs =>
      obtain ⟨test, -, rest⟩ := Block.branch.inj same
      obtain ⟨tests, behind⟩ := ih rest
      exact ⟨.cons test tests, behind⟩

theorem sameBlock_of_fieldBlock {b c : FieldBlock} {r s : Block} (ends : ¬ r.IsBranch)
    (ends' : ¬ s.IsBranch) (same : fieldBlock b r = fieldBlock c s) : SameBlock b c ∧ r = s := by
  obtain ⟨field, body⟩ := Block.read.inj same
  -- a field that may be null has its guards inside of a test, and one that may not behind one
  cases hb : b.nullable <;> cases hc : c.nullable
  · simp only [hb, hc, Bool.false_eq_true, if_false] at body
    obtain ⟨-, -, guards⟩ := Block.branch.inj body
    obtain ⟨tests, behind⟩ := sameTests_of_guardsBlock ends ends' guards
    exact ⟨⟨field, hb.trans hc.symm, tests⟩, behind⟩
  · simp [hb, hc] at body
  · simp [hb, hc] at body
  · simp only [hb, hc, if_true] at body
    obtain ⟨-, guards, behind⟩ := Block.branch.inj body
    obtain ⟨tests, -⟩ := sameTests_of_guardsBlock id id guards
    exact ⟨⟨field, hb.trans hc.symm, tests⟩, behind⟩

theorem foldr_fieldBlock_isBranch (bs : List FieldBlock) :
    ¬ (bs.foldr fieldBlock (.returnSubject .done)).IsBranch := by
  cases bs <;> exact id

/-- The blocks of a function are read off its body. -/
theorem sameBlocks_of_bodyBlock {f g : ValidatorFunction} (same : bodyBlock f = bodyBlock g) :
    List.Forall₂ SameBlock f.blocks g.blocks := by
  have blocks : ∀ {bs cs : List FieldBlock}, bs.foldr fieldBlock (.returnSubject .done) =
      cs.foldr fieldBlock (.returnSubject .done) → List.Forall₂ SameBlock bs cs := by
    intro bs
    induction bs with
    | nil =>
      intro cs same
      cases cs with
      | nil => exact .nil
      | cons c cs => cases same
    | cons b bs ih =>
      intro cs same
      cases cs with
      | nil => cases same
      | cons c cs =>
        obtain ⟨first, behind⟩ := sameBlock_of_fieldBlock (foldr_fieldBlock_isBranch bs)
          (foldr_fieldBlock_isBranch cs) same
        exact .cons first (ih behind)
  exact blocks (Block.remark.inj same)

/-! ### What guards tell -/

theorem wrongType_injective {t u : BaseType}
    (same : Test.ofCondition (.wrongType t) = Test.ofCondition (.wrongType u)) : t = u := by
  cases t <;> cases u <;> first | rfl | cases same

/-- Bounds are told by the test of a measure that is out of them. -/
theorem bounds_injective {b c : Bounds} {m : Measure} (hb : b.isOpen = false)
    (hc : c.isOpen = false)
    (same : Test.ofCondition (b.condition m) = Test.ofCondition (c.condition m)) : b = c := by
  obtain ⟨least, most⟩ := b
  obtain ⟨least', most'⟩ := c
  cases least <;> cases most <;> cases least' <;> cases most' <;>
    simp_all [Bounds.condition, Test.ofCondition, Bounds.isOpen]

theorem bounds_ne_noMatch (b : Bounds) (m : Measure) (i : Nat) :
    Test.ofCondition (b.condition m) ≠ Test.ofCondition (.noMatch i) := by
  obtain ⟨least, most⟩ := b
  cases least <;> cases most <;> exact Test.noConfusion

structure GuardFor (patterns : List String) (t : BaseType) (c : Check) (g : Guard) : Prop where
  fits : Check.Fits t c
  closed : c.IsClosed
  known : ∀ regex, c = .pattern regex → regex ∈ patterns
  guard : ValidatorModule.guardOf patterns c = .ok g

/-- The test of a guard tells the check among those that fit the type of the field. -/
theorem check_of_sameTest {patterns : List String} {t : BaseType} {c d : Check} {g h : Guard}
    (hc : GuardFor patterns t c g) (hd : GuardFor patterns t d h) (same : SameTest g h) :
    c = d := by
  obtain ⟨fits, closed, known, hg⟩ := hc
  obtain ⟨fits', closed', known', hh⟩ := hd
  unfold ValidatorModule.guardOf at hg hh
  split at hg
  · cases hg
  split at hh
  · cases hh
  cases fits with
  | length b =>
    cases hg
    cases fits' with
    | length b' =>
      cases hh
      exact congrArg Check.length (bounds_injective closed closed' same)
    | pattern _ =>
      cases hh
      exact absurd same (bounds_ne_noMatch _ _ _)
  | pattern _ =>
    cases hg
    cases fits' with
    | length b' =>
      cases hh
      exact absurd same.symm (bounds_ne_noMatch _ _ _)
    | pattern _ =>
      cases hh
      have number := patternName_injective (Test.noMatch.inj same)
      exact congrArg Check.pattern ((List.idxOf_inj (known _ rfl)).mp number)
  | range b =>
    cases hg
    cases fits' with
    | range b' =>
      cases hh
      exact congrArg Check.range (bounds_injective closed closed' same)
  | minItems n =>
    cases hg
    cases fits' with
    | minItems n' =>
      cases hh
      exact congrArg Check.minItems (Test.below.inj same).2

/-! ### What blocks and functions tell -/

structure BlockFor (patterns : List String) (f : FieldChecks) (b : FieldBlock) : Prop where
  shape : FieldChecks.Shape f.type f.checks
  known : ∀ regex, .pattern regex ∈ f.checks → regex ∈ patterns
  block : ValidatorModule.blockOf patterns f = .ok b

theorem guardsFor_of_guardsOf {patterns : List String} {t : BaseType} {cs : List Check}
    {gs : List Guard}
    (fits : ∀ c ∈ cs, Check.Fits t c ∧ c.IsClosed ∧
      ∀ regex, c = .pattern regex → regex ∈ patterns)
    (h : ValidatorModule.guardsOf patterns cs = .ok gs) :
    List.Forall₂ (GuardFor patterns t) cs gs := by
  have rendered := ValidatorModule.guardsOf_eq_ok h
  refine ((List.forall₂_and_left _ _).mpr ⟨fits, rendered⟩).imp ?_
  rintro c g ⟨⟨fit, closed, known⟩, hg⟩
  exact ⟨fit, closed, known, hg⟩

/-- The guards of a block: one of the type, and one for each check. -/
theorem BlockFor.guards {patterns : List String} {f : FieldChecks} {b : FieldBlock}
    (h : BlockFor patterns f b) :
    b.field = f.name ∧ b.nullable = f.nullable ∧
      ∃ gs, b.guards = ⟨.wrongType f.type, .wrongType f.type⟩ :: gs ∧
        List.Forall₂ (GuardFor patterns f.type) f.checks gs := by
  obtain ⟨gs, hgs, rfl⟩ := exists_of_map_eq_ok h.block
  refine ⟨rfl, rfl, gs, ?_, guardsFor_of_guardsOf ?_ hgs⟩
  · rw [typeGuard_of_supported h.shape.supported]
    rfl
  · intro c hc
    exact ⟨h.shape.fits c hc, h.shape.closed c hc, fun regex he => h.known regex (he ▸ hc)⟩

/-- A block tells its field. -/
theorem field_of_sameBlock {patterns : List String} {f g : FieldChecks} {b c : FieldBlock}
    (hf : BlockFor patterns f b) (hg : BlockFor patterns g c) (same : SameBlock b c) : f = g := by
  obtain ⟨name, nullable, gs, guards, tested⟩ := hf.guards
  obtain ⟨name', nullable', gs', guards', tested'⟩ := hg.guards
  have tests := same.guards
  rw [guards, guards'] at tests
  obtain _ | ⟨first, rest⟩ := tests
  have type := wrongType_injective first
  have checks : f.checks = g.checks :=
    eq_of_forall₂ tested (type ▸ tested') rest fun _ _ _ _ => check_of_sameTest
  have names : f.name = g.name := name.symm.trans (same.field.trans name')
  have nulls : f.nullable = g.nullable := nullable.symm.trans (same.nullable.trans nullable')
  cases f
  cases g
  simp_all

structure FunctionFor (patterns : List String) (schema : String × List FieldChecks)
    (f : ValidatorFunction) : Prop where
  name : f.schema = schema.1
  blocks : List.Forall₂ (BlockFor patterns) schema.2 f.blocks

structure SameFunction (f g : ValidatorFunction) : Prop where
  schema : f.schema = g.schema
  body : bodyBlock f = bodyBlock g

/-- A function tells its schema. -/
theorem schema_of_sameFunction {patterns : List String} {s t : String × List FieldChecks}
    {f g : ValidatorFunction} (hf : FunctionFor patterns s f) (hg : FunctionFor patterns t g)
    (same : SameFunction f g) : s = t := by
  have names : s.1 = t.1 := hf.name.symm.trans (same.schema.trans hg.name)
  have fields : s.2 = t.2 := eq_of_forall₂ hf.blocks hg.blocks (sameBlocks_of_bodyBlock same.body)
    fun _ _ _ _ => field_of_sameBlock
  exact Prod.ext names fields

/-! ### What a module tells -/

/-- The patterns of a module are bound before its functions. -/
theorem patterns_of_globals {i : Nat} {ps qs : List String} {fs gs : List ValidatorFunction}
    (same : patternGlobals i ps ++ functionGlobals fs =
      patternGlobals i qs ++ functionGlobals gs) :
    ps = qs ∧ functionGlobals fs = functionGlobals gs := by
  induction ps generalizing i qs with
  | nil =>
    cases qs with
    | nil => exact ⟨rfl, same⟩
    | cons q qs => cases fs <;> simp [patternGlobals, functionGlobals] at same
  | cons p ps ih =>
    cases qs with
    | nil => cases gs <;> simp [patternGlobals, functionGlobals] at same
    | cons q qs =>
      obtain ⟨first, rest⟩ := List.cons.inj same
      obtain ⟨patterns, functions⟩ := ih rest
      exact ⟨by rw [Global.pattern.inj (Prod.ext_iff.mp first).2, patterns], functions⟩

theorem sameFunctions_of_table {fs gs : List ValidatorFunction}
    (globals : functionGlobals fs = functionGlobals gs)
    (table : fs.map (fun f => (f.schema, f.name)) = gs.map fun f => (f.schema, f.name)) :
    List.Forall₂ SameFunction fs gs := by
  induction fs generalizing gs with
  | nil =>
    cases gs with
    | nil => exact .nil
    | cons g gs => cases table
  | cons f fs ih =>
    cases gs with
    | nil => cases table
    | cons g gs =>
      obtain ⟨row, rows⟩ := List.cons.inj table
      obtain ⟨binding, bindings⟩ := List.cons.inj globals
      have schema := (Prod.ext_iff.mp row).1
      have body := Global.function.inj (Prod.ext_iff.mp binding).2
      exact .cons ⟨schema, body⟩ (ih bindings rows)

theorem functionsFor_of_rendered {entries : List (String × Tree)} {e : Extraction}
    {fs : List ValidatorFunction} (hw : e.WellFormed entries)
    (rendered : List.Forall₂ (Renders e.patterns) ((FunctionName.assign e.names).zip e) fs) :
    List.Forall₂ (FunctionFor e.patterns) e fs := by
  have known : ∀ n ∈ (FunctionName.assign e.names).zip e, ∀ f ∈ n.2.2,
      FieldChecks.Shape f.type f.checks ∧
        ∀ regex, .pattern regex ∈ f.checks → regex ∈ e.patterns := by
    intro n hn f hf
    have schema := (List.of_mem_zip hn).2
    exact ⟨hw.shape n.2 schema f hf, fun regex hc => Extraction.mem_patterns schema hf hc⟩
  have functions : List.Forall₂ (fun n f => FunctionFor e.patterns n.2 f)
      ((FunctionName.assign e.names).zip e) fs := by
    refine ((List.forall₂_and_left _ _).mpr ⟨known, rendered⟩).imp ?_
    rintro n f ⟨known, renders⟩
    refine ⟨renders.schema, ((List.forall₂_and_left _ _).mpr ⟨known, renders.blocks⟩).imp ?_⟩
    rintro field b ⟨⟨shape, known⟩, block⟩
    exact ⟨shape, known, block⟩
  have schemas := List.forall₂_map_left_iff.mpr functions
  rwa [zip_schemas] at schemas

/-- What is rendered from an extraction reads back as the script of a module that has a function for
each schema, in order. -/
theorem script_of_extraction {root : Tree} {path : Option String} {e : Extraction}
    {doc : Option String} {m : ValidatorModule} (h : Extraction.ofTree root path = .ok e)
    (hm : ValidatorModule.ofExtraction e doc = .ok m) :
    read? m.text = some (.ofModule m) ∧ List.Forall₂ (FunctionFor m.patterns) e m.functions := by
  obtain ⟨c, -, hcompiles, rfl⟩ := Extraction.ofTree_eq_ok.mp h
  have hw := Extraction.wellFormed_of_definitions hcompiles
  obtain ⟨patterns, rendered⟩ := functions_rendered hw.nonempty hm
  exact ⟨read?_of_rendered hw patterns rendered, patterns ▸ functionsFor_of_rendered hw rendered⟩

/-- Scripts of one text are those of modules with the same patterns and functions. -/
theorem same_of_script {m n : ValidatorModule} (same : Script.ofModule m = Script.ofModule n) :
    m.patterns = n.patterns ∧ List.Forall₂ SameFunction m.functions n.functions := by
  obtain ⟨globals, table⟩ := Script.mk.inj same
  obtain ⟨patterns, functions⟩ := patterns_of_globals globals
  exact ⟨patterns, sameFunctions_of_table functions table⟩

end Source

open Source

/-- A rendered module loses nothing: extractions whose modules have one text have the same schemas
in the same order, and under each name the same fields in order, with their types and checks.
Modules exist if all numbers have texts, whatever their documentation is. -/
theorem Extraction.eq_of_text {root root' : Tree} {path path' : Option String}
    {e e' : Extraction} (h : ofTree root path = .ok e) (h' : ofTree root' path' = .ok e')
    (printable : e.IsPrintable) (printable' : e'.IsPrintable) (doc doc' : Option String) :
    ∃ m m', ValidatorModule.ofExtraction e doc = .ok m ∧
      ValidatorModule.ofExtraction e' doc' = .ok m' ∧ (m.text = m'.text → e = e') := by
  have exists_module : ∀ {root : Tree} {path : Option String} {e : Extraction},
      ofTree root path = .ok e → e.IsPrintable → ∀ doc, ∃ m,
        ValidatorModule.ofExtraction e doc = .ok m := by
    intro root path e h printable doc
    obtain ⟨c, -, hcompiles, rfl⟩ := ofTree_eq_ok.mp h
    exact ValidatorModule.ofExtraction_of_fits (wellFormed_of_definitions hcompiles).fits
      printable doc
  obtain ⟨m, hm⟩ := exists_module h printable doc
  obtain ⟨m', hm'⟩ := exists_module h' printable' doc'
  refine ⟨m, m', hm, hm', fun text => ?_⟩
  obtain ⟨read, functions⟩ := script_of_extraction h hm
  obtain ⟨read', functions'⟩ := script_of_extraction h' hm'
  rw [text, read'] at read
  obtain ⟨patterns, same⟩ := same_of_script (Option.some.inj read.symm)
  rw [← patterns] at functions'
  exact eq_of_forall₂ functions functions' same fun _ _ _ _ => schema_of_sameFunction

namespace Sample

def looseTenants : Tree :=
  .map [("definitions", .map [("Tenant", .map [("type", text "object"),
    ("properties", .map tenantProperties)])])]

def looseTenantFields : List FieldChecks :=
  tenantFields.map fun f => { f with nullable := true }

theorem looseTenants_extraction :
    Extraction.ofTree looseTenants none = .ok [("Tenant", looseTenantFields)] := by
  decide +kernel

theorem looseTenants_printable : Extraction.IsPrintable [("Tenant", looseTenantFields)] := by
  decide +kernel

end Sample

/-- Where only a null is allowed besides, the texts differ. -/
theorem Extraction.loose_tenants_told_apart :
    ofTree Sample.tenants none = .ok [("Tenant", Sample.tenantFields)] ∧
      ofTree Sample.looseTenants none = .ok [("Tenant", Sample.looseTenantFields)] ∧
      IsPrintable [("Tenant", Sample.tenantFields)] ∧
      IsPrintable [("Tenant", Sample.looseTenantFields)] ∧
      ∃ m m', ValidatorModule.ofExtraction [("Tenant", Sample.tenantFields)] none = .ok m ∧
        ValidatorModule.ofExtraction [("Tenant", Sample.looseTenantFields)] none = .ok m' ∧
        m.text ≠ m'.text := by
  have hp := Sample.tenants_printable
  have hp' := Sample.looseTenants_printable
  obtain ⟨m, m', hm, hm', same⟩ := Extraction.eq_of_text Sample.tenants_extraction
    Sample.looseTenants_extraction hp hp' none none
  have differ : [("Tenant", Sample.tenantFields)] ≠ [("Tenant", Sample.looseTenantFields)] := by
    decide
  exact ⟨Sample.tenants_extraction, Sample.looseTenants_extraction, hp, hp', m, m', hm, hm',
    fun text => differ (same text)⟩

end SchemaChecks
