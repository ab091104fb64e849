import SchemaChecks.Proofs.Agreement

/-!
Schemas put behind others. Their names and patterns come behind those that are there, so that the
module of the longer extraction has the patterns, the functions and the rows of the shorter one at
the front of its own, letter for letter.
-/

namespace SchemaChecks

namespace Extraction

theorem prefix_addAll (known l : List String) : known <+: l.foldl addOnce known := by
  induction l generalizing known with
  | nil => exact List.prefix_rfl
  | cons s rest ih =>
    refine List.IsPrefix.trans ?_ (ih (addOnce known s))
    unfold addOnce
    split
    · exact List.prefix_rfl
    · exact List.prefix_append known [s]

theorem patternList_append (e more : Extraction) :
    patternList (e ++ more) = e.patternList ++ patternList more := List.flatMap_append

theorem names_append (e more : Extraction) : names (e ++ more) = e.names ++ names more :=
  List.map_append

/-- The patterns of schemas that come later are put behind. -/
theorem patterns_prefix (e more : Extraction) : e.patterns <+: patterns (e ++ more) := by
  rw [patterns, patterns, patternList_append, List.foldl_append]
  exact prefix_addAll _ _

end Extraction

namespace ValidatorModule

section

variable {ps qs : List String}

/-- A pattern keeps its number among more patterns, and a check its guard. -/
theorem guardOf_of_prefix (h : ps <+: qs) {c : Check}
    (known : ∀ regex, .pattern regex = c → regex ∈ ps) : guardOf qs c = guardOf ps c := by
  obtain ⟨more, rfl⟩ := h
  cases c with
  | pattern regex => simp only [guardOf, List.idxOf_append_of_mem (known regex rfl)]
  | _ => rfl

theorem guardsOf_of_prefix (h : ps <+: qs) {checks : List Check}
    (known : ∀ regex, .pattern regex ∈ checks → regex ∈ ps) :
    guardsOf qs checks = guardsOf ps checks := by
  induction checks with
  | nil => rfl
  | cons c rest ih =>
    have first : guardOf qs c = guardOf ps c :=
      guardOf_of_prefix h fun regex same => known regex (same ▸ List.mem_cons_self)
    have others := ih fun regex hr => known regex (List.mem_cons_of_mem _ hr)
    rw [guardsOf, guardsOf, first, others]

theorem blocksOf_of_prefix (h : ps <+: qs) {fields : List FieldChecks}
    (known : ∀ f ∈ fields, ∀ regex, .pattern regex ∈ f.checks → regex ∈ ps) :
    blocksOf qs fields = blocksOf ps fields := by
  induction fields with
  | nil => rfl
  | cons f rest ih =>
    have first : blockOf qs f = blockOf ps f := by
      rw [blockOf, blockOf, guardsOf_of_prefix h (known f List.mem_cons_self)]
    have others := ih fun f hf => known f (List.mem_cons_of_mem _ hf)
    rw [blocksOf, blocksOf, first, others]

/-- Functions whose patterns are known do not depend on patterns behind them. -/
theorem functionsOf_of_prefix (h : ps <+: qs) {named : List (String × String × List FieldChecks)}
    (known : ∀ n ∈ named, ∀ f ∈ n.2.2, ∀ regex, .pattern regex ∈ f.checks → regex ∈ ps) :
    functionsOf qs named = functionsOf ps named := by
  induction named with
  | nil => rfl
  | cons n rest ih =>
    obtain ⟨name, schema, fields⟩ := n
    have others := ih fun n hn => known n (List.mem_cons_of_mem _ hn)
    cases fields with
    | nil => exact others
    | cons f more =>
      have first := blocksOf_of_prefix h (known _ List.mem_cons_self)
      simp only [functionsOf, first, others]

theorem functionsOf_append (ps : List String) (xs ys : List (String × String × List FieldChecks)) :
    functionsOf ps (xs ++ ys) =
      (functionsOf ps xs).bind fun fs => (functionsOf ps ys).map (fs ++ ·) := by
  induction xs with
  | nil =>
    rw [List.nil_append]
    change functionsOf ps ys = (functionsOf ps ys).map ([] ++ ·)
    cases functionsOf ps ys <;> rfl
  | cons n rest ih =>
    obtain ⟨name, schema, fields⟩ := n
    cases fields with
    | nil => exact ih
    | cons f more =>
      simp only [List.cons_append, functionsOf, ih]
      cases blocksOf ps (f :: more) with
      | error e => rfl
      | ok blocks =>
        cases functionsOf ps rest with
        | error e => rfl
        | ok fs => cases functionsOf ps ys <;> rfl

end

/-- The module of an extraction with more schemas is that of the first schemas with more patterns
and functions; if those cannot be rendered, neither can the whole. -/
theorem ofExtraction_append (e more : Extraction) (doc : Option String) :
    ofExtraction (e ++ more) doc = (ofExtraction e doc).bind fun m =>
      (functionsOf (Extraction.patterns (e ++ more))
        ((FunctionName.assignAfter (FunctionName.assign e.names) (Extraction.names more)).zip
          more)).map
          fun fs => ⟨m.doc, Extraction.patterns (e ++ more), m.functions ++ fs⟩ := by
  have length : (FunctionName.assign e.names).length = e.length := by
    rw [(FunctionName.assign_spec e.names).1, Extraction.names, List.length_map]
  have known : ∀ n ∈ (FunctionName.assign e.names).zip e, ∀ f ∈ n.2.2, ∀ regex,
      .pattern regex ∈ f.checks → regex ∈ e.patterns :=
    fun n hn f hf regex hr => Extraction.mem_patterns (List.of_mem_zip hn).2 hf hr
  simp only [ofExtraction]
  rw [Extraction.names_append, FunctionName.assign_append, List.zip_append length,
    functionsOf_append, functionsOf_of_prefix (Extraction.patterns_prefix e more) known]
  cases functionsOf e.patterns ((FunctionName.assign e.names).zip e) with
  | error f => rfl
  | ok fs =>
    generalize functionsOf (Extraction.patterns (e ++ more)) _ = later
    cases later <;> rfl

/-! ### Sections of a module's text -/

theorem patternLinesFrom_append (i : Nat) (ps qs : List String) :
    patternLinesFrom i (ps ++ qs) =
      patternLinesFrom i ps ++ patternLinesFrom (i + ps.length) qs := by
  induction ps generalizing i with
  | nil => rfl
  | cons regex rest ih =>
    rw [List.cons_append, patternLinesFrom, patternLinesFrom, ih, List.length_cons,
      List.cons_append, Nat.add_assoc, Nat.add_comm 1]

def linesText (lines : List String) : String := String.join (lines.map lineText)

def headSection (m : ValidatorModule) : String := linesText (docLine m.doc :: preamble)

def patternSection (m : ValidatorModule) : String :=
  linesText (if m.patterns.isEmpty then [] else "" :: m.patternLines)

def functionBlock (f : ValidatorFunction) : String := "\n\n" ++ f.text

def functionSection (m : ValidatorModule) : String := String.join (m.functions.map functionBlock)

def rowSection (m : ValidatorModule) : String := linesText (m.functions.map tableLine)

theorem linesText_append (xs ys : List String) :
    linesText (xs ++ ys) = linesText xs ++ linesText ys := by
  rw [linesText, List.map_append, String.join_append]
  rfl

theorem linesText_functions (fs : List ValidatorFunction) :
    linesText (fs.flatMap fun f => ["", ""] ++ f.lines) = String.join (fs.map functionBlock) := by
  induction fs with
  | nil => rfl
  | cons f rest ih =>
    have block : linesText (["", ""] ++ f.lines) = functionBlock f := by
      rw [linesText_append]
      rfl
    rw [List.flatMap_cons, linesText_append, block, ih, List.map_cons, String.join_cons]

/-- A module's text is its sections one after the other, with the frame of the table around the
last. -/
theorem text_eq_sections (m : ValidatorModule) :
    m.text = m.headSection ++ m.patternSection ++ m.functionSection ++
      "\n\nVALIDATORS = \x7b\n" ++ m.rowSection ++ "\x7d\n" := by
  have opening : linesText ["", ""] ++ linesText ["VALIDATORS = \x7b"] =
      "\n\nVALIDATORS = \x7b\n" := by decide +kernel
  have closing : linesText ["\x7d"] = "\x7d\n" := by decide +kernel
  have whole : m.text = linesText m.lines := rfl
  rw [whole, lines, tableLines]
  simp only [linesText_append, linesText_functions, closing, ← opening, String.append_assoc]
  rfl

/-- How a module continues in another one: its lines and blocks stand there in front, and so do its
sections, letter for letter. -/
structure ContinuesIn (m m' : ValidatorModule) : Prop where
  head : m'.headSection = m.headSection
  patternLines : m.patternLines <+: m'.patternLines
  patternSection : ∃ more, m'.patternSection = m.patternSection ++ more
  functions : m.functions <+: m'.functions
  functionBlocks : m.functions.map functionBlock <+: m'.functions.map functionBlock
  functionSection : ∃ more, m'.functionSection = m.functionSection ++ more
  rows : m.functions.map tableLine <+: m'.functions.map tableLine
  rowSection : ∃ more, m'.rowSection = m.rowSection ++ more

/-- A module with more patterns and functions continues the one without them. -/
theorem continuesIn_of_prefix {m m' : ValidatorModule} (doc : m'.doc = m.doc)
    (patterns : m.patterns <+: m'.patterns) (functions : m.functions <+: m'.functions) :
    ContinuesIn m m' := by
  have blocks := functions.map functionBlock
  have rows := functions.map tableLine
  have lines : m.patternLines <+: m'.patternLines := by
    obtain ⟨more, same⟩ := patterns
    rw [patternLines, patternLines, ← same, patternLinesFrom_append]
    exact List.prefix_append _ _
  refine ⟨by rw [headSection, headSection, doc], lines, ?_, functions, blocks, ?_, rows, ?_⟩
  · rw [patternSection, patternSection]
    by_cases none : m.patterns = []
    · exact ⟨_, by rw [none]; rfl⟩
    · have longer : m'.patterns ≠ [] := fun none' => none (List.prefix_nil.mp (none' ▸ patterns))
      obtain ⟨more, same⟩ := lines
      rw [if_neg (by simpa using longer), if_neg (by simpa using none), ← same, ← List.cons_append,
        linesText_append]
      exact ⟨_, rfl⟩
  · obtain ⟨more, same⟩ := blocks
    rw [functionSection, functionSection, ← same, String.join_append]
    exact ⟨_, rfl⟩
  · obtain ⟨more, same⟩ := rows
    rw [rowSection, rowSection, ← same, linesText_append]
    exact ⟨_, rfl⟩

end ValidatorModule

open ValidatorModule

/-- Schemas put behind others leave what is rendered of those as it is. If the longer extraction has
a module, so has the shorter one; the text of either is its sections in a fixed frame, and the lines
of patterns, the blocks of functions and the rows of the shorter module stand in front of those of
the longer one, in the same order and letter for letter. The names of functions and the constants of
patterns stay. The schemas that follow may use patterns that are known, and names whose functions
would have taken names. -/
theorem Extraction.module_continues (e more : Extraction) (doc : Option String)
    {m' : ValidatorModule} (renders : ofExtraction (e ++ more) doc = .ok m') :
    ∃ m, ofExtraction e doc = .ok m ∧ m.ContinuesIn m' ∧
      (∀ k ∈ [m, m'], k.text = k.headSection ++ k.patternSection ++ k.functionSection ++
        "\n\nVALIDATORS = \x7b\n" ++ k.rowSection ++ "\x7d\n") ∧
      FunctionName.assign e.names <+: FunctionName.assign (names (e ++ more)) ∧
      ∀ schema ∈ e, ∀ f ∈ schema.2, ∀ regex, .pattern regex ∈ f.checks →
        patternName (m'.patterns.idxOf regex) = patternName (m.patterns.idxOf regex) := by
  rw [ofExtraction_append] at renders
  obtain ⟨m, hm, rest⟩ := exists_of_bind_eq_ok renders
  obtain ⟨fs, -, rfl⟩ := exists_of_map_eq_ok rest
  have known : m.patterns = e.patterns := by
    obtain ⟨_, -, rfl⟩ := exists_of_map_eq_ok hm
    rfl
  have patterns : m.patterns <+: Extraction.patterns (e ++ more) := known ▸ patterns_prefix e more
  refine ⟨m, hm, continuesIn_of_prefix rfl patterns (List.prefix_append _ _),
    fun k _ => k.text_eq_sections, ?_, fun schema hs f hf regex hr => ?_⟩
  · rw [names_append, FunctionName.assign_append]
    exact List.prefix_append _ _
  · have used : regex ∈ m.patterns := known ▸ mem_patterns hs hf hr
    obtain ⟨later, same⟩ := patterns
    rw [← same, List.idxOf_append_of_mem used]

namespace Sample

def letters : FieldChecks := ⟨"id", .string, false, [.pattern "[a-z]+"]⟩

def plots : Extraction := [("Plot", [letters])]
def morePlots : Extraction :=
  [("plot", [⟨"no", .string, true, [.pattern "\\d", .pattern "[a-z]+"]⟩])]

end Sample

/-- The module of one schema continues in that of two, whose patterns and names would collide. -/
theorem Extraction.plots_continue :
    ∃ m m', ofExtraction Sample.plots none = .ok m ∧
      ofExtraction (Sample.plots ++ Sample.morePlots) none = .ok m' ∧ m.ContinuesIn m' ∧
      m.functions.map ValidatorFunction.name = ["validate_plot"] ∧
      m'.functions.map ValidatorFunction.name = ["validate_plot", "validate_plot_2"] ∧
      m.patterns = ["[a-z]+"] ∧ m'.patterns = ["[a-z]+", "\\d"] := by
  obtain ⟨m, renders, continues, -⟩ :=
    @Extraction.module_continues Sample.plots Sample.morePlots none _ rfl
  cases renders
  exact ⟨_, _, rfl, rfl, continues, by decide +kernel, by decide +kernel, by decide +kernel,
    by decide +kernel⟩

end SchemaChecks
