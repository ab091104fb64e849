import SchemaChecks.Proofs.Portable.Tokens
import SchemaChecks.Yaml.Graph

/-!
The nodes of such a document. They are numbered in the order in which they open, so the parts of a
collection have greater numbers than the collection.
-/

namespace SchemaChecks.Portable

open Yaml

/-! ### Nodes of values -/

mutual

/-- The node `id` is that of the value, and all nodes of the value have numbers from `least` on. -/
def Form.Built (nodes : Array Yaml.Node) (least id : Nat) : Form → Prop
  | .word w => least ≤ id ∧
      nodes[id]? = some ⟨.ofSpelling (String.ofList w.chars), .scalar (String.ofList w.chars)⟩
  | .text q => least ≤ id ∧ nodes[id]? = some ⟨.str, .scalar q.text⟩
  | .list _ items => least ≤ id ∧
      ∃ ids, nodes[id]? = some ⟨.seq, .seq ids⟩ ∧ items.Built nodes (id + 1) ids
  | .dict _ entries => least ≤ id ∧
      ∃ ids, nodes[id]? = some ⟨.map, .map ids⟩ ∧ entries.Built nodes (id + 1) ids

def Items.Built (nodes : Array Yaml.Node) (least : Nat) (ids : List Nat) : Items → Prop
  | .nil => ids = []
  | .cons _ form _ rest => ∃ id more, ids = id :: more ∧ form.Built nodes least id ∧
      rest.Built nodes least more

def Entries.Built (nodes : Array Yaml.Node) (least : Nat) (ids : List (Nat × Nat)) : Entries → Prop
  | .nil => ids = []
  | .cons _ key _ _ _ form _ rest => ∃ k v more, ids = (k, v) :: more ∧
      (least ≤ k ∧ nodes[k]? = some ⟨.str, .scalar key.text⟩) ∧ form.Built nodes least v ∧
      rest.Built nodes least more

end

def Keeps (least : Nat) (nodes nodes' : Array Yaml.Node) : Prop :=
  ∀ id, least ≤ id → ∀ n, nodes[id]? = some n → nodes'[id]? = some n

mutual

theorem Form.Built.keeps {nodes nodes' : Array Yaml.Node} {least id : Nat}
    (keeps : Keeps least nodes nodes')
    {f : Form} (h : f.Built nodes least id) : f.Built nodes' least id :=
  match f with
  | .word w => ⟨h.1, keeps id h.1 _ h.2⟩
  | .text q => ⟨h.1, keeps id h.1 _ h.2⟩
  | .list gap items => by
    obtain ⟨range, ids, node, parts⟩ := h
    have inner : Keeps (id + 1) nodes nodes' := fun i hi => keeps i (by omega)
    exact ⟨range, ids, keeps id range _ node, parts.keeps inner⟩
  | .dict gap entries => by
    obtain ⟨range, ids, node, parts⟩ := h
    have inner : Keeps (id + 1) nodes nodes' := fun i hi => keeps i (by omega)
    exact ⟨range, ids, keeps id range _ node, parts.keeps inner⟩

theorem Items.Built.keeps {nodes nodes' : Array Yaml.Node} {least : Nat}
    (keeps : Keeps least nodes nodes')
    {items : Items} {ids : List Nat} (h : items.Built nodes least ids) :
    items.Built nodes' least ids :=
  match items with
  | .nil => h
  | .cons before form after more => by
    obtain ⟨id, others, rfl, first, parts⟩ := h
    exact ⟨id, others, rfl, first.keeps keeps, parts.keeps keeps⟩

theorem Entries.Built.keeps {nodes nodes' : Array Yaml.Node} {least : Nat}
    (keeps : Keeps least nodes nodes') {entries : Entries} {ids : List (Nat × Nat)}
    (h : entries.Built nodes least ids) : entries.Built nodes' least ids :=
  match entries with
  | .nil => h
  | .cons before key spaces near colon form after more => by
    obtain ⟨k, v, others, rfl, ⟨range, node⟩, first, parts⟩ := h
    exact ⟨k, v, others, rfl, ⟨range, keeps k range _ node⟩, first.keeps keeps, parts.keeps keeps⟩

end

theorem Form.Built.mono {nodes : Array Yaml.Node} {least least' id : Nat} (range : least' ≤ least)
    {f : Form} (h : f.Built nodes least id) : f.Built nodes least' id := by
  cases f with
  | word => exact ⟨Nat.le_trans range h.1, h.2⟩
  | text => exact ⟨Nat.le_trans range h.1, h.2⟩
  | list => exact ⟨Nat.le_trans range h.1, h.2⟩
  | dict => exact ⟨Nat.le_trans range h.1, h.2⟩

theorem Items.Built.mono {nodes : Array Yaml.Node} {least least' : Nat} (range : least' ≤ least) :
    ∀ {items : Items} {ids : List Nat}, items.Built nodes least ids → items.Built nodes least' ids
  | .nil, _, h => h
  | .cons _ _ _ _, _, ⟨id, others, shape, first, parts⟩ =>
    ⟨id, others, shape, first.mono range, parts.mono range⟩

theorem Entries.Built.mono {nodes : Array Yaml.Node} {least least' : Nat} (range : least' ≤ least) :
    ∀ {entries : Entries} {ids : List (Nat × Nat)}, entries.Built nodes least ids →
      entries.Built nodes least' ids
  | .nil, _, h => h
  | .cons _ _ _ _ _ _ _ _, _, ⟨k, v, others, shape, ⟨above, node⟩, first, parts⟩ =>
    ⟨k, v, others, shape, ⟨Nat.le_trans range above, node⟩, first.mono range, parts.mono range⟩

theorem Keeps.trans {nodes nodes' nodes'' : Array Yaml.Node} {least : Nat}
    (h : Keeps least nodes nodes')
    (k : Keeps least nodes' nodes'') : Keeps least nodes nodes'' :=
  fun id range n node => k id range n (h id range n node)

theorem Keeps.above {nodes nodes' : Array Yaml.Node} (h : Keeps 0 nodes nodes') (least : Nat) :
    Keeps least nodes nodes' :=
  fun id _ n node => h id (Nat.zero_le id) n node

theorem Keeps.size_le {nodes nodes' : Array Yaml.Node} (h : Keeps 0 nodes nodes') :
    nodes.size ≤ nodes'.size := by
  refine Nat.le_of_not_lt fun fewer => ?_
  have node := h nodes'.size (Nat.zero_le _) _ (Array.getElem?_eq_getElem fewer)
  simp at node

theorem keeps_push (nodes : Array Yaml.Node) (n : Yaml.Node) : Keeps 0 nodes (nodes.push n) := by
  intro id _ m node
  obtain ⟨inside, -⟩ := Array.getElem?_eq_some_iff.mp node
  rw [Array.getElem?_push_lt inside, ← node, Array.getElem?_eq_getElem inside]

theorem keeps_modify (nodes : Array Yaml.Node) (id : Nat) (f : Yaml.Node → Yaml.Node) :
    Keeps (id + 1) nodes (nodes.modify id f) := by
  intro i range n node
  rw [Array.getElem?_modify, if_neg (by omega), node]

/-- What is put into an opened collection changes no node before it. -/
theorem keeps_filled {nodes nodes' : Array Yaml.Node} {tag : Tag} {c : Content}
    (h : Keeps 0 (nodes.push ⟨tag, .seq []⟩) nodes') :
    Keeps 0 nodes (nodes'.modify nodes.size fun n => { n with content := c }) ∧
      (nodes'.modify nodes.size fun n => { n with content := c })[nodes.size]? = some ⟨tag, c⟩ := by
  refine ⟨fun id _ n node => ?_, ?_⟩
  · obtain ⟨inside, -⟩ := Array.getElem?_eq_some_iff.mp node
    rw [Array.getElem?_modify, if_neg (by omega)]
    exact h id (Nat.zero_le id) n (keeps_push nodes _ id (Nat.zero_le id) n node)
  · have opened := h nodes.size (Nat.zero_le _) _ Array.getElem?_push_size
    rw [Array.getElem?_modify, if_pos rfl, opened]
    rfl

/-! ### Runs -/

def Runs {σ ε α : Type} (x : StateT σ (Except ε) α) (s : σ) (a : α) (t : σ) : Prop :=
  x.run s = .ok (a, t)

section

variable {σ ε α β : Type} {x : StateT σ (Except ε) α} {f : α → StateT σ (Except ε) β} {s t u : σ}
  {a : α} {b : β}

theorem Runs.bind (first : Runs x s a t) (next : Runs (f a) t b u) : Runs (x >>= f) s b u := by
  rw [Runs, StateT.run_bind, first]
  exact next

theorem runs_pure (a : α) (s : σ) : Runs (pure a : StateT σ (Except ε) α) s a s := rfl

theorem runs_get (s : σ) : Runs (get : StateT σ (Except ε) σ) s s s := rfl

end

/-! ### Composing -/

open Compose

variable {s t : Composer} {rest : List Token} {fuel depth : Nat}

theorem peek_runs {x : Token} (h : s.tokens = x :: rest) : Runs peek s x s := by
  refine (runs_get s).bind ?_
  rw [h]
  exact runs_pure x s

theorem skip_runs {x : Token} (h : s.tokens = x :: rest) :
    Runs skip s () { s with tokens := rest } := by
  have dropped : s.tokens.drop 1 = rest := by rw [h]; rfl
  exact dropped ▸ rfl

theorem accept_same {x : Token} (h : s.tokens = x :: rest) :
    Runs (accept x) s true { s with tokens := rest } := by
  refine (peek_runs h).bind ?_
  rw [if_pos rfl]
  exact (skip_runs h).bind (runs_pure _ _)

theorem accept_other {x y : Token} (h : s.tokens = y :: rest) (other : y ≠ x) :
    Runs (accept x) s false s := by
  refine (peek_runs h).bind ?_
  rw [if_neg other]
  exact runs_pure _ _

theorem comma_runs {first : Bool} (h : s.tokens = commaTokens first ++ rest) :
    Runs (comma first) s () { s with tokens := rest } := by
  cases first with
  | true =>
    have same : s.tokens = rest := h
    exact same ▸ runs_pure _ _
  | false => exact (accept_same h).bind (runs_pure _ _)

theorem properties_none {x : Token} (h : s.tokens = x :: rest) (noAnchor : ∀ a, x ≠ .anchor a)
    (noTag : ∀ handle suffix, x ≠ .tag handle suffix) : Runs properties s (none, none) s := by
  refine (peek_runs h).bind ?_
  split
  · exact absurd rfl (noAnchor _)
  · exact absurd rfl (noTag _ _)
  · exact runs_pure _ _

theorem node_scalar {text : String} {plain block indentless : Bool}
    (h : s.tokens = .scalar text plain :: rest) :
    Runs (node (fuel + 1) depth block indentless) s s.nodes.size { s with
      tokens := rest, nodes := s.nodes.push ⟨scalarTag text plain .none, .scalar text⟩ } := by
  rw [node]
  refine (peek_runs h).bind ?_
  refine (properties_none h (by simp) (by simp)).bind ?_
  refine (runs_pure _ _).bind ?_
  refine (peek_runs h).bind ?_
  exact (skip_runs h).bind rfl

/-- A collection is opened before its members are read, and filled with them after. -/
theorem collection_runs {tag : Tag} {members : Compose Content} {c : Content}
    (h : Runs members { s with nodes := s.nodes.push ⟨tag, .seq []⟩ } c t) :
    Runs (collection none tag members) s s.nodes.size
      { t with nodes := t.nodes.modify s.nodes.size fun n => { n with content := c } } := by
  have opened : Runs (addNode ⟨tag, .seq []⟩) s s.nodes.size
      { s with nodes := s.nodes.push ⟨tag, .seq []⟩ } := rfl
  refine opened.bind ?_
  refine (runs_pure _ _).bind ?_
  exact h.bind rfl

theorem node_list {ids : List Nat} {block indentless : Bool}
    (h : s.tokens = .flowSequenceStart :: rest)
    (members : Runs (flowItems fuel depth true)
      { s with tokens := rest, nodes := s.nodes.push ⟨.seq, .seq []⟩ } ids t) :
    Runs (node (fuel + 1) (depth + 1) block indentless) s s.nodes.size
      { t with nodes := t.nodes.modify s.nodes.size fun n => { n with content := .seq ids } } := by
  rw [node]
  refine (peek_runs h).bind ?_
  refine (properties_none h (by simp) (by simp)).bind ?_
  refine (runs_pure _ _).bind ?_
  refine (peek_runs h).bind ?_
  refine (skip_runs h).bind ?_
  refine (runs_pure _ _).bind ?_
  exact collection_runs (members.bind (runs_pure (Content.seq ids) _))

theorem node_dict {ids : List (Nat × Nat)} {block indentless : Bool}
    (h : s.tokens = .flowMappingStart :: rest)
    (members : Runs (flowEntries fuel depth true)
      { s with tokens := rest, nodes := s.nodes.push ⟨.map, .seq []⟩ } ids t) :
    Runs (node (fuel + 1) (depth + 1) block indentless) s s.nodes.size
      { t with nodes := t.nodes.modify s.nodes.size fun n => { n with content := .map ids } } := by
  rw [node]
  refine (peek_runs h).bind ?_
  refine (properties_none h (by simp) (by simp)).bind ?_
  refine (runs_pure _ _).bind ?_
  refine (peek_runs h).bind ?_
  refine (skip_runs h).bind ?_
  refine (runs_pure _ _).bind ?_
  exact collection_runs (members.bind (runs_pure (Content.map ids) _))

/-- The first token of a value. -/
theorem Form.tokens_start (f : Form) : ∃ x more, f.tokens = x :: more ∧ x ≠ .flowSequenceEnd ∧
    x ≠ .flowMappingEnd ∧ x ≠ .flowEntry ∧ x ≠ .key := by
  cases f with
  | word w => exact ⟨_, _, rfl, nofun, nofun, nofun, nofun⟩
  | text q => exact ⟨_, _, rfl, nofun, nofun, nofun, nofun⟩
  | list gap items => exact ⟨_, _, rfl, nofun, nofun, nofun, nofun⟩
  | dict gap entries => exact ⟨_, _, rfl, nofun, nofun, nofun, nofun⟩

theorem Items.tokens_length (items : Items) (first : Bool) : 1 ≤ (items.tokens first).length := by
  cases items with
  | nil => exact Nat.le_refl 1
  | cons before form after more =>
    obtain ⟨x, others, start, -⟩ := form.tokens_start
    simp only [Items.tokens, start, List.length_append, List.length_cons]
    omega

theorem Entries.tokens_length (entries : Entries) (first : Bool) :
    1 ≤ (entries.tokens first).length := by
  cases entries with
  | nil => exact Nat.le_refl 1
  | cons before key spaces near colon form after more =>
    simp only [Entries.tokens, List.length_append, List.length_cons]
    omega

/-- One more item of a list. -/
theorem flowItems_item {first : Bool} {f : Form} {more : List Token} {nodes : Array Yaml.Node}
    {id : Nat}
    {ids : List Nat} (h : s.tokens = commaTokens first ++ (f.tokens ++ more))
    (item : Runs (node fuel depth false false) { s with tokens := f.tokens ++ more } id
      { s with tokens := more, nodes := nodes })
    (items : Runs (flowItems fuel depth false) { s with tokens := more, nodes := nodes } ids t) :
    Runs (flowItems (fuel + 1) depth first) s (id :: ids) t := by
  obtain ⟨x, others, start, noEnd, -, -, noKey⟩ := f.tokens_start
  have head : ∃ y ys, s.tokens = y :: ys ∧ y ≠ .flowSequenceEnd := by
    cases first with
    | true => exact ⟨x, others ++ more, by rw [h, start]; rfl, noEnd⟩
    | false => exact ⟨_, _, h, nofun⟩
  obtain ⟨y, ys, at_, open_⟩ := head
  rw [flowItems]
  refine (accept_other at_ open_).bind ?_
  refine (comma_runs h).bind ?_
  have next : Composer.tokens { s with tokens := f.tokens ++ more } = x :: (others ++ more) := by
    rw [start]
    rfl
  refine (peek_runs next).bind ?_
  split
  · exact absurd rfl noKey
  · exact absurd rfl noEnd
  · exact item.bind (items.bind (runs_pure _ _))

/-- One more entry of a dictionary. -/
theorem flowEntries_entry {first : Bool} {text : String} {f : Form} {more : List Token}
    {nodes : Array Yaml.Node} {v : Nat} {ids : List (Nat × Nat)}
    (h : s.tokens =
      commaTokens first ++ (.key :: .scalar text false :: .value :: (f.tokens ++ more)))
    (value : Runs (node (fuel + 1) depth false false)
      { s with tokens := f.tokens ++ more, nodes := s.nodes.push ⟨.str, .scalar text⟩ } v
      { s with tokens := more, nodes := nodes })
    (entries : Runs (flowEntries (fuel + 1) depth false)
      { s with tokens := more, nodes := nodes } ids t) :
    Runs (flowEntries (fuel + 2) depth first) s ((s.nodes.size, v) :: ids) t := by
  obtain ⟨x, others, start, -, noEnd, noComma, -⟩ := f.tokens_start
  have head : ∃ y ys, s.tokens = y :: ys ∧ y ≠ .flowMappingEnd := by
    cases first with
    | true => exact ⟨_, _, h, nofun⟩
    | false => exact ⟨_, _, h, nofun⟩
  obtain ⟨y, ys, at_, open_⟩ := head
  rw [flowEntries]
  refine (accept_other at_ open_).bind ?_
  refine (comma_runs h).bind ?_
  refine (peek_runs rfl).bind ?_
  refine (skip_runs rfl).bind ?_
  refine (peek_runs rfl).bind ?_
  refine Runs.bind (a := s.nodes.size) (node_scalar rfl) ?_
  refine (accept_same rfl).bind ?_
  have next : Composer.tokens { s with tokens := f.tokens ++ more } = x :: (others ++ more) := by
    rw [start]
    rfl
  refine Runs.bind (peek_runs next) ?_
  rw [if_neg (by simp [noEnd, noComma])]
  exact value.bind (entries.bind (runs_pure _ _))

mutual

/-- The nodes of a value are added to those before it. -/
theorem Form.compose {s : Composer} {rest : List Token} {fuel depth : Nat} (f : Form)
    (block indentless : Bool) (at_ : s.tokens = f.tokens ++ rest) (enough : f.tokens.length ≤ fuel)
    (fits : f.depth ≤ depth) :
    ∃ id nodes, Runs (node fuel depth block indentless) s id
        { s with tokens := rest, nodes := nodes } ∧
      Keeps 0 s.nodes nodes ∧ f.Built nodes s.nodes.size id :=
  match f with
  | .word w => by
    obtain ⟨fuel, rfl⟩ : ∃ n, fuel = n + 1 := ⟨fuel - 1, by simp [Form.tokens] at enough; omega⟩
    exact ⟨_, _, node_scalar at_, keeps_push _ _, Nat.le_refl _, Array.getElem?_push_size⟩
  | .text q => by
    obtain ⟨fuel, rfl⟩ : ∃ n, fuel = n + 1 := ⟨fuel - 1, by simp [Form.tokens] at enough; omega⟩
    exact ⟨_, _, node_scalar at_, keeps_push _ _, Nat.le_refl _, Array.getElem?_push_size⟩
  | .list gap items => by
    obtain ⟨fuel, rfl⟩ : ∃ n, fuel = n + 1 := ⟨fuel - 1, by simp [Form.tokens] at enough; omega⟩
    obtain ⟨depth, rfl⟩ : ∃ n, depth = n + 1 := ⟨depth - 1, by simp [Form.depth] at fits; omega⟩
    have short : (items.tokens true).length ≤ fuel := by simpa [Form.tokens] using enough
    have shallow : items.depth ≤ depth := by simpa [Form.depth] using fits
    have opened : s.tokens = .flowSequenceStart :: (items.tokens true ++ rest) := at_
    let inside : Composer :=
      { s with tokens := items.tokens true ++ rest, nodes := s.nodes.push ⟨.seq, .seq []⟩ }
    obtain ⟨ids, nodes, runs, keeps, built⟩ := items.compose (s := inside) rfl short shallow
    obtain ⟨keeps, node⟩ := keeps_filled (c := .seq ids) keeps
    have least : inside.nodes.size = s.nodes.size + 1 := Array.size_push _
    rw [least] at built
    exact ⟨_, _, node_list opened runs, keeps, Nat.le_refl _, ids, node,
      built.keeps (keeps_modify _ _ _)⟩
  | .dict gap entries => by
    obtain ⟨fuel, rfl⟩ : ∃ n, fuel = n + 1 := ⟨fuel - 1, by simp [Form.tokens] at enough; omega⟩
    obtain ⟨depth, rfl⟩ : ∃ n, depth = n + 1 := ⟨depth - 1, by simp [Form.depth] at fits; omega⟩
    have short : (entries.tokens true).length ≤ fuel := by simpa [Form.tokens] using enough
    have shallow : entries.depth ≤ depth := by simpa [Form.depth] using fits
    have opened : s.tokens = .flowMappingStart :: (entries.tokens true ++ rest) := at_
    let inside : Composer :=
      { s with tokens := entries.tokens true ++ rest, nodes := s.nodes.push ⟨.map, .seq []⟩ }
    obtain ⟨ids, nodes, runs, keeps, built⟩ := entries.compose (s := inside) rfl short shallow
    obtain ⟨keeps, node⟩ := keeps_filled (c := .map ids) keeps
    have least : inside.nodes.size = s.nodes.size + 1 := Array.size_push _
    rw [least] at built
    exact ⟨_, _, node_dict opened runs, keeps, Nat.le_refl _, ids, node,
      built.keeps (keeps_modify _ _ _)⟩

theorem Items.compose {s : Composer} {rest : List Token} {fuel depth : Nat} (items : Items)
    {first : Bool} (at_ : s.tokens = items.tokens first ++ rest)
    (enough : (items.tokens first).length ≤ fuel) (fits : items.depth ≤ depth) :
    ∃ ids nodes, Runs (flowItems fuel depth first) s ids { s with tokens := rest, nodes := nodes } ∧
      Keeps 0 s.nodes nodes ∧ items.Built nodes s.nodes.size ids :=
  match items with
  | .nil => by
    obtain ⟨fuel, rfl⟩ : ∃ n, fuel = n + 1 := ⟨fuel - 1, by simp [Items.tokens] at enough; omega⟩
    refine ⟨[], s.nodes, ?_, fun _ _ _ node => node, rfl⟩
    rw [flowItems]
    exact (accept_same at_).bind (runs_pure _ _)
  | .cons before form after more => by
    have shape : s.tokens =
        commaTokens first ++ (form.tokens ++ (more.tokens false ++ rest)) := by
      simpa [Items.tokens] using at_
    have least := more.tokens_length false
    have size : (commaTokens first).length + (form.tokens.length + (more.tokens false).length) ≤
        fuel := by
      simpa [Items.tokens] using enough
    obtain ⟨x, others, start, -⟩ := form.tokens_start
    have some : 1 ≤ form.tokens.length := by simp [start]
    obtain ⟨fuel, rfl⟩ : ∃ n, fuel = n + 1 := ⟨fuel - 1, by omega⟩
    have deep : form.depth ≤ depth ∧ more.depth ≤ depth := by
      simpa only [Items.depth, Nat.max_le] using fits
    let there : Composer := { s with tokens := form.tokens ++ (more.tokens false ++ rest) }
    have short : form.tokens.length ≤ fuel := by omega
    obtain ⟨id, nodes, item, keeps, built⟩ := form.compose (s := there) false false rfl short deep.1
    let next : Composer := { s with tokens := more.tokens false ++ rest, nodes := nodes }
    have left : (more.tokens false).length ≤ fuel := by omega
    obtain ⟨ids, nodes', others, keeps', built'⟩ := more.compose (s := next) rfl left deep.2
    exact ⟨id :: ids, nodes', flowItems_item shape item others, keeps.trans keeps', id, ids, rfl,
      built.keeps (keeps'.above _), built'.mono keeps.size_le⟩

theorem Entries.compose {s : Composer} {rest : List Token} {fuel depth : Nat} (entries : Entries)
    {first : Bool} (at_ : s.tokens = entries.tokens first ++ rest)
    (enough : (entries.tokens first).length ≤ fuel) (fits : entries.depth ≤ depth) :
    ∃ ids nodes,
      Runs (flowEntries fuel depth first) s ids { s with tokens := rest, nodes := nodes } ∧
      Keeps 0 s.nodes nodes ∧ entries.Built nodes s.nodes.size ids :=
  match entries with
  | .nil => by
    obtain ⟨fuel, rfl⟩ : ∃ n, fuel = n + 1 := ⟨fuel - 1, by simp [Entries.tokens] at enough; omega⟩
    refine ⟨[], s.nodes, ?_, fun _ _ _ node => node, rfl⟩
    rw [flowEntries]
    exact (accept_same at_).bind (runs_pure _ _)
  | .cons before key spaces near colon form after more => by
    have shape : s.tokens = commaTokens first ++
        (.key :: .scalar key.text false :: .value ::
          (form.tokens ++ (more.tokens false ++ rest))) := by
      simpa [Entries.tokens] using at_
    have size : (commaTokens first).length + (form.tokens.length + (more.tokens false).length + 3) ≤
        fuel := by
      simpa [Entries.tokens] using enough
    obtain ⟨fuel, rfl⟩ : ∃ n, fuel = n + 2 := ⟨fuel - 2, by omega⟩
    have deep : form.depth ≤ depth ∧ more.depth ≤ depth := by
      simpa only [Entries.depth, Nat.max_le] using fits
    let there : Composer := { s with
      tokens := form.tokens ++ (more.tokens false ++ rest)
      nodes := s.nodes.push ⟨.str, .scalar key.text⟩ }
    have short : form.tokens.length ≤ fuel + 1 := by omega
    obtain ⟨v, nodes, value, keeps, built⟩ := form.compose (s := there) false false rfl short deep.1
    let next : Composer := { s with tokens := more.tokens false ++ rest, nodes := nodes }
    have left : (more.tokens false).length ≤ fuel + 1 := by omega
    obtain ⟨ids, nodes', others, keeps', built'⟩ := more.compose (s := next) rfl left deep.2
    have pushed : Keeps 0 s.nodes nodes := (keeps_push _ _).trans keeps
    have named : nodes'[s.nodes.size]? = some ⟨.str, .scalar key.text⟩ :=
      (keeps.trans keeps') _ (Nat.zero_le _) _ Array.getElem?_push_size
    have above : s.nodes.size ≤ there.nodes.size := (keeps_push s.nodes _).size_le
    exact ⟨(s.nodes.size, v) :: ids, nodes', flowEntries_entry shape value others,
      pushed.trans keeps', s.nodes.size, v, ids, rfl, ⟨Nat.le_refl _, named⟩,
      (built.keeps (keeps'.above _)).mono above, built'.mono pushed.size_le⟩

end

theorem skipEnds_runs {x : Token} (h : s.tokens = x :: rest) (noEnd : x ≠ .documentEnd) (n : Nat) :
    Runs (skipEnds n) s () s := by
  cases n with
  | zero => exact runs_pure _ _
  | succ n => exact (accept_other h noEnd).bind (runs_pure _ _)

/-- The graph of a page holds the nodes of its value. -/
theorem Page.graph (p : Page) (shallow : p.form.depth ≤ depthLimit) :
    ∃ g, Graph.ofText p.chars = .ok (some g) ∧ p.form.Built g.nodes 0 g.root := by
  let start : Composer :=
    { tokens := p.form.tokens ++ [.streamEnd], fault := none, nodes := #[], anchors := []
      handles := standardHandles }
  have enough : p.form.tokens.length ≤ 4 * start.tokens.length + 8 := by
    simp only [start, List.length_append]
    omega
  obtain ⟨root, nodes, runs, -, built⟩ :=
    p.form.compose (s := start) true false rfl enough shallow
  let done : Composer := { start with tokens := [.streamEnd], nodes := nodes }
  have composed : Runs document start (some root) done := by
    refine (runs_get _).bind ?_
    refine Runs.bind (peek_runs rfl) ?_
    refine Runs.bind runs ?_
    have looks : Runs (discard peek) done () done := rfl
    refine Runs.bind looks ?_
    refine Runs.bind (accept_other rfl nofun) ?_
    have ends : done.tokens = [.streamEnd] := rfl
    refine Runs.bind (skipEnds_runs ends nofun _) ?_
    exact Runs.bind (peek_runs rfl) (runs_pure _ _)
  refine ⟨⟨nodes, root⟩, ?_, built⟩
  rw [Graph.ofText, p.tokenStream]
  have run : document.run start = .ok (some root, done) := composed
  simp only [start] at run
  simp only [run]
  rfl

end SchemaChecks.Portable
