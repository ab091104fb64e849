import SchemaChecks.Proofs.Portable.Nodes
import SchemaChecks.Yaml.Heap

/-!
Filling the cells of a graph without references, merges and special keys: every cell that is reached
holds what its node says.
-/

namespace SchemaChecks.Portable

open Yaml

/-! ### Plain nodes -/

def leafTags : List Tag := [.null, .bool, .int, .float, .str]

structure IsLeaf (nodes : Array Yaml.Node) (id : Nat) (a : Atom) : Prop where
  node : ∃ tag text, nodes[id]? = some ⟨tag, .scalar text⟩ ∧ tag ∈ leafTags ∧
    atomOf tag text = .ok a

inductive Shape (nodes : Array Yaml.Node) (good : Nat → Prop) (id : Nat) : Prop
  | leaf {a : Atom} (node : IsLeaf nodes id a)
  | list {items : List Nat} (node : nodes[id]? = some ⟨.seq, .seq items⟩)
      (parts : ∀ i ∈ items, good i)
  | dict {entries : List (Nat × Nat)} (node : nodes[id]? = some ⟨.map, .map entries⟩)
      (keys : ∀ e ∈ entries, ∃ text, nodes[e.1]? = some ⟨.str, .scalar text⟩)
      (parts : ∀ e ∈ entries, good e.2) (short : entries.length < Fill.stepLimit)

def keyOf (nodes : Array Yaml.Node) (id : Nat) : Atom :=
  match nodes[id]? with
  | some ⟨_, .scalar text⟩ => .text text
  | _ => .null

def keyed (nodes : Array Yaml.Node) (entries : List (Nat × Nat)) (acc : List (Atom × Nat)) :
    List (Atom × Nat) :=
  entries.foldl (fun acc e => Fill.insertEntry (keyOf nodes e.1) e.2 acc) acc

/-! ### Cells -/

abbrev Cells := Array (Option Cell)

def Seen (cells : Cells) (id : Nat) : Prop := ∃ c, cells[id]? = some (some c)

inductive Settled (nodes : Array Yaml.Node) (cells : Cells) (id : Nat) : Prop
  | leaf {a : Atom} (node : IsLeaf nodes id a) (cell : cells[id]? = some (some (.atom a)))
  | list {items : List Nat} (node : nodes[id]? = some ⟨.seq, .seq items⟩)
      (cell : cells[id]? = some (some (.list items))) (parts : ∀ i ∈ items, Seen cells i)
  | dict {entries : List (Nat × Nat)} (node : nodes[id]? = some ⟨.map, .map entries⟩)
      (cell : cells[id]? = some (some (.dict (keyed nodes entries []))))
      (parts : ∀ e ∈ entries, Seen cells e.2)

variable {nodes : Array Yaml.Node} {good : Nat → Prop} {cells : Cells} {id i : Nat} {c : Cell}

theorem Seen.set (h : Seen cells i) : Seen (cells.setIfInBounds id (some c)) i := by
  obtain ⟨d, cell⟩ := h
  rw [Seen, Array.getElem?_setIfInBounds]
  split
  · subst_vars
    obtain ⟨inside, -⟩ := Array.getElem?_eq_some_iff.mp cell
    exact ⟨c, if_pos inside⟩
  · exact ⟨d, cell⟩

theorem seen_set (inside : id < cells.size) : Seen (cells.setIfInBounds id (some c)) id :=
  ⟨c, by rw [Array.getElem?_setIfInBounds, if_pos rfl, if_pos inside]⟩

theorem Settled.set (h : Settled nodes cells i) (other : i ≠ id) :
    Settled nodes (cells.setIfInBounds id (some c)) i := by
  have same : (cells.setIfInBounds id (some c))[i]? = cells[i]? :=
    Array.getElem?_setIfInBounds_ne other.symm
  cases h with
  | leaf node cell => exact .leaf node (same.trans cell)
  | list node cell parts => exact .list node (same.trans cell) fun i hi => (parts i hi).set
  | dict node cell parts => exact .dict node (same.trans cell) fun e he => (parts e he).set

theorem Settled.leaf_cell {a : Atom} (h : Settled nodes cells id) (leaf : IsLeaf nodes id a) :
    cells[id]? = some (some (.atom a)) := by
  obtain ⟨tag, text, node, -, reads⟩ := leaf.node
  cases h with
  | leaf other cell =>
    obtain ⟨tag', text', node', -, reads'⟩ := other.node
    rw [node] at node'
    cases node'
    rw [reads] at reads'
    cases reads'
    exact cell
  | list other cell parts => rw [node] at other; cases other
  | dict other cell parts => rw [node] at other; cases other

theorem Settled.list_cell {items : List Nat} (h : Settled nodes cells id)
    (node : nodes[id]? = some ⟨.seq, .seq items⟩) :
    cells[id]? = some (some (.list items)) ∧ ∀ i ∈ items, Seen cells i := by
  cases h with
  | leaf other cell =>
    obtain ⟨tag, text, node', -, -⟩ := other.node
    rw [node] at node'
    cases node'
  | list other cell parts =>
    rw [node] at other
    cases other
    exact ⟨cell, parts⟩
  | dict other cell parts => rw [node] at other; cases other

theorem Settled.dict_cell {entries : List (Nat × Nat)} (h : Settled nodes cells id)
    (node : nodes[id]? = some ⟨.map, .map entries⟩) :
    cells[id]? = some (some (.dict (keyed nodes entries []))) ∧ ∀ e ∈ entries, Seen cells e.2 := by
  cases h with
  | leaf other cell =>
    obtain ⟨tag, text, node', -, -⟩ := other.node
    rw [node] at node'
    cases node'
  | list other cell parts => rw [node] at other; cases other
  | dict other cell parts =>
    rw [node] at other
    cases other
    exact ⟨cell, parts⟩

/-! ### States -/

def IsOpen (nodes : Array Yaml.Node) (id : Nat) : Prop :=
  ∃ n, nodes[id]? = some n ∧ ∀ text, n.content ≠ .scalar text

/-- Every cell that has been seen is settled, is among those `left` to be filled or waits for it. -/
structure Fills (nodes : Array Yaml.Node) (good : Nat → Prop) (left : List Nat) (s : Filling) :
    Prop where
  same : s.nodes = nodes
  size : s.cells.size = nodes.size
  opened : ∀ id ∈ left ++ s.waiting, good id ∧ IsOpen nodes id
  settled : ∀ id, Seen s.cells id → id ∈ left ++ s.waiting ∨ Settled nodes s.cells id

def potential (s : Filling) : Nat := s.cells.countP Option.isNone + s.waiting.length

structure Advances (s t : Filling) : Prop where
  seen : ∀ id, Seen s.cells id → Seen t.cells id
  potential : potential t ≤ potential s

variable {left : List Nat} {s t u : Filling}

theorem Advances.refl (s : Filling) : Advances s s := ⟨fun _ h => h, Nat.le_refl _⟩

theorem Advances.trans (h : Advances s t) (k : Advances t u) : Advances s u :=
  ⟨fun id seen => k.seen id (h.seen id seen), Nat.le_trans k.potential h.potential⟩

theorem countP_set_none (h : cells[id]? = some none) :
    (cells.setIfInBounds id (some c)).countP Option.isNone + 1 = cells.countP Option.isNone := by
  obtain ⟨inside, cell⟩ := Array.getElem?_eq_some_iff.mp h
  have some : 0 < cells.countP Option.isNone :=
    Array.countP_pos_iff.mpr ⟨none, cell ▸ Array.getElem_mem inside, rfl⟩
  rw [Array.setIfInBounds, dif_pos inside, Array.countP_set inside, cell]
  simp only [Option.isNone, if_true, Bool.false_eq_true, if_false]
  omega

theorem countP_set_le : (cells.setIfInBounds id (some c)).countP Option.isNone ≤
    cells.countP Option.isNone := by
  rw [Array.setIfInBounds]
  split
  · rw [Array.countP_set]
    simp only [Option.isNone, Bool.false_eq_true, if_false]
    omega
  · exact Nat.le_refl _

/-! ### Visiting -/

open Fill

theorem nodeAt_runs {n : Yaml.Node} (h : s.nodes[id]? = some n) : Runs (nodeAt id) s n s := by
  refine (runs_get s).bind ?_
  rw [h]
  exact runs_pure _ _

theorem scalarText_runs {tag : Tag} {text : String} (h : s.nodes[id]? = some ⟨tag, .scalar text⟩)
    (fuel : Nat) : Runs (scalarText (fuel + 1) id) s text s :=
  (nodeAt_runs h).bind (runs_pure _ _)

theorem visit_leaf {tag : Tag} {text : String} {a : Atom} (fresh : s.cells[id]? = some none)
    (node : s.nodes[id]? = some ⟨tag, .scalar text⟩) (simple : tag ∈ leafTags)
    (reads : atomOf tag text = .ok a) :
    Runs (visit id) s () { s with cells := s.cells.setIfInBounds id (some (.atom a)) } := by
  refine (runs_get s).bind ?_
  rw [fresh]
  refine (nodeAt_runs node).bind ?_
  have stays := scalarText_runs node s.nodes.size
  simp only [leafTags, List.mem_cons, List.not_mem_nil, or_false] at simple
  rcases simple with rfl | rfl | rfl | rfl | rfl
  all_goals
    refine stays.bind ?_
    simp only [reads]
    rfl

theorem visit_open {tag : Tag} {content : Content} (fresh : s.cells[id]? = some none)
    (node : s.nodes[id]? = some ⟨tag, content⟩) (collection : tag = .seq ∨ tag = .map) :
    Runs (visit id) s () { s with
      cells := s.cells.setIfInBounds id (some (.list [])), waiting := id :: s.waiting } := by
  refine (runs_get s).bind ?_
  rw [fresh]
  refine (nodeAt_runs node).bind ?_
  rcases collection with rfl | rfl <;> rfl

theorem visit_seen (seen : Seen s.cells id) : Runs (visit id) s () s := by
  obtain ⟨c, cell⟩ := seen
  refine (runs_get s).bind ?_
  rw [cell]
  exact runs_pure _ _

structure Reaches (nodes : Array Yaml.Node) (good : Nat → Prop) (left : List Nat) (s t : Filling) :
    Prop where
  fills : Fills nodes good left t
  advances : Advances s t

theorem Reaches.trans {left' : List Nat} (h : Reaches nodes good left s t)
    (k : Reaches nodes good left' t u) : Reaches nodes good left' s u :=
  ⟨k.fills, h.advances.trans k.advances⟩

theorem Fills.fresh_of_not_seen {n : Yaml.Node} (h : Fills nodes good left s)
    (node : nodes[id]? = some n)
    (unseen : ¬ Seen s.cells id) : s.cells[id]? = some none := by
  obtain ⟨inside, -⟩ := Array.getElem?_eq_some_iff.mp node
  have inside : id < s.cells.size := h.size ▸ inside
  cases cell : s.cells[id] with
  | none => rw [Array.getElem?_eq_getElem inside, cell]
  | some c => exact absurd ⟨c, by rw [Array.getElem?_eq_getElem inside, cell]⟩ unseen

/-- A cell is put in place, and is settled then unless it still has to be filled. -/
theorem Fills.put {left' waiting' : List Nat} (h : Fills nodes good left s)
    (opened : ∀ i ∈ left' ++ waiting', good i ∧ IsOpen nodes i)
    (kept : ∀ i ∈ left ++ s.waiting, i ≠ id → i ∈ left' ++ waiting')
    (done : id ∈ left' ++ waiting' ∨
      Settled nodes (s.cells.setIfInBounds id (some c)) id) :
    Fills nodes good left'
      { s with cells := s.cells.setIfInBounds id (some c), waiting := waiting' } := by
  refine ⟨h.same, ?_, opened, fun i known => ?_⟩
  · rw [← h.size, Array.size_setIfInBounds]
  · by_cases here : i = id
    · exact here ▸ done
    · have before : Seen s.cells i := by
        obtain ⟨c, cell⟩ := known
        exact ⟨c, (Array.getElem?_setIfInBounds_ne (Ne.symm here)).symm.trans cell⟩
      exact (h.settled i before).imp
        (fun waits => kept i waits here) fun settled => settled.set here

theorem Fills.visit_leaf {a : Atom} (h : Fills nodes good left s) (leaf : IsLeaf nodes id a) :
    ∃ t, Runs (visit id) s () t ∧ Reaches nodes good left s t ∧ Seen t.cells id := by
  by_cases seen : Seen s.cells id
  · exact ⟨s, visit_seen seen, ⟨h, .refl s⟩, seen⟩
  · obtain ⟨tag, text, node, simple, reads⟩ := leaf.node
    have fresh := h.fresh_of_not_seen node seen
    obtain ⟨inside, -⟩ := Array.getElem?_eq_some_iff.mp fresh
    have cell : (s.cells.setIfInBounds id (some (.atom a)))[id]? = some (some (.atom a)) := by
      rw [Array.getElem?_setIfInBounds, if_pos rfl, if_pos inside]
    refine ⟨_, Portable.visit_leaf fresh (h.same ▸ node) simple reads, ⟨?_, ?_⟩, seen_set inside⟩
    · exact h.put h.opened (fun i waits _ => waits) (.inr (.leaf leaf cell))
    · refine ⟨fun i known => known.set, ?_⟩
      have count := countP_set_none (c := .atom a) fresh
      simp only [potential]
      omega

theorem Fills.visit_open {tag : Tag} {content : Content} (h : Fills nodes good left s)
    (node : nodes[id]? = some ⟨tag, content⟩) (collection : tag = .seq ∨ tag = .map)
    (opens : good id ∧ IsOpen nodes id) :
    ∃ t, Runs (visit id) s () t ∧ Reaches nodes good left s t ∧ Seen t.cells id := by
  by_cases seen : Seen s.cells id
  · exact ⟨s, visit_seen seen, ⟨h, .refl s⟩, seen⟩
  · have fresh := h.fresh_of_not_seen node seen
    obtain ⟨inside, -⟩ := Array.getElem?_eq_some_iff.mp fresh
    have waits : id ∈ left ++ id :: s.waiting := by simp
    refine ⟨_, Portable.visit_open fresh (h.same ▸ node) collection, ⟨?_, ?_⟩, seen_set inside⟩
    · refine h.put (fun i hi => ?_) (fun i hi _ => ?_) (.inl waits)
      · simp only [List.mem_append, List.mem_cons] at hi
        rcases hi with hi | rfl | hi
        · exact h.opened i (List.mem_append.mpr (.inl hi))
        · exact opens
        · exact h.opened i (List.mem_append.mpr (.inr hi))
      · simp only [List.mem_append, List.mem_cons] at hi ⊢
        exact hi.imp_right .inr
    · refine ⟨fun i known => known.set, ?_⟩
      have count := countP_set_none (c := .list []) fresh
      simp only [potential, List.length_cons]
      omega

/-- A plain node is visited. -/
theorem Fills.visit (h : Fills nodes good left s) (plain : good id) (shape : Shape nodes good id) :
    ∃ t, Runs (visit id) s () t ∧ Reaches nodes good left s t ∧ Seen t.cells id := by
  cases shape with
  | leaf leaf => exact h.visit_leaf leaf
  | list node parts => exact h.visit_open node (.inl rfl) ⟨plain, _, node, nofun⟩
  | dict node keys parts short => exact h.visit_open node (.inr rfl) ⟨plain, _, node, nofun⟩

abbrev Plain (nodes : Array Yaml.Node) (good : Nat → Prop) : Prop :=
  ∀ id, good id → Shape nodes good id

theorem Fills.visitAll (plain : Plain nodes good) (h : Fills nodes good left s) {ids : List Nat}
    (all : ∀ i ∈ ids, good i) :
    ∃ t, Runs (visitAll ids) s () t ∧ Reaches nodes good left s t ∧ ∀ i ∈ ids, Seen t.cells i := by
  induction ids generalizing s with
  | nil => exact ⟨s, runs_pure _ _, ⟨h, .refl s⟩, nofun⟩
  | cons i more ih =>
    have first := all i List.mem_cons_self
    obtain ⟨t, visits, reaches, seen⟩ := h.visit first (plain i first)
    obtain ⟨u, others, further, rest⟩ :=
      ih reaches.fills fun j hj => all j (List.mem_cons_of_mem _ hj)
    refine ⟨u, visits.bind others, reaches.trans further, fun j hj => ?_⟩
    rcases List.mem_cons.mp hj with rfl | hj
    · exact further.advances.seen j seen
    · exact rest j hj

/-- A node of a text is a key. -/
theorem Fills.keyAtom {text : String} (h : Fills nodes good left s)
    (node : nodes[id]? = some ⟨.str, .scalar text⟩) :
    ∃ t, Runs (keyAtom id) s (keyOf nodes id) t ∧ Reaches nodes good left s t := by
  have leaf : IsLeaf nodes id (.text text) := ⟨.str, text, node, by simp [leafTags], rfl⟩
  obtain ⟨t, visits, reaches, seen⟩ := h.visit_leaf leaf
  have key : keyOf nodes id = .text text := by rw [keyOf, node]
  have cell : t.cells[id]? = some (some (.atom (.text text))) := by
    rcases reaches.fills.settled id seen with waits | settled
    · obtain ⟨-, n, other, opens⟩ := reaches.fills.opened id waits
      rw [node] at other
      cases other
      exact absurd rfl (opens text)
    · exact settled.leaf_cell leaf
  refine ⟨t, visits.bind ((runs_get t).bind ?_), reaches⟩
  rw [cell, key]
  exact runs_pure _ _

theorem Fills.dictEntries (plain : Plain nodes good) (h : Fills nodes good left s)
    {entries : List (Nat × Nat)}
    (keys : ∀ e ∈ entries, ∃ text, nodes[e.1]? = some ⟨.str, .scalar text⟩)
    (all : ∀ e ∈ entries, good e.2) (acc : List (Atom × Nat)) :
    ∃ t, Runs (dictEntries entries acc) s (keyed nodes entries acc) t ∧
      Reaches nodes good left s t ∧ ∀ e ∈ entries, Seen t.cells e.2 := by
  induction entries generalizing s acc with
  | nil => exact ⟨s, runs_pure _ _, ⟨h, .refl s⟩, nofun⟩
  | cons e more ih =>
    obtain ⟨text, node⟩ := keys e List.mem_cons_self
    have first := all e List.mem_cons_self
    obtain ⟨t, names, reaches⟩ := h.keyAtom node
    obtain ⟨u, visits, further, seen⟩ := reaches.fills.visit first (plain e.2 first)
    obtain ⟨v, others, last, rest⟩ := ih further.fills
      (fun e he => keys e (List.mem_cons_of_mem _ he))
      (fun e he => all e (List.mem_cons_of_mem _ he))
      (insertEntry (keyOf nodes e.1) e.2 acc)
    refine ⟨v, names.bind (visits.bind others), (reaches.trans further).trans last, fun f hf => ?_⟩
    rcases List.mem_cons.mp hf with rfl | hf
    · exact last.advances.seen _ seen
    · exact rest f hf

/-! ### Filling -/

theorem entriesOf_runs {tag : Tag} {entries : List (Nat × Nat)}
    (h : s.nodes[id]? = some ⟨tag, .map entries⟩) : Runs (entriesOf id) s entries s :=
  (nodeAt_runs h).bind (runs_pure _ _)

/-- A mapping whose keys are texts stays as it is. -/
theorem flatten_runs {tag : Tag} {entries : List (Nat × Nat)}
    (node : s.nodes[id]? = some ⟨tag, .map entries⟩)
    (keys : ∀ e ∈ entries, ∃ text, s.nodes[e.1]? = some ⟨.str, .scalar text⟩) {fuel index : Nat}
    (enough : entries.length < fuel + index) (inside : index ≤ entries.length) :
    Runs (flatten fuel id index []) s () s := by
  induction fuel generalizing index with
  | zero => omega
  | succ fuel ih =>
    rw [flatten]
    refine (entriesOf_runs node).bind ?_
    cases here : entries[index]? with
    | none => exact runs_pure _ _
    | some e =>
      obtain ⟨within, -⟩ := List.getElem?_eq_some_iff.mp here
      obtain ⟨text, key⟩ := keys e (List.mem_of_getElem? here)
      exact (nodeAt_runs key).bind (ih (by omega) within)

theorem setCell_runs (c : Cell) :
    Runs (setCell id c) s () { s with cells := s.cells.setIfInBounds id (some c) } := rfl

/-- The first of the cells that are left is put in place. -/
theorem Fills.fill (h : Fills nodes good (id :: left) s)
    (done : Settled nodes (s.cells.setIfInBounds id (some c)) id) :
    Reaches nodes good left s { s with cells := s.cells.setIfInBounds id (some c) } := by
  refine ⟨h.put (fun i hi => h.opened i (List.mem_cons_of_mem _ hi)) (fun i hi other => ?_)
    (.inr done),
    fun i known => known.set, ?_⟩
  · exact (List.mem_cons.mp hi).resolve_left other
  · exact Nat.add_le_add_right countP_set_le _

theorem Fills.fillCell (plain : Plain nodes good) (h : Fills nodes good (id :: left) s) :
    ∃ t, Runs (fillCell id) s () t ∧ Reaches nodes good left s t := by
  obtain ⟨known, n, opened, opens⟩ := h.opened id List.mem_cons_self
  have cell : ∀ {t : Filling} (c : Cell), Fills nodes good (id :: left) t →
      (t.cells.setIfInBounds id (some c))[id]? = some (some c) := fun c there => by
    obtain ⟨inside, -⟩ := Array.getElem?_eq_some_iff.mp opened
    rw [Array.getElem?_setIfInBounds, if_pos rfl, if_pos (there.size ▸ inside)]
  cases plain id known with
  | leaf leaf =>
    obtain ⟨tag, text, node, -, -⟩ := leaf.node
    rw [node] at opened
    cases opened
    exact absurd rfl (opens text)
  | list node parts =>
    rename_i items
    obtain ⟨t, visits, reaches, seen⟩ := h.visitAll plain parts
    have settled : Settled nodes (t.cells.setIfInBounds id (some (.list items))) id :=
      .list node (cell _ reaches.fills) fun i hi => (seen i hi).set
    refine ⟨_, ?_, reaches.trans (reaches.fills.fill settled)⟩
    exact (nodeAt_runs (h.same ▸ node)).bind (visits.bind (setCell_runs _))
  | dict node keys parts short =>
    rename_i entries
    obtain ⟨t, reads, reaches, seen⟩ := h.dictEntries plain keys parts []
    have settled : Settled nodes
        (t.cells.setIfInBounds id (some (.dict (keyed nodes entries [])))) id :=
      .dict node (cell _ reaches.fills) fun e he => (seen e he).set
    refine ⟨_, ?_, reaches.trans (reaches.fills.fill settled)⟩
    have here : s.nodes[id]? = some ⟨.map, .map entries⟩ := h.same ▸ node
    refine (nodeAt_runs here).bind ?_
    have enough : entries.length < stepLimit + 0 := short
    refine (flatten_runs here (h.same ▸ keys) enough (Nat.zero_le _)).bind ?_
    exact (entriesOf_runs here).bind (reads.bind (setCell_runs _))

theorem Fills.fillAll (plain : Plain nodes good) (h : Fills nodes good left s) :
    ∃ t, Runs (fillAll left) s () t ∧ Reaches nodes good [] s t := by
  induction left generalizing s with
  | nil => exact ⟨s, runs_pure _ _, h, .refl s⟩
  | cons id more ih =>
    obtain ⟨t, first, reaches⟩ := h.fillCell plain
    obtain ⟨u, others, further⟩ := ih reaches.fills
    exact ⟨u, first.bind others, reaches.trans further⟩

/-- Every round fills cells that wait, so rounds end within the potential. -/
theorem Fills.fillWaiting (plain : Plain nodes good) (h : Fills nodes good [] s) {fuel : Nat}
    (enough : potential s < fuel) :
    ∃ t, Runs (fillWaiting fuel) s () t ∧ Reaches nodes good [] s t ∧ t.waiting = [] := by
  induction fuel generalizing s with
  | zero => omega
  | succ fuel ih =>
    cases waiting : s.waiting with
    | nil =>
      refine ⟨s, (runs_get s).bind ?_, ⟨h, .refl s⟩, waiting⟩
      rw [waiting]
      exact runs_pure _ _
    | cons id more =>
      let emptied : Filling := { s with waiting := [] }
      have stands : Fills nodes good (id :: more).reverse emptied := by
        refine ⟨h.same, h.size, fun i hi => h.opened i ?_, fun i seen => ?_⟩
        · simpa [emptied, waiting, or_comm] using hi
        · exact (h.settled i seen).imp
            (fun waits => by simpa [emptied, waiting, or_comm] using waits)
            fun settled => settled
      obtain ⟨t, fills, reaches⟩ := stands.fillAll plain
      have less : potential t < fuel := by
        have bound := reaches.advances.potential
        simp only [potential, emptied, List.length_nil] at bound
        simp only [potential, waiting, List.length_cons] at enough ⊢
        omega
      obtain ⟨u, rounds, further, done⟩ := ih reaches.fills less
      have emptying : Advances s emptied := by
        refine ⟨fun i seen => seen, ?_⟩
        simp only [potential, emptied, List.length_nil]
        omega
      refine ⟨u, (runs_get s).bind ?_, ⟨further.fills, ?_⟩, done⟩
      · rw [waiting]
        have empties : Runs (modify fun s : Filling => { s with waiting := [] } : Fill Unit) s ()
            emptied := rfl
        exact empties.bind (fills.bind rounds)
      · exact (emptying.trans reaches.advances).trans further.advances

end SchemaChecks.Portable
