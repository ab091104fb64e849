import Mathlib
import SchemaChecks.Proofs.Dictionaries
import SchemaChecks.Proofs.Raises

/-!
How the reading of a YAML text can break off without an answer about its form: at a token, or at a
scalar that its tag promises to be readable. What it gives has no key twice in a dictionary.
-/

namespace SchemaChecks.Yaml

inductive IsTokenFault : ScalarFault → Prop
  | tooManyDigits {n : Nat} (h : Number.digitLimit < n) : IsTokenFault (.tooManyDigits n)
  | notACharacter {code : Nat} (h : 0x110000 ≤ code) : IsTokenFault (.notACharacter code)

def IsStreamFault : Fault → Prop
  | .malformed => True
  | .tooDeep => False
  | .scalar f => IsTokenFault f

/-! ### Tokens -/

abbrev Lexes {α : Type} (x : Except Fault α) : Prop := x.Raises IsStreamFault

variable {fuel : Nat} {c : Cursor}

@[grind ←]
theorem malformed_lexes {α : Type} : Lexes (.error .malformed : Except Fault α) :=
  Except.raises_error trivial

@[grind ←]
theorem anchorName_lexes : Lexes (anchorName c) := by
  unfold anchorName
  grind

@[grind ←]
theorem uriBytes_lexes (acc : List UInt8) : Lexes (uriBytes fuel acc c) := by
  induction fuel generalizing acc c with
  | zero => exact Except.raises_ok _
  | succ fuel ih =>
    unfold uriBytes
    grind

@[grind ←]
theorem uriChars_lexes (acc : List Char) : Lexes (uriChars fuel acc c) := by
  induction fuel generalizing acc c with
  | zero => exact Except.raises_ok _
  | succ fuel ih =>
    unfold uriChars
    grind

@[grind ←]
theorem uri_lexes : Lexes (uri c) := by
  unfold uri
  grind

@[grind ←]
theorem tagHandle_lexes : Lexes (tagHandle c) := by
  unfold tagHandle
  grind

@[grind ←]
theorem afterTag_lexes (t : Token) : Lexes (afterTag t c) := by
  unfold afterTag
  grind

@[grind ←]
theorem tag_lexes : Lexes (tag c) := by
  unfold tag
  grind

@[grind ←]
theorem endOfLine_lexes : Lexes (endOfLine c) := by
  unfold endOfLine
  grind

@[grind ←]
theorem versionNumber_lexes : Lexes (versionNumber c) := by
  unfold versionNumber
  dsimp only
  split
  · exact malformed_lexes
  · split
    next long => exact Except.raises_error (.tooManyDigits long)
    next => exact Except.raises_ok _

@[grind ←]
theorem versionDirective_lexes : Lexes (versionDirective c) := by
  unfold versionDirective
  grind

@[grind ←]
theorem tagDirective_lexes : Lexes (tagDirective c) := by
  unfold tagDirective
  grind

@[grind ←]
theorem directive_lexes : Lexes (directive c) := by
  unfold directive
  grind

@[grind ←]
theorem indentDigit_lexes : Lexes (indentDigit c) := by
  unfold indentDigit
  grind

@[grind ←]
theorem blockHeader_lexes : Lexes (blockHeader c) := by
  unfold blockHeader
  grind

@[grind ←]
theorem blockScalar_lexes (folded : Bool) (indent : Int) : Lexes (blockScalar folded indent c) := by
  unfold blockScalar
  grind

@[grind ←]
theorem charOfCode_lexes (code : Nat) : Lexes (charOfCode code) := by
  unfold charOfCode
  split
  next large => exact Except.raises_error (.notACharacter large)
  next => exact Except.raises_ok _

@[grind ←]
theorem quotedBreaks_lexes (acc : List Char) : Lexes (quotedBreaks fuel acc c) := by
  induction fuel generalizing acc c with
  | zero => exact Except.raises_ok _
  | succ fuel ih =>
    unfold quotedBreaks
    grind

@[grind ←]
theorem quotedEscape_lexes (acc : List Char) : Lexes (quotedEscape acc c) := by
  unfold quotedEscape
  grind

@[grind ←]
theorem quotedSpaces_lexes (acc : List Char) : Lexes (quotedSpaces acc c) := by
  unfold quotedSpaces
  grind

@[grind ←]
theorem quotedText_lexes (double : Bool) (acc : List Char) :
    Lexes (quotedText double fuel acc c) := by
  induction fuel generalizing acc c with
  | zero => exact malformed_lexes
  | succ fuel ih =>
    unfold quotedText
    grind

@[grind ←]
theorem quotedScalar_lexes (double : Bool) : Lexes (quotedScalar double c) := by
  unfold quotedScalar
  grind

namespace Scanner

variable {s : Scanner}

@[grind ←]
theorem dropStale_lexes : Lexes s.dropStale := by
  unfold dropStale
  grind

@[grind ←]
theorem dropCandidate_lexes : Lexes s.dropCandidate := by
  unfold dropCandidate
  grind

@[grind ←]
theorem noteCandidate_lexes : Lexes s.noteCandidate := by
  unfold noteCandidate
  grind

@[grind ←]
theorem enterBlock_lexes (opening : Token) : Lexes (s.enterBlock opening) := by
  unfold enterBlock
  grind

@[grind ←]
theorem fetchStreamEnd_lexes : Lexes s.fetchStreamEnd := by
  unfold fetchStreamEnd
  grind

@[grind ←]
theorem fetchDirective_lexes : Lexes s.fetchDirective := by
  unfold fetchDirective
  grind

@[grind ←]
theorem fetchDocumentMark_lexes (t : Token) : Lexes (s.fetchDocumentMark t) := by
  unfold fetchDocumentMark
  grind

@[grind ←]
theorem fetchFlowStart_lexes (t : Token) : Lexes (s.fetchFlowStart t) := by
  unfold fetchFlowStart
  grind

@[grind ←]
theorem fetchFlowEnd_lexes (t : Token) : Lexes (s.fetchFlowEnd t) := by
  unfold fetchFlowEnd
  grind

@[grind ←]
theorem fetchFlowEntry_lexes : Lexes s.fetchFlowEntry := by
  unfold fetchFlowEntry
  grind

@[grind ←]
theorem fetchBlockEntry_lexes : Lexes s.fetchBlockEntry := by
  unfold fetchBlockEntry
  grind

@[grind ←]
theorem fetchKey_lexes : Lexes s.fetchKey := by
  unfold fetchKey
  grind

@[grind ←]
theorem fetchPlain_lexes : Lexes s.fetchPlain := by
  unfold fetchPlain
  grind

@[grind ←]
theorem fetchWith_lexes {read : Cursor → Except Fault (Token × Cursor)}
    (h : ∀ c, Lexes (read c)) : Lexes (s.fetchWith read) := by
  unfold fetchWith
  grind

@[grind ←]
theorem fetchBlockScalar_lexes (folded : Bool) : Lexes (s.fetchBlockScalar folded) := by
  unfold fetchBlockScalar
  grind

@[grind ←]
theorem fetchValue_lexes : Lexes s.fetchValue := by
  unfold fetchValue
  grind

theorem named_lexes (mark : String → Token) (c : Cursor) :
    Lexes ((anchorName c).map fun (n, after) => (mark n, after)) := .map anchorName_lexes

theorem fetchAtToken_lexes : Lexes s.fetchAtToken := by
  have named := named_lexes
  unfold fetchAtToken
  dsimp only
  repeat' apply Except.Raises.ite
  all_goals grind

theorem fetch_lexes : Lexes s.fetch := by
  unfold fetch
  exact .bind dropStale_lexes fun _ => fetchAtToken_lexes

theorem run_fault {fuel : Nat} {acc : List Token} {s : Scanner} {e : Fault}
    (h : (run fuel acc s).fault = some e) : IsStreamFault e := by
  induction fuel generalizing acc s with
  | zero => cases h
  | succ fuel ih =>
    unfold run at h
    split at h
    · cases h
    · split at h
      · split at h
        next e' fails =>
          cases h
          exact fetch_lexes e fails
        next => exact ih h
      · split at h
        next e' fails =>
          cases h
          exact dropStale_lexes e fails
        next =>
          split at h
          · split at h
            next e' fails =>
              cases h
              exact fetch_lexes e fails
            next => exact ih h
          · exact ih h

end Scanner

theorem stream_fault {text : List Char} {e : Fault} (h : (TokenStream.ofText text).fault = some e) :
    IsStreamFault e := by
  unfold TokenStream.ofText at h
  split at h
  · cases h
    trivial
  · exact Scanner.run_fault h

/-! ### Nodes -/

namespace Compose

def IsFault (waiting : Option Fault) (e : Fault) : Prop :=
  e = .malformed ∨ e = .tooDeep ∨ waiting = some e

abbrev Composes {α : Type} (waiting : Option Fault) (m : Compose α) : Prop :=
  m.Raises (fun s => s.fault = waiting) (IsFault waiting)

variable {α : Type} {w : Option Fault} {fuel depth : Nat}

@[grind ←]
theorem malformed_composes : Composes w (malformed : Compose α) := StateT.raises_throw (.inl rfl)

@[grind ←]
theorem tooDeep_composes : Composes w (throw .tooDeep : Compose α) :=
  StateT.raises_throw (.inr (.inl rfl))

@[grind ←]
theorem peek_composes : Composes w peek := by
  unfold peek
  refine StateT.raises_get_bind fun s hs => ?_
  split
  · exact StateT.raises_pure _
  · refine StateT.raises_throw ?_
    cases hf : s.fault with
    | none => exact .inl rfl
    | some e => exact .inr (.inr (hs.symm.trans hf))

@[grind ←]
theorem skip_composes : Composes w skip := StateT.raises_modify fun _ hs => hs

@[grind ←]
theorem accept_composes (t : Token) : Composes w (accept t) := by
  unfold accept
  grind

@[grind ←]
theorem addNode_composes (n : Node) : Composes w (addNode n) := by
  unfold addNode
  grind

@[grind ←]
theorem setContent_composes (id : Nat) (c : Content) : Composes w (setContent id c) :=
  StateT.raises_modify fun _ hs => hs

@[grind ←]
theorem bind_composes (anchor : Option String) (id : Nat) : Composes w (bind anchor id) := by
  unfold bind
  grind

@[grind ←]
theorem emptyNode_composes : Composes w emptyNode := addNode_composes _

@[grind ←]
theorem properties_composes : Composes w properties := by
  unfold properties
  refine .bind peek_composes fun first => ?_
  split
  · refine .bind skip_composes fun _ => .bind peek_composes fun second => ?_
    split
    · exact .bind skip_composes fun _ => StateT.raises_pure _
    · exact StateT.raises_pure _
  · refine .bind skip_composes fun _ => .bind peek_composes fun second => ?_
    split
    · exact .bind skip_composes fun _ => StateT.raises_pure _
    · exact StateT.raises_pure _
  · exact StateT.raises_pure _

@[grind ←]
theorem writtenTag_composes (t : Option (Option String × String)) : Composes w (writtenTag t) := by
  unfold writtenTag
  grind

@[grind ←]
theorem checkAnchor_composes (anchor : Option String) : Composes w (checkAnchor anchor) := by
  unfold checkAnchor
  grind

@[grind ←]
theorem collection_composes {members : Compose Content} (anchor : Option String) (tag : Tag)
    (h : Composes w members) : Composes w (collection anchor tag members) := by
  unfold collection
  grind

@[grind ←]
theorem comma_composes (first : Bool) : Composes w (comma first) := by
  unfold comma
  grind

@[grind ←]
theorem emptyOrMalformed_composes (anchor : Option String) (written : Written) :
    Composes w (emptyOrMalformed anchor written) := by
  unfold emptyOrMalformed
  grind

/-- The value after a key of a flow collection, which may be left out. -/
theorem flowValue_composes (stop : Token → Bool) {read : Compose Nat} {use : Nat → Compose α}
    (reads : Composes w read) (uses : ∀ v, Composes w (use v)) : Composes w (do
      if ← accept .value then
        let t ← peek
        if stop t then
          let v ← emptyNode
          use v
        else
          let v ← read
          use v
      else
        let v ← emptyNode
        use v) := by
  refine .bind (accept_composes _) fun given => .ite ?_ (.bind emptyNode_composes uses)
  refine .bind peek_composes fun t => .ite (.bind emptyNode_composes uses) (.bind reads uses)

structure PartsCompose (w : Option Fault) (fuel : Nat) : Prop where
  node (depth : Nat) (block indentless : Bool) : Composes w (node fuel depth block indentless)
  blockItems (depth : Nat) : Composes w (blockItems fuel depth)
  indentlessItems (depth : Nat) : Composes w (indentlessItems fuel depth)
  blockPart (depth : Nat) : Composes w (blockPart fuel depth)
  blockEntries (depth : Nat) : Composes w (blockEntries fuel depth)
  flowItems (depth : Nat) (first : Bool) : Composes w (flowItems fuel depth first)
  flowEntries (depth : Nat) (first : Bool) : Composes w (flowEntries fuel depth first)

section step

variable (parts : PartsCompose w fuel)
include parts

omit parts in
/-- A collection with an anchor, unless it is nested too deeply. -/
theorem opens_composes (anchor : Option String) (tag : Tag) {members : Nat → Compose Content}
    (h : ∀ depth, Composes w (members depth)) : Composes w (do
      checkAnchor anchor
      match depth with
      | 0 => throw .tooDeep
      | depth + 1 => collection anchor tag (members depth)) := by
  refine .bind (checkAnchor_composes _) fun _ => ?_
  cases depth with
  | zero => exact tooDeep_composes
  | succ depth => exact collection_composes _ _ (h depth)

theorem node_step (block indentless : Bool) :
    Composes w (node (fuel + 1) depth block indentless) := by
  unfold node
  refine .bind peek_composes fun first => ?_
  split
  · refine .bind skip_composes fun _ => StateT.raises_get_bind fun s _ => ?_
    grind
  · refine .bind properties_composes fun properties => ?_
    refine .bind (writtenTag_composes _) fun written => .bind peek_composes fun t => ?_
    dsimp only
    split
    · refine .bind skip_composes fun _ => .bind (checkAnchor_composes _) fun _ => ?_
      refine .bind (addNode_composes _) fun id => .bind (bind_composes _ _) fun _ => ?_
      exact StateT.raises_pure _
    · refine .bind skip_composes fun _ => opens_composes _ _ fun depth => ?_
      exact .bind (parts.flowItems _ _) fun _ => StateT.raises_pure _
    · refine .bind skip_composes fun _ => opens_composes _ _ fun depth => ?_
      exact .bind (parts.flowEntries _ _) fun _ => StateT.raises_pure _
    · refine .ite (.bind skip_composes fun _ => opens_composes _ _ fun depth => ?_) ?_
      · exact .bind (parts.blockItems _) fun _ => StateT.raises_pure _
      · exact emptyOrMalformed_composes _ _
    · refine .ite (.bind skip_composes fun _ => opens_composes _ _ fun depth => ?_) ?_
      · exact .bind (parts.blockEntries _) fun _ => StateT.raises_pure _
      · exact emptyOrMalformed_composes _ _
    · refine .ite (opens_composes _ _ fun depth => ?_) (emptyOrMalformed_composes _ _)
      exact .bind (parts.indentlessItems _) fun _ => StateT.raises_pure _
    · exact emptyOrMalformed_composes _ _

theorem blockItems_step : Composes w (blockItems (fuel + 1) depth) := by
  have entry := parts.node depth
  have more := parts.blockItems depth
  unfold blockItems
  grind

theorem indentlessItems_step : Composes w (indentlessItems (fuel + 1) depth) := by
  have entry := parts.node depth
  have more := parts.indentlessItems depth
  unfold indentlessItems
  grind

theorem blockPart_step : Composes w (blockPart (fuel + 1) depth) := by
  have entry := parts.node depth
  unfold blockPart
  grind

theorem blockEntries_step : Composes w (blockEntries (fuel + 1) depth) := by
  have part := parts.blockPart depth
  have more := parts.blockEntries depth
  unfold blockEntries
  grind

theorem flowItems_step (first : Bool) : Composes w (flowItems (fuel + 1) depth first) := by
  have more := parts.flowItems depth
  unfold flowItems
  refine .bind (accept_composes _) fun closed => .ite (StateT.raises_pure _) ?_
  refine .bind (comma_composes _) fun _ => .bind peek_composes fun t => ?_
  split
  · cases depth with
    | zero => exact tooDeep_composes
    | succ depth =>
      have entry := parts.node depth
      refine .bind (collection_composes _ _ ?_) fun id => ?_
      · refine .bind skip_composes fun _ => .bind peek_composes fun t => ?_
        have value (k : Nat) :=
          flowValue_composes (fun t => t = .flowEntry || t = .flowSequenceEnd) (entry false false)
            fun v => StateT.raises_pure (Content.map [(k, v)])
        exact .ite (.bind emptyNode_composes value) (.bind (entry _ _) value)
      · exact .bind (more _) fun _ => StateT.raises_pure _
  · exact .bind skip_composes fun _ => StateT.raises_pure _
  · refine .bind (parts.node _ _ _) fun id => ?_
    exact .bind (more _) fun _ => StateT.raises_pure _

theorem flowEntries_step (first : Bool) : Composes w (flowEntries (fuel + 1) depth first) := by
  have entry := parts.node depth
  have more := parts.flowEntries depth
  unfold flowEntries
  refine .bind (accept_composes _) fun closed => .ite (StateT.raises_pure _) ?_
  refine .bind (comma_composes _) fun _ => .bind peek_composes fun t => ?_
  split
  · refine .bind skip_composes fun _ => .bind peek_composes fun t => ?_
    have value (k : Nat) :=
      flowValue_composes (fun t => t = .flowEntry || t = .flowMappingEnd) (entry false false)
        fun v => .bind (more false) fun rest => StateT.raises_pure ((k, v) :: rest)
    exact .ite (.bind emptyNode_composes value) (.bind (entry _ _) value)
  · exact .bind skip_composes fun _ => StateT.raises_pure _
  · refine .bind (entry _ _) fun id => .bind emptyNode_composes fun v => ?_
    exact .bind (more _) fun _ => StateT.raises_pure _

end step

theorem partsCompose (w : Option Fault) (fuel : Nat) : PartsCompose w fuel := by
  induction fuel with
  | zero =>
    constructor
    · intros; unfold node; exact tooDeep_composes
    · intros; unfold blockItems; exact tooDeep_composes
    · intros; unfold indentlessItems; exact tooDeep_composes
    · intros; unfold blockPart; exact tooDeep_composes
    · intros; unfold blockEntries; exact tooDeep_composes
    · intros; unfold flowItems; exact tooDeep_composes
    · intros; unfold flowEntries; exact tooDeep_composes
  | succ fuel ih =>
    exact {
      node := fun _ => node_step ih
      blockItems := fun _ => blockItems_step ih
      indentlessItems := fun _ => indentlessItems_step ih
      blockPart := fun _ => blockPart_step ih
      blockEntries := fun _ => blockEntries_step ih
      flowItems := fun _ => flowItems_step ih
      flowEntries := fun _ => flowEntries_step ih }

theorem directives_composes (versioned : Bool) (handles : List (String × String)) :
    Composes w (directives fuel versioned handles) := by
  induction fuel generalizing versioned handles with
  | zero => exact StateT.raises_pure _
  | succ fuel ih =>
    unfold directives
    grind

theorem documentStart_composes : Composes w documentStart := by
  unfold documentStart
  refine StateT.raises_get_bind fun s _ => .bind (directives_composes _ _) fun handles => ?_
  refine .bind (StateT.raises_modify fun _ hs => hs) fun _ => ?_
  exact .bind (accept_composes _) fun _ => .ite (StateT.raises_pure _) malformed_composes

theorem skipEnds_composes : Composes w (skipEnds fuel) := by
  induction fuel with
  | zero => exact StateT.raises_pure _
  | succ fuel ih =>
    unfold skipEnds
    exact .bind (accept_composes _) fun _ => .ite ih (StateT.raises_pure _)

/-- After its root node a document is at the end of the stream. -/
theorem finish_composes (root : Nat) : Composes w (do
    discard peek
    let _ ← accept .documentEnd
    skipEnds fuel
    match ← peek with
    | .streamEnd => pure (some root)
    | _ => do
      documentStart
      malformed) := by
  refine .bind (.discard peek_composes) fun _ => .bind (accept_composes _) fun _ => ?_
  refine .bind skipEnds_composes fun _ => .bind peek_composes fun t => ?_
  split
  · exact StateT.raises_pure _
  · exact .bind documentStart_composes fun _ => malformed_composes

theorem document_composes : Composes w document := by
  have root (fuel depth : Nat) : Composes w (node fuel depth true false) :=
    (partsCompose w fuel).node _ _ _
  unfold document
  refine StateT.raises_get_bind fun s _ => .bind peek_composes fun t => ?_
  dsimp only
  split
  · exact StateT.raises_pure _
  -- A document that starts explicitly may be empty.
  iterate 2
    · refine .bind documentStart_composes fun _ => .bind peek_composes fun t => ?_
      split
      iterate 4
        · exact .bind emptyNode_composes finish_composes
      · exact .bind (root _ _) finish_composes
  · exact .bind (root _ _) finish_composes

end Compose

/-- A text has no graph if it is not well-formed or nests too deep, or because of a token. -/
theorem graph_error {text : List Char} {e : Fault} (h : Graph.ofText text = .error e) :
    e = .malformed ∨ e = .tooDeep ∨ (TokenStream.ofText text).fault = some e := by
  unfold Graph.ofText at h
  dsimp only at h
  split at h
  next e' fails =>
    cases h
    exact (Compose.document_composes _ rfl).1 e fails
  next => cases h
  next => cases h

/-! ### Values -/

/-- A scalar of the graph that cannot be read under the tag of a node, its own or one to which it is
lent; or a mapping that is tagged as a time. -/
inductive Unreadable (nodes : Array Node) : ScalarFault → Prop
  | leaf {a b : Node} {text : String} {f : ScalarFault} (tagged : a ∈ nodes) (said : b ∈ nodes)
      (scalar : b.content = .scalar text) (unread : atomOf a.tag text = .error (.scalar f)) :
      Unreadable nodes f
  | timestampOfMapping {a : Node} (tagged : a ∈ nodes) (time : a.tag = .timestamp) :
      Unreadable nodes .timestampOfMapping

namespace Fill

structure Known (nodes : Array Node) (n : Node) : Prop where
  tag : n.tag = .str ∨ ∃ a ∈ nodes, a.tag = n.tag
  scalar : ∀ text, n.content = .scalar text → ∃ b ∈ nodes, b.content = .scalar text

def IsFault (nodes : Array Node) : Fault → Prop
  | .malformed | .tooDeep => True
  | .scalar f => Unreadable nodes f

def IsApart : Cell → Prop
  | .dict entries => Atom.Apart (entries.map Prod.fst)
  | _ => True

structure Kept (nodes : Array Node) (s : Filling) : Prop where
  known : ∀ n ∈ s.nodes, Known nodes n
  apart : ∀ c, some c ∈ s.cells → IsApart c

abbrev Fills {α : Type} (nodes : Array Node) (m : Fill α) : Prop :=
  m.Raises (Kept nodes) (IsFault nodes)

variable {α : Type} {nodes : Array Node} {fuel : Nat}

@[grind ←]
theorem malformed_fills : Fills nodes (malformed : Fill α) := StateT.raises_throw trivial

@[grind ←]
theorem tooDeep_fills : Fills nodes (throw .tooDeep : Fill α) := StateT.raises_throw trivial

/-- What is said of a node that is looked up holds of every known node. -/
@[grind ←]
theorem nodeAt_bind {id : Nat} {use : Node → Fill α}
    (h : ∀ n, Known nodes n → Fills nodes (use n)) :
    Fills nodes (nodeAt id >>= use) := by
  unfold nodeAt
  rw [bind_assoc]
  refine StateT.raises_get_bind fun s kept => ?_
  cases hn : s.nodes[id]? with
  | none => exact malformed_fills
  | some n =>
    rw [pure_bind]
    exact h n (kept.known n (Array.mem_of_getElem? hn))

theorem setNode_fills (id : Nat) {n : Node} (hn : Known nodes n) : Fills nodes (setNode id n) := by
  refine StateT.raises_modify fun s kept => ⟨fun m hm => ?_, kept.apart⟩
  rcases Array.mem_or_eq_of_mem_setIfInBounds hm with old | rfl
  · exact kept.known m old
  · exact hn

theorem setCell_fills (id : Nat) {c : Cell} (hc : IsApart c) : Fills nodes (setCell id c) := by
  refine StateT.raises_modify fun s kept => ⟨kept.known, fun d hd => ?_⟩
  rcases Array.mem_or_eq_of_mem_setIfInBounds hd with old | new
  · exact kept.apart d old
  · cases new
    exact hc

theorem wait_fills (f : List Nat → List Nat) :
    Fills nodes (modify fun s => { s with waiting := f s.waiting }) :=
  StateT.raises_modify fun _ kept => ⟨kept.known, kept.apart⟩

@[grind ←]
theorem entriesOf_fills (id : Nat) : Fills nodes (entriesOf id) := by
  unfold entriesOf
  refine nodeAt_bind fun n _ => ?_
  grind

@[grind ←]
theorem setEntries_fills (id : Nat) (entries : List (Nat × Nat)) :
    Fills nodes (setEntries id entries) := by
  unfold setEntries
  refine nodeAt_bind fun n hn => setNode_fills id ⟨hn.tag, fun text h => ?_⟩
  cases h

structure MergesFill (nodes : Array Node) (fuel : Nat) : Prop where
  flatten (id index : Nat) (merged : List (Nat × Nat)) :
    Fills nodes (flatten fuel id index merged)
  mergeSource (id : Nat) : Fills nodes (mergeSource fuel id)
  mergeSources (items : List Nat) : Fills nodes (mergeSources fuel items)

theorem mergesFill (nodes : Array Node) (fuel : Nat) : MergesFill nodes fuel := by
  induction fuel with
  | zero =>
    constructor
    · intros; unfold flatten; exact tooDeep_fills
    · intros; unfold mergeSource; exact tooDeep_fills
    · intros; unfold mergeSources; exact tooDeep_fills
  | succ fuel ih =>
    obtain ⟨flattens, merges, mergesAll⟩ := ih
    constructor
    · intro id index merged
      unfold flatten
      refine .bind (entriesOf_fills _) fun entries => ?_
      split
      · exact .ite (StateT.raises_pure _) (setEntries_fills _ _)
      · refine nodeAt_bind fun key hkey => ?_
        split
        · exact .bind (setEntries_fills _ _) fun _ => .bind (merges _) fun _ => flattens _ _ _
        · exact .bind (setNode_fills _ ⟨.inl rfl, hkey.scalar⟩) fun _ => flattens _ _ _
        · exact flattens _ _ _
    · intro id
      unfold mergeSource
      refine nodeAt_bind fun n _ => ?_
      split
      · exact malformed_fills
      · exact .bind (flattens _ _ _) fun _ => entriesOf_fills _
      · exact .bind (mergesAll _) fun _ => StateT.raises_pure _
    · intro items
      unfold mergeSources
      split
      · exact StateT.raises_pure _
      · refine .bind (entriesOf_fills _) fun _ => .bind (flattens _ _ _) fun _ => ?_
        refine .bind (entriesOf_fills _) fun _ => .bind (mergesAll _) fun _ => ?_
        exact StateT.raises_pure _

/-- The text of a scalar is one that the graph says. -/
theorem scalarText_bind {id : Nat} {use : String → Fill α}
    (h : ∀ (b : Node) (text : String), b ∈ nodes → b.content = .scalar text →
      Fills nodes (use text)) :
    Fills nodes (scalarText fuel id >>= use) := by
  induction fuel generalizing id with
  | zero =>
    unfold scalarText
    exact tooDeep_fills
  | succ fuel ih =>
    unfold scalarText
    rw [bind_assoc]
    refine nodeAt_bind fun n hn => ?_
    split
    next text hc =>
      obtain ⟨b, hb, said⟩ := hn.scalar text hc
      rw [pure_bind]
      exact h b text hb said
    next => exact malformed_fills
    next =>
      rw [bind_assoc]
      refine StateT.raises_get_bind fun s _ => ?_
      dsimp only
      split
      · exact ih
      · exact malformed_fills

@[grind ←]
theorem visit_fills (id : Nat) : Fills nodes (visit id) := by
  unfold visit
  refine StateT.raises_get_bind fun s _ => ?_
  split
  · refine nodeAt_bind fun n hn => ?_
    split
    iterate 5
      · exact .bind (setCell_fills _ trivial) fun _ => wait_fills (id :: ·)
    iterate 3
      · exact malformed_fills
    · refine scalarText_bind fun b text hb said => ?_
      split
      next time _ =>
        refine StateT.raises_throw ?_
        obtain text | ⟨a, ha, same⟩ := hn.tag
        · cases text.symm.trans time
        · exact .timestampOfMapping ha (same.trans time)
      next =>
        split
        next a read => exact setCell_fills _ trivial
        next e fails =>
          refine StateT.raises_throw ?_
          cases e with
          | malformed => trivial
          | tooDeep => trivial
          | scalar f =>
            obtain str | ⟨a, ha, same⟩ := hn.tag
            · rw [str] at fails
              cases fails
            · exact .leaf ha hb said (same ▸ fails)
  · exact StateT.raises_pure _

@[grind ←]
theorem keyAtom_fills (id : Nat) : Fills nodes (keyAtom id) := by
  unfold keyAtom
  refine .bind (visit_fills _) fun _ => StateT.raises_get_bind fun s _ => ?_
  grind

theorem keys_insertEntry (key : Atom) (id : Nat) (es : List (Atom × Nat)) :
    (insertEntry key id es).map Prod.fst = Atom.addKey key (es.map Prod.fst) := by
  induction es with
  | nil => rfl
  | cons e rest ih =>
    cases known : e.1.sameKey key with
    | true => simp [insertEntry, Atom.addKey, known]
    | false =>
      simp only [insertEntry, known, Bool.false_eq_true, if_false, List.map_cons, ih, Atom.addKey,
        List.any_cons, Bool.false_or]
      split <;> rfl

/-- The entries of a dictionary have keys that are apart. -/
theorem dictEntries_bind {entries : List (Nat × Nat)} {acc : List (Atom × Nat)}
    {use : List (Atom × Nat) → Fill α} (apart : Atom.Apart (acc.map Prod.fst))
    (h : ∀ es, Atom.Apart (es.map Prod.fst) → Fills nodes (use es)) :
    Fills nodes (dictEntries entries acc >>= use) := by
  induction entries generalizing acc with
  | nil =>
    unfold dictEntries
    rw [pure_bind]
    exact h acc apart
  | cons e rest ih =>
    unfold dictEntries
    rw [bind_assoc]
    refine .bind (keyAtom_fills _) fun key => ?_
    rw [bind_assoc]
    refine .bind (visit_fills _) fun _ => ih ?_
    rw [keys_insertEntry]
    exact apart.addKey key

@[grind ←]
theorem pairEntries_fills (ids : List Nat) : Fills nodes (pairEntries ids) := by
  induction ids with
  | nil => exact StateT.raises_pure _
  | cons id rest ih =>
    unfold pairEntries
    grind

@[grind ←]
theorem visitAll_fills (ids : List Nat) : Fills nodes (visitAll ids) := by
  induction ids with
  | nil => exact StateT.raises_pure _
  | cons id rest ih =>
    unfold visitAll
    grind

theorem fillCell_fills (id : Nat) : Fills nodes (fillCell id) := by
  have flattens := (mergesFill nodes stepLimit).flatten
  unfold fillCell
  refine nodeAt_bind fun n _ => ?_
  split
  · exact .bind (visitAll_fills _) fun _ => setCell_fills _ trivial
  · exact .bind (pairEntries_fills _) fun _ => setCell_fills _ trivial
  · exact .bind (pairEntries_fills _) fun _ => setCell_fills _ trivial
  · refine .bind (flattens _ _ _) fun _ => .bind (entriesOf_fills _) fun _ => ?_
    exact dictEntries_bind .nil fun _ apart => setCell_fills _ apart
  · refine .bind (flattens _ _ _) fun _ => .bind (entriesOf_fills _) fun _ => ?_
    exact dictEntries_bind .nil fun _ _ => setCell_fills _ trivial
  · exact malformed_fills

theorem fillAll_fills (ids : List Nat) : Fills nodes (fillAll ids) := by
  induction ids with
  | nil => exact StateT.raises_pure _
  | cons id rest ih =>
    unfold fillAll
    exact .bind (fillCell_fills _) fun _ => ih

theorem fillWaiting_fills : Fills nodes (fillWaiting fuel) := by
  induction fuel with
  | zero => exact StateT.raises_pure _
  | succ fuel ih =>
    unfold fillWaiting
    refine StateT.raises_get_bind fun s _ => ?_
    split
    · exact StateT.raises_pure _
    · refine .bind (wait_fills fun _ => []) fun _ => ?_
      exact .bind (fillAll_fills _) fun _ => ih

end Fill

/-- A heap breaks off at a fault of its nodes, or has cells whose keys are apart. -/
theorem heap_cases (g : Graph) : (Heap.ofGraph g).Raises (Fill.IsFault g.nodes) ∧
    ∀ h, Heap.ofGraph g = .ok h → ∀ c, some c ∈ h.cells → Fill.IsApart c := by
  have start : Fill.Kept g.nodes ⟨g.nodes, Array.replicate g.nodes.size none, []⟩ :=
    ⟨fun n hn => ⟨.inr ⟨n, hn, rfl⟩, fun text h => ⟨n, hn, h⟩⟩, fun c hc => by simp at hc⟩
  have fills : Fill.Fills g.nodes (do
      Fill.visit g.root
      Fill.fillWaiting (g.nodes.size + 1)) :=
    .bind (Fill.visit_fills _) fun _ => Fill.fillWaiting_fills
  obtain ⟨errors, kept⟩ := fills _ start
  unfold Heap.ofGraph
  dsimp only
  split
  next e fails =>
    refine ⟨Except.raises_error (errors e fails), fun h made => ?_⟩
    cases made
  next done =>
    refine ⟨Except.raises_ok _, fun h made => ?_⟩
    cases made
    exact (kept _ _ done).apart

/-- Taking the plain value of a cell breaks off at the bottom only. -/
theorem valueAt_raises {P : Fault → Prop} {bottom : Except Fault Value} (h : Heap)
    (hb : bottom.Raises P) (depth id : Nat) : (h.valueAt bottom depth id).Raises P := by
  induction depth generalizing id with
  | zero =>
    unfold Heap.valueAt
    grind
  | succ depth ih =>
    unfold Heap.valueAt
    split
    · exact Except.raises_ok _
    · exact Except.raises_ok _
    · exact .bind (Except.raises_mapM (fun _ => ih _) _) fun _ => Except.raises_ok _
    · refine .bind (Except.raises_mapM (fun e => ?_) _) fun _ => Except.raises_ok _
      exact .bind (ih _) fun _ => .bind (ih _) fun _ => Except.raises_ok _
    · refine .bind (Except.raises_mapM (fun e => ?_) _) fun _ => Except.raises_ok _
      exact .bind (ih _) fun _ => Except.raises_ok _
    · exact Except.raises_ok _

inductive BreaksOff (text : String) : ScalarFault → Prop
  | token {f : ScalarFault} (met : (TokenStream.ofText text.toList).fault = some (.scalar f))
      (kind : IsTokenFault f) : BreaksOff text f
  | scalar {g : Graph} {f : ScalarFault} (graph : Graph.ofText text.toList = .ok (some g))
      (unread : Unreadable g.nodes f) : BreaksOff text f

theorem breaksOff_of_heap {text : String} {f : ScalarFault}
    (h : Heap.ofText text = .error (.scalar f)) : BreaksOff text f := by
  unfold Heap.ofText at h
  split at h
  next e fails =>
    cases h
    rcases graph_error fails with same | same | met
    · cases same
    · cases same
    · exact .token met (stream_fault met)
  next => cases h
  next g composed =>
    cases hh : Heap.ofGraph g with
    | ok heap => simp [hh, Except.map] at h
    | error e =>
      obtain rfl : e = .scalar f := by simpa [hh, Except.map] using h
      exact .scalar composed ((heap_cases g).1 _ hh)

theorem breaksOff_of_read {text : String} {f : ScalarFault} (h : read text = .error (.scalar f)) :
    BreaksOff text f := by
  have deep : (Except.error .tooDeep : Except Fault Value).Raises (· = .tooDeep) :=
    Except.raises_error rfl
  unfold read at h
  split at h
  next e fails =>
    cases h
    exact breaksOff_of_heap fails
  next => cases h
  next heap _ => cases valueAt_raises heap deep _ _ _ h

end SchemaChecks.Yaml
