import Mathlib.Data.List.Nodup
import Mathlib.Data.List.Perm.Subperm
import SchemaChecks.Proofs.Interruption
import SchemaChecks.Proofs.WrittenModule

/-!
When a text can be written at a path. That depends on the directories on the way and on the names
that are taken, not on the text; and where a text has been written, another one can be.
-/

namespace SchemaChecks

namespace Disk

variable {d e f : Disk} {here place q : Place} {p directory : Path} {stem : String}

/-! ### Names of temporary files -/

theorem eightDigits_injective {j k : Nat} (same : eightDigits j = eightDigits k) : j = k := by
  have digits : ∀ k, (eightDigits k).toList =
      List.replicate (8 - (toString k).length) '0' ++ Nat.toDigits 10 k := by
    intro k
    rw [eightDigits, String.toList_append, String.toList_ofList]
    exact congrArg _ Nat.toList_repr
  have zeros : ∀ n, Nat.ofDigitChars 10 (List.replicate n '0') 0 = 0 := by
    intro n
    induction n with
    | zero => rfl
    | succ n ih => rw [List.replicate_succ, Nat.ofDigitChars_cons]; exact ih
  have value : ∀ k, Nat.ofDigitChars 10 (eightDigits k).toList 0 = k := by
    intro k
    rw [digits, Nat.ofDigitChars_append, zeros, Nat.ofDigitChars_ten_toDigits]
  rw [← value j, same, value]

theorem temporaryName_injective {j k : Nat} (same : temporaryName stem j = temporaryName stem k) :
    j = k := by
  rw [temporaryName_eq, temporaryName_eq] at same
  have lists := congrArg String.toList same
  simp only [String.toList_append, List.append_cancel_right_eq, List.append_cancel_left_eq] at lists
  exact eightDigits_injective (String.toList_inj.mp lists)

/-! ### The first free name -/

theorem mem_nodes_of_get? {n : Node} (inner : place ≠ []) (held : d.get? place = some n) :
    place ∈ d.nodes.map Prod.fst := by
  rw [get?, if_neg (by simpa using inner), List.lookup_eq_some_iff] at held
  obtain ⟨before, after, whole, -⟩ := held
  exact List.mem_map.mpr ⟨(place, n), by simp [whole], rfl⟩

/-- So many names are taken that there are as many nodes. -/
theorem le_length_of_taken {count : Nat} (absolute : directory.isAbsolute = true)
    (taken : ∀ n ∈ (List.range count).map (temporaryName stem),
      ∃ m, d.nodeAt here (beside directory n) = .ok m) : count ≤ d.nodes.length := by
  let places := (List.range count).map fun k =>
    Path.climb directory.names ++ [temporaryName stem k]
  have distinct : places.Nodup := by
    refine List.nodup_range.map fun j k same => ?_
    exact temporaryName_injective (by simpa using same)
  have known : places ⊆ d.nodes.map Prod.fst := by
    intro q hq
    obtain ⟨k, hk, rfl⟩ := List.mem_map.mp hq
    obtain ⟨m, used⟩ := taken _ (List.mem_map.mpr ⟨k, hk, rfl⟩)
    obtain ⟨q, hl, held⟩ := nodeAt_eq_ok.mp used
    obtain rfl := locate_beside absolute (temporaryName_ne_up stem k) hl
    exact mem_nodes_of_get? (by simp) held
  have lengths := (List.subperm_of_subset distinct known).length_le
  simpa [places] using lengths

/-- The part of a range before a number is the range of that number. -/
theorem range_before {count k : Nat} {earlier later : List Nat}
    (whole : List.range count = earlier ++ k :: later) :
    earlier = List.range k := by
  have short : earlier.length < count := by
    have lengths := congrArg List.length whole
    simp at lengths
    omega
  have number : k = earlier.length := by
    have entries := congrArg (·[earlier.length]?) whole
    simpa [List.getElem?_range short] using entries.symm
  have front := congrArg (List.take earlier.length) whole
  rw [List.take_range, Nat.min_eq_left (Nat.le_of_lt short), List.take_left] at front
  rw [number, front]

theorem range_through {count k : Nat} (short : k < count) :
    ∃ later, List.range count = List.range k ++ k :: later := by
  obtain ⟨more, rfl⟩ : ∃ more, count = k + (more + 1) := ⟨count - k - 1, by omega⟩
  rw [List.range_add, List.range_succ_eq_map, List.map_cons, Nat.add_zero]
  exact ⟨_, rfl⟩

/-- Where a temporary file has been made, another can be made under the same name once the first is
gone, if no directory and no name is lost. -/
theorem createTemporary_again {t : Path} (absolute : directory.isAbsolute = true)
    (hc : d.createTemporary here directory stem = .ok (t, e))
    (directories : ∀ q, d.get? q = some .directory → f.get? q = some .directory)
    (kept : ∀ q, d.get? q ≠ none → f.get? q ≠ none)
    (free : ∀ q, d.locate here t = .ok q → f.get? q = none) :
    ∃ g, f.createTemporary here directory stem = .ok (t, g) := by
  obtain ⟨found, written⟩ := createTemporary_eq_ok hc
  rw [temporaryNames_eq] at found
  obtain ⟨before, name, after, names, rfl, -, taken⟩ := firstFree_eq_some.mp found
  obtain ⟨earlier, others, range, rfl, rest⟩ := List.map_eq_append_iff.mp names
  obtain ⟨k, later, rfl, rfl, -⟩ := List.map_eq_cons_iff.mp rest
  obtain rfl := range_before range
  -- the names before the free one are taken still, so that there are nodes enough to get to it
  have still : ∀ n ∈ (List.range k).map (temporaryName stem),
      ∃ m, f.nodeAt here (beside directory n) = .ok m := by
    intro n hn
    obtain ⟨m, used⟩ := taken n hn
    obtain ⟨q, hl, held⟩ := nodeAt_eq_ok.mp used
    obtain ⟨m', held'⟩ := Option.ne_none_iff_exists'.mp (kept q (by simp [held]))
    exact ⟨m', nodeAt_eq_ok.mpr ⟨q, locate_mono directories hl, held'⟩⟩
  have enough := le_length_of_taken absolute still
  obtain ⟨later, through⟩ := range_through (Nat.lt_succ_of_le enough)
  have place : ∃ q, d.locate here (beside directory (temporaryName stem k)) = .ok q := by
    unfold write at written
    cases hl : d.locate here (beside directory (temporaryName stem k)) with
    | error x => simp [hl] at written
    | ok q => exact ⟨q, rfl⟩
  obtain ⟨q, hl⟩ := place
  have located := locate_mono directories hl
  have unused : f.nodeAt here (beside directory (temporaryName stem k)) = .error .notFound := by
    simp [nodeAt, located, free q hl]
  have first : f.firstFree here directory (f.temporaryNames stem) =
      some (beside directory (temporaryName stem k)) := by
    rw [temporaryNames_eq, through, List.map_append, List.map_cons]
    exact firstFree_eq_some.mpr ⟨_, _, _, rfl, rfl, ⟨_, unused⟩, still⟩
  refine ⟨f.put q (.file []), ?_⟩
  rw [createTemporary, first]
  simp [write, located, free q hl, Except.map]

/-- A walk goes on where its first part ends. -/
theorem walk_append (start : Place) (names more : List String) :
    d.walk start (names ++ more) = (d.walk start names).bind (d.walk · more) := by
  induction names generalizing start with
  | nil => rfl
  | cons name rest ih =>
    simp only [List.cons_append, walk]
    split
    · rfl
    · rfl
    · split
      · exact ih _
      · split
        · rfl
        · exact ih _

/-- Where a path in a directory leads somewhere, its directory is one. -/
theorem directory_of_locate_beside {name : String}
    (hl : d.locate here (beside directory name) = .ok q) :
    d.nodeAt here directory = .ok .directory := by
  unfold locate beside at hl
  rw [walk_append] at hl
  unfold nodeAt locate
  change (d.walk (if directory.isAbsolute then [] else here) directory.names).bind _ = _ at hl
  cases first : d.walk (if directory.isAbsolute then [] else here) directory.names with
  | error k => simp [first, Except.bind] at hl
  | ok place =>
    simp only [first, Except.bind, walk] at hl
    cases held : d.get? place with
    | none => simp [held] at hl
    | some n =>
      cases n with
      | file content => simp [held] at hl
      | directory => simp [held]

theorem Drafted.directory_iff {t : Path} {content : List UInt8} (h : Drafted d e here t q content)
    (x : Place) : e.get? x = some .directory ↔ d.get? x = some .directory := by
  rw [h.nodes]
  split
  · rename_i same
    simp [same, h.free]
  · rfl

/-- Whether a draft can be moved to a target depends on the target alone. -/
theorem Drafted.replace_iff {t : Path} {content : List UInt8} (h : Drafted d e here t q content)
    (absolute : p.isAbsolute = true) : (∃ f, e.replace here t p = .ok f) ↔
      (∃ place, d.locate here p = .ok place) ∧ d.get? (Path.climb p.names) ≠ some .directory := by
  constructor
  · rintro ⟨f, moved⟩
    obtain ⟨place, located, noDirectory, -⟩ := h.replace moved
    have located := locate_mono (fun x => (h.directory_iff x).mp) located
    exact ⟨⟨place, located⟩, locate_of_absolute absolute located ▸ noDirectory⟩
  · rintro ⟨⟨place, located⟩, noDirectory⟩
    obtain rfl := locate_of_absolute absolute located
    have located := locate_mono (fun x => (h.directory_iff x).mpr) located
    have held : e.get? q = some (.file content) := by rw [h.nodes, if_pos rfl]
    have reads : e.read here t = .ok content :=
      read_eq_ok.mpr (nodeAt_eq_ok.mpr ⟨q, h.located, held⟩)
    have target : e.get? (Path.climb p.names) ≠ some .directory :=
      fun directory => noDirectory ((h.directory_iff _).mp directory)
    unfold Disk.replace
    simp only [reads, h.located, located]
    exact ⟨_, rfl⟩

end Disk

open Program Host

namespace CompileRun

variable {h k l : Host} {p t : Path} {x : Place} {content : List UInt8}

theorem Drafted.replace_iff (d : Drafted k l t x content) (absolute : p.isAbsolute = true) :
    l.answer (Program.replace t p) = .ok () ↔ (∃ place, k.disk.locate l.here p = .ok place) ∧
      k.disk.get? (Path.climb p.names) ≠ some .directory := by
  rw [← d.disk.replace_iff absolute]
  change (l.moved t p).1 = .ok () ↔ _
  unfold moved
  cases l.disk.replace l.here t p <;> simp

theorem ensureDirectory_of_directory {q : Path} (accepted : q.isRefused = false)
    (directory : h.disk.nodeAt h.here q = .ok .directory) (e : FileError) :
    h.answer (makeDirectories.ensureDirectory q (.error (.error e))) = .ok () ∧
      h.after (makeDirectories.ensureDirectory q (.error (.error e))) = h := by
  have kind : h.answer (kindOf q) = .ok .directory := by
    rw [answer_kindOf accepted, directory]
    rfl
  have stays : h.after (kindOf q) = h := rfl
  simp only [makeDirectories.ensureDirectory, answer_bind, after_bind, kind, stays]
  exact ⟨rfl, rfl⟩

/-- A directory that is there need not be made. -/
theorem makeDirectories_of_directory (fuel : Nat) {q : Path} (accepted : q.isRefused = false)
    (directory : h.disk.nodeAt h.here q = .ok .directory) :
    h.answer (makeDirectories (fuel + 1) q) = .ok () ∧
      h.after (makeDirectories (fuel + 1) q) = h := by
  obtain ⟨place, located, held⟩ := Disk.nodeAt_eq_ok.mp directory
  have taken : h.change q (h.disk.makeDirectory h.here q) =
      (.error (.error ⟨.alreadyExists, q.text, none⟩), h) := by
    simp [change, guarded, accepted, Disk.makeDirectory, located, held]
  have made : h.answer (makeDirectory q) = .error (.error ⟨.alreadyExists, q.text, none⟩) :=
    congrArg Prod.fst taken
  have stays : h.after (makeDirectory q) = h := congrArg Prod.snd taken
  have there : (FileErrorKind.alreadyExists = .notFound) = False := by simp
  simp only [makeDirectories, answer_bind, after_bind, made, stays, there, decide_false,
    Bool.false_and, Bool.false_eq_true, if_false]
  exact ensureDirectory_of_directory accepted directory _

def paveWay (p : Path) : Program (Reply Unit) :=
  makeDirectories (p.parent.names.length + 1) p.parent

/-- A text can be written at a path: its directory can be made, a file can be made in it, and there
is no directory at the path. -/
structure Writable (h : Host) (p : Path) : Prop where
  paved : h.answer (paveWay p) = .ok ()
  drafted : ∃ t, (h.after (paveWay p)).answer (createTemporary p.parent p.name) = .ok t
  located : ∃ place, (h.after (paveWay p)).disk.locate h.here p = .ok place
  noDirectory : (h.after (paveWay p)).disk.get? (Path.climb p.names) ≠ some .directory

def draftText (p : Path) (text : String) : Program (Reply Unit) := do
  match ← createTemporary p.parent p.name with
  | .error e => pure (.error e)
  | .ok temporary => fillAndMove temporary p text

theorem draftText_cases (absolute : p.isAbsolute = true) (text : String) (k : Host) :
    (k.answer (draftText p text) = .ok () ↔
      Text.HasBytes text.toList ∧ (∃ t, k.answer (createTemporary p.parent p.name) = .ok t) ∧
        (∃ place, k.disk.locate k.here p = .ok place) ∧
          k.disk.get? (Path.climb p.names) ≠ some .directory) ∧
    (k.answer (draftText p text) = .ok () → ∀ q, (k.after (draftText p text)).disk.get? q =
      if q = Path.climb p.names then some (.file (Text.Utf8.encode text.toList))
      else k.disk.get? q) := by
  unfold draftText
  simp only [answer_bind, after_bind]
  cases made : k.answer (createTemporary p.parent p.name) with
  | error e => simp
  | ok t =>
    obtain ⟨x, empty⟩ := drafted_of_createTemporary made
    have here := after_here (createTemporary p.parent p.name) k
    generalize k.after (createTemporary p.parent p.name) = l at *
    have some_made : ∃ t', (Except.ok t : Reply Path) = .ok t' := ⟨t, rfl⟩
    simp only [some_made, true_and]
    by_cases bytes : Text.HasBytes text.toList
    · obtain ⟨filled, drafted⟩ := empty.write (Text.Utf8.encode text.toList)
      have here := (after_here (write t (Text.Utf8.encode text.toList)) l).trans here
      rw [fillAndMove_of_hasBytes bytes]
      simp only [bytes, true_and, filled, answer_bind, after_bind]
      generalize l.after (write t (Text.Utf8.encode text.toList)) = m at *
      have moved_iff := drafted.replace_iff absolute
      rw [here] at moved_iff
      cases moves : m.answer (Program.replace t p) with
      | ok u =>
        exact ⟨by simpa using moved_iff.mp moves, fun _ => (drafted.replace absolute moves).2⟩
      | error e =>
        have stops := @discardTemporary_ne_ok (m.after (Program.replace t p)) t e
        rw [moves] at moved_iff
        exact ⟨⟨fun ended => absurd ended stops, fun free => nomatch moved_iff.mpr free⟩,
          fun ended => absurd ended stops⟩
    · have stops : l.answer (fillAndMove t p text) ≠ .ok () :=
        fun written => bytes (hasBytes_of_fillAndMove written)
      exact ⟨⟨fun ended => absurd ended stops, fun free => absurd free.1 bytes⟩,
        fun ended => absurd ended stops⟩

def draftAfter (p : Path) (text : String) : Reply Unit → Program (Reply Unit)
  | .error e => pure (.error e)
  | .ok () => draftText p text

theorem writeWhole_eq : writeWhole p text = paveWay p >>= draftAfter p text := rfl

/-- A text is written if it can be and there is a place for it, and only then. -/
theorem writeWhole_cases (absolute : p.isAbsolute = true) (text : String) (h : Host) :
    ((Writable h p ∧ Text.HasBytes text.toList) ∧ h.answer (writeWhole p text) = .ok () ∧
      ∀ q, (h.after (writeWhole p text)).disk.get? q =
        if q = Path.climb p.names then some (.file (Text.Utf8.encode text.toList))
        else (h.after (paveWay p)).disk.get? q) ∨
      ¬ (Writable h p ∧ Text.HasBytes text.toList) ∧ h.answer (writeWhole p text) ≠ .ok () := by
  have here := after_here (paveWay p) h
  rw [writeWhole_eq, answer_bind, after_bind]
  cases paved : h.answer (paveWay p) with
  | error e =>
    exact .inr ⟨fun free => by simp [free.1.paved] at paved, by simp [draftAfter]⟩
  | ok u =>
    obtain ⟨written_iff, nodes⟩ := draftText_cases absolute text (h.after (paveWay p))
    rw [here] at written_iff
    by_cases written : (h.after (paveWay p)).answer (draftText p text) = .ok ()
    · obtain ⟨bytes, made, located, noDirectory⟩ := written_iff.mp written
      exact .inl ⟨⟨⟨paved, made, located, noDirectory⟩, bytes⟩, written, nodes written⟩
    · exact .inr ⟨fun free => written (written_iff.mpr
        ⟨free.2, free.1.drafted, free.1.located, free.1.noDirectory⟩), written⟩

/-- Whether a text that has bytes can be written at a path does not depend on the text. -/
theorem writeWhole_ok_iff (absolute : p.isAbsolute = true) (text : String) :
    h.answer (writeWhole p text) = .ok () ↔ Writable h p ∧ Text.HasBytes text.toList := by
  rcases writeWhole_cases absolute text h with ⟨writable, written, -⟩ | ⟨refused, stops⟩
  · exact ⟨fun _ => writable, fun _ => written⟩
  · exact ⟨fun written => absurd written stops, fun writable => absurd writable refused⟩

theorem guarded_ne_fault {α : Type} (accepted : p.isRefused = false) (result : FileResult α)
    (f : Fault) : guarded p result ≠ .error (.fault f) := by
  unfold guarded
  rw [accepted]
  cases result <;> simp

theorem makeDirectory_ne_fault (accepted : p.isRefused = false) (h : Host) (f : Fault) :
    h.answer (makeDirectory p) ≠ .error (.fault f) := by
  change (h.change p (h.disk.makeDirectory h.here p)).1 ≠ _
  unfold change
  have refuses := guarded_ne_fault accepted (h.disk.makeDirectory h.here p) f
  split <;> simp_all

theorem ensureDirectory_ne_fault {reply : Reply Unit} {f : Fault}
    (sound : reply ≠ .error (.fault f))
    (h : Host) : h.answer (makeDirectories.ensureDirectory p reply) ≠ .error (.fault f) := by
  unfold makeDirectories.ensureDirectory
  split
  · rw [answer_bind]
    split <;> simp
  · exact sound

theorem makeDirectories_ne_fault (fuel : Nat) {p : Path} (accepted : p.isRefused = false) (h : Host)
    (f : Fault) : h.answer (makeDirectories fuel p) ≠ .error (.fault f) := by
  induction fuel generalizing p h with
  | zero => simp [makeDirectories]
  | succ fuel ih =>
    have above := Path.accepted_parent accepted
    have made := makeDirectory_ne_fault accepted
    unfold makeDirectories
    rw [answer_bind]
    split
    · simp
    · rename_i refused
      exact absurd refused (made h _)
    · split
      · rw [answer_bind]
        split
        · rename_i stops
          intro fault
          exact ih above _ (stops.trans fault)
        · rw [answer_bind]
          exact ensureDirectory_ne_fault (made _ f) _
      · exact ensureDirectory_ne_fault (by simp) _

theorem createTemporary_ne_fault (accepted : p.isRefused = false) (h : Host) (f : Fault) :
    h.answer (createTemporary p.parent p.name) ≠ .error (.fault f) := by
  have start : (p.parent.join ⟨.relative, [s!".{p.name}."]⟩).isRefused = false := by
    rw [Path.isRefused_start, Path.isRefused_parent_name, accepted]
  have refuses := guarded_ne_fault start (h.disk.createTemporary h.here p.parent p.name) f
  change (h.temporary p.parent p.name).1 ≠ _
  simp only [temporary]
  split <;> simp_all

/-- A write breaks off only at a path that no file may have or at a text with surrogates. -/
theorem cause_of_writing_fault {text : String} {f : Fault}
    (fault : h.answer (writeWhole p text) = .error (.fault f)) :
    p.isRefused = true ∨ ∃ e, Text.Utf8.unencodable? (fun _ => false) text.toList = some e ∧
      f = .unencodable e := by
  cases accepted : p.isRefused with
  | true => exact .inl rfl
  | false =>
    refine .inr ?_
    have directory := Path.accepted_parent accepted
    unfold writeWhole at fault
    rw [answer_bind] at fault
    split at fault
    · rename_i e stops
      obtain rfl := Except.error.inj fault
      exact absurd stops (makeDirectories_ne_fault _ directory h f)
    · rw [answer_bind] at fault
      split at fault
      · rename_i e stops
        obtain rfl := Except.error.inj fault
        exact absurd stops (createTemporary_ne_fault accepted _ f)
      · rename_i t made
        obtain ⟨x, drafted⟩ := drafted_of_createTemporary made
        rcases writeText_cases t text with ⟨bytes, write⟩ | ⟨e, surrogates, write⟩
        · obtain ⟨filled, -⟩ := drafted.write (Text.Utf8.encode text.toList)
          rw [fillAndMove, write, answer_bind, filled] at fault
          simp only [answer_bind] at fault
          split at fault
          · rename_i e stops
            cases e with
            | error e => exact absurd fault (discardTemporary_ne_fault _ e f)
            | fault f' => exact absurd stops (replace_ne_fault _ _ f')
          · simp at fault
        · rw [fillAndMove, write] at fault
          exact ⟨e, surrogates, by simpa [discardTemporary] using fault.symm⟩

theorem answer_createTemporary {d : Disk} {directory : Path} {stem : String}
    (accepted : (directory.join ⟨.relative, [s!".{stem}."]⟩).isRefused = false)
    (created : k.disk.createTemporary k.here directory stem = .ok (t, d)) :
    k.answer (createTemporary directory stem) = .ok t := by
  change (k.temporary directory stem).1 = .ok t
  simp [temporary, guarded, accepted, created]

/-- A host from which another temporary file can be made has the directory and the names of one from
which the same file was made. -/
theorem drafted_again {l : Host} (absolute : p.isAbsolute = true) (here : l.here = k.here)
    (made : k.answer (createTemporary p.parent p.name) = .ok t)
    (directories : ∀ q, k.disk.get? q = some .directory → l.disk.get? q = some .directory)
    (nodes : ∀ q, q ≠ Path.climb p.names → l.disk.get? q = k.disk.get? q)
    (target : l.disk.get? (Path.climb p.names) ≠ none) :
    l.answer (createTemporary p.parent p.name) = .ok t ∧
      l.disk.nodeAt l.here p.parent = .ok .directory := by
  obtain ⟨x, draft⟩ := drafted_of_createTemporary made
  have beside := (draft.drafts absolute made).ne_target
  obtain ⟨d, created, leaves, accepted⟩ := exists_of_createTemporary made
  rw [leaves] at draft
  obtain ⟨name, -, rfl⟩ := Disk.name_of_createTemporary created
  have located : k.disk.locate k.here (Disk.beside p.parent name) = .ok x :=
    Disk.locate_mono (fun y => (draft.disk.directory_iff y).mp) draft.disk.located
  have free : ∀ q, k.disk.locate k.here (Disk.beside p.parent name) = .ok q →
      l.disk.get? q = none := by
    intro q hq
    obtain rfl := Except.ok.inj (located.symm.trans hq)
    rw [nodes _ beside]
    exact draft.disk.free
  have kept : ∀ q, k.disk.get? q ≠ none → l.disk.get? q ≠ none := by
    intro q held
    by_cases same : q = Path.climb p.names
    · rw [same]
      exact target
    · rw [nodes q same]
      exact held
  have parent : p.parent.isAbsolute = true := absolute
  obtain ⟨g, again⟩ := Disk.createTemporary_again parent created directories kept free
  rw [← here] at again located
  refine ⟨answer_createTemporary accepted again, ?_⟩
  exact Disk.directory_of_locate_beside (Disk.locate_mono directories located)

/-- Where a text has been written, another can be written, and nothing but the text changes. -/
theorem writeWhole_again {text other : String} (absolute : p.isAbsolute = true)
    (written : h.answer (writeWhole p text) = .ok ()) (bytes : Text.HasBytes other.toList) :
    (h.after (writeWhole p text)).answer (writeWhole p other) = .ok () ∧
      ∀ q, ((h.after (writeWhole p text)).after (writeWhole p other)).disk.get? q =
        if q = Path.climb p.names then some (.file (Text.Utf8.encode other.toList))
        else (h.after (writeWhole p text)).disk.get? q := by
  have here := (after_here (writeWhole p text) h).trans (after_here (paveWay p) h).symm
  have noted := after_here (paveWay p) h
  rcases writeWhole_cases absolute text h with ⟨writable, -, nodes⟩ | ⟨-, stops⟩
  swap
  · exact absurd written stops
  obtain ⟨⟨-, ⟨t, made⟩, ⟨place, located⟩, noDirectory⟩, -⟩ := writable
  rw [← noted] at located
  generalize h.after (writeWhole p text) = l at *
  generalize h.after (paveWay p) = k at *
  have accepted := Path.accepted_parent (accepted_of_createTemporary made)
  have directories : ∀ q, k.disk.get? q = some .directory → l.disk.get? q = some .directory := by
    intro q held
    rw [nodes, if_neg]
    · exact held
    · rintro rfl
      exact noDirectory held
  have target : l.disk.get? (Path.climb p.names) = some (.file (Text.Utf8.encode text.toList)) := by
    rw [nodes, if_pos rfl]
  obtain ⟨drafts, parent⟩ := drafted_again absolute here made directories
    (fun q away => by rw [nodes, if_neg away]) (by simp [target])
  obtain ⟨paved, same⟩ := makeDirectories_of_directory p.parent.names.length accepted parent
  have same : l.after (paveWay p) = l := same
  have writable : Writable l p := by
    refine ⟨paved, ?_, ?_, ?_⟩
    · rw [same]
      exact ⟨t, drafts⟩
    · rw [same, here]
      exact ⟨place, Disk.locate_mono directories located⟩
    · rw [same, target]
      simp
  rcases writeWhole_cases absolute other l with ⟨-, again, after⟩ | ⟨refused, -⟩
  · refine ⟨again, fun q => ?_⟩
    rw [after, same]
  · exact absurd ⟨writable, bytes⟩ refused

end CompileRun

end SchemaChecks
