import SchemaChecks.Proofs.Program
import SchemaChecks.Proofs.Surrogate

/-!
Disks before and after an operation: what walks along directories need, what a removal leaves,
operations that only add, and where a file is read that has been written or has replaced another.
-/

namespace SchemaChecks

namespace Disk

variable {d e : Disk} {here place : Place} {p : Path}

theorem lookup_filter_ne (entries : List (Place × Node)) (q : Place) :
    (entries.filter (·.1 ≠ q)).lookup place = if place = q then none else entries.lookup place := by
  induction entries with
  | nil => simp
  | cons entry rest ih =>
    obtain ⟨b, v⟩ := entry
    by_cases hb : b = q
    · rw [List.filter_cons_of_neg (by simp [hb]), ih, List.lookup_cons]
      by_cases hq : place = q
      · simp [hq]
      · rw [beq_false_of_ne (hb ▸ hq)]
    · rw [List.filter_cons_of_pos (by simp [hb]), List.lookup_cons, List.lookup_cons, ih]
      by_cases hq : place = b
      · simp [hq, hb]
      · rw [beq_false_of_ne hq]

theorem get?_erase (q : Place) :
    (d.erase q).get? place = if place = [] then some .directory
      else if place = q then none else d.get? place := by
  by_cases hr : place = []
  · simp [get?, hr]
  · simp only [get?, erase, List.isEmpty_iff, hr, if_false]
    exact lookup_filter_ne d.nodes q

theorem get?_put (q : Place) (n : Node) :
    (d.put q n).get? place = if place = [] then some .directory
      else if place = q then some n else d.get? place := by
  by_cases hr : place = []
  · simp [get?, hr]
  · simp only [get?, put, List.isEmpty_iff, hr, if_false]
    rw [List.lookup_append, lookup_filter_ne, List.lookup_cons, List.lookup_nil]
    by_cases hq : place = q
    · simp [hq]
    · simp [hq, beq_false_of_ne hq]

theorem get?_put_inner {q : Place} (inner : q ≠ []) (n : Node) (x : Place) :
    (d.put q n).get? x = if x = q then some n else d.get? x := by
  rw [get?_put]
  split
  · rename_i root
    rw [if_neg (root ▸ inner.symm), root]
    rfl
  · rfl

theorem get?_erase_inner {q : Place} (inner : q ≠ []) (x : Place) :
    (d.erase q).get? x = if x = q then none else d.get? x := by
  rw [get?_erase]
  split
  · rename_i root
    rw [if_neg (root ▸ inner.symm), root]
    rfl
  · rfl

/-- A walk that succeeds needs nothing but directories. -/
theorem walk_mono
    (sub : ∀ q, d.get? q = some .directory → e.get? q = some .directory)
    {names : List String} (hw : d.walk here names = .ok place) : e.walk here names = .ok place := by
  induction names generalizing here with
  | nil => exact hw
  | cons name rest ih =>
    unfold walk at hw ⊢
    cases hd : d.get? here with
    | none => simp [hd] at hw
    | some n =>
      cases n with
      | file content => simp [hd] at hw
      | directory =>
        simp only [hd, sub _ hd] at hw ⊢
        split at hw
        · rename_i up
          simp only [up, if_true]
          exact ih hw
        · rename_i up
          split at hw
          · cases hw
          · rename_i fits
            simp only [up, fits, if_false]
            exact ih hw

theorem locate_mono (sub : ∀ q, d.get? q = some .directory → e.get? q = some .directory)
    (hl : d.locate here p = .ok place) : e.locate here p = .ok place :=
  walk_mono sub hl

theorem nodeAt_eq_ok {n : Node} :
    d.nodeAt here p = .ok n ↔ ∃ place, d.locate here p = .ok place ∧ d.get? place = some n := by
  unfold nodeAt
  cases hl : d.locate here p with
  | error k => simp
  | ok place => cases hg : d.get? place <;> simp [hg]

theorem read_eq_ok {content : List UInt8} :
    d.read here p = .ok content ↔ d.nodeAt here p = .ok (.file content) := by
  unfold read
  cases hn : d.nodeAt here p with
  | error k => simp
  | ok n => cases n <;> simp

theorem remove_eq_ok (hr : d.remove here p = .ok e) :
    ∃ place content, d.locate here p = .ok place ∧ d.get? place = some (.file content) ∧
      e = d.erase place := by
  unfold remove at hr
  cases hl : d.locate here p with
  | error k => simp [hl] at hr
  | ok place =>
    simp only [hl] at hr
    split at hr
    · cases hr
    · cases hr
    · rename_i content held
      exact ⟨place, content, rfl, held, (Except.ok.inj hr).symm⟩

theorem remove_of_file {content : List UInt8} (hn : d.nodeAt here p = .ok (.file content)) :
    ∃ e, d.remove here p = .ok e := by
  obtain ⟨place, hl, hg⟩ := nodeAt_eq_ok.mp hn
  exact ⟨d.erase place, by simp [remove, hl, hg]⟩

theorem remove_of_directory (hn : d.nodeAt here p = .ok .directory) :
    d.remove here p = .error .isADirectory := by
  obtain ⟨place, hl, hg⟩ := nodeAt_eq_ok.mp hn
  simp [remove, hl, hg]

/-- A path from which a file has been removed leads to no file. -/
theorem read_after_remove (hr : d.remove here p = .ok e) (content : List UInt8) :
    e.read here p ≠ .ok content := by
  intro hread
  obtain ⟨place, -, hl, -, rfl⟩ := remove_eq_ok hr
  obtain ⟨place', hl', hg⟩ := nodeAt_eq_ok.mp (read_eq_ok.mp hread)
  have sub : ∀ q, (d.erase place).get? q = some .directory → d.get? q = some .directory := by
    intro q hq
    rw [get?_erase] at hq
    split at hq
    · rename_i root
      simp [get?, root]
    · split at hq
      · cases hq
      · exact hq
  have same : place = place' := by
    have := locate_mono sub hl'
    rw [hl] at this
    exact Except.ok.inj this
  subst same
  rw [get?_erase] at hg
  split at hg <;> simp at hg

def Within (d e : Disk) : Prop := ∀ place n, d.get? place = some n → e.get? place = some n

theorem Within.refl (d : Disk) : d.Within d := fun _ _ h => h

theorem Within.trans {f : Disk} (hde : d.Within e) (hef : e.Within f) : d.Within f :=
  fun place n h => hef place n (hde place n h)

theorem within_put {q : Place} (free : d.get? q = none) (n : Node) : d.Within (d.put q n) := by
  intro place m hm
  rw [get?_put]
  split
  · rename_i root
    simp only [get?, root, List.isEmpty_nil, if_true] at hm
    exact hm
  · split
    · rename_i same
      rw [same, free] at hm
      cases hm
    · exact hm

theorem Within.read {content : List UInt8} (hw : d.Within e)
    (hr : d.read here p = .ok content) : e.read here p = .ok content := by
  obtain ⟨place, hl, hg⟩ := nodeAt_eq_ok.mp (read_eq_ok.mp hr)
  have hl' := locate_mono (fun q => hw q .directory) hl
  exact read_eq_ok.mpr (nodeAt_eq_ok.mpr ⟨place, hl', hw place _ hg⟩)

theorem makeDirectory_within (hm : d.makeDirectory here p = .ok e) : d.Within e := by
  unfold makeDirectory at hm
  cases hl : d.locate here p with
  | error k => simp [hl] at hm
  | ok place =>
    simp only [hl] at hm
    split at hm
    · cases hm
    · rename_i free
      obtain rfl := Except.ok.inj hm
      exact within_put (by simpa using free) _

def beside (directory : Path) (name : String) : Path :=
  { directory with names := directory.names ++ [name] }

/-- The first free path is that of a name which comes after names that are all taken. -/
theorem firstFree_eq_some {directory q : Path} {names : List String} :
    d.firstFree here directory names = some q ↔ ∃ before name after,
      names = before ++ name :: after ∧ q = beside directory name ∧
        (∃ k, d.nodeAt here q = .error k) ∧
          ∀ n ∈ before, ∃ m, d.nodeAt here (beside directory n) = .ok m := by
  induction names with
  | nil => simp [firstFree]
  | cons first rest ih =>
    unfold firstFree
    dsimp only
    split
    · rename_i m used
      rw [ih]
      constructor
      · rintro ⟨before, name, after, rfl, rfl, free, taken⟩
        refine ⟨first :: before, name, after, rfl, rfl, free, ?_⟩
        exact List.forall_mem_cons.mpr ⟨⟨m, used⟩, taken⟩
      · rintro ⟨before, name, after, names, rfl, ⟨k, free⟩, taken⟩
        cases before with
        | nil =>
          obtain ⟨rfl, -⟩ := List.cons.inj names
          cases used.symm.trans free
        | cons _ before =>
          obtain ⟨rfl, rfl⟩ := List.cons.inj names
          exact ⟨before, name, after, rfl, rfl, ⟨k, free⟩, (List.forall_mem_cons.mp taken).2⟩
    · rename_i k free
      constructor
      · rintro ⟨⟩
        exact ⟨[], first, rest, rfl, rfl, ⟨k, free⟩, by simp⟩
      · rintro ⟨before, name, after, names, rfl, -, taken⟩
        cases before with
        | nil =>
          obtain ⟨rfl, -⟩ := List.cons.inj names
          rfl
        | cons _ before =>
          obtain ⟨rfl, rfl⟩ := List.cons.inj names
          obtain ⟨m, used⟩ := taken _ List.mem_cons_self
          cases used.symm.trans free

theorem free_of_error {k : FileErrorKind} (hl : d.locate here p = .ok place)
    (hn : d.nodeAt here p = .error k) : d.get? place = none := by
  cases hg : d.get? place with
  | none => rfl
  | some n =>
    rw [nodeAt_eq_ok.mpr ⟨place, hl, hg⟩] at hn
    cases hn

theorem write_within {content : List UInt8} {k : FileErrorKind} (free : d.nodeAt here p = .error k)
    (hw : d.write here p content = .ok e) : d.Within e := by
  unfold write at hw
  cases hl : d.locate here p with
  | error k => simp [hl] at hw
  | ok place =>
    have none_there := free_of_error hl free
    simp only [hl, none_there] at hw
    obtain rfl := Except.ok.inj hw
    exact within_put none_there _

/-- A temporary file is an empty one, written where nothing is. -/
theorem createTemporary_eq_ok {directory q : Path} {stem : String}
    (hc : d.createTemporary here directory stem = .ok (q, e)) :
    d.firstFree here directory (d.temporaryNames stem) = some q ∧ d.write here q [] = .ok e := by
  unfold createTemporary at hc
  cases hf : d.firstFree here directory (d.temporaryNames stem) with
  | none => simp [hf] at hc
  | some p =>
    simp only [hf] at hc
    cases hw : d.write here p [] with
    | error k => simp [hw, Except.map] at hc
    | ok f =>
      simp only [hw, Except.map, Except.ok.injEq, Prod.mk.injEq] at hc
      obtain ⟨rfl, rfl⟩ := hc
      exact ⟨rfl, hw⟩

theorem createTemporary_within {directory q : Path} {stem : String}
    (hc : d.createTemporary here directory stem = .ok (q, e)) : d.Within e := by
  obtain ⟨found, written⟩ := createTemporary_eq_ok hc
  obtain ⟨-, -, -, -, -, ⟨k, free⟩, -⟩ := firstFree_eq_some.mp found
  exact write_within free written

/-- A file that is put where a path leads can be read there: no directory is lost on the way. -/
theorem read_put {content : List UInt8} (hl : d.locate here p = .ok place)
    (free : d.get? place ≠ some .directory) :
    (d.put place (.file content)).read here p = .ok content := by
  have inner : place ≠ [] := by
    rintro rfl
    exact free rfl
  have sub : ∀ q, d.get? q = some .directory →
      (d.put place (.file content)).get? q = some .directory := by
    intro q hq
    rw [get?_put]
    split
    · rfl
    · split
      · rename_i same
        exact absurd (same ▸ hq) free
      · exact hq
  refine read_eq_ok.mpr (nodeAt_eq_ok.mpr ⟨place, locate_mono sub hl, ?_⟩)
  rw [get?_put, if_neg inner, if_pos rfl]

theorem read_after_write {content : List UInt8} (hw : d.write here p content = .ok e) :
    e.read here p = .ok content := by
  unfold write at hw
  cases hl : d.locate here p with
  | error k => simp [hl] at hw
  | ok place =>
    simp only [hl] at hw
    split at hw
    · cases hw
    · rename_i free
      obtain rfl := Except.ok.inj hw
      exact read_put hl free

/-- Taking a file away leaves every path to another place as it was. -/
theorem locate_erase_file {old : Place} {content : List UInt8}
    (hf : d.get? old = some (.file content)) (hl : d.locate here p = .ok place) :
    (d.erase old).locate here p = .ok place := by
  refine locate_mono (fun q hq => ?_) hl
  rw [get?_erase]
  split
  · rfl
  · split
    · rename_i same
      rw [same, hf] at hq
      cases hq
    · exact hq

/-- A file that takes the place of another is read where that one was. -/
theorem read_after_replace {source target : Path} {content : List UInt8}
    (hs : d.read here source = .ok content) (hr : d.replace here source target = .ok e) :
    e.read here target = .ok content := by
  obtain ⟨old, ho, hf⟩ := nodeAt_eq_ok.mp (read_eq_ok.mp hs)
  unfold replace at hr
  cases hl : d.locate here target with
  | error k => simp [hs, ho, hl] at hr
  | ok place =>
    simp only [hs, ho, hl] at hr
    split at hr
    · cases hr
    · rename_i free
      obtain rfl := Except.ok.inj hr
      refine read_put (locate_erase_file hf hl) ?_
      have inner : place ≠ [] := by
        rintro rfl
        exact free rfl
      rw [get?_erase, if_neg inner]
      split
      · simp
      · exact free

end Disk

namespace Path

theorem isRefusedName_dotted (stem : String) :
    isRefusedName s!".{stem}." = isRefusedName stem := by
  have text : s!".{stem}." = "." ++ stem ++ "." := rfl
  have dot : (".".toList.any fun c => c = Char.ofNat 0 ||
      (Text.isSurrogate c && !Text.isByteSurrogate c)) = false := by decide
  simp only [isRefusedName, text, String.toList_append, List.any_append, dot, Bool.false_or,
    Bool.or_false]

/-- A new file beside others has a path if its directory and its stem have one. -/
theorem isRefused_start (directory : Path) (stem : String) :
    (directory.join ⟨.relative, [s!".{stem}."]⟩).isRefused =
      (directory.isRefused || isRefusedName stem) := by
  have joined : (directory.join ⟨.relative, [s!".{stem}."]⟩).names =
      directory.names ++ [s!".{stem}."] := rfl
  rw [isRefused, joined, List.any_append, List.any_cons, List.any_nil, Bool.or_false,
    isRefusedName_dotted]
  rfl

theorem isRefused_parent_name (p : Path) :
    (p.parent.isRefused || isRefusedName p.name) = p.isRefused := by
  rcases List.eq_nil_or_concat p.names with root | ⟨above, last, whole⟩
  · have unnamed : isRefusedName "" = false := by decide
    simp [isRefused, parent, name, root, unnamed]
  · simp [isRefused, parent, name, whole]

theorem accepted_parent {p : Path} (accepted : p.isRefused = false) : p.parent.isRefused = false :=
  (Bool.or_eq_false_iff.mp (p.isRefused_parent_name.trans accepted)).1

end Path

def Request.Adds : Request → Prop
  | .write _ _ | .replace _ _ | .remove _ => False
  | _ => True

namespace Host

variable {α : Type} {h k : Host} {p : Path}

structure Keeps (h k : Host) : Prop where
  disk : h.disk.Within k.disk
  here : h.here = k.here

theorem Keeps.refl (h : Host) : h.Keeps h := ⟨Disk.Within.refl _, rfl⟩

theorem Keeps.trans {l : Host} (hk : h.Keeps k) (kl : k.Keeps l) : h.Keeps l :=
  ⟨hk.disk.trans kl.disk, hk.here.trans kl.here⟩

theorem SameFiles.keeps (s : SameFiles h k) : h.Keeps k := ⟨s.disk ▸ Disk.Within.refl _, s.here⟩

theorem answer_read_eq_ok {content : List UInt8} :
    h.answer (.read p) = .ok content ↔
      p.isRefused = false ∧ h.disk.read h.here p = .ok content := by
  change guarded p (h.disk.read h.here p) = .ok content ↔ _
  unfold guarded
  cases p.isRefused <;> cases h.disk.read h.here p <;> simp

theorem not_hasFile_of_refused (hp : p.isRefused = true) : ¬ h.HasFile p := by
  rintro ⟨content, hr⟩
  rw [answer_read_eq_ok, hp] at hr
  cases hr.1

theorem not_hasFile_of_error {e : FileErrorKind} (hn : h.disk.nodeAt h.here p = .error e) :
    ¬ h.HasFile p := by
  rintro ⟨content, hr⟩
  have hfile := Disk.read_eq_ok.mp (answer_read_eq_ok.mp hr).2
  rw [hn] at hfile
  cases hfile

/-- A file that can be read can still be read, and holds the same. -/
theorem Keeps.read (hk : h.Keeps k) {content : List UInt8}
    (hr : h.answer (.read p) = .ok content) : k.answer (.read p) = .ok content := by
  obtain ⟨accepted, hr⟩ := answer_read_eq_ok.mp hr
  rw [answer_read_eq_ok, ← hk.here]
  exact ⟨accepted, hk.disk.read hr⟩

theorem guarded_eq_ok {result : FileResult α} {a : α}
    (hg : guarded p result = .ok a) : result = .ok a := by
  unfold guarded at hg
  split at hg
  · cases hg
  · cases result with
    | error e => cases hg
    | ok b => simpa using hg

theorem accepted_of_guarded {result : FileResult α} {a : α}
    (hg : guarded p result = .ok a) : p.isRefused = false := by
  unfold guarded at hg
  split at hg
  · cases hg
  · simp_all

theorem keeps_step (r : Request) (h : Host) (hr : r.Adds) : h.Keeps (step r h).2 := by
  cases r with
  | here | kindOf p | read p | splitLog l t | note r | print o t => exact ⟨Disk.Within.refl _, rfl⟩
  | write p content | replace source target | remove p => cases hr
  | makeDirectory p =>
    simp only [step, change]
    split
    · rename_i d made
      exact ⟨Disk.makeDirectory_within (guarded_eq_ok made), rfl⟩
    · exact Keeps.refl h
  | createTemporary directory stem =>
    simp only [step, temporary]
    split
    · rename_i q d made
      exact ⟨Disk.createTemporary_within (guarded_eq_ok made), rfl⟩
    · exact Keeps.refl h

theorem keeps_of_adds {p : Program α} (hp : p.Asks Request.Adds) (h : Host) :
    h.Keeps (h.after p) :=
  after_of_asks Keeps.refl Keeps.trans keeps_step hp h

/-- A text is written as its bytes, or it has surrogates and nothing is done. -/
theorem writeText_cases (p : Path) (text : String) :
    (Text.HasBytes text.toList ∧
      Program.writeText p text = .write p (Text.Utf8.encode text.toList)) ∨
    ∃ e, Text.Utf8.unencodable? (fun _ => false) text.toList = some e ∧
      Program.writeText p text = pure (.error (.fault (.unencodable e))) := by
  cases found : Text.Utf8.unencodable? (fun _ => false) text.toList with
  | none =>
    exact .inl ⟨Text.Utf8.unencodable?_eq_none.mp found, by simp [Program.writeText, found]⟩
  | some e => exact .inr ⟨e, rfl, by simp [Program.writeText, found]⟩

theorem hasBytes_of_writeText {text : String} (written : h.answer (.writeText p text) = .ok ()) :
    Text.HasBytes text.toList := by
  rcases writeText_cases p text with ⟨bytes, -⟩ | ⟨e, -, refused⟩
  · exact bytes
  · rw [refused] at written
    cases written

theorem after_writeText_of_error {text : String} {e : Failure FileError}
    (stops : h.answer (.writeText p text) = .error e) : h.after (.writeText p text) = h := by
  rcases writeText_cases p text with ⟨-, write⟩ | ⟨_, -, refused⟩
  · rw [write] at stops ⊢
    exact after_write_of_error stops
  · rw [refused]
    rfl

theorem read_after_writeText {text : String} (written : h.answer (.writeText p text) = .ok ()) :
    (h.after (.writeText p text)).answer (.read p) = .ok (Text.Utf8.encode text.toList) := by
  rcases writeText_cases p text with ⟨-, write⟩ | ⟨_, -, refused⟩
  · rw [write] at written ⊢
    change (h.change p (h.disk.write h.here p (Text.Utf8.encode text.toList))).1 = .ok () at written
    change (h.change p (h.disk.write h.here p (Text.Utf8.encode text.toList))).2.answer _ = _
    unfold change at written ⊢
    cases ok : guarded p (h.disk.write h.here p (Text.Utf8.encode text.toList)) with
    | error e => simp [ok] at written
    | ok d =>
      exact answer_read_eq_ok.mpr
        ⟨accepted_of_guarded ok, Disk.read_after_write (guarded_eq_ok ok)⟩
  · rw [refused] at written
    cases written

theorem read_after_replace {source target : Path} {content : List UInt8}
    (accepted : target.isRefused = false) (reads : h.answer (.read source) = .ok content)
    (replaced : h.answer (.replace source target) = .ok ()) :
    (h.after (.replace source target)).answer (.read target) = .ok content := by
  change (h.moved source target).1 = .ok () at replaced
  change (h.moved source target).2.answer _ = _
  unfold moved at replaced ⊢
  cases ok : h.disk.replace h.here source target with
  | error e => simp [ok] at replaced
  | ok d =>
    have moved := Disk.read_after_replace (answer_read_eq_ok.mp reads).2 ok
    exact answer_read_eq_ok.mpr ⟨accepted, moved⟩

/-- A file can be made beside a path only if a file may have that path. -/
theorem accepted_of_createTemporary {q : Path}
    (made : h.answer (.createTemporary p.parent p.name) = .ok q) : p.isRefused = false := by
  change (h.temporary p.parent p.name).1 = .ok q at made
  unfold temporary at made
  cases refused : p.isRefused with
  | false => rfl
  | true =>
    have start := Path.isRefused_start p.parent p.name
    rw [Path.isRefused_parent_name, refused] at start
    simp [guarded, start] at made

end Host

end SchemaChecks
