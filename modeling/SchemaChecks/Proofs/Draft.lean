import SchemaChecks.Proofs.CompileRun

/-!
What single operations do to the places of a disk: directories that are made on the way of a path,
and drafts, which are new files that are filled and then either removed or moved to their target.
-/

namespace SchemaChecks

namespace Path

theorem climb_concat (names : List String) {n : String} (inner : n ≠ "..") :
    climb (names ++ [n]) = climb names ++ [n] := by
  simp [climb, List.foldl_append, inner]

theorem climb_concat_up (names : List String) :
    climb (names ++ [".."]) = (climb names).dropLast := by
  simp [climb, List.foldl_append]

end Path

namespace Disk

variable {d e f : Disk} {here place q : Place} {p : Path}

/-- A walk that succeeds ends where the names lead without steps up. -/
theorem walk_eq_climb {names : List String} (hw : d.walk place names = .ok q) :
    q = (names.foldl (fun acc n => if n = ".." then acc.tail else n :: acc)
      place.reverse).reverse := by
  induction names generalizing place with
  | nil =>
    obtain rfl := Except.ok.inj hw
    exact (List.reverse_reverse place).symm
  | cons name rest ih =>
    unfold walk at hw
    split at hw
    · cases hw
    · cases hw
    · rw [List.foldl_cons]
      split at hw
      · rename_i up
        rw [ih hw, if_pos up, List.tail_reverse]
      · rename_i up
        split at hw
        · cases hw
        · rw [ih hw, if_neg up, List.reverse_append]
          rfl

theorem locate_of_absolute (absolute : p.isAbsolute = true) (hl : d.locate here p = .ok q) :
    q = Path.climb p.names := by
  unfold locate at hl
  rw [if_pos absolute] at hl
  exact walk_eq_climb hl

theorem locate_beside {directory : Path} {name : String} (absolute : directory.isAbsolute = true)
    (inner : name ≠ "..") (hl : d.locate here (beside directory name) = .ok q) :
    q = Path.climb directory.names ++ [name] := by
  rw [← Path.climb_concat _ inner]
  exact locate_of_absolute (p := beside directory name) absolute hl

/-- A disk differs from another by nothing but new directories at certain places. -/
def GrowsAt (places : Place → Prop) (d e : Disk) : Prop :=
  ∀ q, e.get? q = d.get? q ∨ d.get? q = none ∧ e.get? q = some .directory ∧ places q

theorem GrowsAt.refl (places : Place → Prop) (d : Disk) : GrowsAt places d d :=
  fun _ => .inl rfl

theorem GrowsAt.trans {places : Place → Prop} (de : GrowsAt places d e)
    (ef : GrowsAt places e f) : GrowsAt places d f := by
  intro q
  rcases ef q with same | ⟨free, made, named⟩
  · rw [same]
    exact de q
  · rcases de q with before | ⟨-, earlier, -⟩
    · exact .inr ⟨before ▸ free, made, named⟩
    · rw [earlier] at free
      cases free

theorem GrowsAt.within {places : Place → Prop} (de : GrowsAt places d e) : d.Within e := by
  intro q n held
  rcases de q with same | ⟨free, -, -⟩
  · rw [same, held]
  · rw [free] at held
    cases held

theorem inner_of_free (free : d.get? q = none) : q ≠ [] := by
  rintro rfl
  cases free

theorem inner_of_file {content : List UInt8} (held : d.get? q = some (.file content)) : q ≠ [] := by
  rintro rfl
  cases held

theorem growsAt_makeDirectory {places : Place → Prop}
    (named : ∀ q, d.locate here p = .ok q → places q) (hm : d.makeDirectory here p = .ok e) :
    GrowsAt places d e := by
  unfold makeDirectory at hm
  cases hl : d.locate here p with
  | error k => simp [hl] at hm
  | ok place =>
    simp only [hl] at hm
    split at hm
    · cases hm
    · rename_i taken
      obtain rfl := Except.ok.inj hm
      have free : d.get? place = none := by simpa using taken
      intro q
      rw [get?_put_inner (inner_of_free free)]
      split
      · rename_i same
        exact .inr ⟨same ▸ free, rfl, same ▸ named place hl⟩
      · exact .inl rfl

theorem name_of_createTemporary {directory t : Path} {stem : String}
    (hc : d.createTemporary here directory stem = .ok (t, e)) :
    ∃ name ∈ d.temporaryNames stem, t = beside directory name := by
  obtain ⟨before, name, after, names, same, -⟩ :=
    firstFree_eq_some.mp (createTemporary_eq_ok hc).1
  exact ⟨name, by simp [names], same⟩

def temporaryName (stem : String) (k : Nat) : String := s!".{stem}.{eightDigits k}.tmp"

theorem temporaryName_eq (stem : String) (k : Nat) :
    temporaryName stem k = "." ++ stem ++ "." ++ eightDigits k ++ ".tmp" := rfl

theorem temporaryNames_eq (stem : String) :
    d.temporaryNames stem = (List.range (d.nodes.length + 1)).map (temporaryName stem) := rfl

/-- The name of a temporary file is longer than its stem. -/
theorem length_temporaryName (stem : String) (k : Nat) :
    stem.length + 6 ≤ (temporaryName stem k).length := by
  have ends : ".".length = 1 ∧ ".tmp".length = 4 := by decide
  simp only [temporaryName_eq, String.length_append, ends]
  omega

theorem temporaryName_ne_up (stem : String) (k : Nat) : temporaryName stem k ≠ ".." := by
  intro up
  have longer := length_temporaryName stem k
  rw [up] at longer
  have : "..".length = 2 := rfl
  omega

/-- The name of a temporary file is refused only if its stem is. -/
theorem accepted_temporaryName {stem : String} (accepted : Path.isRefusedName stem = false)
    (k : Nat) : Path.isRefusedName (temporaryName stem k) = false := by
  have ends : Path.isRefusedName "." = false ∧ Path.isRefusedName ".tmp" = false := by decide
  have digits : Path.isRefusedName (eightDigits k) = false := by
    have plain : ∀ c : Char, c = '0' ∨ c.isDigit = true →
        ¬ (c = Char.ofNat 0 || (Text.isSurrogate c && !Text.isByteSurrogate c)) = true := by
      intro c digit
      have range : 0x30 ≤ c.toNat ∧ c.toNat ≤ 0x39 := by
        rcases digit with rfl | digit
        · decide
        · simpa [Char.isDigit, UInt32.le_iff_toNat_le] using digit
      have other : c ≠ Char.ofNat 0 := by
        rintro rfl
        exact absurd range.1 (by decide)
      simp [other, Text.isSurrogate_of_lt (c := c) (by omega)]
    have written : (toString k).toList = Nat.toDigits 10 k := Nat.toList_repr
    rw [eightDigits, Path.isRefusedName, String.toList_append, String.toList_ofList, written,
      List.any_append, Bool.or_eq_false_iff, List.any_eq_false, List.any_eq_false]
    exact ⟨fun c padding => plain c (.inl (List.eq_of_mem_replicate padding)),
      fun c digit => plain c (.inr (Nat.isDigit_of_mem_toDigits (by decide) (by decide) digit))⟩
  rw [temporaryName_eq]
  simp_all [Path.isRefusedName]

/-- A temporary file has a path that a file may have. -/
theorem accepted_of_createTemporary {directory t : Path} {stem : String}
    (accepted : (directory.join ⟨.relative, [s!".{stem}."]⟩).isRefused = false)
    (hc : d.createTemporary here directory stem = .ok (t, e)) : t.isRefused = false := by
  rw [Path.isRefused_start, Bool.or_eq_false_iff] at accepted
  obtain ⟨name, hn, rfl⟩ := name_of_createTemporary hc
  rw [temporaryNames_eq] at hn
  obtain ⟨k, -, rfl⟩ := List.mem_map.mp hn
  rw [beside, Path.isRefused, List.any_append, Bool.or_eq_false_iff]
  exact ⟨accepted.1, by simpa using accepted_temporaryName accepted.2 k⟩

structure Drafted (d e : Disk) (here : Place) (t : Path) (q : Place) (content : List UInt8) :
    Prop where
  free : d.get? q = none
  located : e.locate here t = .ok q
  nodes : ∀ x, e.get? x = if x = q then some (.file content) else d.get? x

theorem drafted_of_createTemporary {directory t : Path} {stem : String}
    (hc : d.createTemporary here directory stem = .ok (t, e)) :
    ∃ q, Drafted d e here t q [] := by
  obtain ⟨found, written⟩ := createTemporary_eq_ok hc
  obtain ⟨-, -, -, -, -, ⟨k, unused⟩, -⟩ := firstFree_eq_some.mp found
  unfold write at written
  cases hl : d.locate here t with
  | error k => simp [hl] at written
  | ok q =>
    have free := free_of_error hl unused
    simp only [hl, free, Except.ok.injEq] at written
    subst written
    exact ⟨q, free, locate_mono (fun x => within_put free _ x .directory) hl,
      get?_put_inner (inner_of_free free) _⟩

/-- A draft can be filled, and then a disk has one file more with the new content. -/
theorem Drafted.write {t : Path} {content : List UInt8} (h : Drafted d e here t q content)
    (new : List UInt8) : ∃ f, e.write here t new = .ok f ∧ Drafted d f here t q new := by
  have inner := inner_of_free h.free
  have held : e.get? q = some (.file content) := by rw [h.nodes, if_pos rfl]
  refine ⟨e.put q (.file new), by simp [Disk.write, h.located, held], h.free, ?_, fun x => ?_⟩
  · refine locate_mono (fun x hx => ?_) h.located
    rw [get?_put_inner inner, if_neg]
    · exact hx
    · rintro rfl
      rw [held] at hx
      cases hx
  · rw [get?_put_inner inner, h.nodes]
    split <;> rfl

/-- A draft can be removed, and then nothing is left of it. -/
theorem Drafted.remove {t : Path} {content : List UInt8} (h : Drafted d e here t q content) :
    ∃ f, e.remove here t = .ok f ∧ ∀ x, f.get? x = d.get? x := by
  have held : e.get? q = some (.file content) := by rw [h.nodes, if_pos rfl]
  refine ⟨e.erase q, by simp [Disk.remove, h.located, held], fun x => ?_⟩
  rw [get?_erase_inner (inner_of_free h.free)]
  split
  · rename_i same
    rw [same, h.free]
  · rename_i other
    rw [h.nodes, if_neg other]

/-- A draft that replaces a file leaves its place free. -/
theorem Drafted.replace {t : Path} {content : List UInt8} (h : Drafted d e here t q content)
    (hr : e.replace here t p = .ok f) :
    ∃ place, e.locate here p = .ok place ∧ d.get? place ≠ some .directory ∧
      ∀ x, f.get? x = if x = place then some (.file content) else d.get? x := by
  have held : e.get? q = some (.file content) := by rw [h.nodes, if_pos rfl]
  have reads : e.read here t = .ok content :=
    read_eq_ok.mpr (nodeAt_eq_ok.mpr ⟨q, h.located, held⟩)
  unfold Disk.replace at hr
  cases hl : e.locate here p with
  | error k => simp [reads, h.located, hl] at hr
  | ok place =>
    simp only [reads, h.located, hl] at hr
    split at hr
    · cases hr
    · rename_i noDirectory
      obtain rfl := Except.ok.inj hr
      have noDirectory : d.get? place ≠ some .directory := by
        intro directory
        rw [h.nodes] at noDirectory
        split at noDirectory
        · rename_i same
          rw [same, h.free] at directory
          cases directory
        · exact noDirectory directory
      have inner : place ≠ [] := by
        rintro rfl
        exact noDirectory rfl
      refine ⟨place, rfl, noDirectory, fun x => ?_⟩
      rw [get?_put_inner inner, get?_erase_inner (inner_of_free h.free)]
      split
      · rfl
      · split
        · rename_i same
          rw [same, h.free]
        · rename_i other
          rw [h.nodes, if_neg other]

end Disk

def Path.Passes (p : Path) (place : Place) : Prop :=
  ∃ names, names <+: p.parent.names ∧ place = Path.climb names

/-- The places of temporary files for a path: beside it, under names of their own. -/
def Path.Drafts (p : Path) (place : Place) : Prop :=
  ∃ k, place = Path.climb p.parent.names ++ [Disk.temporaryName p.name k]

/-- A temporary file for a target does not stand at the target's place. -/
theorem Path.Drafts.ne_target {p : Path} {place : Place} (drafts : p.Drafts place) :
    place ≠ Path.climb p.names := by
  obtain ⟨k, rfl⟩ := drafts
  have longer := Disk.length_temporaryName p.name k
  -- the target is the last name beside the draft, or else a step up from its directory
  rcases List.eq_nil_or_concat p.names with root | ⟨above, last, whole⟩
  · simp [root, Path.climb]
  · have parent : p.parent.names = above := by simp [Path.parent, whole]
    have stem : p.name = last := by simp [Path.name, whole]
    rw [whole, List.concat_eq_append, parent]
    intro same
    by_cases up : last = ".."
    · rw [up, Path.climb_concat_up] at same
      have lengths := congrArg List.length same
      rw [List.length_append, List.length_dropLast] at lengths
      simp at lengths
      omega
    · rw [Path.climb_concat _ up] at same
      have named : Disk.temporaryName p.name k = last := by simpa using same
      rw [named, stem] at longer
      omega

theorem Disk.drafts_of_createTemporary {d e : Disk} {here q : Place} {p t : Path}
    (absolute : p.isAbsolute = true)
    (hc : d.createTemporary here p.parent p.name = .ok (t, e)) (hl : e.locate here t = .ok q) :
    p.Drafts q := by
  obtain ⟨name, hn, rfl⟩ := name_of_createTemporary hc
  rw [temporaryNames_eq] at hn
  obtain ⟨k, -, rfl⟩ := List.mem_map.mp hn
  have parent : p.parent.isAbsolute = true := absolute
  exact ⟨k, locate_beside parent (temporaryName_ne_up _ k) hl⟩

def Request.Paves (p : Path) : Request → Prop
  | .kindOf _ => True
  | .makeDirectory q => q.anchorage = p.anchorage ∧ q.names <+: p.parent.names
  | _ => False

open Program Host

namespace Host

variable {h k l : Host} {p : Path}

def Paved (p : Path) (h k : Host) : Prop := Disk.GrowsAt p.Passes h.disk k.disk

theorem Paved.refl (p : Path) (h : Host) : Paved p h h := Disk.GrowsAt.refl _ _

theorem Paved.trans (hk : Paved p h k) (kl : Paved p k l) : Paved p h l :=
  Disk.GrowsAt.trans hk kl

theorem SameFiles.paved (s : SameFiles h k) : Paved p h k :=
  fun q => .inl (by rw [s.disk])

theorem paved_step (absolute : p.isAbsolute = true) (r : Request) (h : Host) (hr : r.Paves p) :
    Paved p h (step r h).2 := by
  cases r with
  | kindOf q => exact Paved.refl p h
  | makeDirectory q =>
    obtain ⟨anchorage, names⟩ := hr
    have absolute : q.isAbsolute = true := by rw [Path.isAbsolute, anchorage]; exact absolute
    simp only [step, change]
    split
    · rename_i d made
      refine Disk.growsAt_makeDirectory (fun place located => ?_) (guarded_eq_ok made)
      exact ⟨q.names, names, Disk.locate_of_absolute absolute located⟩
    · exact Paved.refl p h
  | here | read _ | createTemporary _ _ | write _ _ | replace _ _ | remove _ | splitLog _ _
  | note _ | print _ _ => cases hr

end Host

namespace CompileRun

variable {h k : Host} {p q : Path} {c : Configuration} {r : CompileRequest}

structure Drafted (k l : Host) (t : Path) (q : Place) (content : List UInt8) : Prop where
  accepted : t.isRefused = false
  disk : Disk.Drafted k.disk l.disk l.here t q content

/-- A temporary file that has been made is made on the disk. -/
theorem exists_of_createTemporary {directory t : Path} {stem : String}
    (made : k.answer (createTemporary directory stem) = .ok t) :
    ∃ d, k.disk.createTemporary k.here directory stem = .ok (t, d) ∧
      k.after (createTemporary directory stem) = { k with disk := d } ∧
        (directory.join ⟨.relative, [s!".{stem}."]⟩).isRefused = false := by
  change (k.temporary directory stem).1 = .ok t at made
  change ∃ d, _ ∧ (k.temporary directory stem).2 = _ ∧ _
  unfold temporary at made ⊢
  cases hg : guarded (directory.join ⟨.relative, [s!".{stem}."]⟩)
      (k.disk.createTemporary k.here directory stem) with
  | error e => simp [hg] at made
  | ok pair =>
    obtain ⟨t', d⟩ := pair
    simp only [hg, Except.ok.injEq] at made ⊢
    subst made
    exact ⟨d, guarded_eq_ok hg, rfl, accepted_of_guarded hg⟩

theorem drafted_of_createTemporary {directory t : Path} {stem : String}
    (made : k.answer (createTemporary directory stem) = .ok t) :
    ∃ q, Drafted k (k.after (createTemporary directory stem)) t q [] := by
  obtain ⟨d, created, leaves, accepted⟩ := exists_of_createTemporary made
  obtain ⟨q, drafted⟩ := Disk.drafted_of_createTemporary created
  rw [leaves]
  exact ⟨q, Disk.accepted_of_createTemporary accepted created, drafted⟩

variable {l : Host} {t : Path} {x : Place} {content : List UInt8}

theorem Drafted.drafts (absolute : p.isAbsolute = true)
    (made : k.answer (createTemporary p.parent p.name) = .ok t)
    (drafted : Drafted k (k.after (createTemporary p.parent p.name)) t x content) :
    p.Drafts x := by
  obtain ⟨d, created, leaves, -⟩ := exists_of_createTemporary made
  have located := drafted.disk.located
  rw [leaves] at located
  exact Disk.drafts_of_createTemporary absolute created located

/-- A draft can be read. -/
theorem Drafted.read (d : Drafted k l t x content) : l.answer (.read t) = .ok content := by
  have held : l.disk.get? x = some (.file content) := by rw [d.disk.nodes, if_pos rfl]
  exact answer_read_eq_ok.mpr
    ⟨d.accepted, Disk.read_eq_ok.mpr (Disk.nodeAt_eq_ok.mpr ⟨x, d.disk.located, held⟩)⟩

theorem Drafted.write (d : Drafted k l t x content) (new : List UInt8) :
    l.answer (write t new) = .ok () ∧ Drafted k (l.after (write t new)) t x new := by
  obtain ⟨f, written, drafted⟩ := d.disk.write new
  have step : l.change t (l.disk.write l.here t new) = (.ok (), { l with disk := f }) := by
    simp [change, guarded, d.accepted, written]
  change (l.change t (l.disk.write l.here t new)).1 = _ ∧
    Drafted k (l.change t (l.disk.write l.here t new)).2 t x new
  rw [step]
  exact ⟨rfl, d.accepted, drafted⟩

theorem Drafted.remove (d : Drafted k l t x content) :
    l.answer (remove t) = .ok () ∧ ∀ y, (l.after (remove t)).disk.get? y = k.disk.get? y := by
  obtain ⟨f, removed, nodes⟩ := d.disk.remove
  have step : l.change t (l.disk.remove l.here t) = (.ok (), { l with disk := f }) := by
    simp [change, guarded, d.accepted, removed]
  rw [answer_remove, after_remove, step]
  exact ⟨rfl, nodes⟩

theorem Drafted.replace (d : Drafted k l t x content) (absolute : p.isAbsolute = true)
    (replaced : l.answer (replace t p) = .ok ()) :
    k.disk.get? (Path.climb p.names) ≠ some .directory ∧
      ∀ q, (l.after (replace t p)).disk.get? q =
        if q = Path.climb p.names then some (.file content) else k.disk.get? q := by
  change (l.moved t p).1 = .ok () at replaced
  change _ ∧ ∀ q, (l.moved t p).2.disk.get? q = _
  unfold moved at replaced ⊢
  cases hr : l.disk.replace l.here t p with
  | error e => simp [hr] at replaced
  | ok f =>
    obtain ⟨place, located, noDirectory, nodes⟩ := d.disk.replace hr
    obtain rfl := Disk.locate_of_absolute absolute located
    exact ⟨noDirectory, nodes⟩

theorem after_replace_of_error {e : Failure FileError} (stops : l.answer (replace t p) = .error e) :
    l.after (replace t p) = l := by
  change (l.moved t p).1 = .error e at stops
  change (l.moved t p).2 = l
  unfold moved at stops ⊢
  split
  · rename_i moved
    simp [moved] at stops
  · rfl

theorem after_createTemporary_of_error {stem : String} {e : Failure FileError}
    (stops : k.answer (createTemporary p stem) = .error e) :
    k.after (createTemporary p stem) = k := by
  change (k.temporary p stem).1 = .error e at stops
  change (k.temporary p stem).2 = k
  unfold temporary at stops ⊢
  dsimp only at stops ⊢
  split
  · rename_i made
    simp [made] at stops
  · rfl

/-- What writing a whole text to a path leaves when some requests are `liable` to fail: new
directories on the way at most if it stops, and the text at the place of the path, where no
directory was, if it does not. A draft is left only of a text with surrogates, of which nothing was
written, or where its removal has failed too. -/
inductive Writing (liable : Request → Prop) (p : Path) (text : String) (h l : Host) :
    Reply Unit → Prop
  | stopped {e : Failure FileError} (paved : Paved p h l) : Writing liable p text h l (.error e)
  | unencodable {k : Host} {t : Path} {x : Place} {e : Text.Utf8.Unencodable}
      (surrogates : Text.Utf8.unencodable? (fun _ => false) text.toList = some e)
      (paved : Paved p h k) (drafts : p.Drafts x) (left : Drafted k l t x []) :
      Writing liable p text h l (.error (.fault (.unencodable e)))
  | kept {k : Host} {t : Path} {x : Place} {part : List UInt8} {e : FileError}
      (unremoved : liable (.remove t)) (paved : Paved p h k) (drafts : p.Drafts x)
      (left : Drafted k l t x part) : Writing liable p text h l (.error (.error e))
  | written {k : Host} (paved : Paved p h k)
      (noDirectory : k.disk.get? (Path.climb p.names) ≠ some .directory)
      (nodes : ∀ q, l.disk.get? q = if q = Path.climb p.names then
        some (.file (Text.Utf8.encode text.toList)) else k.disk.get? q) :
      Writing liable p text h l (.ok ())

end CompileRun

end SchemaChecks
