import SchemaChecks.Files.Host
import SchemaChecks.Files.Text

/-!
Programs run on hosts: how runs compose, which programs leave the files alone, and that what a
program does with files does not depend on what was noted before.
-/

namespace SchemaChecks

namespace Program

variable {α β σ : Type} {kind : Request → Prop}

theorem runWith_bind (step : (r : Request) → σ → r.Answer × σ) (p : Program α)
    (f : α → Program β) (s : σ) :
    (p >>= f).runWith step s = (f (p.runWith step s).1).runWith step (p.runWith step s).2 := by
  induction p generalizing s with
  | done a => rfl
  | ask r next ih => exact ih (step r s).1 (step r s).2

def Asks (kind : Request → Prop) : Program α → Prop
  | .done _ => True
  | .ask r next => kind r ∧ ∀ a, (next a).Asks kind

@[simp] theorem asks_pure (a : α) : (pure a : Program α).Asks kind := trivial

theorem asks_perform {r : Request} (hr : kind r) : (perform r).Asks kind := ⟨hr, fun _ => trivial⟩

theorem Asks.bind {p : Program α} {f : α → Program β} (hp : p.Asks kind)
    (hf : ∀ a, (f a).Asks kind) : (p >>= f).Asks kind := by
  induction p with
  | done a => exact hf a
  | ask r next ih =>
    obtain ⟨hr, hn⟩ := hp
    exact ⟨hr, fun a => ih a (hn a)⟩

theorem Asks.imp {kind' : Request → Prop} {p : Program α} (hp : p.Asks kind)
    (weaker : ∀ r, kind r → kind' r) : p.Asks kind' := by
  induction p with
  | done a => exact trivial
  | ask r next ih =>
    obtain ⟨hr, hn⟩ := hp
    exact ⟨weaker r hr, fun a => ih a (hn a)⟩

end Program

namespace Request

def Looks : Request → Prop
  | .here | .kindOf _ | .read _ => True
  | _ => False

def Spares : Request → Prop
  | .here | .kindOf _ | .read _ | .splitLog _ _ | .note _ | .print _ _ => True
  | _ => False

theorem Looks.spares {r : Request} (hr : r.Looks) : r.Spares := by
  cases r <;> trivial

def IsNote : Request → Prop
  | .note _ => True
  | _ => False

theorem IsNote.spares {r : Request} (hr : r.IsNote) : r.Spares := by
  cases r <;> trivial

end Request

namespace Host

variable {α β : Type} {h k l : Host}

def answer (h : Host) (p : Program α) : α := (h.run p).1

def after (h : Host) (p : Program α) : Host := (h.run p).2

@[simp] theorem answer_pure (a : α) : h.answer (pure a) = a := rfl

@[simp] theorem after_pure (a : α) : h.after (pure a : Program α) = h := rfl

theorem answer_remove (p : Path) :
    h.answer (.remove p) = (h.change p (h.disk.remove h.here p)).1 := rfl

theorem after_remove (p : Path) :
    h.after (.remove p) = (h.change p (h.disk.remove h.here p)).2 := rfl

theorem after_write_of_error {p : Path} {content : List UInt8} {e : Failure FileError}
    (stops : h.answer (.write p content) = .error e) : h.after (.write p content) = h := by
  change (h.change p (h.disk.write h.here p content)).1 = .error e at stops
  change (h.change p (h.disk.write h.here p content)).2 = h
  unfold change at stops ⊢
  split
  · rename_i d written
    rw [written] at stops
    cases stops
  · rfl

theorem replace_ne_fault (source target : Path) (f : Fault) :
    h.answer (.replace source target) ≠ .error (.fault f) := by
  change (h.moved source target).1 ≠ _
  unfold moved
  split <;> simp

@[simp] theorem after_note_disk (logger : String) (level : Int) (message : String) :
    (h.after (.note logger level message)).disk = h.disk := rfl

@[simp] theorem after_note_here (logger : String) (level : Int) (message : String) :
    (h.after (.note logger level message)).here = h.here := rfl

@[simp] theorem answer_bind (p : Program α) (f : α → Program β) :
    h.answer (p >>= f) = (h.after p).answer (f (h.answer p)) :=
  congrArg Prod.fst (Program.runWith_bind step p f h)

@[simp] theorem after_bind (p : Program α) (f : α → Program β) :
    h.after (p >>= f) = (h.after p).after (f (h.answer p)) :=
  congrArg Prod.snd (Program.runWith_bind step p f h)

/-- A relation that steps of a kind keep between the hosts before and after holds between the ends
of a run. -/
theorem after_of_asks {kind : Request → Prop} {related : Host → Host → Prop}
    (refl : ∀ h, related h h) (trans : ∀ {h k l}, related h k → related k l → related h l)
    (keeps : ∀ r h, kind r → related h (step r h).2) {p : Program α} (hp : p.Asks kind)
    (h : Host) : related h (h.after p) := by
  induction p generalizing h with
  | done a => exact refl h
  | ask r next ih =>
    obtain ⟨hr, hn⟩ := hp
    exact trans (keeps r h hr) (ih _ (hn _) _)

theorem step_here (r : Request) (h : Host) : (step r h).2.here = h.here := by
  cases r with
  | here | kindOf _ | read _ | splitLog _ _ | note _ | print _ _ => rfl
  | makeDirectory _ | write _ _ | remove _ =>
    simp only [step, change]
    split <;> rfl
  | createTemporary _ _ =>
    simp only [step, temporary]
    split <;> rfl
  | replace _ _ =>
    simp only [step, moved]
    split <;> rfl

/-- No program leaves its directory. -/
theorem after_here {α : Type} (p : Program α) (h : Host) : (h.after p).here = h.here := by
  induction p generalizing h with
  | done a => rfl
  | ask r next ih => exact (ih _ _).trans (step_here r h)

structure SameFiles (h k : Host) : Prop where
  disk : h.disk = k.disk
  here : h.here = k.here

theorem SameFiles.refl (h : Host) : SameFiles h h := ⟨rfl, rfl⟩

theorem SameFiles.trans (s : SameFiles h k) (t : SameFiles k l) : SameFiles h l :=
  ⟨s.disk.trans t.disk, s.here.trans t.here⟩

theorem after_of_looks {p : Program α} (hp : p.Asks Request.Looks) (h : Host) : h.after p = h := by
  have step_looks : ∀ r k, Request.Looks r → k = (step r k).2 := by
    intro r k hr
    cases r <;> first | rfl | cases hr
  exact (after_of_asks (fun _ => rfl) Eq.trans step_looks hp h).symm

theorem sameFiles_of_spares {p : Program α} (hp : p.Asks Request.Spares) (h : Host) :
    SameFiles h (h.after p) := by
  have step_spares : ∀ r k, Request.Spares r → SameFiles k (step r k).2 := by
    intro r k hr
    cases r <;> first | exact ⟨rfl, rfl⟩ | cases hr
  exact after_of_asks SameFiles.refl SameFiles.trans step_spares hp h

/-- What only takes notes gives the same on all hosts. -/
theorem answer_of_notes {p : Program α} (notes : p.Asks Request.IsNote) (h k : Host) :
    h.answer p = k.answer p := by
  induction p generalizing h k with
  | done a => rfl
  | ask r next ih =>
    obtain ⟨note, others⟩ := notes
    cases r with
    | note record => exact ih () (others ()) _ _
    | here | kindOf _ | read _ | makeDirectory _ | createTemporary _ _ | write _ _ | replace _ _
    | remove _ | splitLog _ _ | print _ _ => exact note.elim

/-- One step gives the same on hosts with the same files, and leaves the same files. -/
theorem SameFiles.step (s : SameFiles h k) (r : Request) :
    (Host.step r h).1 = (Host.step r k).1 ∧ SameFiles (Host.step r h).2 (Host.step r k).2 := by
  obtain ⟨disk, here, log, written⟩ := h
  obtain ⟨disk', here', log', written'⟩ := k
  obtain ⟨rfl, rfl⟩ : disk = disk' ∧ here = here' := ⟨s.disk, s.here⟩
  cases r with
  | here | kindOf p | read p | splitLog l t | note r | print o t => exact ⟨rfl, rfl, rfl⟩
  | makeDirectory p | write p content | remove p =>
    simp only [Host.step, change]
    split <;> exact ⟨rfl, rfl, rfl⟩
  | createTemporary directory stem =>
    simp only [Host.step, temporary]
    split <;> exact ⟨rfl, rfl, rfl⟩
  | replace source target =>
    simp only [Host.step, moved]
    split <;> exact ⟨rfl, rfl, rfl⟩

/-- What a program gives and which files it leaves depends on the files alone. -/
theorem SameFiles.run (s : SameFiles h k) (p : Program α) :
    h.answer p = k.answer p ∧ SameFiles (h.after p) (k.after p) := by
  induction p generalizing h k with
  | done a => exact ⟨rfl, s⟩
  | ask r next ih =>
    obtain ⟨same, files⟩ := s.step r
    have rest := ih (Host.step r h).1 files
    rw [same] at rest
    change (Host.step r h).2.answer (next (Host.step r h).1) =
        (Host.step r k).2.answer (next (Host.step r k).1) ∧
      SameFiles ((Host.step r h).2.after (next (Host.step r h).1))
        ((Host.step r k).2.after (next (Host.step r k).1))
    rw [same]
    exact rest

theorem SameFiles.answer (s : SameFiles h k) (p : Program α) : h.answer p = k.answer p :=
  (s.run p).1

def HasFile (h : Host) (p : Path) : Prop := ∃ content, h.answer (.read p) = .ok content

end Host

end SchemaChecks
