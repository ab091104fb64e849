import SchemaChecks.Proofs.Draft

/-!
Writing a file while operations fail. Any operation on files may be refused, and a write may be
broken off after a part of its content; a program then takes one of many courses, and other programs
see all the states that it goes through. A text that is written whole is nowhere seen in part: at
the place of its target there is what was there before, or all of it.
-/

namespace SchemaChecks

open Program Host

namespace Request

/-- The states in the middle of a request, which are those of a write: a part of the content is in
the file. -/
def Amid : Request → Host → Host → Prop
  | .write p content, h, k => ∃ part, part <+: content ∧
      h.answer (.write p part) = .ok () ∧ k = h.after (.write p part)
  | _, _, _ => False

/-- How a request fails that could be done: it has no effect, but that a write may break off. A look
that fails does not say that nothing is there. -/
def Fails : (r : Request) → Host → r.Answer → Host → Prop
  | .kindOf _, h, b, k =>
    (∃ e : FileError, e.kind.isAbsence = false ∧ b = Except.error (.error e)) ∧ k = h
  | .read _, h, b, k | .makeDirectory _, h, b, k | .createTemporary _ _, h, b, k
  | .replace _ _, h, b, k | .remove _, h, b, k =>
    (∃ e : FileError, b = Except.error (.error e)) ∧ k = h
  | .write p content, h, b, k =>
    (∃ e : FileError, b = Except.error (.error e)) ∧ (k = h ∨ (write p content).Amid h k)
  | _, _, _, _ => False

variable {liable : Request → Prop}

def Goes (liable : Request → Prop) (r : Request) (h : Host) (b : r.Answer) (k : Host) : Prop :=
  b = (step r h).1 ∧ k = (step r h).2 ∨ liable r ∧ r.Fails h b k

/-- The requests of a write, up to the one that moves the file to its target. -/
def Builds : Request → Prop
  | .makeDirectory _ | .createTemporary _ _ | .write _ _ | .replace _ _ => True
  | _ => False

def IsSteady (liable : Request → Prop) (r : Request) : Prop := liable r → ∀ h b k, ¬ r.Fails h b k

theorem IsSteady.goes {r : Request} (steady : r.IsSteady liable) {h k : Host} {b : r.Answer}
    (goes : r.Goes liable h b k) : b = (step r h).1 ∧ k = (step r h).2 :=
  goes.resolve_right fun fails => steady fails.1 h b k fails.2

theorem Spares.isSteady {r : Request} (spares : r.Spares) : r.IsSteady Builds := by
  intro builds
  cases r <;> first | exact builds.elim | exact spares.elim

theorem isSteady_here : IsSteady liable .here := fun _ _ _ _ fails => fails

theorem isSteady_print {stream : Stream} {text : String} : IsSteady liable (.print stream text) :=
  fun _ _ _ _ fails => fails

theorem IsNote.isSteady {r : Request} (note : r.IsNote) : r.IsSteady liable := by
  rintro - h b k fails
  cases r <;> first | exact fails | exact note

/-- Whether it fails or not, what changes no file changes none. -/
theorem Spares.goes {r : Request} (spares : r.Spares) {h k : Host} {b : r.Answer}
    (goes : r.Goes liable h b k) : SameFiles h k := by
  rcases goes with ⟨-, rfl⟩ | ⟨-, fails⟩
  · exact sameFiles_of_spares (asks_perform spares) h
  · cases r with
    | kindOf _ | read _ => exact fails.2 ▸ SameFiles.refl h
    | here | splitLog _ _ | note _ | print _ _ => exact fails.elim
    | makeDirectory _ | createTemporary _ _ | write _ _ | replace _ _ | remove _ =>
      exact spares.elim

theorem Looks.goes {r : Request} (looks : r.Looks) {h k : Host} {b : r.Answer}
    (goes : r.Goes liable h b k) : h = k := by
  rcases goes with ⟨-, rfl⟩ | ⟨-, fails⟩
  · cases r <;> first | rfl | exact looks.elim
  · cases r <;> first | exact fails.2.symm | exact fails.elim | exact looks.elim

end Request

namespace Program

variable {α β : Type} {h k l : Host} {liable : Request → Prop}

/-- A program gives a result and leaves a host, whichever of its requests that are `liable` to it
fail. -/
inductive Runs (liable : Request → Prop) : Program α → Host → α → Host → Prop
  | done (a : α) (h : Host) : Runs liable (.done a) h a h
  | ask {r : Request} {next : r.Answer → Program α} {h k l : Host} {b : r.Answer} {a : α}
      (goes : r.Goes liable h b k) (rest : Runs liable (next b) k a l) :
      Runs liable (.ask r next) h a l

inductive Meets (liable : Request → Prop) : Program α → Host → Host → Prop
  | now (p : Program α) (h : Host) : Meets liable p h h
  | amid {r : Request} {next : r.Answer → Program α} {h k : Host} (part : r.Amid h k) :
      Meets liable (.ask r next) h k
  | later {r : Request} {next : r.Answer → Program α} {h k l : Host} {b : r.Answer}
      (goes : r.Goes liable h b k) (rest : Meets liable (next b) k l) :
      Meets liable (.ask r next) h l

/-- All states that a program goes through are of one kind, and what it ends with is of another. -/
def Secures (liable : Request → Prop) (always : Host → Prop) (ends : α → Host → Prop) :
    Program α → Host → Prop
  | .done a, h => always h ∧ ends a h
  | .ask r next, h => always h ∧ (∀ k, r.Amid h k → always k) ∧
      ∀ b k, r.Goes liable h b k → (next b).Secures liable always ends k

/-- Without a failure, a program runs as it does on its host. -/
theorem runs_answer (p : Program α) (h : Host) :
    Runs liable p h (h.answer p) (h.after p) := by
  induction p generalizing h with
  | done a => exact .done a h
  | ask r next ih => exact .ask (.inl ⟨rfl, rfl⟩) (ih (step r h).1 (step r h).2)

theorem runs_certainly (p : Program α) (h : Host) :
    Runs (fun _ => False) p h (h.answer p) (h.after p) :=
  runs_answer p h

theorem runs_bind {p : Program α} {f : α → Program β} {b : β} :
    Runs liable (p >>= f) h b l ↔ ∃ a k, Runs liable p h a k ∧ Runs liable (f a) k b l := by
  induction p generalizing h with
  | done a =>
    constructor
    · intro runs
      exact ⟨a, h, .done a h, runs⟩
    · rintro ⟨a', k, ⟨⟩, runs⟩
      exact runs
  | ask r next ih =>
    constructor
    · rintro ⟨⟩
      rename_i goes rest
      obtain ⟨a, k, first, second⟩ := (ih _).mp rest
      exact ⟨a, k, .ask goes first, second⟩
    · rintro ⟨a, k, ⟨⟩, second⟩
      rename_i goes first
      exact .ask goes ((ih _).mpr ⟨a, k, first, second⟩)

theorem runs_perform {r : Request} {b : r.Answer} :
    Runs liable (perform r) h b k ↔ r.Goes liable h b k := by
  constructor
  · rintro (_ | ⟨goes, ⟨⟩⟩)
    exact goes
  · exact fun goes => .ask goes (.done b k)

/-- What is always done runs in one way. -/
theorem runs_of_steady {p : Program α} (steady : p.Asks (Request.IsSteady liable)) {a : α}
    (runs : Runs liable p h a k) : a = h.answer p ∧ k = h.after p := by
  induction p generalizing h with
  | done b =>
    cases runs
    exact ⟨rfl, rfl⟩
  | ask r next ih =>
    obtain ⟨first, others⟩ := steady
    cases runs with
    | ask goes rest =>
      obtain ⟨rfl, rfl⟩ := first.goes goes
      exact ih _ (others _) rest

/-- If nothing may fail, a program runs as it does on its host. -/
theorem runs_of_certain {p : Program α} {a : α} (runs : Runs (fun _ => False) p h a k) :
    a = h.answer p ∧ k = h.after p := by
  induction runs with
  | done a h => exact ⟨rfl, rfl⟩
  | ask goes rest ih =>
    obtain ⟨rfl, rfl⟩ := goes.resolve_right And.left
    exact ih

theorem runs_of_notes {p : Program α} (notes : p.Asks Request.IsNote) {a : α}
    (runs : Runs liable p h a k) : a = h.answer p ∧ k = h.after p :=
  runs_of_steady (notes.imp fun _ => Request.IsNote.isSteady) runs

/-- A relation that requests of a kind keep, done or not, holds between the ends of a run. -/
theorem Runs.related {kind : Request → Prop} {related : Host → Host → Prop}
    (refl : ∀ h, related h h) (trans : ∀ {h k l}, related h k → related k l → related h l)
    (keeps : ∀ {r h b k}, kind r → r.Goes liable h b k → related h k) {p : Program α}
    (asks : p.Asks kind) {a : α} (runs : Runs liable p h a k) : related h k := by
  induction runs with
  | done a h => exact refl h
  | ask goes rest ih => exact trans (keeps asks.1 goes) (ih (asks.2 _))

theorem Runs.sameFiles {p : Program α} (spares : p.Asks Request.Spares) {a : α}
    (runs : Runs liable p h a k) : SameFiles h k :=
  runs.related SameFiles.refl SameFiles.trans (fun spares goes => Request.Spares.goes spares goes)
    spares

theorem Runs.unmoved {p : Program α} (looks : p.Asks Request.Looks) {a : α}
    (runs : Runs liable p h a k) : h = k :=
  runs.related (fun _ => rfl) Eq.trans (fun looks goes => Request.Looks.goes looks goes) looks

/-- The host that a program leaves is one of its states. -/
theorem Runs.meets {p : Program α} {a : α} (runs : Runs liable p h a k) : Meets liable p h k := by
  induction runs with
  | done a h => exact .now _ h
  | ask goes rest ih => exact .later goes ih

namespace Secures

variable {always : Host → Prop} {ends : α → Host → Prop} {p : Program α}

theorem meets (secures : p.Secures liable always ends h) (met : Meets liable p h k) : always k := by
  induction met with
  | now p h =>
    cases p with
    | done a => exact secures.1
    | ask r next => exact secures.1
  | amid part => exact secures.2.1 _ part
  | later goes rest ih => exact ih (secures.2.2 _ _ goes)

theorem runs (secures : p.Secures liable always ends h) {a : α} (runs : Runs liable p h a k) :
    ends a k := by
  induction runs with
  | done a h => exact secures.2
  | ask goes rest ih => exact ih (secures.2.2 _ _ goes)

theorem imp {always' : Host → Prop} {ends' : α → Host → Prop}
    (secures : p.Secures liable always ends h)
    (weaker : ∀ k, always k → always' k) (later : ∀ a k, ends a k → ends' a k) :
    p.Secures liable always' ends' h := by
  induction p generalizing h with
  | done a => exact ⟨weaker _ secures.1, later _ _ secures.2⟩
  | ask r next ih =>
    obtain ⟨now, amid, rest⟩ := secures
    exact ⟨weaker _ now, fun k part => weaker k (amid k part), fun b k goes => ih b (rest b k goes)⟩

theorem bind {f : α → Program β} {ends : β → Host → Prop}
    (first : p.Secures liable always (fun a k => (f a).Secures liable always ends k) h) :
    (p >>= f).Secures liable always ends h := by
  induction p generalizing h with
  | done a => exact first.2
  | ask r next ih =>
    obtain ⟨now, amid, rest⟩ := first
    exact ⟨now, amid, fun b k goes => ih b (rest b k goes)⟩

theorem perform {r : Request} {ends : r.Answer → Host → Prop} (now : always h)
    (amid : ∀ k, r.Amid h k → always k) (goes : ∀ b k, r.Goes liable h b k → always k ∧ ends b k) :
    (Program.perform r).Secures liable always ends h :=
  ⟨now, amid, goes⟩

/-- What each step of a kind keeps, a program that asks for nothing else keeps. -/
theorem of_asks {kind : Request → Prop} (asks : p.Asks kind) (now : always h)
    (amid : ∀ r h k, kind r → always h → r.Amid h k → always k)
    (goes : ∀ r h b k, kind r → always h → r.Goes liable h b k → always k) :
    p.Secures liable always (fun _ k => always k) h := by
  induction p generalizing h with
  | done a => exact ⟨now, now⟩
  | ask r next ih =>
    obtain ⟨first, others⟩ := asks
    exact ⟨now, fun k part => amid r h k first now part,
      fun b k step => ih b (others b) (goes r h b k first now step)⟩

end Secures

end Program

namespace CompileRun

variable {h k l m : Host} {p t : Path} {x : Place} {text : String} {part : List UInt8}
  {liable : Request → Prop}

/-- The states that writing a whole text goes through: directories are made on the way, then there
is a draft beside the target, and then the text stands at the target. -/
inductive Underway (liable : Request → Prop) (p : Path) (text : String) (h : Host) : Host → Prop
  | paving {k : Host} (paved : Paved p h k) : Underway liable p text h k
  | drafting {k l : Host} {t : Path} {x : Place} {part : List UInt8} (paved : Paved p h k)
      (drafts : p.Drafts x) (drafted : Drafted k l t x part) : Underway liable p text h l
  | written {l : Host} (writing : Writing liable p text h l (.ok ())) : Underway liable p text h l

theorem paved_goes (absolute : p.isAbsolute = true) {r : Request} (paves : r.Paves p) {b : r.Answer}
    (goes : r.Goes liable h b k) : Paved p h k := by
  rcases goes with ⟨-, rfl⟩ | ⟨-, fails⟩
  · exact paved_step absolute r h paves
  · cases r with
    | makeDirectory _ | kindOf _ =>
      obtain ⟨-, rfl⟩ := fails
      exact Paved.refl p k
    | here | read _ | createTemporary _ _ | write _ _ | replace _ _ | remove _ | splitLog _ _
    | note _ | print _ _ => exact paves.elim

theorem secures_makeDirectories (absolute : p.isAbsolute = true) (fuel : Nat) :
    (makeDirectories fuel p.parent).Secures liable (Paved p h) (fun _ k => Paved p h k) h := by
  have paves : (makeDirectories fuel p.parent).Asks (Request.Paves p) :=
    makeDirectories_asks (fun _ => trivial) fuel p.parent fun _ shorter => ⟨rfl, shorter⟩
  refine Secures.of_asks paves (Paved.refl p h) (fun r k l paves _ part => ?_)
    fun r k b l paves paved goes => paved.trans (paved_goes absolute paves goes)
  cases r <;> first | exact part.elim | exact paves.elim

/-- In the middle of a write to it, a draft is a draft. -/
theorem drafted_amid {content : List UInt8} (drafted : Drafted k l t x part)
    (amid : (Request.write t content).Amid l m) : ∃ part, Drafted k m t x part := by
  obtain ⟨part, -, -, rfl⟩ := amid
  exact ⟨part, (drafted.write part).2⟩

/-- A draft is filled, or the write to it fails and it is still a draft. -/
theorem drafted_goes {content : List UInt8} (drafted : Drafted k l t x part) {b : Reply Unit}
    (goes : (Request.write t content).Goes liable l b m) :
    b = .ok () ∧ Drafted k m t x content ∨
      (∃ e : FileError, b = .error (.error e)) ∧ ∃ part, Drafted k m t x part := by
  rcases goes with ⟨rfl, rfl⟩ | ⟨-, refused, rfl | amid⟩
  · exact .inl (drafted.write content)
  · exact .inr ⟨refused, part, drafted⟩
  · exact .inr ⟨refused, drafted_amid drafted amid⟩

/-- A full draft is moved to its target, or it is left as it is. -/
theorem replaced_goes (absolute : p.isAbsolute = true) (accepted : p.isRefused = false)
    (paved : Paved p h k) (drafted : Drafted k l t x (Text.Utf8.encode text.toList))
    {b : Reply Unit} (goes : (Request.replace t p).Goes liable l b m) :
    b = .ok () ∧ Writing liable p text h m (.ok ()) ∧
        m.answer (.read p) = .ok (Text.Utf8.encode text.toList) ∨
      (∃ e : FileError, b = .error (.error e)) ∧ m = l := by
  rcases goes with ⟨rfl, rfl⟩ | ⟨-, failed⟩
  · cases moves : l.answer (replace t p) with
    | ok u =>
      obtain ⟨noDirectory, nodes⟩ := drafted.replace absolute moves
      exact .inl ⟨moves, .written paved noDirectory nodes,
        read_after_replace accepted drafted.read moves⟩
    | error e =>
      cases e with
      | fault f => exact absurd moves (replace_ne_fault _ _ f)
      | error e => exact .inr ⟨⟨e, moves⟩, after_replace_of_error moves⟩
  · exact .inr failed

/-- A draft that is discarded leaves nothing, if it can be removed. -/
theorem secures_discard (paved : Paved p h k) (drafts : p.Drafts x) (drafted : Drafted k l t x part)
    (e : FileError) : (discardTemporary t (.error e)).Secures liable
      (Underway liable p text h) (fun reply l => Writing liable p text h l reply ∧
        (reply = .ok () → l.answer (.read p) = .ok (Text.Utf8.encode text.toList))) l := by
  have draft : Underway liable p text h l := .drafting paved drafts drafted
  refine .bind (.perform (r := .remove t) draft (fun _ amid => amid.elim) ?_)
  rintro reply m (⟨removed, rfl⟩ | ⟨unremoved, ⟨x, rfl⟩, rfl⟩)
  · obtain ⟨answers, nodes⟩ := drafted.remove
    replace removed : l.answer (remove t) = reply := removed.symm
    obtain rfl : reply = .ok () := removed.symm.trans answers
    have gone : Paved p h (l.after (remove t)) := paved.trans fun q => .inl (nodes q)
    exact ⟨.paving gone, .paving gone, .stopped gone, nofun⟩
  · exact ⟨draft, draft, .kept unremoved paved drafts drafted, nofun⟩

/-- From an empty draft on, a text is written and moved to its target, or the draft is discarded. A
text with surrogates ends the write with the draft in place. -/
theorem secures_fillAndMove (absolute : p.isAbsolute = true) (accepted : p.isRefused = false)
    (paved : Paved p h k) (drafts : p.Drafts x) (empty : Drafted k l t x []) :
    (fillAndMove t p text).Secures liable (Underway liable p text h)
      (fun reply l => Writing liable p text h l reply ∧
        (reply = .ok () → l.answer (.read p) = .ok (Text.Utf8.encode text.toList))) l := by
  have draft : ∀ {m part}, Drafted k m t x part → Underway liable p text h m :=
    fun drafted => .drafting paved drafts drafted
  rcases writeText_cases t text with ⟨-, write⟩ | ⟨e, surrogates, refused⟩
  · rw [fillAndMove, write]
    refine .bind (.perform (r := .write t (Text.Utf8.encode text.toList)) (draft empty)
      (fun m amid => ?_) fun b m goes => ?_)
    · obtain ⟨part, drafted⟩ := drafted_amid empty amid
      exact draft drafted
    · rcases drafted_goes empty goes with ⟨rfl, drafted⟩ | ⟨⟨e, rfl⟩, part, drafted⟩
      · refine ⟨draft drafted, .bind (.perform (r := .replace t p) (draft drafted)
          (fun _ amid => amid.elim) fun b n goes => ?_)⟩
        rcases replaced_goes absolute accepted paved drafted goes with
          ⟨rfl, writing, held⟩ | ⟨⟨e, rfl⟩, rfl⟩
        · exact ⟨.written writing, .written writing, writing, fun _ => held⟩
        · exact ⟨draft drafted, secures_discard paved drafts drafted e⟩
      · exact ⟨draft drafted, secures_discard paved drafts drafted e⟩
  · rw [fillAndMove, refused]
    exact ⟨draft empty, .unencodable surrogates paved drafts empty,
      fun ended => absurd ended (by simp)⟩

/-- Whichever requests fail, writing a text goes through whole states only. -/
theorem secures_writeWhole (absolute : p.isAbsolute = true) (text : String) (h : Host) :
    (writeWhole p text).Secures liable (Underway liable p text h)
      (fun reply l => Writing liable p text h l reply ∧
        (reply = .ok () → l.answer (.read p) = .ok (Text.Utf8.encode text.toList))) h := by
  refine .bind ((secures_makeDirectories absolute _).imp (fun _ => .paving) ?_)
  intro reply k paved
  cases reply with
  | error e => exact ⟨.paving paved, .stopped paved, nofun⟩
  | ok u =>
    refine .bind (.perform (r := .createTemporary p.parent p.name) (.paving paved)
      (fun _ part => part.elim) ?_)
    rintro reply l (⟨made, rfl⟩ | ⟨-, ⟨e, rfl⟩, rfl⟩)
    · replace made : k.answer (createTemporary p.parent p.name) = reply := made.symm
      change Underway liable p text h (k.after (createTemporary p.parent p.name)) ∧
        Secures _ _ _ _ (k.after (createTemporary p.parent p.name))
      cases reply with
      | error e =>
        rw [after_createTemporary_of_error made]
        exact ⟨.paving paved, .paving paved, .stopped paved, nofun⟩
      | ok t =>
        have accepted := accepted_of_createTemporary made
        obtain ⟨x, empty⟩ := drafted_of_createTemporary made
        have drafts := empty.drafts absolute made
        generalize k.after (createTemporary p.parent p.name) = l at *
        exact ⟨.drafting paved drafts empty,
          secures_fillAndMove absolute accepted paved drafts empty⟩
    · exact ⟨.paving paved, .paving paved, .stopped paved, nofun⟩

end CompileRun

end SchemaChecks
