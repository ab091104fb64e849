import Mathlib.Data.List.Basic
import SchemaChecks.Log

/-!
Where records go while a log is set up anew and records come, in any order. Each record goes to one
of the two streams at most, which one being settled by the last setup before it, and on each stream
the lines stand in the order of their records.
-/

namespace SchemaChecks.Log

structure Setup where
  level : Int
  threshold : Int
  layout : Layout
  deriving DecidableEq, Repr

inductive Event where
  | setUp (s : Setup)
  | record (r : Record)
  deriving DecidableEq, Repr

def Setup.apply (s : Setup) (l : Log) : Log := l.split s.level s.threshold s.layout

def Event.step (l : Log) : Event → Log × List (Stream × String)
  | .setUp s => (s.apply l, [])
  | .record r => (l, l.deliver r)

def after : Log → List Event → Log
  | l, [] => l
  | l, e :: rest => after (e.step l).1 rest

def written : Log → List Event → List (Stream × String)
  | _, [] => []
  | l, e :: rest => (e.step l).2 ++ written (e.step l).1 rest

/-- The records among events, each with the last setup before it. -/
def settled : Setup → List Event → List (Setup × Record)
  | _, [] => []
  | _, .setUp s :: rest => settled s rest
  | s, .record r :: rest => (s, r) :: settled s rest

/-- Whether records of a level go to a stream: to the error stream from the threshold on, below it
to the output, and nowhere below the level of the log. -/
def Setup.Sends (s : Setup) (level : Int) : Stream → Prop
  | .error => max s.level (max s.threshold 1) ≤ level
  | .output => max s.level debug ≤ level ∧ level < s.threshold

instance (s : Setup) (level : Int) (x : Stream) : Decidable (s.Sends level x) := by
  cases x
  · exact inferInstanceAs (Decidable (_ ∧ _))
  · exact inferInstanceAs (Decidable (_ ≤ _))

section

variable {s : Setup} {l : Log} {level : Int} {x y : Stream}

theorem Setup.sends_unique (hx : s.Sends level x) (hy : s.Sends level y) : x = y := by
  cases x <;> cases y <;> simp only [Sends] at hx hy
  · rfl
  · omega
  · omega
  · rfl

/-- A record leads to the lines of the handlers that take it, if the log lets it pass. -/
theorem deliver_eq_filter (l : Log) (r : Record) :
    l.deliver r =
      (l.activeHandlers.filter fun h => l.enables r.level && h.takes r.level).map fun h =>
      (h.stream, h.layout.line r) := by
  unfold deliver
  cases l.enables r.level <;> simp

theorem enables_iff (l : Log) (level : Int) :
    l.enables level = true ↔ 0 < level ∧ l.level ≤ level := by
  rw [enables, Bool.and_eq_true, decide_eq_true_iff, decide_eq_true_iff]

theorem Handler.takes_iff (h : Handler) (level : Int) :
    h.takes level = true ↔ h.least ≤ level ∧ ∀ most ∈ h.most, level ≤ most := by
  rw [Handler.takes, Bool.and_eq_true, decide_eq_true_iff]
  cases h.most <;> simp

/-- What a log that is set up does with one record. -/
theorem deliver_apply (s : Setup) (l : Log) (r : Record) :
    (s.apply l).deliver r =
      ([Stream.output, Stream.error].filter fun x => s.Sends r.level x).map fun x =>
        (x, s.layout.line r) := by
  have active : (s.apply l).activeHandlers =
      [⟨.output, debug, some (s.threshold - 1), s.layout⟩,
        ⟨.error, s.threshold, none, s.layout⟩] := rfl
  have level : (s.apply l).level = s.level := rfl
  have output : ((s.apply l).enables r.level &&
      Handler.takes ⟨.output, debug, some (s.threshold - 1), s.layout⟩ r.level) =
        decide (s.Sends r.level .output) := by
    rw [Bool.eq_iff_iff, Bool.and_eq_true, enables_iff, Handler.takes_iff, decide_eq_true_iff,
      level]
    simp only [Setup.Sends, debug, Option.mem_some_iff, forall_eq']
    omega
  have error : ((s.apply l).enables r.level &&
      Handler.takes ⟨.error, s.threshold, none, s.layout⟩ r.level) =
        decide (s.Sends r.level .error) := by
    rw [Bool.eq_iff_iff, Bool.and_eq_true, enables_iff, Handler.takes_iff, decide_eq_true_iff,
      level]
    simp only [Setup.Sends, Option.not_mem_none, false_implies, implies_true, and_true]
    omega
  rw [deliver_eq_filter, active]
  simp only [List.filter_cons, List.filter_nil, output, error]
  by_cases out : s.Sends r.level .output <;> by_cases err : s.Sends r.level .error <;>
    simp [out, err]

/-! ### Runs of events -/

theorem written_append (l : Log) (es fs : List Event) :
    written l (es ++ fs) = written l es ++ written (after l es) fs := by
  induction es generalizing l with
  | nil => rfl
  | cons e rest ih => rw [List.cons_append, written, ih, written, after, List.append_assoc]

/-- Records alone leave a log as it is. -/
theorem after_records (l : Log) (rs : List Record) : after l (rs.map .record) = l := by
  induction rs with
  | nil => rfl
  | cons r rest ih => exact ih

/-- What is written after a setup comes from the records, each under the last setup before it. -/
theorem written_settled (s : Setup) (l : Log) (events : List Event) :
    written (s.apply l) events = (settled s events).flatMap fun p => (p.1.apply l).deliver p.2 := by
  induction events generalizing s l with
  | nil => rfl
  | cons e rest ih =>
    cases e with
    | setUp t =>
      have next : t.apply (s.apply l) = t.apply l := rfl
      rw [written, settled, ← ih t l, ← next]
      rfl
    | record r =>
      rw [written, settled, List.flatMap_cons, ← ih s l]
      rfl

theorem filter_streams (x : Stream) :
    [Stream.output, Stream.error].filter (fun y => y = x) = [x] := by
  cases x <;> rfl

/-- On one stream the lines stand in the order of their records. -/
theorem filter_written (s : Setup) (l : Log) (events : List Event) (x : Stream) :
    (written (s.apply l) events).filter (fun line => line.1 = x) =
      ((settled s events).filter fun p => p.1.Sends p.2.level x).map fun p =>
        (x, p.1.layout.line p.2) := by
  rw [written_settled]
  induction settled s events with
  | nil => rfl
  | cons p rest ih =>
    have own : ((p.1.apply l).deliver p.2).filter (fun line => line.1 = x) =
        ([x].filter fun y => p.1.Sends p.2.level y).map fun y => (y, p.1.layout.line p.2) := by
      rw [deliver_apply, List.filter_map, ← filter_streams x, List.filter_filter,
        List.filter_filter]
      simp only [Function.comp_def, Bool.and_comm]
    rw [List.flatMap_cons, List.filter_append, ih, own, List.filter_cons]
    by_cases sends : p.1.Sends p.2.level x
    · simp [sends]
    · simp [sends]

/-- The three ends that a record can come to. -/
theorem deliver_apply_iff (s : Setup) (l : Log) (r : Record) :
    ((s.apply l).deliver r = [(.error, s.layout.line r)] ↔ s.Sends r.level .error) ∧
      ((s.apply l).deliver r = [(.output, s.layout.line r)] ↔ s.Sends r.level .output) ∧
      ((s.apply l).deliver r = [] ↔ ∀ x, ¬ s.Sends r.level x) := by
  rw [deliver_apply]
  by_cases out : s.Sends r.level .output
  · have noError : ¬ s.Sends r.level .error := fun err => by cases Setup.sends_unique out err
    simp only [List.filter_cons, List.filter_nil, out, noError]
    simpa using ⟨.output, out⟩
  · by_cases err : s.Sends r.level .error
    · simp only [List.filter_cons, List.filter_nil, out, err]
      simpa using ⟨.error, err⟩
    · have nowhere : ∀ x, ¬ s.Sends r.level x := by
        intro x
        cases x
        · exact out
        · exact err
      simp [nowhere]

end

/-- Whatever a log was and whatever has been noted, a record goes where the last setup before it
sends it: once to the error stream exactly from the threshold on, once to the output exactly from
debug records on and below the threshold, and otherwise nowhere; levels below that of the setup or
below 1 go nowhere at all. What comes before and after is as it is without the record. On each
stream the lines are those of the records that are sent there, in their order. -/
theorem each_record_once (l : Log) (before : List Event) (s : Setup) :
    (∀ (between : List Record) (r : Record) (later : List Event), ∃ lines,
      written l (before ++ .setUp s :: (between.map .record ++ .record r :: later)) =
        written l (before ++ .setUp s :: between.map .record) ++ lines ++
          written (s.apply l) later ∧
      (lines = [(.error, s.layout.line r)] ↔ max s.level (max s.threshold 1) ≤ r.level) ∧
      (lines = [(.output, s.layout.line r)] ↔
        max s.level 10 ≤ r.level ∧ r.level < s.threshold) ∧
      (lines = [] ↔ ¬ max s.level (max s.threshold 1) ≤ r.level ∧
        ¬ (max s.level 10 ≤ r.level ∧ r.level < s.threshold))) ∧
    ∀ (rest : List Event) (x : Stream),
      written l (before ++ .setUp s :: rest) = written l before ++ written (s.apply l) rest ∧
      (written (s.apply l) rest).filter (fun line => line.1 = x) =
        ((settled s rest).filter fun p => p.1.Sends p.2.level x).map fun p =>
          (x, p.1.layout.line p.2) := by
  have anew : ∀ rest, written l (before ++ .setUp s :: rest) =
      written l before ++ written (s.apply l) rest := fun rest => written_append l before _
  refine ⟨fun between r later => ?_, fun rest x => ⟨anew rest, filter_written s l rest x⟩⟩
  obtain ⟨error, output, nowhere⟩ := deliver_apply_iff s l r
  refine ⟨(s.apply l).deliver r, ?_, error, output, nowhere.trans ?_⟩
  · rw [anew, anew, written_append, after_records]
    simp only [written, Event.step, List.append_assoc]
  · constructor
    · exact fun none => ⟨none .error, none .output⟩
    · rintro ⟨noError, noOutput⟩ x
      cases x
      · exact noOutput
      · exact noError

/-- With both thresholds at warnings a second setup leaves no handler of the first behind. -/
example :
    written unset [.setUp ⟨10, 30, .standard⟩, .setUp ⟨10, 30, .standard⟩, .record ⟨"a", 30, "m"⟩] =
      [(.error, "a - WARNING - m\n")] := by decide +kernel

end SchemaChecks.Log
