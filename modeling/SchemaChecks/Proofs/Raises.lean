import Mathlib.Control.Monad.Basic

/-!
What a step can fail with, and what it gives. A step on a state is judged by what holds before and
after it, and by what its errors have in common; a run of steps is judged step by step.
-/

def Except.Raises {ε α : Type} (x : Except ε α) (P : ε → Prop) : Prop := ∀ e, x = .error e → P e

def Except.Gives {ε α : Type} (x : Except ε α) (Q : α → Prop) : Prop := ∀ a, x = .ok a → Q a

/-- From states with the property `I` a step goes to such states again, and all its errors are in
`P`. -/
def StateT.Raises {σ ε α : Type} (m : StateT σ (Except ε) α) (I : σ → Prop) (P : ε → Prop) : Prop :=
  ∀ s, I s → (m.run s).Raises P ∧ ∀ a t, m.run s = .ok (a, t) → I t

namespace Except

variable {ε α β : Type} {P : ε → Prop}

@[grind ←]
theorem raises_ok (a : α) : (Except.ok a : Except ε α).Raises P := by
  intro e h
  cases h

@[grind ←]
theorem raises_pure (a : α) : (pure a : Except ε α).Raises P := raises_ok a

@[grind ←]
theorem raises_error {e : ε} (he : P e) : (Except.error e : Except ε α).Raises P := by
  intro x h
  cases h
  exact he

@[grind ←]
theorem Raises.bind {x : Except ε α} {f : α → Except ε β} (hx : x.Raises P)
    (hf : ∀ a, (f a).Raises P) : (x >>= f).Raises P := by
  intro e h
  cases x with
  | error y =>
    cases h
    exact hx e rfl
  | ok a => exact hf a e h

theorem Raises.ite {c : Prop} [Decidable c] {x y : Except ε α} (hx : x.Raises P)
    (hy : y.Raises P) : (if c then x else y).Raises P := by
  split
  · exact hx
  · exact hy

@[grind ←]
theorem Raises.map {x : Except ε α} {f : α → β} (hx : x.Raises P) : (x.map f).Raises P := by
  intro e h
  cases x with
  | error y => exact hx e (by simpa [Except.map] using h)
  | ok a => cases h

theorem raises_mapM {f : α → Except ε β} (hf : ∀ a, (f a).Raises P) (items : List α) :
    (items.mapM f).Raises P := by
  induction items with
  | nil => exact raises_pure _
  | cons a rest ih =>
    rw [List.mapM_cons]
    exact .bind (hf a) fun _ => .bind ih fun _ => raises_pure _

/-! ### Results -/

theorem Gives.bind {Q : α → Prop} {R : β → Prop} {x : Except ε α} {f : α → Except ε β}
    (hx : x.Gives Q) (hf : ∀ a, Q a → (f a).Gives R) : (x >>= f).Gives R := by
  intro b h
  cases x with
  | error e => cases h
  | ok a => exact hf a (hx a rfl) b h

end Except

namespace StateT

variable {σ ε α β : Type} {I : σ → Prop} {P : ε → Prop}

@[grind ←]
theorem raises_pure (a : α) : (pure a : StateT σ (Except ε) α).Raises I P := by
  intro s hs
  refine ⟨Except.raises_ok _, fun b t h => ?_⟩
  cases h
  exact hs

@[grind ←]
theorem raises_throw {e : ε} (he : P e) : (throw e : StateT σ (Except ε) α).Raises I P := by
  intro s _
  refine ⟨Except.raises_error he, fun b t h => ?_⟩
  cases h

@[grind ←]
theorem Raises.bind {m : StateT σ (Except ε) α} {f : α → StateT σ (Except ε) β}
    (hm : m.Raises I P) (hf : ∀ a, (f a).Raises I P) : (m >>= f).Raises I P := by
  intro s hs
  obtain ⟨errors, results⟩ := hm s hs
  rw [StateT.run_bind]
  cases hr : m.run s with
  | error e => exact ⟨Except.raises_error (errors e hr), fun b t h => by cases h⟩
  | ok r => exact hf r.1 r.2 (results r.1 r.2 hr)

/-- What is read from the state has the property of the state. -/
@[grind ←]
theorem raises_get_bind {f : σ → StateT σ (Except ε) β} (hf : ∀ s, I s → (f s).Raises I P) :
    ((get : StateT σ (Except ε) σ) >>= f).Raises I P := by
  intro s hs
  exact hf s hs s hs

@[grind ←]
theorem raises_set {s : σ} (hs : I s) : (set s : StateT σ (Except ε) PUnit).Raises I P := by
  intro t _
  refine ⟨fun e h => (by cases h), fun b u h => ?_⟩
  cases h
  exact hs

@[grind ←]
theorem raises_modify {f : σ → σ} (hf : ∀ s, I s → I (f s)) :
    (modify f : StateT σ (Except ε) PUnit).Raises I P := by
  intro s hs
  refine ⟨fun e h => (by cases h), fun b t h => ?_⟩
  cases h
  exact hf s hs

theorem Raises.ite {c : Prop} [Decidable c] {m n : StateT σ (Except ε) α} (hm : m.Raises I P)
    (hn : n.Raises I P) : (if c then m else n).Raises I P := by
  split
  · exact hm
  · exact hn

@[grind ←]
theorem Raises.discard {m : StateT σ (Except ε) α} (hm : m.Raises I P) :
    (discard m : StateT σ (Except ε) PUnit).Raises I P :=
  hm.bind fun _ => raises_pure _

end StateT
