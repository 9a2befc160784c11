import Mathlib.Order.Defs.Unbundled

/-!
# Computations with a state

Every stage of an execution is a function that may fail and that leaves its state behind whether it
fails or not. Two kinds of facts about such functions are put together here from those about their
parts: how the state before is related to the state after, and which changes of the state a
computation does not notice.
-/

namespace Covenant

/-- A computation that may fail and keeps what it has done when it does. -/
abbrev Stage (ε σ α : Type) :=
  ExceptT ε (StateM σ) α

namespace Stage

variable {ε σ α β : Type}

/-- The second part of a sequence starts where the first one ends, unless that fails. -/
theorem run_bind (x : Stage ε σ α) (f : α → Stage ε σ β) (s : σ) :
    (x >>= f).run s =
      match x.run s with
      | (.ok a, t) => (f a).run t
      | (.error e, t) => (.error e, t) := by
  rw [ExceptT.run_bind]
  change (match x.run s with
    | (r, t) => (match r with | .ok a => (f a).run | .error e => Pure.pure (.error e)) t) = _
  rcases x.run s with ⟨_ | _, _⟩ <;> rfl

/-- A sequence whose first part succeeds goes on with the second. -/
theorem run_bind_of_ok {x : Stage ε σ α} {f : α → Stage ε σ β} {s t : σ} {a : α}
    (h : x.run s = (.ok a, t)) : (x >>= f).run s = (f a).run t := by
  rw [run_bind, h]

/-- A sequence whose first part fails ends there. -/
theorem run_bind_of_error {x : Stage ε σ α} {f : α → Stage ε σ β} {s t : σ} {e : ε}
    (h : x.run s = (.error e, t)) : (x >>= f).run s = (.error e, t) := by
  rw [run_bind, h]

/-- A sequence succeeds if both of its parts do. -/
theorem run_bind_eq_ok {x : Stage ε σ α} {f : α → Stage ε σ β} {s u : σ} {b : β}
    (h : (x >>= f).run s = (.ok b, u)) :
    ∃ a t, x.run s = (.ok a, t) ∧ (f a).run t = (.ok b, u) := by
  rw [run_bind] at h
  rcases hx : x.run s with ⟨e | a, t⟩
  · rw [hx] at h
    cases h
  · rw [hx] at h
    exact ⟨a, t, rfl, h⟩

/-- A sequence fails in one of its parts. -/
theorem run_bind_eq_error {x : Stage ε σ α} {f : α → Stage ε σ β} {s u : σ} {e : ε}
    (h : (x >>= f).run s = (.error e, u)) :
    x.run s = (.error e, u) ∨ ∃ a t, x.run s = (.ok a, t) ∧ (f a).run t = (.error e, u) := by
  rw [run_bind] at h
  rcases hx : x.run s with ⟨e' | a, t⟩
  · rw [hx] at h
    cases h
    exact .inl rfl
  · rw [hx] at h
    exact .inr ⟨a, t, rfl, h⟩

/-- Two sequences with the same first part come to the same if their second parts do, from where the
first part ends. -/
theorem run_bind_congr {x : Stage ε σ α} {f g : α → Stage ε σ β} {s : σ}
    (h : ∀ a t, x.run s = (.ok a, t) → (f a).run t = (g a).run t) :
    (x >>= f).run s = (x >>= g).run s := by
  rcases hx : x.run s with ⟨e | a, t⟩
  · rw [run_bind_of_error hx, run_bind_of_error hx]
  · rw [run_bind_of_ok hx, run_bind_of_ok hx]
    exact h a t hx

/-- A run whose result is known to be a success, which can be computed where errors are not to be
compared. -/
theorem run_of_toOption {x : Stage ε σ α} {s : σ} {a : α} (h : (x.run s).1.toOption = some a) :
    x.run s = (.ok a, (x.run s).2) := by
  rcases hrun : x.run s with ⟨e | b, t⟩
  · rw [hrun] at h
    cases h
  · rw [hrun] at h
    rw [Option.some.inj h]

/-! ## What a computation does to its state -/

/-- Wherever the computation starts, it ends in a state that is related to that one. -/
def Keeps (R : σ → σ → Prop) (x : Stage ε σ α) : Prop :=
  ∀ s, R s (x.run s).2

theorem Keeps.run {R : σ → σ → Prop} {x : Stage ε σ α} (h : Keeps R x) {s t : σ}
    {r : Except ε α} (hrun : x.run s = (r, t)) : R s t := by
  have hkeeps := h s
  rwa [hrun] at hkeeps

section Keeps

variable {R : σ → σ → Prop} [IsPreorder σ R]

/-- A result alone leaves the state as it is. -/
theorem Keeps.pure (a : α) : Keeps R (Pure.pure a : Stage ε σ α) :=
  fun s => Std.Refl.refl s

/-- An error alone leaves the state as it is. -/
theorem Keeps.throw (e : ε) : Keeps R (throw e : Stage ε σ α) :=
  fun s => Std.Refl.refl s

/-- A sequence keeps what both of its parts keep. -/
theorem Keeps.bind {x : Stage ε σ α} {f : α → Stage ε σ β} (hx : Keeps R x)
    (hf : ∀ a, Keeps R (f a)) : Keeps R (x >>= f) := by
  intro s
  rw [run_bind]
  rcases hrun : x.run s with ⟨e | a, t⟩
  · simpa only [hrun] using hx s
  · have hfirst : R s t := by simpa only [hrun] using hx s
    exact IsTrans.trans _ _ _ hfirst (hf a t)

end Keeps

/-! ## What a computation does not notice -/

/-- The computation does the same before and after a change of its state. -/
def Ignores (f : σ → σ) (x : Stage ε σ α) : Prop :=
  ∀ s, x.run (f s) = ((x.run s).1, f (x.run s).2)

section Ignores

variable {change : σ → σ}

/-- A result alone notices no change. -/
theorem Ignores.pure (a : α) : Ignores change (Pure.pure a : Stage ε σ α) :=
  fun _ => rfl

/-- An error alone notices no change. -/
theorem Ignores.throw (e : ε) : Ignores change (throw e : Stage ε σ α) :=
  fun _ => rfl

/-- A sequence ignores what both of its parts ignore. -/
theorem Ignores.bind {x : Stage ε σ α} {f : α → Stage ε σ β}
    (hx : Ignores change x) (hf : ∀ a, Ignores change (f a)) : Ignores change (x >>= f) := by
  intro s
  rw [run_bind, run_bind, hx s]
  rcases x.run s with ⟨e | a, t⟩
  · rfl
  · exact hf a t

end Ignores

/-! ## What two runs have in common -/

/-- From states that are related, the computation comes to the same result and ends in states that are
related again. -/
def Respects (R : σ → σ → Prop) (x : Stage ε σ α) : Prop :=
  ∀ s t, R s t → (x.run t).1 = (x.run s).1 ∧ R (x.run s).2 (x.run t).2

section Respects

variable {R : σ → σ → Prop}

/-- A result alone is the same from all states. -/
theorem Respects.pure (a : α) : Respects R (Pure.pure a : Stage ε σ α) :=
  fun _ _ h => ⟨rfl, h⟩

/-- An error alone is the same from all states. -/
theorem Respects.throw (e : ε) : Respects R (throw e : Stage ε σ α) :=
  fun _ _ h => ⟨rfl, h⟩

/-- A sequence respects what both of its parts respect. Only results that the first part can have
count for the second. -/
theorem Respects.bind {x : Stage ε σ α} {f : α → Stage ε σ β} (hx : Respects R x)
    (hf : ∀ a, (∃ s t, x.run s = (.ok a, t)) → Respects R (f a)) : Respects R (x >>= f) := by
  intro s t h
  obtain ⟨hresult, hends⟩ := hx s t h
  rw [run_bind, run_bind]
  rcases hfirst : x.run s with ⟨e | a, s'⟩
  · rcases hsecond : x.run t with ⟨r, t'⟩
    rw [hfirst, hsecond] at hresult hends
    obtain rfl : r = .error e := hresult
    exact ⟨rfl, hends⟩
  · rcases hsecond : x.run t with ⟨r, t'⟩
    rw [hfirst, hsecond] at hresult hends
    obtain rfl : r = .ok a := hresult
    exact hf a ⟨s, s', hfirst⟩ s' t' hends

end Respects

end Stage

end Covenant
