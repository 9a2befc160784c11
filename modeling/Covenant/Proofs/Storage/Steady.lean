import Covenant.Proofs.Storage.Calls

/-!
# Calls that have failed

Every call of storage is counted, whether it fails or not. So the failures that a computation has
met can be told from the counts before and after it. They are all that it can know of the schedule:
a computation that has met none does the same on a storage that never fails.
-/

namespace Covenant

open Stage

/-! ## Failures met -/

namespace Failures

variable {failures before middle after : Failures} {call : StorageCall}

/-- More calls may have been made, on the same schedule. -/
structure Later (before after : Failures) : Prop where
  schedule : after.schedule = before.schedule
  made : ∀ call, before.madeOf call ≤ after.madeOf call

instance : IsPreorder Failures Later where
  refl _ := ⟨rfl, fun _ => Nat.le_refl _⟩
  trans _ _ _ h k :=
    ⟨k.schedule.trans h.schedule, fun call => Nat.le_trans (h.made call) (k.made call)⟩

/-- A call of this kind has been made in between, and failed. -/
def Met (before after : Failures) (call : StorageCall) : Prop :=
  ∃ n, before.madeOf call ≤ n ∧ n < after.madeOf call ∧ before.schedule call n ≠ .none

/-- The same calls have been made, and none is due to fail. -/
def calm (failures : Failures) : Failures :=
  { failures with schedule := fun _ _ => .none }

theorem not_met_self : ¬ failures.Met failures call := by
  rintro ⟨n, hle, hlt, -⟩
  omega

/-- A failure has been met in one part of the time or in the other. -/
theorem Later.met_iff (h : before.Later middle) (k : middle.Later after) :
    before.Met after call ↔ before.Met middle call ∨ middle.Met after call := by
  unfold Met
  rw [h.schedule]
  constructor
  · rintro ⟨n, hle, hlt, hfails⟩
    rcases Nat.lt_or_ge n (middle.madeOf call) with hearly | hlate
    · exact .inl ⟨n, hle, hearly, hfails⟩
    · exact .inr ⟨n, hlate, hlt, hfails⟩
  · rintro (⟨n, hle, hlt, hfails⟩ | ⟨n, hle, hlt, hfails⟩)
    · exact ⟨n, hle, Nat.lt_of_lt_of_le hlt (k.made call), hfails⟩
    · exact ⟨n, Nat.le_trans (h.made call) hle, hlt, hfails⟩

/-- A call counts for its own kind. -/
theorem madeOf_count (failures : Failures) (kind call : StorageCall) :
    (failures.count kind).madeOf call =
      if call = kind then failures.madeOf kind + 1 else failures.madeOf call := by
  unfold count madeOf
  split
  next hsame => rw [hsame, Assoc.find?_insert_self]; rfl
  next hne => rw [Assoc.find?_insert_of_ne hne]

theorem later_count (failures : Failures) (kind : StorageCall) :
    failures.Later (failures.count kind) := by
  refine ⟨rfl, fun call => ?_⟩
  rw [madeOf_count]
  split
  next hsame => rw [hsame]; exact Nat.le_succ _
  next => exact Nat.le_refl _

/-- A single call meets a failure if one is due. -/
theorem met_count_iff (failures : Failures) (kind call : StorageCall) :
    failures.Met (failures.count kind) call ↔ call = kind ∧ failures.next kind ≠ .none := by
  unfold Met
  rw [madeOf_count]
  constructor
  · rintro ⟨n, hle, hlt, hfails⟩
    split at hlt
    next hsame =>
      subst hsame
      obtain rfl : n = failures.madeOf call := by omega
      exact ⟨rfl, hfails⟩
    next => omega
  · rintro ⟨rfl, hfails⟩
    exact ⟨_, Nat.le_refl _, by rw [if_pos rfl]; exact Nat.lt_succ_self _, hfails⟩

/-- A single call that meets no failure was not due to fail. -/
theorem next_of_not_met {kind : StorageCall} (h : ¬ failures.Met (failures.count kind) kind) :
    failures.next kind = .none :=
  Classical.byContradiction fun hfails => h ((met_count_iff failures kind kind).mpr ⟨rfl, hfails⟩)

end Failures

/-! ## Computations that make calls -/

/-- States from which calls are made. -/
class Calling (σ : Type) where
  /-- The failures ahead, and the calls made so far. -/
  failures : σ → Failures
  /-- The same state, except that no call fails. -/
  calm : σ → σ

namespace Stage

variable {ε ε' σ α β : Type} [Calling σ]

/-- More calls may have been made in the second state. -/
def Later (s t : σ) : Prop :=
  (Calling.failures s).Later (Calling.failures t)

instance : IsPreorder σ Later where
  refl s := Std.Refl.refl (Calling.failures s)
  trans s t u hst htu :=
    IsTrans.trans (Calling.failures s) (Calling.failures t) (Calling.failures u) hst htu

/-- A call of this kind has failed between the two states. -/
def Met (s t : σ) (call : StorageCall) : Prop :=
  (Calling.failures s).Met (Calling.failures t) call

/-- From this state on, the computation counts its calls, and if none fails, it does the same where
none ever fails. -/
structure Steady (x : Stage ε σ α) (s : σ) : Prop where
  later : Later s (x.run s).2
  calm : (∀ call, ¬ Met s (x.run s).2 call) →
    x.run (Calling.calm s) = ((x.run s).1, Calling.calm (x.run s).2)

/-- The computation is steady everywhere, and opens and closes neither sessions nor savepoints. -/
structure Working (x : Stage ε σ α) : Prop where
  steady : ∀ s, Steady x s
  plain : ∀ s call, Met s (x.run s).2 call → call.isBookkeeping = false

variable {x : Stage ε σ α} {f : α → Stage ε σ β} {s t : σ}

/-- A failure of a sequence is met in one of its parts. -/
theorem Steady.met_bind_iff {a : α} (hx : Steady x s) (hrun : x.run s = (.ok a, t))
    (hf : Steady (f a) t) (call : StorageCall) :
    Met s ((x >>= f).run s).2 call ↔ Met s t call ∨ Met t ((f a).run t).2 call := by
  have hfirst := hx.later
  rw [hrun] at hfirst
  rw [run_bind_of_ok hrun]
  exact Failures.Later.met_iff hfirst hf.later

/-- A sequence is steady if its parts are. -/
theorem Steady.bind (hx : Steady x s) (hf : ∀ a t, x.run s = (.ok a, t) → Steady (f a) t) :
    Steady (x >>= f) s := by
  obtain ⟨hlater, hcalm⟩ := hx
  rcases hrun : x.run s with ⟨e | a, t⟩
  · rw [hrun] at hlater hcalm
    refine ⟨?_, fun hnone => ?_⟩
    · rwa [run_bind_of_error hrun]
    · rw [run_bind_of_error hrun] at hnone ⊢
      exact run_bind_of_error (hcalm hnone)
  · have hrest := hf a t hrun
    have hmet := Steady.met_bind_iff ⟨hlater, hcalm⟩ hrun hrest
    rw [hrun] at hlater hcalm
    refine ⟨?_, fun hnone => ?_⟩
    · rw [run_bind_of_ok hrun]
      exact IsTrans.trans _ _ _ hlater hrest.later
    · rw [run_bind_of_ok (hcalm fun call hfails => hnone call ((hmet call).mpr (.inl hfails))),
        run_bind_of_ok hrun]
      exact hrest.calm fun call hfails => hnone call ((hmet call).mpr (.inr hfails))

/-- A computation that tells the result of a steady one in another way is steady. -/
theorem Steady.of_run {y : Stage ε' σ β} (hx : Steady x s) (tell : Except ε α → Except ε' β)
    (hy : ∀ s, y.run s = (tell (x.run s).1, (x.run s).2)) : Steady y s := by
  refine ⟨?_, fun hnone => ?_⟩
  · rw [hy]
    exact hx.later
  · rw [hy] at hnone
    rw [hy, hy, hx.calm hnone]

/-- What makes no call is working if it does not look at the failures ahead. -/
theorem Working.of_failures (hkept : ∀ s, Calling.failures (x.run s).2 = Calling.failures s)
    (hcalm : ∀ s, x.run (Calling.calm s) = ((x.run s).1, Calling.calm (x.run s).2)) :
    Working x := by
  refine ⟨fun s => ⟨?_, fun _ => hcalm s⟩, fun s call hmet => ?_⟩
  · unfold Later
    rw [hkept]
    exact Std.Refl.refl _
  · unfold Met at hmet
    rw [hkept] at hmet
    exact absurd hmet Failures.not_met_self

theorem Working.pure (a : α) : Working (Pure.pure a : Stage ε σ α) :=
  .of_failures (fun _ => rfl) fun _ => rfl

theorem Working.throw (e : ε) : Working (throw e : Stage ε σ α) :=
  .of_failures (fun _ => rfl) fun _ => rfl

theorem Working.bind (hx : Working x) (hf : ∀ a, Working (f a)) : Working (x >>= f) := by
  refine ⟨fun s => (hx.steady s).bind fun a t _ => (hf a).steady t, fun s call hmet => ?_⟩
  have hfirst := hx.plain s call
  rcases hrun : x.run s with ⟨e | a, t⟩
  · rw [run_bind_of_error hrun] at hmet
    rw [hrun] at hfirst
    exact hfirst hmet
  · rw [(hx.steady s).met_bind_iff hrun ((hf a).steady t)] at hmet
    rw [hrun] at hfirst
    exact hmet.elim hfirst ((hf a).plain t call)

theorem Working.of_run {y : Stage ε' σ β} (hx : Working x) (tell : Except ε α → Except ε' β)
    (hy : ∀ s, y.run s = (tell (x.run s).1, (x.run s).2)) : Working y :=
  ⟨fun s => (hx.steady s).of_run tell hy, fun s call hmet => hx.plain s call (by rwa [hy] at hmet)⟩

end Stage

/-! ## Calls of storage -/

instance : Calling Connection where
  failures c := c.failures
  calm c := { c with failures := c.failures.calm }

namespace Storing

variable {ε ε' α : Type} {R : Session → Session → Prop} {kind : StorageCall}
  {work : Session → Except StorageError α × Session}

/-- Whether it fails or not, a call is counted. -/
theorem failures_call (c : Connection) :
    ((call kind work).run c).2.failures = c.failures.count kind := by
  cases hnext : c.failures.next kind with
  | some e => rw [run_call_of_some hnext]
  | none => rw [run_call_of_none hnext]

/-- A call meets a failure of its own kind if one is due. -/
theorem met_call_iff (c : Connection) (other : StorageCall) :
    Met c ((call kind work).run c).2 other ↔ other = kind ∧ c.failures.next kind ≠ none := by
  have hcount := c.failures.met_count_iff kind other
  rwa [← failures_call c] at hcount

theorem call_steady (kind : StorageCall) (work : Session → Except StorageError α × Session)
    (c : Connection) : Steady (call kind work) c := by
  refine ⟨?_, fun hnone => ?_⟩
  · have hlater := c.failures.later_count kind
    rwa [← failures_call c] at hlater
  · have hnot : ¬ c.failures.Met ((call kind work).run c).2.failures kind := hnone kind
    rw [failures_call] at hnot
    rw [run_call_of_none (Failures.next_of_not_met hnot)]
    exact run_call_of_none rfl _

/-- Computations that stay within a bound are about what is stored. -/
theorem Within.working {x : Storing ε α} (h : Within R x) : Working x := by
  induction h with
  | pure a => exact .pure a
  | throw e => exact .throw e
  | bind _ _ hx hf => exact hx.bind hf
  | mapError f _ hx => exact hx.of_run _ (run_mapError f _)
  | @call α kind work hkind _ =>
    refine ⟨call_steady kind work, fun c other hmet => ?_⟩
    obtain ⟨rfl, -⟩ := (met_call_iff c other).mp hmet
    exact hkind

end Storing

end Covenant
