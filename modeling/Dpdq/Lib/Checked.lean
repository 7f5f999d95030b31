import Mathlib.Init

/-!
# Checked computations

A computation that checks assertions on its way, and yields the first one that fails.

* `bind_eq_ok`, `check_eq_ok`: a computation that goes through has met all its assertions.
* `Spares P x`: no assertion in `P` fails in `x`, with one rule for each way to build `x`.
-/

namespace Dpdq.Lib

variable {ε α β : Type}

/-- An assertion: `e` is the failure where `p` does not hold. -/
def check (p : Prop) [Decidable p] (e : ε) : Except ε Unit := if p then .ok () else .error e

theorem check_eq_ok {p : Prop} [Decidable p] {e : ε} {u : Unit} : check p e = .ok u ↔ p := by
  unfold check
  split <;> simp_all

theorem check_eq_error {p : Prop} [Decidable p] {e f : ε} :
    check p e = .error f ↔ ¬ p ∧ e = f := by
  unfold check
  split <;> simp_all

theorem bind_eq_ok {x : Except ε α} {k : α → Except ε β} {b : β} :
    (x >>= k) = .ok b ↔ ∃ a, x = .ok a ∧ k a = .ok b := by
  cases x with
  | ok a => simp [bind, Except.bind]
  | error e => simp [bind, Except.bind]

theorem bind_eq_error {x : Except ε α} {k : α → Except ε β} {e : ε} :
    (x >>= k) = .error e ↔ x = .error e ∨ ∃ a, x = .ok a ∧ k a = .error e := by
  cases x with
  | ok a => simp [bind, Except.bind]
  | error f => simp [bind, Except.bind]

/-- An assertion at the head of a computation that goes through. -/
theorem check_bind_eq_ok {p : Prop} [Decidable p] {e : ε} {k : Unit → Except ε β} {b : β} :
    (check p e >>= k) = .ok b ↔ p ∧ k () = .ok b := by
  rw [bind_eq_ok]
  constructor
  · rintro ⟨u, hCheck, hRest⟩
    exact ⟨check_eq_ok.mp hCheck, hRest⟩
  · rintro ⟨hp, hRest⟩
    exact ⟨(), check_eq_ok.mpr hp, hRest⟩

theorem check_bind_of {p : Prop} [Decidable p] {e : ε} {k : Unit → Except ε β} (h : p) :
    (check p e >>= k) = k () := by
  rw [check, if_pos h]
  rfl

theorem check_bind_of_not {p : Prop} [Decidable p] {e : ε} {k : Unit → Except ε β} (h : ¬ p) :
    (check p e >>= k) = .error e := by
  rw [check, if_neg h]
  rfl

theorem toOption_eq_some {x : Except ε α} {a : α} : x.toOption = some a ↔ x = .ok a := by
  cases x with
  | ok b => simp [Except.toOption]
  | error e => simp [Except.toOption]

/-- No failure of `x` is in `P`. -/
def Spares (P : ε → Prop) (x : Except ε α) : Prop := ∀ e, x = .error e → ¬ P e

namespace Spares

variable {P : ε → Prop}

theorem ok (a : α) : Spares P (.ok a : Except ε α) := nofun

theorem pure (a : α) : Spares P (Pure.pure a : Except ε α) := nofun

theorem check_of_holds {p : Prop} [Decidable p] {e : ε} (h : p) : Spares P (check p e) := by
  intro f hError
  exact absurd h (check_eq_error.mp hError).1

theorem check_of_other {p : Prop} [Decidable p] {e : ε} (h : ¬ P e) : Spares P (check p e) := by
  intro f hError
  exact (check_eq_error.mp hError).2 ▸ h

theorem bind {x : Except ε α} {k : α → Except ε β} (hx : Spares P x)
    (hk : ∀ a, x = .ok a → Spares P (k a)) : Spares P (x >>= k) := by
  intro e hError
  rcases bind_eq_error.mp hError with hFirst | ⟨a, hOk, hRest⟩
  · exact hx e hFirst
  · exact hk a hOk e hRest

theorem map {x : Except ε α} (f : α → β) (hx : Spares P x) : Spares P (x.map f) := by
  intro e hError
  cases x with
  | ok a => cases hError
  | error g => exact hx e (congrArg Except.error (Except.error.inj hError))

/-- The rest of a computation relies on the assertion at its head. -/
theorem check_bind {p : Prop} [Decidable p] {e : ε} {k : Unit → Except ε β} (h : ¬ P e)
    (hk : p → Spares P (k ())) : Spares P (check p e >>= k) :=
  bind (check_of_other h) fun _ hOk => hk (check_eq_ok.mp hOk)

theorem ite {p : Prop} [Decidable p] {x y : Except ε α} (hx : p → Spares P x)
    (hy : ¬ p → Spares P y) : Spares P (if p then x else y) := by
  split
  · exact hx ‹_›
  · exact hy ‹_›

end Spares

end Dpdq.Lib
