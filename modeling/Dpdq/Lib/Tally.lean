import Mathlib.Algebra.BigOperators.Ring.Finset
import Mathlib.Algebra.Order.BigOperators.Group.Finset
import Mathlib.Data.Fintype.BigOperators

/-!
# Tallies

Counters `f : ι → Nat` over finitely many cells, and their totals over the cells that a
classifier `c : ι → κ` puts into one class.

* `tally_add`, `tally_sub`: one cell changes, its class follows, the other classes stay.
* `charge_tally`, `release_tally`: a table of class totals stays one when a cell and its class
  are charged, or released, together.
* `sum_tally`: the classes add up to the whole.
-/

namespace Dpdq.Lib

open Finset Function

variable {ι κ : Type} [Fintype ι] [DecidableEq ι] [DecidableEq κ]

/-- The total of `f` over the cells of class `k`. -/
def tally (c : ι → κ) (f : ι → Nat) (k : κ) : Nat := ∑ i with c i = k, f i

omit [DecidableEq ι] in
theorem tally_zero (c : ι → κ) (k : κ) : tally c (fun _ => 0) k = 0 := by
  simp [tally]

/-- Moving one cell from `f i` to `x` moves the total of its class by the same amount. -/
theorem tally_update (c : ι → κ) (f : ι → Nat) (i : ι) (x : Nat) (k : κ) :
    tally c (update f i x) k + (if c i = k then f i else 0) =
      tally c f k + if c i = k then x else 0 := by
  unfold tally
  by_cases h : c i = k
  · have hMem : i ∈ univ.filter fun j => c j = k := by simp [h]
    rw [sum_update_of_mem hMem, if_pos h, if_pos h, ← sum_erase_add _ _ hMem,
      sdiff_singleton_eq_erase]
    omega
  · have hNot : i ∉ univ.filter fun j => c j = k := by simp [h]
    rw [sum_update_of_notMem hNot, if_neg h, if_neg h]

theorem tally_add (c : ι → κ) (f : ι → Nat) (i : ι) (x : Nat) (k : κ) :
    tally c (update f i (f i + x)) k = tally c f k + if c i = k then x else 0 := by
  have h := tally_update c f i (f i + x) k
  by_cases hk : c i = k
  · rw [if_pos hk, if_pos hk] at h
    rw [if_pos hk]
    omega
  · rw [if_neg hk, if_neg hk] at h
    rw [if_neg hk]
    omega

theorem tally_sub (c : ι → κ) (f : ι → Nat) {i : ι} {x : Nat} (hx : x ≤ f i) (k : κ) :
    tally c (update f i (f i - x)) k + (if c i = k then x else 0) = tally c f k := by
  have h := tally_update c f i (f i - x) k
  by_cases hk : c i = k
  · rw [if_pos hk, if_pos hk] at h
    rw [if_pos hk]
    omega
  · rw [if_neg hk, if_neg hk] at h
    rw [if_neg hk]
    omega

theorem charge_tally {c : ι → κ} {f : ι → Nat} {t : κ → Nat} (ht : ∀ k, t k = tally c f k)
    (i : ι) (x : Nat) (k : κ) :
    update t (c i) (t (c i) + x) k = tally c (update f i (f i + x)) k := by
  rw [tally_add]
  by_cases hk : c i = k
  · subst hk
    rw [update_self, ht, if_pos rfl]
  · rw [update_of_ne (Ne.symm hk), ht, if_neg hk, Nat.add_zero]

theorem release_tally {c : ι → κ} {f : ι → Nat} {t : κ → Nat} (ht : ∀ k, t k = tally c f k)
    {i : ι} {x : Nat} (hx : x ≤ f i) (k : κ) :
    update t (c i) (t (c i) - x) k = tally c (update f i (f i - x)) k := by
  have hSub := tally_sub c f hx k
  by_cases hk : c i = k
  · subst hk
    rw [if_pos rfl] at hSub
    rw [update_self, ht]
    omega
  · rw [if_neg hk] at hSub
    rw [update_of_ne (Ne.symm hk), ht]
    omega

omit [DecidableEq ι] in
theorem le_tally (c : ι → κ) (f : ι → Nat) (i : ι) : f i ≤ tally c f (c i) :=
  single_le_sum (fun _ _ => Nat.zero_le _) (by simp)

omit [DecidableEq ι] in
theorem sum_tally [Fintype κ] (c : ι → κ) (f : ι → Nat) : ∑ k, tally c f k = ∑ i, f i :=
  sum_fiberwise univ c f

omit [DecidableEq ι] in
theorem tally_le_sum [Fintype κ] (c : ι → κ) (f : ι → Nat) (k : κ) :
    tally c f k ≤ ∑ i, f i := by
  rw [← sum_tally c f]
  exact single_le_sum (fun _ _ => Nat.zero_le _) (mem_univ k)

omit [DecidableEq ι] in
theorem le_sum (f : ι → Nat) (i : ι) : f i ≤ ∑ j, f j :=
  single_le_sum (fun _ _ => Nat.zero_le _) (mem_univ i)

omit [DecidableEq ι] in
/-- The whole is the tally of the trivial classifier. -/
theorem sum_eq_tally (f : ι → Nat) : ∑ i, f i = tally (fun _ => ()) f () := by
  simp [tally]

theorem sum_charge (f : ι → Nat) (i : ι) (x : Nat) :
    ∑ j, update f i (f i + x) j = ∑ j, f j + x := by
  rw [sum_eq_tally, tally_add, ← sum_eq_tally, if_pos rfl]

theorem sum_release (f : ι → Nat) {i : ι} {x : Nat} (hx : x ≤ f i) :
    ∑ j, update f i (f i - x) j + x = ∑ j, f j := by
  have h := tally_sub (fun _ => ()) f hx ()
  rw [if_pos rfl] at h
  rw [sum_eq_tally, h, ← sum_eq_tally]

end Dpdq.Lib
