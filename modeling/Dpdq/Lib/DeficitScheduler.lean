import Mathlib.Algebra.BigOperators.Group.Finset.Basic
import Mathlib.Algebra.Order.BigOperators.Group.Finset
import Mathlib.Algebra.Order.BigOperators.Ring.Finset
import Mathlib.Algebra.Order.Field.Basic
import Mathlib.Tactic.Linarith

/-!
# Deficit schedulers

In each round the candidates get quanta that sum to 1, more of them while nobody has come to 1, and
one with the highest deficit is served and pays 1. Whoever is no candidate loses its deficit.

* `round_sum_le`: the deficits together stay below the number of candidates.
* `le_of_waiting`: whoever is not served keeps its quantum.
-/

namespace Dpdq.Lib.DeficitScheduler

open Finset

variable {ι K : Type} [DecidableEq ι] [Field K] [LinearOrder K] [IsStrictOrderedRing K]

/-- Only the candidates keep their deficits. -/
def keep (C : Finset ι) (d : ι → K) (i : ι) : K := if i ∈ C then d i else 0

def topUp (C : Finset ι) (q d : ι → K) (i : ι) : K := if i ∈ C then d i + q i else d i

/-- Top up, up to so many times, while nobody has come to 1. -/
def refill (C : Finset ι) (q : ι → K) : ℕ → (ι → K) → ι → K
  | 0, d => d
  | n + 1, d => if ∃ i ∈ C, 1 ≤ d i then d else refill C q n (topUp C q d)

/-- The one that is served pays 1, as far as it has it. -/
def charge (d : ι → K) (j : ι) : ι → K := Function.update d j (max 0 (d j - 1))

/-- The deficits that a round compares. -/
def topped (C : Finset ι) (q : ι → K) (refills : ℕ) (d : ι → K) : ι → K :=
  refill C q refills (topUp C q (keep C d))

variable {C : Finset ι} {q d : ι → K} {refills : ℕ} {i j : ι}

theorem topUp_nonneg (hq : ∀ i, 0 ≤ q i) (hd : ∀ i, 0 ≤ d i) (i : ι) : 0 ≤ topUp C q d i := by
  unfold topUp
  split
  · exact add_nonneg (hd i) (hq i)
  · exact hd i

omit [IsStrictOrderedRing K] in
theorem keep_nonneg (hd : ∀ i, 0 ≤ d i) (i : ι) : 0 ≤ keep C d i := by
  unfold keep
  split
  · exact hd i
  · exact le_refl 0

omit [LinearOrder K] [IsStrictOrderedRing K] in
theorem sum_topUp (hq : ∑ i ∈ C, q i = 1) : ∑ i ∈ C, topUp C q d i = ∑ i ∈ C, d i + 1 := by
  rw [← hq, ← sum_add_distrib]
  exact sum_congr rfl fun i hi => if_pos hi

theorem le_topUp (hq : ∀ i, 0 ≤ q i) (i : ι) : d i ≤ topUp C q d i := by
  unfold topUp
  split
  · exact le_add_of_nonneg_right (hq i)
  · exact le_refl _

/-- Refills take nothing away, and give to candidates only. -/
theorem le_refill (hq : ∀ i, 0 ≤ q i) (n : ℕ) (d : ι → K) (i : ι) : d i ≤ refill C q n d i := by
  induction n generalizing d with
  | zero => exact le_refl _
  | succ n ih =>
    unfold refill
    split
    · exact le_refl _
    · exact (le_topUp hq i).trans (ih (topUp C q d))

omit [IsStrictOrderedRing K] in
theorem refill_of_notMem (hi : i ∉ C) (n : ℕ) (d : ι → K) : refill C q n d i = d i := by
  induction n generalizing d with
  | zero => rfl
  | succ n ih =>
    unfold refill
    split
    · rfl
    · rw [ih]
      exact if_neg hi

/-- Either somebody has come to 1, and the refills have not taken the sum past one more than the
number of candidates, or nobody has. -/
theorem refill_cases (hq : ∑ i ∈ C, q i = 1) (n : ℕ) (d : ι → K) :
    (∃ i ∈ C, 1 ≤ refill C q n d i) ∧
        ∑ i ∈ C, refill C q n d i ≤ max (∑ i ∈ C, d i) (#C + 1) ∨
      ∀ i ∈ C, refill C q n d i < 1 := by
  induction n generalizing d with
  | zero =>
    by_cases hSome : ∃ i ∈ C, 1 ≤ d i
    · exact Or.inl ⟨hSome, le_max_left _ _⟩
    · push Not at hSome
      exact Or.inr hSome
  | succ n ih =>
    unfold refill
    split
    · rename_i hSome
      exact Or.inl ⟨hSome, le_max_left _ _⟩
    · rename_i hNone
      push Not at hNone
      have hSmall : ∑ i ∈ C, d i ≤ #C := by
        calc ∑ i ∈ C, d i ≤ ∑ _i ∈ C, (1 : K) := sum_le_sum fun i hi => (hNone i hi).le
          _ = #C := by simp
      rcases ih (topUp C q d) with ⟨hSome, hSum⟩ | hLow
      · rw [sum_topUp hq, max_eq_right (by linarith)] at hSum
        exact Or.inl ⟨hSome, hSum.trans (le_max_right _ _)⟩
      · exact Or.inr hLow

theorem topped_nonneg (hq : ∀ i, 0 ≤ q i) (hd : ∀ i, 0 ≤ d i) (i : ι) :
    0 ≤ topped C q refills d i :=
  (topUp_nonneg hq (keep_nonneg hd) i).trans (le_refill hq refills _ i)

omit [IsStrictOrderedRing K] in
theorem topped_of_notMem (hi : i ∉ C) : topped C q refills d i = 0 := by
  unfold topped
  rw [refill_of_notMem hi]
  unfold topUp keep
  rw [if_neg hi, if_neg hi]

omit [IsStrictOrderedRing K] in
theorem charge_nonneg (hd : ∀ i, 0 ≤ d i) (i : ι) : 0 ≤ charge d j i := by
  unfold charge
  by_cases hSame : i = j
  · rw [hSame, Function.update_self]
    exact le_max_left _ _
  · rw [Function.update_of_ne hSame]
    exact hd i

omit [IsStrictOrderedRing K] in
theorem sum_charge (hj : j ∈ C) :
    ∑ i ∈ C, charge d j i = ∑ i ∈ C, d i - d j + max 0 (d j - 1) := by
  unfold charge
  rw [sum_update_of_mem hj, ← add_sum_erase C d hj, sdiff_singleton_eq_erase]
  ring

/-- The deficits of the candidates together. -/
theorem sum_round_le (hq : ∑ i ∈ C, q i = 1) (hNonneg : ∀ i, 0 ≤ q i) (hd : ∀ i, 0 ≤ d i)
    (hj : j ∈ C) (hBest : ∀ i ∈ C, topped C q refills d i ≤ topped C q refills d j) :
    ∑ i ∈ C, charge (topped C q refills d) j i ≤ max (∑ i ∈ C, d i) #C := by
  rw [sum_charge hj]
  have hKeep : ∑ i ∈ C, keep C d i = ∑ i ∈ C, d i := sum_congr rfl fun i hi => if_pos hi
  have hBound := @topped_nonneg ι K _ _ _ _ C q d refills hNonneg hd j
  rcases refill_cases hq refills (topUp C q (keep C d)) with ⟨⟨i, hi, hOne⟩, hSum⟩ | hLow
  · have hPays : 1 ≤ topped C q refills d j := hOne.trans (hBest i hi)
    rw [sum_topUp hq, hKeep] at hSum
    have hMax : max (∑ i ∈ C, d i + 1) ((#C : K) + 1) = max (∑ i ∈ C, d i) #C + 1 :=
      max_add_add_right _ _ 1
    rw [hMax] at hSum
    rw [max_eq_right (by linarith)]
    have hSum' : ∑ i ∈ C, topped C q refills d i ≤ max (∑ i ∈ C, d i) #C + 1 := hSum
    linarith
  · have hSmall : ∑ i ∈ C, topped C q refills d i ≤ #C := by
      calc ∑ i ∈ C, topped C q refills d i ≤ ∑ _i ∈ C, (1 : K) :=
            sum_le_sum fun i hi => (hLow i hi).le
        _ = #C := by simp
    have hPaid : max 0 (topped C q refills d j - 1) ≤ topped C q refills d j :=
      max_le hBound (by linarith)
    have hMax := le_max_right (∑ i ∈ C, d i) (#C : K)
    linarith

/-- No choice of clients has more than `bound` together. -/
def Bounded (bound : K) (d : ι → K) : Prop := ∀ F : Finset ι, ∑ i ∈ F, d i ≤ bound

omit [DecidableEq ι] [IsStrictOrderedRing K] in
theorem Bounded.le {bound : K} (h : Bounded bound d) (i : ι) : d i ≤ bound := by
  have hOne := h {i}
  rwa [sum_singleton] at hOne

omit [DecidableEq ι] in
theorem Bounded.mono {bound : K} {d' : ι → K} (h : Bounded bound d) (hLe : ∀ i, d' i ≤ d i) :
    Bounded bound d' := fun F => (sum_le_sum fun i _ => hLe i).trans (h F)

/-- A round keeps the bound. -/
theorem Bounded.round {bound : K} (h : Bounded bound d) (hCard : (#C : K) ≤ bound)
    (hq : ∑ i ∈ C, q i = 1) (hNonneg : ∀ i, 0 ≤ q i) (hd : ∀ i, 0 ≤ d i) (hj : j ∈ C)
    (hBest : ∀ i ∈ C, topped C q refills d i ≤ topped C q refills d j) :
    Bounded bound (charge (topped C q refills d) j) := by
  intro F
  have hOutside (i : ι) (hi : i ∈ F) (hNot : i ∉ F ∩ C) :
      charge (topped C q refills d) j i = 0 := by
    have hiC : i ∉ C := fun hMem => hNot (mem_inter.mpr ⟨hi, hMem⟩)
    have hNe : i ≠ j := fun hSame => hiC (hSame ▸ hj)
    unfold charge
    rw [Function.update_of_ne hNe, topped_of_notMem hiC]
  have hAll := charge_nonneg (@topped_nonneg ι K _ _ _ _ C q d refills hNonneg hd) (j := j)
  calc ∑ i ∈ F, charge (topped C q refills d) j i
      = ∑ i ∈ F ∩ C, charge (topped C q refills d) j i :=
        (sum_subset inter_subset_left hOutside).symm
    _ ≤ ∑ i ∈ C, charge (topped C q refills d) j i :=
        sum_le_sum_of_subset_of_nonneg inter_subset_right fun i _ _ => hAll i
    _ ≤ max (∑ i ∈ C, d i) #C := sum_round_le hq hNonneg hd hj hBest
    _ ≤ bound := max_le (h C) hCard

/-- A candidate that is not served keeps its quantum. -/
theorem le_of_waiting (hNonneg : ∀ i, 0 ≤ q i) (hi : i ∈ C) (hNe : i ≠ j) :
    d i + q i ≤ charge (topped C q refills d) j i := by
  have hTop : topUp C q (keep C d) i = d i + q i := by
    unfold topUp keep
    rw [if_pos hi, if_pos hi]
  unfold charge
  rw [Function.update_of_ne hNe, ← hTop]
  exact le_refill hNonneg refills _ i

end Dpdq.Lib.DeficitScheduler
