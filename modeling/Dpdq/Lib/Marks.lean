import Mathlib.Algebra.BigOperators.Group.Finset.Basic
import Mathlib.Algebra.Order.BigOperators.Group.Finset
import Mathlib.Data.List.Basic

/-!
# Weights of marked positions

A bitmap marks positions. `markedSum f l` adds up the weights `f` of the marked positions of `l`:
marking a position that was not marked adds its weight, and all positions together weigh
`totalSum f l.length`.
-/

namespace Dpdq.Lib

/-- The weight of all positions below `n`. -/
def totalSum (f : Nat → Nat) (n : Nat) : Nat := ∑ i ∈ Finset.range n, f i

/-- The weight of the marked positions. -/
def markedSum (f : Nat → Nat) (l : List Bool) : Nat :=
  ∑ i ∈ Finset.range l.length, if l[i]? = some true then f i else 0

theorem markedSum_replicate (f : Nat → Nat) (n : Nat) :
    markedSum f (List.replicate n false) = 0 := by
  apply Finset.sum_eq_zero
  intro i _
  apply if_neg
  intro hMarked
  have hFalse := List.eq_of_mem_replicate (List.mem_of_getElem? hMarked)
  cases hFalse

/-- Marking a position adds its weight. -/
theorem markedSum_set (f : Nat → Nat) {l : List Bool} {i : Nat} (h : l[i]? = some false) :
    markedSum f (l.set i true) = markedSum f l + f i := by
  obtain ⟨hBound, -⟩ := List.getElem?_eq_some_iff.mp h
  unfold markedSum
  rw [List.length_set, ← Finset.add_sum_erase _ _ (Finset.mem_range.mpr hBound),
    ← Finset.add_sum_erase (Finset.range l.length) _ (Finset.mem_range.mpr hBound)]
  have hOthers : ∑ j ∈ (Finset.range l.length).erase i,
      (if (l.set i true)[j]? = some true then f j else 0) =
      ∑ j ∈ (Finset.range l.length).erase i, if l[j]? = some true then f j else 0 := by
    apply Finset.sum_congr rfl
    intro j hj
    rw [List.getElem?_set_ne (Finset.ne_of_mem_erase hj).symm]
  have hSelf : (l.set i true)[i]? = some true := by
    rw [List.getElem?_set_self hBound]
  rw [hOthers, if_pos hSelf, h, if_neg (by decide)]
  omega

/-- The marked positions do not weigh more than all positions. -/
theorem markedSum_le (f : Nat → Nat) (l : List Bool) : markedSum f l ≤ totalSum f l.length := by
  apply Finset.sum_le_sum
  intro i _
  split
  · exact le_refl _
  · exact Nat.zero_le _

/-- When every position weighs something, only all marks together have the total weight. -/
theorem markedSum_eq_total_iff {f : Nat → Nat} {l : List Bool} (hf : ∀ i < l.length, 0 < f i) :
    markedSum f l = totalSum f l.length ↔ ∀ i < l.length, l[i]? = some true := by
  constructor
  · intro hEq i hi
    by_contra hMissing
    have hLess : markedSum f l < totalSum f l.length := by
      apply Finset.sum_lt_sum
      · intro j _
        split
        · exact le_refl _
        · exact Nat.zero_le _
      · refine ⟨i, Finset.mem_range.mpr hi, ?_⟩
        rw [if_neg hMissing]
        exact hf i hi
    omega
  · intro hAll
    apply Finset.sum_congr rfl
    intro i hi
    exact if_pos (hAll i (Finset.mem_range.mp hi))

/-- Unit weights count the marks. -/
theorem markedSum_one (l : List Bool) : markedSum (fun _ => 1) l = l.count true := by
  induction l with
  | nil => rfl
  | cons b l ih =>
    unfold markedSum at ih ⊢
    rw [List.length_cons, Finset.sum_range_succ', List.count_cons, ← ih]
    cases b with
    | false => rfl
    | true => rfl

theorem totalSum_one (n : Nat) : totalSum (fun _ => 1) n = n := by
  unfold totalSum
  simp

end Dpdq.Lib
