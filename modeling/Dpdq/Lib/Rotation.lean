import Mathlib.Data.List.Basic
import Mathlib.Data.Nat.ModEq

/-!
# Rotating scans

A scan visits the positions below `n` once, from the one behind `last` on and around. `ahead` counts
the positions that it visits before a given one.

* `mem_rotation`: every position is visited.
* `ahead_le_of_find?`: the scan stops at the nearest position that it looks for.
* `ahead_of_ahead_lt`: where the next scan starts behind such a position, those that lie farther come
  nearer by the same number of positions.
-/

namespace Dpdq.Lib

/-- The positions in the order of the scan. -/
def rotation (n last : Nat) : List Nat := (List.range n).map fun step => (last + (step + 1)) % n

/-- The number of positions visited before `i`. -/
def ahead (n last i : Nat) : Nat := (i + (n - 1 - last % n)) % n

variable {n last i j : Nat}

@[simp] theorem length_rotation (n last : Nat) : (rotation n last).length = n := by
  simp [rotation]

/-- The position lies behind the last one, or one round before it. -/
theorem ahead_eq (hi : i < n) : ahead n last i =
    if last % n < i then i - last % n - 1 else i + n - last % n - 1 := by
  have hLast : last % n < n := Nat.mod_lt _ (by omega)
  unfold ahead
  split
  · rw [Nat.mod_eq_sub_mod (by omega), Nat.mod_eq_of_lt (by omega)]
    omega
  · rw [Nat.mod_eq_of_lt (by omega)]
    omega

theorem ahead_lt (hi : i < n) : ahead n last i < n := Nat.mod_lt _ (by omega)

theorem ahead_self (hi : i < n) : ahead n i i = n - 1 := by
  rw [ahead_eq hi, Nat.mod_eq_of_lt hi, if_neg (by omega)]
  omega

theorem ahead_inj (hi : i < n) (hj : j < n) : ahead n last i = ahead n last j ↔ i = j := by
  have hLast : last % n < n := Nat.mod_lt _ (by omega)
  rw [ahead_eq hi, ahead_eq hj]
  split
  · split
    · omega
    · omega
  · split
    · omega
    · omega

/-- What lies farther than the position that the scan stopped at comes nearer. -/
theorem ahead_of_ahead_lt (hi : i < n) (hj : j < n) (hLess : ahead n last i < ahead n last j) :
    ahead n i j + (ahead n last i + 1) = ahead n last j := by
  have hLast : last % n < n := Nat.mod_lt _ (by omega)
  rw [ahead_eq hi, ahead_eq hj] at hLess
  rw [ahead_eq hj, ahead_eq hi, ahead_eq hj, Nat.mod_eq_of_lt hi]
  split at hLess
  · rename_i hBehind
    rw [if_pos hBehind]
    split at hLess
    · rename_i hBehind'
      rw [if_pos hBehind', if_pos (by omega)]
      omega
    · rename_i hBefore'
      rw [if_neg hBefore', if_neg (by omega)]
      omega
  · rename_i hBefore
    rw [if_neg hBefore]
    split at hLess
    · omega
    · rename_i hBefore'
      rw [if_neg hBefore', if_pos (by omega)]
      omega

theorem rotation_ahead (hi : i < n) : (rotation n last)[ahead n last i]? = some i := by
  have hLast : last % n < n := Nat.mod_lt _ (by omega)
  have hStep : (last + (ahead n last i + 1)) % n = (last % n + (ahead n last i + 1)) % n := by
    rw [Nat.mod_add_mod]
  rw [rotation, List.getElem?_map, List.getElem?_range (ahead_lt hi), Option.map_some, hStep,
    ahead_eq hi]
  congr 1
  split
  · rw [Nat.mod_eq_of_lt (by omega)]
    omega
  · rw [Nat.mod_eq_sub_mod (by omega), Nat.mod_eq_of_lt (by omega)]
    omega

theorem ahead_of_getElem? {step : Nat} (hAt : (rotation n last)[step]? = some i) :
    ahead n last i = step := by
  have hBound : step < n := by simpa using (List.getElem?_eq_some_iff.mp hAt).1
  have hLast : last % n < n := Nat.mod_lt _ (by omega)
  rw [rotation, List.getElem?_map, List.getElem?_range hBound, Option.map_some, Option.some_inj,
    ← Nat.mod_add_mod] at hAt
  have hi : i < n := hAt ▸ Nat.mod_lt _ (by omega)
  rw [ahead_eq hi]
  rcases Nat.lt_or_ge (last % n + (step + 1)) n with hInside | hRound
  · rw [Nat.mod_eq_of_lt hInside] at hAt
    rw [if_pos (by omega)]
    omega
  · rw [Nat.mod_eq_sub_mod hRound, Nat.mod_eq_of_lt (by omega)] at hAt
    rw [if_neg (by omega)]
    omega

theorem mem_rotation : i ∈ rotation n last ↔ i < n := by
  constructor
  · intro hMem
    obtain ⟨step, hStep, rfl⟩ := List.mem_map.mp hMem
    exact Nat.mod_lt _ (by have := List.mem_range.mp hStep; omega)
  · intro hi
    exact List.mem_of_getElem? (rotation_ahead hi)

/-- The scan stops at the nearest position that satisfies `p`. -/
theorem ahead_le_of_find? {p : Nat → Bool} (hFind : (rotation n last).find? p = some i)
    (hj : j < n) (hp : p j = true) : ahead n last i ≤ ahead n last j := by
  obtain ⟨-, step, hBound, hAt, hBefore⟩ := List.find?_eq_some_iff_getElem.mp hFind
  have hi : ahead n last i = step :=
    ahead_of_getElem? (List.getElem?_eq_some_iff.mpr ⟨hBound, hAt⟩)
  by_contra hNearer
  have hEarlier : ahead n last j < step := by omega
  obtain ⟨_, hj'⟩ := List.getElem?_eq_some_iff.mp (@rotation_ahead n last j hj)
  have hNot := hBefore (ahead n last j) hEarlier
  rw [hj', hp] at hNot
  cases hNot

end Dpdq.Lib
