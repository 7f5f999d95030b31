import Mathlib.Order.Lattice

/-!
# Hysteresis

A flag that is set above `hi`, cleared below `lo` and held between the two.

* `hysteresis_eq_iff`: two readings lead to the same flag exactly if they lie on the same side of the
  threshold that the flag looks at.
* `latch_eq_iff`: the same, without order between `lo` and `hi`, for a flag that compares only the
  threshold that it looks at.
* `hysteresis_eq_tests`: the flag as two tests, one after the other.
-/

namespace Dpdq.Lib

variable {α : Type} [LinearOrder α]

/-- The flag behind a reading. -/
def hysteresis (lo hi x : α) (on : Bool) : Bool :=
  if hi < x then true else if x < lo then false else on

variable {lo hi x y : α}

theorem hysteresis_false : hysteresis lo hi x false = true ↔ hi < x := by
  unfold hysteresis
  split
  · rename_i hAbove
    exact iff_of_true rfl hAbove
  · rename_i hBelow
    split
    · exact iff_of_false nofun hBelow
    · exact iff_of_false nofun hBelow

theorem hysteresis_true (hBand : lo ≤ hi) : hysteresis lo hi x true = false ↔ x < lo := by
  unfold hysteresis
  split
  · rename_i hAbove
    exact iff_of_false nofun (not_lt.mpr (hBand.trans hAbove.le))
  · split
    · rename_i hClear
      exact iff_of_true rfl hClear
    · rename_i hHeld
      exact iff_of_false nofun hHeld

/-- Two readings on the same side of the threshold that matters. -/
def SameSide (lo hi x y : α) (on : Bool) : Prop :=
  if on then (x < lo ↔ y < lo) else (hi < x ↔ hi < y)

instance (lo hi x y : α) (on : Bool) : Decidable (SameSide lo hi x y on) :=
  inferInstanceAs (Decidable (if on then (x < lo ↔ y < lo) else (hi < x ↔ hi < y)))

theorem SameSide.refl (lo hi x : α) (on : Bool) : SameSide lo hi x x on := by
  unfold SameSide
  split
  · exact Iff.rfl
  · exact Iff.rfl

/-- The flag where only the threshold that it looks at is compared. -/
def latch (lo hi x : α) (on : Bool) : Bool := if on then !decide (x < lo) else decide (hi < x)

theorem latch_eq_iff (on : Bool) : latch lo hi x on = latch lo hi y on ↔ SameSide lo hi x y on := by
  unfold latch SameSide
  cases on with
  | false => simp
  | true => simp

theorem hysteresis_eq_iff (hBand : lo ≤ hi) (on : Bool) :
    hysteresis lo hi x on = hysteresis lo hi y on ↔ SameSide lo hi x y on := by
  cases on with
  | false =>
    show _ ↔ (hi < x ↔ hi < y)
    rw [← @hysteresis_false _ _ lo hi x, ← @hysteresis_false _ _ lo hi y, Bool.eq_iff_iff]
  | true =>
    show _ ↔ (x < lo ↔ y < lo)
    rw [← hysteresis_true hBand, ← hysteresis_true hBand (x := y)]
    cases hysteresis lo hi x true with
    | false =>
      cases hysteresis lo hi y true with
      | false => decide
      | true => decide
    | true =>
      cases hysteresis lo hi y true with
      | false => decide
      | true => decide

/-- The first test sets the flag, the second one clears it. -/
theorem hysteresis_eq_tests (hBand : lo ≤ hi) (on : Bool) :
    hysteresis lo hi x on = (!decide (x < lo) && (on || decide (hi < x))) := by
  unfold hysteresis
  split
  · rename_i hAbove
    have hNot : ¬x < lo := not_lt.mpr (hBand.trans hAbove.le)
    simp [hAbove, hNot]
  · rename_i hBelow
    split
    · rename_i hClear
      simp [hClear]
    · rename_i hHeld
      simp [hBelow, hHeld]

/-- A reading that is the larger one of two machine words. -/
theorem toNat_max (a b : UInt64) : (max a b).toNat = max a.toNat b.toNat := by
  have hMax : max a b = if a ≤ b then b else a := rfl
  rw [hMax]
  split
  · rename_i hLe
    exact (Nat.max_eq_right (UInt64.le_iff_toNat_le.mp hLe)).symm
  · rename_i hGt
    have hLt := UInt64.lt_iff_toNat_lt.mp (UInt64.not_le.mp hGt)
    exact (Nat.max_eq_left (Nat.le_of_lt hLt)).symm

end Dpdq.Lib
