import Mathlib.Algebra.Order.Sub.Defs
import Mathlib.Algebra.Order.Monoid.Canonical.Defs

/-!
# Counters that do not go below zero

A counter with two kinds of updates: it is raised by an amount, or lowered by an amount but not
below zero. Updates do not commute, since a counter at zero forgets the rest of an amount. They are
monotone, though, and a counter that starts higher by `c` stays at most `c` higher.

* `run_pair_le`: raising a counter by `c` before a run and lowering it by `c` behind the run leaves
  at most what the run alone leaves.
-/

namespace Dpdq.Lib.SaturatingCounter

inductive Update (α : Type) where
  | raise (a : α)
  | lower (a : α)

section Updates

variable {α : Type} [Add α] [Sub α]

def Update.apply : Update α → α → α
  | .raise a, q => q + a
  | .lower a, q => q - a

def run (us : List (Update α)) (q : α) : α := us.foldl (fun q u => u.apply q) q

@[simp] theorem run_nil (q : α) : run [] q = q := rfl

@[simp] theorem run_cons (u : Update α) (us : List (Update α)) (q : α) :
    run (u :: us) q = run us (u.apply q) := rfl

theorem run_append (us vs : List (Update α)) (q : α) : run (us ++ vs) q = run vs (run us q) :=
  List.foldl_append

/-- The update does not raise the counter to `bound` or above. -/
def Update.Fits [LT α] (bound q : α) : Update α → Prop
  | .raise a => q + a < bound
  | .lower _ => True

/-- No update of the run raises the counter to `bound` or above. -/
def Fits [LT α] (bound : α) : List (Update α) → α → Prop
  | [], _ => True
  | u :: us, q => u.Fits bound q ∧ Fits bound us (u.apply q)

theorem fits_append [LT α] {bound : α} {us vs : List (Update α)} {q : α} :
    Fits bound (us ++ vs) q ↔ Fits bound us q ∧ Fits bound vs (run us q) := by
  induction us generalizing q with
  | nil => exact (and_iff_right trivial).symm
  | cons u us ih =>
    show _ ∧ Fits bound (us ++ vs) (u.apply q) ↔ (_ ∧ _) ∧ _
    rw [ih, and_assoc]
    rfl

end Updates

variable {α : Type} [AddCommMonoid α] [PartialOrder α] [IsOrderedAddMonoid α] [Sub α] [OrderedSub α]

theorem Update.apply_mono (u : Update α) {q r : α} (h : q ≤ r) : u.apply q ≤ u.apply r := by
  cases u with
  | raise a => exact add_le_add_left h a
  | lower a => exact tsub_le_tsub_right h a

/-- A counter that starts higher by `c` ends at most `c` higher. -/
theorem Update.apply_add_le (u : Update α) (q c : α) : u.apply (q + c) ≤ u.apply q + c := by
  cases u with
  | raise a =>
    show q + c + a ≤ q + a + c
    rw [add_right_comm]
  | lower a => exact add_tsub_le_tsub_add

theorem run_mono (us : List (Update α)) {q r : α} (h : q ≤ r) : run us q ≤ run us r := by
  induction us generalizing q r with
  | nil => exact h
  | cons u us ih => exact ih (u.apply_mono h)

theorem Fits.mono {bound : α} {us : List (Update α)} {q r : α} (hFits : Fits bound us r)
    (h : q ≤ r) : Fits bound us q := by
  induction us generalizing q r with
  | nil => trivial
  | cons u us ih =>
    refine ⟨?_, ih hFits.2 (u.apply_mono h)⟩
    cases u with
    | raise a => exact (add_le_add_left h a).trans_lt hFits.1
    | lower a => trivial

theorem run_add_le (us : List (Update α)) (q c : α) : run us (q + c) ≤ run us q + c := by
  induction us generalizing q with
  | nil => exact le_refl _
  | cons u us ih =>
    calc run us (u.apply (q + c)) ≤ run us (u.apply q + c) := run_mono us (u.apply_add_le q c)
      _ ≤ run us (u.apply q) + c := ih (u.apply q)

theorem run_pair_le (us : List (Update α)) (q c : α) :
    run (.raise c :: us ++ [.lower c]) q ≤ run us q := by
  rw [run_append]
  exact tsub_le_iff_right.mpr (run_add_le us q c)

end Dpdq.Lib.SaturatingCounter
