import Mathlib.Algebra.GroupWithZero.Nat
import Mathlib.Logic.Function.Basic
import Mathlib.Data.List.Induction

/-!
# Slots that are written in turn

A `Ring` of `n` slots counts its writers, and writer number `k` changes slot `k % n`. After any
number of writers the slots of the last `n` show what these made of them
(`Ring.exists_slot_writeAll`).
-/

namespace Dpdq.Lib

structure Ring (n : Nat) (α : Type) where
  slots : Fin n → α
  count : Nat

namespace Ring

variable {n : Nat} [NeZero n] {α : Type}

def write (r : Ring n α) (f : α → α) : Ring n α :=
  ⟨Function.update r.slots (Fin.ofNat n r.count) (f (r.slots (Fin.ofNat n r.count))), r.count + 1⟩

def writeAll (r : Ring n α) (fs : List (α → α)) : Ring n α := fs.foldl write r

@[simp] theorem writeAll_nil (r : Ring n α) : r.writeAll [] = r := rfl

theorem writeAll_append (r : Ring n α) (fs gs : List (α → α)) :
    r.writeAll (fs ++ gs) = (r.writeAll fs).writeAll gs := by
  rw [writeAll, List.foldl_append]
  rfl

theorem writeAll_concat (r : Ring n α) (fs : List (α → α)) (f : α → α) :
    r.writeAll (fs ++ [f]) = (r.writeAll fs).write f := writeAll_append r fs [f]

@[simp] theorem count_writeAll (r : Ring n α) (fs : List (α → α)) :
    (r.writeAll fs).count = r.count + fs.length := by
  induction fs using List.reverseRecOn with
  | nil => rfl
  | append_singleton fs f ih =>
    rw [writeAll_concat, List.length_append, List.length_singleton, ← Nat.add_assoc, ← ih]
    rfl

/-- Two of `n` numbers in a row have different slots. -/
theorem ofNat_ne {j k : Nat} (hLess : j < k) (hNear : k < j + n) :
    Fin.ofNat n j ≠ Fin.ofNat n k := by
  intro hSame
  have hMod : j % n = k % n := congrArg Fin.val hSame
  have hGap : (k - j) % n = 0 := Nat.sub_mod_eq_zero_of_mod_eq hMod.symm
  rw [Nat.mod_eq_of_lt (by omega)] at hGap
  omega

/-- The slot of one of the last `n` writers shows what this one made of it. -/
theorem exists_slot_writeAll (r : Ring n α) (fs : List (α → α)) {j : Nat} {f : α → α}
    (hWriter : fs[j]? = some f) (hLast : fs.length ≤ j + n) :
    ∃ old, (r.writeAll fs).slots (Fin.ofNat n (r.count + j)) = f old := by
  induction fs using List.reverseRecOn with
  | nil => cases hWriter
  | append_singleton fs g ih =>
    rw [List.length_append, List.length_singleton] at hLast
    rw [writeAll_concat, write, count_writeAll]
    by_cases hOlder : j < fs.length
    · rw [List.getElem?_append_left hOlder] at hWriter
      obtain ⟨old, hOld⟩ := ih hWriter (by omega)
      have hOther : Fin.ofNat n (r.count + j) ≠ Fin.ofNat n (r.count + fs.length) :=
        ofNat_ne (by omega) (by omega)
      exact ⟨old, (Function.update_of_ne hOther _ _).trans hOld⟩
    · have hBound := (List.getElem?_eq_some_iff.mp hWriter).1
      rw [List.length_append, List.length_singleton] at hBound
      have hNewest : j = fs.length := by omega
      subst hNewest
      rw [List.getElem?_concat_length] at hWriter
      cases hWriter
      exact ⟨_, Function.update_self _ _ _⟩

end Ring

end Dpdq.Lib
