import Mathlib.Algebra.BigOperators.Group.Finset.Basic
import Mathlib.Algebra.Order.BigOperators.Group.Finset

/-!
# Finite tables

A table is a finite set of keys with a value for each. `total f` adds up `f` over all entries, and
`others k f` over all entries but the one of `k`: writing or erasing the entry of `k` changes the
first by the entry of `k` only, because it leaves the second alone.
-/

namespace Dpdq.Lib

/-- A finite set of keys with a value for each; values outside the keys are not part of it. -/
structure Table (κ ν : Type) where
  keys : Finset κ
  val : κ → ν

namespace Table

variable {κ ν : Type} [DecidableEq κ]

def empty [Inhabited ν] : Table κ ν := ⟨∅, fun _ => default⟩

def get? (t : Table κ ν) (k : κ) : Option ν := if k ∈ t.keys then some (t.val k) else none

def set (t : Table κ ν) (k : κ) (v : ν) : Table κ ν :=
  ⟨insert k t.keys, Function.update t.val k v⟩

def erase (t : Table κ ν) (k : κ) : Table κ ν := ⟨t.keys.erase k, t.val⟩

/-- The entries that satisfy `p`. -/
def filter (t : Table κ ν) (p : κ → ν → Bool) : Table κ ν :=
  ⟨t.keys.filter fun k => p k (t.val k), t.val⟩

/-- Some entry satisfies `p`. -/
def any (t : Table κ ν) (p : ν → Bool) : Bool := decide (∃ k ∈ t.keys, p (t.val k) = true)

/-! ## Lookup -/

theorem get?_eq_some {t : Table κ ν} {k : κ} {v : ν} :
    t.get? k = some v ↔ k ∈ t.keys ∧ t.val k = v := by
  unfold get?
  split <;> simp_all

theorem get?_eq_none {t : Table κ ν} {k : κ} : t.get? k = none ↔ k ∉ t.keys := by
  unfold get?
  split <;> simp_all

@[simp] theorem get?_empty [Inhabited ν] (k : κ) : (empty : Table κ ν).get? k = none := rfl

theorem get?_empty_ne [Inhabited ν] (k : κ) (v : ν) : (empty : Table κ ν).get? k ≠ some v := by
  rw [get?_empty]
  exact (Option.some_ne_none v).symm

@[simp] theorem get?_set_self (t : Table κ ν) (k : κ) (v : ν) : (t.set k v).get? k = some v := by
  simp [get?, set]

theorem get?_set_of_ne (t : Table κ ν) {k l : κ} (v : ν) (h : l ≠ k) :
    (t.set k v).get? l = t.get? l := by
  simp [get?, set, h]

/-- Writing what an entry holds changes nothing. -/
theorem set_eq_self {t : Table κ ν} {k : κ} {v : ν} (h : t.get? k = some v) : t.set k v = t := by
  obtain ⟨hKey, rfl⟩ := get?_eq_some.mp h
  unfold set
  rw [Finset.insert_eq_of_mem hKey, Function.update_eq_self]

/-- A second write to an entry replaces the first. -/
theorem set_set (t : Table κ ν) (k : κ) (v w : ν) : (t.set k v).set k w = t.set k w := by
  unfold set
  rw [Finset.insert_idem, Function.update_idem]

@[simp] theorem get?_erase_self (t : Table κ ν) (k : κ) : (t.erase k).get? k = none := by
  simp [get?, erase]

theorem get?_erase_of_ne (t : Table κ ν) {k l : κ} (h : l ≠ k) :
    (t.erase k).get? l = t.get? l := by
  simp [get?, erase, h]

theorem get?_filter (t : Table κ ν) (p : κ → ν → Bool) (k : κ) :
    (t.filter p).get? k = (t.get? k).filter (p k) := by
  unfold filter get?
  by_cases hk : k ∈ t.keys
  · cases hp : p k (t.val k) with
    | true => simp [hk, hp, Option.filter]
    | false => simp [hk, hp, Option.filter]
  · simp [hk]

/-! ## Totals -/

def total (t : Table κ ν) (f : ν → Nat) : Nat := ∑ k ∈ t.keys, f (t.val k)

/-- The total without the entry of `k`. -/
def others (t : Table κ ν) (k : κ) (f : ν → Nat) : Nat := ∑ l ∈ t.keys.erase k, f (t.val l)

omit [DecidableEq κ] in
@[simp] theorem total_empty [Inhabited ν] (f : ν → Nat) : (empty : Table κ ν).total f = 0 := rfl

/-- The entry of `k` and the others make the total. -/
theorem total_eq (t : Table κ ν) (k : κ) (f : ν → Nat) :
    t.total f = (t.get? k).elim 0 f + t.others k f := by
  unfold total others get?
  by_cases hk : k ∈ t.keys
  · rw [if_pos hk, Option.elim_some, Finset.add_sum_erase _ (fun l => f (t.val l)) hk]
  · rw [if_neg hk, Option.elim_none, Finset.erase_eq_of_notMem hk, Nat.zero_add]

theorem others_set (t : Table κ ν) (k : κ) (v : ν) (f : ν → Nat) :
    (t.set k v).others k f = t.others k f := by
  unfold others set
  rw [Finset.erase_insert_eq_erase]
  apply Finset.sum_congr rfl
  intro l hl
  simp only [Function.update_of_ne (Finset.ne_of_mem_erase hl)]

theorem others_erase (t : Table κ ν) (k : κ) (f : ν → Nat) :
    (t.erase k).others k f = t.others k f := by
  unfold others erase
  rw [Finset.erase_idem]

theorem total_set (t : Table κ ν) (k : κ) (v : ν) (f : ν → Nat) :
    (t.set k v).total f = f v + t.others k f := by
  rw [total_eq _ k, get?_set_self, Option.elim_some, others_set]

theorem total_erase (t : Table κ ν) (k : κ) (f : ν → Nat) :
    (t.erase k).total f = t.others k f := by
  rw [total_eq _ k, get?_erase_self, Option.elim_none, Nat.zero_add, others_erase]

/-- No entry exceeds the total. -/
theorem le_total {t : Table κ ν} {k : κ} {v : ν} (h : t.get? k = some v) (f : ν → Nat) :
    f v ≤ t.total f := by
  rw [total_eq t k, h, Option.elim_some]
  exact Nat.le_add_right _ _

/-- Writing an entry with an unchanged amount keeps the total. -/
theorem total_set_of_eq {t : Table κ ν} {k : κ} {v : ν} {f : ν → Nat}
    (h : f v = (t.get? k).elim 0 f) : (t.set k v).total f = t.total f := by
  rw [total_set, h, ← total_eq]

/-! ## Sums with keys -/

section Sums

variable {M : Type} [AddCommMonoid M]

/-- The sum of `f` over all entries, for amounts that depend on the keys as well. -/
def sum (t : Table κ ν) (f : κ → ν → M) : M := ∑ k ∈ t.keys, f k (t.val k)

omit [DecidableEq κ] in
@[simp] theorem sum_empty [Inhabited ν] (f : κ → ν → M) : (empty : Table κ ν).sum f = 0 := rfl

/-- The entry of `k` and the others make the sum. -/
theorem sum_eq (t : Table κ ν) (k : κ) (f : κ → ν → M) :
    t.sum f = (t.get? k).elim 0 (f k) + (t.erase k).sum f := by
  simp only [sum, erase, get?]
  by_cases hk : k ∈ t.keys
  · rw [if_pos hk, Option.elim_some, Finset.add_sum_erase _ (fun l => f l (t.val l)) hk]
  · rw [if_neg hk, Option.elim_none, Finset.erase_eq_of_notMem hk, zero_add]

/-- The others are not changed by what happens to the entry of `k`. -/
theorem sum_erase_congr {t t' : Table κ ν} {k : κ} {f f' : κ → ν → M}
    (hGet : ∀ l ≠ k, t'.get? l = t.get? l) (hAmount : ∀ l ≠ k, ∀ v, f' l v = f l v) :
    (t'.erase k).sum f' = (t.erase k).sum f := by
  have hKeys : t'.keys.erase k = t.keys.erase k := by
    ext l
    rw [Finset.mem_erase, Finset.mem_erase]
    refine and_congr_right fun hl => ?_
    rw [← not_iff_not, ← get?_eq_none, ← get?_eq_none, hGet l hl]
  simp only [sum, erase, hKeys]
  apply Finset.sum_congr rfl
  intro l hl
  have hMem := Finset.mem_of_mem_erase hl
  have hNe := Finset.ne_of_mem_erase hl
  have hVal : t'.get? l = some (t.val l) := by
    rw [hGet l hNe]
    exact get?_eq_some.mpr ⟨hMem, rfl⟩
  rw [(get?_eq_some.mp hVal).2]
  exact hAmount l hNe _

end Sums

end Table

end Dpdq.Lib
