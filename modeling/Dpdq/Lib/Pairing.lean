import Mathlib.Algebra.BigOperators.Group.Finset.Piecewise
import Mathlib.Data.Finset.Card

/-!
# Multisets that are paired with a finite set

A multiset whose elements are the values of `f` at the elements of a finite set, each once. An
element can be added together with its index, and taken out together with one that has its value.
-/

namespace Dpdq.Lib

variable {ι α M : Type} [DecidableEq ι]

/-- The elements of `s` are the values of `f` on `t`. -/
def PairedWith (f : ι → α) (s : Multiset α) (t : Finset ι) : Prop := s = t.val.map f

namespace PairedWith

variable {f : ι → α} {s : Multiset α} {t : Finset ι}

omit [DecidableEq ι] in
theorem empty (f : ι → α) : PairedWith f 0 ∅ := rfl

theorem cons (h : PairedWith f s t) {i : ι} (hi : i ∉ t) : PairedWith f (f i ::ₘ s) (insert i t) := by
  rw [PairedWith, Finset.insert_val_of_notMem hi, Multiset.map_cons, ← h]

theorem of_cons {a : α} (h : PairedWith f (a ::ₘ s) t) :
    ∃ i ∈ t, f i = a ∧ PairedWith f s (t.erase i) := by
  rw [PairedWith] at h
  have hMem : a ∈ t.val.map f := h ▸ Multiset.mem_cons_self a s
  obtain ⟨i, hi, rfl⟩ := Multiset.mem_map.mp hMem
  refine ⟨i, hi, rfl, ?_⟩
  have hErase : t.val = i ::ₘ (t.erase i).val := by
    rw [Finset.erase_val, Multiset.cons_erase hi]
  rw [hErase, Multiset.map_cons] at h
  exact (Multiset.cons_inj_right _).mp h

omit [DecidableEq ι] in
theorem sum_map [AddCommMonoid M] (h : PairedWith f s t) (g : α → M) :
    (s.map g).sum = ∑ i ∈ t, g (f i) := by
  rw [h, Multiset.map_map]
  rfl

omit [DecidableEq ι] in
theorem eq_zero_of_empty (h : PairedWith f s ∅) : s = 0 := h

end PairedWith

/-- A sum over a multiset, sorted by keys. -/
theorem sum_filter_key [AddCommMonoid M] (key : α → ι) (c : α → M) {keys : Finset ι}
    {s : Multiset α} (hKeys : ∀ a ∈ s, key a ∈ keys) :
    ∑ k ∈ keys, ((s.filter fun a => key a = k).map c).sum = (s.map c).sum := by
  induction s using Multiset.induction with
  | empty => simp
  | cons a s ih =>
    have hRest := ih fun b hb => hKeys b (Multiset.mem_cons_of_mem hb)
    have hHead (k : ι) : (((a ::ₘ s).filter fun b => key b = k).map c).sum =
        (if key a = k then c a else 0) + ((s.filter fun b => key b = k).map c).sum := by
      by_cases hk : key a = k
      · rw [Multiset.filter_cons_of_pos (p := fun b => key b = k) _ hk, if_pos hk,
          Multiset.map_cons, Multiset.sum_cons]
      · rw [Multiset.filter_cons_of_neg (p := fun b => key b = k) _ hk, if_neg hk, zero_add]
    rw [Finset.sum_congr rfl fun k _ => hHead k, Finset.sum_add_distrib, hRest,
      Finset.sum_ite_eq, if_pos (hKeys a (Multiset.mem_cons_self a s)), Multiset.map_cons,
      Multiset.sum_cons]

theorem sum_filter_key_univ [Fintype ι] [AddCommMonoid M] (key : α → ι) (c : α → M)
    (s : Multiset α) : ∑ k, ((s.filter fun a => key a = k).map c).sum = (s.map c).sum :=
  sum_filter_key key c fun a _ => Finset.mem_univ (key a)

end Dpdq.Lib
