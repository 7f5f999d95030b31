import Mathlib.Data.Set.Card
import Mathlib.Data.Set.Insert
import Mathlib.Data.Set.Lattice
import Mathlib.Order.Interval.Finset.Nat

/-!
# Lists of half-open blocks and the sets of numbers they cover

A block is a start and a length; a list of blocks stands for a set of numbers. The order of the
list, overlaps and empty blocks do not matter for the set.

`Spaced gap` lists are in order, without empty blocks, and with a gap between any two blocks. With
a gap of 1 the blocks are the maximal intervals of the set: a block lies in the set exactly if it
lies in one of them (`Spaced.cells_subset_iff`).
-/

namespace Dpdq.Lib

/-- A start and a length. -/
abbrev Block := Nat × Nat

/-- The numbers of one block. -/
def Block.cells (b : Block) : Set Nat := { x | b.1 ≤ x ∧ x < b.1 + b.2 }

/-- The numbers that some block of the list covers. -/
def covered (bs : List Block) : Set Nat := { x | ∃ b ∈ bs, x ∈ b.cells }

/-- Every block ends at or before the bound. -/
def Within (bound : Nat) (bs : List Block) : Prop := ∀ b ∈ bs, b.1 + b.2 ≤ bound

@[simp] theorem mem_cells {b : Block} {x : Nat} : x ∈ b.cells ↔ b.1 ≤ x ∧ x < b.1 + b.2 := Iff.rfl

@[simp] theorem covered_nil : covered [] = ∅ := by
  ext x
  simp [covered]

@[simp] theorem covered_cons (b : Block) (bs : List Block) :
    covered (b :: bs) = b.cells ∪ covered bs := by
  ext x
  simp [covered]

theorem within_nil (bound : Nat) : Within bound [] := by
  intro b hb
  cases hb

theorem within_cons {bound : Nat} {b : Block} {bs : List Block} :
    Within bound (b :: bs) ↔ b.1 + b.2 ≤ bound ∧ Within bound bs := List.forall_mem_cons

/-! ## Spaced lists -/

structure Spaced (gap : Nat) (bs : List Block) : Prop where
  pos : ∀ b ∈ bs, 0 < b.2
  apart : bs.Pairwise fun b c => b.1 + b.2 + gap ≤ c.1

variable {gap : Nat}

theorem spaced_nil : Spaced gap [] := ⟨nofun, List.Pairwise.nil⟩

theorem spaced_cons {b : Block} {bs : List Block} :
    Spaced gap (b :: bs) ↔ 0 < b.2 ∧ (∀ c ∈ bs, b.1 + b.2 + gap ≤ c.1) ∧ Spaced gap bs := by
  constructor
  · intro h
    obtain ⟨hHead, hTail⟩ := List.pairwise_cons.mp h.apart
    exact ⟨h.pos b List.mem_cons_self, hHead, fun c hc => h.pos c (List.mem_cons_of_mem b hc), hTail⟩
  · rintro ⟨hPos, hHead, hTail⟩
    exact ⟨List.forall_mem_cons.mpr ⟨hPos, hTail.pos⟩, List.pairwise_cons.mpr ⟨hHead, hTail.apart⟩⟩

theorem Spaced.mono {gap' : Nat} {bs : List Block} (h : Spaced gap bs) (hLe : gap' ≤ gap) :
    Spaced gap' bs :=
  ⟨h.pos, h.apart.imp fun hApart => by omega⟩

/-- Of two different blocks, one ends before the other starts. -/
theorem Spaced.apart_of_ne {bs : List Block} (h : Spaced gap bs) {b c : Block} (hb : b ∈ bs)
    (hc : c ∈ bs) (hNe : b ≠ c) : b.1 + b.2 + gap ≤ c.1 ∨ c.1 + c.2 + gap ≤ b.1 := by
  induction bs with
  | nil => cases hb
  | cons a as ih =>
    obtain ⟨-, hHead, hTail⟩ := spaced_cons.mp h
    rcases List.mem_cons.mp hb with rfl | hbRest
    · rcases List.mem_cons.mp hc with rfl | hcRest
      · exact absurd rfl hNe
      · exact Or.inl (hHead c hcRest)
    · rcases List.mem_cons.mp hc with rfl | hcRest
      · exact Or.inr (hHead b hbRest)
      · exact ih hTail hbRest hcRest

/-- The number behind a block is not covered. -/
theorem Spaced.end_not_mem {bs : List Block} (h : Spaced 1 bs) {b : Block} (hb : b ∈ bs) :
    b.1 + b.2 ∉ covered bs := by
  rintro ⟨c, hc, hIn⟩
  rw [mem_cells] at hIn
  by_cases hEq : b = c
  · rw [hEq] at hIn
    omega
  · rcases h.apart_of_ne hb hc hEq with hBefore | hAfter
    · omega
    · omega

/-- A block is covered exactly if one block of the list contains it. -/
theorem Spaced.cells_subset_iff {bs : List Block} (h : Spaced 1 bs) {b : Block} (hPos : 0 < b.2) :
    b.cells ⊆ covered bs ↔ ∃ c ∈ bs, c.1 ≤ b.1 ∧ b.1 + b.2 ≤ c.1 + c.2 := by
  constructor
  · intro hSub
    obtain ⟨c, hc, hStart⟩ := hSub (show b.1 ∈ b.cells from ⟨Nat.le_refl _, by omega⟩)
    rw [mem_cells] at hStart
    refine ⟨c, hc, hStart.1, ?_⟩
    by_contra hPast
    exact h.end_not_mem hc (hSub ⟨by omega, by omega⟩)
  · rintro ⟨c, hc, hStart, hEnd⟩ x hx
    rw [mem_cells] at hx
    exact ⟨c, hc, by rw [mem_cells]; omega⟩

/-- No block starts below a number that the list spares. -/
theorem Spaced.lt_start {bs : List Block} (h : Spaced gap bs) {n : Nat}
    (hFree : ∀ x ∈ covered bs, n < x) {b : Block} (hb : b ∈ bs) : n < b.1 := by
  apply hFree
  have hPos := h.pos b hb
  exact ⟨b, hb, Nat.le_refl _, by omega⟩

theorem cells_eq_Ico (b : Block) : b.cells = Set.Ico b.1 (b.1 + b.2) := rfl

theorem ncard_cells (b : Block) : b.cells.ncard = b.2 := by
  rw [cells_eq_Ico, ← Finset.coe_Ico, Set.ncard_coe_finset, Nat.card_Ico]
  omega

theorem finite_cells (b : Block) : b.cells.Finite := Set.finite_Ico _ _

theorem finite_covered (bs : List Block) : (covered bs).Finite := by
  induction bs with
  | nil =>
    rw [covered_nil]
    exact Set.finite_empty
  | cons b bs ih =>
    rw [covered_cons]
    exact (finite_cells b).union ih

end Dpdq.Lib
