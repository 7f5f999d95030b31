import Dpdq.Lib.Blocks
import Dpdq.Ns3.Word

/-!
# The block list of IRN

`IrnSackManager` of `rdma-queue-pair.cc`: a list of `(seq, size)` blocks with 32-bit arithmetic.
Each operation has one lemma that says what the list covers afterwards, for lists that end within
a 32-bit bound.
-/

namespace Dpdq.Ns3

open Dpdq.Lib

namespace IrnSackManager

/-- The first loop of `sack`, and whether control reaches the merge pass: a block that contains
the rest of the segment returns at once. -/
def sackLoop : List Block → Nat → Nat → List Block × Bool
  | [], seq, sz => (if sz ≠ 0 then [(seq, sz)] else [], true)
  | (blockBegin, blockSz) :: rest, seq, sz =>
    let blockEnd := addU32 blockBegin blockSz
    let seqEnd := addU32 seq sz
    if blockBegin ≤ seq ∧ seqEnd ≤ blockEnd then ((blockBegin, blockSz) :: rest, false)
    else if seq < blockBegin ∧ blockEnd < seqEnd then
      let r := sackLoop rest blockEnd (seqEnd - blockEnd)
      ((seq, blockBegin - seq) :: (blockBegin, blockSz) :: r.1, r.2)
    else if seq < blockBegin ∧ seqEnd ≤ blockBegin then
      ((seq, sz) :: (blockBegin, blockSz) :: rest, true)
    else if blockBegin ≤ seq ∧ seq ≤ blockEnd ∧ blockEnd < seqEnd then
      let r := sackLoop rest blockEnd (seqEnd - blockEnd)
      ((blockBegin, blockSz) :: r.1, r.2)
    else if seq < blockBegin ∧ blockBegin ≤ seqEnd ∧ seqEnd ≤ blockEnd then
      ((seq, blockBegin - seq) :: (blockBegin, blockSz) :: rest, true)
    else
      let r := sackLoop rest seq sz
      ((blockBegin, blockSz) :: r.1, r.2)

/-- The second loop of `sack`: a block that starts where the previous one ends is joined to it. -/
def mergeBlocks : List Block → List Block
  | [] => []
  | [b] => [b]
  | b :: c :: rest =>
    if addU32 b.1 b.2 = c.1 then mergeBlocks ((b.1, addU32 b.2 c.2) :: rest)
    else b :: mergeBlocks (c :: rest)
termination_by bs => bs.length

def sack (bs : List Block) (seq sz : Nat) : List Block :=
  if sz = 0 then bs
  else
    let r := sackLoop bs seq sz
    if r.2 then mergeBlocks r.1 else r.1

/-- `discardUpTo`, with the number of bytes that it removed. -/
def discardUpTo : List Block → Nat → List Block × Nat
  | [], _ => ([], 0)
  | (blockBegin, blockSz) :: rest, cumAck =>
    if addU32 blockBegin blockSz ≤ cumAck then
      let r := discardUpTo rest cumAck
      (r.1, blockSz + r.2)
    else if blockBegin < cumAck then
      ((cumAck, addU32 blockBegin blockSz - cumAck) :: rest, cumAck - blockBegin)
    else ((blockBegin, blockSz) :: rest, 0)

def blockExists (bs : List Block) (seq size : Nat) : Bool :=
  bs.any fun b => b.1 ≤ seq ∧ addU32 seq size ≤ addU32 b.1 b.2

def peekFrontBlock (bs : List Block) : Option Block := bs.head?

/-! ## What the list covers -/

variable {bound : Nat}

theorem addU32_of_within (hBound : bound < 2 ^ 32) {b : Block} (hb : b.1 + b.2 ≤ bound) :
    addU32 b.1 b.2 = b.1 + b.2 := addU32_of_lt (Nat.lt_of_le_of_lt hb hBound)

/-- The loop covers what was covered and nothing outside the segment. -/
theorem sackLoop_spec (hBound : bound < 2 ^ 32) (bs : List Block) (seq sz : Nat)
    (hbs : Within bound bs) (hSeg : seq + sz ≤ bound) :
    covered (sackLoop bs seq sz).1 ⊆ covered bs ∪ Block.cells (seq, sz) ∧
      Within bound (sackLoop bs seq sz).1 := by
  induction bs generalizing seq sz with
  | nil =>
    unfold sackLoop
    split
    · exact ⟨by simp, within_cons.mpr ⟨hSeg, within_nil _⟩⟩
    · exact ⟨by simp, within_nil _⟩
  | cons b rest ih =>
    obtain ⟨begin, size⟩ := b
    obtain ⟨hb, hRest⟩ := within_cons.mp hbs
    have hBlockEnd : addU32 begin size = begin + size := addU32_of_within hBound hb
    have hSeqEnd : addU32 seq sz = seq + sz := addU32_of_lt (Nat.lt_of_le_of_lt hSeg hBound)
    simp only at hb
    -- Two branches go on behind the block with the tail of the segment.
    have hTail : begin + size < seq + sz →
        covered (sackLoop rest (begin + size) (seq + sz - (begin + size))).1 ⊆
            covered rest ∪ Block.cells (begin + size, seq + sz - (begin + size)) ∧
          Within bound (sackLoop rest (begin + size) (seq + sz - (begin + size))).1 :=
      fun hLt => ih _ _ hRest (by omega)
    unfold sackLoop
    simp only [hBlockEnd, hSeqEnd]
    split_ifs with hInside hAround hBefore hFront hRear
    · exact ⟨Set.subset_union_left, hbs⟩
    · obtain ⟨hCover, hWithin⟩ := hTail hAround.2
      refine ⟨?_, within_cons.mpr ⟨by simp only; omega, within_cons.mpr ⟨hb, hWithin⟩⟩⟩
      intro x hx
      simp only [covered_cons, Set.mem_union, mem_cells] at hx ⊢
      rcases hx with hx | hx | hx
      · right; omega
      · left; left; exact hx
      · rcases hCover hx with hx | hx
        · left; right; exact hx
        · simp only [mem_cells] at hx
          right; omega
    · refine ⟨?_, within_cons.mpr ⟨hSeg, hbs⟩⟩
      rw [covered_cons]
      exact Set.union_comm _ _ ▸ subset_rfl
    · obtain ⟨hCover, hWithin⟩ := hTail hFront.2.2
      refine ⟨?_, within_cons.mpr ⟨hb, hWithin⟩⟩
      intro x hx
      simp only [covered_cons, Set.mem_union, mem_cells] at hx ⊢
      rcases hx with hx | hx
      · left; left; exact hx
      · rcases hCover hx with hx | hx
        · left; right; exact hx
        · simp only [mem_cells] at hx
          right; omega
    · refine ⟨?_, within_cons.mpr ⟨by simp only; omega, hbs⟩⟩
      intro x hx
      rw [covered_cons] at hx
      rcases hx with hx | hx
      · simp only [mem_cells] at hx
        right
        simp only [mem_cells]
        omega
      · left; exact hx
    · obtain ⟨hCover, hWithin⟩ := ih seq sz hRest hSeg
      refine ⟨?_, within_cons.mpr ⟨hb, hWithin⟩⟩
      rw [covered_cons, covered_cons, Set.union_assoc]
      exact Set.union_subset_union_right _ hCover

/-- Joining neighbours changes neither the set nor the bound. -/
theorem mergeBlocks_spec (hBound : bound < 2 ^ 32) (bs : List Block) (hbs : Within bound bs) :
    covered (mergeBlocks bs) = covered bs ∧ Within bound (mergeBlocks bs) := by
  fun_induction mergeBlocks bs with
  | case1 => exact ⟨rfl, hbs⟩
  | case2 b => exact ⟨rfl, hbs⟩
  | case3 b c rest hNeighbour ih =>
    obtain ⟨hb, hcRest⟩ := within_cons.mp hbs
    obtain ⟨hc, hRest⟩ := within_cons.mp hcRest
    rw [addU32_of_within hBound hb] at hNeighbour
    have hSize : addU32 b.2 c.2 = b.2 + c.2 := addU32_of_lt (by omega)
    obtain ⟨hCover, hWithin⟩ := ih (within_cons.mpr ⟨by simp only [hSize]; omega, hRest⟩)
    refine ⟨?_, hWithin⟩
    rw [hCover, covered_cons, covered_cons, covered_cons, ← Set.union_assoc]
    congr 1
    ext x
    simp only [hSize, mem_cells, Set.mem_union]
    omega
  | case4 b c rest _ ih =>
    obtain ⟨hb, hcRest⟩ := within_cons.mp hbs
    obtain ⟨hCover, hWithin⟩ := ih hcRest
    exact ⟨by rw [covered_cons, covered_cons, hCover], within_cons.mpr ⟨hb, hWithin⟩⟩

theorem sack_spec (hBound : bound < 2 ^ 32) (bs : List Block) (seq sz : Nat)
    (hbs : Within bound bs) (hSeg : sz ≠ 0 → seq + sz ≤ bound) :
    covered (sack bs seq sz) ⊆ covered bs ∪ Block.cells (seq, sz) ∧
      Within bound (sack bs seq sz) := by
  unfold sack
  split
  · exact ⟨Set.subset_union_left, hbs⟩
  · rename_i hSz
    obtain ⟨hCover, hWithin⟩ := sackLoop_spec hBound bs seq sz hbs (hSeg hSz)
    simp only
    split
    · obtain ⟨hMerge, hWithin'⟩ := mergeBlocks_spec hBound _ hWithin
      exact ⟨hMerge ▸ hCover, hWithin'⟩
    · exact ⟨hCover, hWithin⟩

/-- Discarding only removes. -/
theorem discardUpTo_spec (hBound : bound < 2 ^ 32) (bs : List Block) (cumAck : Nat)
    (hbs : Within bound bs) :
    covered (discardUpTo bs cumAck).1 ⊆ covered bs ∧ Within bound (discardUpTo bs cumAck).1 := by
  induction bs with
  | nil => exact ⟨subset_rfl, hbs⟩
  | cons b rest ih =>
    obtain ⟨begin, size⟩ := b
    obtain ⟨hb, hRest⟩ := within_cons.mp hbs
    have hBlockEnd : addU32 begin size = begin + size := addU32_of_within hBound hb
    simp only at hb
    unfold discardUpTo
    rw [hBlockEnd]
    split_ifs with hWhole hPart
    · obtain ⟨hCover, hWithin⟩ := ih hRest
      rw [covered_cons]
      exact ⟨hCover.trans Set.subset_union_right, hWithin⟩
    · refine ⟨?_, within_cons.mpr ⟨by simp only; omega, hRest⟩⟩
      rw [covered_cons, covered_cons]
      apply Set.union_subset_union_left
      intro x hx
      simp only [mem_cells] at hx ⊢
      omega
    · exact ⟨subset_rfl, hbs⟩

theorem covered_of_peekFrontBlock {bs : List Block} {b : Block}
    (h : peekFrontBlock bs = some b) : b ∈ bs ∧ b.cells ⊆ covered bs := by
  have hMem : b ∈ bs := List.mem_of_mem_head? h
  exact ⟨hMem, fun x hx => ⟨b, hMem, hx⟩⟩

end IrnSackManager

end Dpdq.Ns3
