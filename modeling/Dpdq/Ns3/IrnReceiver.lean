import Dpdq.Ns3.Irn
import Dpdq.Ns3.IrnSackSet

/-!
# The IRN receiver and what has arrived

`ReceiverCheckSeq` for any sequence of arriving segments. `Exact` says that the expected number is
the length of the contiguous prefix of what has arrived, and that the block list is the rest.

The claim that this holds after every arrival fails: a segment that fills the gap in front of the
first block and runs past the end of the block makes the unsigned difference
`sack_len - (ReceiverNextExpectedSeq - sack_seq)` negative, and the expected number goes back to
the end of the block (`receiver_check_seq_falls_back`). It holds throughout exactly the runs
without such a segment (`receiver_check_seq_exact_iff`).
-/

namespace Dpdq.Ns3

open Dpdq.Lib IrnSackManager

/-- A segment whose end is a 32-bit number. -/
structure IrnSegment where
  seq : Nat
  size : Nat
  fits : seq + size < 2 ^ 32

/-- A receiver, the segments that it got, and its expected number before the last one. -/
structure IrnArrivals where
  q : IrnRxQueuePair := {}
  arrived : List Block := []
  previous : Nat := 0

/-- `n` is the length of the longest contiguous prefix of `R`. -/
structure PrefixEnd (R : Set Nat) (n : Nat) : Prop where
  below : ∀ x < n, x ∈ R
  next : n ∉ R

theorem PrefixEnd.unique {R : Set Nat} {m n : Nat} (hm : PrefixEnd R m) (hn : PrefixEnd R n) :
    m = n := by
  rcases Nat.lt_trichotomy m n with hLt | hEq | hGt
  · exact absurd (hn.below m hLt) hm.next
  · exact hEq
  · exact absurd (hm.below n hGt) hn.next

namespace IrnArrivals

/-- The bytes that have arrived. -/
def received (r : IrnArrivals) : Set Nat := covered r.arrived

/-- The arrival of a segment, at a time. -/
def arrive (cfg : IrnConfig) (r : IrnArrivals) (seg : IrnSegment) (now : Nat) : IrnArrivals where
  q := (r.q.receiverCheckSeq cfg seg.seq seg.size now).2
  arrived := (seg.seq, seg.size) :: r.arrived
  previous := r.q.receiverNextExpectedSeq

/-- The expected number is the length of the prefix, the block list is what has arrived above it,
and the number has not decreased. -/
structure Exact (r : IrnArrivals) : Prop where
  expected : PrefixEnd r.received r.q.receiverNextExpectedSeq
  sack : covered r.q.irnSack = r.received \ Set.Iio r.q.receiverNextExpectedSeq
  mono : r.previous ≤ r.q.receiverNextExpectedSeq

/-- A segment that starts at or below the expected number ends within the first block or in front
of it. -/
def StopsInFront (r : IrnArrivals) (seg : IrnSegment) : Prop :=
  seg.seq ≤ r.q.receiverNextExpectedSeq →
    ∀ b, peekFrontBlock r.q.irnSack = some b → seg.seq + seg.size ≤ b.1 + b.2

end IrnArrivals

/-- A receiver, for all segments in any order. -/
def irnArrivals (cfg : IrnConfig) : Machine IrnArrivals (IrnSegment × Nat) where
  init := {}
  step r e := some (r.arrive cfg e.1 e.2)

/-! ## One arrival -/

namespace IrnRxQueuePair

variable {q : IrnRxQueuePair} {seg : IrnSegment}

/-- A segment that reaches the expected number moves it to the end of the segment, or to the end of
the first block if the segment reaches that block. -/
theorem advance_eq (hStart : seg.seq ≤ q.receiverNextExpectedSeq)
    (hReach : q.receiverNextExpectedSeq ≤ seg.seq + seg.size) (hBlocks : Canonical q.irnSack) :
    q.advance seg.seq seg.size =
      match peekFrontBlock q.irnSack with
      | none => seg.seq + seg.size
      | some b => if b.1 ≤ seg.seq + seg.size then b.1 + b.2 else seg.seq + seg.size := by
  have hSegment := seg.fits
  have hNext : addU32 q.receiverNextExpectedSeq
      (seg.size - (q.receiverNextExpectedSeq - seg.seq)) = seg.seq + seg.size := by
    rw [addU32_of_lt (by omega)]
    omega
  unfold advance
  simp only [hNext]
  cases hFront : peekFrontBlock q.irnSack with
  | none => rfl
  | some b =>
    simp only
    split
    · have hEnd := hBlocks.within b (covered_of_peekFrontBlock hFront).1
      rw [addU32_wrapSubU32 (by omega) (by omega) (by omega)]
      omega
    · rfl

end IrnRxQueuePair

namespace IrnArrivals

variable {cfg : IrnConfig} {r : IrnArrivals}

/-- The blocks stay canonical, and the expected number is a 32-bit number. -/
structure WellFormed (r : IrnArrivals) : Prop where
  blocks : Canonical r.q.irnSack
  expected : r.q.receiverNextExpectedSeq < 2 ^ 32

theorem wellFormed_init : WellFormed {} := ⟨canonical_nil, by decide⟩

theorem exact_init : Exact {} where
  expected := ⟨nofun, fun h => by simp [received] at h⟩
  sack := by simp [received]
  mono := Nat.le_refl _

theorem received_arrive (seg : IrnSegment) (now : Nat) :
    (r.arrive cfg seg now).received = Block.cells (seg.seq, seg.size) ∪ r.received :=
  covered_cons _ _

theorem advance_lt (seg : IrnSegment) : r.q.advance seg.seq seg.size < 2 ^ 32 := by
  unfold IrnRxQueuePair.advance
  simp only
  split
  · exact Nat.mod_lt _ (by decide)
  · split
    · exact Nat.mod_lt _ (by decide)
    · exact Nat.mod_lt _ (by decide)

/-- The three branches of `ReceiverCheckSeq`. -/
theorem arrive_cases (cfg : IrnConfig) (r : IrnArrivals) (seg : IrnSegment) (now : Nat) :
    (seg.seq ≤ r.q.receiverNextExpectedSeq ∧
        r.q.receiverNextExpectedSeq ≤ seg.seq + seg.size ∧
        (r.arrive cfg seg now).q.receiverNextExpectedSeq = r.q.advance seg.seq seg.size ∧
        (r.arrive cfg seg now).q.irnSack =
          (discardUpTo r.q.irnSack (r.q.advance seg.seq seg.size)).1) ∨
      (r.q.receiverNextExpectedSeq < seg.seq ∧
        (r.arrive cfg seg now).q.receiverNextExpectedSeq = r.q.receiverNextExpectedSeq ∧
        ((r.arrive cfg seg now).q.irnSack = r.q.irnSack ∧
            blockExists r.q.irnSack seg.seq seg.size = true ∨
          (r.arrive cfg seg now).q.irnSack = sack r.q.irnSack seg.seq seg.size)) ∨
      (seg.seq + seg.size < r.q.receiverNextExpectedSeq ∧
        (r.arrive cfg seg now).q = r.q) := by
  have hSeqEnd : addU32 seg.seq seg.size = seg.seq + seg.size := addU32_of_lt seg.fits
  unfold arrive IrnRxQueuePair.receiverCheckSeq
  simp only [hSeqEnd]
  split
  · rename_i hIn
    exact Or.inl ⟨by omega, by omega, rfl, rfl⟩
  · rename_i hOut
    right
    split
    · rename_i hAbove
      left
      split
      · rename_i hKnown
        exact ⟨hAbove, rfl, Or.inl ⟨rfl, hKnown.1⟩⟩
      · exact ⟨hAbove, rfl, Or.inr rfl⟩
    · right
      exact ⟨by omega, rfl⟩

theorem WellFormed.arrive (h : r.WellFormed) (seg : IrnSegment) (now : Nat) :
    (r.arrive cfg seg now).WellFormed := by
  rcases arrive_cases cfg r seg now with
    ⟨-, -, hExpected, hSack⟩ | ⟨-, hExpected, ⟨hSack, -⟩ | hSack⟩ | ⟨-, hSame⟩
  · refine ⟨?_, ?_⟩
    · rw [hSack]
      exact (h.blocks.discardUpTo _).2.2
    · rw [hExpected]
      exact advance_lt seg
  · refine ⟨?_, ?_⟩
    · rw [hSack]
      exact h.blocks
    · rw [hExpected]
      exact h.expected
  · refine ⟨?_, ?_⟩
    · rw [hSack]
      exact (h.blocks.sack seg.fits).2
    · rw [hExpected]
      exact h.expected
  · refine ⟨?_, ?_⟩
    · rw [hSame]
      exact h.blocks
    · rw [hSame]
      exact h.expected

/-- In an exact state the blocks lie above the expected number. -/
theorem Exact.lt_front (hExact : r.Exact) (h : r.WellFormed) {b : Block}
    (hFront : peekFrontBlock r.q.irnSack = some b) : r.q.receiverNextExpectedSeq < b.1 := by
  refine h.blocks.spaced.lt_start (fun x hx => ?_) (covered_of_peekFrontBlock hFront).1
  rw [hExact.sack] at hx
  rcases Nat.lt_or_eq_of_le (Nat.le_of_not_lt hx.2) with hAbove | hAt
  · exact hAbove
  · exact absurd (hAt ▸ hx.1) hExact.expected.next

/-- The number after a segment that reaches the expected one and stops in front is the end of the
new prefix. -/
theorem Exact.advance_prefixEnd (hExact : r.Exact) (h : r.WellFormed) {seg : IrnSegment}
    (hStart : seg.seq ≤ r.q.receiverNextExpectedSeq)
    (hReach : r.q.receiverNextExpectedSeq ≤ seg.seq + seg.size) (hStops : r.StopsInFront seg) :
    PrefixEnd (Block.cells (seg.seq, seg.size) ∪ r.received) (r.q.advance seg.seq seg.size) ∧
      seg.seq + seg.size ≤ r.q.advance seg.seq seg.size := by
  have hBelow (x : Nat) (hx : x < seg.seq + seg.size) :
      x ∈ Block.cells (seg.seq, seg.size) ∪ r.received := by
    rcases Nat.lt_or_ge x r.q.receiverNextExpectedSeq with hOld | hNew
    · exact Or.inr (hExact.expected.below x hOld)
    · exact Or.inl ⟨by omega, hx⟩
  -- Above the expected number, what has arrived is what the blocks cover.
  have hFree {n : Nat} (hn : seg.seq + seg.size ≤ n) (hGap : n ∉ covered r.q.irnSack) :
      n ∉ Block.cells (seg.seq, seg.size) ∪ r.received := by
    rintro (hIn | hOld)
    · simp only [mem_cells] at hIn
      omega
    · apply hGap
      rw [hExact.sack]
      exact ⟨hOld, by simp only [Set.mem_Iio]; omega⟩
  rw [IrnRxQueuePair.advance_eq hStart hReach h.blocks]
  cases hFront : peekFrontBlock r.q.irnSack with
  | none =>
    simp only
    have hNil : r.q.irnSack = [] := List.head?_eq_none_iff.mp hFront
    exact ⟨⟨hBelow, hFree (Nat.le_refl _) (by rw [hNil]; simp)⟩, Nat.le_refl _⟩
  | some b =>
    obtain ⟨hMem, -⟩ := covered_of_peekFrontBlock hFront
    simp only
    split
    · rename_i hTouch
      have hEnd := hStops hStart b hFront
      refine ⟨⟨fun x hx => ?_, hFree hEnd (h.blocks.spaced.end_not_mem hMem)⟩, hEnd⟩
      rcases Nat.lt_or_ge x (seg.seq + seg.size) with hFirst | hRest
      · exact hBelow x hFirst
      · have hCovered : x ∈ covered r.q.irnSack := ⟨b, hMem, by omega, hx⟩
        rw [hExact.sack] at hCovered
        exact Or.inr hCovered.1
    · rename_i hShort
      refine ⟨⟨hBelow, hFree (Nat.le_refl _) ?_⟩, Nat.le_refl _⟩
      rintro ⟨c, hc, hIn, hBefore⟩
      by_cases hEq : c = b
      · rw [hEq] at hIn
        omega
      · -- The first block is in front of all others.
        obtain ⟨rest, hList⟩ := List.head?_eq_some_iff.mp hFront
        have hSpaced := h.blocks.spaced
        rw [hList] at hc hSpaced
        rcases List.mem_cons.mp hc with hFirst | hLater
        · exact hEq hFirst
        · have hGap := (spaced_cons.mp hSpaced).2.1 c hLater
          omega

/-- An arrival that stops in front keeps the state exact. -/
theorem Exact.arrive (hExact : r.Exact) (h : r.WellFormed) {seg : IrnSegment}
    (hStops : r.StopsInFront seg) (now : Nat) : (r.arrive cfg seg now).Exact := by
  rcases arrive_cases cfg r seg now with
    ⟨hStart, hReach, hExpected, hSack⟩ | ⟨hAbove, hExpected, hSack⟩ | ⟨hDuplicate, hSame⟩
  · obtain ⟨hPrefix, hLe⟩ := hExact.advance_prefixEnd h hStart hReach hStops
    refine ⟨?_, ?_, ?_⟩
    · rw [received_arrive, hExpected]
      exact hPrefix
    · rw [received_arrive, hExpected, hSack, (h.blocks.discardUpTo _).1, hExact.sack]
      ext x
      simp only [Set.mem_sdiff, Set.mem_union, Set.mem_Iio, mem_cells]
      constructor
      · exact fun hx => ⟨Or.inr hx.1.1, hx.2⟩
      · rintro ⟨hIn | hOld, hLater⟩
        · omega
        · exact ⟨⟨hOld, by omega⟩, hLater⟩
    · rw [hExpected]
      exact hReach.trans hLe
  · have hCover : covered (r.arrive cfg seg now).q.irnSack =
        covered r.q.irnSack ∪ Block.cells (seg.seq, seg.size) := by
      rcases hSack with ⟨hSame, hKnown⟩ | hNew
      · -- A held segment adds nothing.
        rw [hSame]
        symm
        rw [Set.union_eq_left]
        intro x hx
        have hSize : 0 < seg.size := by
          simp only [mem_cells] at hx
          omega
        exact (h.blocks.blockExists_iff hSize seg.fits).mp hKnown hx
      · rw [hNew]
        exact (h.blocks.sack seg.fits).1
    refine ⟨?_, ?_, ?_⟩
    · rw [received_arrive, hExpected]
      refine ⟨fun x hx => Or.inr (hExact.expected.below x hx), ?_⟩
      rintro (hIn | hOld)
      · simp only [mem_cells] at hIn
        omega
      · exact hExact.expected.next hOld
    · rw [received_arrive, hExpected, hCover, hExact.sack]
      ext x
      simp only [Set.mem_sdiff, Set.mem_union, Set.mem_Iio, mem_cells]
      constructor
      · rintro (hOld | hIn)
        · exact ⟨Or.inr hOld.1, hOld.2⟩
        · exact ⟨Or.inl hIn, by omega⟩
      · rintro ⟨hIn | hOld, hLater⟩
        · exact Or.inr hIn
        · exact Or.inl ⟨hOld, hLater⟩
    · exact Nat.le_of_eq hExpected.symm
  · have hWhole : (r.arrive cfg seg now).received = r.received := by
      rw [received_arrive, Set.union_eq_right]
      intro x hx
      simp only [mem_cells] at hx
      exact hExact.expected.below x (by omega)
    refine ⟨?_, ?_, ?_⟩
    · rw [hWhole, hSame]
      exact hExact.expected
    · rw [hWhole, hSame]
      exact hExact.sack
    · rw [hSame]
      exact Nat.le_refl _

/-- An arrival keeps an exact state exact if and only if it stops in front. -/
theorem Exact.arrive_iff (hExact : r.Exact) (h : r.WellFormed) (seg : IrnSegment) (now : Nat) :
    (r.arrive cfg seg now).Exact ↔ r.StopsInFront seg := by
  constructor
  · intro hAfter hStart b hFront
    by_contra hPast
    have hFirst := hExact.lt_front h hFront
    rcases arrive_cases cfg r seg now with
      ⟨-, hReach, hExpected, -⟩ | ⟨hAbove, -, -⟩ | ⟨hDuplicate, -⟩
    · rw [IrnRxQueuePair.advance_eq hStart hReach h.blocks, hFront] at hExpected
      simp only at hExpected
      rw [if_pos (by omega)] at hExpected
      -- The byte behind the block has arrived with the segment.
      apply hAfter.expected.next
      rw [received_arrive, hExpected]
      exact Or.inl ⟨by simp only; omega, by simp only; omega⟩
    · omega
    · omega
  · exact fun hStops => hExact.arrive h hStops now

end IrnArrivals

/-! ## Runs -/

theorem irnArrivals_total (cfg : IrnConfig) (r : IrnArrivals) (es : List (IrnSegment × Nat)) :
    ((irnArrivals cfg).run r es).isSome := by
  induction es generalizing r with
  | nil => rfl
  | cons e es ih => exact ih (r.arrive cfg e.1 e.2)

/-- The state is exact throughout a run exactly if every segment of the run that starts at or below
the expected number stops at or before the end of the first block. -/
theorem receiver_check_seq_exact_iff (cfg : IrnConfig) (es : List (IrnSegment × Nat)) :
    (irnArrivals cfg).Throughout IrnArrivals.Exact {} es ↔
      (irnArrivals cfg).Guarded (fun r e => r.StopsInFront e.1) {} es := by
  refine Machine.throughout_iff_guarded (C := fun _ _ => True) (J := IrnArrivals.WellFormed)
    ?_ ?_ IrnArrivals.wellFormed_init IrnArrivals.exact_init
    (Machine.guarded_true _ _ _) (irnArrivals_total cfg {} es)
  · intro r e t h _ hStep
    obtain rfl := Option.some.inj hStep
    exact h.arrive e.1 e.2
  · intro r e t h hExact _ hStep
    obtain rfl := Option.some.inj hStep
    exact hExact.arrive_iff h e.1 e.2

/-- Bytes 10 and 11 arrive, and then bytes 0 to 19: the receiver expects byte 12, which it has. -/
theorem receiver_check_seq_falls_back :
    ¬ ∀ cfg es, (irnArrivals cfg).Throughout IrnArrivals.Exact {} es := by
  intro hAll
  have hRun := hAll ⟨20, 20, 20, false, 1, 0⟩ [(⟨10, 2, by decide⟩, 0), (⟨0, 20, by decide⟩, 0)]
  have hEnd := (hRun.2 _ rfl).2 _ rfl
  have hExpected := hEnd.expected.next
  revert hExpected
  rw [imp_false, not_not]
  exact ⟨(0, 20), List.mem_cons_self, by decide +kernel, by decide +kernel⟩

end Dpdq.Ns3
