import Dpdq.Lib.Machine
import Dpdq.Ns3.IrnSackManager

/-!
# The block list of IRN as a set of bytes

From the empty list, `sack` and `discardUpTo` keep the blocks in order and apart (`Spaced 1`): the
list holds the maximal intervals of the set that it covers. On such lists `sack` adds exactly its
segment, `discardUpTo` removes exactly what lies below its argument and counts it, and
`blockExists` decides whether the set contains a segment (`sack_manager_byte_set`).
-/

namespace Dpdq.Ns3

open Dpdq.Lib

namespace IrnSackManager

variable {bound : Nat}

/-! ## `sack` -/

/-- A segment in front of all blocks reaches the merge pass. -/
theorem sackLoop_merges (hBound : bound < 2 ^ 32) (bs : List Block) (seq sz : Nat)
    (hbs : Within bound bs) (h : Spaced 1 bs) (hSeg : seq + sz ≤ bound)
    (hFront : ∀ b ∈ bs, seq < b.1) : (sackLoop bs seq sz).2 = true := by
  induction bs generalizing seq sz with
  | nil => rfl
  | cons b rest ih =>
    obtain ⟨begin, size⟩ := b
    obtain ⟨hb, hRest⟩ := within_cons.mp hbs
    obtain ⟨hPos, hApart, hTail⟩ := spaced_cons.mp h
    obtain ⟨hFirst, hFrontRest⟩ := List.forall_mem_cons.mp hFront
    have hBlockEnd : addU32 begin size = begin + size := addU32_of_within hBound hb
    have hSeqEnd : addU32 seq sz = seq + sz := addU32_of_lt (Nat.lt_of_le_of_lt hSeg hBound)
    simp only at hb hPos hApart hFirst
    have hBehind (hLt : begin + size < seq + sz) :
        (sackLoop rest (begin + size) (seq + sz - (begin + size))).2 = true := by
      apply ih _ _ hRest hTail (by omega)
      intro c hc
      have hGap := hApart c hc
      omega
    unfold sackLoop
    simp only [hBlockEnd, hSeqEnd]
    split_ifs with hInside hAround hBefore hOverlap hRear
    · omega
    · exact hBehind hAround.2
    · rfl
    · exact hBehind hOverlap.2.2
    · rfl
    · exact ih seq sz hRest hTail hSeg hFrontRest

/-- The loop adds the segment to blocks that are apart, and leaves blocks that do not overlap; it
skips the merge pass only if nothing was added. -/
theorem sackLoop_exact (hBound : bound < 2 ^ 32) (bs : List Block) (seq sz : Nat)
    (hbs : Within bound bs) (h : Spaced 1 bs) (hSeg : seq + sz ≤ bound) (hSz : 0 < sz) :
    covered (sackLoop bs seq sz).1 = covered bs ∪ Block.cells (seq, sz) ∧
      Spaced 0 (sackLoop bs seq sz).1 ∧
      (∀ lo, lo ≤ seq → (∀ b ∈ bs, lo ≤ b.1) → ∀ b ∈ (sackLoop bs seq sz).1, lo ≤ b.1) ∧
      ((sackLoop bs seq sz).2 = false → (sackLoop bs seq sz).1 = bs) := by
  induction bs generalizing seq sz with
  | nil =>
    unfold sackLoop
    rw [if_pos (Nat.ne_of_gt hSz)]
    refine ⟨by simp, spaced_cons.mpr ⟨hSz, fun _ hIn => absurd hIn List.not_mem_nil, spaced_nil⟩, ?_,
      fun h => by cases h⟩
    intro lo hLo _ b hb
    rw [List.mem_singleton.mp hb]
    exact hLo
  | cons b rest ih =>
    obtain ⟨begin, size⟩ := b
    obtain ⟨hb, hRest⟩ := within_cons.mp hbs
    obtain ⟨hPos, hApart, hTail⟩ := spaced_cons.mp h
    have hBlockEnd : addU32 begin size = begin + size := addU32_of_within hBound hb
    have hSeqEnd : addU32 seq sz = seq + sz := addU32_of_lt (Nat.lt_of_le_of_lt hSeg hBound)
    simp only at hb hPos hApart
    have hOrdered : Spaced 0 ((begin, size) :: rest) := h.mono (Nat.zero_le 1)
    -- Two branches go on behind the block with the tail of the segment.
    have hBehind (hLt : begin + size < seq + sz) :
        covered (sackLoop rest (begin + size) (seq + sz - (begin + size))).1 =
            covered rest ∪ Block.cells (begin + size, seq + sz - (begin + size)) ∧
          Spaced 0 ((begin, size) ::
            (sackLoop rest (begin + size) (seq + sz - (begin + size))).1) ∧
          (∀ b ∈ (sackLoop rest (begin + size) (seq + sz - (begin + size))).1,
            begin + size ≤ b.1) ∧
          (sackLoop rest (begin + size) (seq + sz - (begin + size))).2 = true := by
      obtain ⟨hCover, hSpaced, hStarts, -⟩ := ih (begin + size) (seq + sz - (begin + size)) hRest
        hTail (by omega) (by omega)
      have hFrom := hStarts (begin + size) (Nat.le_refl _) fun c hc => by
        have hGap := hApart c hc
        omega
      refine ⟨hCover, spaced_cons.mpr ⟨hPos, hFrom, hSpaced⟩, hFrom, ?_⟩
      apply sackLoop_merges hBound rest _ _ hRest hTail (by omega)
      intro c hc
      have hGap := hApart c hc
      omega
    unfold sackLoop
    simp only [hBlockEnd, hSeqEnd]
    split_ifs with hInside hAround hBefore hOverlap hRear
    · refine ⟨?_, hOrdered, fun lo _ hStarts => hStarts, fun _ => rfl⟩
      ext x
      simp only [covered_cons, Set.mem_union, mem_cells]
      grind
    · obtain ⟨hCover, hSpaced, hFrom, hMerges⟩ := hBehind hAround.2
      refine ⟨?_, ?_, ?_, fun hSkips => ?_⟩
      · ext x
        simp only [covered_cons, hCover, Set.mem_union, mem_cells]
        grind
      · refine spaced_cons.mpr ⟨Nat.sub_pos_of_lt hAround.1, ?_, hSpaced⟩
        refine List.forall_mem_cons.mpr ⟨by simp only; omega, fun c hc => ?_⟩
        have hBack := hFrom c hc
        simp only
        omega
      · intro lo hLo hStarts
        refine List.forall_mem_cons.mpr ⟨hLo, List.forall_mem_cons.mpr ⟨by simp only; omega, ?_⟩⟩
        intro c hc
        have hBack := hFrom c hc
        omega
      · rw [hMerges] at hSkips
        cases hSkips
    · refine ⟨?_, ?_, ?_, fun h => by cases h⟩
      · rw [covered_cons]
        exact Set.union_comm _ _
      · refine spaced_cons.mpr ⟨hSz, ?_, hOrdered⟩
        refine List.forall_mem_cons.mpr ⟨hBefore.2, fun c hc => ?_⟩
        have hGap := hApart c hc
        simp only
        omega
      · intro lo hLo hStarts
        exact List.forall_mem_cons.mpr ⟨hLo, hStarts⟩
    · obtain ⟨hCover, hSpaced, hFrom, hMerges⟩ := hBehind hOverlap.2.2
      refine ⟨?_, hSpaced, ?_, fun hSkips => ?_⟩
      · ext x
        simp only [covered_cons, hCover, Set.mem_union, mem_cells]
        grind
      · intro lo hLo hStarts
        obtain ⟨hFirst, -⟩ := List.forall_mem_cons.mp hStarts
        refine List.forall_mem_cons.mpr ⟨hFirst, fun c hc => ?_⟩
        have hBack := hFrom c hc
        simp only at hFirst
        omega
      · rw [hMerges] at hSkips
        cases hSkips
    · refine ⟨?_, ?_, ?_, nofun⟩
      · ext x
        simp only [covered_cons, Set.mem_union, mem_cells]
        grind
      · refine spaced_cons.mpr ⟨Nat.sub_pos_of_lt hRear.1, ?_, hOrdered⟩
        refine List.forall_mem_cons.mpr ⟨by simp only; omega, fun c hc => ?_⟩
        have hGap := hApart c hc
        simp only
        omega
      · intro lo hLo hStarts
        exact List.forall_mem_cons.mpr ⟨hLo, hStarts⟩
    · obtain ⟨hCover, hSpaced, hStarts, hSame⟩ := ih seq sz hRest hTail hSeg hSz
      refine ⟨?_, ?_, ?_, fun hSkips => ?_⟩
      · rw [covered_cons, covered_cons, hCover, Set.union_assoc]
      · refine spaced_cons.mpr ⟨hPos, ?_, hSpaced⟩
        apply hStarts (begin + size) (by omega)
        intro c hc
        have hGap := hApart c hc
        omega
      · intro lo hLo hAll
        obtain ⟨hFirst, hOthers⟩ := List.forall_mem_cons.mp hAll
        exact List.forall_mem_cons.mpr ⟨hFirst, hStarts lo hLo hOthers⟩
      · rw [hSame hSkips]

/-- Joining neighbours sets the blocks apart. -/
theorem mergeBlocks_spaced (hBound : bound < 2 ^ 32) (bs : List Block) (hbs : Within bound bs)
    (h : Spaced 0 bs) : Spaced 1 (mergeBlocks bs) ∧
      ∀ lo, (∀ b ∈ bs, lo ≤ b.1) → ∀ b ∈ mergeBlocks bs, lo ≤ b.1 := by
  fun_induction mergeBlocks bs with
  | case1 => exact ⟨spaced_nil, fun lo _ _ hIn => absurd hIn List.not_mem_nil⟩
  | case2 b =>
    obtain ⟨hPos, -, -⟩ := spaced_cons.mp h
    exact ⟨spaced_cons.mpr ⟨hPos, fun _ hIn => absurd hIn List.not_mem_nil, spaced_nil⟩,
      fun lo hStarts => hStarts⟩
  | case3 b c rest hNeighbour ih =>
    obtain ⟨hb, hcRest⟩ := within_cons.mp hbs
    obtain ⟨hc, hRest⟩ := within_cons.mp hcRest
    obtain ⟨hPos, hHead, hTail⟩ := spaced_cons.mp h
    obtain ⟨hPosC, hHeadC, hTailC⟩ := spaced_cons.mp hTail
    rw [addU32_of_within hBound hb] at hNeighbour
    have hSize : addU32 b.2 c.2 = b.2 + c.2 := addU32_of_lt (by omega)
    have hJoined : Spaced 0 ((b.1, addU32 b.2 c.2) :: rest) := by
      refine spaced_cons.mpr ⟨by simp only [hSize]; omega, fun d hd => ?_, hTailC⟩
      have hGap := hHeadC d hd
      simp only [hSize]
      omega
    obtain ⟨hSpaced, hStarts⟩ := ih (within_cons.mpr ⟨by simp only [hSize]; omega, hRest⟩) hJoined
    refine ⟨hSpaced, fun lo hAll => hStarts lo ?_⟩
    obtain ⟨hFirst, hOthers⟩ := List.forall_mem_cons.mp hAll
    exact List.forall_mem_cons.mpr ⟨hFirst, (List.forall_mem_cons.mp hOthers).2⟩
  | case4 b c rest hApart ih =>
    obtain ⟨hb, hcRest⟩ := within_cons.mp hbs
    obtain ⟨hPos, hHead, hTail⟩ := spaced_cons.mp h
    obtain ⟨hPosC, hHeadC, hTailC⟩ := spaced_cons.mp hTail
    obtain ⟨hSpaced, hStarts⟩ := ih hcRest hTail
    rw [addU32_of_within hBound hb] at hApart
    have hFirst := hHead c List.mem_cons_self
    refine ⟨spaced_cons.mpr ⟨hPos, ?_, hSpaced⟩, ?_⟩
    · apply hStarts
      refine List.forall_mem_cons.mpr ⟨by omega, fun d hd => ?_⟩
      have hGap := hHeadC d hd
      omega
    · intro lo hAll
      obtain ⟨hLo, hOthers⟩ := List.forall_mem_cons.mp hAll
      exact List.forall_mem_cons.mpr ⟨hLo, hStarts lo hOthers⟩

/-- `sack` adds exactly its segment. -/
theorem sack_exact (hBound : bound < 2 ^ 32) {bs : List Block} {seq sz : Nat}
    (hbs : Within bound bs) (h : Spaced 1 bs) (hSeg : seq + sz ≤ bound) :
    covered (sack bs seq sz) = covered bs ∪ Block.cells (seq, sz) ∧ Spaced 1 (sack bs seq sz) := by
  unfold sack
  split
  · rename_i hNone
    refine ⟨?_, h⟩
    ext x
    simp only [Set.mem_union, mem_cells, hNone]
    grind
  · rename_i hSz
    obtain ⟨hCover, hSpaced, -, hSame⟩ :=
      sackLoop_exact hBound bs seq sz hbs h hSeg (Nat.pos_of_ne_zero hSz)
    obtain ⟨-, hWithin⟩ := sackLoop_spec hBound bs seq sz hbs hSeg
    simp only
    split
    · obtain ⟨hMerge, -⟩ := mergeBlocks_spec hBound _ hWithin
      exact ⟨hMerge.trans hCover, (mergeBlocks_spaced hBound _ hWithin hSpaced).1⟩
    · rename_i hSkips
      rw [← hCover]
      refine ⟨rfl, ?_⟩
      rw [hSame (Bool.eq_false_iff.mpr hSkips)]
      exact h

/-! ## `discardUpTo` and `blockExists` -/

/-- `discardUpTo` removes exactly what lies below its argument, and counts it. -/
theorem discardUpTo_exact (hBound : bound < 2 ^ 32) {bs : List Block} (cumAck : Nat)
    (hbs : Within bound bs) (h : Spaced 1 bs) :
    covered (discardUpTo bs cumAck).1 = covered bs \ Set.Iio cumAck ∧
      (discardUpTo bs cumAck).2 = (covered bs ∩ Set.Iio cumAck).ncard ∧
      Spaced 1 (discardUpTo bs cumAck).1 := by
  induction bs with
  | nil =>
    unfold discardUpTo
    simp [spaced_nil]
  | cons b rest ih =>
    obtain ⟨begin, size⟩ := b
    obtain ⟨hb, hRest⟩ := within_cons.mp hbs
    obtain ⟨hPos, hApart, hTail⟩ := spaced_cons.mp h
    have hBlockEnd : addU32 begin size = begin + size := addU32_of_within hBound hb
    simp only at hb hPos hApart
    have hLater (x : Nat) (hx : x ∈ covered rest) : begin + size < x := by
      obtain ⟨c, hc, hStart, -⟩ := hx
      have hGap := hApart c hc
      omega
    unfold discardUpTo
    rw [hBlockEnd]
    split_ifs with hWhole hPart
    · obtain ⟨hCover, hCount, hSpaced⟩ := ih hRest hTail
      refine ⟨?_, ?_, hSpaced⟩
      · rw [hCover]
        ext x
        simp only [covered_cons, Set.mem_sdiff, Set.mem_union, mem_cells, Set.mem_Iio]
        constructor
        · exact fun hx => ⟨Or.inr hx.1, hx.2⟩
        · rintro ⟨hBlock | hIn, hAbove⟩
          · omega
          · exact ⟨hIn, hAbove⟩
      · have hSplit : covered ((begin, size) :: rest) ∩ Set.Iio cumAck =
            Block.cells (begin, size) ∪ covered rest ∩ Set.Iio cumAck := by
          ext x
          simp only [covered_cons, Set.mem_inter_iff, Set.mem_union, mem_cells, Set.mem_Iio]
          constructor
          · rintro ⟨hBlock | hIn, hBelow⟩
            · exact Or.inl hBlock
            · exact Or.inr ⟨hIn, hBelow⟩
          · rintro (hBlock | hIn)
            · exact ⟨Or.inl hBlock, by omega⟩
            · exact ⟨Or.inr hIn.1, hIn.2⟩
        have hDisjoint : Disjoint (Block.cells (begin, size)) (covered rest ∩ Set.Iio cumAck) := by
          rw [Set.disjoint_left]
          intro x hBlock hIn
          have hBack := hLater x hIn.1
          simp only [mem_cells] at hBlock
          omega
        simp only
        rw [hSplit, Set.ncard_union_eq hDisjoint (finite_cells _)
          ((finite_covered rest).inter_of_left _), ncard_cells, hCount]
    · refine ⟨?_, ?_, spaced_cons.mpr ⟨?_, ?_, hTail⟩⟩
      · ext x
        simp only [covered_cons, Set.mem_sdiff, Set.mem_union, mem_cells, Set.mem_Iio]
        constructor
        · rintro (hBlock | hIn)
          · exact ⟨Or.inl (by omega), by omega⟩
          · have hBack := hLater x hIn
            exact ⟨Or.inr hIn, by omega⟩
        · rintro ⟨hBlock | hIn, hAbove⟩
          · exact Or.inl (by omega)
          · exact Or.inr hIn
      · have hPartOf : covered ((begin, size) :: rest) ∩ Set.Iio cumAck =
            Block.cells (begin, cumAck - begin) := by
          ext x
          simp only [covered_cons, Set.mem_inter_iff, Set.mem_union, mem_cells, Set.mem_Iio]
          constructor
          · rintro ⟨hBlock | hIn, hBelow⟩
            · omega
            · have hBack := hLater x hIn
              omega
          · intro hBlock
            exact ⟨Or.inl (by omega), by omega⟩
        rw [hPartOf, ncard_cells]
      · simp only
        omega
      · intro c hc
        have hGap := hApart c hc
        simp only
        omega
    · have hNone : ∀ x ∈ covered ((begin, size) :: rest), ¬ x < cumAck := by
        intro x hx
        rw [covered_cons] at hx
        rcases hx with hBlock | hIn
        · simp only [mem_cells] at hBlock
          omega
        · have hBack := hLater x hIn
          omega
      refine ⟨?_, ?_, h⟩
      · ext x
        exact ⟨fun hx => ⟨hx, hNone x hx⟩, fun hx => hx.1⟩
      · have hEmpty : covered ((begin, size) :: rest) ∩ Set.Iio cumAck = ∅ := by
          ext x
          exact ⟨fun hx => hNone x hx.1 hx.2, nofun⟩
        rw [hEmpty, Set.ncard_empty]

/-- `blockExists` decides whether the set contains a segment. -/
theorem blockExists_iff (hBound : bound < 2 ^ 32) {bs : List Block} {seq size : Nat}
    (hbs : Within bound bs) (h : Spaced 1 bs) (hSeg : seq + size ≤ bound) (hSize : 0 < size) :
    blockExists bs seq size = true ↔ Block.cells (seq, size) ⊆ covered bs := by
  have hSeqEnd : addU32 seq size = seq + size := addU32_of_lt (Nat.lt_of_le_of_lt hSeg hBound)
  rw [h.cells_subset_iff (b := (seq, size)) hSize]
  unfold blockExists
  rw [List.any_eq_true]
  constructor
  · rintro ⟨b, hb, hIn⟩
    rw [decide_eq_true_eq, hSeqEnd, addU32_of_within hBound (hbs b hb)] at hIn
    exact ⟨b, hb, hIn⟩
  · rintro ⟨b, hb, hIn⟩
    refine ⟨b, hb, ?_⟩
    rw [decide_eq_true_eq, hSeqEnd, addU32_of_within hBound (hbs b hb)]
    exact hIn

/-! ## Runs -/

/-- A list that `sack` and `discardUpTo` may leave: sorted, without empty blocks, and with a gap
between any two. -/
structure Canonical (bs : List Block) : Prop where
  within : Within (2 ^ 32 - 1) bs
  spaced : Spaced 1 bs

theorem canonical_nil : Canonical [] := ⟨within_nil _, spaced_nil⟩

theorem Canonical.sack {bs : List Block} (h : Canonical bs) {seq sz : Nat}
    (hSeg : seq + sz < 2 ^ 32) :
    covered (sack bs seq sz) = covered bs ∪ Block.cells (seq, sz) ∧
      Canonical (IrnSackManager.sack bs seq sz) := by
  have hEnd : seq + sz ≤ 2 ^ 32 - 1 := by omega
  obtain ⟨hCover, hSpaced⟩ := sack_exact (by omega) h.within h.spaced hEnd
  exact ⟨hCover, (sack_spec (by omega) bs seq sz h.within fun _ => hEnd).2, hSpaced⟩

theorem Canonical.discardUpTo {bs : List Block} (h : Canonical bs) (cumAck : Nat) :
    covered (discardUpTo bs cumAck).1 = covered bs \ Set.Iio cumAck ∧
      (discardUpTo bs cumAck).2 = (covered bs ∩ Set.Iio cumAck).ncard ∧
      Canonical (IrnSackManager.discardUpTo bs cumAck).1 := by
  obtain ⟨hCover, hCount, hSpaced⟩ := discardUpTo_exact (by omega) cumAck h.within h.spaced
  exact ⟨hCover, hCount, (discardUpTo_spec (by omega) bs cumAck h.within).2, hSpaced⟩

theorem Canonical.blockExists_iff {bs : List Block} (h : Canonical bs) {seq size : Nat}
    (hSize : 0 < size) (hSeg : seq + size < 2 ^ 32) :
    blockExists bs seq size = true ↔ Block.cells (seq, size) ⊆ covered bs := by
  have hEnd : seq + size ≤ 2 ^ 32 - 1 := by omega
  exact IrnSackManager.blockExists_iff (by omega) h.within h.spaced hEnd hSize

end IrnSackManager

/-- The calls on a block list that change it. -/
inductive SackEvent where
  | sack (seq sz : Nat) (hSz : 0 < sz) (hFits : seq + sz < 2 ^ 32)
  | discardUpTo (cumAck : Nat)

def irnSackManager : Machine (List Block) SackEvent where
  init := []
  step bs
    | .sack seq sz _ _ => some (IrnSackManager.sack bs seq sz)
    | .discardUpTo cumAck => some (IrnSackManager.discardUpTo bs cumAck).1

theorem canonical_of_reachable {bs : List Block} (h : irnSackManager.Reachable bs) :
    IrnSackManager.Canonical bs := by
  refine Machine.reachable_induction IrnSackManager.canonical_nil ?_ h
  intro bs e bs' hBs hStep
  cases e with
  | sack seq sz hSz hFits =>
    obtain rfl := Option.some.inj hStep
    exact (hBs.sack hFits).2
  | discardUpTo cumAck =>
    obtain rfl := Option.some.inj hStep
    exact (hBs.discardUpTo cumAck).2.2

/-- Every reachable list is canonical, and the operations are those of a set of bytes. -/
theorem sack_manager_byte_set {bs : List Block} (hReach : irnSackManager.Reachable bs) :
    Spaced 1 bs ∧
      (∀ seq sz, 0 < sz → seq + sz < 2 ^ 32 →
        covered (IrnSackManager.sack bs seq sz) = covered bs ∪ Block.cells (seq, sz) ∧
          Spaced 1 (IrnSackManager.sack bs seq sz)) ∧
      (∀ cumAck, covered (IrnSackManager.discardUpTo bs cumAck).1 = covered bs \ Set.Iio cumAck ∧
        (IrnSackManager.discardUpTo bs cumAck).2 = (covered bs ∩ Set.Iio cumAck).ncard) ∧
      ∀ seq size, 0 < size → seq + size < 2 ^ 32 →
        (IrnSackManager.blockExists bs seq size = true ↔
          Block.cells (seq, size) ⊆ covered bs) := by
  have hBs := canonical_of_reachable hReach
  refine ⟨hBs.spaced, ?_, ?_, ?_⟩
  · intro seq sz hSz hFits
    obtain ⟨hCover, hCanonical⟩ := hBs.sack hFits
    exact ⟨hCover, hCanonical.spaced⟩
  · intro cumAck
    obtain ⟨hCover, hCount, -⟩ := hBs.discardUpTo cumAck
    exact ⟨hCover, hCount⟩
  · intro seq size hSize hFits
    exact hBs.blockExists_iff hSize hFits

/-- A segment around one block and into a second one joins all three. -/
theorem sack_manager_byte_set_joined :
    irnSackManager.Reachable [(5, 10), (20, 5)] ∧
      covered (IrnSackManager.sack [(5, 10), (20, 5)] 0 22) =
        covered [(5, 10), (20, 5)] ∪ Block.cells (0, 22) ∧
      IrnSackManager.sack [(5, 10), (20, 5)] 0 22 = [(0, 25)] := by
  have hReach : irnSackManager.Reachable [(5, 10), (20, 5)] :=
    ⟨[.sack 20 5 (by decide) (by decide), .sack 5 10 (by decide) (by decide)], by decide +kernel⟩
  exact ⟨hReach, ((sack_manager_byte_set hReach).2.1 0 22 (by decide) (by decide)).1,
    by decide +kernel⟩

end Dpdq.Ns3
