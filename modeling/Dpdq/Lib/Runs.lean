import Mathlib.Data.List.Basic

/-!
# Maximal runs

A run of a predicate below `n` is a start and a length. A scan from left to right lists the maximal
runs: it closes the open run where the predicate fails, and `Scanned` says what it has at each
position.

* `ListsRuns.unique`: there is only one increasing list of the maximal runs.
* `Scanned.extend`, `Scanned.close`, `Scanned.listsRuns`: the steps and the end of the scan.
-/

namespace Dpdq.Lib

variable {p : Nat → Prop} {n : Nat}

/-- `r.2` positions from `r.1` on, below `n`, that cannot be extended on either side. -/
structure MaximalRun (p : Nat → Prop) (n : Nat) (r : Nat × Nat) : Prop where
  pos : 0 < r.2
  within : r.1 + r.2 ≤ n
  holds : ∀ i, r.1 ≤ i → i < r.1 + r.2 → p i
  before : 0 < r.1 → ¬ p (r.1 - 1)
  after : r.1 + r.2 < n → ¬ p (r.1 + r.2)

/-- A list of all maximal runs, from left to right and apart from each other. -/
structure ListsRuns (p : Nat → Prop) (n : Nat) (rs : List (Nat × Nat)) : Prop where
  mem : ∀ r, r ∈ rs ↔ MaximalRun p n r
  increasing : rs.Pairwise fun r s => r.1 + r.2 < s.1

/-! ## Two runs -/

/-- A maximal run starts where it must. -/
theorem MaximalRun.start_le {r s : Nat × Nat} (hr : MaximalRun p n r) (hs : MaximalRun p n s)
    (hLast : r.1 < s.1 + s.2) : r.1 ≤ s.1 := by
  by_contra hLess
  apply hr.before (by omega)
  exact hs.holds _ (by omega) (by omega)

/-- Two maximal runs that end at the same position are the same. -/
theorem MaximalRun.eq_of_end {r s : Nat × Nat} (hr : MaximalRun p n r) (hs : MaximalRun p n s)
    (hEnd : r.1 + r.2 = s.1 + s.2) : r = s := by
  have hrPos := hr.pos
  have hsPos := hs.pos
  have hLe := hr.start_le hs (by omega)
  have hGe := hs.start_le hr (by omega)
  ext
  · omega
  · omega

/-- A maximal run that ends earlier ends in front of the other one. -/
theorem MaximalRun.end_lt {r s : Nat × Nat} (hr : MaximalRun p n r) (hs : MaximalRun p n s)
    (hEnd : r.1 + r.2 < s.1 + s.2) : r.1 + r.2 < s.1 := by
  have hWithin := hs.within
  by_contra hMeet
  apply hr.after (by omega)
  exact hs.holds _ (by omega) hEnd

/-- The list is determined by the predicate and the bound. -/
theorem ListsRuns.unique {rs ss : List (Nat × Nat)} (hr : ListsRuns p n rs)
    (hs : ListsRuns p n ss) : rs = ss := by
  have hNodup {ts : List (Nat × Nat)} (ht : ListsRuns p n ts) : ts.Nodup := by
    apply ht.increasing.imp
    rintro r s hApart rfl
    omega
  have hPerm : rs.Perm ss := by
    apply (List.perm_ext_iff_of_nodup (hNodup hr) (hNodup hs)).mpr
    intro r
    rw [hr.mem, hs.mem]
  apply hPerm.eq_of_pairwise ?_ hr.increasing hs.increasing
  intro r s _ _ hLess hGreater
  omega

/-! ## The scan -/

/-- A scan that has passed `i` positions. `rs` are the runs that it has closed, and the last `len`
positions from `start` on are the open run. -/
structure Scanned (p : Nat → Prop) (i : Nat) (rs : List (Nat × Nat)) (start len : Nat) : Prop where
  closed : ∀ r, r ∈ rs ↔ MaximalRun p i r ∧ r.1 + r.2 < i
  increasing : rs.Pairwise fun r s => r.1 + r.2 < s.1
  opened : 0 < len → MaximalRun p i (start, len) ∧ start + len = i
  shut : len = 0 → 0 < i → ¬ p (i - 1)

/-- The closed runs and the open one. -/
def flushRun (rs : List (Nat × Nat)) (start len : Nat) : List (Nat × Nat) :=
  if 0 < len then rs ++ [(start, len)] else rs

theorem scanned_zero (start : Nat) : Scanned p 0 [] start 0 where
  closed _ := iff_of_false List.not_mem_nil fun h => absurd h.2 (Nat.not_lt_zero _)
  increasing := List.Pairwise.nil
  opened := nofun
  shut := nofun

namespace Scanned

variable {i start len : Nat} {rs : List (Nat × Nat)}

/-- The closed runs and the open one are the maximal runs so far. -/
theorem listsRuns (h : Scanned p i rs start len) : ListsRuns p i (flushRun rs start len) := by
  have hEnds (r : Nat × Nat) (hr : MaximalRun p i r) (hEnd : r.1 + r.2 = i) :
      0 < len ∧ r = (start, len) := by
    rcases Nat.eq_zero_or_pos len with hNone | hSome
    · have hPos := hr.pos
      refine absurd ?_ (h.shut hNone (by omega))
      exact hr.holds _ (by omega) (by omega)
    · obtain ⟨hRun, hOpen⟩ := h.opened hSome
      exact ⟨hSome, hr.eq_of_end hRun (hEnd.trans hOpen.symm)⟩
  unfold flushRun
  split
  · rename_i hSome
    obtain ⟨hRun, hOpen⟩ := h.opened hSome
    constructor
    · intro r
      rw [List.mem_append, List.mem_singleton, h.closed]
      constructor
      · rintro (hr | rfl)
        · exact hr.1
        · exact hRun
      · intro hr
        rcases Nat.lt_or_eq_of_le hr.within with hLess | hEnd
        · exact Or.inl ⟨hr, hLess⟩
        · exact Or.inr (hEnds r hr hEnd).2
    · apply List.pairwise_append.mpr
      refine ⟨h.increasing, List.pairwise_singleton _ _, ?_⟩
      intro r hr s hs
      obtain rfl := List.mem_singleton.mp hs
      obtain ⟨hMax, hLess⟩ := (h.closed r).mp hr
      exact hMax.end_lt hRun (Nat.lt_of_lt_of_eq hLess hOpen.symm)
  · rename_i hNone
    refine ⟨fun r => ?_, h.increasing⟩
    rw [h.closed]
    refine ⟨And.left, fun hr => ⟨hr, ?_⟩⟩
    rcases Nat.lt_or_eq_of_le hr.within with hLess | hEnd
    · exact hLess
    · exact absurd (hEnds r hr hEnd).1 hNone

/-- The predicate holds at the next position. -/
theorem extend (h : Scanned p i rs start len) (hp : p i) :
    Scanned p (i + 1) rs (if len = 0 then i else start) (len + 1) := by
  constructor
  · intro r
    rw [h.closed]
    constructor
    · rintro ⟨hr, hLess⟩
      refine ⟨⟨hr.pos, ?_, hr.holds, hr.before, fun _ => hr.after hLess⟩, ?_⟩
      · omega
      · omega
    · rintro ⟨hr, hLess⟩
      have hEnd : r.1 + r.2 ≠ i := by
        intro hEq
        exact hr.after hLess (hEq ▸ hp)
      refine ⟨⟨hr.pos, ?_, hr.holds, hr.before, fun _ => hr.after hLess⟩, ?_⟩
      · omega
      · omega
  · exact h.increasing
  · intro _
    rcases Nat.eq_zero_or_pos len with hNone | hSome
    · rw [if_pos hNone, hNone]
      refine ⟨⟨Nat.one_pos, Nat.le_refl _, ?_, h.shut hNone, ?_⟩, rfl⟩
      · intro j hj hj'
        obtain rfl : j = i := by omega
        exact hp
      · exact fun hLess => absurd hLess (Nat.lt_irrefl _)
    · obtain ⟨hRun, hOpen⟩ := h.opened hSome
      rw [if_neg (by omega)]
      refine ⟨⟨Nat.succ_pos _, ?_, ?_, hRun.before, ?_⟩, ?_⟩
      · omega
      · intro j hj hj'
        rcases Nat.lt_or_eq_of_le (Nat.le_of_lt_succ hj') with hOld | hNew
        · exact hRun.holds j hj hOld
        · obtain rfl : j = i := hNew.trans hOpen
          exact hp
      · omega
      · omega
  · intro hNone
    omega

/-- The predicate fails at the next position, and the open run is closed. -/
theorem close (h : Scanned p i rs start len) (hp : ¬ p i) (start' : Nat) :
    Scanned p (i + 1) (flushRun rs start len) start' 0 := by
  obtain ⟨hMem, hIncreasing⟩ := h.listsRuns
  refine ⟨fun r => ?_, hIncreasing, nofun, fun _ _ => hp⟩
  rw [hMem]
  constructor
  · intro hr
    have hWithin := hr.within
    refine ⟨⟨hr.pos, by omega, hr.holds, hr.before, fun _ => ?_⟩, by omega⟩
    rcases Nat.lt_or_eq_of_le hWithin with hLess | hEnd
    · exact hr.after hLess
    · rw [hEnd]
      exact hp
  · rintro ⟨hr, hLess⟩
    exact ⟨hr.pos, by omega, hr.holds, hr.before, fun _ => hr.after hLess⟩

end Scanned

end Dpdq.Lib
