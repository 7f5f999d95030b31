import Mathlib.Algebra.BigOperators.Group.Finset.Basic
import Mathlib.Algebra.Order.BigOperators.Group.Finset
import Dpdq.Ns2.HybridSender

/-!
# The packets of a message

A message is cut into packets of `maxR2p2Payload` bytes; only the last one may be smaller. What the
packets of a part of the message take on the wire is `add_header_overhead` of that part
(`sum_pktWire`).
-/

namespace Dpdq.Ns2

/-- The payload of a packet, by its number in the message. -/
def pktPayload (totalBytes i : Nat) : Nat := payloadFromOffset totalBytes (i * maxR2p2Payload)

/-- What a packet of a message takes on the wire. -/
def pktWire (totalBytes i : Nat) : Nat := wireBytes (pktPayload totalBytes i)

/-- The end of a packet of the message, or its start. -/
def Aligned (totalBytes bytes : Nat) : Prop :=
  bytes ≤ totalBytes ∧ (bytes % maxR2p2Payload = 0 ∨ bytes = totalBytes)

instance (totalBytes bytes : Nat) : Decidable (Aligned totalBytes bytes) :=
  inferInstanceAs (Decidable (_ ∧ _))

theorem numPkts_eq (bytes : Nat) : numPkts bytes = (bytes + maxR2p2Payload - 1) / maxR2p2Payload := by
  unfold numPkts maxR2p2Payload
  split <;> omega

theorem lt_numPkts {bytes i : Nat} : i < numPkts bytes ↔ i * maxR2p2Payload < bytes := by
  rw [numPkts_eq]
  unfold maxR2p2Payload
  omega

theorem pktPayload_eq (totalBytes i : Nat) :
    pktPayload totalBytes i = min maxR2p2Payload (totalBytes - i * maxR2p2Payload) := by
  unfold pktPayload payloadFromOffset
  split <;> omega

theorem pktPayload_pos {totalBytes i : Nat} (h : i * maxR2p2Payload < totalBytes) :
    0 < pktPayload totalBytes i := by
  rw [pktPayload_eq]
  unfold maxR2p2Payload at h ⊢
  omega

theorem pktPayload_le (totalBytes i : Nat) : pktPayload totalBytes i ≤ maxR2p2Payload := by
  rw [pktPayload_eq]
  exact Nat.min_le_left _ _

/-! ## Bytes -/

theorem sum_pktPayload (totalBytes k : Nat) :
    ∑ i ∈ Finset.range k, pktPayload totalBytes i = min (k * maxR2p2Payload) totalBytes := by
  induction k with
  | zero => simp
  | succ k ih =>
    rw [Finset.sum_range_succ, ih, pktPayload_eq, Nat.succ_mul]
    omega

/-- Packets that hold all bytes are all packets. -/
theorem eq_range_of_sum {totalBytes : Nat} {pkts : Finset Nat}
    (hSub : ∀ i ∈ pkts, i * maxR2p2Payload < totalBytes)
    (hSum : ∑ i ∈ pkts, pktPayload totalBytes i = totalBytes) :
    pkts = Finset.range (numPkts totalBytes) := by
  have hRange : pkts ⊆ Finset.range (numPkts totalBytes) := by
    intro i hi
    rw [Finset.mem_range, lt_numPkts]
    exact hSub i hi
  apply Finset.Subset.antisymm hRange
  intro i hi
  by_contra hMissing
  have hPos : 0 < pktPayload totalBytes i :=
    pktPayload_pos (lt_numPkts.mp (Finset.mem_range.mp hi))
  have hLess := Finset.sum_lt_sum_of_subset hRange hi hMissing hPos fun _ _ _ => Nat.zero_le _
  rw [hSum, sum_pktPayload] at hLess
  omega

theorem sum_pktPayload_all (totalBytes : Nat) :
    ∑ i ∈ Finset.range (numPkts totalBytes), pktPayload totalBytes i = totalBytes := by
  have hCover := lt_numPkts.not.mp (Nat.lt_irrefl (numPkts totalBytes))
  rw [sum_pktPayload]
  omega

/-! ## Bytes on the wire -/

/-- A packet behind full packets. -/
theorem addHeaderOverhead_add {bytes payload : Nat} (hFull : bytes % maxR2p2Payload = 0)
    (hPos : 0 < payload) (hLe : payload ≤ maxR2p2Payload) :
    addHeaderOverhead (bytes + payload) false =
      addHeaderOverhead bytes false + wireBytes payload := by
  simp only [addHeaderOverhead, wireBytes, wireOverhead, r2p2AllHeadersSize, interPktGapSize,
    ethernetPreambleSize, minEthernetFrameOnWire, maxR2p2Payload, Bool.false_eq_true,
    not_false_eq_true, and_true] at hFull hLe ⊢
  rw [if_neg (by omega : ¬ 0 < bytes % 1458)]
  by_cases hAll : payload = 1458
  · rw [if_neg (by omega)]
    omega
  · rw [if_pos (by omega)]
    have hDiv : (bytes + payload) / 1458 = bytes / 1458 := by omega
    have hMod : (bytes + payload) % 1458 = payload := by omega
    rw [hDiv, hMod]

theorem addHeaderOverhead_zero : addHeaderOverhead 0 false = 0 := rfl

/-- A message of full packets has no last packet that could be left out. -/
theorem addHeaderOverhead_of_full {bytes : Nat} (hFull : bytes % maxR2p2Payload = 0)
    (skipLastPktCheck : Bool) :
    addHeaderOverhead bytes skipLastPktCheck = addHeaderOverhead bytes false := by
  unfold addHeaderOverhead
  rw [if_neg (fun h => by omega), if_neg (fun h => by omega)]

theorem sum_pktWire_range {totalBytes k : Nat} (hk : k ≤ numPkts totalBytes) :
    ∑ i ∈ Finset.range k, pktWire totalBytes i =
      addHeaderOverhead (min (k * maxR2p2Payload) totalBytes) false := by
  induction k with
  | zero => simp [addHeaderOverhead_zero]
  | succ k ih =>
    have hStart : k * maxR2p2Payload < totalBytes := lt_numPkts.mp hk
    have hEnd : min ((k + 1) * maxR2p2Payload) totalBytes =
        k * maxR2p2Payload + pktPayload totalBytes k := by
      rw [pktPayload_eq, Nat.succ_mul]
      omega
    rw [Finset.sum_range_succ, ih (by omega), Nat.min_eq_left (by omega), hEnd,
      addHeaderOverhead_add (Nat.mul_mod_left _ _) (pktPayload_pos hStart) (pktPayload_le _ _)]
    rfl

/-- The packets of an aligned part of a message. -/
theorem sum_pktWire {totalBytes bytes : Nat} (h : Aligned totalBytes bytes) :
    ∑ i ∈ Finset.range (numPkts bytes), pktWire totalBytes i = addHeaderOverhead bytes false := by
  obtain ⟨hLe, hEnd⟩ := h
  have hMono : numPkts bytes ≤ numPkts totalBytes := by
    rw [numPkts_eq, numPkts_eq]
    exact Nat.div_le_div_right (by omega)
  have hMin : min (numPkts bytes * maxR2p2Payload) totalBytes = bytes := by
    rw [numPkts_eq]
    unfold maxR2p2Payload at hEnd ⊢
    omega
  rw [sum_pktWire_range hMono, hMin]

/-! ## The packets of the last part -/

/-- The packets of a message from `start` on. -/
def pktsFrom (totalBytes start : Nat) : Finset Nat :=
  (Finset.range (numPkts totalBytes)).filter fun i => start ≤ i * maxR2p2Payload

theorem mem_pktsFrom {totalBytes start i : Nat} :
    i ∈ pktsFrom totalBytes start ↔
      i * maxR2p2Payload < totalBytes ∧ start ≤ i * maxR2p2Payload := by
  rw [pktsFrom, Finset.mem_filter, Finset.mem_range, lt_numPkts]

/-- The packets before `start`, and those from `start` on. -/
theorem sum_pktsFrom {totalBytes start : Nat} (h : start ≤ totalBytes) (f : Nat → Nat) :
    ∑ i ∈ pktsFrom totalBytes start, f i + ∑ i ∈ Finset.range (numPkts start), f i =
      ∑ i ∈ Finset.range (numPkts totalBytes), f i := by
  have hBefore : (Finset.range (numPkts totalBytes)).filter
      (fun i => ¬ start ≤ i * maxR2p2Payload) = Finset.range (numPkts start) := by
    ext i
    rw [Finset.mem_filter, Finset.mem_range, Finset.mem_range, lt_numPkts, lt_numPkts]
    constructor
    · exact fun hi => by omega
    · exact fun hi => ⟨by omega, by omega⟩
  rw [pktsFrom, ← hBefore, Finset.sum_filter_add_sum_filter_not]

theorem sum_pktPayload_from {totalBytes start : Nat} (h : Aligned totalBytes start) :
    ∑ i ∈ pktsFrom totalBytes start, pktPayload totalBytes i + start = totalBytes := by
  obtain ⟨hLe, hEnd⟩ := h
  have hSplit := sum_pktsFrom hLe (pktPayload totalBytes)
  have hMin : min (numPkts start * maxR2p2Payload) totalBytes = start := by
    rw [numPkts_eq]
    simp only [maxR2p2Payload] at hEnd ⊢
    omega
  rw [sum_pktPayload_all, sum_pktPayload, hMin] at hSplit
  exact hSplit

theorem sum_pktWire_from {totalBytes start : Nat} (h : Aligned totalBytes start) :
    ∑ i ∈ pktsFrom totalBytes start, pktWire totalBytes i + addHeaderOverhead start false =
      addHeaderOverhead totalBytes false := by
  have hSplit := sum_pktsFrom h.1 (pktWire totalBytes)
  rwa [sum_pktWire h, sum_pktWire ⟨Nat.le_refl _, Or.inr rfl⟩] at hSplit

/-- Packets that hold all bytes from `start` on are all of these packets. -/
theorem eq_pktsFrom_of_sum {totalBytes start : Nat} (h : Aligned totalBytes start)
    {pkts : Finset Nat} (hSub : pkts ⊆ pktsFrom totalBytes start)
    (hSum : start + ∑ i ∈ pkts, pktPayload totalBytes i = totalBytes) :
    pkts = pktsFrom totalBytes start := by
  apply Finset.Subset.antisymm hSub
  intro i hi
  by_contra hMissing
  have hPos : 0 < pktPayload totalBytes i := pktPayload_pos (mem_pktsFrom.mp hi).1
  have hLess := Finset.sum_lt_sum_of_subset hSub hi hMissing hPos fun _ _ _ => Nat.zero_le _
  have hAll := sum_pktPayload_from h
  omega

/-- What is missing is granted a full packet at a time, as long as it is more than one. -/
theorem exists_missing_pkt {totalBytes : Nat} {missing : Finset Nat} (hSome : missing.Nonempty)
    (hSub : ∀ i ∈ missing, i * maxR2p2Payload < totalBytes) :
    ∃ i ∈ missing, pktPayload totalBytes i =
      min maxR2p2Payload (∑ j ∈ missing, pktPayload totalBytes j) := by
  by_cases hFull : ∃ i ∈ missing, pktPayload totalBytes i = maxR2p2Payload
  · obtain ⟨i, hi, hPayload⟩ := hFull
    have hLe := Finset.single_le_sum (f := pktPayload totalBytes) (fun _ _ => Nat.zero_le _) hi
    exact ⟨i, hi, by omega⟩
  · obtain ⟨i, hi⟩ := hSome
    -- Only the last packet of a message is not full.
    have hLast (j : Nat) (hj : j ∈ missing) : j = totalBytes / maxR2p2Payload := by
      have hLess := hSub j hj
      have hNot : pktPayload totalBytes j ≠ maxR2p2Payload := fun hEq => hFull ⟨j, hj, hEq⟩
      rw [pktPayload_eq] at hNot
      simp only [maxR2p2Payload] at hLess hNot ⊢
      omega
    have hOne : missing = {i} := by
      apply Finset.eq_singleton_iff_unique_mem.mpr
      exact ⟨hi, fun j hj => (hLast j hj).trans (hLast i hi).symm⟩
    refine ⟨i, hi, ?_⟩
    rw [hOne, Finset.sum_singleton, Nat.min_eq_right (pktPayload_le _ _)]

end Dpdq.Ns2
