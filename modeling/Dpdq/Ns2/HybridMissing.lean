import Dpdq.Lib.Runs
import Dpdq.Ns2.HybridChunks
import Dpdq.Ns2.HybridNet

/-!
# The packets that a receiver asks for again

`check_resend_timeouts` goes through the packets that the granted prefix of a message reaches. The
ranges of bytes that it asks for are the maximal runs of those that are missing
(`checkResendTimeout_eq`), and there are none where no more is granted than has been received.
-/

namespace Dpdq.Ns2

open Dpdq.Lib

/-- The bytes of a run of packets; the last packet of the message may be smaller. -/
def runBytes (totalBytes : Nat) (run : Nat × Nat) : Nat × Nat :=
  (run.1 * maxR2p2Payload,
    min ((run.1 + run.2) * maxR2p2Payload) totalBytes - run.1 * maxR2p2Payload)

/-- A range of whole packets. -/
structure IsRange (totalBytes : Nat) (r : Nat × Nat) : Prop where
  start : r.1 % maxR2p2Payload = 0
  pos : 0 < r.2
  aligned : Aligned totalBytes (r.1 + r.2)

theorem isRange_runBytes {totalBytes : Nat} {run : Nat × Nat} (hPos : 0 < run.2)
    (hStart : run.1 * maxR2p2Payload < totalBytes) : IsRange totalBytes (runBytes totalBytes run) := by
  have hLess : run.1 * maxR2p2Payload < (run.1 + run.2) * maxR2p2Payload :=
    Nat.mul_lt_mul_of_pos_right (by omega) (by decide)
  have hSum : (runBytes totalBytes run).1 + (runBytes totalBytes run).2 =
      min ((run.1 + run.2) * maxR2p2Payload) totalBytes := by
    show run.1 * maxR2p2Payload + (min _ totalBytes - run.1 * maxR2p2Payload) = _
    omega
  refine ⟨Nat.mul_mod_left _ _, ?_, ?_⟩
  · show 0 < min _ totalBytes - run.1 * maxR2p2Payload
    omega
  · rw [hSum]
    refine ⟨Nat.min_le_right _ _, ?_⟩
    rcases Nat.le_total ((run.1 + run.2) * maxR2p2Payload) totalBytes with hInside | hLast
    · rw [Nat.min_eq_left hInside]
      exact Or.inl (Nat.mul_mod_left _ _)
    · exact Or.inr (Nat.min_eq_right hLast)

namespace InboundMsgState

/-- The packet has not been received. -/
def Missing (m : InboundMsgState) (i : Nat) : Prop := m.receivedPktBitmap[i]? ≠ some true

instance (m : InboundMsgState) (i : Nat) : Decidable (m.Missing i) :=
  inferInstanceAs (Decidable (¬ _))

/-- The granted prefix of a message. -/
def grantedLimit (m : InboundMsgState) : Nat := min m.dataBytesGranted m.dataBytesExpected

/-- The packets that the granted prefix reaches. -/
def grantedPkts (m : InboundMsgState) : Nat :=
  (m.grantedLimit + maxR2p2Payload - 1) / maxR2p2Payload

theorem lt_grantedPkts {m : InboundMsgState} {i : Nat} :
    i < m.grantedPkts ↔ i * maxR2p2Payload < m.grantedLimit := by
  unfold grantedPkts maxR2p2Payload
  omega

variable {m : InboundMsgState}

/-- The loop at packet `i`: `rs` are the runs that it has closed, and the open range holds the bytes
of the open run. -/
structure Scanning (m : InboundMsgState) (i : Nat) (rs : List (Nat × Nat))
    (start len rangeStart rangeBytes : Nat) : Prop where
  scanned : Scanned m.Missing i rs start len
  opened : 0 < len → (rangeStart, rangeBytes) = runBytes m.dataBytesExpected (start, len)
  shut : len = 0 → rangeBytes = 0

namespace Scanning

variable {i start len rangeStart rangeBytes : Nat} {rs : List (Nat × Nat)}

/-- The open range ends in front of packet `i`. -/
theorem range_eq (h : m.Scanning i rs start len rangeStart rangeBytes) (hSome : 0 < len) :
    rangeStart = start * maxR2p2Payload ∧ start < i ∧
      rangeBytes = min (i * maxR2p2Payload) m.dataBytesExpected - start * maxR2p2Payload := by
  obtain ⟨-, hEnd⟩ := h.scanned.opened hSome
  obtain ⟨hStart, hBytes⟩ := Prod.mk.inj (h.opened hSome)
  dsimp only at hBytes
  rw [hEnd] at hBytes
  exact ⟨hStart, by omega, hBytes⟩

/-- The open range has bytes exactly if the open run has packets. -/
theorem pos_iff (h : m.Scanning i rs start len rangeStart rangeBytes)
    (hPkts : ∀ j < i, j * maxR2p2Payload < m.dataBytesExpected) : 0 < rangeBytes ↔ 0 < len := by
  constructor
  · intro hBytes
    by_contra hNone
    exact absurd (h.shut (by omega)) (by omega)
  · intro hSome
    obtain ⟨-, hLess, hBytes⟩ := h.range_eq hSome
    have hInside := hPkts start hLess
    have hMul : start * maxR2p2Payload < i * maxR2p2Payload :=
      Nat.mul_lt_mul_of_pos_right hLess (by decide)
    omega

/-- What the loop has asked for when it closes the open range. -/
theorem flush (h : m.Scanning i rs start len rangeStart rangeBytes)
    (hPkts : ∀ j < i, j * maxR2p2Payload < m.dataBytesExpected) :
    (flushRun rs start len).map (runBytes m.dataBytesExpected) =
      rs.map (runBytes m.dataBytesExpected) ++
        if 0 < rangeBytes then [(rangeStart, rangeBytes)] else [] := by
  have hIff := h.pos_iff hPkts
  unfold flushRun
  by_cases hSome : 0 < len
  · rw [if_pos hSome, if_pos (hIff.mpr hSome), List.map_append, List.map_singleton, h.opened hSome]
  · rw [if_neg hSome, if_neg (fun hBytes => hSome (hIff.mp hBytes)), List.append_nil]

/-- The next packet is missing. -/
theorem extend (h : m.Scanning i rs start len rangeStart rangeBytes)
    (hPkts : ∀ j < i, j * maxR2p2Payload < m.dataBytesExpected)
    (hInside : i * maxR2p2Payload < m.dataBytesExpected) (hMissing : m.Missing i) :
    m.Scanning (i + 1) rs (if len = 0 then i else start) (len + 1)
      (if rangeBytes = 0 then i * maxR2p2Payload else rangeStart)
      (rangeBytes + pktPayload m.dataBytesExpected i) := by
  refine ⟨h.scanned.extend hMissing, fun _ => ?_, nofun⟩
  have hIff := h.pos_iff hPkts
  have hNext : (i + 1) * maxR2p2Payload = i * maxR2p2Payload + maxR2p2Payload :=
    Nat.succ_mul i maxR2p2Payload
  rw [pktPayload_eq]
  unfold runBytes
  rcases Nat.eq_zero_or_pos len with hNone | hSome
  · have hEmpty := h.shut hNone
    rw [if_pos hNone, if_pos hEmpty, hNone, hEmpty, Nat.zero_add, Nat.zero_add, hNext]
    ext
    · rfl
    · dsimp only
      omega
  · obtain ⟨hStart, hLess, hBytes⟩ := h.range_eq hSome
    have hEnd := (h.scanned.opened hSome).2
    have hMul : start * maxR2p2Payload < i * maxR2p2Payload :=
      Nat.mul_lt_mul_of_pos_right hLess (by decide)
    rw [if_neg (Nat.ne_of_gt hSome), if_neg (Nat.ne_of_gt (hIff.mpr hSome)), ← Nat.add_assoc, hEnd,
      hNext, hStart, hBytes]
    ext
    · rfl
    · dsimp only
      omega

/-- The next packet has been received. -/
theorem close (h : m.Scanning i rs start len rangeStart rangeBytes) (hThere : ¬ m.Missing i) :
    m.Scanning (i + 1) (flushRun rs start len) start 0 rangeStart 0 :=
  ⟨h.scanned.close hThere start, nofun, fun _ => rfl⟩

end Scanning

/-- The loop lists the bytes of the maximal runs. -/
theorem missingRanges_spec {i start len rangeStart rangeBytes : Nat} {rs : List (Nat × Nat)}
    (count : Nat) (h : m.Scanning i rs start len rangeStart rangeBytes)
    (hPkts : ∀ j < i + count, j * maxR2p2Payload < m.dataBytesExpected) :
    ∃ runs, ListsRuns m.Missing (i + count) runs ∧
      rs.map (runBytes m.dataBytesExpected) ++
        m.missingRanges (List.range' i count) rangeStart rangeBytes =
      runs.map (runBytes m.dataBytesExpected) := by
  induction count generalizing i start len rangeStart rangeBytes rs with
  | zero => exact ⟨flushRun rs start len, h.scanned.listsRuns, (h.flush hPkts).symm⟩
  | succ count ih =>
    have hBefore (j : Nat) (hj : j < i) : j * maxR2p2Payload < m.dataBytesExpected :=
      hPkts j (by omega)
    have hInside := hPkts i (by omega)
    have hCount : i + (count + 1) = i + 1 + count := by omega
    rw [hCount] at hPkts ⊢
    rw [List.range'_succ]
    unfold missingRanges
    simp only
    rw [if_neg (show payloadFromOffset m.dataBytesExpected (i * maxR2p2Payload) ≠ 0 from
      Nat.ne_of_gt (pktPayload_pos hInside))]
    split
    · rename_i hReceived
      obtain ⟨runs, hRuns, hEq⟩ := ih (h.close (fun hMissing => hMissing hReceived)) hPkts
      refine ⟨runs, hRuns, ?_⟩
      rw [← hEq, h.flush hBefore, List.append_assoc]
      congr 1
      split
      · rfl
      · rfl
    · rename_i hMissing
      exact ih (h.extend hBefore hInside hMissing) hPkts

/-- The timeout of a message of which more is granted than has been received asks for all its missing
packets, up to the end of the granted prefix. -/
theorem checkResendTimeout_eq (hInfo : m.receivedMsgInfo = true)
    (hOwed : m.dataBytesReceived < m.grantedLimit) :
    ∃ runs, ListsRuns m.Missing m.grantedPkts runs ∧
      m.checkResendTimeout = runs.map (runBytes m.dataBytesExpected) := by
  have hLimit : m.grantedLimit ≤ m.dataBytesExpected := Nat.min_le_right _ _
  have hPkts (j : Nat) (hj : j < 0 + m.grantedPkts) :
      j * maxR2p2Payload < m.dataBytesExpected := by
    rw [Nat.zero_add, lt_grantedPkts] at hj
    omega
  obtain ⟨runs, hRuns, hEq⟩ := missingRanges_spec (m := m) m.grantedPkts
    ⟨scanned_zero 0, nofun, fun _ => rfl⟩ hPkts
  rw [Nat.zero_add] at hRuns
  refine ⟨runs, hRuns, ?_⟩
  rw [← hEq]
  unfold checkResendTimeout
  simp only
  rw [if_neg, List.range_eq_range']
  · rfl
  · rintro (hUnknown | hZero | hAll | hNone)
    · exact hUnknown hInfo
    · omega
    · omega
    · exact absurd hOwed (Nat.not_lt.mpr hNone)

/-- Otherwise it asks for nothing. -/
theorem checkResendTimeout_eq_nil
    (h : ¬ (m.receivedMsgInfo = true ∧ m.dataBytesReceived < m.grantedLimit)) :
    m.checkResendTimeout = [] := by
  unfold checkResendTimeout grantedLimit at *
  simp only
  rw [if_pos]
  by_cases hInfo : m.receivedMsgInfo = true
  · have hLe : ¬ m.dataBytesReceived < min m.dataBytesGranted m.dataBytesExpected :=
      fun hLess => h ⟨hInfo, hLess⟩
    omega
  · exact Or.inl hInfo

/-- It asks for whole packets. -/
theorem isRange_checkResendTimeout : ∀ r ∈ m.checkResendTimeout, IsRange m.dataBytesExpected r := by
  intro r hr
  by_cases hOwed : m.receivedMsgInfo = true ∧ m.dataBytesReceived < m.grantedLimit
  · obtain ⟨runs, hRuns, hEq⟩ := checkResendTimeout_eq hOwed.1 hOwed.2
    rw [hEq] at hr
    obtain ⟨run, hRun, rfl⟩ := List.mem_map.mp hr
    have hMax := (hRuns.mem run).mp hRun
    have hPos := hMax.pos
    have hWithin := hMax.within
    have hStart := lt_grantedPkts.mp (show run.1 < m.grantedPkts by omega)
    exact isRange_runBytes hPos (hStart.trans_le (Nat.min_le_right _ _))
  · rw [checkResendTimeout_eq_nil hOwed] at hr
    cases hr

end InboundMsgState

end Dpdq.Ns2
