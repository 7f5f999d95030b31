import Dpdq.Ns2.HybridChunks
import Dpdq.Ns2.HybridNet

/-!
# What a step of the sender does

`OutboundMsgState.Ok` is what holds of a message at its sender: it has sent whole packets, it sends
again only what it has sent, and the credit of its own is what its packets take on the wire.
-/

namespace Dpdq.Ns2

open Dpdq.Lib

/-! ## Self-allocated credit -/

theorem le_of_full_lt {totalBytes k : Nat}
    (h : k * maxEthernetFrameOnWire < addHeaderOverhead totalBytes false) :
    k * maxR2p2Payload ≤ totalBytes := by
  simp only [addHeaderOverhead, wireOverhead, r2p2AllHeadersSize, interPktGapSize,
    ethernetPreambleSize, minEthernetFrameOnWire, maxR2p2Payload, maxEthernetFrameOnWire,
    Bool.false_eq_true, not_false_eq_true, and_true] at h ⊢
  split at h <;> omega

theorem addHeaderOverhead_full (k : Nat) (skipLastPktCheck : Bool) :
    addHeaderOverhead (k * maxR2p2Payload) skipLastPktCheck = k * maxEthernetFrameOnWire := by
  rw [addHeaderOverhead_of_full (Nat.mul_mod_left _ _)]
  simp only [addHeaderOverhead, wireOverhead, r2p2AllHeadersSize, interPktGapSize,
    ethernetPreambleSize, minEthernetFrameOnWire, maxR2p2Payload, maxEthernetFrameOnWire,
    Bool.false_eq_true, not_false_eq_true, and_true]
  split <;> omega

theorem minEthernetFrameOnWire_le_addHeaderOverhead {bytes : Nat} (h : 0 < bytes) :
    minEthernetFrameOnWire ≤ addHeaderOverhead bytes false := by
  simp only [addHeaderOverhead, wireOverhead, r2p2AllHeadersSize, interPktGapSize,
    ethernetPreambleSize, minEthernetFrameOnWire, maxR2p2Payload, Bool.false_eq_true,
    not_false_eq_true, and_true]
  split <;> omega

/-- A sender allocates credit to itself for whole packets, or for the message. -/
theorem selfAllocation_spec {cfg : HybridConfig} {avail : Int} {totalBytes : Nat}
    (hTotal : 0 < totalBytes) (hSome : (selfAllocation cfg avail totalBytes).1 ≠ 0) :
    0 < (selfAllocation cfg avail totalBytes).2 ∧
      Aligned totalBytes (selfAllocation cfg avail totalBytes).2 ∧
      (selfAllocation cfg avail totalBytes).1 =
        addHeaderOverhead (selfAllocation cfg avail totalBytes).2 false := by
  -- What is allocated is the message, or the packets that fit into something smaller.
  have hCases : selfAllocation cfg avail totalBytes =
        (addHeaderOverhead totalBytes false, totalBytes) ∨
      ∃ k, k * maxEthernetFrameOnWire < addHeaderOverhead totalBytes false ∧
        selfAllocation cfg avail totalBytes =
          (k * maxEthernetFrameOnWire, k * maxR2p2Payload) := by
    have hUpTo (size : Nat) : (addHeaderOverhead (removeHeaderOverhead size) true,
        removeHeaderOverhead size) = (size / maxEthernetFrameOnWire * maxEthernetFrameOnWire,
          size / maxEthernetFrameOnWire * maxR2p2Payload) := by
      unfold removeHeaderOverhead
      rw [addHeaderOverhead_full]
    have hSrpb (h : ¬ (addHeaderOverhead totalBytes false : Int) ≤ cfg.maxSrpb) :
        cfg.maxSrpb.toNat / maxEthernetFrameOnWire * maxEthernetFrameOnWire <
          addHeaderOverhead totalBytes false := by
      have hLe := Nat.div_mul_le_self cfg.maxSrpb.toNat maxEthernetFrameOnWire
      have hPos := minEthernetFrameOnWire_le_addHeaderOverhead hTotal
      unfold minEthernetFrameOnWire at hPos
      omega
    unfold selfAllocation
    simp only [hUpTo]
    generalize (max (cfg.maxSrpb - avail) (maxEthernetFrameOnWire : Int)).toNat = space
    have hSpace := Nat.div_mul_le_self space maxEthernetFrameOnWire
    by_cases hFits : (addHeaderOverhead totalBytes false : Int) ≤ cfg.maxSrpb
    · rw [if_pos hFits]
      split
      · exact Or.inr ⟨space / maxEthernetFrameOnWire, by omega, rfl⟩
      · exact Or.inl rfl
    · rw [if_neg hFits]
      have hLess := hSrpb hFits
      split
      · rename_i hSmall
        exact Or.inr ⟨space / maxEthernetFrameOnWire, by omega, rfl⟩
      · exact Or.inr ⟨_, hLess, rfl⟩
  rcases hCases with hAll | ⟨k, hk, hPart⟩
  · rw [hAll]
    exact ⟨hTotal, ⟨Nat.le_refl _, Or.inr rfl⟩, rfl⟩
  · rw [hPart] at hSome ⊢
    have hPos : 0 < k := Nat.pos_of_mul_pos_right (Nat.pos_of_ne_zero hSome)
    refine ⟨Nat.mul_pos hPos (by decide), ⟨le_of_full_lt hk, Or.inl (Nat.mul_mod_left _ _)⟩, ?_⟩
    exact (addHeaderOverhead_full k false).symm

/-! ## A message at its sender -/

/-- A range of packets that were sent. -/
structure SentRange (m : OutboundMsgState) (r : Nat × Nat) : Prop where
  start : r.1 % maxR2p2Payload = 0
  pos : 0 < r.2
  sent : r.1 + r.2 ≤ m.bytesSent
  aligned : Aligned m.totalBytes (r.1 + r.2)

theorem SentRange.congr {m m' : OutboundMsgState} {r : Nat × Nat} (h : SentRange m r)
    (hTotal : m'.totalBytes = m.totalBytes) (hSent : m.bytesSent ≤ m'.bytesSent) :
    SentRange m' r :=
  ⟨h.start, h.pos, h.sent.trans hSent, hTotal ▸ h.aligned⟩

structure OutboundMsgState.Ok (cfg : HybridConfig) (m : OutboundMsgState) : Prop where
  pos : 0 < m.totalBytes
  lt : m.totalBytes < 2 ^ 31
  split : m.bytesSent + m.unsentBytes = m.totalBytes
  aligned : Aligned m.totalBytes m.bytesSent
  first : m.sentFirst = true ↔ 0 < m.bytesSent
  pktId : m.pktId = if m.isRequest then (numPkts m.totalBytes : Int) - 1 else numPkts m.totalBytes
  ranges : ∀ r ∈ m.resendRanges, SentRange m r
  scheduled : m.isScheduled = true → m.selfAllocCredit = 0 ∧ m.selfAllocCreditData = 0
  unsolicited : m.isScheduled = false → sendsUnsolicited cfg m.totalBytes = true ∧
    0 < m.selfAllocCreditData ∧ Aligned m.totalBytes m.selfAllocCreditData ∧
    m.selfAllocCredit = addHeaderOverhead m.selfAllocCreditData false
  announced : m.active = true → m.isScheduled = true →
    sendsUnsolicited cfg m.totalBytes = false ∧ m.sentAnouncement = true
  inactive : m.active = false →
    m.bytesSent = 0 ∧ m.isScheduled = true ∧ m.sentAnouncement = false ∧ m.resendRanges = []
  anounced_of_sent : 0 < m.bytesSent → m.sentAnouncement = true

/-- Nothing that the packets of a message are made from changes, and it has sent no less. -/
structure SameMsg (m m' : OutboundMsgState) : Prop where
  src : m'.src = m.src
  isRequest : m'.isRequest = m.isRequest
  totalBytes : m'.totalBytes = m.totalBytes
  pktId : m'.pktId = m.pktId
  isScheduled : m'.isScheduled = m.isScheduled
  selfAllocCredit : m'.selfAllocCredit = m.selfAllocCredit
  selfAllocCreditData : m'.selfAllocCreditData = m.selfAllocCreditData
  active : m'.active = m.active
  bytesSent : m.bytesSent ≤ m'.bytesSent

namespace OutboundMsgState

variable {cfg : HybridConfig} {m m' : OutboundMsgState} {id : UniqReqId} {avail avail' : Int}

theorem ok_ofRequest {src : Int} {payload : Nat} (hPos : 0 < payload) (hLt : payload < 2 ^ 31) :
    (ofRequest src payload).Ok cfg where
  pos := hPos
  lt := hLt
  split := Nat.zero_add _
  aligned := ⟨Nat.zero_le _, Or.inl rfl⟩
  first := ⟨nofun, nofun⟩
  pktId := rfl
  ranges := nofun
  scheduled _ := ⟨rfl, rfl⟩
  unsolicited := nofun
  announced := nofun
  inactive _ := ⟨rfl, rfl, rfl, rfl⟩
  anounced_of_sent := nofun

theorem ok_ofReply {src : Int} {payload : Nat} (hPos : 0 < payload) (hLt : payload < 2 ^ 31) :
    (ofReply src payload).Ok cfg where
  pos := hPos
  lt := hLt
  split := Nat.zero_add _
  aligned := ⟨Nat.zero_le _, Or.inl rfl⟩
  first := ⟨nofun, nofun⟩
  pktId := rfl
  ranges := nofun
  scheduled _ := ⟨rfl, rfl⟩
  unsolicited := nofun
  announced := nofun
  inactive _ := ⟨rfl, rfl, rfl, rfl⟩
  anounced_of_sent := nofun

/-- A message becomes active with credit of its own, or with a GRANT_REQ. -/
theorem activate_cases {pkt : Option Packet}
    (h : m.activate cfg id avail = some (m', avail', pkt)) :
    m.active = false ∧
      (sendsUnsolicited cfg m.totalBytes = true ∧ pkt = none ∧
          (selfAllocation cfg avail m.totalBytes).1 ≠ 0 ∧
          m' = { m with
            active := true
            isScheduled := false
            selfAllocCredit := max (selfAllocation cfg avail m.totalBytes).1 minEthernetFrameOnWire
            selfAllocCreditData := (selfAllocation cfg avail m.totalBytes).2 } ∧
          avail' = avail + m'.selfAllocCredit ∨
        sendsUnsolicited cfg m.totalBytes = false ∧ pkt = some (m.grantReq id) ∧
          m' = { m with active := true, sentAnouncement := true } ∧ avail' = avail) := by
  unfold activate at h
  split at h
  · cases h
  · rename_i hInactive
    refine ⟨Bool.eq_false_iff.mpr hInactive, ?_⟩
    split at h
    · rename_i hUnsolicited
      simp only at h
      split at h
      · cases h
      · rename_i hSome
        cases h
        exact Or.inl ⟨hUnsolicited, rfl, hSome, rfl, rfl⟩
    · rename_i hScheduled
      cases h
      exact Or.inr ⟨Bool.eq_false_iff.mpr hScheduled, rfl, rfl, rfl⟩

theorem activate_same {pkt : Option Packet}
    (h : m.activate cfg id avail = some (m', avail', pkt)) :
    m'.totalBytes = m.totalBytes ∧ m'.isRequest = m.isRequest ∧ m'.pktId = m.pktId ∧
      m'.bytesSent = m.bytesSent := by
  obtain ⟨-, ⟨-, -, -, rfl, -⟩ | ⟨-, -, rfl, -⟩⟩ := activate_cases h
  · exact ⟨rfl, rfl, rfl, rfl⟩
  · exact ⟨rfl, rfl, rfl, rfl⟩

theorem Ok.activate (hm : m.Ok cfg) {pkt : Option Packet}
    (h : m.activate cfg id avail = some (m', avail', pkt)) : m'.Ok cfg := by
  obtain ⟨hInactive, hCases⟩ := activate_cases h
  obtain ⟨hNone, hDefault, -, hRanges⟩ := hm.inactive hInactive
  rcases hCases with ⟨hUnsolicited, -, hSome, rfl, -⟩ | ⟨hScheduled, -, rfl, -⟩
  · obtain ⟨hPos, hAligned, hCredit⟩ := selfAllocation_spec hm.pos hSome
    have hMin := minEthernetFrameOnWire_le_addHeaderOverhead hPos
    refine ⟨hm.pos, hm.lt, hm.split, hm.aligned, hm.first, hm.pktId, ?_, nofun, ?_, nofun, nofun,
      hm.anounced_of_sent⟩
    · exact fun r hr => (hm.ranges r hr).congr rfl (Nat.le_refl _)
    · exact fun _ => ⟨hUnsolicited, hPos, hAligned, by rw [hCredit]; exact Nat.max_eq_left hMin⟩
  · refine ⟨hm.pos, hm.lt, hm.split, hm.aligned, hm.first, hm.pktId, ?_, hm.scheduled,
      hm.unsolicited, fun _ _ => ⟨hScheduled, rfl⟩, nofun, fun _ => rfl⟩
    exact fun r hr => (hm.ranges r hr).congr rfl (Nat.le_refl _)

/-- The packet that is sent next. -/
def nextPkt (m : OutboundMsgState) : Nat := m.bytesSent / maxR2p2Payload

theorem Ok.nextPkt_mul (hm : m.Ok cfg) (hUnsent : 0 < m.unsentBytes) :
    m.nextPkt * maxR2p2Payload = m.bytesSent := by
  obtain ⟨-, hEnd⟩ := hm.aligned
  have hSplit := hm.split
  unfold nextPkt maxR2p2Payload at *
  omega

/-- The next packet of the message is sent, and paid for. -/
theorem Ok.sendData_cases (hm : m.Ok cfg) {pkt : Packet}
    (h : m.sendData id avail = some (m', avail', pkt)) :
    m.active = true ∧ m.bytesSent = m.nextPkt * maxR2p2Payload ∧ m.bytesSent < m.totalBytes ∧
      (pktWire m.totalBytes m.nextPkt : Int) ≤ avail ∧
      m'.bytesSent = m.bytesSent + pktPayload m.totalBytes m.nextPkt ∧
      SameMsg m m' ∧ m'.Ok cfg ∧ avail' = avail - pktWire m.totalBytes m.nextPkt ∧
      pkt = m.announcing (m.dataPacket id (m.nextPkt = 0) (m.nextPkt * maxR2p2Payload)
        (pktPayload m.totalBytes m.nextPkt)) := by
  unfold sendData at h
  simp only at h
  split at h
  · rename_i hGuard
    obtain ⟨hActive, hUnsent, hCredit⟩ := hGuard
    obtain ⟨rfl, hRest⟩ := Prod.mk.inj (Option.some.inj h)
    obtain ⟨rfl, rfl⟩ := Prod.mk.inj hRest
    have hStart := hm.nextPkt_mul hUnsent
    have hSplit := hm.split
    have hPayload : pktPayload m.totalBytes m.nextPkt = min maxR2p2Payload m.unsentBytes := by
      rw [pktPayload_eq, hStart]
      congr 1
      omega
    have hOffset : m.totalBytes - m.unsentBytes = m.nextPkt * maxR2p2Payload := by omega
    have hFirst : (decide ¬ m.sentFirst = true) = decide (m.nextPkt = 0) := by
      rw [decide_eq_decide, hm.first]
      unfold nextPkt maxR2p2Payload at *
      omega
    have hAligned := hm.aligned
    have hSent : max m.bytesSent (m.nextPkt * maxR2p2Payload + min maxR2p2Payload m.unsentBytes) =
        m.bytesSent + min maxR2p2Payload m.unsentBytes := by omega
    unfold pktWire
    rw [hPayload, hOffset, hFirst, hSent]
    refine ⟨hActive, hStart.symm, by omega, hCredit, rfl, ?_, ?_, rfl, rfl⟩
    · exact ⟨rfl, rfl, rfl, rfl, rfl, rfl, rfl, rfl, Nat.le_add_right _ _⟩
    · refine ⟨hm.pos, hm.lt, ?_, ?_, ?_, hm.pktId, ?_, hm.scheduled, hm.unsolicited, ?_, ?_, ?_⟩
      · show m.bytesSent + _ + (m.unsentBytes - _) = m.totalBytes
        omega
      · unfold Aligned maxR2p2Payload at *
        show m.bytesSent + _ ≤ m.totalBytes ∧
          ((m.bytesSent + _) % 1458 = 0 ∨ m.bytesSent + _ = m.totalBytes)
        omega
      · refine ⟨fun _ => ?_, fun _ => rfl⟩
        show 0 < m.bytesSent + _
        unfold maxR2p2Payload
        omega
      · exact fun r hr => (hm.ranges r hr).congr rfl (Nat.le_add_right _ _)
      · intro hAct hSched
        obtain ⟨hThresh, hAnn⟩ := hm.announced hAct hSched
        exact ⟨hThresh, by simp [hAnn]⟩
      · intro hInactive
        rw [hActive] at hInactive
        cases hInactive
      · intro _
        cases hSched : m.isScheduled with
        | true => simp [(hm.announced hActive hSched).2]
        | false => simp
  · cases h

/-! ## Retransmissions -/

/-- The first packet of a range is sent again. -/
theorem Ok.retransmit_cases (hm : m.Ok cfg) {pkt : Packet}
    (h : m.sendOneRetransmission id = some (m', pkt)) :
    m'.Ok cfg ∧ SameMsg m m' ∧ m'.bytesSent = m.bytesSent ∧
      ∃ i, i * maxR2p2Payload < m.bytesSent ∧
        pkt = { m.dataPacket id (i = 0) (i * maxR2p2Payload) (pktPayload m.totalBytes i) with
          resendBytes := pktPayload m.totalBytes i } := by
  unfold sendOneRetransmission at h
  split at h
  · cases h
  · rename_i start bytes rest hRanges
    obtain ⟨rfl, rfl⟩ := Prod.mk.inj (Option.some.inj h)
    have hRange := hm.ranges (start, bytes) (by rw [hRanges]; exact List.mem_cons_self)
    obtain ⟨hStart, hPos, hSent, hEnd⟩ := hRange
    have hAligned := hm.aligned
    simp only at hStart hPos hSent hEnd
    have hIndex : start = start / maxR2p2Payload * maxR2p2Payload := by
      unfold maxR2p2Payload at *
      omega
    have hPayload : min maxR2p2Payload bytes = pktPayload m.totalBytes (start / maxR2p2Payload) := by
      rw [pktPayload_eq, ← hIndex]
      unfold Aligned maxR2p2Payload at *
      omega
    have hZero : (start = 0) = (start / maxR2p2Payload = 0) := by
      rw [eq_iff_iff]
      unfold maxR2p2Payload at *
      omega
    refine ⟨?_, ⟨rfl, rfl, rfl, rfl, rfl, rfl, rfl, rfl, Nat.le_refl _⟩, rfl,
      start / maxR2p2Payload, by omega, ?_⟩
    · refine ⟨hm.pos, hm.lt, hm.split, hm.aligned, hm.first, hm.pktId, ?_, hm.scheduled,
        hm.unsolicited, hm.announced, ?_, hm.anounced_of_sent⟩
      · intro r hr
        have hRest (r : Nat × Nat) (hr : r ∈ rest) : SentRange m r :=
          hm.ranges r (by rw [hRanges]; exact List.mem_cons_of_mem _ hr)
        simp only at hr
        split at hr
        · exact (hRest r hr).congr rfl (Nat.le_refl _)
        · rename_i hLeft
          rcases List.mem_cons.mp hr with rfl | hr
          · unfold Aligned maxR2p2Payload at *
            refine ⟨?_, ?_, ?_, ?_⟩
            · show (start + min 1458 bytes) % 1458 = 0
              omega
            · simp only
              omega
            · simp only
              omega
            · unfold Aligned maxR2p2Payload
              simp only
              omega
          · exact (hRest r hr).congr rfl (Nat.le_refl _)
      · intro hInactive
        obtain ⟨-, -, -, hNone⟩ := hm.inactive hInactive
        rw [hNone] at hRanges
        cases hRanges
    · rw [hPayload]
      simp only [hZero, ← hIndex]

theorem Ok.handleResend (hm : m.Ok cfg) {start bytes : Nat} (hStart : start % maxR2p2Payload = 0)
    (hBound : start + bytes < 2 ^ 32) (hEnd : Aligned m.totalBytes (start + bytes))
    (hPos : 0 < bytes) :
    (m.handleResend start bytes).Ok cfg ∧ SameMsg m (m.handleResend start bytes) ∧
      (m.handleResend start bytes).bytesSent = m.bytesSent := by
  unfold OutboundMsgState.handleResend
  simp only
  split
  · rename_i hSent
    have hAligned := hm.aligned
    have hMod : (start + bytes) % 2 ^ 32 = start + bytes := Nat.mod_eq_of_lt hBound
    have hLt := hm.lt
    generalize hLen : (min (min ((start + bytes) % 2 ^ 32) m.totalBytes) m.bytesSent + 2 ^ 32 -
      start) % 2 ^ 32 = len
    have hLenEq : len = min (start + bytes) m.bytesSent - start := by
      rw [hMod] at hLen
      obtain ⟨hLe, -⟩ := hEnd
      omega
    unfold queueResend
    split
    · exact ⟨hm, ⟨rfl, rfl, rfl, rfl, rfl, rfl, rfl, rfl, Nat.le_refl _⟩, rfl⟩
    · refine ⟨?_, ⟨rfl, rfl, rfl, rfl, rfl, rfl, rfl, rfl, Nat.le_refl _⟩, rfl⟩
      refine ⟨hm.pos, hm.lt, hm.split, hm.aligned, hm.first, hm.pktId, ?_, hm.scheduled,
        hm.unsolicited, hm.announced, ?_, hm.anounced_of_sent⟩
      · intro r hr
        rcases List.mem_append.mp hr with hOld | hNew
        · exact (hm.ranges r hOld).congr rfl (Nat.le_refl _)
        · obtain rfl := List.mem_singleton.mp hNew
          refine ⟨hStart, ?_, ?_, ?_⟩
          · simp only
            omega
          · simp only
            omega
          · unfold Aligned maxR2p2Payload at *
            simp only
            omega
      · intro hInactive
        obtain ⟨hNone, -⟩ := hm.inactive hInactive
        omega
  · exact ⟨hm, ⟨rfl, rfl, rfl, rfl, rfl, rfl, rfl, rfl, Nat.le_refl _⟩, rfl⟩

end OutboundMsgState

end Dpdq.Ns2
