import Dpdq.Ns2.HybridSenderStep
import Dpdq.Ns2.HybridStep

/-!
# What the receiver does with a packet

`IsPacketOf` says what the packets of a message are, and `Tracks` relates what the receiver has
stored of a message to the packets that have arrived. As long as no packet is delivered that the
receiver cannot recognize (`Timely`), `deliver_cases` lists what a packet does: a packet that is
counted was not counted before, and only a message with all its packets is deleted.
-/

namespace Dpdq.Ns2

open Dpdq.Lib

variable {cfg : HybridConfig} {m : OutboundMsgState} {id : UniqReqId} {p : Packet}

/-! ## The packets of a message -/

inductive IsPacketOf (m : OutboundMsgState) (id : UniqReqId) (announced : Bool) : Packet → Prop
  | grantReq (hActive : m.active = true) (hScheduled : m.isScheduled = true) :
      IsPacketOf m id announced { m.grantReq id with first := true }
  | data (i : Nat) (hSent : i * maxR2p2Payload < m.bytesSent) :
      IsPacketOf m id announced (m.announcing (m.dataPacket id (i = 0) (i * maxR2p2Payload)
        (pktPayload m.totalBytes i)))
  | resent (i : Nat) (hSent : i * maxR2p2Payload < m.bytesSent) (hAnnounced : announced = true) :
      IsPacketOf m id announced { m.dataPacket id (i = 0) (i * maxR2p2Payload)
        (pktPayload m.totalBytes i) with resendBytes := pktPayload m.totalBytes i }

theorem announcing_of_scheduled (h : m.isScheduled = true) (p : Packet) : m.announcing p = p := by
  unfold OutboundMsgState.announcing
  rw [if_pos h]

theorem announcing_of_unsolicited (h : m.isScheduled = false) (p : Packet) :
    m.announcing p = { p with
      creditReq := m.totalBytes
      unsolCredit := m.selfAllocCredit
      unsolCreditData := m.selfAllocCreditData } := by
  unfold OutboundMsgState.announcing
  rw [if_neg (by simp [h])]

/-- What `announcing` adds is no part of the data. -/
theorem announcing_data (m : OutboundMsgState) (p : Packet) :
    (m.announcing p).reqId = p.reqId ∧ (m.announcing p).src = p.src ∧
      (m.announcing p).size = p.size ∧ (m.announcing p).isData = p.isData ∧
      (m.announcing p).pktIndex = p.pktIndex ∧ (m.announcing p).msgType = p.msgType ∧
      (m.announcing p).isSinglePktReply = p.isSinglePktReply ∧
      (m.announcing p).credit = p.credit ∧ (m.announcing p).resendBytes = p.resendBytes := by
  unfold OutboundMsgState.announcing
  split <;> exact ⟨rfl, rfl, rfl, rfl, rfl, rfl, rfl, rfl, rfl⟩

theorem announcing_header (m : OutboundMsgState) (p : Packet) :
    (m.announcing p).first = p.first ∧ (m.announcing p).pktId = p.pktId := by
  unfold OutboundMsgState.announcing
  split <;> exact ⟨rfl, rfl⟩

theorem isData_dataPacket (m : OutboundMsgState) (id : UniqReqId) (first : Bool)
    (msgOffset payload : Nat) : (m.dataPacket id first msgOffset payload).isData = true := by
  unfold Packet.isData OutboundMsgState.dataPacket OutboundMsgState.msgType
  split <;> rfl

theorem pktIndex_dataPacket (m : OutboundMsgState) (id : UniqReqId) (first : Bool)
    (i payload : Nat) :
    (m.dataPacket id first (i * maxR2p2Payload) payload).pktIndex = i := by
  unfold Packet.pktIndex OutboundMsgState.dataPacket
  rw [Int.toNat_natCast]
  exact Nat.mul_div_left i (by decide)

/-- Only a message that is a reply of one packet has such a packet. -/
theorem isSinglePktReply_dataPacket (hm : m.Ok cfg) {i : Nat}
    (hSent : i * maxR2p2Payload < m.bytesSent) (payload : Nat) :
    (m.dataPacket id (i = 0) (i * maxR2p2Payload) payload).isSinglePktReply =
      m.isSinglePktReply := by
  have hSplit := hm.split
  have hPktId := hm.pktId
  unfold Packet.isSinglePktReply OutboundMsgState.isSinglePktReply OutboundMsgState.dataPacket
    OutboundMsgState.msgType
  rw [decide_eq_decide]
  cases hRequest : m.isRequest with
  | true => simp
  | false =>
    rw [hRequest, if_neg nofun] at hPktId
    simp only [Bool.false_eq_true, if_false, decide_eq_true_eq, true_and]
    constructor
    · exact fun h => h.2
    · intro hOne
      refine ⟨?_, hOne⟩
      have hCount := lt_numPkts.mpr (show i * maxR2p2Payload < m.totalBytes by omega)
      omega

/-- What the packets of a message have in common. -/
structure PacketFacts (m : OutboundMsgState) (id : UniqReqId) (p : Packet) : Prop where
  reqId : p.reqId = id
  src : p.src = m.src
  credit : p.credit = 0
  msgType : p.msgType ≠ .resend
  data : p.isData = true → p.pktIndex * maxR2p2Payload < m.bytesSent ∧
    p.size = pktPayload m.totalBytes p.pktIndex ∧ p.isSinglePktReply = m.isSinglePktReply ∧
    p.msgType = m.msgType
  header : p.isData = true → p.first = decide (p.pktIndex = 0) ∧ p.pktId = m.pktId

theorem IsPacketOf.facts (hm : m.Ok cfg) {announced : Bool} (h : IsPacketOf m id announced p) :
    PacketFacts m id p := by
  cases h with
  | grantReq hActive hScheduled => exact ⟨rfl, rfl, rfl, nofun, nofun, nofun⟩
  | data i hSent =>
    obtain ⟨hReqId, hSrc, hSize, -, hIndex, hType, hSingle, hCredit, -⟩ := announcing_data m
      (m.dataPacket id (i = 0) (i * maxR2p2Payload) (pktPayload m.totalBytes i))
    obtain ⟨hFirst, hPktId⟩ := announcing_header m
      (m.dataPacket id (i = 0) (i * maxR2p2Payload) (pktPayload m.totalBytes i))
    refine ⟨hReqId, hSrc, hCredit, ?_, fun _ => ?_, fun _ => ?_⟩
    · rw [hType]
      unfold OutboundMsgState.dataPacket OutboundMsgState.msgType
      split <;> nofun
    · rw [hIndex, hSize, hSingle, hType, pktIndex_dataPacket]
      exact ⟨hSent, rfl, isSinglePktReply_dataPacket hm hSent _, rfl⟩
    · rw [hFirst, hPktId, hIndex, pktIndex_dataPacket]
      exact ⟨rfl, rfl⟩
  | resent i hSent hAnnounced =>
    have hIndex := pktIndex_dataPacket m id (decide (i = 0)) i (pktPayload m.totalBytes i)
    unfold Packet.pktIndex at hIndex
    refine ⟨rfl, rfl, rfl, ?_, fun _ => ?_, fun _ => ?_⟩
    · unfold OutboundMsgState.dataPacket OutboundMsgState.msgType
      split <;> nofun
    · have hSingle : (m.dataPacket id (i = 0) (i * maxR2p2Payload)
          (pktPayload m.totalBytes i)).isSinglePktReply = m.isSinglePktReply :=
        isSinglePktReply_dataPacket hm hSent _
      unfold Packet.pktIndex
      unfold Packet.isSinglePktReply at hSingle ⊢
      simp only at hIndex hSingle ⊢
      rw [hIndex]
      exact ⟨hSent, rfl, hSingle, rfl⟩
    · unfold Packet.pktIndex
      simp only at hIndex ⊢
      rw [hIndex]
      exact ⟨rfl, rfl⟩

/-! ## A message at the receiver -/

/-- The receiver knows the size of the message. -/
structure Tracked (m : OutboundMsgState) (arrived early : Finset Nat) (im : InboundMsgState) :
    Prop where
  remoteAddr : im.remoteAddr = m.src
  expected : im.dataBytesExpected = m.totalBytes
  info : im.receivedMsgInfo = true
  length : im.receivedPktBitmap.length = numPkts m.totalBytes
  bits : ∀ i, im.receivedPktBitmap[i]? = some true ↔ i ∈ arrived ∧ i ∉ early
  received : im.dataBytesReceived = ∑ i ∈ arrived, pktPayload m.totalBytes i
  granted_le : im.dataBytesGranted ≤ m.totalBytes

/-- A message that has sent data before the receiver knows its size. -/
def unannounced (m : OutboundMsgState) (arrived : Finset Nat) : InboundMsgState where
  remoteAddr := m.src
  dataBytesReceived := ∑ i ∈ arrived, pktPayload m.totalBytes i

/-- What the receiver has stored of a message. -/
inductive Stage (m : OutboundMsgState) (l : MsgLog) : Option InboundMsgState → Prop
  | unknown (hAnnounced : l.announced = false) (hOpen : l.completed = false)
      (hNone : l.arrived = ∅) : Stage m l none
  | early (hAnnounced : l.announced = false) (hOpen : l.completed = false)
      (hScheduled : m.isScheduled = true) (hActive : m.active = true)
      (hEarly : l.early = l.arrived) (hSome : l.arrived.Nonempty) :
      Stage m l (some (unannounced m l.arrived))
  | tracked (im : InboundMsgState) (hAnnounced : l.announced = true) (hOpen : l.completed = false)
      (hActive : m.active = true) (hTracked : Tracked m l.arrived l.early im) : Stage m l (some im)
  | deleted (hAnnounced : l.announced = true) (hCompleted : l.completed = true)
      (hActive : m.active = true) (hAll : l.arrived = Finset.range (numPkts m.totalBytes)) :
      Stage m l none

structure Tracks (m : OutboundMsgState) (inb : Option InboundMsgState) (l : MsgLog) : Prop where
  arrived_sent : ∀ i ∈ l.arrived, i * maxR2p2Payload < m.bytesSent
  early_sub : l.early ⊆ l.arrived
  single : m.isSinglePktReply = true → l.arrived = ∅
  stage : Stage m l inb

/-- The receiver can tell whether it has counted the packet: the message is not deleted, or the
packet is marked as a retransmission; and it was not counted before the message was announced. -/
def Timely (l : MsgLog) (p : Packet) : Prop :=
  p.isSinglePktReply = false →
    if l.completed then 0 < p.resendBytes else p.isData = true → p.pktIndex ∉ l.early

instance (l : MsgLog) (p : Packet) : Decidable (Timely l p) :=
  inferInstanceAs (Decidable (_ → _))

namespace Tracked

variable {arrived early : Finset Nat} {im : InboundMsgState}

theorem ensureInboundTracking_eq (h : Tracked m arrived early im) :
    im.ensureInboundTracking = im := by
  unfold InboundMsgState.ensureInboundTracking
  split
  · rfl
  · rw [h.expected, ← numPkts_eq, h.length, if_neg (not_not.mpr rfl)]

/-- A packet arrives for the first time. -/
theorem arrive (h : Tracked m arrived early im) {i : Nat} (hNew : i ∉ arrived)
    (hEarly : early ⊆ arrived) (hi : i * maxR2p2Payload < m.totalBytes) :
    Tracked m (insert i arrived) early (im.arrive i (pktPayload m.totalBytes i)) := by
  refine ⟨h.remoteAddr, h.expected, h.info, ?_, ?_, ?_, h.granted_le⟩
  · unfold InboundMsgState.arrive
    rw [List.length_set, h.length]
  · intro j
    unfold InboundMsgState.arrive
    by_cases hj : j = i
    · subst hj
      have hBound : j < im.receivedPktBitmap.length := by
        rw [h.length, lt_numPkts]
        exact hi
      rw [List.getElem?_set_self hBound]
      exact ⟨fun _ => ⟨Finset.mem_insert_self _ _, fun hIn => hNew (hEarly hIn)⟩, fun _ => rfl⟩
    · rw [List.getElem?_set_ne (Ne.symm hj), h.bits, Finset.mem_insert]
      exact and_congr_left fun _ => ⟨Or.inr, fun hOr => hOr.resolve_left hj⟩
  · rw [Finset.sum_insert hNew, Nat.add_comm, ← h.received]
    rfl

theorem isComplete (h : Tracked m arrived early im) (hSub : ∀ i ∈ arrived,
    i * maxR2p2Payload < m.totalBytes) (hComplete : im.isComplete = true) :
    arrived = Finset.range (numPkts m.totalBytes) := by
  simp only [InboundMsgState.isComplete, decide_eq_true_eq] at hComplete
  apply eq_range_of_sum hSub
  rw [← h.received, hComplete.1, h.expected]

end Tracked

/-- The announcement of a message. What has arrived before is not in the bitmap. -/
theorem tracked_announced (hm : 0 < m.totalBytes) (arrived : Finset Nat) :
    Tracked m arrived arrived ((unannounced m arrived).announced m.totalBytes) := by
  have hCount : (m.totalBytes + maxR2p2Payload - 1) / maxR2p2Payload ≠ 0 := by
    rw [← numPkts_eq]
    have hFirst : 0 < numPkts m.totalBytes := lt_numPkts.mpr (by omega)
    omega
  have hEq : (unannounced m arrived).announced m.totalBytes = { unannounced m arrived with
      dataBytesExpected := m.totalBytes
      receivedMsgInfo := true
      receivedPktBitmap := List.replicate (numPkts m.totalBytes) false } := by
    unfold InboundMsgState.announced InboundMsgState.ensureInboundTracking
    rw [if_neg (by simp; omega), numPkts_eq]
    exact if_pos (by simpa [unannounced] using hCount.symm)
  rw [hEq]
  refine ⟨rfl, rfl, rfl, List.length_replicate, ?_, rfl, Nat.zero_le _⟩
  intro i
  constructor
  · intro hMarked
    have hFalse := List.eq_of_mem_replicate (List.mem_of_getElem? hMarked)
    cases hFalse
  · exact fun h => absurd h.1 h.2

/-! ## What a packet does -/

/-- The receiver after a packet, from the receiver `h` that has seen its sender. -/
inductive Outcome (m : OutboundMsgState) (id : UniqReqId) (l : MsgLog) (p : Packet) (h : Hybrid) :
    Bool → Hybrid → Prop
  | ignored : Outcome m id l p h false h
  | announced (hGrantReq : p.isData = false) (hScheduled : m.isScheduled = true)
      (hActive : m.active = true) (hNew : l.announced = false) (hOpen : l.completed = false)
      (hEarly : l.early = l.arrived) :
      Outcome m id l p h false ((h.addRequestRcvd m.totalBytes).setMsg id
        ((unannounced m l.arrived).announced m.totalBytes))
  | early (hScheduled : m.isScheduled = true) (hNew : l.announced = false)
      (hOpen : l.completed = false) (hEarly : l.early = l.arrived)
      (hFresh : p.pktIndex ∉ l.arrived) :
      Outcome m id l p h true ((h.replenish m.src (pktPayload m.totalBytes p.pktIndex)).setMsg id
        (unannounced m (insert p.pktIndex l.arrived)))
  | counted (im : InboundMsgState) (hKnown : l.announced = true) (hOpen : l.completed = false)
      (hFresh : p.pktIndex ∉ l.arrived)
      (hTracked : Tracked m (insert p.pktIndex l.arrived) l.early im) (old : InboundMsgState)
      (hOld : h.inbound.get? id = some old)
      (hArrive : im = old.arrive p.pktIndex (pktPayload m.totalBytes p.pktIndex)) :
      Outcome m id l p h true ((h.replenish m.src (pktPayload m.totalBytes p.pktIndex)).settleMsg id
        im)
  | first (im : InboundMsgState) (hUnsolicited : m.isScheduled = false)
      (hNew : l.announced = false) (hOpen : l.completed = false) (hNone : l.arrived = ∅)
      (hGranted : im.dataBytesGranted = m.selfAllocCreditData)
      (hTracked : Tracked m {p.pktIndex} ∅ im) :
      Outcome m id l p h true (((((h.addRequestRcvd m.totalBytes).charge m.src
        m.selfAllocCredit).addCreditGranted m.selfAllocCredit).replenish m.src
          (pktPayload m.totalBytes p.pktIndex)).settleMsg id im)

namespace Hybrid

variable {h h' : Hybrid} {im : InboundMsgState}

/-- Data of a message of known size. -/
theorem receivedData_tracked {l : MsgLog} (hm : m.Ok cfg) (hp : PacketFacts m id p)
    (hTracks : Tracks m (some im) l) (hTracked : Tracked m l.arrived l.early im)
    (hKnown : l.announced = true) (hOpen : l.completed = false)
    (hTimely : p.pktIndex ∉ l.early) (hOk : h.receivedData cfg p im = .ok h')
    (hState : h.inbound.get? id = some im) :
    Outcome m id l p h (im.receivedPktBitmap[p.pktIndex]? ≠ some true) h' := by
  obtain ⟨⟨hData, -⟩, hCases⟩ := receivedData_cases hOk
  obtain ⟨hSent, hSize, -, -⟩ := hp.data hData
  have hSplit := hm.split
  unfold IsDuplicate arrived at hCases
  rw [hTracked.ensureInboundTracking_eq, hp.reqId, hp.src, hSize] at hCases
  rcases hCases with ⟨hDup, rfl⟩ | ⟨hNew, -, rfl⟩
  · rw [decide_eq_false (not_not.mpr hDup)]
    unfold setMsg
    rw [Table.set_eq_self hState]
    exact .ignored
  · rw [decide_eq_true hNew]
    rw [hTracked.bits] at hNew
    have hFresh : p.pktIndex ∉ l.arrived := fun hIn => hNew ⟨hIn, hTimely⟩
    exact .counted _ hKnown hOpen hFresh
      (hTracked.arrive hFresh hTracks.early_sub (by omega)) im hState rfl

theorem ensureInboundTracking_unannounced (m : OutboundMsgState) (arrived : Finset Nat) :
    (unannounced m arrived).ensureInboundTracking = unannounced m arrived := by
  unfold InboundMsgState.ensureInboundTracking
  exact if_pos (Or.inl nofun)

/-- Data of a message of unknown size. Nothing tells it from data that has arrived before. -/
theorem receivedData_unannounced {l : MsgLog} (hp : PacketFacts m id p)
    (hScheduled : m.isScheduled = true) (hNew : l.announced = false) (hOpen : l.completed = false)
    (hEarly : l.early = l.arrived) (hTimely : p.pktIndex ∉ l.early)
    (hOk : h.receivedData cfg p (unannounced m l.arrived) = .ok h') :
    Outcome m id l p h true h' := by
  obtain ⟨⟨hData, -⟩, hCases⟩ := receivedData_cases hOk
  obtain ⟨-, hSize, -, -⟩ := hp.data hData
  have hFresh : p.pktIndex ∉ l.arrived := hEarly ▸ hTimely
  unfold IsDuplicate arrived at hCases
  rw [ensureInboundTracking_unannounced, hp.reqId, hp.src] at hCases
  rcases hCases with ⟨hDup, -⟩ | ⟨-, hChecks, rfl⟩
  · cases hDup
  · have hArrive : (unannounced m l.arrived).arrive p.pktIndex p.size =
        unannounced m (insert p.pktIndex l.arrived) := by
      unfold InboundMsgState.arrive unannounced
      rw [Finset.sum_insert hFresh, hSize, Nat.add_comm]
      rfl
    have hPayload := hChecks.payload
    have hIncomplete : (unannounced m (insert p.pktIndex l.arrived)).isComplete = false := by
      unfold InboundMsgState.isComplete unannounced
      rw [decide_eq_false_iff_not, Finset.sum_insert hFresh, ← hSize]
      exact fun hBoth => by have hZero : p.size + _ = 0 := hBoth.1; omega
    rw [hArrive, hSize]
    unfold settleMsg
    rw [if_neg (by rw [hIncomplete]; nofun)]
    exact .early hScheduled hNew hOpen hEarly hFresh

/-- The GRANT_REQ of a message. -/
theorem recvMsg_grantReq {l : MsgLog} (hm : m.Ok cfg) (hScheduled : m.isScheduled = true)
    (hActive : m.active = true) (hNew : l.announced = false) (hOpen : l.completed = false)
    (hEarly : l.early = l.arrived)
    (hOk : h.recvMsg cfg { m.grantReq id with first := true } (unannounced m l.arrived) = .ok h') :
    Outcome m id l { m.grantReq id with first := true } h false h' := by
  rcases recvMsg_cases hOk with ⟨hOld, -⟩ | ⟨-, h₁, m₁, hAnnounce, hRest⟩
  · exact absurd ⟨hm.pos, rfl⟩ hOld
  · obtain ⟨-, ⟨-, rfl, rfl⟩ | ⟨hUnsol, -⟩⟩ := announce_cases hAnnounce
    · rcases hRest with ⟨-, -, rfl⟩ | ⟨hType, -⟩
      · exact .announced rfl hScheduled hActive hNew hOpen hEarly
      · exact absurd rfl hType
    · exact absurd hUnsol (Int.lt_irrefl 0)

/-- The first data of a message with credit of its own. -/
theorem recvMsg_first {l : MsgLog} (hm : m.Ok cfg) (hp : PacketFacts m id p)
    (hUnsolicited : m.isScheduled = false) (hData : p.isData = true)
    (hReq : p.creditReq = m.totalBytes) (hCredit : p.unsolCredit = m.selfAllocCredit)
    (hCreditData : p.unsolCreditData = m.selfAllocCreditData) (hNew : l.announced = false)
    (hOpen : l.completed = false) (hNone : l.arrived = ∅)
    (hOk : h.recvMsg cfg p (unannounced m ∅) = .ok h') : Outcome m id l p h true h' := by
  obtain ⟨-, hOwn, hAligned, hOverhead⟩ := hm.unsolicited hUnsolicited
  have hMin := minEthernetFrameOnWire_le_addHeaderOverhead hOwn
  have hPos := hm.pos
  have hSplit := hm.split
  obtain ⟨hSent, hSize, -, -⟩ := hp.data hData
  unfold minEthernetFrameOnWire at hMin
  rcases recvMsg_cases hOk with ⟨hOld, -⟩ | ⟨-, h₁, m₁, hAnnounce, hRest⟩
  · exact absurd ⟨by omega, rfl⟩ hOld
  · obtain ⟨-, ⟨hNoCredit, -⟩ | ⟨-, -, rfl, rfl⟩⟩ := announce_cases hAnnounce
    · omega
    · rcases hRest with ⟨hType, -⟩ | ⟨-, hOk⟩
      · unfold Packet.isData at hData
        rw [hType] at hData
        exact absurd hData (by decide)
      · rw [hReq, hCreditData] at hOk
        have hAnnounced := tracked_announced hPos (∅ : Finset Nat)
        have hTracked : Tracked m ∅ ∅ { (unannounced m ∅).announced m.totalBytes with
            dataBytesGranted := m.selfAllocCreditData } := by
          obtain ⟨h₁, h₂, h₃, h₄, h₅, h₆, -⟩ := hAnnounced
          exact ⟨h₁, h₂, h₃, h₄, h₅, h₆, hAligned.1⟩
        obtain ⟨-, hCases⟩ := receivedData_cases hOk
        unfold IsDuplicate arrived at hCases
        rw [hTracked.ensureInboundTracking_eq, hp.reqId, hp.src, hSize, hAnnounced.remoteAddr,
          hCredit, Int.toNat_natCast] at hCases
        rcases hCases with ⟨hDup, -⟩ | ⟨-, -, rfl⟩
        · exact absurd ((hTracked.bits _).mp hDup).1 (Finset.notMem_empty _)
        · refine .first _ hUnsolicited hNew hOpen hNone rfl ?_
          exact hTracked.arrive (Finset.notMem_empty _) (Finset.Subset.refl _) (by omega)

/-- Without a bitmap, and with a new one, no packet is marked. -/
theorem unmarked_unannounced (m : OutboundMsgState) (arrived : Finset Nat) (bytes i : Nat) :
    (if 0 < bytes ∧ ¬ (unannounced m arrived).receivedMsgInfo = true then
      (unannounced m arrived).announced bytes else unannounced m arrived
        ).ensureInboundTracking.receivedPktBitmap[i]? ≠ some true := by
  have hEmpty (im : InboundMsgState) (hNone : ∀ b ∈ im.receivedPktBitmap, b = false) :
      ∀ b ∈ im.ensureInboundTracking.receivedPktBitmap, b = false := by
    unfold InboundMsgState.ensureInboundTracking
    split
    · exact hNone
    · dsimp only
      split
      · exact fun b hb => List.eq_of_mem_replicate hb
      · exact hNone
  intro hMarked
  have hMem := List.mem_of_getElem? hMarked
  split at hMem
  · cases hEmpty _ (hEmpty _ fun b hb => absurd hb List.not_mem_nil) true hMem
  · cases hEmpty _ (fun b hb => absurd hb List.not_mem_nil) true hMem

/-- A packet of a message of unknown size. -/
theorem recvMsg_unannounced {l : MsgLog} (hm : m.Ok cfg) (hp : IsPacketOf m id l.announced p)
    (hNew : l.announced = false) (hOpen : l.completed = false) (hEarly : l.early = l.arrived)
    (hScheduled : m.isScheduled = false → l.arrived = ∅)
    (hTimely : p.isData = true → p.pktIndex ∉ l.early)
    (hOk : h.recvMsg cfg p (unannounced m l.arrived) = .ok h') :
    Outcome m id l p h p.isData h' := by
  have hFacts := hp.facts hm
  cases hp with
  | grantReq hActive hSched => exact recvMsg_grantReq hm hSched hActive hNew hOpen hEarly hOk
  | data i hSent =>
    obtain ⟨-, -, -, hIsData, -⟩ := announcing_data m
      (m.dataPacket id (i = 0) (i * maxR2p2Payload) (pktPayload m.totalBytes i))
    have hData := hIsData.trans (isData_dataPacket m id _ _ _)
    rw [hData]
    cases hSched : m.isScheduled with
    | true =>
      rcases recvMsg_cases hOk with ⟨-, hOk⟩ | ⟨hReq, -⟩
      · exact receivedData_unannounced hFacts hSched hNew hOpen hEarly (hTimely hData) hOk
      · rw [announcing_of_scheduled hSched] at hReq
        exact absurd hReq.1 (Nat.lt_irrefl 0)
    | false =>
      rw [hScheduled hSched] at hOk
      refine recvMsg_first hm hFacts hSched hData ?_ ?_ ?_ hNew hOpen (hScheduled hSched) hOk
      all_goals rw [announcing_of_unsolicited hSched]
  | resent i hSent hAnnounced =>
    rw [hNew] at hAnnounced
    cases hAnnounced

/-- A packet of a message of known size. -/
theorem recvMsg_tracked {l : MsgLog} (hm : m.Ok cfg) (hp : IsPacketOf m id l.announced p)
    (hTracks : Tracks m (some im) l) (hTracked : Tracked m l.arrived l.early im)
    (hKnown : l.announced = true) (hOpen : l.completed = false)
    (hTimely : p.isData = true → p.pktIndex ∉ l.early) (hState : h.inbound.get? id = some im)
    (hOk : h.recvMsg cfg p im = .ok h') :
    p.isData = true ∧ Outcome m id l p h (im.receivedPktBitmap[p.pktIndex]? ≠ some true) h' := by
  rcases recvMsg_cases hOk with ⟨-, hOk⟩ | ⟨hNew, -⟩
  · obtain ⟨⟨hData, -⟩, -⟩ := receivedData_cases hOk
    exact ⟨hData, receivedData_tracked hm (hp.facts hm) hTracks hTracked hKnown hOpen
      (hTimely hData) hOk hState⟩
  · have hInfo := hNew.2
    rw [hTracked.info] at hInfo
    cases hInfo

/-- What a packet does that the receiver can recognize. -/
theorem deliver_cases {l : MsgLog} {window : Int} (hm : m.Ok cfg)
    (hp : IsPacketOf m id l.announced p) (hTracks : Tracks m (h.inbound.get? id) l)
    (hTimely : Timely l p) (hOk : h.recv cfg p window = .ok h') :
    Outcome m id l p (h.updateSenderState cfg p.src window) (h.counts p) h' := by
  have hFacts := hp.facts hm
  have hId := hFacts.reqId
  rcases recv_uncredited_cases hFacts.credit hOk with
    ⟨hIgnored, rfl⟩ | ⟨hMulti, -, hFresh, -, hOk⟩
  · have hNot : h.counts p = false := by
      unfold counts
      rw [decide_eq_false_iff_not]
      rintro ⟨hData, hMulti, hFresh, -⟩
      rcases hIgnored with hSingle | hResend | ⟨hNone, -, hStale⟩
      · exact hMulti hSingle
      · exact hFacts.msgType hResend
      · exact hFresh ⟨hNone, hStale⟩
    rw [hNot]
    exact .ignored
  · have hPlain := hTimely hMulti
    have hCounts (m' : InboundMsgState) (hState : (h.dataState p).ensureInboundTracking = m') :
        h.counts p = decide (p.isData = true ∧ m'.receivedPktBitmap[p.pktIndex]? ≠ some true) := by
      unfold counts
      rw [hState, hMulti, decide_eq_decide]
      constructor
      · exact fun hAll => ⟨hAll.1, hAll.2.2.2⟩
      · exact fun hBoth => ⟨hBoth.1, nofun, fun hStale => hFresh ⟨hStale.1, hBoth.1, hStale.2⟩,
          hBoth.2⟩
    unfold msgOf at hOk
    unfold dataState at hCounts
    rw [hId] at hOk hCounts hFresh
    have hCountsData (hState : ((h.inbound.get? id).getD { remoteAddr := p.src }) =
        unannounced m l.arrived) : h.counts p = p.isData := by
      rw [hState] at hCounts
      refine (hCounts _ rfl).trans ?_
      rw [Bool.eq_iff_iff, decide_eq_true_eq]
      exact ⟨And.left, fun hData => ⟨hData, unmarked_unannounced m l.arrived _ _⟩⟩
    have hStage := hTracks.stage
    cases hInb : h.inbound.get? id with
    | none =>
      rw [hInb] at hStage hOk hFresh
      cases hStage with
      | unknown hNew hOpen hNone =>
        have hEarly : l.early = l.arrived := by
          rw [hNone]
          exact Finset.subset_empty.mp (hNone ▸ hTracks.early_sub)
        have hState : ({ remoteAddr := p.src } : InboundMsgState) = unannounced m l.arrived := by
          rw [hFacts.src, hNone]
          rfl
        rw [if_neg (by rw [hOpen]; nofun)] at hPlain
        rw [Option.getD_none, hState] at hOk
        rw [hCountsData (by rw [hInb, Option.getD_none, hState])]
        exact recvMsg_unannounced hm hp hNew hOpen hEarly (fun _ => hNone) hPlain hOk
      | deleted hKnown hCompleted hActive hAll =>
        rw [if_pos hCompleted] at hPlain
        cases hp with
        | grantReq _ _ => exact absurd hPlain (Nat.lt_irrefl 0)
        | data i hSent =>
          obtain ⟨-, -, -, -, -, -, -, -, hResend⟩ := announcing_data m
            (m.dataPacket id (i = 0) (i * maxR2p2Payload) (pktPayload m.totalBytes i))
          rw [hResend] at hPlain
          exact absurd hPlain (Nat.lt_irrefl 0)
        | resent i hSent _ =>
          exact absurd ⟨rfl, isData_dataPacket m id (i = 0) (i * maxR2p2Payload)
            (pktPayload m.totalBytes i), hPlain⟩ hFresh
    | some im =>
      rw [hInb] at hStage hOk hTracks
      rw [Option.getD_some] at hOk
      cases hStage with
      | early hNew hOpen hSched hActive hEarly hSome =>
        rw [if_neg (by rw [hOpen]; nofun)] at hPlain
        rw [hCountsData (by rw [hInb, Option.getD_some])]
        refine recvMsg_unannounced hm hp hNew hOpen hEarly ?_ hPlain hOk
        intro hOwn
        rw [hSched] at hOwn
        cases hOwn
      | tracked _ hKnown hOpen hActive hTracked =>
        rw [if_neg (by rw [hOpen]; nofun)] at hPlain
        have hState : (h.updateSenderState cfg p.src window).inbound.get? id = some im := hInb
        obtain ⟨hData, hOutcome⟩ :=
          recvMsg_tracked hm hp hTracks hTracked hKnown hOpen hPlain hState hOk
        rw [hInb, Option.getD_some] at hCounts
        rw [hCounts im (by rw [if_neg (fun hNew => hNew.2 hTracked.info),
          hTracked.ensureInboundTracking_eq]), hData]
        simpa using hOutcome

/-- Data that is not counted has been counted before. -/
theorem mem_arrived_of_not_counts {l : MsgLog} (hm : m.Ok cfg) (hp : IsPacketOf m id l.announced p)
    (hTracks : Tracks m (h.inbound.get? id) l) (hData : p.isData = true)
    (hMulti : p.isSinglePktReply = false) (hNot : h.counts p = false) :
    p.pktIndex ∈ l.arrived := by
  have hFacts := hp.facts hm
  have hStage := hTracks.stage
  have hCases : h.inbound.get? p.reqId = none ∧ 0 < p.resendBytes ∨
      (h.dataState p).ensureInboundTracking.receivedPktBitmap[p.pktIndex]? = some true := by
    by_contra hNeither
    push Not at hNeither
    refine Bool.eq_false_iff.mp hNot (decide_eq_true ⟨hData, by simp [hMulti], ?_, hNeither.2⟩)
    exact fun hStale => absurd (hNeither.1 hStale.1) (by omega)
  unfold dataState at hCases
  rw [hFacts.reqId, hFacts.src] at hCases
  have hUnmarked (arrived : Finset Nat) := unmarked_unannounced m arrived p.creditReq p.pktIndex
  cases hState : h.inbound.get? id with
  | none =>
    rw [hState] at hCases hStage
    rcases hCases with ⟨-, hResend⟩ | hMarked
    · cases hp with
      | grantReq _ _ => cases hData
      | data i _ =>
        obtain ⟨-, -, -, -, -, -, -, -, hPlain⟩ := announcing_data m
          (m.dataPacket id (i = 0) (i * maxR2p2Payload) (pktPayload m.totalBytes i))
        rw [hPlain] at hResend
        exact absurd hResend (Nat.lt_irrefl 0)
      | resent i hSent hKnown =>
        cases hStage with
        | unknown hNew _ _ =>
          rw [hNew] at hKnown
          cases hKnown
        | deleted _ _ _ hAll =>
          rw [hAll, Finset.mem_range, lt_numPkts]
          have hSplit := hm.split
          have hIndex := (hFacts.data hData).1
          omega
    · exact absurd hMarked (hUnmarked ∅)
  | some im =>
    rw [hState] at hCases hStage
    rcases hCases with ⟨hNone, -⟩ | hMarked
    · cases hNone
    · rw [Option.getD_some] at hMarked
      cases hStage with
      | early _ _ _ _ _ _ => exact absurd hMarked (hUnmarked l.arrived)
      | tracked _ _ _ _ hTracked =>
        rw [if_neg (fun hNew => hNew.2 hTracked.info), hTracked.ensureInboundTracking_eq] at hMarked
        exact ((hTracked.bits _).mp hMarked).1

end Hybrid

/-! ## What the receiver has stored afterwards -/

namespace Outcome

variable {l : MsgLog} {h h' : Hybrid} {counted : Bool}

theorem inbound_ne (hOut : Outcome m id l p h counted h') {other : UniqReqId} (hOther : other ≠ id) :
    h'.inbound.get? other = h.inbound.get? other := by
  have hSettle (t : Hybrid) (im : InboundMsgState) (hSame : t.inbound = h.inbound) :
      (t.settleMsg id im).inbound.get? other = h.inbound.get? other := by
    rw [Hybrid.settleMsg_inbound, hSame]
    split
    · exact Table.get?_erase_of_ne _ hOther
    · exact Table.get?_set_of_ne _ _ hOther
  cases hOut with
  | ignored => rfl
  | announced _ _ _ _ _ _ => exact Table.get?_set_of_ne _ _ hOther
  | early _ _ _ _ _ =>
    rw [Hybrid.setMsg_inbound, Hybrid.replenish_inbound]
    exact Table.get?_set_of_ne _ _ hOther
  | counted im _ _ _ _ => exact hSettle _ im (by simp)
  | first im _ _ _ _ _ _ => exact hSettle _ im (by simp)

/-- A packet of a message of known size is counted. -/
theorem received_counted (l : MsgLog) (p : Packet) {after : Option InboundMsgState}
    (hKnown : ∀ im, after = some im → im.receivedMsgInfo = true) :
    l.received p true after = { l with
      seen := if p.isData then insert p.pktIndex l.seen else l.seen
      arrived := insert p.pktIndex l.arrived
      announced := true
      completed := l.completed || after.isNone } := by
  unfold MsgLog.received
  cases after with
  | none => simp
  | some im => simp [hKnown im rfl]

theorem tracks_settled {arrived : Finset Nat} {im : InboundMsgState} {t : Hybrid}
    (hm : m.Ok cfg) (hActive : m.active = true)
    (hSent : ∀ i ∈ arrived, i * maxR2p2Payload < m.bytesSent) (hSub : l.early ⊆ arrived)
    (hSingle : m.isSinglePktReply = false) (hTracked : Tracked m arrived l.early im)
    (hArrived : insert p.pktIndex l.arrived = arrived) (hOpen : l.completed = false) :
    Tracks m ((t.settleMsg id im).inbound.get? id)
      (l.received p true ((t.settleMsg id im).inbound.get? id)) := by
  have hSplit := hm.split
  rw [Hybrid.settleMsg_inbound]
  split
  · rename_i hComplete
    have hGone : ∀ im : InboundMsgState, none = some im → im.receivedMsgInfo = true :=
      fun _ h => absurd h (Option.some_ne_none _).symm
    rw [Table.get?_erase_self, received_counted l p hGone, hArrived]
    refine ⟨hSent, hSub, fun h => absurd (hSingle.symm.trans h) Bool.false_ne_true, ?_⟩
    refine .deleted rfl (by simp) hActive ?_
    exact hTracked.isComplete (fun i hi => by have := hSent i hi; omega) hComplete
  · rw [Table.get?_set_self, received_counted l p fun im' h => Option.some.inj h ▸ hTracked.info,
      hArrived]
    refine ⟨hSent, hSub, fun h => absurd (hSingle.symm.trans h) Bool.false_ne_true, ?_⟩
    exact .tracked im rfl (by simp [hOpen]) hActive hTracked

/-- What the receiver has stored after a packet fits to what has arrived. -/
theorem tracks (hm : m.Ok cfg) (hp : PacketFacts m id p) (hTracks : Tracks m (h.inbound.get? id) l)
    (hSingle : counted = true → p.isData = true ∧ m.isSinglePktReply = false)
    (hOut : Outcome m id l p h counted h') :
    Tracks m (h'.inbound.get? id) (l.received p counted (h'.inbound.get? id)) := by
  have hActive (hSent : 0 < m.bytesSent) : m.active = true := by
    by_contra hInactive
    have hZero := (hm.inactive (Bool.eq_false_iff.mpr hInactive)).1
    omega
  have hInsert (hData : p.isData = true) :
      ∀ i ∈ insert p.pktIndex l.arrived, i * maxR2p2Payload < m.bytesSent := by
    intro i hi
    rcases Finset.mem_insert.mp hi with rfl | hOld
    · exact (hp.data hData).1
    · exact hTracks.arrived_sent i hOld
  cases hOut with
  | ignored =>
    generalize h.inbound.get? id = inb at hTracks ⊢
    obtain ⟨hSent, hSub, hNone, hStage⟩ := hTracks
    refine ⟨hSent, hSub, hNone, ?_⟩
    unfold MsgLog.received
    simp only [Bool.false_and, Bool.or_false, Bool.false_eq_true, if_false]
    cases hStage with
    | unknown hNew hOpen hArrived =>
      exact .unknown (by simp [hNew]) hOpen hArrived
    | early hNew hOpen hSched hAct hEarly hSome =>
      exact .early (by simp [hNew, unannounced]) hOpen hSched hAct hEarly hSome
    | tracked im hKnown hOpen hAct hTracked =>
      exact .tracked im (by simp [hKnown]) hOpen hAct hTracked
    | deleted hKnown hCompleted hAct hAll =>
      exact .deleted (by simp [hKnown]) hCompleted hAct hAll
  | announced hGrantReq hSched hAct hNew hOpen hEarly =>
    rw [Hybrid.setMsg_inbound, Table.get?_set_self]
    have hTracked := tracked_announced hm.pos l.arrived
    refine ⟨hTracks.arrived_sent, hTracks.early_sub, hTracks.single, ?_⟩
    refine .tracked _ ?_ ?_ hAct ?_
    · unfold MsgLog.received
      simp [hTracked.info]
    · unfold MsgLog.received
      simp [hOpen]
    · unfold MsgLog.received
      simpa [hEarly] using hTracked
  | early hSched hNew hOpen hEarly hFresh =>
    obtain ⟨hData, hMulti⟩ := hSingle rfl
    have hSent := hInsert hData
    rw [Hybrid.setMsg_inbound, Table.get?_set_self]
    have hLog : l.received p true (some (unannounced m (insert p.pktIndex l.arrived))) =
        { l with
          seen := if p.isData then insert p.pktIndex l.seen else l.seen
          arrived := insert p.pktIndex l.arrived
          early := insert p.pktIndex l.early } := by
      unfold MsgLog.received
      simp [unannounced, hNew, hOpen]
    rw [hLog]
    refine ⟨hSent, Finset.insert_subset_insert _ hTracks.early_sub, ?_, ?_⟩
    · intro h
      rw [hMulti] at h
      cases h
    · exact .early hNew hOpen hSched
        (hActive (Nat.lt_of_le_of_lt (Nat.zero_le _) (hSent _ (Finset.mem_insert_self _ _))))
        (by rw [hEarly]) ⟨_, Finset.mem_insert_self _ _⟩
  | counted im hKnown hOpen hFresh hTracked =>
    obtain ⟨hData, hMulti⟩ := hSingle rfl
    have hSent := hInsert hData
    exact tracks_settled hm (hActive (Nat.lt_of_le_of_lt (Nat.zero_le _)
      (hSent _ (Finset.mem_insert_self _ _)))) hSent
      (hTracks.early_sub.trans (Finset.subset_insert _ _)) hMulti hTracked rfl hOpen
  | first im hUnsol hNew hOpen hNone hGranted hTracked =>
    obtain ⟨hData, hMulti⟩ := hSingle rfl
    have hSent := hInsert hData
    have hEmpty : l.early = ∅ := Finset.subset_empty.mp (hNone ▸ hTracks.early_sub)
    have hOne : insert p.pktIndex l.arrived = {p.pktIndex} := by rw [hNone]; rfl
    rw [hOne] at hSent
    exact tracks_settled hm (hActive (Nat.lt_of_le_of_lt (Nat.zero_le _)
      (hSent _ (Finset.mem_singleton_self _)))) hSent (hEmpty ▸ Finset.empty_subset _) hMulti
      (hEmpty ▸ hTracked) hOne hOpen

end Outcome

end Dpdq.Ns2
