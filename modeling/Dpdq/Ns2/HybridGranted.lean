import Dpdq.Lib.Pairing
import Dpdq.Ns2.HybridCredit

/-!
# What the grants of a message are for

The grants of a message that have not come back are paired with some of its scheduled packets: one
grant for each of them, with its payload (`GrantedExact`). A new grant is for a packet without one,
and a bounced grant leaves its packet without one, provided that the message is still there and that
the receiver has not counted the data yet. When the message is granted, all scheduled packets have
their grants.
-/

namespace Dpdq.Ns2

open Dpdq.Lib

/-- The data that a grant is for. -/
def Hybrid.Grant.data (g : Hybrid.Grant) : Int := g.credit - (wireOverhead + g.creditPad)

/-- The packets of a message that need grants. -/
def scheduledPkts (m : OutboundMsgState) : Finset Nat :=
  pktsFrom m.totalBytes m.selfAllocCreditData

structure GrantedExact (m : OutboundMsgState) (l : MsgLog) (inb : Option InboundMsgState)
    (grants : Multiset Hybrid.Grant) (pkts : Finset Nat) : Prop where
  paired : PairedWith (fun i => (pktPayload m.totalBytes i : Int))
    (grants.map Hybrid.Grant.data) pkts
  sub : pkts ⊆ scheduledPkts m
  unannounced : l.announced = false → pkts = ∅
  granted : ∀ im, inb = some im → l.announced = true →
    m.selfAllocCreditData + ∑ i ∈ pkts, pktPayload m.totalBytes i = im.dataBytesGranted
  completed : l.completed = true → pkts = scheduledPkts m

/-- The grants of a message fit to it, and no reply of one packet asks for a grant. -/
structure Booked (m : OutboundMsgState) (l : MsgLog) (inb : Option InboundMsgState)
    (grants : Multiset Hybrid.Grant) : Prop where
  grants : ∃ pkts, GrantedExact m l inb grants pkts
  first : l.announced = true → m.isScheduled = false → l.arrived.Nonempty
  single : m.isSinglePktReply = true → m.active = true → m.isScheduled = false
  singleUnknown : m.isSinglePktReply = true → l.announced = false

variable {cfg : HybridConfig} {addr : Int} {m m' : OutboundMsgState} {l l' : MsgLog}
  {inb inb' : Option InboundMsgState} {grants : Multiset Hybrid.Grant} {pkts : Finset Nat}

/-! ## Grants -/

theorem wireBytes_sub_framePadding (d : Nat) :
    (wireBytes d : Int) - (wireOverhead + framePadding d) = d := by
  simp only [wireBytes, framePadding, wireOverhead, r2p2AllHeadersSize, interPktGapSize,
    ethernetPreambleSize, minEthernetFrameOnWire]
  omega

theorem IsGrantOf.credit_eq {g : Hybrid.Grant} (h : IsGrantOf m g) :
    g.credit = wireBytes g.data.toNat := by
  obtain ⟨d, -, -, hCredit, hPad⟩ := h.data
  rw [Hybrid.Grant.data, hCredit, hPad, wireBytes_sub_framePadding, Int.toNat_natCast]

theorem GrantedExact.congr (h : GrantedExact m l inb grants pkts)
    (hAnnounced : l'.announced = l.announced) (hCompleted : l'.completed = l.completed) :
    GrantedExact m l' inb grants pkts where
  paired := h.paired
  sub := h.sub
  unannounced hNew := h.unannounced (hAnnounced.symm.trans hNew)
  granted im hState hKnown := h.granted im hState (hAnnounced.symm.trans hKnown)
  completed hDone := h.completed (hCompleted.symm.trans hDone)

theorem Booked.congr (h : Booked m l inb grants) (hArrived : l'.arrived = l.arrived)
    (hAnnounced : l'.announced = l.announced) (hCompleted : l'.completed = l.completed) :
    Booked m l' inb grants where
  grants := h.grants.imp fun _ hExact => hExact.congr hAnnounced hCompleted
  first hKnown hUnsolicited := hArrived ▸ h.first (hAnnounced.symm.trans hKnown) hUnsolicited
  single := h.single
  singleUnknown hSingle := hAnnounced.trans (h.singleUnknown hSingle)

/-- A message moves on at its sender. -/
theorem Booked.grows (h : Booked m l inb grants) (hGrows : Grows m m')
    (hInactive : m.active = false → l.announced = false ∧ l.completed = false)
    (hSame : m'.isSinglePktReply = m.isSinglePktReply)
    (hSingle : m.active = false → m'.isSinglePktReply = true → m'.active = true →
      m'.isScheduled = false) : Booked m' l inb grants := by
  obtain ⟨pkts, hExact⟩ := h.grants
  cases hActive : m.active with
  | true =>
    have hMsg := hGrows.same hActive
    have hPkts : scheduledPkts m' = scheduledPkts m := by
      rw [scheduledPkts, scheduledPkts, hMsg.totalBytes, hMsg.selfAllocCreditData]
    refine ⟨⟨pkts, ?_, ?_, hExact.unannounced, ?_, ?_⟩, ?_, ?_, ?_⟩
    · rw [hMsg.totalBytes]
      exact hExact.paired
    · rw [hPkts]
      exact hExact.sub
    · rw [hMsg.totalBytes, hMsg.selfAllocCreditData]
      exact hExact.granted
    · rw [hPkts]
      exact hExact.completed
    · rw [hMsg.isScheduled]
      exact h.first
    · rw [hSame, hMsg.active, hMsg.isScheduled]
      exact h.single
    · rw [hSame]
      exact h.singleUnknown
  | false =>
    obtain ⟨hNew, hOpen⟩ := hInactive hActive
    have hNone := hExact.unannounced hNew
    have hNo {P : Prop} (hKnown : l.announced = true) : P := by
      rw [hNew] at hKnown
      cases hKnown
    refine ⟨⟨∅, ?_, Finset.empty_subset _, fun _ => rfl, fun _ _ => hNo, ?_⟩, hNo, hSingle hActive,
      fun _ => hNew⟩
    · have hPaired := hExact.paired
      rw [hNone] at hPaired
      exact hPaired
    · intro hDone
      rw [hOpen] at hDone
      cases hDone

/-! ## What a step does to one message -/

theorem aligned_selfAllocCreditData (hm : m.Ok cfg) :
    Aligned m.totalBytes m.selfAllocCreditData := by
  cases hScheduled : m.isScheduled with
  | true =>
    rw [(hm.scheduled hScheduled).2]
    exact ⟨Nat.zero_le _, Or.inl rfl⟩
  | false => exact (hm.unsolicited hScheduled).2.2.1

/-- A message that is granted has a grant for every scheduled packet. -/
theorem eq_scheduledPkts (hm : m.Ok cfg) (hSub : pkts ⊆ scheduledPkts m)
    (hSum : m.selfAllocCreditData + ∑ i ∈ pkts, pktPayload m.totalBytes i = m.totalBytes) :
    pkts = scheduledPkts m :=
  eq_pktsFrom_of_sum (aligned_selfAllocCreditData hm) hSub hSum

/-- Data is counted. The state of the message is kept with what it was granted, or all of it was. -/
theorem GrantedExact.settle {id : UniqReqId} {p : Packet} {im : InboundMsgState} (hm : m.Ok cfg)
    (hPaired : PairedWith (fun i => (pktPayload m.totalBytes i : Int))
      (grants.map Hybrid.Grant.data) pkts) (hSub : pkts ⊆ scheduledPkts m)
    (hExpected : im.dataBytesExpected = m.totalBytes) (hInfo : im.receivedMsgInfo = true)
    (hSum : m.selfAllocCreditData + ∑ i ∈ pkts, pktPayload m.totalBytes i = im.dataBytesGranted)
    (hOpen : l.completed = false) (t : Hybrid) :
    GrantedExact m (l.received p true ((t.settleMsg id im).inbound.get? id))
      ((t.settleMsg id im).inbound.get? id) grants pkts := by
  have hKnown := (received_settled l p id hInfo t).1
  have hNo {P : Prop} (hNew : (l.received p true ((t.settleMsg id im).inbound.get? id)).announced =
      false) : P := by
    rw [hKnown] at hNew
    cases hNew
  refine ⟨hPaired, hSub, hNo, ?_, ?_⟩
  · intro im' hState _
    rw [Hybrid.settleMsg_inbound] at hState
    split at hState
    · rw [Table.get?_erase_self] at hState
      cases hState
    · rw [Table.get?_set_self] at hState
      cases hState
      exact hSum
  · intro hDone
    rw [Hybrid.settleMsg_inbound] at hDone
    split at hDone
    · rename_i hComplete
      simp only [InboundMsgState.isComplete, decide_eq_true_eq] at hComplete
      apply eq_scheduledPkts hm hSub
      rw [hSum, hComplete.2, hExpected]
    · rw [Table.get?_set_self] at hDone
      simp [MsgLog.received, hOpen] at hDone

/-- An announcement grants nothing. -/
theorem announced_granted (im : InboundMsgState) (bytes : Nat) :
    (im.announced bytes).dataBytesGranted = im.dataBytesGranted ∧
      (im.announced bytes).seq = im.seq := by
  rw [InboundMsgState.announced, InboundMsgState.ensureInboundTracking]
  split
  · exact ⟨rfl, rfl⟩
  · dsimp only
    split <;> exact ⟨rfl, rfl⟩

/-- A packet is received. -/
theorem Booked.deliver {id : UniqReqId} {p : Packet} {h h' : Hybrid} {counted : Bool}
    (hBooked : Booked m l (h.inbound.get? id) grants) (hm : m.Ok cfg)
    (hTracks : Tracks m (h.inbound.get? id) l)
    (hCounts : counted = true → m.isSinglePktReply = false)
    (hOut : Outcome m id l p h counted h') :
    Booked m (l.received p counted (h'.inbound.get? id)) (h'.inbound.get? id) grants := by
  obtain ⟨pkts, hExact⟩ := hBooked.grants
  cases hOut with
  | ignored =>
    refine hBooked.congr rfl (received_ignored hTracks) ?_
    simp [MsgLog.received]
  | announced hGrantReq hScheduled hActive hNew hOpen hEarly =>
    have hNone := hExact.unannounced hNew
    have hPaired := hExact.paired
    rw [hNone] at hPaired
    refine ⟨⟨∅, hPaired, Finset.empty_subset _, fun _ => rfl, ?_, ?_⟩, ?_, hBooked.single, ?_⟩
    · intro im hState _
      rw [Hybrid.setMsg_inbound, Table.get?_set_self] at hState
      cases hState
      rw [(hm.scheduled hScheduled).2, (announced_granted _ _).1, Finset.sum_empty]
      rfl
    · intro hDone
      simp [MsgLog.received, hOpen] at hDone
    · intro _ hUnsolicited
      rw [hScheduled] at hUnsolicited
      cases hUnsolicited
    · intro hSingle
      have hUnsolicited := hBooked.single hSingle hActive
      rw [hScheduled] at hUnsolicited
      cases hUnsolicited
  | early hScheduled hNew hOpen hEarly hFresh =>
    have hUnknown : (l.received p true (((h.replenish m.src (pktPayload m.totalBytes
        p.pktIndex)).setMsg id (unannounced m (insert p.pktIndex l.arrived))).inbound.get?
          id)).announced = false := by
      rw [Hybrid.setMsg_inbound, Table.get?_set_self]
      simp [MsgLog.received, hNew, unannounced]
    refine ⟨⟨pkts, hExact.paired, hExact.sub, fun _ => hExact.unannounced hNew, ?_, ?_⟩, ?_,
      hBooked.single, fun _ => hUnknown⟩
    · intro im _ hKnown
      rw [hUnknown] at hKnown
      cases hKnown
    · intro hDone
      rw [Hybrid.setMsg_inbound, Table.get?_set_self] at hDone
      simp [MsgLog.received, hOpen] at hDone
    · intro hKnown
      rw [hUnknown] at hKnown
      cases hKnown
  | counted im hKnown hOpen hFresh hTracked old hOld hArrive =>
    have hSum := hExact.granted old hOld hKnown
    have hGranted : im.dataBytesGranted = old.dataBytesGranted := by
      rw [hArrive]
      rfl
    refine ⟨⟨pkts, .settle hm hExact.paired hExact.sub hTracked.expected hTracked.info
      (hSum.trans hGranted.symm) hOpen _⟩, ?_, hBooked.single, fun hSingle => ?_⟩
    · exact fun _ _ => ⟨p.pktIndex, Finset.mem_insert_self _ _⟩
    · rw [hCounts rfl] at hSingle
      cases hSingle
  | first im hUnsolicited hNew hOpen hNone hGranted hTracked =>
    have hEmpty := hExact.unannounced hNew
    refine ⟨⟨pkts, .settle hm hExact.paired hExact.sub hTracked.expected hTracked.info ?_ hOpen _⟩,
      ?_, hBooked.single, fun hSingle => ?_⟩
    · rw [hEmpty, Finset.sum_empty, hGranted, Nat.add_zero]
    · exact fun _ _ => ⟨p.pktIndex, Finset.mem_insert_self _ _⟩
    · rw [hCounts rfl] at hSingle
      cases hSingle

/-- A bounced grant leaves its packet without a grant. -/
theorem Booked.bounceBack {g : Hybrid.Grant} {im : InboundMsgState}
    (hBooked : Booked m l (some im) (g ::ₘ grants))
    (hKnown : l.announced = true) (hOpen : l.completed = false)
    (hRefunds : im.dataBytesReceived + g.data ≤ im.dataBytesGranted) :
    Booked m l (some (im.revoke g.data)) grants := by
  obtain ⟨pkts, hExact⟩ := hBooked.grants
  have hPaired := hExact.paired
  rw [Multiset.map_cons] at hPaired
  obtain ⟨i, hi, hData, hRest⟩ := hPaired.of_cons
  have hSum := hExact.granted im rfl hKnown
  rw [← Finset.add_sum_erase _ _ hi] at hSum
  have hRevoke : (im.revoke g.data).dataBytesGranted =
      im.dataBytesGranted - pktPayload m.totalBytes i := by
    have hLe := pktPayload_le m.totalBytes i
    have hMod : (g.data % 2 ^ 64).toNat = pktPayload m.totalBytes i := by
      rw [← hData]
      simp only [maxR2p2Payload] at hLe
      omega
    simp only [InboundMsgState.revoke, InboundMsgState.revokeData, hMod]
    omega
  refine ⟨⟨pkts.erase i, hRest, (Finset.erase_subset _ _).trans hExact.sub, ?_, ?_, ?_⟩,
    hBooked.first, hBooked.single, hBooked.singleUnknown⟩
  · intro hNew
    rw [hKnown] at hNew
    cases hNew
  · intro im' hState _
    cases hState
    rw [hRevoke]
    omega
  · intro hDone
    rw [hOpen] at hDone
    cases hDone

/-- A grant is for a packet without one. -/
theorem Booked.grant {im : InboundMsgState} {g : Hybrid.Grant} {d : Nat} (hm : m.Ok cfg)
    (hBooked : Booked m l (some im) grants) (hKnown : l.announced = true)
    (hOpen : l.completed = false) (hData : g.data = d)
    (hd : d = min maxR2p2Payload (m.totalBytes - im.dataBytesGranted)) (hPos : 0 < d)
    (hNeed : Hybrid.needData im = d) :
    Booked m l (some (Hybrid.granted im)) (g ::ₘ grants) := by
  obtain ⟨pkts, hExact⟩ := hBooked.grants
  have hSum := hExact.granted im rfl hKnown
  have hAligned := aligned_selfAllocCreditData hm
  have hAll := sum_pktPayload_from hAligned
  have hSplit := Finset.sum_sdiff (f := pktPayload m.totalBytes) hExact.sub
  have hMissing : m.totalBytes - im.dataBytesGranted =
      ∑ i ∈ scheduledPkts m \ pkts, pktPayload m.totalBytes i := by
    rw [scheduledPkts] at hSplit ⊢
    omega
  have hSome : (scheduledPkts m \ pkts).Nonempty := by
    rw [Finset.nonempty_iff_ne_empty]
    intro hNone
    rw [hNone, Finset.sum_empty] at hMissing
    omega
  obtain ⟨i, hi, hPayload⟩ := exists_missing_pkt hSome fun i hi =>
    (mem_pktsFrom.mp (Finset.sdiff_subset hi)).1
  rw [← hMissing, ← hd] at hPayload
  obtain ⟨hScheduled, hNew⟩ := Finset.mem_sdiff.mp hi
  refine ⟨⟨insert i pkts, ?_, Finset.insert_subset hScheduled hExact.sub, ?_, ?_, ?_⟩,
    hBooked.first, hBooked.single, hBooked.singleUnknown⟩
  · rw [Multiset.map_cons, hData, ← hPayload]
    exact hExact.paired.cons hNew
  · intro hUnknown
    rw [hKnown] at hUnknown
    cases hUnknown
  · intro im' hState _
    cases hState
    rw [Finset.sum_insert hNew, hPayload]
    show _ = im.dataBytesGranted + Hybrid.needData im
    omega
  · intro hDone
    rw [hOpen] at hDone
    cases hDone

/-- A complete message is deleted. -/
theorem Booked.remove {im : InboundMsgState} (hm : m.Ok cfg)
    (hBooked : Booked m l (some im) grants) (hKnown : l.announced = true)
    (hGranted : im.dataBytesGranted = m.totalBytes) (completed : Bool) :
    Booked m { l with completed } none grants := by
  obtain ⟨pkts, hExact⟩ := hBooked.grants
  have hSum := hExact.granted im rfl hKnown
  refine ⟨⟨pkts, hExact.paired, hExact.sub, hExact.unannounced, nofun, fun _ => ?_⟩, hBooked.first,
    hBooked.single, hBooked.singleUnknown⟩
  exact eq_scheduledPkts hm hExact.sub (hSum.trans hGranted)

end Dpdq.Ns2
