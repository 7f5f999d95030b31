import Dpdq.Ns2.HybridSound

/-!
# What the steps of the network keep

For each kind of step, what it amounts to, and that `Sound` survives it.
-/

namespace Dpdq.Ns2

open Dpdq.Lib

variable {cfg : HybridConfig} {addr : Int}

/-! ## The receiver keeps its senders -/

namespace Hybrid

variable (h : Hybrid) (src credit : Int) (n : Nat) (id : UniqReqId) (m : InboundMsgState)

@[simp] theorem chargeSender_keys :
    (h.chargeSender src credit).senderState.keys = h.senderState.keys := by
  unfold chargeSender
  split
  · rfl
  · rename_i s hGet
    exact Finset.insert_eq_of_mem (Table.get?_eq_some.mp hGet).1

@[simp] theorem charge_keys : (h.charge src credit).senderState.keys = h.senderState.keys :=
  h.chargeSender_keys src credit

@[simp] theorem replenish_keys : (h.replenish src n).senderState.keys = h.senderState.keys := by
  simp [replenish, addCreditReplenished]

@[simp] theorem settleMsg_senderState : (h.settleMsg id m).senderState = h.senderState := by
  unfold settleMsg
  split <;> rfl

theorem updateSenderState_keys (window : Int) :
    (h.updateSenderState cfg src window).senderState.keys = insert src h.senderState.keys := rfl

end Hybrid

namespace Hybrid

/-! ## Bounced credit -/

variable {h h' : Hybrid} {g : Grant} {window : Int}

/-- A bounced grant gives its credit back, and its data to the message. -/
theorem recv_bounced (hCredit : 0 < g.credit) (hOk : h.recv cfg g.bounced window = .ok h') :
    h' = match h.inbound.get? g.reqId with
      | none => (h.updateSenderState cfg g.dst window).charge g.dst (-g.credit)
      | some m => ((h.updateSenderState cfg g.dst window).charge g.dst (-g.credit)).setMsg g.reqId
          (m.revoke (g.credit - (wireOverhead + g.creditPad))) := by
  unfold recv at hOk
  rw [check_bind_eq_ok] at hOk
  obtain ⟨-, hOk⟩ := hOk
  dsimp only at hOk
  rw [if_neg (show ¬ g.bounced.isSinglePktReply = true by
    unfold Packet.isSinglePktReply Grant.bounced; simp),
    if_neg (show ¬ g.bounced.msgType = .resend by nofun), if_pos (show 0 < g.bounced.credit from
      hCredit)] at hOk
  unfold receivedCredit at hOk
  simp only [check_bind_eq_ok] at hOk
  obtain ⟨-, -, hOk⟩ := hOk
  rw [if_pos (show g.bounced.bouncedCredit = true from rfl), charge_inbound,
    show (h.updateSenderState cfg g.bounced.src window).inbound = h.inbound from rfl] at hOk
  change (match h.inbound.get? g.reqId with | none => _ | some m => _) = _ at hOk
  cases hMsg : h.inbound.get? g.reqId with
  | none =>
    rw [hMsg] at hOk
    cases hOk
    rfl
  | some m =>
    rw [hMsg] at hOk
    cases hOk
    rfl

theorem recv_bounced_inbound (hCredit : 0 < g.credit)
    (hOk : h.recv cfg g.bounced window = .ok h') :
    h'.inbound = match h.inbound.get? g.reqId with
      | none => h.inbound
      | some m => h.inbound.set g.reqId (m.revoke (g.credit - (wireOverhead + g.creditPad))) := by
  rw [recv_bounced hCredit hOk]
  cases h.inbound.get? g.reqId with
  | none => exact charge_inbound _ _ _
  | some m => exact congrArg (Table.set · g.reqId _) (charge_inbound _ _ _)

theorem recv_bounced_keys (hCredit : 0 < g.credit)
    (hOk : h.recv cfg g.bounced window = .ok h') :
    h'.senderState.keys = insert g.dst h.senderState.keys := by
  have hKeys : (h.updateSenderState cfg g.dst window).senderState.keys =
      insert g.dst h.senderState.keys := updateSenderState_keys _ _ _
  rw [recv_bounced hCredit hOk, ← hKeys]
  cases h.inbound.get? g.reqId with
  | none => exact charge_keys _ _ _
  | some m => exact charge_keys _ _ _

end Hybrid

theorem Outcome.keys {m : OutboundMsgState} {id : UniqReqId} {l : MsgLog} {p : Packet}
    {h h' : Hybrid} {counted : Bool} (hOut : Outcome m id l p h counted h') :
    h'.senderState.keys = h.senderState.keys := by
  cases hOut with
  | ignored => rfl
  | announced => rfl
  | early => simp [Hybrid.setMsg]
  | counted => simp
  | first => simp [Hybrid.addCreditGranted, Hybrid.addRequestRcvd]

namespace HybridNet

variable {n n' : HybridNet} {id : UniqReqId}

/-! ## What the steps amount to -/

theorem submit_eq_some {m : OutboundMsgState} (hOk : n.submit id m = some n') :
    n.msgs.get? id = none ∧ 0 < m.totalBytes ∧ m.totalBytes < 2 ^ 31 ∧ n' = n.setMsg id m := by
  unfold submit at hOk
  split at hOk
  · rename_i hGuard
    exact ⟨hGuard.1, hGuard.2.1, hGuard.2.2, (Option.some.inj hOk).symm⟩
  · cases hOk

theorem activate_eq_some (hOk : n.activate cfg id = some n') :
    ∃ m m' avail pkt, n.msgs.get? id = some m ∧
      m.activate cfg id (n.availCreditBytes m.src) = some (m', avail, pkt) ∧
      n' = { n.setMsg id m' with
        availCreditBytes := Function.update n.availCreditBytes m'.src avail
        toRx := pkt.elim 0 ({·}) + n.toRx } := by
  simp only [activate, Option.bind_eq_bind, Option.bind_eq_some_iff] at hOk
  obtain ⟨m, hMsg, ⟨m', avail, pkt⟩, hActivate, hOk⟩ := hOk
  exact ⟨m, m', avail, pkt, hMsg, hActivate, (Option.some.inj hOk).symm⟩

theorem sendData_eq_some (hOk : n.sendData id = some n') :
    ∃ m m' avail pkt, n.msgs.get? id = some m ∧
      m.sendData id (n.availCreditBytes m.src) = some (m', avail, pkt) ∧
      n' = { n.setMsg id m' with
        availCreditBytes := Function.update n.availCreditBytes m'.src avail
        toRx := pkt ::ₘ n.toRx } := by
  simp only [sendData, Option.bind_eq_bind, Option.bind_eq_some_iff] at hOk
  obtain ⟨m, hMsg, ⟨m', avail, pkt⟩, hSend, hOk⟩ := hOk
  exact ⟨m, m', avail, pkt, hMsg, hSend, (Option.some.inj hOk).symm⟩

theorem retransmit_eq_some (hOk : n.retransmit id = some n') :
    ∃ m m' pkt, n.msgs.get? id = some m ∧ m.sendOneRetransmission id = some (m', pkt) ∧
      n' = { n.setMsg id m' with toRx := pkt ::ₘ n.toRx } := by
  simp only [retransmit, Option.bind_eq_bind, Option.bind_eq_some_iff] at hOk
  obtain ⟨m, hMsg, ⟨m', pkt⟩, hSend, hOk⟩ := hOk
  exact ⟨m, m', pkt, hMsg, hSend, (Option.some.inj hOk).symm⟩

/-- A packet has been received; the R2P2 layer sees what counts. -/
theorem deliver_eq_some {pkt : Packet} {window : Int}
    (hOk : n.deliver cfg pkt window = some n') :
    ∃ rx layer size, n.rx.recv cfg pkt window = .ok rx ∧
      (if n.rx.counts pkt ∨ pkt.isSinglePktReply then n.layer.recv pkt = some (layer, size)
        else layer = n.layer ∧ size = none) ∧
      n' = { n with
        rx := rx
        layer := layer
        toRx := n.toRx.erase pkt
        log := Function.update n.log pkt.reqId
          { (n.log pkt.reqId).received pkt (n.rx.counts pkt) (rx.inbound.get? pkt.reqId) with
            deliveries := size.toList ++ (n.log pkt.reqId).deliveries } } := by
  simp only [deliver, Option.bind_eq_bind, Option.bind_eq_some_iff] at hOk
  obtain ⟨rx, hRecv, hOk⟩ := hOk
  rw [toOption_eq_some] at hRecv
  split at hOk
  · rename_i hUp
    obtain ⟨⟨layer, size⟩, hLayer, hOk⟩ := Option.bind_eq_some_iff.mp hOk
    refine ⟨rx, layer, size, hRecv, ?_, (Option.some.inj hOk).symm⟩
    rw [if_pos hUp]
    exact hLayer
  · rename_i hUp
    refine ⟨rx, n.layer, none, hRecv, ?_, (Option.some.inj hOk).symm⟩
    rw [if_neg hUp]
    exact ⟨rfl, rfl⟩

theorem sendGrant_eq_some (hOk : n.sendGrant cfg id = some n') :
    ∃ rx g, n.rx.sendGrant cfg id = .ok (rx, g) ∧
      n' = { n with
        rx := rx
        log := Function.update n.log id { n.log id with
          completed := (n.log id).completed ||
            ((n.rx.inbound.get? id).isSome && (rx.inbound.get? id).isNone) }
        toTx := g.elim 0 ({·}) + n.toTx } := by
  simp only [sendGrant, Option.bind_eq_bind, Option.bind_eq_some_iff] at hOk
  obtain ⟨⟨rx, g⟩, hGrant, hOk⟩ := hOk
  exact ⟨rx, g, toOption_eq_some.mp hGrant, (Option.some.inj hOk).symm⟩

/-! ## The senders -/

namespace Sound

theorem submit (h : Sound cfg n) {m : OutboundMsgState} (hm : 0 < m.totalBytes →
    m.totalBytes < 2 ^ 31 → m.Ok cfg) (hRanges : m.resendRanges = [])
    (hOk : n.submit id m = some n') : Sound cfg n' := by
  obtain ⟨hNew, hPos, hLt, rfl⟩ := submit_eq_some hOk
  have hUntouched := h.untouched id hNew
  have hOld (l : UniqReqId) (k : OutboundMsgState) (hGet : n.msgs.get? l = some k) :
      (n.setMsg id m).msgs.get? l = some k := by
    have hl : l ≠ id := by
      rintro rfl
      rw [hNew] at hGet
      cases hGet
    exact (Table.get?_set_of_ne _ _ hl).trans hGet
  have hCases (l : UniqReqId) (k : OutboundMsgState)
      (hGet : (n.setMsg id m).msgs.get? l = some k) :
      l = id ∧ k = m ∨ n.msgs.get? l = some k := by
    by_cases hl : l = id
    · subst hl
      exact .inl ⟨rfl, Option.some.inj (hGet.symm.trans (Table.get?_set_self _ _ _))⟩
    · exact .inr ((Table.get?_set_of_ne _ _ hl).symm.trans hGet)
  obtain ⟨hState, hArrived, hEarly, hAnnounced, hCompleted⟩ := hUntouched
  refine ⟨?_, ?_, ?_, ?_, ?_, ?_, ?_, ?_⟩
  · intro l k hGet
    rcases hCases l k hGet with ⟨-, rfl⟩ | hGet
    · exact hm hPos hLt
    · exact h.msgs l k hGet
  · intro l k hGet
    rcases hCases l k hGet with ⟨rfl, rfl⟩ | hGet
    · show Tracks k (n.rx.inbound.get? l) (n.log l)
      rw [hState]
      refine ⟨?_, ?_, fun _ => hArrived, .unknown hAnnounced hCompleted hArrived⟩
      · rw [hArrived]
        exact fun i hi => absurd hi (Finset.notMem_empty i)
      · rw [hEarly]
        exact Finset.empty_subset _
    · exact h.tracks l k hGet
  · intro l hNone
    refine h.untouched l ?_
    by_contra hSome
    obtain ⟨k, hGet⟩ := Option.ne_none_iff_exists'.mp hSome
    rw [hOld l k hGet] at hNone
    cases hNone
  · intro l k hGet hSome
    rcases hCases l k hGet with ⟨rfl, rfl⟩ | hGet
    · exact absurd hState hSome
    · exact h.senders l k hGet hSome
  · intro l k hGet hSome
    rcases hCases l k hGet with ⟨rfl, rfl⟩ | hGet
    · exact absurd hRanges hSome
    · exact h.ranges l k hGet hSome
  · intro p hp
    obtain ⟨k, hGet, hPacket⟩ := h.packets p hp
    exact ⟨k, hOld _ k hGet, hPacket⟩
  · intro g hg
    obtain ⟨k, hGet, hGrant⟩ := h.grants g hg
    exact ⟨k, hOld _ k hGet, hGrant⟩
  · intro r hr
    obtain ⟨k, hGet, hResend⟩ := h.resends r hr
    exact ⟨k, hOld _ k hGet, hResend⟩

theorem activate (h : Sound cfg n) (hOk : n.activate cfg id = some n') : Sound cfg n' := by
  obtain ⟨m, m', avail, pkt, hMsg, hActivate, rfl⟩ := activate_eq_some hOk
  have hm := h.msgs id m hMsg
  obtain ⟨hInactive, hCases⟩ := OutboundMsgState.activate_cases hActivate
  obtain ⟨-, -, -, hRanges⟩ := hm.inactive hInactive
  have hNotActive (P : Prop) (hActive : m.active = true) : P := by
    rw [hInactive] at hActive
    cases hActive
  have hToRx : ∀ p ∈ pkt.elim 0 ({·}) + n.toRx, p ∈ n.toRx ∨
      p.reqId = id ∧ IsPacketOf m' id (n.log id).announced p := by
    intro p hp
    rcases Multiset.mem_add.mp hp with hp | hp
    · rcases hCases with ⟨-, rfl, -⟩ | ⟨-, rfl, rfl, -⟩
      · exact absurd hp (Multiset.notMem_zero p)
      · obtain rfl := Multiset.mem_singleton.mp hp
        refine .inr ⟨rfl, ?_⟩
        have hFirst : m.sentFirst = false := by
          rw [← Bool.not_eq_true, hm.first, (hm.inactive hInactive).1]
          exact Nat.lt_irrefl 0
        have hEq : m.grantReq id = { OutboundMsgState.grantReq
            { m with active := true, sentAnouncement := true } id with first := true } := by
          unfold OutboundMsgState.grantReq
          simp [hFirst]
        rw [hEq]
        exact .grantReq rfl (hm.inactive hInactive).2.1
    · exact .inl hp
  refine h.send hMsg (hm.activate hActivate) ?_ ?_ ?_ rfl rfl rfl rfl (fun _ hr => hr) hToRx
  · rcases hCases with ⟨-, -, -, rfl, -⟩ | ⟨-, -, rfl, -⟩ <;>
      exact ⟨rfl, rfl, hNotActive _⟩
  · rcases hCases with ⟨-, -, -, rfl, -⟩ | ⟨-, -, rfl, -⟩ <;> rfl
  · intro hSome
    rcases hCases with ⟨-, -, -, rfl, -⟩ | ⟨-, -, rfl, -⟩ <;> exact absurd hRanges hSome

theorem sendData (h : Sound cfg n) (hOk : n.sendData id = some n') : Sound cfg n' := by
  obtain ⟨m, m', avail, pkt, hMsg, hSend, rfl⟩ := sendData_eq_some hOk
  have hm := h.msgs id m hMsg
  obtain ⟨hActive, hStart, hUnsent, -, hSent, hSame, hm', -, hPkt⟩ := hm.sendData_cases hSend
  have hPayload : 0 < pktPayload m.totalBytes m.nextPkt := pktPayload_pos (by omega)
  have hSingle : m'.isSinglePktReply = m.isSinglePktReply := by
    unfold OutboundMsgState.isSinglePktReply
    rw [hSame.isRequest, hSame.pktId]
  have hRanges : m'.resendRanges = m.resendRanges := by
    unfold OutboundMsgState.sendData at hSend
    simp only at hSend
    split at hSend
    · rw [← (Prod.mk.inj (Option.some.inj hSend)).1]
    · cases hSend
  refine h.send hMsg hm' hSame.grows hSingle ?_ rfl rfl rfl rfl (fun _ hr => hr) ?_
  · rw [hRanges]
    exact h.ranges id m hMsg
  · intro p hp
    rcases Multiset.mem_cons.mp hp with rfl | hp
    · have hReqId : p.reqId = id := by
        rw [hPkt]
        exact (announcing_data m _).1
      refine .inr ⟨hReqId, ?_⟩
      rw [hPkt, ← hSame.dataPacket, ← hSame.announcing, ← hSame.totalBytes]
      exact .data m.nextPkt (by omega)
    · exact .inl hp

/-- What is sent again was announced. -/
theorem retransmit (h : Sound cfg n) (hOk : n.retransmit id = some n') : Sound cfg n' := by
  obtain ⟨m, m', pkt, hMsg, hSend, rfl⟩ := retransmit_eq_some hOk
  have hm := h.msgs id m hMsg
  obtain ⟨hm', hSame, hBytes, i, hSent, rfl⟩ := hm.retransmit_cases hSend
  have hSome : m.resendRanges ≠ [] := by
    intro hNone
    unfold OutboundMsgState.sendOneRetransmission at hSend
    rw [hNone] at hSend
    cases hSend
  have hAnnounced := h.ranges id m hMsg hSome
  have hSingle : m'.isSinglePktReply = m.isSinglePktReply := by
    unfold OutboundMsgState.isSinglePktReply
    rw [hSame.isRequest, hSame.pktId]
  refine h.send hMsg hm' hSame.grows hSingle (fun _ => hAnnounced) rfl rfl rfl rfl
    (fun _ hr => hr) ?_
  intro p hp
  rcases Multiset.mem_cons.mp hp with rfl | hp
  · refine .inr ⟨rfl, ?_⟩
    rw [← hSame.dataPacket, ← hSame.totalBytes]
    exact .resent i (by omega) hAnnounced
  · exact .inl hp

/-- A RESEND only queues ranges of packets to be sent again. -/
theorem receiveResend_cases (h : Sound cfg n) {r : Resend} (hOk : n.receiveResend r = some n') :
    ∃ m m', n.msgs.get? r.reqId = some m ∧ (n.log r.reqId).announced = true ∧ m'.Ok cfg ∧
      SameMsg m m' ∧ m'.bytesSent = m.bytesSent ∧
      n' = { n.setMsg r.reqId m' with resends := n.resends.erase r } := by
  unfold HybridNet.receiveResend at hOk
  split at hOk
  · rename_i hr
    obtain ⟨m, hMsg, hAnnounced, hRange⟩ := h.resends r hr
    simp only [hMsg] at hOk
    have hm := h.msgs _ m hMsg
    obtain ⟨hStart, hPos, hEnd⟩ := hRange
    have hBound : r.msgOffset + r.resendBytes < 2 ^ 32 := by
      have hLe := hEnd.1
      have hLt := hm.lt
      simp only at hLe
      omega
    obtain ⟨hm', hSame, hBytes⟩ := hm.handleResend hStart hBound hEnd hPos
    exact ⟨m, _, hMsg, hAnnounced, hm', hSame, hBytes, (Option.some.inj hOk).symm⟩
  · cases hOk

theorem receiveResend (h : Sound cfg n) {r : Resend} (hOk : n.receiveResend r = some n') :
    Sound cfg n' := by
  obtain ⟨m, m', hMsg, hAnnounced, hm', hSame, -, rfl⟩ := h.receiveResend_cases hOk
  have hSingle : m'.isSinglePktReply = m.isSinglePktReply := by
    unfold OutboundMsgState.isSinglePktReply
    rw [hSame.isRequest, hSame.pktId]
  exact h.send hMsg hm' hSame.grows hSingle (fun _ => hAnnounced) rfl rfl rfl rfl
    (fun _ hr => Multiset.mem_of_mem_erase hr) fun _ hp => .inl hp

/-! ## The receiver -/

theorem deliver (h : Sound cfg n) {pkt : Packet} {window : Int} (hPkt : pkt ∈ n.toRx)
    (hTimely : Timely (n.log pkt.reqId) pkt) (hOk : n.deliver cfg pkt window = some n') :
    Sound cfg n' := by
  obtain ⟨rx, layer, size, hRecv, -, rfl⟩ := deliver_eq_some hOk
  obtain ⟨m, hMsg, hPacket⟩ := h.packets pkt hPkt
  have hm := h.msgs _ m hMsg
  have hOut := Hybrid.deliver_cases hm hPacket (h.tracks _ m hMsg) hTimely hRecv
  have hFacts := hPacket.facts hm
  have hSingle (hCounted : n.rx.counts pkt = true) :
      pkt.isData = true ∧ m.isSinglePktReply = false := by
    unfold Hybrid.counts at hCounted
    obtain ⟨hData, hMulti, -⟩ := of_decide_eq_true hCounted
    rw [← (hFacts.data hData).2.2.1]
    exact ⟨hData, Bool.eq_false_iff.mpr hMulti⟩
  have hKeys : rx.senderState.keys = insert pkt.src n.rx.senderState.keys :=
    hOut.keys.trans (Hybrid.updateSenderState_keys _ _ _)
  have hBefore : Tracks m ((n.rx.updateSenderState cfg pkt.src window).inbound.get? pkt.reqId)
      (n.log pkt.reqId) := h.tracks _ m hMsg
  have hTracks := hOut.tracks hm hFacts hBefore hSingle
  refine h.receive pkt.reqId rfl ?_ ?_ ?_ ?_ ?_ ?_ ?_ ?_ ?_ ?_
  · exact fun l hl => hOut.inbound_ne hl
  · exact fun l hl => Function.update_of_ne hl _ _
  · intro k hGet
    cases hMsg.symm.trans hGet
    show Tracks m (rx.inbound.get? pkt.reqId) (Function.update n.log pkt.reqId _ pkt.reqId)
    rw [Function.update_self]
    exact hTracks.log_congr rfl rfl rfl rfl
  · intro hNone
    rw [hMsg] at hNone
    cases hNone
  · show n.rx.senderState.keys ⊆ rx.senderState.keys
    rw [hKeys]
    exact Finset.subset_insert _ _
  · intro k hGet _
    cases hMsg.symm.trans hGet
    show m.src ∈ rx.senderState.keys
    rw [hKeys, hFacts.src]
    exact Finset.mem_insert_self _ _
  · intro hKnown
    show (Function.update n.log pkt.reqId _ pkt.reqId).announced = true
    rw [Function.update_self]
    simp [MsgLog.received, hKnown]
  · exact fun p hp => Multiset.mem_of_mem_erase hp
  · exact fun g hg => .inl hg
  · exact fun r hr => .inl hr

/-- What bounced credit changes in a message is only what it was granted. -/
theorem bounceBack (h : Sound cfg n) {g : Hybrid.Grant} {window : Int} {rx : Hybrid}
    (hg : g ∈ n.bounced) (hRecv : n.rx.recv cfg g.bounced window = .ok rx) :
    Sound cfg { n with rx := rx, bounced := n.bounced.erase g } := by
  have hIssued : g ∈ n.issued := by
    unfold issued
    simp [hg]
  obtain ⟨m, hMsg, hKnown, hGrant⟩ := h.grants g hIssued
  have hTracks := h.tracks _ m hMsg
  have hCredit : 0 < g.credit := by
    obtain ⟨d, -, -, hCredit, -⟩ := hGrant.data
    rw [hCredit]
    unfold wireBytes minEthernetFrameOnWire
    omega
  have hSrc : m.src ∈ rx.senderState.keys := by
    rw [Hybrid.recv_bounced_keys hCredit hRecv, hGrant.dst]
    exact Finset.mem_insert_self _ _
  have hInbound := Hybrid.recv_bounced_inbound hCredit hRecv
  refine h.receive g.reqId rfl ?_ (fun _ _ => rfl) ?_ ?_ ?_ ?_ (fun hKnown => hKnown)
    (fun _ hp => hp) ?_ fun _ hr => .inl hr
  · intro l hl
    show rx.inbound.get? l = n.rx.inbound.get? l
    rw [hInbound]
    cases n.rx.inbound.get? g.reqId with
    | none => rfl
    | some im => exact Table.get?_set_of_ne _ _ hl
  · intro k hGet
    cases hMsg.symm.trans hGet
    show Tracks m (rx.inbound.get? g.reqId) (n.log g.reqId)
    cases hState : n.rx.inbound.get? g.reqId with
    | none =>
      rw [hInbound, hState]
      exact hTracks
    | some im =>
      rw [hState] at hTracks
      obtain ⟨hSent, hSub, hSingle, hStage⟩ := hTracks
      rw [hInbound, hState, Table.get?_set_self]
      refine ⟨hSent, hSub, hSingle, ?_⟩
      cases hStage with
      | early hNew _ _ _ _ _ =>
        rw [hKnown] at hNew
        cases hNew
      | tracked _ hKnown hOpen hActive hTracked =>
        refine .tracked _ hKnown hOpen hActive ?_
        obtain ⟨h₁, h₂, h₃, h₄, h₅, h₆, h₇⟩ := hTracked
        exact ⟨h₁, h₂, h₃, h₄, h₅, h₆, (Nat.sub_le _ _).trans h₇⟩
  · intro hNone
    rw [hMsg] at hNone
    cases hNone
  · show n.rx.senderState.keys ⊆ rx.senderState.keys
    rw [Hybrid.recv_bounced_keys hCredit hRecv]
    exact Finset.subset_insert _ _
  · intro k hGet _
    cases hMsg.symm.trans hGet
    exact hSrc
  · intro g' hg'
    refine .inl ?_
    unfold issued at hg' ⊢
    simp only [Multiset.mem_add] at hg' ⊢
    exact hg'.imp_left fun h => h.imp_left fun h => h.imp_right Multiset.mem_of_mem_erase

/-- A turn of `send_grants` does nothing, or deletes a complete message, or grants the next data of
a message. -/
theorem sendGrant_cases (h : Sound cfg n) {rx : Hybrid} {g : Option Hybrid.Grant}
    (hOk : n.rx.sendGrant cfg id = .ok (rx, g)) :
    rx = n.rx ∧ g = none ∨
      ∃ m im, n.msgs.get? id = some m ∧ n.rx.inbound.get? id = some im ∧
        (n.log id).announced = true ∧ (n.log id).completed = false ∧ m.active = true ∧
        Tracked m (n.log id).arrived (n.log id).early im ∧
        (im.isComplete = true ∧ rx = n.rx.removeMsg id ∧ g = none ∨
          ∃ d, d = min maxR2p2Payload (m.totalBytes - im.dataBytesGranted) ∧ 0 < d ∧
            n.rx.budgetBytes ≤ cfg.maxBudgetBytes ∧
            wireBytes d ≤ min n.rx.budgetBytes
              ((n.rx.senderState.get? m.src).getD default).srpbBytes ∧
            rx = (((n.rx.charge m.src (wireBytes d)).addCreditGranted
              (wireBytes d)).addDataGranted d).setMsg id (Hybrid.granted im) ∧
            Hybrid.needData im = d ∧
            g = some ⟨m.src, id, (Hybrid.granted im).seq, wireBytes d, framePadding d⟩) := by
  rcases Hybrid.sendGrant_cases hOk with hNothing | ⟨im, hState, hInfo, hRest⟩
  · exact .inl hNothing
  · refine .inr ?_
    have hSome : n.msgs.get? id ≠ none := by
      intro hNone
      have hUntouched := (h.untouched id hNone).state
      rw [hState] at hUntouched
      cases hUntouched
    obtain ⟨m, hMsg⟩ := Option.ne_none_iff_exists'.mp hSome
    have hm := h.msgs id m hMsg
    have hStage := (h.tracks id m hMsg).stage
    rw [hState] at hStage
    cases hStage with
    | early _ _ _ _ _ _ => cases hInfo
    | tracked _ hKnown hOpen hActive hTracked =>
      refine ⟨m, im, hMsg, hState, hKnown, hOpen, hActive, hTracked, ?_⟩
      have hNeed : toInt32 ((im.dataBytesExpected : Int) - im.dataBytesGranted) =
          ((m.totalBytes - im.dataBytesGranted : Nat) : Int) := by
        have hLe := hTracked.granted_le
        have hLt := hm.lt
        rw [hTracked.expected, toInt32_of_lt (by omega) (by omega)]
        omega
      have hData : Hybrid.needData im = min maxR2p2Payload (m.totalBytes - im.dataBytesGranted) := by
        unfold Hybrid.needData
        rw [hNeed, Int.toNat_natCast]
      rw [hTracked.remoteAddr, hNeed, hData] at hRest
      rcases hRest with hComplete | ⟨-, hSome, hBudget, hFits, hRx, hGrant⟩
      · exact .inl hComplete
      · refine .inr ⟨_, rfl, ?_, hBudget, hFits, hRx, hData, hGrant⟩
        unfold maxR2p2Payload
        omega

theorem sendGrant (h : Sound cfg n) (hOk : n.sendGrant cfg id = some n') : Sound cfg n' := by
  obtain ⟨rx, g, hGrant, rfl⟩ := sendGrant_eq_some hOk
  rcases h.sendGrant_cases hGrant with ⟨rfl, rfl⟩ |
    ⟨m, im, hMsg, hState, hKnown, hOpen, hActive, hTracked, hRest⟩
  · refine h.frame rfl rfl ?_ (fun _ hp => hp) ?_ fun _ hr => hr
    · intro l
      by_cases hl : l = id
      · subst hl
        show (Function.update n.log l _ l).arrived = _ ∧ (Function.update n.log l _ l).early = _ ∧
          (Function.update n.log l _ l).announced = _ ∧ (Function.update n.log l _ l).completed = _
        rw [Function.update_self]
        cases n.rx.inbound.get? l <;> simp
      · show (Function.update n.log id _ l).arrived = _ ∧ (Function.update n.log id _ l).early = _ ∧
          (Function.update n.log id _ l).announced = _ ∧ (Function.update n.log id _ l).completed = _
        rw [Function.update_of_ne hl]
        exact ⟨rfl, rfl, rfl, rfl⟩
    · intro g hg
      simpa [issued] using hg
  · have hm := h.msgs id m hMsg
    obtain ⟨hSent, hSub, hSingle, -⟩ := h.tracks id m hMsg
    have hSrc := h.senders id m hMsg (by rw [hState]; nofun)
    have hKeys : rx.senderState.keys = n.rx.senderState.keys := by
      rcases hRest with ⟨-, rfl, -⟩ | ⟨d, -, -, -, -, rfl, -⟩
      · rfl
      · exact Hybrid.charge_keys _ _ _
    have hInbound : rx.inbound = n.rx.inbound.erase id ∨
        rx.inbound = n.rx.inbound.set id (Hybrid.granted im) := by
      rcases hRest with ⟨-, rfl, -⟩ | ⟨d, -, -, -, -, rfl, -⟩
      · exact .inl rfl
      · exact .inr (by simp)
    refine h.receive id rfl ?_ ?_ ?_ ?_ ?_ ?_ ?_ (fun _ hp => hp) ?_ fun _ hr => .inl hr
    · intro l hl
      show rx.inbound.get? l = n.rx.inbound.get? l
      rcases hInbound with hInbound | hInbound
      · rw [hInbound, Table.get?_erase_of_ne _ hl]
      · rw [hInbound, Table.get?_set_of_ne _ _ hl]
    · exact fun l hl => Function.update_of_ne hl _ _
    · intro k hGet
      cases hMsg.symm.trans hGet
      show Tracks m (rx.inbound.get? id) (Function.update n.log id _ id)
      rw [Function.update_self, hState]
      refine ⟨hSent, hSub, hSingle, ?_⟩
      rcases hRest with ⟨hComplete, rfl, -⟩ | ⟨d, hd, -, -, -, rfl, hData, -⟩
      · rw [Hybrid.removeMsg_inbound, Table.get?_erase_self]
        refine .deleted hKnown (by simp) hActive (hTracked.isComplete ?_ hComplete)
        intro i hi
        have hLess := hSent i hi
        have hSplit := hm.split
        omega
      · rw [Hybrid.setMsg_inbound, Table.get?_set_self]
        refine .tracked _ hKnown (by simp [hOpen]) hActive ?_
        obtain ⟨h₁, h₂, h₃, h₄, h₅, h₆, h₇⟩ := hTracked
        refine ⟨h₁, h₂, h₃, h₄, h₅, h₆, ?_⟩
        show im.dataBytesGranted + Hybrid.needData im ≤ m.totalBytes
        omega
    · intro hNone
      rw [hMsg] at hNone
      cases hNone
    · show n.rx.senderState.keys ⊆ rx.senderState.keys
      rw [hKeys]
    · intro k hGet _
      cases hMsg.symm.trans hGet
      show m.src ∈ rx.senderState.keys
      rw [hKeys]
      exact hSrc
    · intro _
      show (Function.update n.log id _ id).announced = true
      rw [Function.update_self]
      exact hKnown
    · intro g' hg'
      rcases hRest with ⟨-, -, rfl⟩ | ⟨d, hd, hPos, -, -, -, -, rfl⟩
      · refine .inl ?_
        simpa [issued] using hg'
      · simp only [issued, Multiset.mem_add, Option.elim_some, Multiset.mem_singleton] at hg'
        simp only [issued, Multiset.mem_add]
        rcases hg' with (((rfl | hg') | hg') | hg') | hg'
        · refine .inr ⟨m, hMsg, hKnown, rfl, d, hPos, ?_, rfl, rfl⟩
          rw [hd]
          exact Nat.min_le_left _ _
        all_goals exact .inl (by simp [hg'])

/-- What the receiver asks for again was announced. -/
theorem resendTimeout (h : Sound cfg n) (id : UniqReqId) : Sound cfg (n.resendTimeout id) := by
  unfold HybridNet.resendTimeout
  cases hState : n.rx.inbound.get? id with
  | none => exact h
  | some im =>
    refine h.receive id rfl (fun _ _ => rfl) (fun _ _ => rfl) (h.tracks id) (h.untouched id)
      (Finset.Subset.refl _) (h.senders id) (fun hKnown => hKnown) (fun _ hp => hp)
      (fun _ hg => .inl hg) ?_
    intro r hr
    rcases Multiset.mem_add.mp hr with hr | hr
    · refine .inr ?_
      obtain ⟨range, hRange, rfl⟩ := List.mem_map.mp (Multiset.mem_coe.mp hr)
      have hInfo : im.receivedMsgInfo = true := by
        by_contra hNot
        unfold InboundMsgState.checkResendTimeout at hRange
        simp only [hNot, not_false_eq_true, true_or, if_true] at hRange
        cases hRange
      have hSome : n.msgs.get? id ≠ none := by
        intro hNone
        have hUntouched := (h.untouched id hNone).state
        rw [hState] at hUntouched
        cases hUntouched
      obtain ⟨m, hMsg⟩ := Option.ne_none_iff_exists'.mp hSome
      have hStage := (h.tracks id m hMsg).stage
      rw [hState] at hStage
      cases hStage with
      | early _ _ _ _ _ _ => cases hInfo
      | tracked _ hKnown _ _ hTracked =>
        refine ⟨m, hMsg, hKnown, ?_⟩
        rw [← hTracked.expected]
        exact InboundMsgState.isRange_checkResendTimeout range hRange
    · exact .inl hr

/-- A packet from elsewhere. -/
theorem receiveOther (h : Sound cfg n) (src window : Int) :
    Sound cfg { n with rx := n.rx.updateSenderState cfg src window } := by
  have hKeys : n.rx.senderState.keys ⊆ (n.rx.updateSenderState cfg src window).senderState.keys :=
    Finset.subset_insert _ _
  exact ⟨h.msgs, h.tracks, h.untouched, fun l m hGet hSome => hKeys (h.senders l m hGet hSome),
    h.ranges, h.packets, h.grants, h.resends⟩

end Sound

/-! ## Any step -/

/-- The network delivers nothing that the receiver cannot recognize. -/
def TimelyStep (n : HybridNet) : HybridNetEvent → Prop
  | .deliver pkt _ => Timely (n.log pkt.reqId) pkt
  | _ => True

instance (n : HybridNet) (e : HybridNetEvent) : Decidable (TimelyStep n e) := by
  apply HybridNetEvent.casesOn (motive := fun e => Decidable (TimelyStep n e)) e <;> intros <;>
    dsimp only [TimelyStep] <;> infer_instance

/-! A grant stays one that has not come back, wherever it is. -/

theorem issued_receiveGrant {g : Hybrid.Grant} (hg : g ∈ n.toTx) :
    n.toTx.erase g + n.bounced + g ::ₘ n.reached + n.lost = n.issued := by
  calc n.toTx.erase g + n.bounced + g ::ₘ n.reached + n.lost
      = g ::ₘ n.toTx.erase g + n.bounced + n.reached + n.lost := by
        simp only [Multiset.add_cons, Multiset.cons_add]
    _ = n.issued := by rw [Multiset.cons_erase hg]; rfl

theorem issued_bounce {g : Hybrid.Grant} (hg : g ∈ n.toTx) :
    n.toTx.erase g + g ::ₘ n.bounced + n.reached + n.lost = n.issued := by
  calc n.toTx.erase g + g ::ₘ n.bounced + n.reached + n.lost
      = g ::ₘ n.toTx.erase g + n.bounced + n.reached + n.lost := by
        simp only [Multiset.add_cons, Multiset.cons_add]
    _ = n.issued := by rw [Multiset.cons_erase hg]; rfl

theorem issued_loseGrant {g : Hybrid.Grant} (hg : g ∈ n.toTx) :
    n.toTx.erase g + n.bounced + n.reached + g ::ₘ n.lost = n.issued := by
  calc n.toTx.erase g + n.bounced + n.reached + g ::ₘ n.lost
      = g ::ₘ n.toTx.erase g + n.bounced + n.reached + n.lost := by
        simp only [Multiset.add_cons, Multiset.cons_add]
    _ = n.issued := by rw [Multiset.cons_erase hg]; rfl

theorem issued_loseBounced {g : Hybrid.Grant} (hg : g ∈ n.bounced) :
    n.toTx + n.bounced.erase g + n.reached + g ::ₘ n.lost = n.issued := by
  calc n.toTx + n.bounced.erase g + n.reached + g ::ₘ n.lost
      = n.toTx + g ::ₘ n.bounced.erase g + n.reached + n.lost := by
        simp only [Multiset.add_cons, Multiset.cons_add]
    _ = n.issued := by rw [Multiset.cons_erase hg]; rfl

/-- Bounced credit comes back. -/
theorem issued_bounceBack {g : Hybrid.Grant} (hg : g ∈ n.bounced) :
    g ::ₘ (n.toTx + n.bounced.erase g + n.reached + n.lost) = n.issued := by
  calc g ::ₘ (n.toTx + n.bounced.erase g + n.reached + n.lost)
      = n.toTx + g ::ₘ n.bounced.erase g + n.reached + n.lost := by
        simp only [Multiset.add_cons, Multiset.cons_add]
    _ = n.issued := by rw [Multiset.cons_erase hg]; rfl

theorem issued_duplicateBounced (g : Hybrid.Grant) :
    n.toTx + g ::ₘ n.bounced + n.reached + n.lost = g ::ₘ n.issued := by
  simp only [issued, Multiset.add_cons, Multiset.cons_add]

theorem Sound.step (h : Sound cfg n) {e : HybridNetEvent} (hTimely : TimelyStep n e)
    (hStep : n.step cfg addr e = some n') : Sound cfg n' := by
  have hSameLog (l : UniqReqId) : (n.log l).arrived = (n.log l).arrived ∧
      (n.log l).early = (n.log l).early ∧ (n.log l).announced = (n.log l).announced ∧
      (n.log l).completed = (n.log l).completed := ⟨rfl, rfl, rfl, rfl⟩
  cases e with
  | submitRequest id src bytes =>
    unfold HybridNet.step at hStep
    simp only at hStep
    split at hStep
    · exact h.submit (fun hPos hLt => OutboundMsgState.ok_ofRequest hPos hLt) rfl hStep
    · cases hStep
  | submitReply id src bytes =>
    unfold HybridNet.step at hStep
    simp only at hStep
    split at hStep
    · exact h.submit (fun hPos hLt => OutboundMsgState.ok_ofReply hPos hLt) rfl hStep
    · cases hStep
  | sendReq id =>
    obtain ⟨-, rfl⟩ := Machine.of_guarded hStep
    refine h.frame rfl rfl ?_ (fun _ hp => hp) (fun _ hg => hg) fun _ hr => hr
    intro l
    by_cases hl : l = id
    · subst hl
      show (Function.update n.log l _ l).arrived = _ ∧ (Function.update n.log l _ l).early = _ ∧
        (Function.update n.log l _ l).announced = _ ∧ (Function.update n.log l _ l).completed = _
      rw [Function.update_self]
      exact hSameLog l
    · show (Function.update n.log id _ l).arrived = _ ∧ (Function.update n.log id _ l).early = _ ∧
        (Function.update n.log id _ l).announced = _ ∧ (Function.update n.log id _ l).completed = _
      rw [Function.update_of_ne hl]
      exact hSameLog l
  | sendResponse id =>
    obtain ⟨-, rfl⟩ := Machine.of_guarded hStep
    exact h.frame rfl rfl hSameLog (fun _ hp => hp) (fun _ hg => hg) fun _ hr => hr
  | collectGarbage id =>
    cases hStep
    exact h.frame rfl rfl hSameLog (fun _ hp => hp) (fun _ hg => hg) fun _ hr => hr
  | activate id => exact h.activate hStep
  | sendData id => exact h.sendData hStep
  | retransmit id => exact h.retransmit hStep
  | receiveGrant g =>
    obtain ⟨hg, rfl⟩ := Machine.of_guarded hStep
    refine h.frame rfl rfl hSameLog (fun _ hp => hp) ?_ fun _ hr => hr
    exact fun g' hg' => (issued_receiveGrant hg) ▸ hg'
  | receiveResend r => exact h.receiveResend hStep
  | deliver pkt window =>
    unfold HybridNet.step at hStep
    simp only at hStep
    split at hStep
    · rename_i hPkt
      exact h.deliver hPkt hTimely hStep
    · cases hStep
  | bounceBack g window =>
    unfold HybridNet.step at hStep
    simp only at hStep
    split at hStep
    · rename_i hg
      obtain ⟨rx, hRecv, rfl⟩ := Option.map_eq_some_iff.mp hStep
      exact h.bounceBack hg (toOption_eq_some.mp hRecv)
    · cases hStep
  | receiveOther src window =>
    cases hStep
    exact h.receiveOther src window
  | sendGrant id => exact h.sendGrant hStep
  | resendTimeout id =>
    cases hStep
    exact h.resendTimeout id
  | bounce g =>
    obtain ⟨hg, rfl⟩ := Machine.of_guarded hStep
    refine h.frame rfl rfl hSameLog (fun _ hp => hp) ?_ fun _ hr => hr
    exact fun g' hg' => (issued_bounce hg) ▸ hg'
  | lose pkt =>
    obtain ⟨-, rfl⟩ := Machine.of_guarded hStep
    exact h.frame rfl rfl hSameLog (fun _ hp => Multiset.mem_of_mem_erase hp) (fun _ hg => hg)
      fun _ hr => hr
  | loseResend r =>
    obtain ⟨-, rfl⟩ := Machine.of_guarded hStep
    exact h.frame rfl rfl hSameLog (fun _ hp => hp) (fun _ hg => hg)
      fun _ hr => Multiset.mem_of_mem_erase hr
  | loseGrant g =>
    obtain ⟨hg, rfl⟩ := Machine.of_guarded hStep
    refine h.frame rfl rfl hSameLog (fun _ hp => hp) ?_ fun _ hr => hr
    exact fun g' hg' => (issued_loseGrant hg) ▸ hg'
  | loseBounced g =>
    obtain ⟨hg, rfl⟩ := Machine.of_guarded hStep
    refine h.frame rfl rfl hSameLog (fun _ hp => hp) ?_ fun _ hr => hr
    exact fun g' hg' => (issued_loseBounced hg) ▸ hg'
  | duplicate pkt =>
    obtain ⟨hPkt, rfl⟩ := Machine.of_guarded hStep
    refine h.frame rfl rfl hSameLog ?_ (fun _ hg => hg) fun _ hr => hr
    intro p hp
    rcases Multiset.mem_cons.mp hp with rfl | hp
    · exact hPkt
    · exact hp
  | duplicateBounced g =>
    obtain ⟨hg, rfl⟩ := Machine.of_guarded hStep
    refine h.frame rfl rfl hSameLog (fun _ hp => hp) ?_ fun _ hr => hr
    intro g' hg'
    change g' ∈ n.toTx + g ::ₘ n.bounced + n.reached + n.lost at hg'
    rw [issued_duplicateBounced] at hg'
    rcases Multiset.mem_cons.mp hg' with rfl | hOld
    · simp [issued, hg]
    · exact hOld

end HybridNet

end Dpdq.Ns2
