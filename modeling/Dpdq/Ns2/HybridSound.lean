import Dpdq.Ns2.HybridDelivery
import Dpdq.Ns2.HybridMissing

/-!
# The network of a receiver in any run

`Sound` collects what holds in every state of a run whose deliveries are timely: every packet on its
way is one of its message, every grant is for data of its message, and what the receiver has stored
fits to what has arrived. `Sound.step` is the step lemma.
-/

namespace Dpdq.Ns2

open Dpdq.Lib

variable {cfg : HybridConfig} {addr : Int}

/-! ## The invariant -/

structure IsGrantOf (m : OutboundMsgState) (g : Hybrid.Grant) : Prop where
  dst : g.dst = m.src
  data : ∃ d, 0 < d ∧ d ≤ maxR2p2Payload ∧ g.credit = wireBytes d ∧ g.creditPad = framePadding d

namespace HybridNet

/-- The grants that have not come back. -/
def issued (n : HybridNet) : Multiset Hybrid.Grant := n.toTx + n.bounced + n.reached + n.lost

/-- Nothing of the message has happened at the receiver. -/
structure Untouched (inb : Option InboundMsgState) (l : MsgLog) : Prop where
  state : inb = none
  arrived : l.arrived = ∅
  early : l.early = ∅
  announced : l.announced = false
  completed : l.completed = false

structure Sound (cfg : HybridConfig) (n : HybridNet) : Prop where
  msgs : ∀ id m, n.msgs.get? id = some m → m.Ok cfg
  tracks : ∀ id m, n.msgs.get? id = some m →
    Tracks m (n.rx.inbound.get? id) (n.log id)
  untouched : ∀ id, n.msgs.get? id = none → Untouched (n.rx.inbound.get? id) (n.log id)
  senders : ∀ id m, n.msgs.get? id = some m → n.rx.inbound.get? id ≠ none →
    m.src ∈ n.rx.senderState.keys
  ranges : ∀ id m, n.msgs.get? id = some m → m.resendRanges ≠ [] → (n.log id).announced = true
  packets : ∀ p ∈ n.toRx, ∃ m, n.msgs.get? p.reqId = some m ∧
    IsPacketOf m p.reqId (n.log p.reqId).announced p
  grants : ∀ g ∈ n.issued, ∃ m, n.msgs.get? g.reqId = some m ∧
    (n.log g.reqId).announced = true ∧ IsGrantOf m g
  resends : ∀ r ∈ n.resends, ∃ m, n.msgs.get? r.reqId = some m ∧
    (n.log r.reqId).announced = true ∧ IsRange m.totalBytes (r.msgOffset, r.resendBytes)

theorem sound_init (cfg : HybridConfig) : Sound cfg { rx := Hybrid.new cfg } := by
  have hNone {id : UniqReqId} {m : OutboundMsgState} :
      ({ rx := Hybrid.new cfg } : HybridNet).msgs.get? id ≠ some m := Table.get?_empty_ne id m
  constructor
  case msgs => exact fun _ _ hm => absurd hm hNone
  case tracks => exact fun _ _ hm => absurd hm hNone
  case untouched => exact fun _ _ => ⟨rfl, rfl, rfl, rfl, rfl⟩
  case senders => exact fun _ _ hm => absurd hm hNone
  case ranges => exact fun _ _ hm => absurd hm hNone
  case packets => exact fun p hp => absurd hp (Multiset.notMem_zero p)
  case grants => exact fun g hg => absurd hg (Multiset.notMem_zero g)
  case resends => exact fun r hr => absurd hr (Multiset.notMem_zero r)

end HybridNet

/-- A later state of a message. Before it is active, it has neither sent anything nor got credit. -/
structure Grows (m m' : OutboundMsgState) : Prop where
  src : m'.src = m.src
  totalBytes : m'.totalBytes = m.totalBytes
  same : m.active = true → SameMsg m m'

theorem SameMsg.grows {m m' : OutboundMsgState} (h : SameMsg m m') : Grows m m' :=
  ⟨h.src, h.totalBytes, fun _ => h⟩

theorem SameMsg.rfl {m : OutboundMsgState} : SameMsg m m :=
  ⟨Eq.refl _, Eq.refl _, Eq.refl _, Eq.refl _, Eq.refl _, Eq.refl _, Eq.refl _, Eq.refl _,
    Nat.le_refl _⟩

theorem SameMsg.dataPacket {m m' : OutboundMsgState} (h : SameMsg m m') (id : UniqReqId)
    (first : Bool) (msgOffset payload : Nat) :
    m'.dataPacket id first msgOffset payload = m.dataPacket id first msgOffset payload := by
  unfold OutboundMsgState.dataPacket OutboundMsgState.msgType
  rw [h.src, h.isRequest, h.pktId]

theorem SameMsg.announcing {m m' : OutboundMsgState} (h : SameMsg m m') (p : Packet) :
    m'.announcing p = m.announcing p := by
  unfold OutboundMsgState.announcing
  rw [h.isScheduled, h.totalBytes, h.selfAllocCredit, h.selfAllocCreditData]

theorem OutboundMsgState.Ok.active_of_sent {m : OutboundMsgState} (hm : m.Ok cfg)
    (hSent : 0 < m.bytesSent) : m.active = true := by
  by_contra hInactive
  have hZero := (hm.inactive (Bool.eq_false_iff.mpr hInactive)).1
  omega

theorem IsPacketOf.active {m : OutboundMsgState} {id : UniqReqId} {announced : Bool} {p : Packet}
    (hm : m.Ok cfg) (h : IsPacketOf m id announced p) : m.active = true := by
  cases h with
  | grantReq hActive _ => exact hActive
  | data i hSent => exact hm.active_of_sent (by omega)
  | resent i hSent _ => exact hm.active_of_sent (by omega)

/-- The packets of a message stay its packets. -/
theorem IsPacketOf.grows {m m' : OutboundMsgState} {id : UniqReqId} {announced announced' : Bool}
    {p : Packet} (hm : m.Ok cfg) (h : IsPacketOf m id announced p) (hGrows : Grows m m')
    (hAnnounced : announced = true → announced' = true) : IsPacketOf m' id announced' p := by
  have hSame := hGrows.same (h.active hm)
  cases h with
  | grantReq hActive hScheduled =>
    have hEq : { m.grantReq id with first := true } = { m'.grantReq id with first := true } := by
      unfold OutboundMsgState.grantReq
      rw [hSame.src, hSame.pktId, hSame.totalBytes]
    rw [hEq]
    exact .grantReq (hSame.active.trans hActive) (hSame.isScheduled.trans hScheduled)
  | data i hSent =>
    rw [← hSame.dataPacket, ← hSame.announcing, ← hSame.totalBytes]
    exact .data i (Nat.lt_of_lt_of_le hSent hSame.bytesSent)
  | resent i hSent hOld =>
    rw [← hSame.dataPacket, ← hSame.totalBytes]
    exact .resent i (Nat.lt_of_lt_of_le hSent hSame.bytesSent) (hAnnounced hOld)

/-- What the receiver has stored of a message does not depend on what its sender does. -/
theorem Tracks.grows {m m' : OutboundMsgState} {inb : Option InboundMsgState} {l : MsgLog}
    (hm : m.Ok cfg) (h : Tracks m inb l) (hGrows : Grows m m')
    (hSingle : m'.isSinglePktReply = m.isSinglePktReply) : Tracks m' inb l := by
  obtain ⟨hSent, hSub, hNone, hStage⟩ := h
  have hAct (hActive : m.active = true) : SameMsg m m' := hGrows.same hActive
  refine ⟨?_, hSub, fun h => hNone (hSingle.symm.trans h), ?_⟩
  · intro i hi
    have hBytes := hSent i hi
    exact Nat.lt_of_lt_of_le hBytes (hAct (hm.active_of_sent (by omega))).bytesSent
  · cases hStage with
    | unknown hNew hOpen hArrived => exact .unknown hNew hOpen hArrived
    | early hNew hOpen hSched hActive hEarly hSome =>
      have hSame := hAct hActive
      have hEq : unannounced m l.arrived = unannounced m' l.arrived := by
        unfold unannounced
        rw [hSame.src, hSame.totalBytes]
      rw [hEq]
      exact .early hNew hOpen (hSame.isScheduled.trans hSched) (hSame.active.trans hActive) hEarly
        hSome
    | tracked im hKnown hOpen hActive hTracked =>
      have hSame := hAct hActive
      refine .tracked im hKnown hOpen (hSame.active.trans hActive) ?_
      obtain ⟨h₁, h₂, h₃, h₄, h₅, h₆, h₇⟩ := hTracked
      refine ⟨?_, ?_, h₃, ?_, h₅, ?_, ?_⟩
      · rw [hSame.src, h₁]
      · rw [hSame.totalBytes, h₂]
      · rw [hSame.totalBytes, h₄]
      · rw [hSame.totalBytes, h₆]
      · rw [hSame.totalBytes]
        exact h₇
    | deleted hKnown hCompleted hActive hAll =>
      have hSame := hAct hActive
      exact .deleted hKnown hCompleted (hSame.active.trans hActive) (by rw [hSame.totalBytes, hAll])

/-- Of the log, only what has arrived counts. -/
theorem Tracks.log_congr {m : OutboundMsgState} {inb : Option InboundMsgState} {l l' : MsgLog}
    (h : Tracks m inb l) (hArrived : l'.arrived = l.arrived) (hEarly : l'.early = l.early)
    (hAnnounced : l'.announced = l.announced) (hCompleted : l'.completed = l.completed) :
    Tracks m inb l' := by
  obtain ⟨hSent, hSub, hNone, hStage⟩ := h
  refine ⟨hArrived ▸ hSent, by rw [hArrived, hEarly]; exact hSub, hArrived ▸ hNone, ?_⟩
  cases hStage with
  | unknown h₁ h₂ h₃ =>
    exact .unknown (hAnnounced.trans h₁) (hCompleted.trans h₂) (hArrived.trans h₃)
  | early h₁ h₂ h₃ h₄ h₅ h₆ =>
    rw [← hArrived] at h₅ h₆ ⊢
    exact .early (hAnnounced.trans h₁) (hCompleted.trans h₂) h₃ h₄ (hEarly.trans h₅) h₆
  | tracked im h₁ h₂ h₃ h₄ =>
    exact .tracked im (hAnnounced.trans h₁) (hCompleted.trans h₂) h₃
      (by rw [hArrived, hEarly]; exact h₄)
  | deleted h₁ h₂ h₃ h₄ =>
    exact .deleted (hAnnounced.trans h₁) (hCompleted.trans h₂) h₃ (hArrived.trans h₄)

/-! ## Steps -/

namespace HybridNet.Sound

variable {n n' : HybridNet} {id : UniqReqId}

/-- A message moves on at its sender. -/
theorem send (h : Sound cfg n) {m m' : OutboundMsgState} (hMsg : n.msgs.get? id = some m)
    (hOk : m'.Ok cfg) (hGrows : Grows m m') (hSingle : m'.isSinglePktReply = m.isSinglePktReply)
    (hRanges : m'.resendRanges ≠ [] → (n.log id).announced = true)
    (hMsgs : n'.msgs = n.msgs.set id m') (hRx : n'.rx = n.rx) (hLog : n'.log = n.log)
    (hIssued : n'.issued = n.issued) (hResends : ∀ r ∈ n'.resends, r ∈ n.resends)
    (hToRx : ∀ p ∈ n'.toRx, p ∈ n.toRx ∨
      p.reqId = id ∧ IsPacketOf m' id (n.log id).announced p) : Sound cfg n' := by
  have hm := h.msgs id m hMsg
  -- Every message is the one before, or has grown.
  have hCases (l : UniqReqId) (k : OutboundMsgState) (hGet : n'.msgs.get? l = some k) :
      l = id ∧ k = m' ∨ l ≠ id ∧ n.msgs.get? l = some k := by
    rw [hMsgs] at hGet
    by_cases hl : l = id
    · subst hl
      rw [Table.get?_set_self] at hGet
      exact .inl ⟨rfl, (Option.some.inj hGet).symm⟩
    · rw [Table.get?_set_of_ne _ _ hl] at hGet
      exact .inr ⟨hl, hGet⟩
  have hOld (l : UniqReqId) (k : OutboundMsgState) (hGet : n.msgs.get? l = some k) :
      ∃ k', n'.msgs.get? l = some k' ∧ k.Ok cfg ∧ Grows k k' := by
    by_cases hl : l = id
    · subst hl
      cases hMsg.symm.trans hGet
      exact ⟨m', by rw [hMsgs, Table.get?_set_self], hm, hGrows⟩
    · exact ⟨k, by rw [hMsgs, Table.get?_set_of_ne _ _ hl, hGet], h.msgs l k hGet,
        SameMsg.rfl.grows⟩
  refine ⟨?_, ?_, ?_, ?_, ?_, ?_, ?_, ?_⟩
  · intro l k hGet
    rcases hCases l k hGet with ⟨rfl, rfl⟩ | ⟨-, hGet⟩
    · exact hOk
    · exact h.msgs l k hGet
  · intro l k hGet
    rw [hRx, hLog]
    rcases hCases l k hGet with ⟨rfl, rfl⟩ | ⟨-, hGet⟩
    · exact (h.tracks l m hMsg).grows hm hGrows hSingle
    · exact h.tracks l k hGet
  · intro l hNone
    rw [hRx, hLog]
    refine h.untouched l ?_
    by_contra hSome
    obtain ⟨k, hGet⟩ := Option.ne_none_iff_exists'.mp hSome
    obtain ⟨k', hGet', -, -⟩ := hOld l k hGet
    rw [hNone] at hGet'
    cases hGet'
  · intro l k hGet
    rw [hRx]
    rcases hCases l k hGet with ⟨rfl, rfl⟩ | ⟨-, hGet⟩
    · rw [hGrows.src]
      exact h.senders l m hMsg
    · exact h.senders l k hGet
  · intro l k hGet
    rw [hLog]
    rcases hCases l k hGet with ⟨rfl, rfl⟩ | ⟨-, hGet⟩
    · exact hRanges
    · exact h.ranges l k hGet
  · intro p hp
    rw [hLog]
    rcases hToRx p hp with hp | ⟨rfl, hp⟩
    · obtain ⟨k, hGet, hPacket⟩ := h.packets p hp
      obtain ⟨k', hGet', hk, hGrows⟩ := hOld _ k hGet
      exact ⟨k', hGet', hPacket.grows hk hGrows fun hSame => hSame⟩
    · exact ⟨m', by rw [hMsgs, Table.get?_set_self], hp⟩
  · intro g hg
    rw [hIssued] at hg
    obtain ⟨k, hGet, hAnnounced, hGrant⟩ := h.grants g hg
    obtain ⟨k', hGet', -, hGrows⟩ := hOld _ k hGet
    rw [hLog]
    exact ⟨k', hGet', hAnnounced, hGrant.dst.trans hGrows.src.symm, hGrant.data⟩
  · intro r hr
    obtain ⟨k, hGet, hAnnounced, hRange⟩ := h.resends r (hResends r hr)
    obtain ⟨k', hGet', -, hGrows⟩ := hOld _ k hGet
    rw [hLog]
    exact ⟨k', hGet', hAnnounced, hGrows.totalBytes ▸ hRange⟩

/-- The receiver moves on with one message, and the network with its packets. -/
theorem receive (h : Sound cfg n) (id : UniqReqId) (hMsgs : n'.msgs = n.msgs)
    (hInbound : ∀ l ≠ id, n'.rx.inbound.get? l = n.rx.inbound.get? l)
    (hLog : ∀ l ≠ id, n'.log l = n.log l)
    (hTracks : ∀ m, n.msgs.get? id = some m → Tracks m (n'.rx.inbound.get? id) (n'.log id))
    (hUntouched : n.msgs.get? id = none → Untouched (n'.rx.inbound.get? id) (n'.log id))
    (hKeys : n.rx.senderState.keys ⊆ n'.rx.senderState.keys)
    (hSender : ∀ m, n.msgs.get? id = some m → n'.rx.inbound.get? id ≠ none →
      m.src ∈ n'.rx.senderState.keys)
    (hAnnounced : (n.log id).announced = true → (n'.log id).announced = true)
    (hToRx : ∀ p ∈ n'.toRx, p ∈ n.toRx)
    (hIssued : ∀ g ∈ n'.issued, g ∈ n.issued ∨ ∃ m, n.msgs.get? g.reqId = some m ∧
      (n.log g.reqId).announced = true ∧ IsGrantOf m g)
    (hResends : ∀ r ∈ n'.resends, r ∈ n.resends ∨ ∃ m, n.msgs.get? r.reqId = some m ∧
      (n.log r.reqId).announced = true ∧ IsRange m.totalBytes (r.msgOffset, r.resendBytes)) :
    Sound cfg n' := by
  have hMono (l : UniqReqId) (hOld : (n.log l).announced = true) :
      (n'.log l).announced = true := by
    by_cases hl : l = id
    · subst hl
      exact hAnnounced hOld
    · rw [hLog l hl]
      exact hOld
  refine ⟨hMsgs ▸ h.msgs, ?_, ?_, ?_, ?_, ?_, ?_, ?_⟩
  · intro l m hGet
    rw [hMsgs] at hGet
    by_cases hl : l = id
    · subst hl
      exact hTracks m hGet
    · rw [hInbound l hl, hLog l hl]
      exact h.tracks l m hGet
  · intro l hNone
    rw [hMsgs] at hNone
    by_cases hl : l = id
    · subst hl
      exact hUntouched hNone
    · rw [hInbound l hl, hLog l hl]
      exact h.untouched l hNone
  · intro l m hGet hSome
    rw [hMsgs] at hGet
    by_cases hl : l = id
    · subst hl
      exact hSender m hGet hSome
    · rw [hInbound l hl] at hSome
      exact hKeys (h.senders l m hGet hSome)
  · intro l m hGet hRanges
    rw [hMsgs] at hGet
    exact hMono l (h.ranges l m hGet hRanges)
  · intro p hp
    rw [hMsgs]
    obtain ⟨m, hGet, hPacket⟩ := h.packets p (hToRx p hp)
    exact ⟨m, hGet, hPacket.grows (h.msgs _ m hGet) SameMsg.rfl.grows (hMono p.reqId)⟩
  · intro g hg
    rw [hMsgs]
    rcases hIssued g hg with hOld | ⟨m, hGet, hOld, hGrant⟩
    · obtain ⟨m, hGet, hOld, hGrant⟩ := h.grants g hOld
      exact ⟨m, hGet, hMono _ hOld, hGrant⟩
    · exact ⟨m, hGet, hMono _ hOld, hGrant⟩
  · intro r hr
    rw [hMsgs]
    rcases hResends r hr with hOld | ⟨m, hGet, hOld, hRange⟩
    · obtain ⟨m, hGet, hOld, hRange⟩ := h.resends r hOld
      exact ⟨m, hGet, hMono _ hOld, hRange⟩
    · exact ⟨m, hGet, hMono _ hOld, hRange⟩

/-- The network moves on, and so does the part of a log that nothing depends on. -/
theorem frame (h : Sound cfg n) (hMsgs : n'.msgs = n.msgs) (hRx : n'.rx = n.rx)
    (hLog : ∀ l, (n'.log l).arrived = (n.log l).arrived ∧ (n'.log l).early = (n.log l).early ∧
      (n'.log l).announced = (n.log l).announced ∧ (n'.log l).completed = (n.log l).completed)
    (hToRx : ∀ p ∈ n'.toRx, p ∈ n.toRx) (hIssued : ∀ g ∈ n'.issued, g ∈ n.issued)
    (hResends : ∀ r ∈ n'.resends, r ∈ n.resends) : Sound cfg n' := by
  refine ⟨hMsgs ▸ h.msgs, ?_, ?_, ?_, ?_, ?_, ?_, ?_⟩
  · intro l m hGet
    obtain ⟨h₁, h₂, h₃, h₄⟩ := hLog l
    rw [hMsgs] at hGet
    rw [hRx]
    exact (h.tracks l m hGet).log_congr h₁ h₂ h₃ h₄
  · intro l hNone
    obtain ⟨h₁, h₂, h₃, h₄⟩ := hLog l
    rw [hMsgs] at hNone
    obtain ⟨i₁, i₂, i₃, i₄, i₅⟩ := h.untouched l hNone
    rw [hRx]
    exact ⟨i₁, h₁.trans i₂, h₂.trans i₃, h₃.trans i₄, h₄.trans i₅⟩
  · rw [hMsgs, hRx]
    exact h.senders
  · intro l m hGet hRanges
    rw [hMsgs] at hGet
    exact (hLog l).2.2.1.trans (h.ranges l m hGet hRanges)
  · intro p hp
    rw [hMsgs, (hLog p.reqId).2.2.1]
    exact h.packets p (hToRx p hp)
  · intro g hg
    rw [hMsgs, (hLog g.reqId).2.2.1]
    exact h.grants g (hIssued g hg)
  · intro r hr
    rw [hMsgs, (hLog r.reqId).2.2.1]
    exact h.resends r (hResends r hr)

end HybridNet.Sound

end Dpdq.Ns2
