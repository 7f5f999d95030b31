import Dpdq.Ns2.ExactlyOnce
import Dpdq.Ns2.HybridGranted
import Mathlib.Algebra.BigOperators.Ring.Finset

/-!
# Credit comes back

When all announced messages have been received and granted, every sender has its whole budget again.
The grants of such a message, with the credit of its own, are for all its packets (`Booked`), and
all its packets have given their credit back; by the balance of the receiver (`Conserved`) nothing
is missing. The one message that takes credit and does not give it back is a reply of one packet
that was granted: its packet goes past the credit protocol.
-/

namespace Dpdq.Ns2

open Dpdq.Lib

variable {cfg : HybridConfig} {addr : Int}

namespace HybridNet

variable {n n' : HybridNet} {id : UniqReqId}

/-- The grants of a message that have not come back. -/
def grantsOf (n : HybridNet) (id : UniqReqId) : Multiset Hybrid.Grant :=
  n.issued.filter fun g => g.reqId = id

def Books (n : HybridNet) : Prop :=
  ∀ id m, n.msgs.get? id = some m → Booked m (n.log id) (n.rx.inbound.get? id) (n.grantsOf id)

theorem books_init (cfg : HybridConfig) : Books { rx := Hybrid.new cfg } :=
  fun _ _ hm => absurd hm (Table.get?_empty_ne _ _)

/-! ## Side conditions -/

/-- A bounced grant comes back to its message, and the data that it was for is granted and not
received. -/
def Refunds (n : HybridNet) (g : Hybrid.Grant) : Prop :=
  ∃ im ∈ n.rx.inbound.get? g.reqId, im.dataBytesReceived + g.data ≤ im.dataBytesGranted

instance (n : HybridNet) (g : Hybrid.Grant) : Decidable (n.Refunds g) :=
  inferInstanceAs (Decidable (∃ _ ∈ _, _))

/-- The deliveries are timely, bounced grants come back to what they were for, and once, and a reply
of one packet does not ask for credit. -/
def CreditKept (cfg : HybridConfig) (n : HybridNet) : HybridNetEvent → Prop
  | .deliver pkt _ => Timely (n.log pkt.reqId) pkt
  | .activate id => ∀ m ∈ n.msgs.get? id, m.isSinglePktReply = true →
      sendsUnsolicited cfg m.totalBytes = true
  | .bounceBack g _ => n.Refunds g
  | .duplicateBounced _ => False
  | _ => True

instance (n : HybridNet) (e : HybridNetEvent) : Decidable (CreditKept cfg n e) := by
  apply HybridNetEvent.casesOn (motive := fun e => Decidable (CreditKept cfg n e)) e <;> intros <;>
    dsimp only [CreditKept] <;> infer_instance

theorem CreditKept.timely {e : HybridNetEvent} (h : CreditKept cfg n e) : TimelyStep n e := by
  cases e <;> first | exact h | trivial

theorem CreditKept.once {e : HybridNetEvent} (h : CreditKept cfg n e) : BouncedOnce e := by
  cases e <;> first | exact h | trivial

/-! ## Steps -/

/-- One more grant is one more grant of its message. -/
theorem grantsOf_cons {g : Hybrid.Grant} (hIssued : n'.issued = g ::ₘ n.issued) :
    n'.grantsOf g.reqId = g ::ₘ n.grantsOf g.reqId ∧
      ∀ l ≠ g.reqId, n'.grantsOf l = n.grantsOf l := by
  constructor
  · rw [grantsOf, hIssued]
    exact Multiset.filter_cons_of_pos _ rfl
  · intro l hl
    rw [grantsOf, hIssued]
    exact Multiset.filter_cons_of_neg _ (Ne.symm hl)

namespace Books

/-- Only one message moves on. -/
theorem of_one (h : Books n) (id : UniqReqId)
    (hOthers : ∀ l ≠ id, n'.msgs.get? l = n.msgs.get? l ∧ n'.log l = n.log l ∧
      n'.rx.inbound.get? l = n.rx.inbound.get? l ∧ n'.grantsOf l = n.grantsOf l)
    (hOne : ∀ m, n'.msgs.get? id = some m →
      Booked m (n'.log id) (n'.rx.inbound.get? id) (n'.grantsOf id)) : Books n' := by
  intro l m hGet
  by_cases hl : l = id
  · subst hl
    exact hOne m hGet
  · obtain ⟨hMsg, hLog, hInbound, hGrants⟩ := hOthers l hl
    rw [hMsg] at hGet
    rw [hLog, hInbound, hGrants]
    exact h l m hGet

theorem frame (h : Books n) (hMsgs : n'.msgs = n.msgs) (hInbound : n'.rx.inbound = n.rx.inbound)
    (hLog : ∀ l, (n'.log l).arrived = (n.log l).arrived ∧
      (n'.log l).announced = (n.log l).announced ∧ (n'.log l).completed = (n.log l).completed)
    (hIssued : n'.issued = n.issued) : Books n' := by
  intro l m hGet
  obtain ⟨hArrived, hAnnounced, hCompleted⟩ := hLog l
  rw [hMsgs] at hGet
  rw [hInbound, grantsOf, hIssued]
  exact (h l m hGet).congr hArrived hAnnounced hCompleted

/-- The log of a message that is not active. -/
theorem inactive (hSound : Sound cfg n) {m : OutboundMsgState} (hMsg : n.msgs.get? id = some m)
    (hInactive : m.active = false) :
    (n.log id).announced = false ∧ (n.log id).completed = false := by
  have hNew := Conserved.not_announced hSound hMsg hInactive
  refine ⟨hNew, ?_⟩
  have hStage := (hSound.tracks id m hMsg).stage
  generalize n.rx.inbound.get? id = inb at hStage
  cases hStage with
  | unknown _ hOpen _ => exact hOpen
  | early _ hOpen _ _ _ _ => exact hOpen
  | tracked _ _ hOpen _ _ => exact hOpen
  | deleted hKnown _ _ _ =>
    rw [hNew] at hKnown
    cases hKnown

/-- A message moves on at its sender. -/
theorem send (h : Books n) (hSound : Sound cfg n) {m m' : OutboundMsgState}
    (hMsg : n.msgs.get? id = some m) (hGrows : Grows m m')
    (hSame : m'.isSinglePktReply = m.isSinglePktReply)
    (hSingle : m.active = false → m'.isSinglePktReply = true → m'.active = true →
      m'.isScheduled = false)
    (hMsgs : n'.msgs = n.msgs.set id m') (hRx : n'.rx = n.rx) (hLog : n'.log = n.log)
    (hIssued : n'.issued = n.issued) : Books n' := by
  refine h.of_one id ?_ ?_
  · intro l hl
    rw [hMsgs, hRx, hLog, grantsOf, hIssued, Table.get?_set_of_ne _ _ hl]
    exact ⟨rfl, rfl, rfl, rfl⟩
  · intro k hGet
    rw [hMsgs, Table.get?_set_self] at hGet
    cases hGet
    rw [hRx, hLog, grantsOf, hIssued]
    exact (h id m hMsg).grows hGrows (inactive hSound hMsg) hSame hSingle

theorem send_same (h : Books n) (hSound : Sound cfg n) {m m' : OutboundMsgState}
    (hMsg : n.msgs.get? id = some m) (hSame : SameMsg m m')
    (hMsgs : n'.msgs = n.msgs.set id m') (hRx : n'.rx = n.rx) (hLog : n'.log = n.log)
    (hIssued : n'.issued = n.issued) : Books n' := by
  refine h.send hSound hMsg hSame.grows ?_ ?_ hMsgs hRx hLog hIssued
  · rw [OutboundMsgState.isSinglePktReply, OutboundMsgState.isSinglePktReply, hSame.isRequest,
      hSame.pktId]
  · intro hInactive _ hActive
    rw [hSame.active, hInactive] at hActive
    cases hActive

theorem submit (h : Books n) (hSound : Sound cfg n) {m : OutboundMsgState}
    (hInactive : m.active = false) (hOk : n.submit id m = some n') : Books n' := by
  obtain ⟨hNew, -, -, rfl⟩ := submit_eq_some hOk
  obtain ⟨hState, -, -, hAnnounced, hCompleted⟩ := hSound.untouched id hNew
  refine h.of_one id ?_ ?_
  · intro l hl
    exact ⟨Table.get?_set_of_ne _ _ hl, rfl, rfl, rfl⟩
  · intro k hGet
    cases hGet.symm.trans (Table.get?_set_self _ _ _)
    have hNone : (n.setMsg id m).grantsOf id = 0 := by
      apply Multiset.filter_eq_nil.mpr
      intro g hg hId
      obtain ⟨k, hGet, -⟩ := hSound.grants g hg
      rw [hId, hNew] at hGet
      cases hGet
    have hUnknown {P : Prop} (hKnown : (n.log id).announced = true) : P := by
      rw [hAnnounced] at hKnown
      cases hKnown
    show Booked m (n.log id) (n.rx.inbound.get? id) _
    rw [hNone]
    refine ⟨⟨∅, .empty _, Finset.empty_subset _, fun _ => rfl, fun _ _ => hUnknown, ?_⟩, hUnknown,
      ?_, fun _ => hAnnounced⟩
    · intro hDone
      rw [hCompleted] at hDone
      cases hDone
    · intro _ hActive
      rw [hInactive] at hActive
      cases hActive

theorem activate (h : Books n) (hSound : Sound cfg n)
    (hSingle : ∀ m ∈ n.msgs.get? id, m.isSinglePktReply = true →
      sendsUnsolicited cfg m.totalBytes = true)
    (hOk : n.activate cfg id = some n') : Books n' := by
  obtain ⟨m, m', avail, pkt, hMsg, hActivate, rfl⟩ := activate_eq_some hOk
  obtain ⟨hInactive, hCases⟩ := OutboundMsgState.activate_cases hActivate
  obtain ⟨hTotal, hRequest, hPktId, -⟩ := OutboundMsgState.activate_same hActivate
  have hSame : m'.isSinglePktReply = m.isSinglePktReply := by
    rw [OutboundMsgState.isSinglePktReply, OutboundMsgState.isSinglePktReply, hRequest, hPktId]
  have hGrows : Grows m m' := by
    refine ⟨?_, hTotal, fun hActive => ?_⟩
    · rcases hCases with ⟨-, -, -, rfl, -⟩ | ⟨-, -, rfl, -⟩ <;> rfl
    · rw [hInactive] at hActive
      cases hActive
  refine h.send hSound hMsg hGrows hSame ?_ rfl rfl rfl rfl
  intro _ hReply _
  rcases hCases with ⟨-, -, -, rfl, -⟩ | ⟨hScheduled, -, -, -⟩
  · rfl
  · have hOwn := hSingle m hMsg (hSame.symm.trans hReply)
    rw [hScheduled] at hOwn
    cases hOwn

theorem deliver (h : Books n) (hSound : Sound cfg n) {pkt : Packet} {window : Int}
    (hPkt : pkt ∈ n.toRx) (hTimely : Timely (n.log pkt.reqId) pkt)
    (hOk : n.deliver cfg pkt window = some n') : Books n' := by
  obtain ⟨rx, layer, size, hRecv, -, hEq⟩ := deliver_eq_some hOk
  obtain ⟨m, hMsg, hPacket⟩ := hSound.packets pkt hPkt
  have hm := hSound.msgs _ m hMsg
  have hFacts := hPacket.facts hm
  have hTracks := hSound.tracks _ m hMsg
  have hOut := Hybrid.deliver_cases hm hPacket hTracks hTimely hRecv
  refine h.of_one pkt.reqId ?_ ?_
  · intro l hl
    rw [hEq]
    exact ⟨rfl, Function.update_of_ne hl _ _, hOut.inbound_ne hl, rfl⟩
  · intro k hGet
    rw [hEq] at hGet ⊢
    cases hMsg.symm.trans hGet
    have hBefore : Booked m (n.log pkt.reqId)
        ((n.rx.updateSenderState cfg pkt.src window).inbound.get? pkt.reqId)
        (n.grantsOf pkt.reqId) := h _ m hMsg
    have hAfter := hBefore.deliver hm hTracks (fun hCounted => (counts_facts hFacts hCounted).2) hOut
    show Booked m (Function.update n.log pkt.reqId _ pkt.reqId) (rx.inbound.get? pkt.reqId)
      (n.grantsOf pkt.reqId)
    rw [Function.update_self]
    exact hAfter.congr rfl rfl rfl

theorem bounceBack (h : Books n) (hSound : Sound cfg n) {g : Hybrid.Grant} {window : Int}
    {rx : Hybrid} (hg : g ∈ n.bounced) (hRefunds : n.Refunds g)
    (hRecv : n.rx.recv cfg g.bounced window = .ok rx) :
    Books { n with rx := rx, bounced := n.bounced.erase g } := by
  have hIssued : n.issued = g ::ₘ issued { n with rx := rx, bounced := n.bounced.erase g } :=
    (issued_bounceBack hg).symm
  obtain ⟨hOne, hOthers⟩ := grantsOf_cons hIssued
  obtain ⟨m, hMsg, hKnown, hGrant⟩ :=
    hSound.grants g (by rw [hIssued]; exact Multiset.mem_cons_self _ _)
  obtain ⟨d, -, -, hCredit, -⟩ := hGrant.data
  have hPos : 0 < g.credit := by
    rw [hCredit, wireBytes, minEthernetFrameOnWire]
    omega
  obtain ⟨im, hState, hLe⟩ := hRefunds
  have hInbound := Hybrid.recv_bounced_inbound hPos hRecv
  rw [hState] at hInbound
  have hOpen : (n.log g.reqId).completed = false := by
    have hStage := (hSound.tracks _ m hMsg).stage
    rw [hState] at hStage
    cases hStage with
    | early _ hOpen _ _ _ _ => exact hOpen
    | tracked _ _ hOpen _ _ => exact hOpen
  refine h.of_one g.reqId ?_ ?_
  · intro l hl
    refine ⟨rfl, rfl, ?_, ?_⟩
    · show rx.inbound.get? l = n.rx.inbound.get? l
      rw [hInbound]
      exact Table.get?_set_of_ne _ _ hl
    · exact (hOthers l hl).symm
  · intro k hGet
    cases hMsg.symm.trans hGet
    have hBooked := h _ m hMsg
    rw [hState, hOne] at hBooked
    show Booked m (n.log g.reqId) (rx.inbound.get? g.reqId) _
    rw [hInbound]
    simp only [Table.get?_set_self]
    exact hBooked.bounceBack hKnown hOpen hLe

theorem sendGrant (h : Books n) (hSound : Sound cfg n) (hOk : n.sendGrant cfg id = some n') :
    Books n' := by
  obtain ⟨rx, g, hGrant, hEq⟩ := sendGrant_eq_some hOk
  have hIssued : n'.issued = g.elim 0 ({·}) + n.issued := by
    rw [hEq, issued, issued]
    simp only [add_assoc]
  have hOthersLog (l : UniqReqId) (hl : l ≠ id) : n'.log l = n.log l := by
    rw [hEq]
    exact Function.update_of_ne hl _ _
  have hMsgs : n'.msgs = n.msgs := by rw [hEq]
  rcases hSound.sendGrant_cases hGrant with ⟨rfl, rfl⟩ |
    ⟨m, im, hMsg, hState, hKnown, hOpen, -, hTracked, hRest⟩
  · refine h.frame hMsgs (by rw [hEq]) ?_ (by rw [hIssued, Option.elim_none, zero_add])
    intro l
    by_cases hl : l = id
    · rw [hEq, hl]
      show (Function.update n.log id _ id).arrived = _ ∧ (Function.update n.log id _ id).announced = _ ∧
        (Function.update n.log id _ id).completed = _
      rw [Function.update_self]
      cases n.rx.inbound.get? id <;> simp
    · rw [hOthersLog l hl]
      exact ⟨rfl, rfl, rfl⟩
  · have hm := hSound.msgs id m hMsg
    have hBooked := h id m hMsg
    rw [hState] at hBooked
    rcases hRest with ⟨hComplete, rfl, rfl⟩ | ⟨d, hd, hPos, -, -, rfl, hNeed, rfl⟩
    · rw [Option.elim_none, zero_add] at hIssued
      refine h.of_one id ?_ ?_
      · intro l hl
        refine ⟨by rw [hMsgs], hOthersLog l hl, ?_, by rw [grantsOf, hIssued]; rfl⟩
        rw [hEq]
        exact Table.get?_erase_of_ne _ hl
      · intro k hGet
        rw [hMsgs] at hGet
        cases hMsg.symm.trans hGet
        simp only [InboundMsgState.isComplete, decide_eq_true_eq] at hComplete
        have hAfter := hBooked.remove hm hKnown (hComplete.2.trans hTracked.expected)
        rw [grantsOf, hIssued, hEq]
        show Booked m (Function.update n.log id _ id) ((n.rx.inbound.erase id).get? id) _
        rw [Function.update_self, Table.get?_erase_self]
        exact hAfter _
    · obtain ⟨hOne, hOthers⟩ := grantsOf_cons hIssued
      refine h.of_one id ?_ ?_
      · intro l hl
        refine ⟨by rw [hMsgs], hOthersLog l hl, ?_, hOthers l hl⟩
        rw [hEq]
        show (Hybrid.setMsg _ id _).inbound.get? l = n.rx.inbound.get? l
        rw [Hybrid.setMsg_inbound, Table.get?_set_of_ne _ _ hl]
        simp
      · intro k hGet
        rw [hMsgs] at hGet
        cases hMsg.symm.trans hGet
        have hData : Hybrid.Grant.data ⟨m.src, id, (Hybrid.granted im).seq, wireBytes d,
            framePadding d⟩ = d := wireBytes_sub_framePadding d
        have hAfter := hBooked.grant hm hKnown hOpen hData hd hPos hNeed
        rw [hOne, hEq]
        show Booked m (Function.update n.log id _ id) ((Hybrid.setMsg _ id _).inbound.get? id) _
        rw [Function.update_self, Hybrid.setMsg_inbound, Table.get?_set_self]
        exact hAfter.congr rfl rfl (by simp [hOpen])

theorem step (h : Books n) (hSound : Sound cfg n) {e : HybridNetEvent}
    (hKept : CreditKept cfg n e) (hStep : n.step cfg addr e = some n') : Books n' := by
  have hSame (l : UniqReqId) : (n.log l).arrived = (n.log l).arrived ∧
      (n.log l).announced = (n.log l).announced ∧ (n.log l).completed = (n.log l).completed :=
    ⟨rfl, rfl, rfl⟩
  cases e with
  | submitRequest id src bytes =>
    rw [HybridNet.step] at hStep
    split at hStep
    · exact h.submit hSound rfl hStep
    · cases hStep
  | submitReply id src bytes =>
    rw [HybridNet.step] at hStep
    split at hStep
    · exact h.submit hSound rfl hStep
    · cases hStep
  | sendReq id =>
    obtain ⟨-, rfl⟩ := Machine.of_guarded hStep
    refine h.frame rfl rfl (fun l => ?_) rfl
    show (Function.update n.log id _ l).arrived = _ ∧ (Function.update n.log id _ l).announced = _ ∧
      (Function.update n.log id _ l).completed = _
    by_cases hl : l = id
    · rw [hl, Function.update_self]
      exact ⟨rfl, rfl, rfl⟩
    · rw [Function.update_of_ne hl]
      exact ⟨rfl, rfl, rfl⟩
  | sendResponse id =>
    obtain ⟨-, rfl⟩ := Machine.of_guarded hStep
    exact h.frame rfl rfl hSame rfl
  | collectGarbage id =>
    cases hStep
    exact h.frame rfl rfl hSame rfl
  | activate id => exact h.activate hSound hKept hStep
  | sendData id =>
    obtain ⟨m, m', avail, pkt, hMsg, hSend, rfl⟩ := sendData_eq_some hStep
    obtain ⟨-, -, -, -, -, hMsgs, -⟩ := (hSound.msgs _ m hMsg).sendData_cases hSend
    exact h.send_same hSound hMsg hMsgs rfl rfl rfl rfl
  | retransmit id =>
    obtain ⟨m, m', pkt, hMsg, hSend, rfl⟩ := retransmit_eq_some hStep
    obtain ⟨-, hMsgs, -⟩ := (hSound.msgs _ m hMsg).retransmit_cases hSend
    exact h.send_same hSound hMsg hMsgs rfl rfl rfl rfl
  | receiveGrant g =>
    obtain ⟨hg, rfl⟩ := Machine.of_guarded hStep
    exact h.frame rfl rfl hSame (issued_receiveGrant hg)
  | receiveResend r =>
    obtain ⟨m, m', hMsg, -, -, hMsgs, -, rfl⟩ := hSound.receiveResend_cases hStep
    exact h.send_same hSound hMsg hMsgs rfl rfl rfl rfl
  | deliver pkt window =>
    rw [HybridNet.step] at hStep
    split at hStep
    · rename_i hPkt
      exact h.deliver hSound hPkt hKept hStep
    · cases hStep
  | bounceBack g window =>
    rw [HybridNet.step] at hStep
    split at hStep
    · rename_i hg
      obtain ⟨rx, hRecv, rfl⟩ := Option.map_eq_some_iff.mp hStep
      exact h.bounceBack hSound hg hKept (toOption_eq_some.mp hRecv)
    · cases hStep
  | receiveOther src window =>
    cases hStep
    exact h.frame rfl rfl hSame rfl
  | sendGrant id => exact h.sendGrant hSound hStep
  | resendTimeout id =>
    cases hStep
    rw [HybridNet.resendTimeout]
    split
    · exact h
    · exact h.frame rfl rfl hSame rfl
  | bounce g =>
    obtain ⟨hg, rfl⟩ := Machine.of_guarded hStep
    exact h.frame rfl rfl hSame (issued_bounce hg)
  | lose pkt =>
    obtain ⟨-, rfl⟩ := Machine.of_guarded hStep
    exact h.frame rfl rfl hSame rfl
  | loseResend r =>
    obtain ⟨-, rfl⟩ := Machine.of_guarded hStep
    exact h.frame rfl rfl hSame rfl
  | loseGrant g =>
    obtain ⟨hg, rfl⟩ := Machine.of_guarded hStep
    exact h.frame rfl rfl hSame (issued_loseGrant hg)
  | loseBounced g =>
    obtain ⟨hg, rfl⟩ := Machine.of_guarded hStep
    exact h.frame rfl rfl hSame (issued_loseBounced hg)
  | duplicate pkt =>
    obtain ⟨-, rfl⟩ := Machine.of_guarded hStep
    exact h.frame rfl rfl hSame rfl
  | duplicateBounced g => exact absurd hKept id

end Books

/-! ## The end of a run -/

/-- All announced messages have been received and granted, nothing is on its way, and no sender has
credit left. -/
structure Quiescent (n : HybridNet) : Prop where
  received : ∀ id m, n.msgs.get? id = some m → m.sentAnouncement = true →
    (n.log id).seen = allPkts m
  granted : ∀ id m im, n.msgs.get? id = some m → m.sentAnouncement = true →
    n.rx.inbound.get? id = some im →
      im.receivedMsgInfo = true ∧ im.dataBytesGranted = im.dataBytesExpected
  toRx : n.toRx = 0
  toTx : n.toTx = 0
  bounced : n.bounced = 0
  spent : ∀ id m, n.msgs.get? id = some m → n.availCreditBytes m.src = 0

/-- What `Quiescent` asks of one message. -/
def SettledMsg (n : HybridNet) (id : UniqReqId) (m : OutboundMsgState) : Prop :=
  n.availCreditBytes m.src = 0 ∧ (m.sentAnouncement = true → (n.log id).seen = allPkts m ∧
    ∀ im ∈ n.rx.inbound.get? id,
      im.receivedMsgInfo = true ∧ im.dataBytesGranted = im.dataBytesExpected)

instance (n : HybridNet) (id : UniqReqId) (m : OutboundMsgState) : Decidable (n.SettledMsg id m) :=
  inferInstanceAs (Decidable (_ ∧ _))

theorem quiescent_iff (n : HybridNet) : n.Quiescent ↔
    (∀ id ∈ n.msgs.keys, n.SettledMsg id (n.msgs.val id)) ∧ n.toRx = 0 ∧ n.toTx = 0 ∧
      n.bounced = 0 := by
  constructor
  · intro h
    refine ⟨fun id hId => ?_, h.toRx, h.toTx, h.bounced⟩
    have hMsg : n.msgs.get? id = some (n.msgs.val id) := Table.get?_eq_some.mpr ⟨hId, rfl⟩
    exact ⟨h.spent id _ hMsg, fun hSent =>
      ⟨h.received id _ hMsg hSent, fun im hIm => h.granted id _ im hMsg hSent hIm⟩⟩
  · rintro ⟨hMsgs, hToRx, hToTx, hBounced⟩
    have hMsg (id : UniqReqId) (m : OutboundMsgState) (hGet : n.msgs.get? id = some m) :
        n.SettledMsg id m := by
      obtain ⟨hId, rfl⟩ := Table.get?_eq_some.mp hGet
      exact hMsgs id hId
    exact {
      received := fun id m hGet hSent => ((hMsg id m hGet).2 hSent).1
      granted := fun id m im hGet hSent hIm => ((hMsg id m hGet).2 hSent).2 im hIm
      toRx := hToRx
      toTx := hToTx
      bounced := hBounced
      spent := fun id m hGet => (hMsg id m hGet).1 }

instance (n : HybridNet) : Decidable n.Quiescent := decidable_of_iff _ n.quiescent_iff.symm

/-- The receiver and all its senders have their whole budgets. -/
structure Restored (cfg : HybridConfig) (n : HybridNet) : Prop where
  budget : n.rx.budgetBytes = cfg.maxBudgetBytes
  srpb : ∀ src s, n.rx.senderState.get? src = some s → s.srpbBytes = cfg.maxSrpb

/-- What the grants of a message took and what its data has given back. -/
structure Even (m : OutboundMsgState) (l : MsgLog) (grants : Multiset Hybrid.Grant) : Prop where
  eq : (grants.map Hybrid.Grant.credit).sum + creditAbroad m l = 0

section Messages

variable {m : OutboundMsgState} {l : MsgLog} {inb : Option InboundMsgState}
  {grants : Multiset Hybrid.Grant} {pkts : Finset Nat}

/-- Nothing was granted to a message that is not announced. -/
theorem even_of_unannounced (hExact : GrantedExact m l inb grants pkts)
    (hNew : l.announced = false) (hNone : l.arrived = ∅) : Even m l grants := by
  have hGrants : grants.map Hybrid.Grant.data = 0 := by
    have hPaired := hExact.paired
    rw [hExact.unannounced hNew] at hPaired
    exact hPaired.eq_zero_of_empty
  rw [Multiset.map_eq_zero] at hGrants
  constructor
  rw [hGrants, creditAbroad, hNew, hNone]
  simp

/-- The credit of the grants for the packets. -/
theorem sum_credit (hExact : GrantedExact m l inb grants pkts)
    (hGrants : ∀ g ∈ grants, IsGrantOf m g) :
    (grants.map Hybrid.Grant.credit).sum = (∑ i ∈ pkts, pktWire m.totalBytes i : Nat) := by
  have hCredit : grants.map Hybrid.Grant.credit =
      (grants.map Hybrid.Grant.data).map fun d => (wireBytes d.toNat : Int) := by
    rw [Multiset.map_map]
    exact Multiset.map_congr rfl fun g hg => (hGrants g hg).credit_eq
  rw [hCredit, hExact.paired.sum_map]
  rw [Nat.cast_sum]
  refine Finset.sum_congr rfl fun i _ => ?_
  rw [Int.toNat_natCast]
  rfl

/-- A message that is granted and that has arrived. -/
theorem even_of_granted (hm : m.Ok cfg) (hExact : GrantedExact m l inb grants (scheduledPkts m))
    (hGrants : ∀ g ∈ grants, IsGrantOf m g) (hKnown : l.announced = true)
    (hAll : l.arrived = allPkts m) : Even m l grants := by
  have hAligned := aligned_selfAllocCreditData hm
  have hWire := sum_pktWire_from hAligned
  have hTotal : ∑ i ∈ allPkts m, pktWire m.totalBytes i = addHeaderOverhead m.totalBytes false :=
    sum_pktWire ⟨Nat.le_refl _, Or.inr rfl⟩
  have hOwn : m.selfAllocCredit = addHeaderOverhead m.selfAllocCreditData false := by
    cases hScheduled : m.isScheduled with
    | true =>
      obtain ⟨hCredit, hData⟩ := hm.scheduled hScheduled
      rw [hCredit, hData, addHeaderOverhead_zero]
    | false => exact (hm.unsolicited hScheduled).2.2.2
  constructor
  rw [sum_credit hExact hGrants, creditAbroad, hKnown, if_pos rfl, hAll, hTotal, hOwn]
  rw [scheduledPkts]
  omega

end Messages

/-- Every message is even when the run has come to its end. -/
theorem Quiescent.even (hQuiet : Quiescent n) (hSound : Sound cfg n) (hDelivers : Delivers addr n)
    (hBooks : Books n) {m : OutboundMsgState} (hMsg : n.msgs.get? id = some m) :
    Even m (n.log id) (n.grantsOf id) := by
  have hm := hSound.msgs id m hMsg
  have hTracks := hSound.tracks id m hMsg
  have hBooked := hBooks id m hMsg
  obtain ⟨pkts, hExact⟩ := hBooked.grants
  have hGrants : ∀ g ∈ n.grantsOf id, IsGrantOf m g := by
    intro g hg
    obtain ⟨hIssued, rfl⟩ := Multiset.mem_filter.mp hg
    obtain ⟨k, hGet, -, hGrant⟩ := hSound.grants g hIssued
    cases hMsg.symm.trans hGet
    exact hGrant
  cases hSent : m.sentAnouncement with
  | false =>
    -- Nothing was sent, so that the receiver does not know the message.
    have hUnsent : m.bytesSent = 0 := by
      by_contra hSome
      have hAnnounced := hm.anounced_of_sent (Nat.pos_of_ne_zero hSome)
      rw [hSent] at hAnnounced
      cases hAnnounced
    have hNone : (n.log id).arrived = ∅ := by
      apply Finset.eq_empty_of_forall_notMem
      intro i hi
      have hLess := hTracks.arrived_sent i hi
      omega
    refine even_of_unannounced hExact ?_ hNone
    by_contra hKnown
    have hKnown := Bool.of_not_eq_false hKnown
    have hActive : m.active = true := by
      by_contra hInactive
      have hNew := Conserved.not_announced hSound hMsg (Bool.eq_false_iff.mpr hInactive)
      rw [hKnown] at hNew
      cases hNew
    cases hScheduled : m.isScheduled with
    | true =>
      have hAnnounced := (hm.announced hActive hScheduled).2
      rw [hSent] at hAnnounced
      cases hAnnounced
    | false =>
      obtain ⟨i, hi⟩ := hBooked.first hKnown hScheduled
      rw [hNone] at hi
      exact absurd hi (Finset.notMem_empty i)
  | true =>
    have hSeen := hQuiet.received id m hMsg hSent
    cases hSingle : m.isSinglePktReply with
    | true =>
      exact even_of_unannounced hExact (hBooked.singleUnknown hSingle) (hTracks.single hSingle)
    | false =>
      have hAll : (n.log id).arrived = allPkts m := by
        rw [← (hDelivers.passed id m hMsg).seen_eq hSingle, hSeen]
      have hStage := hTracks.stage
      have hGranted := hQuiet.granted id m
      generalize n.rx.inbound.get? id = inb at hStage hGranted hExact
      cases hStage with
      | unknown _ _ hNone =>
        rw [hNone] at hAll
        have hZero := zero_mem_allPkts hm
        rw [← hAll] at hZero
        exact absurd hZero (Finset.notMem_empty 0)
      | early _ _ _ _ _ _ => cases (hGranted _ hMsg hSent rfl).1
      | tracked im hKnown _ _ hTracked =>
        have hSum := hExact.granted im rfl hKnown
        rw [(hGranted im hMsg hSent rfl).2, hTracked.expected] at hSum
        rw [eq_scheduledPkts hm hExact.sub hSum] at hExact
        exact even_of_granted hm hExact hGrants hKnown hAll
      | deleted hKnown hDone _ _ =>
        rw [hExact.completed hDone] at hExact
        exact even_of_granted hm hExact hGrants hKnown hAll

/-- At the end of a run nothing is missing in any budget. -/
theorem Quiescent.restored (hQuiet : Quiescent n) (hSound : Sound cfg n)
    (hConserved : Conserved cfg n) (hDelivers : Delivers addr n) (hBooks : Books n) :
    Restored cfg n := by
  have hShare (src : Int) : n.rx.srpbOf cfg src = cfg.maxSrpb := by
    have hKeys : ∀ g ∈ n.issued, g.reqId ∈ n.msgs.keys := by
      intro g hg
      obtain ⟨m, hGet, -⟩ := hSound.grants g hg
      exact (Table.get?_eq_some.mp hGet).1
    have hSum : creditTo src n.issued + n.sumFrom src creditAbroad = 0 := by
      rw [creditTo, ← sum_filter_key Hybrid.Grant.reqId _ hKeys, sumFrom, Table.sum,
        ← Finset.sum_add_distrib]
      apply Finset.sum_eq_zero
      intro id hId
      have hMsg : n.msgs.get? id = some (n.msgs.val id) := Table.get?_eq_some.mpr ⟨hId, rfl⟩
      have hEven := (hQuiet.even hSound hDelivers hBooks hMsg).eq
      have hDst : ∀ g ∈ n.grantsOf id, g.dst = (n.msgs.val id).src := by
        intro g hg
        obtain ⟨hIssued, rfl⟩ := Multiset.mem_filter.mp hg
        obtain ⟨m, hGet, -, hGrant⟩ := hSound.grants g hIssued
        cases hMsg.symm.trans hGet
        exact hGrant.dst
      show ((n.grantsOf id).map fun g => if g.dst = src then g.credit else 0).sum + _ = 0
      rw [Multiset.map_congr rfl fun g hg => by rw [hDst g hg]]
      split
      · exact hEven
      · simp
    have hBalance := hConserved.receiver src
    rw [add_assoc, hSum, add_zero] at hBalance
    exact hBalance
  refine ⟨hConserved.exact.budget_eq hShare, ?_⟩
  intro src s hState
  have hSrc := hShare src
  rw [Hybrid.srpbOf, hState] at hSrc
  exact hSrc

end HybridNet

/-! ## Runs -/

/-- Any number of hosts. Every host is the receiver of a `hybridNet`. -/
def hybridHosts (cfg : HybridConfig) : Machine (Int → HybridNet) (Int × HybridNetEvent) :=
  Machine.indexed (hybridNet cfg)

/-- When a run whose steps keep credit comes to an end in all hosts, all budgets are whole. -/
theorem credit_restored (cfg : HybridConfig) (es : List (Int × HybridNetEvent))
    (hosts : Int → HybridNet) (hRun : (hybridHosts cfg).run (hybridHosts cfg).init es = some hosts)
    (hKept : (hybridHosts cfg).Guarded (fun s e => HybridNet.CreditKept cfg (s e.1) e.2)
      (hybridHosts cfg).init es) (hQuiet : ∀ addr, (hosts addr).Quiescent) :
    ∀ addr, (hosts addr).Restored cfg := by
  have hAll : ∀ addr, (hosts addr).Sound cfg ∧ (hosts addr).Conserved cfg ∧
      (hosts addr).Delivers addr ∧ (hosts addr).Books := by
    refine Machine.indexed_induction (M := hybridNet cfg) (C := HybridNet.CreditKept cfg)
      (I := fun addr n => n.Sound cfg ∧ n.Conserved cfg ∧ n.Delivers addr ∧ n.Books) ?_ ?_ hKept hRun
    · intro addr
      exact ⟨HybridNet.sound_init cfg, HybridNet.conserved_init cfg,
        HybridNet.delivers_init cfg addr, HybridNet.books_init cfg⟩
    · rintro addr s e t ⟨hSound, hConserved, hDelivers, hBooks⟩ hGuard hStep
      exact ⟨hSound.step hGuard.timely hStep, hConserved.step hSound hGuard.timely hGuard.once hStep,
        hDelivers.step hSound hGuard.timely hStep, hBooks.step hSound hGuard hStep⟩
  intro addr
  obtain ⟨hSound, hConserved, hDelivers, hBooks⟩ := hAll addr
  exact (hQuiet addr).restored hSound hConserved hDelivers hBooks

/-- A run of one host that comes to its end. -/
theorem quiescent_of_one {es : List HybridNetEvent} {n : HybridNet} {addr : Int}
    (hRun : (hybridNet cfg addr).run (hybridNet cfg addr).init es = some n) (hQuiet : n.Quiescent) :
    ∃ hosts, (hybridHosts cfg).run (hybridHosts cfg).init (es.map (addr, ·)) = some hosts ∧
      hosts addr = n ∧ ∀ other, (hosts other).Quiescent := by
  refine ⟨Function.update (hybridHosts cfg).init addr n, ?_, Function.update_self _ _ _, ?_⟩
  · rw [hybridHosts, Machine.indexed_run]
    exact congrArg (Option.map _) hRun
  · intro other
    by_cases hOther : other = addr
    · rw [hOther, Function.update_self]
      exact hQuiet
    · rw [Function.update_of_ne hOther]
      exact (HybridNet.quiescent_iff _).mpr ⟨nofun, rfl, rfl, rfl⟩

/-- Messages of one packet start with credit of their own. -/
def onePacketConfig : HybridConfig where
  maxBudgetBytes := 100000
  maxSrpb := 100000
  unsolicitedThreshBytes := 1500

def hostTwoSecondRequest : UniqReqId := ⟨2, 0, 1⟩

/-- A request of two packets from host 2, which has asked for credit. -/
def scheduledPackets : OutboundMsgState :=
  { OutboundMsgState.ofRequest 2 2000 with active := true, sentAnouncement := true }

def firstGrant : Hybrid.Grant := ⟨2, hostTwoRequest, 1458, 1538, 0⟩

def secondGrant : Hybrid.Grant := ⟨2, hostTwoRequest, 2000, 622, 0⟩

/-- Two requests, one of them with credit of its own. The second grant of the other one bounces and
is sent again, and its second packet is lost and sent again. -/
def bouncedRun : List HybridNetEvent :=
  [.submitRequest hostTwoRequest 2 2000, .activate hostTwoRequest,
    .submitRequest hostTwoSecondRequest 2 1000, .activate hostTwoSecondRequest,
    .sendData hostTwoSecondRequest,
    .deliver { onePacketFirst with reqId := hostTwoSecondRequest } 100000,
    .deliver ((OutboundMsgState.ofRequest 2 2000).grantReq hostTwoRequest) 100000,
    .sendGrant hostTwoRequest, .sendGrant hostTwoRequest, .bounce secondGrant,
    .receiveGrant firstGrant, .bounceBack secondGrant 100000, .sendGrant hostTwoRequest,
    .sendData hostTwoRequest, .receiveGrant secondGrant, .sendData hostTwoRequest,
    .lose (scheduledPackets.dataPacket hostTwoRequest false 1458 542),
    .deliver (scheduledPackets.dataPacket hostTwoRequest true 0 1458) 100000,
    .resendTimeout hostTwoRequest, .receiveResend ⟨hostTwoRequest, 1458, 542⟩,
    .retransmit hostTwoRequest,
    .deliver { scheduledPackets.dataPacket hostTwoRequest false 1458 542 with resendBytes := 542 }
      100000]

theorem credit_restored_bouncedRun :
    ∃ hosts, (hybridHosts onePacketConfig).run (hybridHosts onePacketConfig).init
        (bouncedRun.map (1, ·)) = some hosts ∧ ∀ addr, (hosts addr).Restored onePacketConfig := by
  have hRuns : ((hybridNet onePacketConfig 1).run (hybridNet onePacketConfig 1).init
      bouncedRun).map (fun n => decide n.Quiescent) = some true := by
    decide +kernel
  obtain ⟨n, hRun, hQuiet⟩ := Option.map_eq_some_iff.mp hRuns
  obtain ⟨hosts, hAll, -, hEnd⟩ := quiescent_of_one hRun (of_decide_eq_true hQuiet)
  exact ⟨hosts, hAll, credit_restored onePacketConfig (bouncedRun.map (1, ·)) hosts hAll
    (by decide +kernel) hEnd⟩

def hostOneRequest : UniqReqId := ⟨1, 0, 0⟩

/-- A reply of one packet from host 2 to a request of host 1, with credit from a grant. -/
def singleReplyRun : List HybridNetEvent :=
  [.sendReq hostOneRequest, .submitReply hostOneRequest 2 1000, .activate hostOneRequest,
    .deliver ((OutboundMsgState.ofReply 2 1000).grantReq hostOneRequest) 100000,
    .sendGrant hostOneRequest, .receiveGrant ⟨2, hostOneRequest, 1000, 1080, 0⟩,
    .sendData hostOneRequest,
    .deliver ((OutboundMsgState.ofReply 2 1000).dataPacket hostOneRequest true 0 1000) 100000]

/-- The packet of a reply of one packet goes past the credit protocol: what its grant took is not
given back. -/
theorem granted_single_reply_keeps_credit :
    ∃ hosts, (hybridHosts ⟨100000, 100000, 500, true⟩).run
        (hybridHosts ⟨100000, 100000, 500, true⟩).init (singleReplyRun.map (1, ·)) = some hosts ∧
      (∀ addr, (hosts addr).Quiescent) ∧ (hosts 1).rx.budgetBytes = 98920 ∧
      ¬ (hosts 1).Restored ⟨100000, 100000, 500, true⟩ := by
  have hRuns : ((hybridNet ⟨100000, 100000, 500, true⟩ 1).run
      (hybridNet ⟨100000, 100000, 500, true⟩ 1).init singleReplyRun).map
        (fun n => (decide n.Quiescent, n.rx.budgetBytes)) = some (true, 98920) := by
    decide +kernel
  obtain ⟨n, hRun, hEnd⟩ := Option.map_eq_some_iff.mp hRuns
  obtain ⟨hQuiet, hBudget⟩ := Prod.mk.inj hEnd
  obtain ⟨hosts, hAll, hOne, hOthers⟩ := quiescent_of_one hRun (of_decide_eq_true hQuiet)
  rw [← hOne] at hBudget
  refine ⟨hosts, hAll, hOthers, hBudget, fun hRestored => ?_⟩
  have hWhole := hRestored.budget
  rw [hBudget] at hWhole
  exact absurd hWhole (by decide)

end Dpdq.Ns2
