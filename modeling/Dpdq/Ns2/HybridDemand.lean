import Dpdq.Ns2.HybridStep

/-!
# Demand of the messages

The receiver counts the data that was requested from it and the data that it has granted. Their
difference is what its messages are still to be granted, as long as no message comes with
self-allocated credit and no bounced grant has to be granted again: neither changes the counters.

`RequestsCover` is the invariant behind it, `requestsCover_step` what every step keeps.
-/

namespace Dpdq.Ns2

open Dpdq.Lib

/-- The data that was announced for a message and that the message has not been granted. -/
def InboundMsgState.ungranted (m : InboundMsgState) : Nat :=
  m.dataBytesExpected - m.dataBytesGranted

def Hybrid.ungrantedData (h : Hybrid) : Nat := h.inbound.total InboundMsgState.ungranted

/-- The assertions on the granted data: in `recv` on a request, and in
`send_credit_policy_common`. -/
def IsDemandAssertion (f : Failure) : Prop :=
  f = .requestRcvdGeGranted ∨ f = .uncreditedNonneg ∨ f = .grantedLeExpected

/-- The counters of the requested and of the granted data are exact, and no assertion on them can
fail next. -/
structure DemandExact (cfg : HybridConfig) (h : Hybrid) : Prop where
  le : h.stats.creditDataGranted ≤ h.stats.creditDataRequestRcvd
  diff : h.stats.creditDataRequestRcvd - h.stats.creditDataGranted = h.ungrantedData
  safe : ∀ e, Spares IsDemandAssertion (h.step cfg e)

/-- Sizes of messages are `int` at the senders. -/
def SizedRequest (_ : Hybrid) : HybridEvent → Prop
  | .recv pkt _ => pkt.creditReq < 2 ^ 31
  | .sendGrant _ => True

/-- An announcement has no self-allocated credit and leaves the counter of the requested data in
its 64 bits; a bounced grant takes no data back from its message. -/
def PlainDemand (h : Hybrid) : HybridEvent → Prop
  | .recv pkt _ =>
    (Hybrid.Announces pkt (h.msgOf pkt) →
      pkt.unsolCredit ≤ 0 ∧ h.stats.creditDataRequestRcvd + pkt.creditReq < 2 ^ 64) ∧
    (Hybrid.BouncesBack pkt → ∀ m, h.inbound.get? pkt.reqId = some m →
      m.revokeData (Hybrid.creditDataNet pkt) = 0)
  | .sendGrant _ => True

/-! ## One message -/

/-- What a message has been granted was announced, and an announced size is an `int`. -/
structure MsgBooks (m : InboundMsgState) : Prop where
  unknown : m.receivedMsgInfo = false → m.dataBytesExpected = 0
  granted_le : m.dataBytesGranted ≤ m.dataBytesExpected
  expected_lt : m.dataBytesExpected < 2 ^ 31

/-- Two states of a message agree on what was announced and granted. -/
structure SameDemand (m m' : InboundMsgState) : Prop where
  expected : m'.dataBytesExpected = m.dataBytesExpected
  granted : m'.dataBytesGranted = m.dataBytesGranted
  info : m'.receivedMsgInfo = m.receivedMsgInfo

theorem SameDemand.books {m m' : InboundMsgState} (h : SameDemand m m') (hm : MsgBooks m) :
    MsgBooks m' := by
  obtain ⟨hUnknown, hGranted, hExpected⟩ := hm
  obtain ⟨hE, hG, hI⟩ := h
  exact ⟨fun hInfo => hE.trans (hUnknown (hI.symm.trans hInfo)), by omega, by omega⟩

theorem SameDemand.ungranted {m m' : InboundMsgState} (h : SameDemand m m') :
    m'.ungranted = m.ungranted := by
  unfold InboundMsgState.ungranted
  rw [h.expected, h.granted]

theorem sameDemand_ensureInboundTracking (m : InboundMsgState) :
    SameDemand m m.ensureInboundTracking := by
  unfold InboundMsgState.ensureInboundTracking
  split
  · exact ⟨rfl, rfl, rfl⟩
  · dsimp only
    split <;> exact ⟨rfl, rfl, rfl⟩

theorem sameDemand_arrived (pkt : Packet) (m : InboundMsgState) :
    SameDemand m (Hybrid.arrived pkt m) := by
  obtain ⟨hE, hG, hI⟩ := sameDemand_ensureInboundTracking m
  exact ⟨hE, hG, hI⟩

theorem sameDemand_announced (m : InboundMsgState) (n : Nat) :
    SameDemand { m with dataBytesExpected := n, receivedMsgInfo := true } (m.announced n) :=
  sameDemand_ensureInboundTracking _

theorem ungranted_of_isComplete {m : InboundMsgState} (h : m.isComplete = true) :
    m.ungranted = 0 := by
  simp only [InboundMsgState.isComplete, decide_eq_true_eq] at h
  unfold InboundMsgState.ungranted
  omega

/-- The difference that a grant is computed from does not wrap. -/
theorem MsgBooks.toInt32_eq {m : InboundMsgState} (hm : MsgBooks m) :
    toInt32 ((m.dataBytesExpected : Int) - m.dataBytesGranted) = m.ungranted := by
  have hLe := hm.granted_le
  have hLt := hm.expected_lt
  unfold InboundMsgState.ungranted
  rw [toInt32_of_lt (by omega) (by omega)]
  omega

theorem MsgBooks.needData_le {m : InboundMsgState} (hm : MsgBooks m) :
    Hybrid.needData m ≤ m.ungranted := by
  unfold Hybrid.needData
  rw [hm.toInt32_eq, Int.toNat_natCast]
  exact Nat.min_le_right _ _

/-- A grant moves the data that it is for out of the demand. -/
theorem MsgBooks.ungranted_granted {m : InboundMsgState} (hm : MsgBooks m) :
    MsgBooks (Hybrid.granted m) ∧
      (Hybrid.granted m).ungranted + Hybrid.needData m = m.ungranted := by
  have hNeed := hm.needData_le
  have hLe := hm.granted_le
  unfold InboundMsgState.ungranted at hNeed
  constructor
  · refine ⟨hm.unknown, ?_, hm.expected_lt⟩
    simp only [Hybrid.granted]
    omega
  · simp only [InboundMsgState.ungranted, Hybrid.granted]
    omega

/-! ## The counters -/

/-- The requested data covers the granted and the ungranted data. -/
structure RequestsCover (h : Hybrid) : Prop where
  eq : h.stats.creditDataRequestRcvd = h.stats.creditDataGranted + h.ungrantedData
  lt : h.stats.creditDataRequestRcvd < 2 ^ 64
  books : ∀ id m, h.inbound.get? id = some m → MsgBooks m

theorem RequestsCover.msgOf {h : Hybrid} (hh : RequestsCover h) (pkt : Packet) :
    MsgBooks (h.msgOf pkt) := by
  unfold Hybrid.msgOf
  cases hMsg : h.inbound.get? pkt.reqId with
  | none => exact ⟨fun _ => rfl, Nat.le_refl _, Nat.two_pow_pos 31⟩
  | some m => exact hh.books _ m hMsg

/-- Writing the state of a message, or deleting it when nothing of it is to be granted. -/
theorem RequestsCover.post {h h' : Hybrid} (hh : RequestsCover h) (id : UniqReqId)
    {m : InboundMsgState} (hm : MsgBooks m)
    (hInbound : h'.inbound = h.inbound.set id m ∨
      h'.inbound = h.inbound.erase id ∧ m.ungranted = 0)
    (hLt : h'.stats.creditDataRequestRcvd < 2 ^ 64)
    (hMoved : h'.stats.creditDataRequestRcvd + h.stats.creditDataGranted +
        (h.inbound.get? id).elim 0 InboundMsgState.ungranted =
      h.stats.creditDataRequestRcvd + h'.stats.creditDataGranted + m.ungranted) :
    RequestsCover h' := by
  have hEq := hh.eq
  unfold Hybrid.ungrantedData at hEq
  rw [Table.total_eq _ id] at hEq
  have hTotal : h'.ungrantedData = m.ungranted + h.inbound.others id InboundMsgState.ungranted := by
    unfold Hybrid.ungrantedData
    rcases hInbound with hSet | ⟨hErase, hZero⟩
    · rw [hSet, Table.total_set]
    · rw [hErase, Table.total_erase, hZero, Nat.zero_add]
  refine ⟨by omega, hLt, ?_⟩
  intro l k hGet
  by_cases hl : l = id
  · subst hl
    rcases hInbound with hSet | ⟨hErase, -⟩
    · rw [hSet, Table.get?_set_self] at hGet
      exact Option.some.inj hGet ▸ hm
    · rw [hErase, Table.get?_erase_self] at hGet
      cases hGet
  · rcases hInbound with hSet | ⟨hErase, -⟩
    · rw [hSet, Table.get?_set_of_ne _ _ hl] at hGet
      exact hh.books l k hGet
    · rw [hErase, Table.get?_erase_of_ne _ hl] at hGet
      exact hh.books l k hGet

/-- Nothing that the counters depend on changes. -/
theorem RequestsCover.frame {h h' : Hybrid} (hh : RequestsCover h)
    (hInbound : h'.inbound = h.inbound)
    (hRcvd : h'.stats.creditDataRequestRcvd = h.stats.creditDataRequestRcvd)
    (hGranted : h'.stats.creditDataGranted = h.stats.creditDataGranted) : RequestsCover h' := by
  refine ⟨?_, hRcvd ▸ hh.lt, hInbound ▸ hh.books⟩
  unfold Hybrid.ungrantedData
  rw [hRcvd, hGranted, hInbound]
  exact hh.eq

theorem entry_msgOf (h : Hybrid) (pkt : Packet) :
    (h.inbound.get? pkt.reqId).elim 0 InboundMsgState.ungranted = (h.msgOf pkt).ungranted := by
  unfold Hybrid.msgOf
  cases h.inbound.get? pkt.reqId with
  | none => rfl
  | some m => rfl

theorem settleMsg_inbound_or (h : Hybrid) (id : UniqReqId) (m : InboundMsgState) :
    (h.settleMsg id m).inbound = h.inbound.set id m ∨
      (h.settleMsg id m).inbound = h.inbound.erase id ∧ m.ungranted = 0 := by
  rw [Hybrid.settleMsg_inbound]
  cases hComplete : m.isComplete with
  | true => exact .inr ⟨rfl, ungranted_of_isComplete hComplete⟩
  | false => exact .inl rfl

/-! ## What the steps keep -/

section Steps

variable {cfg : HybridConfig} {h h' : Hybrid} {pkt : Packet} {m : InboundMsgState}

/-- Data moves neither the counters nor the demand of its message. -/
theorem receivedData_demand (hOk : h.receivedData cfg pkt m = .ok h') :
    h'.stats.creditDataRequestRcvd = h.stats.creditDataRequestRcvd ∧
      h'.stats.creditDataGranted = h.stats.creditDataGranted ∧
      ∃ m', SameDemand m m' ∧ (h'.inbound = h.inbound.set pkt.reqId m' ∨
        h'.inbound = h.inbound.erase pkt.reqId ∧ m'.ungranted = 0) := by
  obtain ⟨-, ⟨-, rfl⟩ | ⟨-, -, rfl⟩⟩ := Hybrid.receivedData_cases hOk
  · exact ⟨rfl, rfl, _, sameDemand_ensureInboundTracking m, .inl rfl⟩
  · have hStats : (h.replenish pkt.src pkt.size).stats = { h.stats with
        creditReplenished := addU64 h.stats.creditReplenished (wireBytes pkt.size) } := by
      simp [Hybrid.replenish, Hybrid.addCreditReplenished]
    rw [Hybrid.settleMsg_stats, hStats]
    refine ⟨rfl, rfl, _, sameDemand_arrived pkt m, ?_⟩
    rw [← h.replenish_inbound pkt.src pkt.size]
    exact settleMsg_inbound_or _ _ _

/-- An announcement without self-allocated credit adds the size of the message to both sides. -/
theorem announce_demand {h₁ : Hybrid} {m₁ : InboundMsgState}
    (hOk : h.announce cfg pkt m = .ok (h₁, m₁)) (hPlain : pkt.unsolCredit ≤ 0) :
    h₁ = h.addRequestRcvd pkt.creditReq ∧ m₁ = m.announced pkt.creditReq := by
  obtain ⟨-, ⟨-, hh, hm⟩ | ⟨hUnsol, -⟩⟩ := Hybrid.announce_cases hOk
  · exact ⟨hh, hm⟩
  · omega

theorem books_announced (hm : MsgBooks m) (hInfo : m.receivedMsgInfo = false) {n : Nat}
    (hn : n < 2 ^ 31) : MsgBooks (m.announced n) ∧ (m.announced n).ungranted = n := by
  have hSame := sameDemand_announced m n
  have hGranted : m.dataBytesGranted = 0 := by
    have hZero := hm.unknown hInfo
    have hLe := hm.granted_le
    omega
  constructor
  · exact hSame.books ⟨nofun, hGranted ▸ Nat.zero_le n, hn⟩
  · rw [hSame.ungranted]
    simp [InboundMsgState.ungranted, hGranted]

theorem requestsCover_recvMsg (hh : RequestsCover h) (hSize : pkt.creditReq < 2 ^ 31)
    (hPlain : Hybrid.Announces pkt (h.msgOf pkt) →
      pkt.unsolCredit ≤ 0 ∧ h.stats.creditDataRequestRcvd + pkt.creditReq < 2 ^ 64)
    (hOk : h.recvMsg cfg pkt (h.msgOf pkt) = .ok h') : RequestsCover h' := by
  have hm := hh.msgOf pkt
  rcases Hybrid.recvMsg_cases hOk with ⟨-, hData⟩ | ⟨hNew, h₁, m₁, hAnnounce, hRest⟩
  · obtain ⟨hRcvd, hGranted, m', hSame, hInbound⟩ := receivedData_demand hData
    refine hh.post _ (hSame.books hm) hInbound (hRcvd ▸ hh.lt) ?_
    rw [entry_msgOf, hSame.ungranted]
    omega
  · obtain ⟨hUnsol, hFits⟩ := hPlain hNew
    obtain ⟨rfl, rfl⟩ := announce_demand hAnnounce hUnsol
    obtain ⟨hBooks, hUngranted⟩ := books_announced hm hNew.2 hSize
    have hRcvd : (h.addRequestRcvd pkt.creditReq).stats.creditDataRequestRcvd =
        h.stats.creditDataRequestRcvd + pkt.creditReq := Nat.mod_eq_of_lt hFits
    have hEntry : (h.msgOf pkt).ungranted = 0 := by
      unfold InboundMsgState.ungranted
      rw [hm.unknown hNew.2, Nat.zero_sub]
    rcases hRest with ⟨-, -, rfl⟩ | ⟨-, hData⟩
    · refine hh.post pkt.reqId hBooks (.inl rfl) ?_ ?_
      · rw [Hybrid.setMsg_stats, hRcvd]
        exact hFits
      · rw [entry_msgOf, hEntry, hUngranted, Hybrid.setMsg_stats, hRcvd]
        change _ = _ + h.stats.creditDataGranted + _
        omega
    · obtain ⟨hRcvd', hGranted', m', hSame, hInbound⟩ := receivedData_demand hData
      refine hh.post _ (hSame.books hBooks) hInbound ?_ ?_
      · rw [hRcvd', hRcvd]
        exact hFits
      · rw [entry_msgOf, hEntry, hSame.ungranted, hUngranted, hRcvd', hRcvd, hGranted']
        change _ = _ + h.stats.creditDataGranted + _
        omega

/-- Bounced credit that takes no data back from its message. -/
theorem requestsCover_bounced (hh : RequestsCover h) {id : UniqReqId} {net : Int} (addr credit : Int)
    (hMsg : h.inbound.get? id = some m) (hNone : m.revokeData net = 0) :
    RequestsCover ((h.charge addr credit).setMsg id (m.revoke net)) := by
  have hSame : SameDemand m (m.revoke net) := by
    refine ⟨rfl, ?_, rfl⟩
    simp [InboundMsgState.revoke, hNone]
  refine hh.post id (hSame.books (hh.books id m hMsg)) (.inl ?_) ?_ ?_
  · rw [Hybrid.setMsg_inbound, Hybrid.charge_inbound]
  · simpa using hh.lt
  · rw [hMsg, Option.elim_some, hSame.ungranted, Hybrid.setMsg_stats, Hybrid.charge_stats]

theorem requestsCover_recv {window : Int} (hh : RequestsCover h) (hSize : pkt.creditReq < 2 ^ 31)
    (hPlain : PlainDemand h (.recv pkt window)) (hOk : h.recv cfg pkt window = .ok h') :
    RequestsCover h' := by
  have hFrame : RequestsCover (h.updateSenderState cfg pkt.src window) := hh.frame rfl rfl rfl
  rcases Hybrid.recv_cases hOk with rfl | ⟨hBounced, hEq⟩ | ⟨-, hMsg⟩
  · exact hFrame
  · cases hMsg : h.inbound.get? pkt.reqId with
    | none =>
      rw [hMsg] at hEq
      rw [hEq]
      exact hFrame.frame (by simp) (by simp) (by simp)
    | some m =>
      rw [hMsg] at hEq
      rw [hEq]
      exact requestsCover_bounced hFrame pkt.src (-pkt.credit) hMsg (hPlain.2 hBounced m hMsg)
  · exact requestsCover_recvMsg hFrame hSize hPlain.1 hMsg

theorem requestsCover_sendGrant {id : UniqReqId} {g : Option Hybrid.Grant} (hh : RequestsCover h)
    (hOk : h.sendGrant cfg id = .ok (h', g)) : RequestsCover h' := by
  rcases Hybrid.sendGrant_cases hOk with ⟨rfl, -⟩ | ⟨m, hMsg, -, hRest⟩
  · exact hh
  have hm := hh.books id m hMsg
  rcases hRest with ⟨hComplete, rfl, -⟩ | ⟨-, -, -, -, rfl, -⟩
  · have hZero := ungranted_of_isComplete hComplete
    refine hh.post id hm (.inr ⟨rfl, hZero⟩) hh.lt ?_
    rw [hMsg, Option.elim_some]
    rfl
  · obtain ⟨hBooks, hUngranted⟩ := hm.ungranted_granted
    have hEq := hh.eq
    have hLt := hh.lt
    have hLe := Table.le_total hMsg InboundMsgState.ungranted
    unfold Hybrid.ungrantedData at hEq
    have hGranted : addU64 h.stats.creditDataGranted (Hybrid.needData m) =
        h.stats.creditDataGranted + Hybrid.needData m := Nat.mod_eq_of_lt (by omega)
    refine hh.post id hBooks (.inl (by simp)) ?_ ?_
    · simpa [Hybrid.addDataGranted, Hybrid.addCreditGranted] using hh.lt
    · rw [hMsg, Option.elim_some]
      simp only [Hybrid.setMsg_stats, Hybrid.addDataGranted, Hybrid.addCreditGranted,
        Hybrid.charge_stats, hGranted]
      omega

theorem requestsCover_step {e : HybridEvent} (hh : RequestsCover h) (hSize : SizedRequest h e)
    (hPlain : PlainDemand h e) (hOk : h.step cfg e = .ok h') : RequestsCover h' := by
  cases e with
  | recv pkt window => exact requestsCover_recv hh hSize hPlain hOk
  | sendGrant id =>
    obtain ⟨g, hGrant⟩ := Hybrid.step_sendGrant_eq_ok.mp hOk
    exact requestsCover_sendGrant hh hGrant

/-! ## The assertions -/

theorem receivedData_spares : Spares IsDemandAssertion (h.receivedData cfg pkt m) := by
  unfold Hybrid.receivedData
  refine .check_bind (by simp [IsDemandAssertion]) fun _ => ?_
  refine .ite (fun _ => .pure _) fun _ => ?_
  refine .check_bind (by simp [IsDemandAssertion]) fun _ => ?_
  refine .check_bind (by simp [IsDemandAssertion]) fun _ => ?_
  refine .check_bind (by simp [IsDemandAssertion]) fun _ => ?_
  refine .check_bind (by simp [IsDemandAssertion]) fun _ => ?_
  refine .check_bind (by simp [IsDemandAssertion]) fun _ => ?_
  exact .check_bind (by simp [IsDemandAssertion]) fun _ => .pure _

theorem announceUnsolicited_spares :
    Spares IsDemandAssertion (h.announceUnsolicited cfg pkt m) := by
  unfold Hybrid.announceUnsolicited
  refine .ite (fun _ => ?_) fun _ => .pure _
  refine .check_bind (by simp [IsDemandAssertion]) fun _ => ?_
  refine .check_bind (by simp [IsDemandAssertion]) fun _ => ?_
  exact .check_bind (by simp [IsDemandAssertion]) fun _ => .pure _

theorem recvMsg_spares (hLe : h.stats.creditDataGranted ≤ h.stats.creditDataRequestRcvd) :
    Spares IsDemandAssertion (h.recvMsg cfg pkt m) := by
  unfold Hybrid.recvMsg
  refine .ite (fun _ => ?_) fun _ => receivedData_spares
  refine .bind ?_ fun r _ => ?_
  · unfold Hybrid.announce
    refine .check_bind (by simp [IsDemandAssertion]) fun _ => ?_
    exact .bind (.check_of_holds hLe) fun _ _ => announceUnsolicited_spares
  · refine .ite (fun _ => ?_) fun _ => ?_
    · exact .check_bind (by simp [IsDemandAssertion]) fun _ => .pure _
    · exact .check_bind (by simp [IsDemandAssertion]) fun _ => receivedData_spares

theorem recv_spares (hLe : h.stats.creditDataGranted ≤ h.stats.creditDataRequestRcvd)
    (window : Int) : Spares IsDemandAssertion (h.recv cfg pkt window) := by
  unfold Hybrid.recv
  refine .check_bind (by simp [IsDemandAssertion]) fun _ => ?_
  refine .ite (fun _ => ?_) fun _ => .ite (fun _ => .pure _) fun _ => .ite (fun _ => ?_) fun _ => ?_
  · exact .check_bind (by simp [IsDemandAssertion]) fun _ => .pure _
  · unfold Hybrid.receivedCredit
    refine .check_bind (by simp [IsDemandAssertion]) fun _ => ?_
    refine .check_bind (by simp [IsDemandAssertion]) fun _ => ?_
    refine .ite (fun _ => ?_) fun _ => .pure _
    dsimp only
    split <;> exact .pure _
  · unfold Hybrid.recvInbound
    split
    · refine .ite (fun _ => .pure _) fun _ => ?_
      exact .check_bind (by simp [IsDemandAssertion]) fun _ => recvMsg_spares hLe
    · exact .check_bind (by simp [IsDemandAssertion]) fun _ => recvMsg_spares hLe

/-- A grant is for data that was requested and not granted. -/
theorem sendGrant_spares (hh : RequestsCover h) (id : UniqReqId) :
    Spares IsDemandAssertion (h.sendGrant cfg id) := by
  unfold Hybrid.sendGrant
  split
  · exact .pure _
  rename_i m hMsg
  have hm := hh.books id m hMsg
  have hNeed : Hybrid.needData m ≤ m.ungranted := hm.needData_le
  have hLeTotal := Table.le_total hMsg InboundMsgState.ungranted
  have hEq := hh.eq
  have hLt := hh.lt
  unfold Hybrid.ungrantedData at hEq
  have hGranted : addU64 h.stats.creditDataGranted (Hybrid.needData m) =
      h.stats.creditDataGranted + Hybrid.needData m := Nat.mod_eq_of_lt (by omega)
  refine .ite (fun _ => ?_) fun _ => .pure _
  refine .check_bind (by simp [IsDemandAssertion]) fun _ => ?_
  unfold Hybrid.sendCreditPolicyCommon
  refine .check_bind (by simp [IsDemandAssertion]) fun _ => ?_
  refine .ite (fun _ => ?_) fun _ => ?_
  · exact .check_bind (by simp [IsDemandAssertion]) fun _ => .pure _
  refine .check_bind (by simp [IsDemandAssertion]) fun _ => ?_
  refine .check_bind (by simp [IsDemandAssertion]) fun _ => ?_
  refine .bind (.check_of_holds ?_) fun _ _ => ?_
  · rw [hm.toInt32_eq]
    omega
  refine .ite (fun _ => .pure _) fun _ => ?_
  refine .check_bind (by simp [IsDemandAssertion]) fun _ => ?_
  refine .ite (fun _ => ?_) fun _ => ?_
  · refine .bind (.check_of_holds ?_) fun _ _ => ?_
    · change addU64 (h.charge _ _).stats.creditDataGranted (Hybrid.needData m) ≤
        (h.charge _ _).stats.creditDataRequestRcvd
      rw [Hybrid.charge_stats, hGranted]
      omega
    · refine .bind (.check_of_holds ?_) fun _ _ => .pure _
      exact hm.ungranted_granted.1.granted_le
  · exact .bind (.check_of_holds (.inr hm.granted_le)) fun _ _ => .pure _

end Steps

theorem RequestsCover.exact {h : Hybrid} (hh : RequestsCover h) (cfg : HybridConfig) :
    DemandExact cfg h := by
  have hEq := hh.eq
  refine ⟨by omega, by omega, ?_⟩
  intro e
  cases e with
  | recv pkt window => exact recv_spares (by omega) window
  | sendGrant id => exact .map Prod.fst (sendGrant_spares hh id)

theorem requestsCover_new (cfg : HybridConfig) : RequestsCover (Hybrid.new cfg) :=
  ⟨rfl, Nat.two_pow_pos 64, nofun⟩

/-- In a run without self-allocated credit, and without a bounced grant that takes data back, the
difference of the counters is the ungranted data in every state, and none of the assertions on it
can fail. -/
theorem demand_counters_exact (cfg : HybridConfig) {h : Hybrid} {es : List HybridEvent}
    (hSize : (hybridMachine cfg).Guarded SizedRequest (hybridMachine cfg).init es)
    (hPlain : (hybridMachine cfg).Guarded PlainDemand (hybridMachine cfg).init es)
    (hRun : (hybridMachine cfg).run (hybridMachine cfg).init es = some h) : DemandExact cfg h := by
  refine RequestsCover.exact ?_ cfg
  refine Machine.guarded_induction (I := RequestsCover) (requestsCover_new cfg) ?_
    (hSize.and hPlain) hRun
  intro s e t hs hGuard hStep
  exact requestsCover_step hs hGuard.1 hGuard.2 (toOption_eq_some.mp hStep)

/-! ## A bounced grant -/

/-- Room for many grants, and no message sends before it is granted. -/
def scheduledConfig : HybridConfig where
  maxBudgetBytes := 100000
  maxSrpb := 100000
  unsolicitedThreshBytes := 0

def sampleId : UniqReqId := ⟨1, 0, 0⟩

/-- Host 1 requests credit for a message of 1458 bytes. -/
def sampleGrantReq : Packet where
  src := 1
  size := 4
  msgType := .grantReq
  reqId := sampleId
  creditReq := 1458

/-- The grant for the message comes back from a paused port. -/
def sampleBounced : Packet where
  src := 1
  size := 4
  msgType := .grant
  reqId := sampleId
  credit := 1538
  bouncedCredit := true

theorem demand_counters_exact_sample :
    ∃ h, (hybridMachine scheduledConfig).run (hybridMachine scheduledConfig).init
        [.recv sampleGrantReq 100000, .sendGrant sampleId] = some h ∧
      DemandExact scheduledConfig h := by
  have hRun : ((hybridMachine scheduledConfig).run (hybridMachine scheduledConfig).init
      [.recv sampleGrantReq 100000, .sendGrant sampleId]).isSome = true := by
    decide +kernel
  obtain ⟨h, hSome⟩ := Option.isSome_iff_exists.mp hRun
  refine ⟨h, hSome, demand_counters_exact scheduledConfig ?_ ?_ hSome⟩
  · refine ⟨?_, fun _ _ => ⟨trivial, fun _ _ => trivial⟩⟩
    change 1458 < 2 ^ 31
    decide
  · refine ⟨⟨fun _ => ⟨by decide, by decide⟩, ?_⟩, fun _ _ => ⟨trivial, fun _ _ => trivial⟩⟩
    intro hBounced
    exact absurd hBounced.1 (by decide)

/-- The bounced grant stays counted as granted: the counters are equal while the whole message is
to be granted again, and the assertion fails when it is. -/
theorem bounced_grant_counted_twice :
    ∃ h, (hybridMachine scheduledConfig).run (hybridMachine scheduledConfig).init
        [.recv sampleGrantReq 100000, .sendGrant sampleId, .recv sampleBounced 100000] = some h ∧
      h.stats.creditDataRequestRcvd - h.stats.creditDataGranted = 0 ∧
      h.ungrantedData = 1458 ∧
      ¬ Spares IsDemandAssertion (h.step scheduledConfig (.sendGrant sampleId)) := by
  have hRun : ((hybridMachine scheduledConfig).run (hybridMachine scheduledConfig).init
      [.recv sampleGrantReq 100000, .sendGrant sampleId, .recv sampleBounced 100000]).map
        (fun h => (h.stats.creditDataRequestRcvd - h.stats.creditDataGranted, h.ungrantedData,
          match h.step scheduledConfig (.sendGrant sampleId) with
          | .ok _ => none
          | .error f => some f)) = some (0, 1458, some .requestRcvdGeGranted) := by
    decide +kernel
  obtain ⟨h, hSome, hEq⟩ := Option.map_eq_some_iff.mp hRun
  simp only [Prod.mk.injEq] at hEq
  obtain ⟨hDiff, hUngranted, hFails⟩ := hEq
  refine ⟨h, hSome, hDiff, hUngranted, ?_⟩
  intro hSpares
  split at hFails
  · cases hFails
  · rename_i f hError
    cases hFails
    exact hSpares _ hError (.inl rfl)

end Dpdq.Ns2
