import Dpdq.Lib.Machine
import Dpdq.Ns2.Hybrid

/-!
# What a step of the receiver does

For each routine, what a call that meets all assertions amounts to.
-/

namespace Dpdq.Ns2

open Dpdq.Lib

theorem toInt32_of_lt {n : Int} (hn : 0 ≤ n) (h : n < 2 ^ 31) : toInt32 n = n := by
  unfold toInt32
  rw [Int.bmod_eq_of_le] <;> omega

namespace Hybrid

/-! ## What the updates leave alone -/

section Updates

variable (h : Hybrid) (addr credit : Int) (n : Nat) (id : UniqReqId) (m : InboundMsgState)

@[simp] theorem chargeSender_inbound : (h.chargeSender addr credit).inbound = h.inbound := by
  unfold chargeSender
  split <;> rfl

@[simp] theorem chargeSender_stats : (h.chargeSender addr credit).stats = h.stats := by
  unfold chargeSender
  split <;> rfl

@[simp] theorem charge_inbound : (h.charge addr credit).inbound = h.inbound :=
  h.chargeSender_inbound addr credit

@[simp] theorem charge_stats : (h.charge addr credit).stats = h.stats :=
  h.chargeSender_stats addr credit

@[simp] theorem addCreditGranted_inbound : (h.addCreditGranted n).inbound = h.inbound := rfl

@[simp] theorem addDataGranted_inbound : (h.addDataGranted n).inbound = h.inbound := rfl

@[simp] theorem addRequestRcvd_inbound : (h.addRequestRcvd n).inbound = h.inbound := rfl

@[simp] theorem replenish_inbound : (h.replenish addr n).inbound = h.inbound := by
  simp [replenish, addCreditReplenished]

@[simp] theorem setMsg_stats : (h.setMsg id m).stats = h.stats := rfl

@[simp] theorem setMsg_inbound : (h.setMsg id m).inbound = h.inbound.set id m := rfl

@[simp] theorem removeMsg_inbound : (h.removeMsg id).inbound = h.inbound.erase id := rfl

@[simp] theorem settleMsg_stats : (h.settleMsg id m).stats = h.stats := by
  unfold settleMsg
  split <;> rfl

theorem settleMsg_inbound : (h.settleMsg id m).inbound =
    if m.isComplete then h.inbound.erase id else h.inbound.set id m := by
  unfold settleMsg
  split <;> rfl

end Updates

variable {cfg : HybridConfig} {h h' : Hybrid} {pkt : Packet} {m : InboundMsgState}

/-! ## Data -/

/-- The assertions on a packet that is not a duplicate, after its data was counted. -/
structure DataChecks (cfg : HybridConfig) (h : Hybrid) (pkt : Packet) (m : InboundMsgState) :
    Prop where
  accounted : cfg.accountUnsched = true
  replenished : h.stats.creditReplenished ≤ h.stats.creditGranted
  payload : 0 < pkt.size
  budget : h.budgetBytes ≤ cfg.maxBudgetBytes
  received : m.receivedMsgInfo = true → m.dataBytesReceived ≤ m.dataBytesExpected
  info : m.isComplete = true → m.receivedMsgInfo = true

/-- The message as a new packet leaves it. -/
def arrived (pkt : Packet) (m : InboundMsgState) : InboundMsgState :=
  m.ensureInboundTracking.arrive pkt.pktIndex pkt.size

/-- The bitmap already has the packet. -/
def IsDuplicate (pkt : Packet) (m : InboundMsgState) : Prop :=
  m.ensureInboundTracking.receivedPktBitmap[pkt.pktIndex]? = some true

theorem receivedData_cases (hOk : h.receivedData cfg pkt m = .ok h') :
    (pkt.isData = true ∧ pkt.credit = 0) ∧
      (IsDuplicate pkt m ∧ h' = h.setMsg pkt.reqId m.ensureInboundTracking ∨
        ¬ IsDuplicate pkt m ∧ DataChecks cfg (h.replenish pkt.src pkt.size) pkt (arrived pkt m) ∧
          h' = (h.replenish pkt.src pkt.size).settleMsg pkt.reqId (arrived pkt m)) := by
  unfold receivedData at hOk
  rw [check_bind_eq_ok] at hOk
  obtain ⟨hData, hOk⟩ := hOk
  refine ⟨hData, ?_⟩
  dsimp only at hOk
  split at hOk
  · rename_i hDup
    cases hOk
    exact .inl ⟨hDup, rfl⟩
  · rename_i hDup
    simp only [check_bind_eq_ok] at hOk
    obtain ⟨hAccounted, hReplenished, hPayload, hBudget, hReceived, hInfo, hOk⟩ := hOk
    cases hOk
    exact .inr ⟨hDup, ⟨hAccounted, hReplenished, hPayload, hBudget, hReceived, hInfo⟩, rfl⟩

/-! ## Announcements -/

theorem announce_cases {h₁ : Hybrid} {m₁ : InboundMsgState}
    (hOk : h.announce cfg pkt m = .ok (h₁, m₁)) :
    (pkt.msgType = .grantReq ∨ pkt.msgType = .request) ∧
      (pkt.unsolCredit ≤ 0 ∧ h₁ = h.addRequestRcvd pkt.creditReq ∧ m₁ = m.announced pkt.creditReq ∨
        0 < pkt.unsolCredit ∧ (m.announced pkt.creditReq).dataBytesReceived = 0 ∧
          h₁ = ((h.addRequestRcvd pkt.creditReq).charge (m.announced pkt.creditReq).remoteAddr
            pkt.unsolCredit).addCreditGranted pkt.unsolCredit.toNat ∧
          m₁ = { m.announced pkt.creditReq with dataBytesGranted := pkt.unsolCreditData }) := by
  unfold announce announceUnsolicited at hOk
  simp only [check_bind_eq_ok] at hOk
  obtain ⟨hType, -, hOk⟩ := hOk
  refine ⟨hType, ?_⟩
  by_cases hUnsol : 0 < pkt.unsolCredit
  · rw [if_pos hUnsol] at hOk
    simp only [check_bind_eq_ok] at hOk
    obtain ⟨hFresh, -, -, hOk⟩ := hOk
    cases hOk
    exact .inr ⟨hUnsol, hFresh, rfl, rfl⟩
  · rw [if_neg hUnsol] at hOk
    cases hOk
    exact .inl ⟨Int.not_lt.mp hUnsol, rfl, rfl⟩

/-! ## Packets -/

/-- The packet tells the size of a message of unknown size. -/
def Announces (pkt : Packet) (m : InboundMsgState) : Prop :=
  0 < pkt.creditReq ∧ m.receivedMsgInfo = false

theorem recvMsg_cases (hOk : h.recvMsg cfg pkt m = .ok h') :
    ¬ Announces pkt m ∧ h.receivedData cfg pkt m = .ok h' ∨
      Announces pkt m ∧ ∃ h₁ m₁, h.announce cfg pkt m = .ok (h₁, m₁) ∧
        (pkt.msgType = .grantReq ∧ m₁.dataBytesGranted = 0 ∧ h' = h₁.setMsg pkt.reqId m₁ ∨
          pkt.msgType ≠ .grantReq ∧ h₁.receivedData cfg pkt m₁ = .ok h') := by
  unfold recvMsg at hOk
  split at hOk
  · rename_i hNew
    obtain ⟨⟨h₁, m₁⟩, hAnnounce, hOk⟩ := bind_eq_ok.mp hOk
    refine .inr ⟨⟨hNew.1, by simpa using hNew.2⟩, h₁, m₁, hAnnounce, ?_⟩
    simp only at hOk
    split at hOk
    · rename_i hType
      rw [check_bind_eq_ok] at hOk
      obtain ⟨hGranted, hOk⟩ := hOk
      cases hOk
      exact .inl ⟨hType, hGranted, rfl⟩
    · rename_i hType
      rw [check_bind_eq_ok] at hOk
      exact .inr ⟨hType, hOk.2⟩
  · rename_i hOld
    exact .inl ⟨fun hNew => hOld ⟨hNew.1, by simp [hNew.2]⟩, hOk⟩

/-- The packet brings credit back that a switch has bounced. -/
def BouncesBack (pkt : Packet) : Prop := 0 < pkt.credit ∧ pkt.bouncedCredit = true

/-- What a bounced grant carries besides headers and padding. -/
def creditDataNet (pkt : Packet) : Int := pkt.credit - (wireOverhead + pkt.creditPad)

/-- The state of the message a packet belongs to, if necessary a new one. -/
def msgOf (h : Hybrid) (pkt : Packet) : InboundMsgState :=
  (h.inbound.get? pkt.reqId).getD { remoteAddr := pkt.src }

/-- A packet changes nothing but the window of its sender, or gives bounced credit back, or is
for a message. -/
theorem recv_cases {window : Int} (hOk : h.recv cfg pkt window = .ok h') :
    h' = h.updateSenderState cfg pkt.src window ∨
      (BouncesBack pkt ∧
        h' = match h.inbound.get? pkt.reqId with
          | none => (h.updateSenderState cfg pkt.src window).charge pkt.src (-pkt.credit)
          | some m => ((h.updateSenderState cfg pkt.src window).charge pkt.src
              (-pkt.credit)).setMsg pkt.reqId (m.revoke (creditDataNet pkt))) ∨
      (¬ (pkt.isData = true ∧ 0 < pkt.resendBytes ∧ h.inbound.get? pkt.reqId = none) ∧
        (h.updateSenderState cfg pkt.src window).recvMsg cfg pkt (h.msgOf pkt) = .ok h') := by
  unfold recv at hOk
  rw [check_bind_eq_ok] at hOk
  obtain ⟨-, hOk⟩ := hOk
  simp only at hOk
  split at hOk
  · rw [check_bind_eq_ok] at hOk
    cases hOk.2
    exact .inl rfl
  split at hOk
  · cases hOk
    exact .inl rfl
  split at hOk
  · rename_i hCredit
    unfold receivedCredit at hOk
    simp only [check_bind_eq_ok] at hOk
    obtain ⟨-, -, hOk⟩ := hOk
    split at hOk
    · rename_i hBounced
      refine .inr (.inl ⟨⟨hCredit, hBounced⟩, ?_⟩)
      rw [charge_inbound, show (h.updateSenderState cfg pkt.src window).inbound = h.inbound from
        rfl] at hOk
      cases hMsg : h.inbound.get? pkt.reqId with
      | none =>
        rw [hMsg] at hOk
        cases hOk
        rfl
      | some m =>
        rw [hMsg] at hOk
        cases hOk
        rfl
    · cases hOk
      exact .inl rfl
  · unfold recvInbound at hOk
    rw [show (h.updateSenderState cfg pkt.src window).inbound = h.inbound from rfl] at hOk
    cases hMsg : h.inbound.get? pkt.reqId with
    | none =>
      rw [hMsg] at hOk
      simp only at hOk
      split at hOk
      · cases hOk
        exact .inl rfl
      · rename_i hFresh
        rw [check_bind_eq_ok] at hOk
        refine .inr (.inr ⟨fun hStale => hFresh ⟨hStale.1, hStale.2.1⟩, ?_⟩)
        unfold msgOf
        rw [hMsg]
        exact hOk.2
    | some m =>
      rw [hMsg] at hOk
      simp only [check_bind_eq_ok] at hOk
      refine .inr (.inr ⟨fun hStale => absurd hStale.2.2 nofun, ?_⟩)
      unfold msgOf
      rw [hMsg]
      exact hOk.2

/-- A packet without credit is a reply of one packet, or for the sender half, or stale, or for a
message. -/
theorem recv_uncredited_cases {window : Int} (hCredit : pkt.credit = 0)
    (hOk : h.recv cfg pkt window = .ok h') :
    (pkt.isSinglePktReply = true ∨ pkt.msgType = .resend ∨
        h.inbound.get? pkt.reqId = none ∧ pkt.isData = true ∧ 0 < pkt.resendBytes) ∧
        h' = h.updateSenderState cfg pkt.src window ∨
      pkt.isSinglePktReply = false ∧ pkt.msgType ≠ .resend ∧
        ¬ (h.inbound.get? pkt.reqId = none ∧ pkt.isData = true ∧ 0 < pkt.resendBytes) ∧
        (h.inbound.get? pkt.reqId = none → pkt.msgType = .request ∨
          if 0 < pkt.creditReq then pkt.msgType = .grantReq else pkt.msgType = .reply) ∧
        (h.updateSenderState cfg pkt.src window).recvMsg cfg pkt (h.msgOf pkt) = .ok h' := by
  unfold recv at hOk
  rw [check_bind_eq_ok] at hOk
  obtain ⟨-, hOk⟩ := hOk
  simp only at hOk
  split at hOk
  · rename_i hSingle
    rw [check_bind_eq_ok] at hOk
    cases hOk.2
    exact .inl ⟨.inl hSingle, rfl⟩
  rename_i hSingle
  split at hOk
  · rename_i hResend
    cases hOk
    exact .inl ⟨.inr (.inl hResend), rfl⟩
  rename_i hResend
  rw [if_neg (by omega)] at hOk
  unfold recvInbound at hOk
  rw [show (h.updateSenderState cfg pkt.src window).inbound = h.inbound from rfl] at hOk
  cases hMsg : h.inbound.get? pkt.reqId with
  | none =>
    rw [hMsg] at hOk
    simp only at hOk
    split at hOk
    · rename_i hStale
      cases hOk
      exact .inl ⟨.inr (.inr ⟨rfl, hStale⟩), rfl⟩
    · rename_i hFresh
      rw [check_bind_eq_ok] at hOk
      refine .inr ⟨Bool.eq_false_iff.mpr hSingle, hResend, fun hStale => hFresh hStale.2,
        fun _ => hOk.1, ?_⟩
      unfold msgOf
      rw [hMsg]
      exact hOk.2
  | some m =>
    rw [hMsg] at hOk
    simp only [check_bind_eq_ok] at hOk
    refine .inr ⟨Bool.eq_false_iff.mpr hSingle, hResend, nofun, nofun, ?_⟩
    unfold msgOf
    rw [hMsg]
    exact hOk.2

/-! ## Grants -/

/-- The data that the next grant for a message is for. -/
def needData (m : InboundMsgState) : Nat :=
  min maxR2p2Payload (toInt32 ((m.dataBytesExpected : Int) - m.dataBytesGranted)).toNat

/-- The message once it has the next grant. -/
def granted (m : InboundMsgState) : InboundMsgState :=
  { m with
    dataBytesGranted := m.dataBytesGranted + needData m
    seq := m.seq + (wireBytes (needData m) -
      (minEthernetFrameOnWire - (needData m + wireOverhead) : Nat) - wireOverhead) }

theorem sendGrant_cases {id : UniqReqId} {g : Option Grant}
    (hOk : h.sendGrant cfg id = .ok (h', g)) :
    h' = h ∧ g = none ∨
      ∃ m, h.inbound.get? id = some m ∧ m.receivedMsgInfo = true ∧
        (m.isComplete = true ∧ h' = h.removeMsg id ∧ g = none ∨
          m.isComplete = false ∧
          0 < toInt32 ((m.dataBytesExpected : Int) - m.dataBytesGranted) ∧
          h.budgetBytes ≤ cfg.maxBudgetBytes ∧
          wireBytes (needData m) ≤ min h.budgetBytes
            ((h.senderState.get? m.remoteAddr).getD default).srpbBytes ∧
          h' = ((((h.charge m.remoteAddr (wireBytes (needData m))).addCreditGranted
            (wireBytes (needData m))).addDataGranted (needData m)).setMsg id (granted m)) ∧
          g = some ⟨m.remoteAddr, id, (granted m).seq, wireBytes (needData m),
            (minEthernetFrameOnWire - (needData m + wireOverhead) : Nat)⟩) := by
  unfold sendGrant at hOk
  cases hMsg : h.inbound.get? id with
  | none =>
    rw [hMsg] at hOk
    cases hOk
    exact .inl ⟨rfl, rfl⟩
  | some m =>
    rw [hMsg] at hOk
    simp only at hOk
    split at hOk
    · rename_i hInfo
      unfold sendCreditPolicyCommon at hOk
      simp only [check_bind_eq_ok] at hOk
      obtain ⟨-, -, hOk⟩ := hOk
      split at hOk
      · rename_i hComplete
        rw [check_bind_eq_ok] at hOk
        cases hOk.2
        exact .inr ⟨m, rfl, hInfo, .inl ⟨hComplete, rfl, rfl⟩⟩
      · rename_i hOpen
        simp only [check_bind_eq_ok] at hOk
        obtain ⟨-, -, hNonneg, hOk⟩ := hOk
        split at hOk
        · cases hOk
          exact .inl ⟨rfl, rfl⟩
        · rename_i hSome
          rw [check_bind_eq_ok] at hOk
          obtain ⟨hBudget, hOk⟩ := hOk
          split at hOk
          · rename_i hFits
            simp only [check_bind_eq_ok, forwardGrant] at hOk
            obtain ⟨-, -, hOk⟩ := hOk
            cases hOk
            refine .inr ⟨m, rfl, hInfo, .inr ⟨by simpa using hOpen, by omega, hBudget, hFits.1,
              rfl, rfl⟩⟩
          · rw [check_bind_eq_ok] at hOk
            cases hOk.2
            exact .inl ⟨rfl, rfl⟩
    · cases hOk
      exact .inl ⟨rfl, rfl⟩

end Hybrid

/-! ## Runs -/

/-- What happens to a receiver: a packet arrives, with the window that it leads to, or
`send_grants` turns to a message. -/
inductive HybridEvent where
  | recv (pkt : Packet) (window : Int)
  | sendGrant (id : UniqReqId)

def Hybrid.step (cfg : HybridConfig) (h : Hybrid) : HybridEvent → Except Failure Hybrid
  | .recv pkt window => h.recv cfg pkt window
  | .sendGrant id => (h.sendGrant cfg id).map Prod.fst

theorem Hybrid.step_sendGrant_eq_ok {cfg : HybridConfig} {h h' : Hybrid} {id : UniqReqId} :
    h.step cfg (.sendGrant id) = .ok h' ↔ ∃ g, h.sendGrant cfg id = .ok (h', g) := by
  change (h.sendGrant cfg id).map Prod.fst = .ok h' ↔ _
  cases h.sendGrant cfg id with
  | error f => simp [Except.map]
  | ok r => simp [Except.map, Prod.ext_iff]

/-- The receiver with all its packets, from any sources and in any order. -/
def hybridMachine (cfg : HybridConfig) : Machine Hybrid HybridEvent where
  init := Hybrid.new cfg
  step h e := (h.step cfg e).toOption

end Dpdq.Ns2
