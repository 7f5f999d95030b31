import Dpdq.Lib.Checked
import Dpdq.Lib.Table
import Dpdq.Ns2.R2p2Hdr

/-!
# The receiver of `R2p2CCHybrid`

The receiver half of `r2p2-cc-hybrid.cc`. Every inbound message has a state that says how much of
it was announced, granted and received. Credit is taken from a budget of the host and from one of
the sender; data that arrives and credit that a switch bounces put it back.

An assertion that fails ends the simulation. The functions yield which one, as a `Failure`.
The window that the congestion control allows a sender is computed in floating point from the
marks of the packets; each packet comes with the window that it leads to.
-/

namespace Dpdq.Ns2

open Dpdq.Lib

/-! ## State -/

structure HybridConfig where
  maxBudgetBytes : Int
  maxSrpb : Int
  unsolicitedThreshBytes : Int
  accountUnsched : Bool := true

structure InboundMsgState where
  remoteAddr : Int
  dataBytesExpected : Nat := 0
  dataBytesReceived : Nat := 0
  dataBytesGranted : Nat := 0
  receivedMsgInfo : Bool := false
  receivedPktBitmap : List Bool := []
  seq : Int := 0
deriving DecidableEq, Repr

instance : Inhabited InboundMsgState := ⟨{ remoteAddr := 0 }⟩

structure SenderState where
  srpbBytes : Int
  maxSrpbBytes : Int
deriving DecidableEq, Repr, Inhabited

/-- The counters of `Stats` that assertions read. -/
structure Stats where
  creditGranted : Nat := 0
  creditReplenished : Nat := 0
  creditDataRequestRcvd : Nat := 0
  creditDataGranted : Nat := 0
deriving DecidableEq, Repr

structure Hybrid where
  budgetBytes : Int
  inbound : Table UniqReqId InboundMsgState := Table.empty
  senderState : Table Int SenderState := Table.empty
  stats : Stats := {}

/-- `init`: the budget starts full. -/
def Hybrid.new (cfg : HybridConfig) : Hybrid where
  budgetBytes := cfg.maxBudgetBytes

/-! ## Failures -/

/-- The assertions and exceptions of the receiver. -/
inductive Failure where
  | frameSize
  | replyCredit
  | grantExpected
  | creditRange
  | newMsgType
  | infoExpected
  | requestType
  | requestRcvdGeGranted
  | dataBeforeUnsolCredit
  | unsolicitedThresh
  | unaccounted
  | grantReqGranted
  | requestGranted
  | dataExpected
  | replenishedLeGranted
  | payloadPositive
  | budgetLeMax
  | receivedLeExpected
  | infoReceived
  | expectedPositive
  | uncreditedNonneg
  | grantedLeExpected
deriving DecidableEq, Repr

def addU64 (a b : Nat) : Nat := (a + b) % 2 ^ 64

/-- The conversion of a 64-bit number to `int`. -/
def toInt32 (n : Int) : Int := Int.bmod n (2 ^ 32)

namespace InboundMsgState

/-- `ensure_inbound_tracking`, without the timers. -/
def ensureInboundTracking (m : InboundMsgState) : InboundMsgState :=
  if ¬ m.receivedMsgInfo ∨ m.dataBytesExpected = 0 then m
  else
    let pktCount := (m.dataBytesExpected + maxR2p2Payload - 1) / maxR2p2Payload
    if m.receivedPktBitmap.length ≠ pktCount then
      { m with receivedPktBitmap := List.replicate pktCount false }
    else m

/-- What an announcement of `creditReq` bytes sets. -/
def announced (m : InboundMsgState) (creditReq : Nat) : InboundMsgState :=
  { m with dataBytesExpected := creditReq, receivedMsgInfo := true }.ensureInboundTracking

/-- A packet of `size` bytes with the number `index` arrives. -/
def arrive (m : InboundMsgState) (index size : Nat) : InboundMsgState :=
  { m with
    receivedPktBitmap := m.receivedPktBitmap.set index true
    dataBytesReceived := m.dataBytesReceived + size }

/-- The data of a bounced grant that goes back to what the message is still to be granted. -/
def revokeData (m : InboundMsgState) (creditDataNet : Int) : Nat :=
  min (creditDataNet % 2 ^ 64).toNat (m.dataBytesGranted - m.dataBytesReceived)

/-- What a bounced grant undoes. -/
def revoke (m : InboundMsgState) (creditDataNet : Int) : InboundMsgState :=
  { m with
    dataBytesGranted := m.dataBytesGranted - m.revokeData creditDataNet
    seq := m.seq - creditDataNet }

/-- The message has all its data, and all of it was granted. -/
def isComplete (m : InboundMsgState) : Bool :=
  m.dataBytesReceived = m.dataBytesExpected ∧ m.dataBytesGranted = m.dataBytesExpected

end InboundMsgState

namespace Hybrid

/-! ## Packets -/

/-- `update_sender_state`. -/
def updateSenderState (cfg : HybridConfig) (h : Hybrid) (src window : Int) : Hybrid :=
  let srpb := (h.senderState.get? src).elim cfg.maxSrpb SenderState.srpbBytes
  { h with senderState := h.senderState.set src ⟨srpb, window⟩ }

/-- Take `credit` out of the budget of a sender; a negative amount is put back. -/
def chargeSender (h : Hybrid) (addr credit : Int) : Hybrid :=
  match h.senderState.get? addr with
  | none => h
  | some s =>
    { h with senderState := h.senderState.set addr { s with srpbBytes := s.srpbBytes - credit } }

/-- Take `credit` out of both budgets. -/
def charge (h : Hybrid) (addr credit : Int) : Hybrid :=
  { h.chargeSender addr credit with budgetBytes := h.budgetBytes - credit }

def addCreditGranted (h : Hybrid) (credit : Nat) : Hybrid :=
  { h with stats.creditGranted := addU64 h.stats.creditGranted credit }

def addCreditReplenished (h : Hybrid) (credit : Nat) : Hybrid :=
  { h with stats.creditReplenished := addU64 h.stats.creditReplenished credit }

def addRequestRcvd (h : Hybrid) (bytes : Nat) : Hybrid :=
  { h with stats.creditDataRequestRcvd := addU64 h.stats.creditDataRequestRcvd bytes }

def addDataGranted (h : Hybrid) (bytes : Nat) : Hybrid :=
  { h with stats.creditDataGranted := addU64 h.stats.creditDataGranted bytes }

def setMsg (h : Hybrid) (id : UniqReqId) (m : InboundMsgState) : Hybrid :=
  { h with inbound := h.inbound.set id m }

def removeMsg (h : Hybrid) (id : UniqReqId) : Hybrid :=
  { h with inbound := h.inbound.erase id }

/-- The state of a message is deleted once the message is complete. -/
def settleMsg (h : Hybrid) (id : UniqReqId) (m : InboundMsgState) : Hybrid :=
  if m.isComplete then h.removeMsg id else h.setMsg id m

/-- A packet with `size` bytes of data gives back the credit that it used. -/
def replenish (h : Hybrid) (src : Int) (size : Nat) : Hybrid :=
  (h.charge src (-(wireBytes size : Int))).addCreditReplenished (wireBytes size)

/-- The branch of `received_credit` for bounced credit. Credit that was not bounced is for the
sender half of the host. -/
def receivedCredit (h : Hybrid) (pkt : Packet) : Except Failure Hybrid := do
  check (pkt.creditReq = 0 ∧ pkt.msgType = .grant) .grantExpected
  check (pkt.credit ≤ maxEthernetFrameOnWire ∧ 1 + wireOverhead ≤ pkt.credit) .creditRange
  if pkt.bouncedCredit then
    let h := h.charge pkt.src (-pkt.credit)
    match h.inbound.get? pkt.reqId with
    | none => return h
    | some m => return h.setMsg pkt.reqId (m.revoke (pkt.credit - (wireOverhead + pkt.creditPad)))
  else return h

/-- The unsolicited part of an announcement: credit that the sender has given to itself. -/
def announceUnsolicited (cfg : HybridConfig) (h : Hybrid) (pkt : Packet) (m : InboundMsgState) :
    Except Failure (Hybrid × InboundMsgState) := do
  if 0 < pkt.unsolCredit then
    check (m.dataBytesReceived = 0) .dataBeforeUnsolCredit
    check (cfg.unsolicitedThreshBytes ≠ 0) .unsolicitedThresh
    check (cfg.accountUnsched = true) .unaccounted
    return ((h.charge m.remoteAddr pkt.unsolCredit).addCreditGranted pkt.unsolCredit.toNat,
      { m with dataBytesGranted := pkt.unsolCreditData })
  else return (h, m)

/-- A packet that requests credit for a message of unknown size. -/
def announce (cfg : HybridConfig) (h : Hybrid) (pkt : Packet) (m : InboundMsgState) :
    Except Failure (Hybrid × InboundMsgState) := do
  check (pkt.msgType = .grantReq ∨ pkt.msgType = .request) .requestType
  check (h.stats.creditDataGranted ≤ h.stats.creditDataRequestRcvd) .requestRcvdGeGranted
  announceUnsolicited cfg (h.addRequestRcvd pkt.creditReq) pkt (m.announced pkt.creditReq)

/-- `received_data`. -/
def receivedData (cfg : HybridConfig) (h : Hybrid) (pkt : Packet) (m : InboundMsgState) :
    Except Failure Hybrid := do
  check (pkt.isData ∧ pkt.credit = 0) .dataExpected
  let m := m.ensureInboundTracking
  if m.receivedPktBitmap[pkt.pktIndex]? = some true then
    return h.setMsg pkt.reqId m
  let m := m.arrive pkt.pktIndex pkt.size
  check (cfg.accountUnsched = true) .unaccounted
  let h := h.replenish pkt.src pkt.size
  check (h.stats.creditReplenished ≤ h.stats.creditGranted) .replenishedLeGranted
  check (0 < pkt.size) .payloadPositive
  check (h.budgetBytes ≤ cfg.maxBudgetBytes) .budgetLeMax
  check (m.receivedMsgInfo = true → m.dataBytesReceived ≤ m.dataBytesExpected) .receivedLeExpected
  check (m.isComplete = true → m.receivedMsgInfo = true) .infoReceived
  return h.settleMsg pkt.reqId m

/-- A packet of a message that has a state. -/
def recvMsg (cfg : HybridConfig) (h : Hybrid) (pkt : Packet) (m : InboundMsgState) :
    Except Failure Hybrid := do
  if 0 < pkt.creditReq ∧ ¬ m.receivedMsgInfo then
    let (h, m) ← h.announce cfg pkt m
    if pkt.msgType = .grantReq then
      check (m.dataBytesGranted = 0) .grantReqGranted
      return h.setMsg pkt.reqId m
    else
      check (0 < m.dataBytesGranted) .requestGranted
      h.receivedData cfg pkt m
  else h.receivedData cfg pkt m

/-- A packet that asks for credit or brings data. A retransmission for an unknown message is
stale; any other packet for one creates a state. -/
def recvInbound (cfg : HybridConfig) (h : Hybrid) (pkt : Packet) : Except Failure Hybrid := do
  match h.inbound.get? pkt.reqId with
  | none =>
    if pkt.isData ∧ 0 < pkt.resendBytes then return h
    else
      check (pkt.msgType = .request ∨
        if 0 < pkt.creditReq then pkt.msgType = .grantReq else pkt.msgType = .reply) .newMsgType
      h.recvMsg cfg pkt { remoteAddr := pkt.src }
  | some m =>
    check (cfg.unsolicitedThreshBytes = -1 → m.receivedMsgInfo = true) .infoExpected
    h.recvMsg cfg pkt m

/-- `recv`. Single-packet replies bypass the credit protocol, and RESEND is for the sender half
of the host. -/
def recv (cfg : HybridConfig) (h : Hybrid) (pkt : Packet) (window : Int) : Except Failure Hybrid := do
  check (minEthernetFrame ≤ pkt.frameSize ∧ pkt.frameSize ≤ maxEthernetFrame) .frameSize
  let h := h.updateSenderState cfg pkt.src window
  if pkt.isSinglePktReply then
    check (pkt.credit = 0) .replyCredit
    return h
  else if pkt.msgType = .resend then return h
  else if 0 < pkt.credit then h.receivedCredit pkt
  else h.recvInbound cfg pkt

/-! ## Grants -/

/-- A grant: the packet that `forward_grant` sends to `dst`. -/
structure Grant where
  dst : Int
  reqId : UniqReqId
  seq : Int
  credit : Int
  creditPad : Int
deriving DecidableEq, Repr

/-- `forward_grant`. -/
def forwardGrant (h : Hybrid) (id : UniqReqId) (m : InboundMsgState) (credit padding : Int) :
    Hybrid × Grant :=
  let seq := m.seq + (credit - padding - wireOverhead)
  (h.setMsg id { m with seq }, ⟨m.remoteAddr, id, seq, credit, padding⟩)

/-- `send_credit_policy_common` on the message `id` of the state `m`. The grant is sent if there
is one. -/
def sendCreditPolicyCommon (cfg : HybridConfig) (h : Hybrid) (id : UniqReqId)
    (m : InboundMsgState) : Except Failure (Hybrid × Option Grant) := do
  check (m.dataBytesReceived ≤ m.dataBytesExpected) .receivedLeExpected
  if m.isComplete then
    check (m.receivedMsgInfo = true) .infoReceived
    return (h.removeMsg id, none)
  else
    check (m.receivedMsgInfo = true) .infoReceived
    check (0 < m.dataBytesExpected) .expectedPositive
    let uncreditdData := toInt32 ((m.dataBytesExpected : Int) - m.dataBytesGranted)
    check (0 ≤ uncreditdData) .uncreditedNonneg
    if uncreditdData = 0 then return (h, none)
    else
      let creditNeededData := min maxR2p2Payload uncreditdData.toNat
      let creditNeeded := wireBytes creditNeededData
      let creditPadding := minEthernetFrameOnWire - (creditNeededData + wireOverhead)
      check (h.budgetBytes ≤ cfg.maxBudgetBytes) .budgetLeMax
      let s := (h.senderState.get? m.remoteAddr).getD default
      if creditNeeded ≤ min h.budgetBytes s.srpbBytes ∧
          cfg.maxSrpb - s.srpbBytes ≤ s.maxSrpbBytes then
        let h := ((h.charge m.remoteAddr creditNeeded).addCreditGranted creditNeeded).addDataGranted
          creditNeededData
        check (h.stats.creditDataGranted ≤ h.stats.creditDataRequestRcvd) .requestRcvdGeGranted
        let m := { m with dataBytesGranted := m.dataBytesGranted + creditNeededData }
        let (h, g) := h.forwardGrant id m creditNeeded creditPadding
        check (m.dataBytesGranted ≤ m.dataBytesExpected) .grantedLeExpected
        return (h, some g)
      else
        -- the source checks this only where the budget of the host suffices
        check (h.budgetBytes < creditNeeded ∨ m.dataBytesGranted ≤ m.dataBytesExpected)
          .grantedLeExpected
        return (h, none)

/-- One round of the loops of `send_grants`: a message of unknown size is passed over. Which
message comes next is up to the policy, and how many rounds there are to the pacer. -/
def sendGrant (cfg : HybridConfig) (h : Hybrid) (id : UniqReqId) :
    Except Failure (Hybrid × Option Grant) := do
  match h.inbound.get? id with
  | none => return (h, none)
  | some m =>
    if m.receivedMsgInfo then
      check (0 < m.dataBytesExpected) .expectedPositive
      h.sendCreditPolicyCommon cfg id m
    else return (h, none)

end Hybrid

end Dpdq.Ns2
