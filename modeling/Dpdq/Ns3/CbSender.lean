import Dpdq.Ns3.CbReceiver

/-!
# The credit-bouncer sender of an ns-3 host

The sender half of `rdma-hw.cc` with the feature switched on: `AddQueuePair`, `GetNxtPacket`, the
branches of `ReceiveCreditBouncer` for GRANT and RESEND, and `CompleteCreditBouncerSenderQp`, which
the receiver of a message calls on its sender. A QP is one message, and `ReceiverState` holds the
credit for all messages to one receiver address.

TLT and the statistics are left out. The IRN scoreboard stays empty, since no acknowledgement is
sent for these messages.
-/

namespace Dpdq.Ns3

open Dpdq.Lib

/-! ## State -/

/-- The attributes that only the sender reads. -/
structure CbSenderConfig extends CbConfig where
  unsolicitedThreshBytes : Nat := 200 * 1024
  senderThresholdBytes : Nat := 65536

/-- The key of `m_qpMap`: the port and the priority group of a QP. -/
structure TxKey where
  sport : Nat
  pg : Nat
deriving DecidableEq, Repr

/-- The fields of `RdmaQueuePair` that the credit bouncer reads. -/
structure QueuePair where
  sip : Nat
  dip : Nat
  dport : Nat
  size : Nat
  flowId : Int
  sndNxt : Nat := 0
  sndUna : Nat := 0
  usnsolCheckDone : Bool := false
  isScheduled : Bool := true
  hasScheduledPart : Bool := false
  sentAnnouncement : Bool := false
  selfAllocCreditBytes : Nat := 0
  selfAllocCreditDataBytes : Nat := 0
  remainingSelfAllocCreditDataBytes : Int := 0
  priorityFlowPending : Bool := false
deriving DecidableEq, Repr

structure ReceiverState where
  enabled : Bool := false
  availCreditBytes : Nat := 0
  availCreditDataBytes : Nat := 0
  senderBacklogThresholdBytes : Nat := 0
  unsolicitedThreshBytes : Nat := 0
  msgStates : List TxKey := []
deriving DecidableEq, Repr

instance : Inhabited ReceiverState := ⟨{}⟩

structure CbSender where
  receiverStates : Table Nat ReceiverState := Table.empty
  qpMap : TxKey → Option QueuePair := fun _ => none

namespace QueuePair

/-- `GetBytesLeft`. -/
def bytesLeft (q : QueuePair) : Nat := q.size - q.sndNxt

/-- `IsFinishedConst`. -/
def isFinished (q : QueuePair) : Bool := q.sndUna ≥ q.size

end QueuePair

/-! ## Self-allocation -/

/-- The data and wire bytes that `GetNxtPacket` allocates to a message below the threshold. -/
def selfAllocation (cfg : CbConfig) (availOnWire msgBytes : Nat) : Nat × Nat :=
  let msgOnWireBytes := cbAddHeaderOverhead msgBytes cfg.mtu
  let (toGrantData, toGrantWire) :=
    if msgOnWireBytes > cfg.maxSrpbBytes then
      let data := cbRemoveHeaderOverhead cfg.maxSrpbBytes cfg.mtu
      (data, cbAddHeaderOverhead data cfg.mtu true)
    else (msgBytes, msgOnWireBytes)
  let backlogSpaceOnWire := max (cfg.maxSrpbBytes - availOnWire)
    (cbAddHeaderOverhead (min msgBytes cfg.mtu) cfg.mtu true)
  let toGrantData :=
    if toGrantWire > backlogSpaceOnWire then cbRemoveHeaderOverhead backlogSpaceOnWire cfg.mtu
    else toGrantData
  let toGrantData := cbAlignChunkPrefixBytes (min toGrantData msgBytes) msgBytes cfg.mtu
  (toGrantData, cbAddHeaderOverhead toGrantData cfg.mtu true)

/-- The check that `GetNxtPacket` makes once for a message. -/
def classify (cfg : CbConfig) (r : ReceiverState) (q : QueuePair) : ReceiverState × QueuePair :=
  let scheduled : QueuePair := { q with
    selfAllocCreditBytes := 0
    selfAllocCreditDataBytes := 0
    remainingSelfAllocCreditDataBytes := 0
    isScheduled := true
    hasScheduledPart := true
    sentAnnouncement := false
    usnsolCheckDone := true }
  if cbAddHeaderOverhead q.size cfg.mtu ≤ r.unsolicitedThreshBytes then
    let (toGrantData, toGrantWire) := selfAllocation cfg r.availCreditBytes q.size
    if toGrantWire > 0 ∧ toGrantData > 0 then
      ({ r with
        availCreditBytes := addU64 r.availCreditBytes toGrantWire
        availCreditDataBytes := addU64 r.availCreditDataBytes toGrantData },
        { scheduled with
          selfAllocCreditBytes := toGrantWire
          selfAllocCreditDataBytes := toGrantData
          remainingSelfAllocCreditDataBytes := toGrantData
          isScheduled := false
          hasScheduledPart := q.size > toGrantData })
    else (r, scheduled)
  else (r, scheduled)

/-! ## Packets -/

def clampU32 (n : Nat) : Nat := min n (2 ^ 32 - 1)

/-- The GRANT_REQ of a scheduled message. -/
def grantReqPacket (k : TxKey) (q : QueuePair) : CbPacket where
  ch := {
    sip := q.sip, dip := q.dip, l3Prot := 0xFB, sport := k.sport, dport := q.dport, pg := k.pg
    seq := 0 }
  tag := { type := .grantReq, creditReqBytes := clampU32 q.size }

/-- The headers of a data packet. -/
def dataHeader (k : TxKey) (q : QueuePair) (seq : Nat) : CustomHeader where
  sip := q.sip
  dip := q.dip
  l3Prot := 0x11
  sport := k.sport
  dport := q.dport
  pg := k.pg
  seq := seq % 2 ^ 32

/-- `CbDataClassForOffset`. -/
def cbDataClassForOffset (q : QueuePair) (offset : Nat) : DataClass :=
  if !q.isScheduled then
    if !q.hasScheduledPart then .unsolicited
    else if offset < q.selfAllocCreditDataBytes then .unscheduled
    else .scheduled
  else .scheduled

/-- `BuildCreditBouncerDataPacket`, for a RESEND. -/
def resendDataPacket (k : TxKey) (q : QueuePair) (offset payloadSize : Nat) : CbPacket where
  ch := dataHeader k q offset
  tag := { type := .request, dataClass := cbDataClassForOffset q offset }
  payloadSize := payloadSize
  flowId := some q.flowId

/-- The data packet of `GetNxtPacket`. A message with self-allocated credit announces itself on all
of them. -/
def nextDataPacket (k : TxKey) (q : QueuePair) (payloadSize : Nat) (csnMarked : Bool) :
    CbPacket where
  ch := dataHeader k q q.sndNxt
  tag :=
    if q.isScheduled then {
      type := .request, csnMarked := csnMarked, priorityFlow := q.priorityFlowPending
      dataClass := .scheduled }
    else {
      type := .request
      creditReqBytes := clampU32 q.size
      csnMarked := csnMarked
      priorityFlow := q.priorityFlowPending
      dataClass := if q.hasScheduledPart then .unscheduled else .unsolicited
      unsolCreditBytes := clampU32 q.selfAllocCreditBytes
      unsolCreditDataBytes := clampU32 q.selfAllocCreditDataBytes
      usedUnsolCredit := q.remainingSelfAllocCreditDataBytes - payloadSize ≥ 0 }
  payloadSize := payloadSize
  flowId := some q.flowId

namespace QueuePair

/-- The QP after one of its data packets. -/
def advance (q : QueuePair) (payloadSize : Nat) : QueuePair :=
  { q with
    sndNxt := q.sndNxt + payloadSize
    priorityFlowPending := false
    sentAnnouncement := q.sentAnnouncement || !q.isScheduled
    remainingSelfAllocCreditDataBytes :=
      if q.isScheduled then q.remainingSelfAllocCreditDataBytes
      else q.remainingSelfAllocCreditDataBytes - payloadSize }

end QueuePair

/-! ## The maps -/

namespace CbSender

/-- `GetOrCreateReceiverState` with the message, without storing the result. -/
def getOrCreateReceiverState (s : CbSender) (dip : Nat) (k : TxKey) : ReceiverState :=
  let r := (s.receiverStates.get? dip).getD {}
  if k ∈ r.msgStates then r else { r with msgStates := r.msgStates ++ [k] }

/-- Store a receiver state and a QP. -/
def post (s : CbSender) (k : TxKey) (r : ReceiverState) (q : QueuePair) : CbSender where
  receiverStates := s.receiverStates.set q.dip r
  qpMap := Function.update s.qpMap k (some q)

/-- `GetHostSchedCreditAvailableBytes`. -/
def hostSchedCreditAvailableBytes (s : CbSender) : Nat :=
  s.receiverStates.total (fun r => if r.enabled then r.availCreditBytes else 0) % 2 ^ 64

/-- `CleanupCreditBouncerReceiverState`. -/
def cleanupReceiverState (s : CbSender) (k : TxKey) (dip : Nat) : CbSender :=
  match s.receiverStates.get? dip with
  | none => s
  | some r =>
    let msgStates := r.msgStates.filter (· ≠ k)
    if msgStates = [] then { s with receiverStates := s.receiverStates.erase dip }
    else { s with receiverStates := s.receiverStates.set dip { r with msgStates := msgStates } }

/-! ## Operations -/

/-- `AddQueuePair`. -/
def addQueuePair (cfg : CbSenderConfig) (s : CbSender) (k : TxKey) (q : QueuePair) : CbSender :=
  let r := s.getOrCreateReceiverState q.dip k
  let r := if r.enabled then r else { r with
    enabled := true
    senderBacklogThresholdBytes := cfg.senderThresholdBytes
    unsolicitedThreshBytes := cfg.unsolicitedThreshBytes }
  s.post k r q

/-- `GetNxtPacket` for a QP that the scheduler selected, after `classify`. -/
def getNxtPacket (cfg : CbSenderConfig) (s : CbSender) (k : TxKey) (q : QueuePair) :
    CbSender × Option CbPacket :=
  let payloadSize := min (cbNextChunkPayloadBytes q.sndNxt q.size cfg.mtu) q.bytesLeft
  let r := { s.getOrCreateReceiverState q.dip k with enabled := true }
  let (r, q) := if !q.usnsolCheckDone then classify cfg.toCbConfig r q else (r, q)
  let idle : QueuePair := { q with priorityFlowPending := false }
  if q.isScheduled ∧ !q.sentAnnouncement then
    if clampU32 q.size = 0 then (s.post k r idle, none)
    else (s.post k r { idle with sentAnnouncement := true }, some (grantReqPacket k q))
  else
    let toSendWire := cbAddHeaderOverhead payloadSize cfg.mtu true
    if payloadSize = 0 ∨ toSendWire = 0 ∨ toSendWire > r.availCreditBytes then
      (s.post k r idle, none)
    else
      let csnMarked := cfg.ccEnable && cfg.csnEnable &&
        (s.post k r q).hostSchedCreditAvailableBytes ≥ r.senderBacklogThresholdBytes
      let r := { r with
        availCreditBytes := r.availCreditBytes - toSendWire
        availCreditDataBytes := r.availCreditDataBytes - payloadSize }
      (s.post k r (q.advance payloadSize), some (nextDataPacket k q payloadSize csnMarked))

/-- The branch for a GRANT. -/
def receiveGrant (s : CbSender) (p : CbPacket) : CbSender :=
  let k : TxKey := ⟨p.ch.dport, p.ch.pg⟩
  match s.qpMap k with
  | none => s
  | some q =>
    let r := s.getOrCreateReceiverState q.dip k
    let creditData :=
      p.tag.creditBytes - (cbDataHeadersOnWire + cbLinkOverheadOnWire + p.tag.creditPad)
    let r := { r with
      enabled := true
      availCreditBytes := addU64 r.availCreditBytes p.tag.creditBytes
      availCreditDataBytes := addU64 r.availCreditDataBytes creditData }
    { s with receiverStates := s.receiverStates.set q.dip r }

/-- The branch for a RESEND: the requested chunks that were sent before. -/
def receiveResend (cfg : CbConfig) (s : CbSender) (p : CbPacket) : List CbPacket :=
  let k : TxKey := ⟨p.ch.dport, p.ch.pg⟩
  match s.qpMap k with
  | none => []
  | some q =>
    if cfg.mtu = 0 then []
    else
      let chunks := (List.range p.tag.resendNumChunks).map (p.tag.resendStartIdx + ·)
      let chunks := chunks.takeWhile fun i => i < 2 ^ 32 ∧ i * cfg.mtu < q.size
      let chunks := chunks.filter fun i =>
        i * cfg.mtu + cbNextChunkPayloadBytes (i * cfg.mtu) q.size cfg.mtu ≤ q.sndNxt
      chunks.map fun i =>
        resendDataPacket k q (i * cfg.mtu) (cbNextChunkPayloadBytes (i * cfg.mtu) q.size cfg.mtu)

/-- `CompleteCreditBouncerSenderQp`, and whether it calls `QpComplete`. -/
def completeSenderQp (s : CbSender) (k : TxKey) (expectedFlowId : Int) : CbSender × Bool :=
  match s.qpMap k with
  | none => (s, false)
  | some q =>
    if expectedFlowId ≥ 0 ∧ q.flowId ≥ 0 ∧ q.flowId ≠ expectedFlowId then (s, false)
    else
      let s := { s with qpMap := Function.update s.qpMap k (some { q with
        sndUna := q.size
        sndNxt := max q.sndNxt q.size }) }
      (s.cleanupReceiverState k q.dip, !q.isFinished)

end CbSender

end Dpdq.Ns3
