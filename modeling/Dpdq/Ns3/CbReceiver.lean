import Dpdq.Lib.Machine
import Dpdq.Lib.Table
import Dpdq.Ns3.CbAimd
import Dpdq.Ns3.CbBytes
import Dpdq.Ns3.Packet
import Dpdq.Ns3.Word

/-!
# The credit-bouncer receiver of an ns-3 host

The receiver half of `rdma-hw.cc` with the feature switched on: `ReceiveCreditBouncer` for
announcements, data and bounced credit, `TryIssueCreditGrant`, and the two timers. A receive QP
is one message. `SenderState` aggregates the messages of one sender address, and the global
counter is shared by all senders.

The routines of the source work on one `SenderState`, one receive QP and the global counter at a
time. They are functions on these three, an `Account`, which is then posted back to the maps.
-/

namespace Dpdq.Ns3

open Dpdq.Lib

/-! ## State -/

inductive CbSchedPolicy where
  | rr
  | srpt
deriving DecidableEq, Repr

/-- The attributes of `RdmaHw` that the credit bouncer reads. -/
structure CbConfig where
  mtu : Nat := 1466
  maxSrpbBytes : Nat := 200 * 1024
  /-- The budget `B`; 0 is no limit. -/
  globalBucketBytes : Nat := 300 * 1024
  grantGranularityBytes : Nat := 1466
  grantSchedPolicy : CbSchedPolicy := .rr
  ccEnable : Bool := true
  csnEnable : Bool := false
  aiStepBytes : ℚ := 1
  mdFactor : ℚ := 1 / 2
  ecnMinMulNw : ℚ := 1 / 10
  ecnMinMulHost : ℚ := 1 / 10
  ceNewWeight : ℚ := 1 / 10

/-- The key of `m_rxQpMap`: the sender's address, the priority group and the sender's port. -/
structure RxKey where
  dip : Nat
  pg : Nat
  dport : Nat
deriving DecidableEq, Repr

/-- The fields of `RdmaRxQueuePair` that the credit bouncer uses. -/
structure RxQueuePair where
  sip : Nat
  sport : Nat
  flowId : Int := -1
  pendingDemandBytes : Nat := 0
  announcementAccounted : Bool := false
  announcementExpectedBytes : Nat := 0
  receivedDataBytes : Nat := 0
  completionNotified : Bool := false
  expectedChunks : Nat := 0
  receivedChunks : Nat := 0
  grantedChunkLimit : Nat := 0
  receivedChunkBitmap : List Bool := []
  /-- `m_resendEvent` is running. -/
  resendRunning : Bool := false
deriving DecidableEq, Repr

structure SenderState where
  enabled : Bool := false
  pendingDemandDataBytes : Nat := 0
  outstandingDataBytes : Nat := 0
  outstandingBytes : Nat := 0
  srpbBytes : Nat := 0
  grantGranularityDataBytes : Nat := 0
  aimd : AimdState := {}
  msgStates : List RxKey := []

instance : Inhabited SenderState := ⟨{}⟩

structure CbReceiver where
  senderStates : Table Nat SenderState := Table.empty
  rxQpMap : RxKey → Option RxQueuePair := fun _ => none
  globalOutstandingBytes : Nat := 0
  grantRrCursor : Nat := 0
  /-- `m_creditbouncer_grantTickEvent` is running. -/
  grantTickRunning : Bool := false

/-- The call of `CompleteCreditBouncerSenderQp` on the owner of an address. -/
structure Completion where
  owner : Nat
  sport : Nat
  pg : Nat
  flowId : Int
deriving DecidableEq, Repr

/-! ## One receive QP -/

namespace RxQueuePair

/-- `ScheduleCreditBouncerResend`. -/
def scheduleResend (q : RxQueuePair) : RxQueuePair :=
  if q.completionNotified ∨ q.expectedChunks = 0 then q else { q with resendRunning := true }

/-- What a new announcement resets in the receive QP. -/
def announce (cfg : CbConfig) (q : RxQueuePair) (creditReqBytes : Nat) : RxQueuePair :=
  let expectedChunks :=
    if cfg.mtu = 0 then 0 else (creditReqBytes + cfg.mtu - 1) / cfg.mtu % 2 ^ 32
  { q with
    announcementAccounted := true
    announcementExpectedBytes := creditReqBytes
    receivedDataBytes := 0
    completionNotified := false
    expectedChunks := expectedChunks
    receivedChunks := 0
    grantedChunkLimit := 0
    receivedChunkBitmap := List.replicate expectedChunks false
    resendRunning := false
    pendingDemandBytes := saturatingAdd q.pendingDemandBytes creditReqBytes }

/-- The chunk of a sequence number, if it is one of the announced chunks. -/
def chunkOf (cfg : CbConfig) (q : RxQueuePair) (seq : Nat) : Option Nat :=
  if cfg.mtu > 0 ∧ seq / cfg.mtu < q.expectedChunks ∧
      q.receivedChunkBitmap.length = q.expectedChunks then some (seq / cfg.mtu)
  else none

/-- `firstSeenChunk`: a packet of no announced chunk counts as first seen. -/
def firstSeenChunk (cfg : CbConfig) (q : RxQueuePair) (seq : Nat) : Bool :=
  match q.chunkOf cfg seq with
  | none => true
  | some i => q.receivedChunkBitmap[i]? = some false

def markChunk (cfg : CbConfig) (q : RxQueuePair) (seq : Nat) : RxQueuePair :=
  match q.chunkOf cfg seq with
  | none => q
  | some i =>
    if q.firstSeenChunk cfg seq then
      { q with
        receivedChunkBitmap := q.receivedChunkBitmap.set i true
        receivedChunks := q.receivedChunks + 1 }
    else q

def learnFlowId (q : RxQueuePair) (flowId : Option Int) : RxQueuePair :=
  if q.flowId < 0 then { q with flowId := flowId.getD q.flowId } else q

/-- The payload that counts towards the message: no more than its chunk holds. -/
def acceptedPayload (cfg : CbConfig) (q : RxQueuePair) (seq payloadSize : Nat) : Nat :=
  if cfg.mtu > 0 ∧ seq / cfg.mtu < q.expectedChunks then
    let chunkBase := seq / cfg.mtu * cfg.mtu
    if chunkBase < q.announcementExpectedBytes then
      min payloadSize (min cfg.mtu (q.announcementExpectedBytes - chunkBase))
    else 0
  else payloadSize

def countPayload (cfg : CbConfig) (q : RxQueuePair) (seq payloadSize : Nat) : RxQueuePair :=
  if q.announcementExpectedBytes > 0 then
    { q with
      receivedDataBytes := min q.announcementExpectedBytes
        (q.receivedDataBytes + q.acceptedPayload cfg seq payloadSize) }
  else q

/-- The condition of the completion branch. -/
def completes (q : RxQueuePair) : Bool :=
  !q.completionNotified ∧ q.announcementExpectedBytes > 0 ∧
    ((q.expectedChunks > 0 ∧ q.receivedChunks ≥ q.expectedChunks) ∨
      q.receivedDataBytes ≥ q.announcementExpectedBytes)

def notifyCompletion (q : RxQueuePair) : RxQueuePair :=
  { q with completionNotified := true, resendRunning := false }

end RxQueuePair

/-! ## One sender -/

namespace SenderState

/-- The initialisation in `GetRxQp` of a sender that is not enabled. -/
def enable (cfg : CbConfig) (st : SenderState) : SenderState :=
  let wnd := max 1 (truncate ((cfg.maxSrpbBytes : ℚ) / cbMaxEthernetFrameOnWire))
  let loop (minMul : ℚ) : AimdLoop := {
    maxSrpbBytes := cfg.maxSrpbBytes
    bucketLimitSrpbBytes := cfg.maxSrpbBytes
    bucketMinBytes := max 1 (truncate (minMul * cfg.maxSrpbBytes))
    pktsAtNextWndUpdate := wnd }
  { st with
    enabled := true
    srpbBytes := cfg.maxSrpbBytes
    grantGranularityDataBytes := cfg.grantGranularityBytes
    aimd := {
      maxSrpbBytes := cfg.maxSrpbBytes
      srpbCeilingBytes := cfg.maxSrpbBytes
      network := loop cfg.ecnMinMulNw
      host := loop cfg.ecnMinMulHost
      aiStepBytes := cfg.aiStepBytes
      mdFactor := cfg.mdFactor } }

/-- The message is put on the list if it is not there. -/
def listMessage (st : SenderState) (k : RxKey) : SenderState :=
  if k ∈ st.msgStates then st else { st with msgStates := st.msgStates ++ [k] }

/-- `UpdateSenderStateAimdOnData`. -/
def updateAimdOnData (cfg : CbConfig) (st : SenderState)
    (csnMarked ecnMarked priorityFlow : Bool) : SenderState :=
  if !st.enabled then st
  else
    let aimd := st.aimd.onData cfg.ceNewWeight csnMarked ecnMarked priorityFlow
    { st with aimd := aimd, srpbBytes := min st.srpbBytes aimd.maxSrpbBytes }

/-- Credit goes back to the pair budget, up to the cap. -/
def refundSrpb (st : SenderState) (wire : Nat) : SenderState :=
  { st with
    srpbBytes :=
      if addU64 st.srpbBytes wire > st.aimd.maxSrpbBytes then st.aimd.maxSrpbBytes
      else st.srpbBytes + wire }

end SenderState

/-! ## Accounts -/

/-- One sender, one of its messages, and the global counter. -/
structure Account where
  sender : SenderState
  msg : RxQueuePair
  globalOutstandingBytes : Nat

namespace Account

/-- The demand part of `applyNewAnnouncement`. -/
def accountDemand (cfg : CbConfig) (a : Account) (creditReqBytes : Nat) : Account :=
  { a with
    sender := { a.sender with
      pendingDemandDataBytes := saturatingAdd a.sender.pendingDemandDataBytes creditReqBytes }
    msg := a.msg.announce cfg creditReqBytes }

/-- The self-allocated credit of an announcement counts as granted. -/
def accountSelfAlloc (a : Account) (grantWire unsolCreditDataBytes : Nat) : Account :=
  let grantData := min unsolCreditDataBytes a.sender.pendingDemandDataBytes
  { sender := { a.sender with
      pendingDemandDataBytes := a.sender.pendingDemandDataBytes - grantData
      outstandingDataBytes := saturatingAdd a.sender.outstandingDataBytes grantData
      srpbBytes := a.sender.srpbBytes - grantWire
      outstandingBytes := saturatingAdd a.sender.outstandingBytes grantWire }
    msg := { a.msg with pendingDemandBytes := a.msg.pendingDemandBytes - grantData }
    globalOutstandingBytes := saturatingAdd a.globalOutstandingBytes grantWire }

/-- The announcement in the tag is new to the receive QP. -/
def isNewAnnouncement (a : Account) (tag : CreditBouncerTag) : Bool :=
  tag.creditReqBytes > 0 ∧ !a.msg.announcementAccounted

/-- `applyNewAnnouncement`. -/
def applyNewAnnouncement (cfg : CbConfig) (a : Account) (tag : CreditBouncerTag) : Account :=
  if a.isNewAnnouncement tag then
    let a := a.accountDemand cfg tag.creditReqBytes
    let a := if tag.unsolCreditBytes > 0 ∨ tag.unsolCreditDataBytes > 0 then
        a.accountSelfAlloc tag.unsolCreditBytes tag.unsolCreditDataBytes
      else a
    { a with msg := a.msg.scheduleResend }
  else a

/-- The payload and wire credit that a first-seen chunk pays back. -/
def creditUsed (cfg : CbConfig) (a : Account) (payloadSize : Nat) : Nat × Nat :=
  let creditUsedData := min payloadSize a.sender.outstandingDataBytes
  (creditUsedData, cbAddHeaderOverhead creditUsedData cfg.mtu true)

/-- The reclaim on data arrival: the sender's and the global counter are clamped separately. -/
def reclaim (cfg : CbConfig) (a : Account) (payloadSize : Nat) : Account :=
  let (creditUsedData, creditUsedWire) := a.creditUsed cfg payloadSize
  let sender := { a.sender with
    outstandingDataBytes := a.sender.outstandingDataBytes - creditUsedData
    outstandingBytes := a.sender.outstandingBytes - creditUsedWire }
  { a with
    sender := sender.refundSrpb creditUsedWire
    globalOutstandingBytes := a.globalOutstandingBytes - creditUsedWire }

/-- `UpdateSenderStateAimdOnData` with the marks of a packet. -/
def updateAimd (cfg : CbConfig) (a : Account) (p : CbPacket) (priorityFlow : Bool) : Account :=
  let csnMarked := cfg.csnEnable && p.tag.csnMarked
  let sender := a.sender.updateAimdOnData cfg csnMarked (p.ch.ecnBits != 0) priorityFlow
  { a with sender := sender }

/-- The marks and the announcement of a data packet. -/
def countArrival (cfg : CbConfig) (a : Account) (p : CbPacket) : Account :=
  let a := if cfg.ccEnable then a.updateAimd cfg p p.tag.priorityFlow else a
  a.applyNewAnnouncement cfg p.tag

/-- The marks and the announcement of a packet without data. -/
def countRequest (cfg : CbConfig) (a : Account) (p : CbPacket) : Account :=
  let a := if p.tag.type = .grantReq ∧ cfg.ccEnable then a.updateAimd cfg p false else a
  a.applyNewAnnouncement cfg p.tag

/-- The chunk of a data packet: its mark, the reclaim and the received bytes. -/
def receiveChunk (cfg : CbConfig) (a : Account) (p : CbPacket) : Account :=
  let firstSeen := a.msg.firstSeenChunk cfg p.ch.seq
  let a := { a with msg := a.msg.markChunk cfg p.ch.seq }
  let a := if firstSeen then a.reclaim cfg p.payloadSize else a
  let msg := a.msg.learnFlowId p.flowId
  { a with msg := if firstSeen then msg.countPayload cfg p.ch.seq p.payloadSize else msg }

/-- The data path up to the completion. -/
def receiveData (cfg : CbConfig) (a : Account) (p : CbPacket) : Account :=
  (a.countArrival cfg p).receiveChunk cfg p

/-- The payload that a bounced credit stands for. -/
def bouncedData (tag : CreditBouncerTag) : Nat :=
  tag.creditBytes - (cbDataHeadersOnWire + cbLinkOverheadOnWire + tag.creditPad)

/-- The roll-back of a bounced grant. -/
def bounce (a : Account) (tag : CreditBouncerTag) : Account :=
  let effectiveWire := min tag.creditBytes a.sender.outstandingBytes
  let effectiveData := min (bouncedData tag) a.sender.outstandingDataBytes
  let sender := { a.sender with
    outstandingBytes := a.sender.outstandingBytes - effectiveWire
    outstandingDataBytes := a.sender.outstandingDataBytes - effectiveData
    pendingDemandDataBytes := addU64 a.sender.pendingDemandDataBytes effectiveData }
  { sender := sender.refundSrpb effectiveWire
    msg := { a.msg with
      pendingDemandBytes := saturatingAdd a.msg.pendingDemandBytes effectiveData }
    globalOutstandingBytes := a.globalOutstandingBytes - effectiveWire }

/-- The counters of `TryIssueCreditGrant` for the selected message. -/
def grant (a : Account) (askData askWire : Nat) : Account where
  sender := { a.sender with
    pendingDemandDataBytes := a.sender.pendingDemandDataBytes - askData
    outstandingDataBytes := addU64 a.sender.outstandingDataBytes askData
    srpbBytes := a.sender.srpbBytes - askWire
    outstandingBytes := addU64 a.sender.outstandingBytes askWire }
  msg := { a.msg with pendingDemandBytes := a.msg.pendingDemandBytes - askData }
  globalOutstandingBytes := addU64 a.globalOutstandingBytes askWire

end Account

/-! ## The maps -/

namespace CbPacket

/-- The key that `GetRxQp` builds from a packet of the sender. -/
def rxKey (p : CbPacket) : RxKey := ⟨p.ch.sip, p.ch.pg, p.ch.sport⟩

/-- The receive QP that `GetRxQp` creates for it. -/
def newRxQp (p : CbPacket) : RxQueuePair := { sip := p.ch.dip, sport := p.ch.dport }

end CbPacket

namespace CbReceiver

/-- `GetOrCreateSenderState` with the message, without storing the result. -/
def getOrCreateSenderState (s : CbReceiver) (k : RxKey) : SenderState :=
  ((s.senderStates.get? k.dip).getD {}).listMessage k

/-- `GetRxQp` with `create`. -/
def getRxQp (cfg : CbConfig) (s : CbReceiver) (p : CbPacket) : CbReceiver × RxQueuePair :=
  let k := p.rxKey
  match s.rxQpMap k with
  | some q => (s, q)
  | none =>
    let st := s.getOrCreateSenderState k
    let st := if !st.enabled then st.enable cfg else st
    ({ s with
      senderStates := s.senderStates.set k.dip st
      rxQpMap := Function.update s.rxQpMap k (some p.newRxQp) }, p.newRxQp)

/-- The account of a message, with its sender enabled. -/
def openAccount (s : CbReceiver) (k : RxKey) (q : RxQueuePair) : Account where
  sender := { s.getOrCreateSenderState k with enabled := true }
  msg := q
  globalOutstandingBytes := s.globalOutstandingBytes

/-- Store an account. -/
def post (s : CbReceiver) (k : RxKey) (a : Account) : CbReceiver :=
  { s with
    senderStates := s.senderStates.set k.dip a.sender
    rxQpMap := Function.update s.rxQpMap k (some a.msg)
    globalOutstandingBytes := a.globalOutstandingBytes }

/-- `CleanupCreditBouncerSenderState`: the message leaves the list, and the last one takes the
whole entry of its sender along. -/
def cleanupSenderState (s : CbReceiver) (k : RxKey) : CbReceiver :=
  match s.senderStates.get? k.dip with
  | none => s
  | some st =>
    let msgStates := st.msgStates.filter (· ≠ k)
    if msgStates = [] then { s with senderStates := s.senderStates.erase k.dip }
    else { s with senderStates := s.senderStates.set k.dip { st with msgStates := msgStates } }

/-- Some enabled sender waits for grants. -/
def hasPendingDemand (s : CbReceiver) : Bool :=
  s.senderStates.any fun st => st.enabled ∧ st.pendingDemandDataBytes > 0

/-- `ScheduleCreditGrantTick`. -/
def scheduleGrantTick (s : CbReceiver) : CbReceiver :=
  if s.grantTickRunning then s else { s with grantTickRunning := s.hasPendingDemand }

/-- The schedule at the end of an arrival, for the demand that its sender has left. -/
def scheduleGrantTickFor (s : CbReceiver) (st : SenderState) : CbReceiver :=
  if st.pendingDemandDataBytes > 0 then s.scheduleGrantTick else s

/-! ## Arrivals -/

/-- Store the account of a data packet; a complete message is cleaned up. -/
def postData (s : CbReceiver) (k : RxKey) (a : Account) : CbReceiver :=
  if a.msg.completes then
    (s.post k { a with msg := a.msg.notifyCompletion }).cleanupSenderState k
  else s.post k { a with msg := a.msg.scheduleResend }

/-- A REQUEST data packet. After a completion the source reads the pending demand of a sender that
may have been erased; the model reads the last value. -/
def receiveRequestData (cfg : CbConfig) (s : CbReceiver) (p : CbPacket) :
    CbReceiver × Option Completion :=
  let k := p.rxKey
  let (s, q) := s.getRxQp cfg p
  let a := (s.openAccount k q).receiveData cfg p
  let completion : Completion :=
    { owner := p.ch.sip, sport := p.ch.sport, pg := p.ch.pg, flowId := a.msg.flowId }
  ((s.postData k a).scheduleGrantTickFor a.sender,
    if a.msg.completes then some completion else none)

/-- A GRANT_REQ, or a REQUEST without data. -/
def receiveRequest (cfg : CbConfig) (s : CbReceiver) (p : CbPacket) : CbReceiver :=
  let k := p.rxKey
  let (s, q) := s.getRxQp cfg p
  let a := (s.openAccount k q).countRequest cfg p
  (s.post k a).scheduleGrantTickFor a.sender

/-- A bounced credit; one for an unknown message is ignored. -/
def receiveBouncedCredit (s : CbReceiver) (p : CbPacket) : CbReceiver :=
  let k := p.rxKey
  match s.rxQpMap k with
  | none => s
  | some q =>
    let a := (s.openAccount k q).bounce p.tag
    (s.post k { a with msg := a.msg.scheduleResend }).scheduleGrantTickFor a.sender

/-- The receiver's branches of `ReceiveCreditBouncer`. -/
def receive (cfg : CbConfig) (s : CbReceiver) (p : CbPacket) : CbReceiver × Option Completion :=
  match p.tag.type with
  | .request =>
    if p.ch.l3Prot = 0x11 then s.receiveRequestData cfg p
    else if p.ch.l3Prot = 0xFB then (s.receiveRequest cfg p, none)
    else (s, none)
  | .grantReq => (s.receiveRequest cfg p, none)
  | .bouncedCredit => (s.receiveBouncedCredit p, none)
  | _ => (s, none)

/-! ## Grants -/

structure GrantCandidate where
  senderAddr : Nat
  key : RxKey
  msgPendingDataBytes : Nat
  flowId : Int
deriving DecidableEq, Repr

/-- The messages that wait for grants, in the iteration order of `m_senderStates`. -/
def candidates (s : CbReceiver) (order : List Nat) : List GrantCandidate :=
  order.flatMap fun addr =>
    match s.senderStates.get? addr with
    | none => []
    | some st =>
      if !st.enabled ∨ st.pendingDemandDataBytes = 0 then []
      else st.msgStates.filterMap fun k =>
        match s.rxQpMap k with
        | none => none
        | some q =>
          if q.pendingDemandBytes = 0 then none
          else some ⟨addr, k, q.pendingDemandBytes, q.flowId⟩

/-- The grant size for a message: one unit, cut to whole chunks. -/
def askData (cfg : CbConfig) (st : SenderState) (msgPendingDataBytes : Nat) : Nat :=
  let unitData := if st.grantGranularityDataBytes > 0 then st.grantGranularityDataBytes else cfg.mtu
  let unitData := max unitData (min msgPendingDataBytes cfg.mtu)
  let ask := min (min msgPendingDataBytes unitData) st.pendingDemandDataBytes
  cbAlignChunkPrefixBytes ask msgPendingDataBytes cfg.mtu

def globalLimit (cfg : CbConfig) : Nat :=
  if cfg.globalBucketBytes = 0 then 2 ^ 64 - 1 else cfg.globalBucketBytes

/-- `trySelectCandidate`: the data and wire size of the grant, if the candidate passes. -/
def trySelectCandidate (cfg : CbConfig) (s : CbReceiver) (c : GrantCandidate) :
    Option (GrantCandidate × Nat × Nat) := do
  let st ← s.senderStates.get? c.senderAddr
  if st.outstandingBytes > st.aimd.maxSrpbBytes then none
  else
    let data := askData cfg st c.msgPendingDataBytes
    let wire := cbAddHeaderOverhead data cfg.mtu true
    if data = 0 then none
    else if addU64 s.globalOutstandingBytes wire > globalLimit cfg then none
    else if wire > st.srpbBytes then none
    else some (c, data, wire)

/-- The order of the SRPT policy. -/
def srptLe (c d : GrantCandidate) : Bool :=
  if c.msgPendingDataBytes ≠ d.msgPendingDataBytes then
    c.msgPendingDataBytes < d.msgPendingDataBytes
  else if c.senderAddr ≠ d.senderAddr then c.senderAddr < d.senderAddr
  else c.flowId ≤ d.flowId

/-- The selected candidate and the cursor afterwards. -/
def selectCandidate (cfg : CbConfig) (s : CbReceiver) (cs : List GrantCandidate) :
    Option (GrantCandidate × Nat × Nat) × Nat :=
  match cfg.grantSchedPolicy with
  | .srpt => ((cs.mergeSort srptLe).findSome? (s.trySelectCandidate cfg), s.grantRrCursor)
  | .rr =>
    let cursor := if s.grantRrCursor ≥ cs.length then 0 else s.grantRrCursor
    let indices := (List.range cs.length).map fun offset => (cursor + offset) % cs.length
    let found := indices.findSome? fun i => do
      let selected ← s.trySelectCandidate cfg (← cs[i]?)
      return (selected, (i + 1) % cs.length)
    match found with
    | none => (none, cursor)
    | some (selected, next) => (some selected, next)

/-- The GRANT packet of a selected message, before its counters are changed. -/
def grantPacket (k : RxKey) (q : RxQueuePair) (data wire : Nat) : CbPacket where
  ch := {
    sip := q.sip, dip := k.dip, l3Prot := 0xFB, sport := q.sport, dport := k.dport, pg := k.pg
    seq := min (q.announcementExpectedBytes - q.pendingDemandBytes) (2 ^ 32 - 1) }
  tag := {
    type := .grant
    creditBytes := wire % 2 ^ 32
    creditPad := (wire - (data + cbDataHeadersOnWire + cbLinkOverheadOnWire)) % 2 ^ 16 }

/-- `TryIssueCreditGrant`, for an iteration order of `m_senderStates`. -/
def tryIssueCreditGrant (cfg : CbConfig) (s : CbReceiver) (order : List Nat) :
    CbReceiver × Option CbPacket :=
  let cs := s.candidates order
  if cs = [] then (s, none)
  else
    let (selected, cursor) := s.selectCandidate cfg cs
    let s := { s with grantRrCursor := cursor }
    match selected with
    | none => (s, none)
    | some (c, data, wire) =>
      match s.senderStates.get? c.senderAddr, s.rxQpMap c.key with
      | some st, some q =>
        let a := Account.grant ⟨st, q, s.globalOutstandingBytes⟩ data wire
        ({ s with
          senderStates := s.senderStates.set c.senderAddr a.sender
          rxQpMap := Function.update s.rxQpMap c.key (some a.msg)
          globalOutstandingBytes := a.globalOutstandingBytes }, some (grantPacket c.key q data wire))
      | _, _ => (s, none)

/-- `CreditGrantTick`. -/
def creditGrantTick (cfg : CbConfig) (s : CbReceiver) (order : List Nat) :
    CbReceiver × Option CbPacket :=
  let (s, grant) := { s with grantTickRunning := false }.tryIssueCreditGrant cfg order
  (s.scheduleGrantTick, grant)

/-! ## Resend timer -/

/-- The maximal runs of missing chunks among the first `limit`: start and length. -/
def missingRuns (bitmap : List Bool) (limit : Nat) : List (Nat × Nat) :=
  let step (acc : List (Nat × Nat) × Nat × Nat) (i : Nat) : List (Nat × Nat) × Nat × Nat :=
    let (runs, rangeStart, rangeLen) := acc
    if bitmap[i]? = some false then
      (runs, if rangeLen = 0 then i else rangeStart, rangeLen + 1)
    else if rangeLen ≠ 0 then (runs ++ [(rangeStart, rangeLen)], rangeStart, 0)
    else acc
  let (runs, rangeStart, rangeLen) := (List.range limit).foldl step ([], 0, 0)
  if rangeLen ≠ 0 then runs ++ [(rangeStart, rangeLen)] else runs

/-- The chunks granted so far. -/
def grantedChunkLimit (cfg : CbConfig) (q : RxQueuePair) : Nat :=
  let grantedBytes := q.announcementExpectedBytes -
    min q.pendingDemandBytes q.announcementExpectedBytes
  min ((grantedBytes + cfg.mtu - 1) / cfg.mtu % 2 ^ 32) q.expectedChunks

/-- The RESEND packet for one run of missing chunks. -/
def resendPacket (k : RxKey) (q : RxQueuePair) (run : Nat × Nat) : CbPacket where
  ch := {
    sip := q.sip, dip := k.dip, l3Prot := 0xFB, sport := q.sport, dport := k.dport, pg := k.pg
    seq := 0 }
  tag := { type := .resend, resendStartIdx := run.1, resendNumChunks := run.2 }

/-- `HandleCreditBouncerResendTimeout`, when the timer of the message fires. -/
def handleResendTimeout (cfg : CbConfig) (s : CbReceiver) (k : RxKey) (q : RxQueuePair) :
    CbReceiver × List CbPacket :=
  let q := { q with resendRunning := false }
  if q.completionNotified ∨ q.expectedChunks = 0 then
    ({ s with rxQpMap := Function.update s.rxQpMap k (some q) }, [])
  else
    let st := s.getOrCreateSenderState k
    let s := { s with senderStates := s.senderStates.set k.dip st }
    if cfg.mtu = 0 then ({ s with rxQpMap := Function.update s.rxQpMap k (some q) }, [])
    else
      let limit := grantedChunkLimit cfg q
      let q := { q with grantedChunkLimit := limit }
      let runs :=
        if limit > 0 ∧ q.receivedChunkBitmap ≠ [] then missingRuns q.receivedChunkBitmap limit
        else []
      let again := q.receivedChunks < q.expectedChunks ∧
        (st.pendingDemandDataBytes > 0 ∨ limit > q.receivedChunks)
      let resends := runs.map (resendPacket k q)
      let q := if again then q.scheduleResend else q
      ({ s with rxQpMap := Function.update s.rxQpMap k (some q) }, resends)

/-! ## Runs -/

/-- What happens at the receiver: a packet arrives, the grant timer fires and finds the senders in
some order, or the resend timer of a message fires. -/
inductive Event where
  | arrive (p : CbPacket)
  | grantTick (order : List Nat)
  | resendTimeout (k : RxKey)

/-- The arrival of a GRANT_REQ for a message of `size` bytes, at the host with address 1. -/
def Event.grantReq (sip sport size : Nat) : Event := .arrive {
  ch := { sip := sip, dip := 1, l3Prot := 0xFB, sport := sport, dport := 100, pg := 3, seq := 0 }
  tag := { type := .grantReq, creditReqBytes := size } }

/-- The arrival of a data packet without an announcement. -/
def Event.scheduledData (sip sport seq size : Nat) : Event := .arrive {
  ch := { sip := sip, dip := 1, l3Prot := 0x11, sport := sport, dport := 100, pg := 3, seq := seq }
  tag := { type := .request, dataClass := .scheduled }
  payloadSize := size }

def step (cfg : CbConfig) (s : CbReceiver) : Event → Option CbReceiver
  | .arrive p => some (s.receive cfg p).1
  | .grantTick order =>
    if s.grantTickRunning ∧ order.Nodup ∧ order.toFinset = s.senderStates.keys then
      some (s.creditGrantTick cfg order).1
    else none
  | .resendTimeout k => do
    let q ← s.rxQpMap k
    if q.resendRunning then some (s.handleResendTimeout cfg k q).1 else none

end CbReceiver

/-- The receiver of a host, for any packets in any order. -/
def cbReceiver (cfg : CbConfig) : Machine CbReceiver CbReceiver.Event where
  init := {}
  step := CbReceiver.step cfg

end Dpdq.Ns3
