import Mathlib.Data.Multiset.Filter
import Mathlib.Data.Finset.Insert
import Dpdq.Lib.Machine
import Dpdq.Ns2.HybridSender
import Dpdq.Ns2.R2p2Layer

/-!
# A host, the hosts that send to it, and the network between them

One host as a receiver, with its R2P2 layer, and the sender halves of all hosts that send messages
to it. A host keeps separate messages and separate credit for every receiver, so that these are all
parts that the traffic to one receiver has to do with.

The network delivers packets in any order. It may lose them or deliver them twice, and a switch may
bounce a grant. `MsgLog` is what has happened to a message so far; nothing in the program reads it.
-/

namespace Dpdq.Ns2

open Dpdq.Lib

/-! ## Packets of the receiver -/

/-- The RESEND that `send_resend` sends. -/
structure Resend where
  reqId : UniqReqId
  msgOffset : Nat
  resendBytes : Nat
deriving DecidableEq, Repr

/-- A grant that a switch has sent back, as a packet of its sender. -/
def Hybrid.Grant.bounced (g : Hybrid.Grant) : Packet where
  src := g.dst
  size := 4
  msgType := .grant
  reqId := g.reqId
  seq := g.seq
  credit := g.credit
  creditPad := g.creditPad
  bouncedCredit := true

namespace InboundMsgState

/-- The loop of `check_resend_timeouts` over the packets, with the range that is open. -/
def missingRanges (m : InboundMsgState) : List Nat → Nat → Nat → List (Nat × Nat)
  | [], rangeStart, rangeBytes => if 0 < rangeBytes then [(rangeStart, rangeBytes)] else []
  | i :: rest, rangeStart, rangeBytes =>
    let pktStart := i * maxR2p2Payload
    let pktPayload := payloadFromOffset m.dataBytesExpected pktStart
    if pktPayload = 0 then m.missingRanges rest rangeStart rangeBytes
    else if m.receivedPktBitmap[i]? = some true then
      if 0 < rangeBytes then (rangeStart, rangeBytes) :: m.missingRanges rest rangeStart 0
      else m.missingRanges rest rangeStart 0
    else m.missingRanges rest (if rangeBytes = 0 then pktStart else rangeStart)
      (rangeBytes + pktPayload)

/-- `check_resend_timeouts` for a message whose timeout has passed. -/
def checkResendTimeout (m : InboundMsgState) : List (Nat × Nat) :=
  let grantedLimit := min m.dataBytesGranted m.dataBytesExpected
  if ¬ m.receivedMsgInfo ∨ m.dataBytesExpected = 0 ∨ m.dataBytesExpected ≤ m.dataBytesReceived ∨
      grantedLimit ≤ m.dataBytesReceived then []
  else m.missingRanges
    (List.range ((grantedLimit + maxR2p2Payload - 1) / maxR2p2Payload)) 0 0

end InboundMsgState

namespace Hybrid

/-- The message state that `received_data` is called with. -/
def dataState (h : Hybrid) (pkt : Packet) : InboundMsgState :=
  let m := (h.inbound.get? pkt.reqId).getD { remoteAddr := pkt.src }
  if 0 < pkt.creditReq ∧ ¬ m.receivedMsgInfo then m.announced pkt.creditReq else m

/-- `received_data` is called with the packet, and does not take it for a duplicate. -/
def counts (h : Hybrid) (pkt : Packet) : Bool :=
  pkt.isData ∧ ¬ pkt.isSinglePktReply ∧
    ¬ (h.inbound.get? pkt.reqId = none ∧ 0 < pkt.resendBytes) ∧
    (h.dataState pkt).ensureInboundTracking.receivedPktBitmap[pkt.pktIndex]? ≠ some true

end Hybrid

/-! ## The state -/

/-- What has happened to a message. -/
structure MsgLog where
  /-- The client has sent the request that this is the reply to. -/
  opened : Bool := false
  /-- The packets that have reached the receiver. -/
  seen : Finset Nat := ∅
  /-- Those that `received_data` has counted. -/
  arrived : Finset Nat := ∅
  /-- Those that it has counted before the receiver knew the size of the message. -/
  early : Finset Nat := ∅
  announced : Bool := false
  /-- The receiver has deleted the state of the message. -/
  completed : Bool := false
  /-- What the application got, by size. -/
  deliveries : List Nat := []

structure HybridNet where
  rx : Hybrid
  layer : R2p2Layer := {}
  msgs : Table UniqReqId OutboundMsgState := Table.empty
  availCreditBytes : Int → Int := fun _ => 0
  /-- Announcements and data on their way. -/
  toRx : Multiset Packet := 0
  /-- Grants on their way to the senders. -/
  toTx : Multiset Hybrid.Grant := 0
  resends : Multiset Resend := 0
  /-- Grants that a switch has bounced, as they were issued. -/
  bounced : Multiset Hybrid.Grant := 0
  reached : Multiset Hybrid.Grant := 0
  lost : Multiset Hybrid.Grant := 0
  log : UniqReqId → MsgLog := fun _ => {}

inductive HybridNetEvent where
  | submitRequest (id : UniqReqId) (src : Int) (bytes : Nat)
  | submitReply (id : UniqReqId) (src : Int) (bytes : Nat)
  | sendReq (id : UniqReqId)
  | sendResponse (id : UniqReqId)
  | collectGarbage (id : UniqReqId)
  | activate (id : UniqReqId)
  | sendData (id : UniqReqId)
  | retransmit (id : UniqReqId)
  | receiveGrant (g : Hybrid.Grant)
  | receiveResend (r : Resend)
  | deliver (pkt : Packet) (window : Int)
  | bounceBack (g : Hybrid.Grant) (window : Int)
  | receiveOther (src window : Int)
  | sendGrant (id : UniqReqId)
  | resendTimeout (id : UniqReqId)
  | bounce (g : Hybrid.Grant)
  | lose (pkt : Packet)
  | loseResend (r : Resend)
  | loseGrant (g : Hybrid.Grant)
  | loseBounced (g : Hybrid.Grant)
  | duplicate (pkt : Packet)
  | duplicateBounced (g : Hybrid.Grant)

namespace MsgLog

/-- A packet has been received. Afterwards the receiver has the state `after` of the message. -/
def received (l : MsgLog) (pkt : Packet) (counted : Bool) (after : Option InboundMsgState) :
    MsgLog :=
  let deleted := counted && after.isNone
  let announced := l.announced || after.any (·.receivedMsgInfo) || deleted
  { l with
    seen := if pkt.isData then insert pkt.pktIndex l.seen else l.seen
    arrived := if counted then insert pkt.pktIndex l.arrived else l.arrived
    early := if counted && !announced then insert pkt.pktIndex l.early else l.early
    announced := announced
    completed := l.completed || deleted }

end MsgLog

namespace HybridNet

/-! ## Steps -/

def setMsg (n : HybridNet) (id : UniqReqId) (m : OutboundMsgState) : HybridNet :=
  { n with msgs := n.msgs.set id m }

def setLog (n : HybridNet) (id : UniqReqId) (l : MsgLog) : HybridNet :=
  { n with log := Function.update n.log id l }

/-- A new message; the numbers of requests are not used twice. -/
def submit (n : HybridNet) (id : UniqReqId) (m : OutboundMsgState) : Option HybridNet :=
  if n.msgs.get? id = none ∧ 0 < m.totalBytes ∧ m.totalBytes < 2 ^ 31 then some (n.setMsg id m)
  else none

def activate (cfg : HybridConfig) (n : HybridNet) (id : UniqReqId) : Option HybridNet := do
  let m ← n.msgs.get? id
  let (m, avail, pkt) ← m.activate cfg id (n.availCreditBytes m.src)
  return { n.setMsg id m with
    availCreditBytes := Function.update n.availCreditBytes m.src avail
    toRx := pkt.elim 0 ({·}) + n.toRx }

def sendData (n : HybridNet) (id : UniqReqId) : Option HybridNet := do
  let m ← n.msgs.get? id
  let (m, avail, pkt) ← m.sendData id (n.availCreditBytes m.src)
  return { n.setMsg id m with
    availCreditBytes := Function.update n.availCreditBytes m.src avail
    toRx := pkt ::ₘ n.toRx }

def retransmit (n : HybridNet) (id : UniqReqId) : Option HybridNet := do
  let m ← n.msgs.get? id
  let (m, pkt) ← m.sendOneRetransmission id
  return { n.setMsg id m with toRx := pkt ::ₘ n.toRx }

/-- `received_credit` at the sender: the credit is for any message to the receiver. -/
def receiveGrant (n : HybridNet) (g : Hybrid.Grant) : Option HybridNet :=
  if g ∈ n.toTx then
    some { n with
      toTx := n.toTx.erase g
      reached := g ::ₘ n.reached
      availCreditBytes :=
        Function.update n.availCreditBytes g.dst (n.availCreditBytes g.dst + g.credit) }
  else none

def receiveResend (n : HybridNet) (r : Resend) : Option HybridNet :=
  if r ∈ n.resends then
    let n := { n with resends := n.resends.erase r }
    match n.msgs.get? r.reqId with
    | none => some n
    | some m => some (n.setMsg r.reqId (m.handleResend r.msgOffset r.resendBytes))
  else none

/-- An announcement or data arrives. What `received_data` counts goes on to the R2P2 layer, and so
does the packet of a reply with one packet. -/
def deliver (cfg : HybridConfig) (n : HybridNet) (pkt : Packet) (window : Int) :
    Option HybridNet := do
  let rx ← (n.rx.recv cfg pkt window).toOption
  let counted := n.rx.counts pkt
  let n := { n with rx := rx, toRx := n.toRx.erase pkt }
  let l := (n.log pkt.reqId).received pkt counted (rx.inbound.get? pkt.reqId)
  if counted ∨ pkt.isSinglePktReply then
    let (layer, size) ← n.layer.recv pkt
    return { n.setLog pkt.reqId { l with deliveries := size.toList ++ l.deliveries } with layer }
  else return n.setLog pkt.reqId l

/-- A grant of the message is sent, if there is one; a complete message is deleted. -/
def sendGrant (cfg : HybridConfig) (n : HybridNet) (id : UniqReqId) : Option HybridNet := do
  let (rx, g) ← (n.rx.sendGrant cfg id).toOption
  let deleted := (n.rx.inbound.get? id).isSome && (rx.inbound.get? id).isNone
  return { n.setLog id { n.log id with completed := (n.log id).completed || deleted } with
    rx := rx
    toTx := g.elim 0 ({·}) + n.toTx }

def resendTimeout (n : HybridNet) (id : UniqReqId) : HybridNet :=
  match n.rx.inbound.get? id with
  | none => n
  | some m =>
    { n with resends := Multiset.ofList (m.checkResendTimeout.map fun r => ⟨id, r.1, r.2⟩) + n.resends }

def step (cfg : HybridConfig) (addr : Int) (n : HybridNet) : HybridNetEvent → Option HybridNet
  | .submitRequest id src bytes =>
    if src = id.clAddr ∧ src ≠ addr then n.submit id (.ofRequest src bytes) else none
  | .submitReply id src bytes =>
    if addr = id.clAddr ∧ src ≠ addr ∧ (n.log id).opened then n.submit id (.ofReply src bytes)
    else none
  | .sendReq id =>
    if addr = id.clAddr ∧ ¬ (n.log id).opened then
      some { n.setLog id { n.log id with opened := true } with layer := n.layer.sendReq id }
    else none
  | .sendResponse id =>
    if (n.log id).deliveries ≠ [] then some { n with layer := n.layer.sendResponse id } else none
  | .collectGarbage id => some { n with layer := n.layer.garbageCollectState id }
  | .activate id => n.activate cfg id
  | .sendData id => n.sendData id
  | .retransmit id => n.retransmit id
  | .receiveGrant g => n.receiveGrant g
  | .receiveResend r => n.receiveResend r
  | .deliver pkt window => if pkt ∈ n.toRx then n.deliver cfg pkt window else none
  | .bounceBack g window =>
    if g ∈ n.bounced then
      (n.rx.recv cfg g.bounced window).toOption.map fun rx =>
        { n with rx, bounced := n.bounced.erase g }
    else none
  | .receiveOther src window => some { n with rx := n.rx.updateSenderState cfg src window }
  | .sendGrant id => n.sendGrant cfg id
  | .resendTimeout id => some (n.resendTimeout id)
  | .bounce g =>
    if g ∈ n.toTx then
      some { n with toTx := n.toTx.erase g, bounced := g ::ₘ n.bounced }
    else none
  | .lose pkt => if pkt ∈ n.toRx then some { n with toRx := n.toRx.erase pkt } else none
  | .loseResend r => if r ∈ n.resends then some { n with resends := n.resends.erase r } else none
  | .loseGrant g =>
    if g ∈ n.toTx then some { n with toTx := n.toTx.erase g, lost := g ::ₘ n.lost } else none
  | .loseBounced g =>
    if g ∈ n.bounced then some { n with bounced := n.bounced.erase g, lost := g ::ₘ n.lost }
    else none
  | .duplicate pkt => if pkt ∈ n.toRx then some { n with toRx := pkt ::ₘ n.toRx } else none
  | .duplicateBounced g =>
    if g ∈ n.bounced then some { n with bounced := g ::ₘ n.bounced } else none

end HybridNet

/-- The host with the address `addr`, and all hosts that send to it. -/
def hybridNet (cfg : HybridConfig) (addr : Int) : Machine HybridNet HybridNetEvent where
  init := { rx := Hybrid.new cfg }
  step n e := n.step cfg addr e

end Dpdq.Ns2
