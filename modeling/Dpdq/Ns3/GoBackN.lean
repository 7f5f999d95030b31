import Mathlib.Algebra.Group.Nat.Defs
import Dpdq.Ns3.QpCompletion

/-!
# Go-back-N between one sender and one receiver

The paths without IRN of `GetNxtPacket`, `ReceiveAck`, `PktSent`, `HandleTimeout`, `ReceiveUdp` and
`ReceiverCheckSeq` in `rdma-hw.cc`, with the windows of `rdma-queue-pair.cc` and the test of
`GetNextQindex` in `qbb-net-device.cc`, for one message. Nothing is kept of a packet that arrives
out of order, and the sender starts again from what is acknowledged.

The network keeps every packet that was ever sent, as it does for IRN. The retransmission timer is
part of the state: it fires only while it runs. The rate and the clock come with the events.
-/

namespace Dpdq.Ns3

open Dpdq.Lib

/-! ## Configuration and state -/

structure GoBackNConfig where
  size : Nat
  flowId : Int
  sport : Nat
  pg : Nat
  mtu : Nat
  chunk : Nat
  backto0 : Bool
  ackInterval : Nat
  nackInterval : Nat
  /-- `m_win`; 0 is a QP without a window. -/
  win : Nat
  varWin : Bool
  maxRate : Nat
  /-- `m_cc_type` is `CC_TYPE_RATE`. -/
  rateBased : Bool

/-- The attributes that `ReceiveAck` and `HandleTimeout` read. -/
def GoBackNConfig.toAckConfig (cfg : GoBackNConfig) : AckConfig where
  mtu := cfg.mtu
  chunk := cfg.chunk
  backto0 := cfg.backto0
  ackInterval := cfg.ackInterval
  irn := false
  creditbouncer := false
  qbbEnabled := true

/-- A QP and whether `m_retransmit` is running. -/
structure GoBackNSender where
  qp : RdmaQueuePair
  retransmit : Bool := false
deriving DecidableEq, Repr

/-- The fields of `RdmaRxQueuePair` that `ReceiverCheckSeq` reads without IRN. -/
structure RdmaRxQueuePair where
  receiverNextExpectedSeq : Nat := 0
  nackTimer : Nat := 0
  milestoneRx : Nat := 0
  lastNack : Nat := 0
deriving DecidableEq, Repr

/-! ## Sender -/

namespace GoBackNSender

/-- `GetOnTheFly`. -/
def getOnTheFly (s : GoBackNSender) : Nat := s.qp.tx.sndNxt - s.qp.tx.sndUna

/-- `GetWin` at the rate `m_rate`. -/
def getWin (cfg : GoBackNConfig) (rate : Nat) : Nat :=
  if cfg.win = 0 then 0
  else if cfg.varWin then max (cfg.win * rate % 2 ^ 64 / cfg.maxRate) 1
  else cfg.win

def isWinBound (cfg : GoBackNConfig) (rate : Nat) (s : GoBackNSender) : Bool :=
  getWin cfg rate ≠ 0 ∧ s.getOnTheFly ≥ getWin cfg rate

/-- `cond2` of `GetNextQindex`: the QP may send. -/
def maySend (cfg : GoBackNConfig) (rate : Nat) (s : GoBackNSender) : Bool :=
  (s.qp.getBytesLeft cfg.toAckConfig).1 > 0 ∧ (cfg.rateBased ∨ !s.isWinBound cfg rate)

/-- `GetNxtPacket` and `PktSent`. -/
def getNxtPacket (cfg : GoBackNConfig) (s : GoBackNSender) : IrnData × GoBackNSender :=
  let (bytesLeft, qp) := s.qp.getBytesLeft cfg.toAckConfig
  let payloadSize := min (cbNextChunkPayloadBytes qp.tx.sndNxt qp.size cfg.mtu) bytesLeft
  ({ seq := qp.tx.sndNxt % 2 ^ 32, payloadSize := payloadSize },
    { qp := s.qp.getNxtPacket cfg.toAckConfig, retransmit := true })

/-- The timer after `ReceiveAck`: `QpComplete` cancels it, and while bytes are in flight it starts
again. -/
def rearm (cfg : GoBackNConfig) (s : GoBackNSender) (a : AckPacket) : Bool :=
  let qp := if cfg.ackInterval = 0 then s.qp else s.qp.processAck cfg.toAckConfig a
  if (qp.isFinished cfg.toAckConfig).1 then cfg.ackInterval = 0 ∧ s.retransmit
  else s.retransmit ∨ qp.tx.sndNxt - qp.tx.sndUna > 0

/-- `ReceiveAck`. -/
def receiveAck (cfg : GoBackNConfig) (s : GoBackNSender) (a : AckPacket) : GoBackNSender where
  qp := s.qp.receiveAck cfg.toAckConfig a
  retransmit := s.rearm cfg a

/-- `HandleTimeout`. -/
def handleTimeout (cfg : GoBackNConfig) (s : GoBackNSender) : GoBackNSender where
  qp := s.qp.handleTimeout cfg.toAckConfig
  retransmit := false

end GoBackNSender

/-! ## Receiver -/

namespace RdmaRxQueuePair

/-- `ReceiverCheckSeq` without `m_irn`, at time `now`. The results are those of the source: 1 is an
ACK, 2 is a NACK, 4 and 5 send nothing. There is none when `m_chunk` is 0 and divides. -/
def receiverCheckSeq (cfg : GoBackNConfig) (q : RdmaRxQueuePair) (seq size now : Nat) :
    Option (Nat × RdmaRxQueuePair) :=
  let expected := q.receiverNextExpectedSeq
  if seq = expected ∨ (seq < expected ∧ addU32 seq size ≥ expected) then
    let next := addU32 expected (size - (expected - seq))
    let q := { q with receiverNextExpectedSeq := next }
    if next ≥ q.milestoneRx then
      some (1, { q with milestoneRx := addU32 q.milestoneRx cfg.ackInterval })
    else if cfg.chunk = 0 then none
    else some (if next % cfg.chunk = 0 then 1 else 5, q)
  else if seq > expected then
    if now ≥ q.nackTimer ∨ q.lastNack ≠ expected then
      let q := { q with nackTimer := now + cfg.nackInterval, lastNack := expected }
      if !cfg.backto0 then some (2, q)
      else if cfg.chunk = 0 then none
      else some (2, { q with receiverNextExpectedSeq := expected / cfg.chunk * cfg.chunk })
    else some (4, q)
  else some (1, q)

/-- The sequence handling of `ReceiveUdp`, and the ACK or NACK it sends. -/
def receiveUdp (cfg : GoBackNConfig) (q : RdmaRxQueuePair) (d : IrnData) (now : Nat) :
    Option (Option AckPacket × RdmaRxQueuePair) := do
  let q := { q with milestoneRx := cfg.ackInterval }
  let (x, q) ← q.receiverCheckSeq cfg d.seq d.payloadSize now
  return if x = 1 ∨ x = 2 ∨ x = 6 then
    (some {
      seq := q.receiverNextExpectedSeq
      irnNack := 0
      irnNackSize := 0
      nack := x ≠ 1
      dport := cfg.sport
      pg := cfg.pg }, q)
  else (none, q)

end RdmaRxQueuePair

/-! ## The two parties and the network -/

structure GoBackNRun where
  sender : GoBackNSender
  receiver : RdmaRxQueuePair := {}
  /-- All data packets sent so far. -/
  data : List IrnData := []
  /-- All ACKs and NACKs sent so far. -/
  acks : List AckPacket := []
  /-- The payloads that reached the receiver, which no code reads. -/
  arrived : List Block := []

inductive GoBackNEvent where
  /-- The device takes the next packet while `m_rate` is `rate`. -/
  | send (rate : Nat)
  /-- The retransmission timer fires. -/
  | timeout
  /-- The `i`-th data packet arrives at time `now`. -/
  | deliverData (i now : Nat)
  /-- The `i`-th ACK or NACK arrives. -/
  | deliverAck (i : Nat)

namespace GoBackNRun

/-- The bytes of the message that have reached the receiver. -/
def received (r : GoBackNRun) : Set Nat := covered r.arrived

/-- The receiver takes the packet `d`. -/
def arrive (cfg : GoBackNConfig) (r : GoBackNRun) (d : IrnData) (now : Nat) :
    Option GoBackNRun := do
  let (a, q) ← r.receiver.receiveUdp cfg d now
  return { r with
    receiver := q
    acks := r.acks ++ a.toList
    arrived := (d.seq, d.payloadSize) :: r.arrived }

/-- The sender takes `a`; `m_chunk` divides its number under `m_backto0`. -/
def acknowledge (cfg : GoBackNConfig) (r : GoBackNRun) (a : AckPacket) : Option GoBackNRun :=
  if cfg.backto0 ∧ cfg.chunk = 0 ∧ cfg.ackInterval ≠ 0 then none
  else some { r with sender := r.sender.receiveAck cfg a }

def step (cfg : GoBackNConfig) (r : GoBackNRun) : GoBackNEvent → Option GoBackNRun
  | .send rate =>
    if r.sender.maySend cfg rate then
      some { r with
        sender := (r.sender.getNxtPacket cfg).2
        data := r.data ++ [(r.sender.getNxtPacket cfg).1] }
    else none
  | .timeout =>
    if r.sender.retransmit then some { r with sender := r.sender.handleTimeout cfg } else none
  | .deliverData i now => r.data[i]?.bind fun d => r.arrive cfg d now
  | .deliverAck i => r.acks[i]?.bind fun a => r.acknowledge cfg a

end GoBackNRun

def goBackN (cfg : GoBackNConfig) : Machine GoBackNRun GoBackNEvent where
  init := { sender := { qp := { size := cfg.size, flowId := cfg.flowId } } }
  step := GoBackNRun.step cfg

end Dpdq.Ns3
