import Dpdq.Ns3.CbSender
import Dpdq.Ns3.Irn

/-!
# Acknowledgements and completion at a sender

The QPs of one host with everything that `rdma-hw.cc` does to their acknowledged bytes: `ReceiveAck`
for ACKs and NACKs, with IRN and without, and `CompleteCreditBouncerSenderQp`. A QP is never taken
out of `m_qpMap`; a later QP with the same key takes its place there.

The congestion control reads an acknowledgement, too, and changes rates only. TLT makes an additional
packet when a QP completes. Both are left out.
-/

namespace Dpdq.Ns3

open Dpdq.Lib

/-! ## State -/

/-- The attributes of `RdmaHw`, and whether the device uses PFC. -/
structure AckConfig where
  mtu : Nat
  chunk : Nat
  backto0 : Bool
  ackInterval : Nat
  irn : Bool
  creditbouncer : Bool
  qbbEnabled : Bool

/-- An ACK (`0xFC`) or a NACK (`0xFD`). -/
structure AckPacket extends IrnAck where
  nack : Bool
  dport : Nat
  pg : Nat
deriving DecidableEq, Repr

/-- The fields of `RdmaQueuePair` that decide about its completion. -/
structure RdmaQueuePair where
  size : Nat
  flowId : Int
  tx : IrnQueuePair := {}
  /-- The packets that `ReceiveAck` has taken for it, which no code reads. -/
  heard : List AckPacket := []
  /-- The calls of `QpComplete`, and so of `m_qpCompleteCallback`. -/
  completions : Nat := 0
deriving DecidableEq, Repr

/-- The QPs in the order of their creation, and the positions that `m_qpMap` maps the keys to. -/
structure RdmaSender where
  qps : List RdmaQueuePair := []
  qpMap : TxKey → Option Nat := fun _ => none

/-! ## One QP -/

namespace RdmaQueuePair

/-- `IsFinishedConst`. -/
def isFinishedConst (q : RdmaQueuePair) : Bool := q.tx.sndUna ≥ q.size

/-- `IsFinished`. -/
def isFinished (cfg : AckConfig) (q : RdmaQueuePair) : Bool × RdmaQueuePair :=
  let q := if cfg.irn then { q with tx := q.tx.skipFrontBlock } else q
  (q.tx.sndUna ≥ q.size, q)

/-- `GetBytesLeft`. -/
def getBytesLeft (cfg : AckConfig) (q : RdmaQueuePair) : Nat × RdmaQueuePair :=
  let q := if cfg.irn then { q with tx := q.tx.skipFrontBlock } else q
  (if q.size ≥ q.tx.sndNxt then q.size - q.tx.sndNxt else 0, q)

/-- `GetNxtPacket`, when it makes a data packet. -/
def getNxtPacket (cfg : AckConfig) (q : RdmaQueuePair) : RdmaQueuePair :=
  let (bytesLeft, q) := q.getBytesLeft cfg
  let payloadSize := min (cbNextChunkPayloadBytes q.tx.sndNxt q.size cfg.mtu) bytesLeft
  { q with tx := { q.tx with sndNxt := q.tx.sndNxt + payloadSize } }

def recoverQueue (q : RdmaQueuePair) : RdmaQueuePair := { q with tx := q.tx.recoverQueue }

/-- `QpComplete`. -/
def qpComplete (q : RdmaQueuePair) : RdmaQueuePair := { q with completions := q.completions + 1 }

/-- The part of `ReceiveAck` under `m_ack_interval != 0`, up to the test for the completion. -/
def processAck (cfg : AckConfig) (q : RdmaQueuePair) (a : AckPacket) : RdmaQueuePair :=
  let ack := if cfg.backto0 then a.seq / cfg.chunk * cfg.chunk else a.seq
  let tx := q.tx.acknowledge ack
  let tx :=
    if cfg.irn then
      ((tx.addBlock a.toIrnAck).takeFrontBlock.discardAcked).skipAcked.leaveRecovery
    else tx.skipAcked
  { q with tx := tx, heard := q.heard ++ [a] }

/-- `ReceiveAck`; the second `isFinished` decides about the retransmission timer. -/
def receiveAck (cfg : AckConfig) (a : AckPacket) (q : RdmaQueuePair) : RdmaQueuePair :=
  if cfg.creditbouncer then q
  else
    let q :=
      if cfg.ackInterval = 0 then q
      else
        let (finished, q) := (q.processAck cfg a).isFinished cfg
        if finished then q.qpComplete else q
    let q := (q.isFinished cfg).2
    if cfg.irn then { q with tx := q.tx.updateRecovery a.toIrnAck }
    else if a.nack then q.recoverQueue
    else q

/-- `HandleTimeout`. -/
def handleTimeout (cfg : AckConfig) (q : RdmaQueuePair) : RdmaQueuePair :=
  if cfg.creditbouncer then q
  else
    let (finished, q) := q.isFinished cfg
    if finished ∨ (cfg.irn ∧ cfg.qbbEnabled) then q
    else if cfg.irn then { q with tx := { q.tx with recovery := true } }.recoverQueue
    else q.recoverQueue

/-- `CompleteCreditBouncerSenderQp`. -/
def completeSenderQp (cfg : AckConfig) (expectedFlowId : Int) (q : RdmaQueuePair) : RdmaQueuePair :=
  if !cfg.creditbouncer then q
  else if expectedFlowId ≥ 0 ∧ q.flowId ≥ 0 ∧ q.flowId ≠ expectedFlowId then q
  else
    let alreadyFinished := q.isFinishedConst
    let q := { q with tx := { q.tx with sndUna := q.size, sndNxt := max q.tx.sndNxt q.size } }
    if !alreadyFinished then q.qpComplete else q

end RdmaQueuePair

/-! ## Runs -/

/-- What a device or a timer does to a QP. -/
inductive QpEvent where
  /-- The device takes the next packet. -/
  | send
  /-- The device asks how many bytes are left. -/
  | poll
  /-- The device starts again from the acknowledged bytes. -/
  | recover
  /-- The retransmission timer fires. -/
  | timeout

/-- What happens at the host. -/
inductive SenderEvent where
  | addQueuePair (key : TxKey) (size : Nat) (flowId : Int)
  | onQp (i : Nat) (e : QpEvent)
  | receiveAck (a : AckPacket)
  | completeSenderQp (key : TxKey) (expectedFlowId : Int)

def RdmaQueuePair.handle (cfg : AckConfig) (q : RdmaQueuePair) : QpEvent → RdmaQueuePair
  | .send => q.getNxtPacket cfg
  | .poll => (q.getBytesLeft cfg).2
  | .recover => q.recoverQueue
  | .timeout => q.handleTimeout cfg

namespace RdmaSender

/-- Change the QP at position `i`. -/
def onQp (s : RdmaSender) (i : Nat) (f : RdmaQueuePair → RdmaQueuePair) : RdmaSender :=
  { s with qps := s.qps.modify i f }

/-- Change the QP that `GetQp` finds, if there is one. -/
def onKey (s : RdmaSender) (key : TxKey) (f : RdmaQueuePair → RdmaQueuePair) : RdmaSender :=
  match s.qpMap key with
  | none => s
  | some i => s.onQp i f

def step (cfg : AckConfig) (s : RdmaSender) : SenderEvent → Option RdmaSender
  | .addQueuePair key size flowId => some {
      qps := s.qps ++ [{ size := size, flowId := flowId }]
      qpMap := Function.update s.qpMap key (some s.qps.length) }
  | .onQp i e => some (s.onQp i fun q => q.handle cfg e)
  | .receiveAck a => some (s.onKey ⟨a.dport, a.pg⟩ (RdmaQueuePair.receiveAck cfg a))
  | .completeSenderQp key expectedFlowId =>
    some (s.onKey key (RdmaQueuePair.completeSenderQp cfg expectedFlowId))

end RdmaSender

def rdmaSender (cfg : AckConfig) : Machine RdmaSender SenderEvent where
  init := {}
  step := RdmaSender.step cfg

end Dpdq.Ns3
