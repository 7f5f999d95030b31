import Mathlib.Data.Multiset.AddSub
import Dpdq.Ns3.CbReceiverRetired
import Dpdq.Ns3.CbSender

/-!
# A sender and a receiver

One sender host, one receiver host and the packets between them. The network delivers packets in
any order, drops them, duplicates them, marks them, and bounces grants. The receiver also hears
other senders, and the sender other receivers. When the receiver has a whole message, it completes
the QP at the sender directly.
-/

namespace Dpdq.Ns3

open Dpdq.Lib

/-- The configuration and the addresses of the two hosts. -/
structure CbHosts extends CbSenderConfig where
  txAddr : Nat
  rxAddr : Nat

structure CbLink where
  tx : CbSender := {}
  rx : CbReceiver := {}
  toRx : Multiset CbPacket := 0
  toTx : Multiset CbPacket := 0
  /-- All packets that the receiver got from the sender. -/
  arrived : List CbPacket := []
  /-- The calls of `QpComplete` at the sender. -/
  completed : List TxKey := []

inductive LinkEvent where
  /-- A new message, on a port that was not used before. -/
  | addQueuePair (k : TxKey) (dip dport size : Nat) (flowId : Int)
  /-- The NIC selects a QP, which may be the prioritised one of its receiver. -/
  | transmit (k : TxKey) (priorityFlow : Bool)
  | deliver (p : CbPacket) (ecnBits : Nat)
  | deliverBack (p : CbPacket)
  | bounce (p : CbPacket)
  | drop (p : CbPacket)
  | dropBack (p : CbPacket)
  | duplicate (p : CbPacket)
  | duplicateBack (p : CbPacket)
  | grantTick (order : List Nat)
  | resendTimeout (k : RxKey)
  /-- A packet of another sender arrives at the receiver. -/
  | fromOther (p : CbPacket)
  /-- A packet of another receiver arrives at the sender. -/
  | fromOtherBack (p : CbPacket)
  /-- Another receiver has a whole message of the sender. -/
  | completedByOther (k : TxKey) (flowId : Int)

namespace CbPacket

/-- The packet with the ECN bits that the switches set. -/
def withEcn (p : CbPacket) (ecnBits : Nat) : CbPacket :=
  { p with ch := { p.ch with ecnBits := ecnBits } }

/-- The QP that a packet to the sender is for. -/
def qpKey (p : CbPacket) : TxKey := ⟨p.ch.dport, p.ch.pg⟩

end CbPacket

namespace CbLink

variable (hosts : CbHosts)

/-- The receive QP of a message. -/
def rxKey (k : TxKey) : RxKey := ⟨hosts.txAddr, k.pg, k.sport⟩

/-- The packets of a host that are for the other one. -/
def forTx (ps : List CbPacket) : Multiset CbPacket := ps.filter fun p => p.ch.dip = hosts.txAddr

def forRx (ps : List CbPacket) : Multiset CbPacket := ps.filter fun p => p.ch.dip = hosts.rxAddr

/-- The sender is told that a message is complete. -/
def complete (l : CbLink) (k : TxKey) (flowId : Int) : CbLink :=
  let (tx, completes) := l.tx.completeSenderQp k flowId
  { l with tx := tx, completed := if completes then k :: l.completed else l.completed }

/-- The receiver has taken a packet, and may have called the owner of the sender's address. -/
def afterReceive (l : CbLink) (r : CbReceiver × Option Completion) : CbLink :=
  let l := { l with rx := r.1 }
  match r.2 with
  | none => l
  | some c => if c.owner = hosts.txAddr then l.complete ⟨c.sport, c.pg⟩ c.flowId else l

/-- A packet arrives at the sender, which may answer it. -/
def backAtTx (l : CbLink) (p : CbPacket) : CbLink :=
  match p.tag.type with
  | .grant => { l with tx := l.tx.receiveGrant p }
  | .resend =>
    if p.ch.l3Prot = 0xFB then
      { l with toRx := forRx hosts (l.tx.receiveResend hosts.toCbConfig p) + l.toRx }
    else l
  | _ => l

/-- A timer of the receiver fires. -/
def timer (l : CbLink) (e : CbReceiver.Event) : Option CbLink := do
  let rx ← l.rx.step hosts.toCbConfig e
  return { l with rx := rx, toTx := forTx hosts (l.rx.emitted hosts.toCbConfig e) + l.toTx }

def step (l : CbLink) : LinkEvent → Option CbLink
  | .addQueuePair k dip dport size flowId =>
    if l.tx.qpMap k = none then
      some { l with tx := l.tx.addQueuePair hosts.toCbSenderConfig k {
        sip := hosts.txAddr, dip := dip, dport := dport, size := size, flowId := flowId } }
    else none
  | .transmit k priorityFlow => do
    let q ← l.tx.qpMap k
    let (tx, p) := l.tx.getNxtPacket hosts.toCbSenderConfig k
      { q with priorityFlowPending := priorityFlow }
    return { l with tx := tx, toRx := forRx hosts p.toList + l.toRx }
  | .deliver p ecnBits =>
    if p ∈ l.toRx then
      some (afterReceive hosts
        { l with toRx := l.toRx.erase p, arrived := p.withEcn ecnBits :: l.arrived }
        (l.rx.receive hosts.toCbConfig (p.withEcn ecnBits)))
    else none
  | .deliverBack p =>
    if p ∈ l.toTx then some (backAtTx hosts { l with toTx := l.toTx.erase p } p) else none
  | .bounce p =>
    if p ∈ l.toTx ∧ p.tag.type = .grant then
      some { l with toTx := l.toTx.erase p, toRx := p.bounced ::ₘ l.toRx }
    else none
  | .drop p => if p ∈ l.toRx then some { l with toRx := l.toRx.erase p } else none
  | .dropBack p => if p ∈ l.toTx then some { l with toTx := l.toTx.erase p } else none
  | .duplicate p => if p ∈ l.toRx then some { l with toRx := p ::ₘ l.toRx } else none
  | .duplicateBack p => if p ∈ l.toTx then some { l with toTx := p ::ₘ l.toTx } else none
  | .grantTick order => l.timer hosts (.grantTick order)
  | .resendTimeout k => l.timer hosts (.resendTimeout k)
  | .fromOther p =>
    if p.ch.sip ≠ hosts.txAddr then
      some (afterReceive hosts l (l.rx.receive hosts.toCbConfig p))
    else none
  | .fromOtherBack p =>
    if (l.tx.qpMap p.qpKey).all fun q => q.dip ≠ hosts.rxAddr then some (backAtTx hosts l p)
    else none
  | .completedByOther k flowId =>
    if (l.tx.qpMap k).all fun q => q.dip ≠ hosts.rxAddr then some (l.complete k flowId) else none

end CbLink

/-- A sender and a receiver, with everything that the network may do. -/
def cbLink (hosts : CbHosts) : Machine CbLink LinkEvent where
  init := {}
  step := CbLink.step hosts

end Dpdq.Ns3
