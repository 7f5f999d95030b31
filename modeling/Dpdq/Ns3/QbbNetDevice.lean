import Mathlib.Algebra.Order.Ring.Int
import Dpdq.Ns3.RdmaQueuePairGroup

/-!
# The device of a host

`QbbNetDevice` of a host with its link up: `DequeueAndTransmit` with the round robin of
`RdmaEgressQueue::GetNextQindex`, the timer `m_nextSend` for the QPs that are paced, and
`UpdateNextAvail`, through which `ChangeRate` moves this timer.

Times are numbers of time steps. `m_nextSend` is the time of its event, `none` if it is expired; so
it is while this event runs. A call gets the results of the three callbacks of `RdmaEgressQueue`:
what the credit scheduler selects, the packet of the QP, and the QP behind it.
-/

namespace Dpdq.Ns3

open Dpdq.Lib

/-! ## QPs -/

/-- What the getters of an `RdmaQueuePair` return. -/
structure QpStatus where
  pg : Nat
  bytesLeft : Nat
  isFinishedConst : Bool
  ccTypeRate : Bool
  isWinBound : Bool
  irnEnabled : Bool
  canIrnTransmit : Bool
  tltEnabled : Bool
  tltForceTxReady : Bool
  tltImportant : Bool
  cbEnabled : Bool
  /-- `canSend` of `GetNextCreditBouncerQindex`. -/
  cbCanSend : Bool

/-- A QP with its pace. -/
structure PacedQp extends QpStatus where
  nextAvail : Int := 0
  rate : Nat
  maxRate : Nat
  lastPktSize : Nat := 0

namespace QpStatus

def condWindowAllowed (q : QpStatus) : Bool :=
  q.ccTypeRate || (!q.isWinBound && (!q.irnEnabled || q.canIrnTransmit))

def condTlt (q : QpStatus) : Bool := q.tltEnabled && q.tltForceTxReady && q.tltImportant

def cond2 (q : QpStatus) : Bool :=
  (!q.cbEnabled && q.bytesLeft > 0 && q.condWindowAllowed) || q.condTlt

/-- What the credit scheduler asks of a QP besides its class and its `m_nextAvail`. -/
def cbReady (q : QpStatus) : Bool := q.cbEnabled && q.bytesLeft ≠ 0 && q.cbCanSend

end QpStatus

/-! ## The device -/

inductive TxMachineState where
  | ready
  | busy
deriving DecidableEq

/-- The attributes, and the time that a packet takes at a rate. -/
structure QbbConfig where
  interframeGap : Int
  rateBound : Bool
  txTime : Nat → Nat → Int

def ackQIdx : Nat := 3

/-- `Simulator::GetMaximumSimulationTime`. -/
def maximumSimulationTime : Int := 0x7fffffffffffffff

/-- The device and its `RdmaEgressQueue`. `qps` are the objects that the group points to. -/
structure QbbNetDevice where
  now : Int := 0
  txMachineState : TxMachineState := .ready
  paused : Nat → Bool := fun _ => false
  nextSend : Option Int := none
  ackQ : Nat := 0
  qpGrp : RdmaQueuePairGroup Nat := {}
  rrlast : Nat := 0
  qps : Nat → PacedQp

/-- What the callbacks do in a call. -/
structure Callbacks where
  /-- `m_rdmaGetNextCreditBouncerQindex`. -/
  cbQindex : Option Nat
  /-- The size of the packet that `m_rdmaGetNxtPkt` returns, if any. -/
  packet : Option Nat
  /-- The QP behind it. -/
  status : QpStatus

/-- What a call has done. -/
inductive CallResult where
  | busy
  | control
  | dequeued (qp : Nat)
  | idle
deriving DecidableEq

namespace QbbNetDevice

variable (cfg : QbbConfig)

def finished (d : QbbNetDevice) (qp : Nat) : Bool := (d.qps qp).isFinishedConst

def cond1 (d : QbbNetDevice) (qp : Nat) : Bool := !d.paused (d.qps qp).pg

def late (d : QbbNetDevice) (qp : Nat) : Bool := (d.qps qp).nextAvail > d.now

def checks (d : QbbNetDevice) : QpChecks Nat where
  cond1 := d.cond1
  cond2 qp := (d.qps qp).cond2
  late := d.late

/-- A packet waits in the queue of high priority. -/
def controlReady (d : QbbNetDevice) : Bool := !d.paused ackQIdx && d.ackQ > 0

/-- `GetNextQindex` without its first branch. -/
def getNextQindex (d : QbbNetDevice) (c : Callbacks) : Option Nat × RdmaQueuePairGroup Nat :=
  match c.cbQindex with
  | some idx => (some idx, d.qpGrp)
  | none => d.qpGrp.getNextQindex d.finished d.rrlast d.checks

/-- `RdmaHw::UpdateNextAvail`, which `PktSent` calls. -/
def pktSent (d : QbbNetDevice) (q : PacedQp) (size : Nat) : PacedQp :=
  { q with
    lastPktSize := size
    nextAvail := d.now + (cfg.interframeGap +
      cfg.txTime (if cfg.rateBound then q.rate else q.maxRate) size) }

/-- The times for which the idle device has to wait. -/
def deadlines (d : QbbNetDevice) : List Int :=
  (d.qpGrp.qps.filter fun qp =>
    !((d.qps qp).bytesLeft == 0 || (d.qps qp).nextAvail ≤ d.now)).map fun qp => (d.qps qp).nextAvail

/-- There is no packet to send. -/
def waitForNextAvail (d : QbbNetDevice) : QbbNetDevice :=
  let t := d.deadlines.foldl min maximumSimulationTime
  if d.deadlines ≠ [] ∧ d.nextSend = none ∧ t < maximumSimulationTime ∧ t > d.now then
    { d with nextSend := some t }
  else d

/-- `none` if the credit scheduler gives an index outside the group. -/
def dequeueAndTransmit (d : QbbNetDevice) (c : Callbacks) : Option (QbbNetDevice × CallResult) :=
  if d.txMachineState = .busy then some (d, .busy)
  else if d.controlReady then
    some ({ d with ackQ := d.ackQ - 1, txMachineState := .busy }, .control)
  else
    let (qIndex, qpGrp) := d.getNextQindex c
    let d := { d with qpGrp }
    match qIndex with
    | none => some (d.waitForNextAvail, .idle)
    | some idx => do
      let qp ← qpGrp.qps[idx]?
      let q := { d.qps qp with toQpStatus := c.status }
      match c.packet with
      | none =>
        some ({ d with rrlast := idx, qps := Function.update d.qps qp q }, .dequeued qp)
      | some size =>
        some ({ d with
          rrlast := idx
          txMachineState := .busy
          qps := Function.update d.qps qp (d.pktSent cfg q size) }, .dequeued qp)

/-- `UpdateNextAvail`. -/
def updateNextAvail (d : QbbNetDevice) (t : Int) : QbbNetDevice :=
  match d.nextSend with
  | none => d
  | some ts => if t < ts then { d with nextSend := some (if t < d.now then d.now else t) } else d

/-- `RdmaHw::ChangeRate`. -/
def changeRate (d : QbbNetDevice) (qp rate : Nat) : QbbNetDevice :=
  let q := d.qps qp
  let nextAvail := q.nextAvail + cfg.txTime rate q.lastPktSize - cfg.txTime q.rate q.lastPktSize
  let d := { d with qps := Function.update d.qps qp { q with nextAvail } }.updateNextAvail nextAvail
  { d with qps := Function.update d.qps qp { d.qps qp with rate } }

/-- What happens to the device, with the call of `DequeueAndTransmit` left out. -/
inductive Action where
  /-- Time passes, up to the next event of the simulator. -/
  | advance (t : Int)
  /-- The event of `m_nextSend`. -/
  | nextSend
  | transmitComplete
  /-- `NewQp` for a QP that `AddQueuePair` has put into the group. -/
  | newQp (qp : Nat) (q : PacedQp)
  /-- `ReassignedQp` for a QP that `RedistributeQp` has put into the group. -/
  | reassignedQp (qp : Nat)
  | triggerTransmit
  | enqueueHighPrioQ
  /-- `RedistributeQp` clears the group first. -/
  | clear
  | pause (qIndex : Nat)
  | resume (qIndex : Nat)
  | changeRate (qp rate : Nat)
  /-- The host has changed a QP in any way that leaves its pace alone. -/
  | update (qp : Nat) (status : QpStatus)

def Action.calls : Action → Bool
  | nextSend | transmitComplete | newQp _ _ | reassignedQp _ | triggerTransmit | resume _ => true
  | _ => false

def act (d : QbbNetDevice) : Action → Option QbbNetDevice
  | .advance t =>
    if d.now ≤ t ∧ ∀ ts ∈ d.nextSend, t ≤ ts then some { d with now := t } else none
  | .nextSend => if d.nextSend = some d.now then some { d with nextSend := none } else none
  | .transmitComplete =>
    if d.txMachineState = .busy then some { d with txMachineState := .ready } else none
  | .newQp qp q =>
    if qp ∉ d.qpGrp.qps then
      some { d with
        qpGrp := d.qpGrp.addQp qp
        qps := Function.update d.qps qp { q with nextAvail := d.now } }
    else none
  | .reassignedQp qp => some { d with qpGrp := d.qpGrp.addQp qp }
  | .triggerTransmit => some d
  | .enqueueHighPrioQ => some { d with ackQ := d.ackQ + 1 }
  | .clear => some { d with qpGrp := d.qpGrp.clear }
  | .pause qIndex => some { d with paused := Function.update d.paused qIndex true }
  | .resume qIndex =>
    if d.paused qIndex then some { d with paused := Function.update d.paused qIndex false }
    else none
  | .changeRate qp rate => some (d.changeRate cfg qp rate)
  | .update qp status =>
    some { d with qps := Function.update d.qps qp { d.qps qp with toQpStatus := status } }

end QbbNetDevice

end Dpdq.Ns3
