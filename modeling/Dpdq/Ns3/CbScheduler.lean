import Mathlib.Data.Finset.Sort
import Dpdq.Ns3.CbSenderStep
import Dpdq.Ns3.RdmaQueuePairGroup

/-!
# Which QP a NIC sends from

`GetNextCreditBouncerQindex` of `rdma-hw.cc` with both sender policies, and the host around it: one
`RdmaQueuePairGroup` for each NIC with its bitmap of finished QPs, and the `RdmaEgressQueue` that
asks for the next index and calls `GetNxtPacket` for it.

The deficits of the receivers are floating-point numbers and `std::sort` may order messages with
equally many bytes left either way: a `SchedulerChoice` says what these two decide. Packets in the
queue of acknowledgements go first and are left out, as are QPs without the credit bouncer.
-/

namespace Dpdq.Ns3

open Dpdq.Lib

/-- The attributes of a sending host, and its address. -/
structure CbNodeConfig extends CbSenderConfig where
  senderSchedPolicy : CbSchedPolicy := .rr
  addr : Nat

/-! ## NICs -/

/-- The `RdmaQueuePairGroup` and the `RdmaEgressQueue` of one NIC. -/
structure Nic extends RdmaQueuePairGroup TxKey where
  rrlast : Nat := 0
  mtu : Nat

namespace Nic

/-- The order in which the loops visit the group. -/
def rrOrder (n : Nic) : List Nat := rotation n.qps.length n.rrlast

/-- The index of an unfinished QP, searched from the one behind the last. -/
def qindexOf (n : Nic) (k : TxKey) : Option Nat :=
  n.rrOrder.find? fun idx => !n.isQpFinished idx && n.qps[idx]? = some k

/-- The keys of the group that are not marked. -/
def unmarked (n : Nic) : List TxKey :=
  (n.rrOrder.filter fun idx => !n.isQpFinished idx).filterMap fun idx => n.qps[idx]?

end Nic

/-! ## Eligibility -/

/-- A QP is not paused and may send now. -/
structure NicClock where
  paused : Nat → Bool
  /-- `m_nextAvail` of the QP lies ahead. -/
  late : TxKey → Bool

/-- A QP has bytes left, is not paused and is past its `m_nextAvail`. -/
def NicClock.ready (c : NicClock) (k : TxKey) (q : QueuePair) : Bool :=
  q.bytesLeft ≠ 0 && !c.paused k.pg && !c.late k

/-- `canSend`: the next chunk fits the credit, or the GRANT_REQ has not been sent. -/
def ReceiverState.canSend (r : ReceiverState) (mtu : Nat) (q : QueuePair) : Bool :=
  let sendWire := cbNextChunkOnWireBytes q.sndNxt q.size mtu
  (0 < sendWire && sendWire ≤ r.availCreditBytes) || (q.isScheduled && !q.sentAnnouncement)

namespace CbSender

/-- Clear `m_priorityFlowPending` of some QPs. -/
def clearPriority (s : CbSender) (ks : List TxKey) : CbSender :=
  let clear (q : QueuePair) : QueuePair := { q with priorityFlowPending := false }
  { s with qpMap := fun k => if k ∈ ks then (s.qpMap k).map clear else s.qpMap k }

/-- Set `m_priorityFlowPending` of a QP. -/
def setPriority (s : CbSender) (k : TxKey) (priorityFlow : Bool) : CbSender :=
  let assign (q : QueuePair) : QueuePair := { q with priorityFlowPending := priorityFlow }
  { s with qpMap := Function.update s.qpMap k ((s.qpMap k).map assign) }

/-! ## Round robin -/

/-- `GetOrCreateReceiverState` for a QP, which enables the state. -/
def enterReceiver (s : CbSender) (k : TxKey) (q : QueuePair) : CbSender :=
  let r := { s.getOrCreateReceiverState q.dip k with enabled := true }
  { s with receiverStates := s.receiverStates.set q.dip r }

/-- The loop over the indices of the group. -/
def rrScan (n : Nic) (c : NicClock) : List Nat → CbSender → CbSender × Option Nat
  | [], s => (s, none)
  | idx :: rest, s =>
    if n.isQpFinished idx then rrScan n c rest s
    else
      match n.qps[idx]?.bind fun k => (s.qpMap k).map (k, ·) with
      | none => rrScan n c rest s
      | some (k, q) =>
        if !c.ready k q then rrScan n c rest s
        else
          let r := { s.getOrCreateReceiverState q.dip k with enabled := true }
          let s := s.enterReceiver k q
          if r.canSend n.mtu q then (s, some idx) else rrScan n c rest s

/-! ## Shortest message first -/

/-- An entry of `localMsgs`. -/
structure LocalMsg where
  unsent : Nat
  key : TxKey
  qp : QueuePair
deriving DecidableEq, Repr

/-- `ReceiverCandidate`. -/
structure ReceiverCandidate where
  receiverAddr : Nat
  key : TxKey
  qindex : Nat
  unsentBytes : Nat
deriving DecidableEq, Repr

/-- What the sort and the deficits decide. -/
structure SchedulerChoice where
  sortMsgs : List LocalMsg → List LocalMsg
  sortMsgs_perm : ∀ l, (sortMsgs l).Perm l
  sortMsgs_sorted : ∀ l, (sortMsgs l).Pairwise fun a b => a.unsent ≤ b.unsent
  bestDeficit : List ReceiverCandidate → Option ReceiverCandidate
  bestDeficit_mem : ∀ l c, bestDeficit l = some c → c ∈ l
  bestDeficit_isSome : ∀ l, l ≠ [] → (bestDeficit l).isSome

/-- The messages of a receiver that are ready. -/
def localMsgs (s : CbSender) (c : NicClock) (r : ReceiverState) : List LocalMsg :=
  r.msgStates.filterMap fun k => (s.qpMap k).bind fun q =>
    if c.ready k q then some ⟨q.bytesLeft, k, q⟩ else none

/-- The first message that can send, unless a later one has not been announced. -/
def selectLocal (mtu : Nat) (r : ReceiverState) :
    List LocalMsg → Option LocalMsg → Option LocalMsg
  | [], selected => selected
  | m :: ms, selected =>
    if !r.canSend mtu m.qp then selectLocal mtu r ms selected
    else if !m.qp.sentAnnouncement then some m
    else selectLocal mtu r ms (selected.or (some m))

/-- The candidate of one receiver. -/
def candidateOf (s : CbSender) (n : Nic) (c : NicClock) (choice : SchedulerChoice)
    (addr : Nat) (r : ReceiverState) : Option ReceiverCandidate :=
  if !r.enabled || r.msgStates.isEmpty then none
  else
    (selectLocal n.mtu r (choice.sortMsgs (s.localMsgs c r)) none).bind fun m =>
      (n.qindexOf m.key).map fun idx => ⟨addr, m.key, idx, m.unsent⟩

def candidates (s : CbSender) (n : Nic) (c : NicClock) (choice : SchedulerChoice) :
    List ReceiverCandidate :=
  (s.receiverStates.keys.sort (· ≤ ·)).filterMap fun addr =>
    s.candidateOf n c choice addr (s.receiverStates.val addr)

/-- `priorityFlowUnsent` and `priorityFlowQindex`. -/
def priorityFlow (cs : List ReceiverCandidate) : Nat × Nat :=
  cs.foldl (fun best c =>
    if c.unsentBytes < best.1 ∨ (c.unsentBytes = best.1 ∧ c.qindex < best.2) then
      (c.unsentBytes, c.qindex)
    else best) (2 ^ 64 - 1, 2 ^ 32 - 1)

def srptSelect (s : CbSender) (n : Nic) (c : NicClock) (choice : SchedulerChoice) :
    CbSender × Option Nat :=
  let cs := s.candidates n c choice
  match choice.bestDeficit cs with
  | none => (s, none)
  | some best =>
    ((s.clearPriority (cs.map ReceiverCandidate.key)).setPriority best.key
      (best.qindex = (priorityFlow cs).2), some best.qindex)

/-- `GetNextCreditBouncerQindex`; `none` is -1024. -/
def getNextCreditBouncerQindex (cfg : CbNodeConfig) (s : CbSender) (n : Nic) (c : NicClock)
    (choice : SchedulerChoice) : CbSender × Option Nat :=
  if n.qps = [] then (s, none)
  else
    match cfg.senderSchedPolicy with
    | .rr => rrScan n c n.rrOrder (s.clearPriority n.unmarked)
    | .srpt => s.srptSelect n c choice

end CbSender

/-! ## The host -/

structure CbNode where
  tx : CbSender := {}
  nics : List Nic

inductive CbNodeEvent where
  /-- A new message, on a port that was not used before, and the NIC its hash selects. -/
  | addQueuePair (k : TxKey) (dip dport size : Nat) (flowId : Int) (nic : Nat)
  /-- A NIC is idle. -/
  | dequeue (nic : Nat) (c : NicClock) (choice : CbSender.SchedulerChoice)
  | receiveGrant (p : CbPacket)
  /-- A receiver has a whole message. -/
  | complete (k : TxKey) (flowId : Int)
  /-- `RedistributeQp`, after the routes have changed. -/
  | redistribute (order : List TxKey) (place : TxKey → Nat)

namespace CbNode

def finished (s : CbSender) (k : TxKey) : Bool := (s.qpMap k).any QueuePair.isFinished

/-- What `GetNextQindex` evaluates: a QP with the credit bouncer is not for its round robin. -/
def checks (c : NicClock) : QpChecks TxKey where
  cond1 k := !c.paused k.pg
  cond2 _ := false
  late := c.late

/-- The round robin when no credit-bouncer QP was selected, which only marks finished ones. -/
def markFinished (s : CbSender) (n : Nic) (c : NicClock) : Nic :=
  { n with toRdmaQueuePairGroup := (n.getNextQindex (finished s) n.rrlast (checks c)).2 }

/-- `GetNextQindex`, and `DequeueQindex` for the index it returns. -/
def dequeue (cfg : CbNodeConfig) (s : CbNode) (nic : Nat) (n : Nic) (c : NicClock)
    (choice : CbSender.SchedulerChoice) : CbNode :=
  let (tx, qindex) := s.tx.getNextCreditBouncerQindex cfg n c choice
  match qindex with
  | none => { tx := tx, nics := s.nics.set nic (markFinished tx n c) }
  | some idx =>
    match n.qps[idx]?.bind fun k => (tx.qpMap k).map (k, ·) with
    | none => { s with tx := tx }
    | some (k, q) => {
        tx := (tx.getNxtPacket cfg.toCbSenderConfig k q).1
        nics := s.nics.set nic { n with rrlast := idx } }

def step (cfg : CbNodeConfig) (s : CbNode) : CbNodeEvent → Option CbNode
  | .addQueuePair k dip dport size flowId nic => do
    let n ← s.nics[nic]?
    if s.tx.qpMap k = none then
      some {
        tx := s.tx.addQueuePair cfg.toCbSenderConfig k {
          sip := cfg.addr, dip := dip, dport := dport, size := size, flowId := flowId }
        nics := s.nics.set nic { n with toRdmaQueuePairGroup := n.addQp k } }
    else none
  | .dequeue nic c choice => do
    let n ← s.nics[nic]?
    return s.dequeue cfg nic n c choice
  | .receiveGrant p => some { s with tx := s.tx.receiveGrant p }
  | .complete k flowId => some { s with tx := (s.tx.completeSenderQp k flowId).1 }
  | .redistribute order place =>
    if order.Perm (s.nics.flatMap fun n => n.qps) ∧ ∀ k ∈ order, place k < s.nics.length then
      some { s with nics := s.nics.mapIdx fun i n =>
        { n with qps := order.filter fun k => place k = i } }
    else none

end CbNode

/-- A sending host after `Setup`, with a number of NICs. -/
def cbNode (cfg : CbNodeConfig) (nicCount : Nat) : Machine CbNode CbNodeEvent where
  init := { nics := List.replicate nicCount { mtu := cfg.mtu } }
  step := CbNode.step cfg

end Dpdq.Ns3
