import Mathlib.Algebra.Order.Field.Rat
import Dpdq.Lib.Checked
import Dpdq.Lib.Machine
import Dpdq.Ns2.Hybrid
import Dpdq.Ns2.MsgList

/-!
# The sender policy of `R2p2CCHybrid`

`Receivers` of `r2p2-hybrid-support.cc` decides to which receiver the next packet goes. Each
receiver to which something can be sent is given a quantum in each call, a part of it for all of
them alike and the rest for the one that the policy prefers; the receiver with the highest deficit
sends, and pays 1 for it. While no deficit has reached 1, all quanta are given again.

Deficits and quanta are rational numbers. The receivers are in the order in which the map of their
policy states is walked over; that order is arbitrary.
-/

namespace Dpdq.Ns2

open Dpdq.Lib

/-! ## State -/

/-- `sender_policy_`, 0 to 2. -/
inductive SenderPolicy where
  | fairSharing
  | srpt
  | creditBacklog
deriving DecidableEq, Repr

/-- The policy with its share, and the sort of the messages of a receiver: `std::sort` may leave
messages with the same number of unsent bytes in any order. -/
structure SenderConfig where
  senderPolicy : SenderPolicy
  senderPolicyRatio : Rat
  ratio_nonneg : 0 ≤ senderPolicyRatio
  ratio_le_one : senderPolicyRatio ≤ 1
  sortByFewerRemaining : List OutboundMsg → List OutboundMsg
  sort_perm : ∀ msgs, (sortByFewerRemaining msgs).Perm msgs
  sort_ordered : ∀ msgs, (sortByFewerRemaining msgs).Pairwise fun a b =>
    a.state.unsentBytes ≤ b.state.unsentBytes

/-- The weights that the setup passes to `set_policy_weights`. -/
def SenderConfig.fsWeight (cfg : SenderConfig) : Rat :=
  if cfg.senderPolicy = .fairSharing then 1 else 1 - cfg.senderPolicyRatio

def SenderConfig.srptWeight (cfg : SenderConfig) : Rat :=
  if cfg.senderPolicy = .fairSharing then 0 else cfg.senderPolicyRatio

structure ReceiverState where
  availCreditBytes : Int
  availCreditDataBytes : Int
  outMsgs : OutboundMsgs

/-- A `PolicyState` with the address of its receiver. -/
structure PolicyState where
  rcverAddr : Nat
  deficit : Rat := 0
  quantum : Rat := -1
  canSend : Bool := false
  priorityFlow : Bool := false
  numCanSend : Int := -1
  wantToSendBytes : Nat := 0
  msgState : Option OutboundMsg := none
deriving DecidableEq

/-- The assertions of the sender policy. -/
inductive SchedFailure where
  | nullMsg
  | idleDeficit
  | negativeDeficit
  | noHighestPrio
  | noHighestPrioFlow
  | quantumSum
  | lowPrioQuantum
  | highPrioQuantum
  | wantToSend
  | smallDeficit
  | smallQuantum
  | largeDeficit
  | outOfFuel
deriving DecidableEq, Repr

/-! ## What a receiver can be sent -/

/-- What the next packet of a message takes on the wire. -/
def OutboundMsg.toSend (m : OutboundMsg) : Nat := wireBytes (min maxR2p2Payload m.state.unsentBytes)

namespace PolicyState

/-- The message that is sent if the receiver is selected. -/
def take (ps : PolicyState) (m : OutboundMsg) : PolicyState :=
  { ps with
    canSend := true
    msgState := some m
    wantToSendBytes := m.toSend }

/-- One round of the loop of `want_to_send`. The first message that can be sent is taken, unless one
that is still to be announced comes after it. -/
def offer (creditAvail : Nat) (ps : PolicyState) (m : OutboundMsg) : PolicyState :=
  if m.state.unsentBytes = 0 then ps
  else if m.toSend ≤ creditAvail then
    if ps.canSend then if ¬ m.state.sentAnouncement then ps.take m else ps
    else ps.take m
  else ps

/-- What is left of the state of a receiver to which nothing can be sent. -/
def idle (ps : PolicyState) : PolicyState :=
  { ps with
    deficit := 0
    quantum := 0
    canSend := false
    wantToSendBytes := 0
    msgState := none }

def addQuantum (ps : PolicyState) (quantum : Rat) (priorityFlow : Bool) : PolicyState :=
  { ps with
    deficit := ps.deficit + quantum
    quantum
    priorityFlow }

def topUp (ps : PolicyState) : PolicyState :=
  if ps.canSend then { ps with deficit := ps.deficit + ps.quantum } else ps

def charge (ps : PolicyState) (addr : Nat) : PolicyState :=
  if ps.rcverAddr = addr then { ps with deficit := ps.deficit - 1 } else ps

end PolicyState

/-- `avail_credit_bytes_` as the unsigned number that it is compared as. -/
def ReceiverState.creditAvail (r : ReceiverState) : Nat := (r.availCreditBytes % 2 ^ 64).toNat

/-- The messages of a receiver in the order in which `want_to_send` comes past them. -/
def ReceiverState.sortedMsgs (cfg : SenderConfig) (r : ReceiverState) : List OutboundMsg :=
  let outMsgs : OutboundMsgs :=
    CursorList.reset { r.outMsgs with items := cfg.sortByFewerRemaining r.outMsgs.items }
  (outMsgs.visits r.outMsgs.size).elim [] Prod.fst

def wantToSend (cfg : SenderConfig) (r : ReceiverState) (ps : PolicyState) : PolicyState :=
  let ps := { ps with
    canSend := false
    msgState := none
    wantToSendBytes := 0 }
  if r.outMsgs.size = 0 then ps.idle
  else
    let ps := (r.sortedMsgs cfg).foldl (PolicyState.offer r.creditAvail) ps
    if ps.canSend then ps else ps.idle

/-! ## `update_policy_state` -/

def maxInt : Int := 2147483647

/-- The receiver that is left when each one that is better than the best so far takes its place. -/
def highestPrio (better : Int → Int → Bool) (key : PolicyState → Int) (start : Int)
    (s : List PolicyState) : Int × Option Nat :=
  s.foldl (fun best ps =>
    if ps.canSend = true ∧ better (key ps) best.1 = true then (key ps, some ps.rcverAddr)
    else best) (start, none)

def unsentBytesKey (ps : PolicyState) : Int :=
  toInt32 (ps.msgState.elim 0 fun m => m.state.unsentBytes)

def rcverWithHighestPrio (cfg : SenderConfig) (rcvers : Nat → ReceiverState)
    (s : List PolicyState) : Option Nat :=
  match cfg.senderPolicy with
  | .creditBacklog =>
    (highestPrio (fun a b => b < a) (fun ps => (rcvers ps.rcverAddr).availCreditDataBytes) 0 s).2
  | _ => (highestPrio (fun a b => a < b) unsentBytesKey maxInt s).2

def rcverWithHighestPrioFlow (s : List PolicyState) : Option Nat :=
  (highestPrio (fun a b => a < b) unsentBytesKey maxInt s).2

def numCanSend (s : List PolicyState) : Nat := s.countP PolicyState.canSend

def fsQuantum (s : List PolicyState) : Rat := 1 / numCanSend s

def highPrioQuantum (cfg : SenderConfig) (s : List PolicyState) : Rat :=
  fsQuantum s * cfg.fsWeight + 1 * cfg.srptWeight

def lowPrioQuantum (cfg : SenderConfig) (s : List PolicyState) : Rat := fsQuantum s * cfg.fsWeight

/-- 0.000001, what a deficit and a quantum have to come to. -/
def leastQuantum : Rat := 1 / 1000000

/-- The receivers with `want_to_send` done for all of them. -/
def wantAll (cfg : SenderConfig) (rcvers : Nat → ReceiverState) (s : List PolicyState) :
    List PolicyState :=
  s.map fun ps => wantToSend cfg (rcvers ps.rcverAddr) ps

/-- What `update_policy_state` adds to the deficit of a receiver. -/
def addDeficit (cfg : SenderConfig) (s : List PolicyState) (prio flow : Nat) (ps : PolicyState) :
    PolicyState :=
  let ps := { ps with numCanSend := numCanSend s }
  if ps.canSend then
    ps.addQuantum (if ps.rcverAddr = prio then highPrioQuantum cfg s else lowPrioQuantum cfg s)
      (ps.rcverAddr = flow)
  else ps

def updatePolicyState (cfg : SenderConfig) (rcvers : Nat → ReceiverState) (s : List PolicyState) :
    Except SchedFailure (List PolicyState) := do
  let s := wantAll cfg rcvers s
  check (∀ ps ∈ s, ps.canSend = true → ps.msgState ≠ none) .nullMsg
  check (∀ ps ∈ s, ps.canSend = false → ps.deficit < leastQuantum) .idleDeficit
  check (∀ ps ∈ s, 0 ≤ ps.deficit) .negativeDeficit
  if numCanSend s = 0 then return s
  else
    match rcverWithHighestPrio cfg rcvers s, rcverWithHighestPrioFlow s with
    | none, _ => .error .noHighestPrio
    | some _, none => .error .noHighestPrioFlow
    | some prio, some flow => do
      let high := highPrioQuantum cfg s
      let low := lowPrioQuantum cfg s
      check (high + (numCanSend s - 1) * low - 1 < 1 / 100000) .quantumSum
      check (0 ≤ low ∧ low ≤ 1) .lowPrioQuantum
      check (0 ≤ high ∧ high ≤ 1) .highPrioQuantum
      check (∀ ps ∈ s, ps.canSend = true → 0 < ps.wantToSendBytes) .wantToSend
      return s.map (addDeficit cfg s prio flow)

/-! ## `select_msg_to_send` -/

/-- The loop over the receivers, with the highest deficit so far and its receiver. -/
def findHighest : Rat → Option Nat → List PolicyState → Except SchedFailure (Rat × Option Nat)
  | highest, best, [] => .ok (highest, best)
  | highest, best, ps :: rest =>
    if ps.canSend then
      if highest < ps.deficit then do
        check (leastQuantum ≤ ps.deficit) .smallDeficit
        check (leastQuantum ≤ ps.quantum) .smallQuantum
        findHighest ps.deficit (some ps.rcverAddr) rest
      else findHighest highest best rest
    else do
      check (ps.deficit < leastQuantum) .idleDeficit
      findHighest highest best rest

/-- The recursion, for as many calls as `fuel` says. -/
def selectMsgToSend : Nat → List PolicyState →
    Except SchedFailure (Option Nat × List PolicyState)
  | 0, _ => .error .outOfFuel
  | fuel + 1, s => do
    let (highestDeficit, best) ← findHighest (-1) none s
    match best with
    | none => return (none, s)
    | some addr =>
      if highestDeficit < 1 then
        check (∀ ps ∈ s, ps.canSend = true → leastQuantum ≤ ps.quantum) .smallQuantum
        selectMsgToSend fuel (s.map PolicyState.topUp)
      else
        let s := s.map (·.charge addr)
        check (∀ ps ∈ s, ps.rcverAddr = addr → ps.deficit ≤ 10) .largeDeficit
        return (some addr, s)

/-- What `send_data` does to find the receiver of its next packet. -/
def pollReceivers (cfg : SenderConfig) (rcvers : Nat → ReceiverState) (s : List PolicyState) :
    Except SchedFailure (Option Nat × List PolicyState) := do
  if s = [] then return (none, s)
  else
    let s ← updatePolicyState cfg rcvers s
    selectMsgToSend (s.length + 1) s

/-! ## Runs -/

/-- A receiver is added, wherever the map puts it, or `send_data` looks for a receiver. What there
is to send, and the credit for it, may be anything then. -/
inductive SchedEvent where
  | onCreate (daddr : Nat) (states : List PolicyState)
  | poll (rcvers : Nat → ReceiverState)

def schedStep (cfg : SenderConfig) (s : List PolicyState) : SchedEvent → Option (List PolicyState)
  | .onCreate daddr states =>
    if (∀ ps ∈ s, ps.rcverAddr ≠ daddr) ∧ states.Perm ({ rcverAddr := daddr } :: s) then
      some states
    else none
  | .poll rcvers => (pollReceivers cfg rcvers s).toOption.map Prod.snd

def schedMachine (cfg : SenderConfig) : Machine (List PolicyState) SchedEvent where
  init := []
  step := schedStep cfg

end Dpdq.Ns2
