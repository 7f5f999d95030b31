import Dpdq.Lib.Hysteresis
import Dpdq.Ns3.PhantomDrain
import Dpdq.Ns3.CbMmuSync

/-!
# The flow control state of a switch port

`UpdateCBPortStateOnTransmit` compares the queues of a port with the thresholds before it charges the
phantom queue for the packet, gives back revoked credit and drains the queue for the time that has
passed. The reference of a port does these three first, in exact arithmetic and with the drain in
front, and has a hysteresis look at what comes out.

* `SwitchNode.transmit_flow`, `SwitchNode.sendToDev_flow`: what a step does to a port.
* `port_follows_reference`: the runs in which the state of the port is that of its reference.
* `drainedPort_stays_paused`: a run in which the port stays paused on an empty phantom queue.
-/

namespace Dpdq.Ns3

open Function
open Dpdq.Lib

/-! ## The reference of a port -/

namespace Packet

/-- A bounced credit on its way back, at a switch that did not bounce it itself. -/
def returnsCredit (p : Packet) : Bool := p.isBouncedCreditPacket && !p.justBounced

/-- The bytes that the phantom queue takes in for a packet. -/
def phantomCharge (p : Packet) : Nat :=
  if p.returnsCredit || p.isUnscheduledDataPacket || p.isCreditGrantPacket || p.isSignalPacket then
    p.size
  else 0

def revokedCredit (p : Packet) : Nat :=
  if p.returnsCredit then (SwitchNode.grantCredit p).toNat else 0

end Packet

/-- The phantom queue and the state that a port should have, and the time of its last transmission. -/
structure PortRef where
  paused : Bool := false
  qp : Nat := 0
  last : Option Nat := none
deriving DecidableEq, Repr

namespace PortRef

/-- The time since the last transmission. -/
def elapsed (r : PortRef) (now : Nat) : Nat := r.last.elim 0 fun last => now - last

/-- The phantom queue brought up to date for a packet. -/
def upToDate (r : PortRef) (rate now : Nat) (p : Packet) : Nat :=
  r.qp - sentBytes (r.elapsed now) rate + p.phantomCharge - p.revokedCredit

/-- A transmission, with the bytes that are queued. -/
def transmit (r : PortRef) (xon xoff rate queued now : Nat) (p : Packet) : PortRef where
  paused := hysteresis xon xoff (max queued (r.upToDate rate now p)) r.paused
  qp := r.upToDate rate now p
  last := some now

def reserve (r : PortRef) (credit : Nat) : PortRef := { r with qp := r.qp + credit }

/-- The old and the new phantom queue lie on the same side of the threshold that the state looks at,
the order of drain and charge does not matter, and nothing wraps around. -/
structure Follows (r : PortRef) (xon xoff rate queued now : Nat) (p : Packet) : Prop where
  side : SameSide xon xoff (max queued r.qp) (max queued (r.upToDate rate now p)) r.paused
  order : sentBytes (r.elapsed now) rate ≤ r.qp ∨ p.phantomCharge ≤ p.revokedCredit
  stamp : r.last = some 0 → r.elapsed now * rate < 8000000000
  product : r.elapsed now * rate < 2 ^ 64
  room : r.qp + p.size < 2 ^ 64

instance (r : PortRef) (xon xoff rate queued now : Nat) (p : Packet) :
    Decidable (r.Follows xon xoff rate queued now p) :=
  decidable_of_iff
    (SameSide xon xoff (max queued r.qp) (max queued (r.upToDate rate now p)) r.paused ∧
      (sentBytes (r.elapsed now) rate ≤ r.qp ∨ p.phantomCharge ≤ p.revokedCredit) ∧
      (r.last = some 0 → r.elapsed now * rate < 8000000000) ∧
      r.elapsed now * rate < 2 ^ 64 ∧ r.qp + p.size < 2 ^ 64)
    ⟨fun ⟨hSide, hOrder, hStamp, hProduct, hRoom⟩ => ⟨hSide, hOrder, hStamp, hProduct, hRoom⟩,
      fun h => ⟨h.side, h.order, h.stamp, h.product, h.room⟩⟩

end PortRef

/-! ## A switch and the reference of one of its ports -/

structure WatchedPort where
  run : SwitchRun
  ref : PortRef := {}

namespace SwitchNode

/-- The credit that `SendToDev` reserves on a port for a packet. -/
def reservedOn (cfg : SwitchConfig) (s : SwitchNode) (o : PortIdx) (env : Ambient) (p : Packet)
    (inDevHint : Nat) : Nat :=
  match getOutDev cfg s env p with
  | none => 0
  | some idx =>
    if 0 ≤ idx ∧ s.bounces cfg inDevHint idx.toNat p = some false ∧
        cfg.cbEnable = true ∧ p.isCreditGrantPacket = true ∧ portIdx inDevHint = some o then
      (grantCredit p).toNat
    else 0

/-- The bytes queued at a port when a packet has left it. -/
def queuedBehind (cfg : TransmitConfig) (s : SwitchNode) (o : PortIdx) (qIndex : QueueIdx)
    (p : Packet) : Option Nat :=
  (s.release cfg (arrivalDev p o) o qIndex p).map fun t => (t.queuedLen cfg o).toNat

end SwitchNode

namespace WatchedPort

variable (cfg : TransmitConfig) (o : PortIdx) (rate : Nat)

/-- The packet that leaves the port, and the bytes queued behind it. -/
def transmitted (w : WatchedPort) (qIndex : QueueIdx) : Option (Packet × Nat) := do
  let e ← (w.run.queues o).find? fun e => e.1 = qIndex
  let queued ← w.run.node.queuedBehind cfg o qIndex e.2
  return (e.2, queued)

/-- What an event is to the reference. -/
def follow (w : WatchedPort) : SwitchEvent → PortRef
  | .sendToDev env p inDevHint =>
    w.ref.reserve (w.run.node.reservedOn cfg.toSwitchConfig o env p inDevHint)
  | .sendPfc _ _ => w.ref
  | .dequeue port qIndex nowNs =>
    if port = o then
      match w.transmitted cfg o qIndex with
      | none => w.ref
      | some (p, queued) =>
        w.ref.transmit cfg.xonBytes.toNat cfg.xoffBytes.toNat rate queued nowNs.toNat p
    else w.ref

def step (w : WatchedPort) (e : SwitchEvent) : Option WatchedPort :=
  (w.run.step cfg e).map fun run => { run, ref := w.follow cfg o rate e }

/-- The condition on a step. -/
def Follows (w : WatchedPort) : SwitchEvent → Prop
  | .sendToDev env p inDevHint =>
    w.ref.qp + w.run.node.reservedOn cfg.toSwitchConfig o env p inDevHint < 2 ^ 64
  | .sendPfc _ _ => True
  | .dequeue port qIndex nowNs =>
    port = o → ∀ p queued, w.transmitted cfg o qIndex = some (p, queued) →
      w.ref.Follows cfg.xonBytes.toNat cfg.xoffBytes.toNat rate queued nowNs.toNat p

instance (w : WatchedPort) (e : SwitchEvent) : Decidable (w.Follows cfg o rate e) :=
  match e with
  | .sendToDev _ _ _ => inferInstanceAs (Decidable (_ < _))
  | .sendPfc _ _ => inferInstanceAs (Decidable True)
  | .dequeue port qIndex nowNs =>
    match hSent : w.transmitted cfg o qIndex with
    | none => .isTrue fun _ p queued hOther => by rw [hSent] at hOther; cases hOther
    | some (p, queued) =>
      decidable_of_iff (port = o →
          w.ref.Follows cfg.xonBytes.toNat cfg.xoffBytes.toNat rate queued nowNs.toNat p)
        ⟨fun h hPort _ _ hOther => by
          obtain ⟨rfl, rfl⟩ := Prod.mk.inj (Option.some.inj (hSent.symm.trans hOther))
          exact h hPort,
        fun h hPort => h hPort p queued hSent⟩

end WatchedPort

/-- A switch with its routes and devices, and the reference of the port `o`. -/
def watchedSwitch (cfg : TransmitConfig) (o : PortIdx) (rate : Nat)
    (rtTable : Nat → Option (List Int)) (devices : List (Option NetDevice)) :
    Machine WatchedPort SwitchEvent where
  init := { run := (switchMachine cfg rtTable devices).init }
  step := WatchedPort.step cfg o rate

/-! ## Steps that leave the phantom queues alone -/

namespace SwitchNode

/-- The flow control state and the phantom queue of a port. -/
def flow (s : SwitchNode) (i : PortIdx) : CreditBouncerFcState × UInt64 :=
  ((s.portState i).fcState, (s.portState i).qpLenBytes)

structure SameFlow (s t : SwitchNode) : Prop where
  flow : t.flow = s.flow
  devices : t.devices = s.devices

namespace SameFlow

variable {s t u : SwitchNode}

theorem refl (s : SwitchNode) : SameFlow s s := ⟨rfl, rfl⟩

theorem trans (hFirst : SameFlow s t) (hSecond : SameFlow t u) : SameFlow s u :=
  ⟨hSecond.flow.trans hFirst.flow, hSecond.devices.trans hFirst.devices⟩

theorem modifyPort {i : PortIdx} {f : CreditBouncerPortState → CreditBouncerPortState}
    (hState : (f (s.portState i)).fcState = (s.portState i).fcState)
    (hQp : (f (s.portState i)).qpLenBytes = (s.portState i).qpLenBytes) :
    SameFlow s (s.modifyPort i f) := by
  refine ⟨?_, rfl⟩
  funext j
  unfold SwitchNode.flow SwitchNode.modifyPort
  dsimp only
  by_cases hSame : j = i
  · rw [hSame, update_self, hState, hQp]
  · rw [update_of_ne hSame]

end SameFlow

section Send

variable {cfg : SwitchConfig} {s : SwitchNode} {p : Packet}

theorem enqueue_sameFlow {inDev forwardIdx qIndex : Nat} {pfc : List (QueueIdx × PfcType)}
    {r : Verdict × SwitchNode} (h : enqueue cfg s p inDev forwardIdx qIndex pfc = some r) :
    SameFlow s r.2 := by
  unfold enqueue at h
  obtain ⟨i, hIn, h⟩ := Option.bind_eq_some_iff.mp h
  obtain ⟨o, hOut, h⟩ := Option.bind_eq_some_iff.mp h
  obtain ⟨q, hQueue, h⟩ := Option.bind_eq_some_iff.mp h
  obtain ⟨device, hDevice, h⟩ := Option.bind_eq_some_iff.mp h
  obtain rfl := Option.some.inj h
  have hData : SameFlow s (if cfg.cbEnable && p.isDataPacket then s.addQd o p.size else s) := by
    split
    · exact .modifyPort rfl rfl
    · exact .refl s
  exact ⟨hData.flow, hData.devices⟩

theorem forward_sameFlow {inDevHint forwardIdx : Nat} {r : Verdict × SwitchNode}
    (h : (cfg.dedicatedMmuEnable = true ∧
        s.forwardDedicated cfg p (admissionDev p inDevHint) forwardIdx = some r) ∨
      (cfg.dedicatedMmuEnable = false ∧ ∃ drop,
        s.forwardShared cfg p drop (admissionDev p inDevHint) forwardIdx = some r)) :
    SameFlow s r.2 := by
  rcases h with ⟨-, hForward⟩ | ⟨-, drop, hForward⟩
  · rcases forwardDedicated_cases hForward with rfl | ⟨m, -, hEnqueue⟩
    · exact ⟨rfl, rfl⟩
    · have hSame := enqueue_sameFlow hEnqueue
      exact ⟨hSame.flow, hSame.devices⟩
  · rcases forwardShared_cases hForward with rfl | ⟨m, pfc, frames, hEnqueue⟩
    · exact .refl s
    · have hSame := enqueue_sameFlow hEnqueue
      exact ⟨hSame.flow, hSame.devices⟩

theorem flow_addQp (s : SwitchNode) (i o : PortIdx) (credit : UInt64) :
    (s.addQp i credit).flow o =
      ((s.flow o).1, (s.flow o).2 + if i = o then credit else 0) := by
  unfold flow addQp modifyPort
  dsimp only
  by_cases hSame : o = i
  · rw [hSame, update_self, if_pos rfl]
  · rw [update_of_ne hSame, if_neg (Ne.symm hSame), UInt64.add_zero]

/-- A packet that is not bounced reserves its credit on the port that it came in by. -/
theorem reserveGrantCredit_flow (s : SwitchNode) (o : PortIdx) (inDevHint : Nat) (p : Packet) :
    (s.reserveGrantCredit cfg inDevHint p).flow o = ((s.flow o).1, (s.flow o).2 +
      if cfg.cbEnable = true ∧ p.isCreditGrantPacket = true ∧ portIdx inDevHint = some o then
        grantCredit p
      else 0) := by
  unfold reserveGrantCredit
  by_cases hGrant : cfg.cbEnable = true ∧ p.isCreditGrantPacket = true
  · rw [if_pos (by simp [hGrant])]
    cases hPort : portIdx inDevHint with
    | none => simp
    | some i =>
      dsimp only
      rw [flow_addQp]
      simp [hGrant]
  · rw [if_neg (by simpa using hGrant), if_neg (fun hAll => hGrant ⟨hAll.1, hAll.2.1⟩),
      UInt64.add_zero]

/-- What `SendToDev` does to a port. -/
theorem sendToDev_flow {env : Ambient} {inDevHint : Nat} {r : Verdict × SwitchNode} (o : PortIdx)
    (h : s.sendToDev cfg env p inDevHint = some r) :
    r.2.devices = s.devices ∧ r.2.flow o = ((s.flow o).1, (s.flow o).2 +
      UInt64.ofNat (s.reservedOn cfg o env p inDevHint)) := by
  unfold reservedOn
  rcases sendToDev_cases h with ⟨rfl, idx, hOut, hNegative⟩ |
    ⟨idx, t, p', forwardIdx, hOut, hRoute, hBounce, hMode⟩
  · rw [hOut]
    dsimp only
    rw [if_neg fun hAll => absurd hAll.1 (not_le.mpr hNegative)]
    exact ⟨rfl, by simp⟩
  have hForward := forward_sameFlow hMode
  rw [hOut, hForward.devices, hForward.flow]
  dsimp only
  rcases bounceOrReserve_cases hBounce with ⟨hBounces, rfl, -⟩ | ⟨hBounces, rfl, -⟩
  · rw [if_neg fun hAll => ?_]
    · exact ⟨rfl, by simp⟩
    · rw [hBounces] at hAll
      cases hAll.2.1
  · rw [reserveGrantCredit_flow, (reserveGrantCredit_sameQueues inDevHint).devices]
    refine ⟨rfl, ?_⟩
    simp only [hRoute, hBounces, true_and]
    split
    · simp
    · simp

end Send

section Release

variable {cfg : TransmitConfig} {s s' : SwitchNode} {p : Packet} {inDev ifIndex : PortIdx}
  {qIndex : QueueIdx}

theorem releaseQd_sameFlow : SameFlow s (s.releaseQd cfg ifIndex p) := by
  unfold releaseQd
  split
  · exact .modifyPort rfl rfl
  · exact .refl s

theorem checkAndSendResume_sameFlow (h : s.checkAndSendResume cfg inDev qIndex = some s') :
    SameFlow s s' := by
  unfold checkAndSendResume at h
  split at h
  · obtain ⟨device, hDevice, h⟩ := Option.bind_eq_some_iff.mp h
    obtain rfl := Option.some.inj h
    exact ⟨rfl, rfl⟩
  · obtain rfl := Option.some.inj h
    exact .refl s

theorem release_sameFlow (h : s.release cfg inDev ifIndex qIndex p = some s') :
    SameFlow s s' := by
  unfold release at h
  split at h
  · obtain rfl := Option.some.inj h
    unfold releaseDedicated
    dsimp only
    split
    · exact ⟨rfl, rfl⟩
    · refine SameFlow.trans ?_ releaseQd_sameFlow
      exact ⟨rfl, rfl⟩
  split at h
  · unfold releaseShared at h
    obtain ⟨m, hIngress, h⟩ := Option.bind_eq_some_iff.mp h
    obtain ⟨m', hEgress, h⟩ := Option.bind_eq_some_iff.mp h
    dsimp only at h
    refine SameFlow.trans ?_ (checkAndSendResume_sameFlow h)
    refine SameFlow.trans ?_ releaseQd_sameFlow
    exact ⟨rfl, rfl⟩
  · obtain rfl := Option.some.inj h
    exact .refl s

end Release

/-! ## A transmission -/

section Transmit

variable {cfg : TransmitConfig} {s s' : SwitchNode} {p : Packet} {outDev : PortIdx}

/-- The phantom queue with the packet, before it drains. -/
def chargedQp (p : Packet) (qp : UInt64) : UInt64 :=
  let qp := if p.returnsCredit then drainU64 (qp + UInt64.ofNat p.size) (grantCredit p) else qp
  if p.isUnscheduledDataPacket || p.isCreditGrantPacket || p.isSignalPacket then
    qp + UInt64.ofNat p.size
  else qp

theorem flow_modifyPort_self (s : SwitchNode) (i : PortIdx)
    (f : CreditBouncerPortState → CreditBouncerPortState) :
    (s.modifyPort i f).flow i = ((f (s.portState i)).fcState, (f (s.portState i)).qpLenBytes) := by
  unfold flow modifyPort
  dsimp only
  rw [update_self]

theorem flow_modifyPort_of_ne (s : SwitchNode) {i j : PortIdx} (hNe : j ≠ i)
    (f : CreditBouncerPortState → CreditBouncerPortState) :
    (s.modifyPort i f).flow j = s.flow j := by
  unfold flow modifyPort
  dsimp only
  rw [update_of_ne hNe]

theorem updateFcState_flow (hFc : cfg.cbEnable = true ∧ cfg.fcEnable = true)
    (hFixed : (cfg.dynamicThreshold && cfg.dedicatedMmuEnable) = false) :
    (s.updateFcState cfg outDev).flow outDev =
      (nextFcState cfg.xonBytes cfg.xoffBytes (s.compareLen cfg outDev) (s.flow outDev).1,
        (s.flow outDev).2) := by
  unfold updateFcState thresholds
  rw [if_pos (by simp [hFc])]
  dsimp only
  rw [if_neg (by simp [hFixed]), flow_modifyPort_self]
  rfl

/-- The switch before the drain. -/
def charged (cfg : TransmitConfig) (s : SwitchNode) (outDev : PortIdx) (p : Packet) : SwitchNode :=
  ((s.updateFcState cfg outDev).returnBouncedCredit cfg outDev p).phantomEnqueue outDev p

theorem devices_charged : (s.charged cfg outDev p).devices = s.devices := by
  have hUpdate := (@updateFcState_sameQueues cfg s outDev).devices
  have hReturn := (@returnBouncedCredit_sameQueues cfg (s.updateFcState cfg outDev) p outDev).devices
  have hEnqueue := (@phantomEnqueue_sameQueues
    ((s.updateFcState cfg outDev).returnBouncedCredit cfg outDev p) p outDev).devices
  exact hEnqueue.trans (hReturn.trans hUpdate)

theorem charged_flow (hFc : cfg.cbEnable = true ∧ cfg.fcEnable = true)
    (hFixed : (cfg.dynamicThreshold && cfg.dedicatedMmuEnable) = false) :
    (s.charged cfg outDev p).flow outDev =
      (nextFcState cfg.xonBytes cfg.xoffBytes (s.compareLen cfg outDev) (s.flow outDev).1,
        chargedQp p (s.flow outDev).2) := by
  have hUpdate := @updateFcState_flow cfg s outDev hFc hFixed
  have hReturn : ((s.updateFcState cfg outDev).returnBouncedCredit cfg outDev p).flow outDev =
      (nextFcState cfg.xonBytes cfg.xoffBytes (s.compareLen cfg outDev) (s.flow outDev).1,
        if p.returnsCredit then
          drainU64 ((s.flow outDev).2 + UInt64.ofNat p.size) (grantCredit p)
        else (s.flow outDev).2) := by
    obtain ⟨hState, hQp⟩ := Prod.mk.inj hUpdate
    unfold returnBouncedCredit Packet.returnsCredit
    simp only [hFc, Bool.true_and]
    split
    · rw [flow_modifyPort_self]
      exact Prod.ext hState (by rw [hQp])
    · exact hUpdate
  unfold charged phantomEnqueue chargedQp
  dsimp only
  split
  · rw [flow_addQp, hReturn, if_pos rfl]
  · exact hReturn

/-- Only the port of the packet is touched. -/
theorem charged_flow_of_ne {i : PortIdx} (hNe : i ≠ outDev) :
    (s.charged cfg outDev p).flow i = s.flow i := by
  have hUpdate : (s.updateFcState cfg outDev).flow i = s.flow i := by
    unfold updateFcState
    split
    · exact flow_modifyPort_of_ne s hNe _
    · rfl
  have hReturn : ((s.updateFcState cfg outDev).returnBouncedCredit cfg outDev p).flow i =
      s.flow i := by
    unfold returnBouncedCredit
    split
    · rw [flow_modifyPort_of_ne _ hNe, hUpdate]
    · exact hUpdate
  unfold charged phantomEnqueue
  split
  · rw [flow_addQp, if_neg (Ne.symm hNe), UInt64.add_zero]
    exact hReturn
  · exact hReturn

theorem phantomDrain_flow_of_ne {last nowNs : UInt64} {i : PortIdx} (hNe : i ≠ outDev)
    (h : s.phantomDrain outDev last nowNs = some s') : s'.flow i = s.flow i := by
  unfold phantomDrain at h
  split at h
  · obtain ⟨device, hDevice, h⟩ := Option.bind_eq_some_iff.mp h
    cases device with
    | none =>
      obtain rfl := Option.some.inj h
      rfl
    | some dev =>
      obtain rfl := Option.some.inj h
      exact flow_modifyPort_of_ne s hNe _
  · obtain rfl := Option.some.inj h
    rfl

variable {last last' : PortIdx → UInt64} {nowNs : UInt64}

/-- What `UpdateCBPortStateOnTransmit` does to its port, with fixed thresholds. -/
theorem transmit_flow {rate : UInt64} (hFc : cfg.cbEnable = true ∧ cfg.fcEnable = true)
    (hFixed : (cfg.dynamicThreshold && cfg.dedicatedMmuEnable) = false)
    (hDevice : s.devices[outDev.val]? = some (some ⟨rate.toNat⟩))
    (h : s.updateCBPortStateOnTransmit cfg last outDev p nowNs = some (s', last')) :
    last' = update last outDev nowNs ∧ s'.flow outDev =
      (nextFcState cfg.xonBytes cfg.xoffBytes (s.compareLen cfg outDev) (s.flow outDev).1,
        drainU64 (chargedQp p (s.flow outDev).2) (drainedBytes (last outDev) nowNs rate)) := by
  unfold updateCBPortStateOnTransmit at h
  rw [if_pos (by simp [hFc])] at h
  obtain ⟨t, hDrain, h⟩ := Option.bind_eq_some_iff.mp h
  obtain ⟨rfl, rfl⟩ := Prod.mk.inj (Option.some.inj h)
  have hBefore : (s.charged cfg outDev p).devices[outDev.val]? = some (some ⟨rate.toNat⟩) := by
    rw [devices_charged, hDevice]
  have hDrained :=
    (@phantomDrain_eq _ outDev (last outDev) nowNs rate hBefore).symm.trans hDrain
  refine ⟨rfl, ?_⟩
  obtain ⟨hState, hQp⟩ := Prod.mk.inj (@charged_flow cfg s p outDev hFc hFixed)
  rw [← Option.some.inj hDrained, flow_modifyPort_self]
  exact Prod.ext hState (by rw [hQp])

theorem transmit_flow_of_ne {i : PortIdx} (hNe : i ≠ outDev)
    (h : s.updateCBPortStateOnTransmit cfg last outDev p nowNs = some (s', last')) :
    last' i = last i ∧ s'.flow i = s.flow i := by
  unfold updateCBPortStateOnTransmit at h
  split at h
  · obtain ⟨t, hDrain, h⟩ := Option.bind_eq_some_iff.mp h
    obtain ⟨rfl, rfl⟩ := Prod.mk.inj (Option.some.inj h)
    refine ⟨update_of_ne hNe _ _, ?_⟩
    rw [phantomDrain_flow_of_ne hNe hDrain]
    exact charged_flow_of_ne hNe
  · obtain ⟨rfl, rfl⟩ := Prod.mk.inj (Option.some.inj h)
    exact ⟨rfl, rfl⟩

/-- What `SwitchNotifyDequeue` does to the port that a packet leaves by, and to the others. -/
theorem notifyDequeue_flow {rate : UInt64} {qIndex : QueueIdx}
    (hFc : cfg.cbEnable = true ∧ cfg.fcEnable = true)
    (hFixed : (cfg.dynamicThreshold && cfg.dedicatedMmuEnable) = false)
    (hDevice : s.devices[outDev.val]? = some (some ⟨rate.toNat⟩))
    (h : s.switchNotifyDequeue cfg last outDev qIndex p nowNs = some (s', last')) :
    ∃ t, s.release cfg (arrivalDev p outDev) outDev qIndex p = some t ∧
      last' = update last outDev nowNs ∧ s'.flow outDev =
        (nextFcState cfg.xonBytes cfg.xoffBytes
            (max (t.queuedLen cfg outDev) (s.flow outDev).2) (s.flow outDev).1,
          drainU64 (chargedQp p (s.flow outDev).2) (drainedBytes (last outDev) nowNs rate)) := by
  unfold switchNotifyDequeue at h
  obtain ⟨t, hRelease, h⟩ := Option.bind_eq_some_iff.mp h
  obtain ⟨⟨t', last''⟩, hTransmit, h⟩ := Option.bind_eq_some_iff.mp h
  obtain ⟨rfl, rfl⟩ := Prod.mk.inj (Option.some.inj h)
  have hSame := release_sameFlow hRelease
  obtain ⟨hLast, hFlow⟩ := transmit_flow hFc hFixed (by rw [hSame.devices, hDevice]) hTransmit
  refine ⟨t, hRelease, hLast, ?_⟩
  rw [← hSame.flow]
  exact hFlow

theorem notifyDequeue_flow_of_ne {qIndex : QueueIdx} {i : PortIdx} (hNe : i ≠ outDev)
    (h : s.switchNotifyDequeue cfg last outDev qIndex p nowNs = some (s', last')) :
    last' i = last i ∧ s'.flow i = s.flow i := by
  unfold switchNotifyDequeue at h
  obtain ⟨t, hRelease, h⟩ := Option.bind_eq_some_iff.mp h
  obtain ⟨⟨t', last''⟩, hTransmit, h⟩ := Option.bind_eq_some_iff.mp h
  obtain ⟨rfl, rfl⟩ := Prod.mk.inj (Option.some.inj h)
  obtain ⟨hLast, hFlow⟩ := transmit_flow_of_ne hNe hTransmit
  refine ⟨hLast, ?_⟩
  rw [← (release_sameFlow hRelease).flow]
  exact hFlow

theorem notifyDequeue_devices {qIndex : QueueIdx}
    (h : s.switchNotifyDequeue cfg last outDev qIndex p nowNs = some (s', last')) :
    s'.devices = s.devices := by
  obtain ⟨t, hRelease, hSame⟩ := switchNotifyDequeue_cases h
  rw [hSame.devices, (release_sameFlow hRelease).devices]

end Transmit

end SwitchNode

/-! ## In natural numbers -/

section Words

variable {p : Packet}

/-- A bounced credit is none of the packets that the phantom queue takes in. -/
theorem Packet.returnsCredit_exclusive (h : p.returnsCredit = true) :
    (p.isUnscheduledDataPacket || p.isCreditGrantPacket || p.isSignalPacket) = false := by
  unfold Packet.returnsCredit Packet.isBouncedCreditPacket at h
  simp only [Bool.and_eq_true, decide_eq_true_eq] at h
  obtain ⟨⟨hControl, hType⟩, -⟩ := h
  unfold Packet.isCreditBouncerControlPacket at hControl
  simp only [decide_eq_true_eq] at hControl
  have hProt : p.ch.l3Prot = 0xFB := hControl.1
  unfold Packet.isUnscheduledDataPacket Packet.isCreditGrantPacket Packet.isSignalPacket
  unfold Packet.hasType at *
  cases hTag : p.cbTag with
  | none => simp [hTag] at hType
  | some tag =>
    have hBounced : tag.type = .bouncedCredit := by simpa [hTag] using hType
    simp [hProt, hBounced]

theorem SwitchNode.chargedQp_toNat {qp : UInt64} (hRoom : qp.toNat + p.size < 2 ^ 64) :
    (SwitchNode.chargedQp p qp).toNat = qp.toNat + p.phantomCharge - p.revokedCredit := by
  have hSum : (qp + UInt64.ofNat p.size).toNat = qp.toNat + p.size := by
    rw [UInt64.toNat_add, UInt64.toNat_ofNat_of_lt' (by show p.size < 2 ^ 64; omega),
      Nat.mod_eq_of_lt hRoom]
  unfold SwitchNode.chargedQp Packet.phantomCharge Packet.revokedCredit
  cases hReturns : p.returnsCredit with
  | true =>
    have hOther := Packet.returnsCredit_exclusive hReturns
    simp [hOther, drainU64_toNat, hSum]
  | false =>
    simp only [Bool.false_eq_true, if_false, Bool.false_or, Nat.sub_zero]
    split
    · exact hSum
    · rfl

/-- Draining before the charge or behind it makes no difference where one of the two cannot reach
0. -/
theorem drain_charge_comm {qp drained charge revoked : Nat}
    (hOrder : drained ≤ qp ∨ charge ≤ revoked) :
    qp + charge - revoked - drained = qp - drained + charge - revoked := by
  omega

/-- The state of a port as a flag. -/
def fcStateOf (paused : Bool) : CreditBouncerFcState := if paused then .pause else .normal

/-- The two tests are a hysteresis. -/
theorem nextFcState_eq {xon xoff len : UInt64} (hBand : xon ≤ xoff) (paused : Bool) :
    SwitchNode.nextFcState xon xoff len (fcStateOf paused) =
      fcStateOf (hysteresis xon.toNat xoff.toNat len.toNat paused) := by
  rw [hysteresis_eq_tests (UInt64.le_iff_toNat_le.mp hBand)]
  unfold SwitchNode.nextFcState fcStateOf
  simp only [gt_iff_lt, UInt64.lt_iff_toNat_lt]
  by_cases hClear : len.toNat < xon.toNat
  · cases paused with
    | false =>
      have hNot : ¬xoff.toNat < len.toNat := by
        have hLe := UInt64.le_iff_toNat_le.mp hBand
        omega
      simp [hClear, hNot]
    | true => simp [hClear]
  · cases paused with
    | false =>
      by_cases hSet : xoff.toNat < len.toNat
      · simp [hClear, hSet]
      · simp [hClear, hSet]
    | true => simp [hClear]

end Words

/-! ## The switch and its reference -/

namespace WatchedPort

variable {cfg : TransmitConfig} {o : PortIdx} {rate : UInt64} {w v : WatchedPort}

/-- The port is where its reference is. -/
structure Agrees (o : PortIdx) (rate : UInt64) (w : WatchedPort) : Prop where
  state : (w.run.node.flow o).1 = fcStateOf w.ref.paused
  qp : (w.run.node.flow o).2.toNat = w.ref.qp
  stamp : (w.run.lastUpdateTimeNs o).toNat = w.ref.last.getD 0
  device : w.run.node.devices[o.val]? = some (some ⟨rate.toNat⟩)

/-- The drained amount is exact. -/
theorem Agrees.drained (hAgrees : w.Agrees o rate) {nowNs : UInt64}
    (hStamp : w.ref.last = some 0 → w.ref.elapsed nowNs.toNat * rate.toNat < 8000000000)
    (hProduct : w.ref.elapsed nowNs.toNat * rate.toNat < 2 ^ 64) :
    (drainedBytes (w.run.lastUpdateTimeNs o) nowNs rate).toNat =
      sentBytes (w.ref.elapsed nowNs.toNat) rate.toNat := by
  have hLast := hAgrees.stamp
  cases hRef : w.ref.last with
  | none =>
    rw [hRef] at hLast
    have hZero : w.run.lastUpdateTimeNs o = 0 := UInt64.toNat_inj.mp hLast
    unfold drainedBytes PortRef.elapsed
    rw [hZero, hRef, if_neg (by simp)]
    simp [sentBytes]
  | some last =>
    rw [hRef, Option.getD_some] at hLast
    have hElapsed : w.ref.elapsed nowNs.toNat =
        nowNs.toNat - (w.run.lastUpdateTimeNs o).toNat := by
      unfold PortRef.elapsed
      rw [hRef, hLast]
      rfl
    rw [hElapsed] at hStamp hProduct ⊢
    rw [drainedBytes_toNat_eq_iff]
    by_cases hZero : w.run.lastUpdateTimeNs o = 0
    · refine Or.inr (hStamp ?_)
      rw [hRef, ← hLast, hZero]
      rfl
    · exact Or.inl ⟨hZero, hProduct⟩

theorem Agrees.congr (hAgrees : w.Agrees o rate) (hRef : v.ref = w.ref)
    (hFlow : v.run.node.flow o = w.run.node.flow o)
    (hLast : v.run.lastUpdateTimeNs o = w.run.lastUpdateTimeNs o)
    (hDevices : v.run.node.devices = w.run.node.devices) : v.Agrees o rate where
  state := by rw [hFlow, hRef]; exact hAgrees.state
  qp := by rw [hFlow, hRef]; exact hAgrees.qp
  stamp := by rw [hLast, hRef]; exact hAgrees.stamp
  device := by rw [hDevices]; exact hAgrees.device

theorem enqueue_last (s : SwitchRun) (port : PortIdx) (qIndex : QueueIdx) (p : Packet) :
    (s.enqueue port qIndex p).lastUpdateTimeNs = s.lastUpdateTimeNs := by
  unfold SwitchRun.enqueue
  split
  · rfl
  · rfl

theorem switchSend_last {s t : SwitchRun} {verdict : SwitchNode.Verdict}
    (h : s.switchSend verdict = some t) : t.lastUpdateTimeNs = s.lastUpdateTimeNs := by
  cases verdict with
  | noRoute =>
    obtain rfl := Option.some.inj h
    rfl
  | dropped =>
    obtain rfl := Option.some.inj h
    rfl
  | sent dev qIndex p pfc =>
    obtain ⟨port, hPort, h⟩ := Option.bind_eq_some_iff.mp h
    obtain ⟨q, hQueue, h⟩ := Option.bind_eq_some_iff.mp h
    obtain rfl := Option.some.inj h
    exact enqueue_last s port q p

/-- A transmission of the port. -/
theorem Agrees.transmit (hAgrees : w.Agrees o rate)
    (hFc : cfg.cbEnable = true ∧ cfg.fcEnable = true)
    (hFixed : (cfg.dynamicThreshold && cfg.dedicatedMmuEnable) = false)
    (hBand : cfg.xonBytes ≤ cfg.xoffBytes) {p : Packet} {qIndex : QueueIdx} {nowNs : UInt64}
    {node : SwitchNode} {last : PortIdx → UInt64}
    (h : w.run.node.switchNotifyDequeue cfg w.run.lastUpdateTimeNs o qIndex p nowNs =
      some (node, last)) :
    ∃ queued, w.run.node.queuedBehind cfg o qIndex p = some queued ∧
      (w.ref.Follows cfg.xonBytes.toNat cfg.xoffBytes.toNat rate.toNat queued nowNs.toNat p →
        Agrees o rate {
          run := { w.run with node, lastUpdateTimeNs := last }
          ref := w.ref.transmit cfg.xonBytes.toNat cfg.xoffBytes.toNat rate.toNat queued
            nowNs.toNat p }) := by
  obtain ⟨t, hRelease, hLast, hFlow⟩ :=
    SwitchNode.notifyDequeue_flow hFc hFixed hAgrees.device h
  refine ⟨(t.queuedLen cfg o).toNat, ?_, ?_⟩
  · unfold SwitchNode.queuedBehind
    rw [hRelease]
    rfl
  intro hFollows
  obtain ⟨hState, hQp⟩ := Prod.mk.inj hFlow
  have hDrained := hAgrees.drained hFollows.stamp hFollows.product
  have hUpToDate : (node.flow o).2.toNat = w.ref.upToDate rate.toNat nowNs.toNat p := by
    rw [hFlow]
    dsimp only
    rw [drainU64_toNat, hDrained,
      SwitchNode.chargedQp_toNat (by rw [hAgrees.qp]; exact hFollows.room), hAgrees.qp]
    exact drain_charge_comm hFollows.order
  refine ⟨?_, hUpToDate, ?_, ?_⟩
  · dsimp only
    rw [hFlow]
    dsimp only
    rw [hAgrees.state, nextFcState_eq hBand, toNat_max, hAgrees.qp]
    exact congrArg fcStateOf ((hysteresis_eq_iff (UInt64.le_iff_toNat_le.mp hBand) _).mpr
      hFollows.side)
  · dsimp only
    rw [hLast, update_self]
    rfl
  · dsimp only
    rw [SwitchNode.notifyDequeue_devices h]
    exact hAgrees.device

theorem Agrees.step (hAgrees : w.Agrees o rate) (hFc : cfg.cbEnable = true ∧ cfg.fcEnable = true)
    (hFixed : (cfg.dynamicThreshold && cfg.dedicatedMmuEnable) = false)
    (hBand : cfg.xonBytes ≤ cfg.xoffBytes) {e : SwitchEvent}
    (hFollows : w.Follows cfg o rate.toNat e) (h : w.step cfg o rate.toNat e = some v) :
    v.Agrees o rate := by
  obtain ⟨run, hRun, rfl⟩ := Option.map_eq_some_iff.mp h
  cases e with
  | sendToDev env p inDevHint =>
    obtain ⟨⟨verdict, node⟩, hSend, hRun⟩ := Option.bind_eq_some_iff.mp hRun
    obtain ⟨hDevices, hFlow⟩ := SwitchNode.sendToDev_flow o hSend
    have hRoom : w.ref.qp + w.run.node.reservedOn cfg.toSwitchConfig o env p inDevHint < 2 ^ 64 :=
      hFollows
    have hNode : run.node = node := SwitchRun.switchSend_node hRun
    have hLast := switchSend_last hRun
    refine ⟨?_, ?_, ?_, ?_⟩
    · dsimp only
      rw [hNode, hFlow]
      exact hAgrees.state
    · dsimp only
      rw [hNode, hFlow]
      dsimp only
      rw [UInt64.toNat_add, hAgrees.qp, UInt64.toNat_ofNat_of_lt' (by show _ < 2 ^ 64; omega),
        Nat.mod_eq_of_lt hRoom]
      rfl
    · dsimp only
      rw [hLast]
      exact hAgrees.stamp
    · dsimp only
      rw [hNode, hDevices]
      exact hAgrees.device
  | sendPfc port p =>
    obtain ⟨-, rfl⟩ := Machine.of_guarded hRun
    have hNode := SwitchRun.enqueue_node w.run port 0 p
    exact hAgrees.congr rfl (by rw [hNode]) (by rw [enqueue_last]) (by rw [hNode])
  | dequeue port qIndex nowNs =>
    obtain ⟨e, hFind, hRun⟩ := Option.bind_eq_some_iff.mp hRun
    obtain ⟨⟨node, last⟩, hNotify, hRun⟩ := Option.bind_eq_some_iff.mp hRun
    obtain rfl := Option.some.inj hRun
    unfold WatchedPort.follow
    by_cases hPort : port = o
    · subst hPort
      obtain ⟨queued, hQueued, hStep⟩ := hAgrees.transmit hFc hFixed hBand hNotify
      have hTransmitted : w.transmitted cfg port qIndex = some (e.2, queued) := by
        unfold WatchedPort.transmitted
        rw [hFind]
        simp [hQueued]
      have hNext := hStep (hFollows rfl e.2 queued hTransmitted)
      simp only [if_true, hTransmitted]
      exact ⟨hNext.state, hNext.qp, hNext.stamp, hNext.device⟩
    · obtain ⟨hLast, hFlow⟩ := SwitchNode.notifyDequeue_flow_of_ne (Ne.symm hPort) hNotify
      dsimp only
      rw [if_neg hPort]
      exact hAgrees.congr rfl hFlow hLast (SwitchNode.notifyDequeue_devices hNotify)

/-- The state of the port is that of its reference in every state of a run. -/
theorem agrees_of_run (hFc : cfg.cbEnable = true ∧ cfg.fcEnable = true)
    (hFixed : (cfg.dynamicThreshold && cfg.dedicatedMmuEnable) = false)
    (hBand : cfg.xonBytes ≤ cfg.xoffBytes) {rtTable : Nat → Option (List Int)}
    {devices : List (Option NetDevice)} (hDevice : devices[o.val]? = some (some ⟨rate.toNat⟩))
    {es : List SwitchEvent}
    (hGuard : (watchedSwitch cfg o rate.toNat rtTable devices).Guarded
      (WatchedPort.Follows cfg o rate.toNat)
      (watchedSwitch cfg o rate.toNat rtTable devices).init es)
    (hRun : (watchedSwitch cfg o rate.toNat rtTable devices).run
      (watchedSwitch cfg o rate.toNat rtTable devices).init es = some w) : w.Agrees o rate := by
  refine Machine.guarded_induction (I := fun u => Agrees o rate u) ⟨rfl, rfl, rfl, hDevice⟩ ?_
    hGuard hRun
  intro u e v hAgrees hFollows hStep
  exact hAgrees.step hFc hFixed hBand hFollows hStep

end WatchedPort

/-- With flow control on and fixed thresholds, the state of a port with a link follows its reference
along every run whose steps meet the condition. -/
theorem port_follows_reference (cfg : TransmitConfig) (o : PortIdx) (rate : UInt64)
    (hFc : cfg.cbEnable = true ∧ cfg.fcEnable = true)
    (hFixed : (cfg.dynamicThreshold && cfg.dedicatedMmuEnable) = false)
    (hBand : cfg.xonBytes ≤ cfg.xoffBytes) (rtTable : Nat → Option (List Int))
    (devices : List (Option NetDevice)) (hDevice : devices[o.val]? = some (some ⟨rate.toNat⟩))
    {es : List SwitchEvent} {w : WatchedPort}
    (hGuard : (watchedSwitch cfg o rate.toNat rtTable devices).Guarded
      (WatchedPort.Follows cfg o rate.toNat)
      (watchedSwitch cfg o rate.toNat rtTable devices).init es)
    (hRun : (watchedSwitch cfg o rate.toNat rtTable devices).run
      (watchedSwitch cfg o rate.toNat rtTable devices).init es = some w) :
    (w.run.node.portState o).fcState = fcStateOf w.ref.paused ∧
      (w.run.node.portState o).qpLenBytes.toNat = w.ref.qp := by
  have hAgrees := WatchedPort.agrees_of_run hFc hFixed hBand hDevice hGuard hRun
  exact ⟨hAgrees.state, hAgrees.qp⟩

/-- A port with a link of 1 Gbit/s on which a grant has reserved 30000 bytes, and the data that leaves
it, at the times `times`. -/
def pausedPort (times : List UInt64) : List SwitchEvent :=
  let grant : Packet :=
    { ch := { sip := 8, dip := 9, l3Prot := 0xFB, sport := 1, dport := 2, pg := 3, seq := 0 }
      size := 84
      cbTag := some { type := .grant, creditBytes := 30000 } }
  let data : Packet :=
    { ch := { sip := 9, dip := 8, l3Prot := 0x11, sport := 1, dport := 2, pg := 3, seq := 0 }
      size := 1000 }
  .sendToDev {} grant 1 ::
    times.flatMap fun now => [.sendToDev {} data 2, .dequeue 1 3 now]

def pausedSwitch : Machine WatchedPort SwitchEvent :=
  watchedSwitch sharedConfig 1 1000000000
    (fun dip => if dip = 9 then some [2] else if dip = 8 then some [1] else none)
    [none, some ⟨1000000000⟩, some ⟨1000000000⟩]

/-- The reservation pauses the port, and the reference as well. -/
theorem port_follows_reference_pause : ∃ w,
    pausedSwitch.run pausedSwitch.init (pausedPort [1000]) = some w ∧
      (w.run.node.portState 1).fcState = .pause ∧ w.ref.paused = true := by
  have hDefined : (pausedSwitch.run pausedSwitch.init (pausedPort [1000])).isSome = true := by
    decide +kernel
  obtain ⟨w, hRun⟩ := Option.isSome_iff_exists.mp hDefined
  have hPaused : ((pausedSwitch.run pausedSwitch.init (pausedPort [1000])).map
      fun w => w.ref.paused) = some true := by
    decide +kernel
  rw [hRun] at hPaused
  have hRef : w.ref.paused = true := Option.some.inj hPaused
  have hGuard : pausedSwitch.Guarded (WatchedPort.Follows sharedConfig 1 1000000000)
      pausedSwitch.init (pausedPort [1000]) := by
    decide +kernel
  have hState := (port_follows_reference sharedConfig 1 1000000000 ⟨rfl, rfl⟩ rfl (by decide) _ _
    rfl hGuard hRun).1
  rw [hRef] at hState
  exact ⟨w, hRun, hState, hRef⟩

/-- A second later the phantom queue has run empty, and the port that sends is still paused. -/
theorem drainedPort_stays_paused : ∃ w,
    pausedSwitch.run pausedSwitch.init (pausedPort [1000, 1000000000]) = some w ∧
      (w.run.node.portState 1).fcState = .pause ∧ (w.run.node.portState 1).qpLenBytes = 0 ∧
      w.ref.paused = false ∧ w.ref.qp = 0 := by
  have hRun : (pausedSwitch.run pausedSwitch.init (pausedPort [1000, 1000000000])).map
      (fun w => ((w.run.node.portState 1).fcState, (w.run.node.portState 1).qpLenBytes,
        w.ref.paused, w.ref.qp)) = some (.pause, 0, false, 0) := by
    decide +kernel
  obtain ⟨w, hWatched, hState⟩ := Option.map_eq_some_iff.mp hRun
  simp only [Prod.mk.injEq] at hState
  exact ⟨w, hWatched, hState⟩

end Dpdq.Ns3
