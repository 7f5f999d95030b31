import Dpdq.Ns3.QdLenBytes

/-!
# Synchronising the dedicated MMU

In dedicated mode `SendToDev` calls `SyncDedicatedCbMmuConfig` for every packet. Where the port
count of the MMU is not that of the devices, the call sets the MMU up again, with all its counters
at 0; the port count that it leaves is clamped to `pCnt - 1`.

* `Synced.beforeAdmission`: a switch that is synchronised stays set up as it is.
* `sync_counters_iff`: after a first call, the further calls that leave the counters alone.
-/

namespace Dpdq.Ns3

open Function
open Dpdq.Lib

namespace SwitchCbMmu

/-! ## The port count of the MMU -/

theorem setActivePortCnt_activePortCnt (m : SwitchCbMmu) (v : Nat) :
    (m.setActivePortCnt v).activePortCnt =
      if v = m.activePortCnt then m.activePortCnt else min v (pCnt - 1) := by
  unfold setActivePortCnt
  split <;> rfl

theorem setCreditQueueLimitBytes_activePortCnt (m : SwitchCbMmu) (v : Nat) :
    (m.setCreditQueueLimitBytes v).activePortCnt = m.activePortCnt := by
  unfold setCreditQueueLimitBytes
  split <;> rfl

theorem updateCreditAdmission_activePortCnt (m : SwitchCbMmu) (port psize : Nat) :
    (m.updateCreditAdmission port psize).activePortCnt = m.activePortCnt := by
  unfold updateCreditAdmission
  split <;> rfl

theorem removeCreditAdmission_activePortCnt (m : SwitchCbMmu) (port psize : Nat) :
    (m.removeCreditAdmission port psize).activePortCnt = m.activePortCnt := by
  unfold removeCreditAdmission
  split <;> rfl

theorem updateDataAdmission_activePortCnt (m : SwitchCbMmu) (port psize : Nat) :
    (m.updateDataAdmission port psize).activePortCnt = m.activePortCnt := by
  unfold updateDataAdmission
  split
  · rfl
  · split <;> rfl

theorem removeDataAdmission_activePortCnt (m : SwitchCbMmu) (port psize : Nat) :
    (m.removeDataAdmission port psize).activePortCnt = m.activePortCnt := by
  unfold removeDataAdmission
  split
  · rfl
  · split <;> rfl

end SwitchCbMmu

namespace SwitchNode

/-! ## Steps that leave the setup alone -/

/-- What decides about a synchronisation is the same in both states. -/
structure SameSetup (s t : SwitchNode) : Prop where
  devices : t.devices = s.devices
  activePortCnt : t.cbMmu.activePortCnt = s.cbMmu.activePortCnt

theorem SameSetup.refl (s : SwitchNode) : SameSetup s s := ⟨rfl, rfl⟩

theorem SameSetup.trans {s t u : SwitchNode} (hFirst : SameSetup s t) (hSecond : SameSetup t u) :
    SameSetup s u :=
  ⟨hSecond.devices.trans hFirst.devices, hSecond.activePortCnt.trans hFirst.activePortCnt⟩

theorem SameSetup.activePorts {s t : SwitchNode} (h : SameSetup s t) :
    t.activePorts = s.activePorts := by
  unfold SwitchNode.activePorts
  rw [h.devices]

theorem SameQueues.sameSetup {s t : SwitchNode} (h : SameQueues s t) : SameSetup s t :=
  ⟨h.devices, congrArg SwitchCbMmu.activePortCnt h.cbMmu⟩

/-- The MMU has the port count that a synchronisation sets. -/
def Synced (cfg : SwitchConfig) (s : SwitchNode) : Prop :=
  cfg.dedicatedMmuEnable = true → s.cbMmu.activePortCnt = min s.activePorts (pCnt - 1)

theorem Synced.of_sameSetup {cfg : SwitchConfig} {s t : SwitchNode} (hSynced : Synced cfg s)
    (h : SameSetup s t) : Synced cfg t := by
  intro hMode
  rw [h.activePortCnt, h.activePorts]
  exact hSynced hMode

section Sync

variable {cfg : SwitchConfig} {s s' : SwitchNode} {p : Packet}

theorem syncDedicatedCbMmuConfig_activePortCnt :
    (s.syncDedicatedCbMmuConfig cfg).cbMmu.activePortCnt =
      if s.cbMmu.activePortCnt = s.activePorts then s.activePorts
      else min s.activePorts (pCnt - 1) := by
  unfold syncDedicatedCbMmuConfig
  dsimp only
  rw [SwitchCbMmu.setCreditQueueLimitBytes_activePortCnt]
  by_cases hSame : s.cbMmu.activePortCnt = s.activePorts
  · rw [if_neg (not_not.mpr hSame), if_pos hSame, hSame]
  · rw [if_pos hSame, if_neg hSame, SwitchCbMmu.setActivePortCnt_activePortCnt,
      if_neg (Ne.symm hSame)]

/-- One call synchronises: `SetActivePortCnt` never leaves a count beyond the arrays. -/
theorem beforeAdmission_synced (hClamped : s.cbMmu.activePortCnt < pCnt) :
    Synced cfg (s.beforeAdmission cfg) := by
  intro hMode
  have hPorts : (s.syncDedicatedCbMmuConfig cfg).activePorts = s.activePorts := rfl
  unfold beforeAdmission
  rw [if_pos hMode, hPorts, syncDedicatedCbMmuConfig_activePortCnt]
  split
  · omega
  · rfl

/-- Once it is synchronised, the MMU keeps its port count, whether it is set up again or not. -/
theorem Synced.beforeAdmission (hSynced : Synced cfg s) :
    SameSetup s (s.beforeAdmission cfg) := by
  unfold SwitchNode.beforeAdmission
  split
  · rename_i hMode
    refine ⟨rfl, ?_⟩
    rw [syncDedicatedCbMmuConfig_activePortCnt, hSynced hMode]
    split
    · rename_i hSame
      exact hSame.symm
    · rfl
  · exact .refl s

/-! ### `SendToDev` -/

theorem enqueue_sameSetup {inDev forwardIdx qIndex : Nat} {pfc : List (QueueIdx × PfcType)}
    {r : Verdict × SwitchNode} (h : enqueue cfg s p inDev forwardIdx qIndex pfc = some r) :
    SameSetup s r.2 := by
  obtain ⟨o, -, -, hMmu, hDevices, -⟩ := enqueue_eq_some h
  exact ⟨hDevices, congrArg SwitchCbMmu.activePortCnt hMmu⟩

theorem admitDedicated_activePortCnt {m m' : SwitchCbMmu} {forwardIdx qIndex psize : Nat}
    (h : admitDedicated m forwardIdx qIndex psize = some m') :
    m'.activePortCnt = m.activePortCnt := by
  unfold admitDedicated at h
  split at h
  · split at h
    · obtain rfl := Option.some.inj h
      exact SwitchCbMmu.updateCreditAdmission_activePortCnt m forwardIdx psize
    · cases h
  · split at h
    · obtain rfl := Option.some.inj h
      exact SwitchCbMmu.updateDataAdmission_activePortCnt m forwardIdx psize
    · cases h

theorem forwardDedicated_sameSetup {inDev forwardIdx : Nat} {r : Verdict × SwitchNode}
    (hMode : cfg.dedicatedMmuEnable = true) (hSynced : Synced cfg s)
    (h : s.forwardDedicated cfg p inDev forwardIdx = some r) : SameSetup s r.2 := by
  have hSync := hSynced.beforeAdmission
  unfold beforeAdmission at hSync
  rw [if_pos hMode] at hSync
  rcases forwardDedicated_cases h with rfl | ⟨m, hAdmit, hEnqueue⟩
  · exact hSync
  · have hCount := admitDedicated_activePortCnt hAdmit
    have hSame := enqueue_sameSetup hEnqueue
    exact hSync.trans ⟨hSame.devices, hSame.activePortCnt.trans hCount⟩

theorem sendToDev_sameSetup {env : Ambient} {inDevHint : Nat} {r : Verdict × SwitchNode}
    (hSynced : Synced cfg s) (h : s.sendToDev cfg env p inDevHint = some r) :
    SameSetup s r.2 := by
  rcases sendToDev_cases h with ⟨rfl, -⟩ | ⟨idx, t, p', forwardIdx, -, -, hBounce, hMode⟩
  · exact .refl s
  have hEarly := (bounceOrReserve_sameQueues hBounce).sameSetup
  refine hEarly.trans ?_
  rcases hMode with ⟨hDedicated, hForward⟩ | ⟨-, drop, hForward⟩
  · exact forwardDedicated_sameSetup hDedicated (hSynced.of_sameSetup hEarly) hForward
  · rcases forwardShared_cases hForward with rfl | ⟨m, pfc, frames, hEnqueue⟩
    · exact .refl t
    · have hSame := enqueue_sameSetup hEnqueue
      exact ⟨hSame.devices, hSame.activePortCnt⟩

end Sync

/-! ### `SwitchNotifyDequeue` -/

section Release

variable {cfg : TransmitConfig} {s s' : SwitchNode} {p : Packet} {inDev ifIndex : PortIdx}
  {qIndex : QueueIdx}

theorem releaseQd_sameSetup : SameSetup s (s.releaseQd cfg ifIndex p) :=
  ⟨devices_releaseQd, congrArg SwitchCbMmu.activePortCnt cbMmu_releaseQd⟩

theorem releaseDedicated_sameSetup :
    SameSetup s (s.releaseDedicated cfg inDev ifIndex qIndex p) := by
  unfold releaseDedicated
  dsimp only
  split
  · exact ⟨rfl, SwitchCbMmu.removeCreditAdmission_activePortCnt s.cbMmu ifIndex p.size⟩
  · refine SameSetup.trans ?_ releaseQd_sameSetup
    exact ⟨rfl, SwitchCbMmu.removeDataAdmission_activePortCnt s.cbMmu ifIndex p.size⟩

theorem switchNotifyDequeue_sameSetup {last last' : PortIdx → UInt64} {nowNs : UInt64}
    (h : s.switchNotifyDequeue cfg last ifIndex qIndex p nowNs = some (s', last')) :
    SameSetup s s' := by
  obtain ⟨t, hRelease, hSame⟩ := switchNotifyDequeue_cases h
  refine SameSetup.trans ?_ hSame.sameSetup
  rcases release_cases hRelease with rfl | ⟨-, u, hBefore, hBehind⟩ | ⟨-, rfl⟩
  · exact releaseDedicated_sameSetup
  · exact (hBefore.sameSetup.trans releaseQd_sameSetup).trans hBehind.sameSetup
  · exact .refl t

end Release

end SwitchNode

/-! ## Runs after a first synchronisation -/

namespace SwitchRun

variable {cfg : TransmitConfig} {s t : SwitchRun}

theorem enqueue_node (s : SwitchRun) (port : PortIdx) (qIndex : QueueIdx) (p : Packet) :
    (s.enqueue port qIndex p).node = s.node := by
  unfold enqueue
  split <;> rfl

theorem switchSend_node {v : SwitchNode.Verdict} (h : s.switchSend v = some t) :
    t.node = s.node := by
  cases v with
  | noRoute =>
    obtain rfl := Option.some.inj h
    rfl
  | dropped =>
    obtain rfl := Option.some.inj h
    rfl
  | sent dev qIndex p pfc =>
    obtain ⟨port, hPort, h⟩ := Option.bind_eq_some_iff.mp h
    obtain ⟨q, hQueue, h⟩ := Option.bind_eq_some_iff.mp h
    obtain rfl := Option.some.inj h
    exact enqueue_node s port q p

/-- The node of the first state of a run has made one call. -/
def syncedMachine (cfg : TransmitConfig) (s : SwitchRun) : Machine SwitchRun SwitchEvent where
  init := { s with node := s.node.beforeAdmission cfg.toSwitchConfig }
  step := SwitchRun.step cfg

theorem step_sameSetup {e : SwitchEvent} (hSynced : s.node.Synced cfg.toSwitchConfig)
    (h : s.step cfg e = some t) : s.node.SameSetup t.node := by
  cases e with
  | sendToDev env p inDevHint =>
    obtain ⟨⟨v, node⟩, hSend, h⟩ := Option.bind_eq_some_iff.mp h
    rw [switchSend_node h]
    exact SwitchNode.sendToDev_sameSetup hSynced hSend
  | sendPfc port p =>
    change (if p.ch.l3Prot = 0xFE then some (s.enqueue port 0 p) else none) = some t at h
    split at h
    · obtain rfl := Option.some.inj h
      rw [enqueue_node]
      exact .refl s.node
    · cases h
  | dequeue port qIndex nowNs =>
    obtain ⟨e, hFind, h⟩ := Option.bind_eq_some_iff.mp h
    obtain ⟨⟨node, last⟩, hNotify, h⟩ := Option.bind_eq_some_iff.mp h
    obtain rfl := Option.some.inj h
    exact SwitchNode.switchNotifyDequeue_sameSetup hNotify

/-- In all states of a run the node has the devices it started with, and is synchronised. -/
theorem reachable_synced {u : SwitchRun} (hClamped : s.node.cbMmu.activePortCnt < pCnt)
    (h : (syncedMachine cfg s).Reachable u) :
    u.node.activePorts = s.node.activePorts ∧ u.node.Synced cfg.toSwitchConfig := by
  refine Machine.reachable_induction (M := syncedMachine cfg s)
    (I := fun u => u.node.activePorts = s.node.activePorts ∧ u.node.Synced cfg.toSwitchConfig)
    ⟨?_, SwitchNode.beforeAdmission_synced hClamped⟩ ?_ h
  · show (s.node.beforeAdmission cfg.toSwitchConfig).activePorts = s.node.activePorts
    unfold SwitchNode.beforeAdmission
    split <;> rfl
  · rintro v e w ⟨hPorts, hSynced⟩ hStep
    have hSame := step_sameSetup hSynced hStep
    exact ⟨hSame.activePorts.trans hPorts, hSynced.of_sameSetup hSame⟩

/-- After a first call, a further one leaves the counters alone unless the node has more devices
than the arrays have ports: then it forgets whatever is buffered. -/
theorem sync_counters_iff {u : SwitchRun} (hClamped : s.node.cbMmu.activePortCnt < pCnt)
    (hReach : (syncedMachine cfg s).Reachable u) :
    (u.node.beforeAdmission cfg.toSwitchConfig).cbMmu.counters = u.node.cbMmu.counters ↔
      (cfg.dedicatedMmuEnable = true →
        s.node.devices.length ≤ pCnt ∨ u.node.cbMmu.counters = {}) := by
  obtain ⟨hPorts, hSynced⟩ := reachable_synced hClamped hReach
  have hCount : s.node.activePorts = s.node.devices.length - 1 := by
    unfold SwitchNode.activePorts
    split <;> omega
  rw [SwitchNode.beforeAdmission_cbMmu_iff]
  unfold SwitchNode.forgetsBytes
  constructor
  · intro hKept hMode
    by_contra hNot
    rw [not_or, not_le] at hNot
    refine hKept ⟨hMode, ?_, hNot.2⟩
    rw [hSynced hMode, hPorts]
    omega
  · rintro hCond ⟨hMode, hDiffer, hBytes⟩
    rw [hSynced hMode, hPorts] at hDiffer
    rcases hCond hMode with hFew | hEmpty
    · omega
    · exact hBytes hEmpty

/-! ## Two switches -/

/-- A switch with the dedicated MMU. -/
def dedicatedTransmit : TransmitConfig :=
  { sharedConfig with toSwitchConfig := SwitchNode.dedicatedConfig }

/-- A switch with so many devices; what goes to address 9 leaves by port 2. -/
def switchOf (devices : Nat) : SwitchRun where
  node := {
    rtTable := fun dip => if dip = 9 then some [2] else none
    devices := List.replicate devices (some ⟨100⟩) }

/-- The switch after a first call and one data packet for port 2. -/
def oneBuffered (devices : Nat) : Option SwitchRun :=
  (syncedMachine dedicatedTransmit (switchOf devices)).run
    (syncedMachine dedicatedTransmit (switchOf devices)).init [.sendToDev {} (dataOfGroup 3) 1]

/-- With 128 devices the packet stays counted. -/
theorem sync_counters_iff_full :
    ∃ u, oneBuffered 128 = some u ∧ u.node.cbMmu.counters.dataQueueBytes 2 = 1000 ∧
      (u.node.beforeAdmission dedicatedTransmit.toSwitchConfig).cbMmu.counters =
        u.node.cbMmu.counters := by
  have hData : (oneBuffered 128).map (fun u => u.node.cbMmu.counters.dataQueueBytes 2) =
      some 1000 := by
    decide +kernel
  obtain ⟨u, hRun, hBytes⟩ := Option.map_eq_some_iff.mp hData
  refine ⟨u, hRun, hBytes, (sync_counters_iff (s := switchOf 128) ?_ ⟨_, hRun⟩).mpr fun _ => ?_⟩
  · decide
  · exact .inl (List.length_replicate.le)

/-- With one device more the next call forgets it. -/
theorem sync_forgets :
    ∃ u v, oneBuffered 129 = some u ∧ v = u.node.beforeAdmission dedicatedTransmit.toSwitchConfig ∧
      u.node.cbMmu.counters.dataQueueBytes 2 = 1000 ∧ v.cbMmu.counters.dataQueueBytes 2 = 0 := by
  have hData : (oneBuffered 129).map (fun u => (u.node.cbMmu.counters.dataQueueBytes 2,
      (u.node.beforeAdmission dedicatedTransmit.toSwitchConfig).cbMmu.counters.dataQueueBytes 2)) =
      some (1000, 0) := by
    decide +kernel
  obtain ⟨u, hRun, hBoth⟩ := Option.map_eq_some_iff.mp hData
  exact ⟨u, _, hRun, rfl, Prod.mk.inj hBoth⟩

end SwitchRun

end Dpdq.Ns3
