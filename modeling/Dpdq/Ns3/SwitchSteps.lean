import Dpdq.Ns3.SwitchTransmit

/-!
# What the functions of the ns-3 switch can do

The outcomes of `SendToDev` and `SwitchNotifyDequeue`, function by function, so that what holds of
the switch over a run is read from them and not from the code. Most of the functions only touch the
flow control states, the phantom queues and the shared MMU; `SameQueues` says so of a step.

* `sendToDev_cases`, `forwardShared_cases`, `forwardDedicated_cases`: what becomes of a packet.
* `enqueue_eq_some`: the state with an admitted packet.
* `release_cases`, `switchNotifyDequeue_cases`: the state without a packet that leaves.
-/

namespace Dpdq.Ns3

open Function

namespace SwitchNode

/-- `m_qdLenBytes` of all ports. -/
def qdLen (s : SwitchNode) (i : PortIdx) : UInt64 := (s.portState i).qdLenBytes

/-! ## Steps that leave the queues alone -/

/-- The two states have the same counts of queued data, the same dedicated MMU and the same
devices. -/
structure SameQueues (s t : SwitchNode) : Prop where
  qdLen : t.qdLen = s.qdLen
  cbMmu : t.cbMmu = s.cbMmu
  devices : t.devices = s.devices

namespace SameQueues

variable {s t u : SwitchNode}

theorem refl (s : SwitchNode) : SameQueues s s := ⟨rfl, rfl, rfl⟩

theorem trans (hFirst : SameQueues s t) (hSecond : SameQueues t u) : SameQueues s u where
  qdLen := hSecond.qdLen.trans hFirst.qdLen
  cbMmu := hSecond.cbMmu.trans hFirst.cbMmu
  devices := hSecond.devices.trans hFirst.devices

theorem modifyPort {i : PortIdx} {f : CreditBouncerPortState → CreditBouncerPortState}
    (h : (f (s.portState i)).qdLenBytes = (s.portState i).qdLenBytes) :
    SameQueues s (s.modifyPort i f) where
  qdLen := by
    funext j
    unfold SwitchNode.qdLen SwitchNode.modifyPort
    dsimp only
    by_cases hSame : j = i
    · subst hSame
      rw [update_self, h]
    · rw [update_of_ne hSame]
  cbMmu := rfl
  devices := rfl

end SameQueues

theorem qdLen_addQd (s : SwitchNode) (i : PortIdx) (size : Nat) :
    (s.addQd i size).qdLen = update s.qdLen i (s.qdLen i + UInt64.ofNat size) := by
  funext j
  unfold qdLen addQd modifyPort
  dsimp only
  by_cases hSame : j = i
  · subst hSame
    rw [update_self, update_self]
  · rw [update_of_ne hSame, update_of_ne hSame]

theorem qdLen_removeQd (s : SwitchNode) (i : PortIdx) (size : Nat) :
    (s.removeQd i size).qdLen = update s.qdLen i (drainU64 (s.qdLen i) (UInt64.ofNat size)) := by
  funext j
  unfold qdLen removeQd modifyPort
  dsimp only
  by_cases hSame : j = i
  · subst hSame
    rw [update_self, update_self]
  · rw [update_of_ne hSame, update_of_ne hSame]

/-! ## `SendToDev` -/

section Send

variable {cfg : SwitchConfig} {s s' : SwitchNode} {p : Packet}

theorem reserveGrantCredit_sameQueues (inDevHint : Nat) :
    SameQueues s (s.reserveGrantCredit cfg inDevHint p) := by
  unfold reserveGrantCredit
  split
  · split
    · exact .refl s
    · exact .modifyPort rfl
  · exact .refl s

/-- Only GRANTs are bounced. -/
theorem grant_of_bounces {inDevHint idx : Nat} (h : s.bounces cfg inDevHint idx p = some true) :
    p.ch.l3Prot = 0xFB ∧ p.hasType .grant = true := by
  have hBounce : s.shouldBounceCreditPacket cfg inDevHint idx p = true := by
    unfold bounces at h
    by_contra hNot
    rw [if_neg hNot] at h
    cases h
  have hGrant : p.isCreditGrantPacket = true := by
    unfold shouldBounceCreditPacket at hBounce
    by_contra hNot
    simp [hNot] at hBounce
  unfold Packet.isCreditGrantPacket Packet.isCreditBouncerControlPacket at hGrant
  simp only [decide_eq_true_eq] at hGrant
  exact ⟨hGrant.1.1, hGrant.2⟩

/-- The packet is returned on its arrival port, or it goes on and may reserve credit. -/
theorem bounceOrReserve_cases {p' : Packet} {inDevHint idx forwardIdx : Nat}
    (h : s.bounceOrReserve cfg p inDevHint idx = some (s', p', forwardIdx)) :
    (s.bounces cfg inDevHint idx p = some true ∧ s' = s ∧ forwardIdx = inDevHint ∧
        p' = if p.ch.l3Prot = 0xFB then
          ({ p.markAsBouncedCredit with justBounced := true } : Packet).swapDirection
        else { p.markAsBouncedCredit with justBounced := true }) ∨
      (s.bounces cfg inDevHint idx p = some false ∧
        s' = s.reserveGrantCredit cfg inDevHint p ∧ p' = p ∧ forwardIdx = idx) := by
  unfold bounceOrReserve at h
  obtain ⟨bounced, hBounces, h⟩ := Option.bind_eq_some_iff.mp h
  cases bounced with
  | true =>
    obtain ⟨rfl, rfl, rfl⟩ := by simpa using h
    exact .inl ⟨hBounces, rfl, rfl, rfl⟩
  | false =>
    obtain ⟨rfl, rfl, rfl⟩ := by simpa using h
    exact .inr ⟨hBounces, rfl, rfl, rfl⟩

theorem bounceOrReserve_sameQueues {p' : Packet} {inDevHint idx forwardIdx : Nat}
    (h : s.bounceOrReserve cfg p inDevHint idx = some (s', p', forwardIdx)) :
    SameQueues s s' := by
  rcases bounceOrReserve_cases h with ⟨-, rfl, -⟩ | ⟨-, rfl, -⟩
  · exact .refl s'
  · exact reserveGrantCredit_sameQueues inDevHint

/-- The end of `SendToDev`: the packet is sent, and data is added to the count of its port. -/
theorem enqueue_eq_some {inDev forwardIdx qIndex : Nat} {pfc : List (QueueIdx × PfcType)}
    {r : Verdict × SwitchNode} (h : enqueue cfg s p inDev forwardIdx qIndex pfc = some r) :
    ∃ o, portIdx forwardIdx = some o ∧ r.1 = .sent forwardIdx qIndex p pfc ∧
      r.2.cbMmu = s.cbMmu ∧ r.2.devices = s.devices ∧
      r.2.qdLen = if cfg.cbEnable && p.isDataPacket then
        update s.qdLen o (s.qdLen o + UInt64.ofNat p.size) else s.qdLen := by
  unfold enqueue at h
  obtain ⟨i, hIn, h⟩ := Option.bind_eq_some_iff.mp h
  obtain ⟨o, hOut, h⟩ := Option.bind_eq_some_iff.mp h
  obtain ⟨q, hQueue, h⟩ := Option.bind_eq_some_iff.mp h
  obtain ⟨device, hDevice, h⟩ := Option.bind_eq_some_iff.mp h
  obtain rfl := Option.some.inj h
  refine ⟨o, hOut, rfl, ?_⟩
  split
  · exact ⟨rfl, rfl, qdLen_addQd s o p.size⟩
  · exact ⟨rfl, rfl, rfl⟩

theorem queueIdx_eq_some {n : Nat} {q : QueueIdx} (h : queueIdx n = some q) : q.val = n := by
  unfold queueIdx at h
  split at h
  · obtain rfl := Option.some.inj h
    rfl
  · cases h

theorem forwardDedicated_cases {inDev forwardIdx : Nat} {r : Verdict × SwitchNode}
    (h : s.forwardDedicated cfg p inDev forwardIdx = some r) :
    r = (.dropped, s.syncDedicatedCbMmuConfig cfg) ∨
      ∃ m, admitDedicated (s.syncDedicatedCbMmuConfig cfg).cbMmu forwardIdx (getQueueIndex cfg p)
          p.size = some m ∧
        enqueue cfg { s.syncDedicatedCbMmuConfig cfg with cbMmu := m } p inDev forwardIdx
          (getQueueIndex cfg p) [] = some r := by
  unfold forwardDedicated at h
  dsimp only at h
  split at h
  · exact .inl (Option.some.inj h).symm
  · rename_i m hAdmit
    exact .inr ⟨m, hAdmit, h⟩

/-- The shared MMU admits a packet to a queue other than 0, and its counters are `m'` with it. -/
structure Admits (cfg : SwitchConfig) (m : MmuCounters) (i o : PortIdx) (q : QueueIdx) (p : Packet)
    (m' : MmuCounters) : Prop where
  queue : q ≠ 0
  ingress : m.checkIngressAdmission cfg.mmu.toMmuConfig (i, q) p.size = true
  egress : m.checkEgressAdmission cfg.mmu.toMmuConfig (o, q) p.size = true
  charge : chargeShared cfg m (i, q) (o, q) p = some m'

/-- The packet is dropped, or it goes to queue 0, or it is admitted and charged. -/
theorem forwardShared_outcomes {drop : Bool} {inDev forwardIdx : Nat} {r : Verdict × SwitchNode}
    (h : s.forwardShared cfg p drop inDev forwardIdx = some r) :
    r = (.dropped, s) ∨
      (getQueueIndex cfg p = 0 ∧
        enqueue cfg s p inDev forwardIdx (getQueueIndex cfg p) [] = some r) ∨
      ∃ i o q m pfc frames, portIdx inDev = some i ∧ portIdx forwardIdx = some o ∧
        queueIdx (getQueueIndex cfg p) = some q ∧ Admits cfg s.mmu i o q p m ∧
        enqueue cfg { s with mmu := m, pfc := pfc } p inDev forwardIdx (getQueueIndex cfg p) frames =
          some r := by
  unfold forwardShared at h
  dsimp only at h
  split at h
  · rename_i hZero
    exact .inr (.inl ⟨hZero, h⟩)
  rename_i hNonzero
  split at h
  · exact .inl (Option.some.inj h).symm
  obtain ⟨i, hIn, h⟩ := Option.bind_eq_some_iff.mp h
  obtain ⟨q, hQueue, h⟩ := Option.bind_eq_some_iff.mp h
  split at h
  · exact .inl (Option.some.inj h).symm
  rename_i hIngress
  obtain ⟨o, hOut, h⟩ := Option.bind_eq_some_iff.mp h
  split at h
  · exact .inl (Option.some.inj h).symm
  rename_i hEgress
  obtain ⟨m, hCharge, h⟩ := Option.bind_eq_some_iff.mp h
  obtain ⟨device, hDevice, h⟩ := Option.bind_eq_some_iff.mp h
  split at h
  · cases h
  · refine .inr (.inr ⟨i, o, q, m, _, _, hIn, hOut, hQueue, ⟨?_, ?_, ?_, hCharge⟩, h⟩)
    · rintro rfl
      exact hNonzero (queueIdx_eq_some hQueue).symm
    · simpa using hIngress
    · simpa using hEgress

/-- The shared MMU and the PFC state are all that changes before the packet is enqueued. -/
theorem forwardShared_cases {drop : Bool} {inDev forwardIdx : Nat} {r : Verdict × SwitchNode}
    (h : s.forwardShared cfg p drop inDev forwardIdx = some r) :
    r = (.dropped, s) ∨ ∃ m pfc frames,
      enqueue cfg { s with mmu := m, pfc := pfc } p inDev forwardIdx (getQueueIndex cfg p) frames =
        some r := by
  rcases forwardShared_outcomes h with hDropped | ⟨-, hQueue⟩ |
      ⟨i, o, q, m, pfc, frames, -, -, -, -, hQueue⟩
  · exact .inl hDropped
  · exact .inr ⟨s.mmu, s.pfc, [], hQueue⟩
  · exact .inr ⟨m, pfc, frames, hQueue⟩

theorem sendToDev_cases {env : Ambient} {inDevHint : Nat} {r : Verdict × SwitchNode}
    (h : s.sendToDev cfg env p inDevHint = some r) :
    (r = (.noRoute, s) ∧ ∃ idx, getOutDev cfg s env p = some idx ∧ idx < 0) ∨
      ∃ idx t p' forwardIdx, getOutDev cfg s env p = some idx ∧ 0 ≤ idx ∧
      s.bounceOrReserve cfg p inDevHint idx.toNat = some (t, p', forwardIdx) ∧
      ((cfg.dedicatedMmuEnable = true ∧
          t.forwardDedicated cfg p' (admissionDev p' inDevHint) forwardIdx = some r) ∨
        (cfg.dedicatedMmuEnable = false ∧ ∃ drop,
          t.forwardShared cfg p' drop (admissionDev p' inDevHint) forwardIdx = some r)) := by
  unfold sendToDev at h
  obtain ⟨idx, hOut, h⟩ := Option.bind_eq_some_iff.mp h
  split at h
  · rename_i hRoute
    exact .inl ⟨(Option.some.inj h).symm, idx, hOut, hRoute⟩
  rename_i hRoute
  obtain ⟨⟨t, p', forwardIdx⟩, hBounce, h⟩ := Option.bind_eq_some_iff.mp h
  obtain ⟨drop, hDrop, h⟩ := Option.bind_eq_some_iff.mp h
  refine .inr ⟨idx, t, p', forwardIdx, hOut, not_lt.mp hRoute, hBounce, ?_⟩
  dsimp only at h
  split at h
  · rename_i hMode
    exact .inl ⟨hMode, h⟩
  · rename_i hMode
    exact .inr ⟨Bool.eq_false_iff.mpr hMode, drop, h⟩

end Send

/-! ## `SwitchNotifyDequeue` -/

section Release

variable {cfg : TransmitConfig} {s s' : SwitchNode} {p : Packet} {inDev ifIndex : PortIdx}
  {qIndex : QueueIdx}

theorem qdLen_releaseQd : (s.releaseQd cfg ifIndex p).qdLen =
    if cfg.cbEnable && p.isDataPacket then
      update s.qdLen ifIndex (drainU64 (s.qdLen ifIndex) (UInt64.ofNat p.size))
    else s.qdLen := by
  unfold releaseQd
  split
  · exact qdLen_removeQd s ifIndex p.size
  · rfl

theorem cbMmu_releaseQd : (s.releaseQd cfg ifIndex p).cbMmu = s.cbMmu := by
  unfold releaseQd
  split <;> rfl

theorem devices_releaseQd : (s.releaseQd cfg ifIndex p).devices = s.devices := by
  unfold releaseQd
  split <;> rfl

theorem checkAndSendResume_sameQueues (h : s.checkAndSendResume cfg inDev qIndex = some s') :
    SameQueues s s' := by
  unfold checkAndSendResume at h
  split at h
  · obtain ⟨device, hDevice, h⟩ := Option.bind_eq_some_iff.mp h
    obtain rfl := Option.some.inj h
    exact ⟨rfl, rfl, rfl⟩
  · obtain rfl := Option.some.inj h
    exact .refl s

/-- The dedicated MMU releases the packet; the shared one does for the queues other than 0. -/
theorem release_cases (h : s.release cfg inDev ifIndex qIndex p = some s') :
    s' = s.releaseDedicated cfg inDev ifIndex qIndex p ∨
      (qIndex ≠ 0 ∧ ∃ t, SameQueues s t ∧ SameQueues (t.releaseQd cfg ifIndex p) s') ∨
      (qIndex = 0 ∧ s' = s) := by
  unfold release at h
  split at h
  · exact .inl (Option.some.inj h).symm
  split at h
  · rename_i hQueue
    unfold releaseShared at h
    obtain ⟨m, hIngress, h⟩ := Option.bind_eq_some_iff.mp h
    obtain ⟨m', hEgress, h⟩ := Option.bind_eq_some_iff.mp h
    dsimp only at h
    refine .inr (.inl ⟨hQueue, _, ?_, checkAndSendResume_sameQueues h⟩)
    exact ⟨rfl, rfl, rfl⟩
  · rename_i hQueue
    exact .inr (.inr ⟨not_not.mp hQueue, (Option.some.inj h).symm⟩)

theorem updateFcState_sameQueues : SameQueues s (s.updateFcState cfg ifIndex) := by
  unfold updateFcState
  split
  · exact .modifyPort rfl
  · exact .refl s

theorem returnBouncedCredit_sameQueues : SameQueues s (s.returnBouncedCredit cfg ifIndex p) := by
  unfold returnBouncedCredit
  split
  · exact .modifyPort rfl
  · exact .refl s

theorem phantomEnqueue_sameQueues : SameQueues s (s.phantomEnqueue ifIndex p) := by
  unfold phantomEnqueue
  split
  · exact .modifyPort rfl
  · exact .refl s

theorem phantomDrain_sameQueues {last nowNs : UInt64}
    (h : s.phantomDrain ifIndex last nowNs = some s') : SameQueues s s' := by
  unfold phantomDrain at h
  split at h
  · obtain ⟨device, hDevice, h⟩ := Option.bind_eq_some_iff.mp h
    cases device with
    | none =>
      obtain rfl := Option.some.inj h
      exact .refl s
    | some dev =>
      obtain rfl := Option.some.inj h
      exact .modifyPort rfl
  · obtain rfl := Option.some.inj h
    exact .refl s

theorem updateCBPortStateOnTransmit_sameQueues {last last' : PortIdx → UInt64} {nowNs : UInt64}
    (h : s.updateCBPortStateOnTransmit cfg last ifIndex p nowNs = some (s', last')) :
    SameQueues s s' := by
  unfold updateCBPortStateOnTransmit at h
  split at h
  · obtain ⟨t, hDrain, h⟩ := Option.bind_eq_some_iff.mp h
    obtain ⟨rfl, -⟩ := Prod.mk.inj (Option.some.inj h)
    refine SameQueues.trans ?_ (phantomDrain_sameQueues hDrain)
    refine SameQueues.trans ?_ phantomEnqueue_sameQueues
    exact updateFcState_sameQueues.trans returnBouncedCredit_sameQueues
  · obtain ⟨rfl, -⟩ := Prod.mk.inj (Option.some.inj h)
    exact .refl s

/-- The packet is released; nothing behind that touches the queues. -/
theorem switchNotifyDequeue_cases {last last' : PortIdx → UInt64} {nowNs : UInt64}
    (h : s.switchNotifyDequeue cfg last ifIndex qIndex p nowNs = some (s', last')) :
    ∃ t, s.release cfg (arrivalDev p ifIndex) ifIndex qIndex p = some t ∧ SameQueues t s' := by
  unfold switchNotifyDequeue at h
  obtain ⟨t, hRelease, h⟩ := Option.bind_eq_some_iff.mp h
  obtain ⟨⟨t', last⟩, hTransmit, h⟩ := Option.bind_eq_some_iff.mp h
  obtain ⟨rfl, -⟩ := Prod.mk.inj (Option.some.inj h)
  have hSame := updateCBPortStateOnTransmit_sameQueues hTransmit
  exact ⟨t, hRelease, hSame.qdLen, hSame.cbMmu, hSame.devices⟩

end Release

end SwitchNode

end Dpdq.Ns3
