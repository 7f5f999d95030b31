import Dpdq.Ns3.SwitchSteps

/-!
# What a dropped packet leaves behind in the ns-3 switch

`SendToDev` touches the counters before it asks for admission in two places: it reserves the
credit of a GRANT in the phantom queue of the arrival port, and in dedicated mode it
re-synchronises the MMU, which clears the counters when the number of ports has changed. The main
results are `sendToDev_dropped` (the state after a drop, in closed form) and `drop_atomic_iff`
(when that state has the counters of the state before).
-/

namespace Dpdq.Ns3

open Function

/-- All byte counters of the switch: phantom queues, queued data, both MMUs and the devices. -/
structure SwitchCounters where
  qpLenBytes : PortIdx → UInt64
  qdLenBytes : PortIdx → UInt64
  mmu : MmuCounters
  cbMmu : CbMmuCounters
  bytes : PortIdx → PortIdx → QueueIdx → Nat
  txBytes : PortIdx → Nat

namespace SwitchNode

def counters (s : SwitchNode) : SwitchCounters where
  qpLenBytes i := (s.portState i).qpLenBytes
  qdLenBytes i := (s.portState i).qdLenBytes
  mmu := s.mmu
  cbMmu := s.cbMmu.counters
  bytes := s.bytes
  txBytes := s.txBytes

/-! ## The two early updates -/

/-- The packet is a GRANT that the switch returns on its arrival port. -/
def isBounced (cfg : SwitchConfig) (s : SwitchNode) (env : Ambient) (p : Packet)
    (inDevHint : Nat) : Prop :=
  ∃ idx, getOutDev cfg s env p = some idx ∧ s.bounces cfg inDevHint idx.toNat p = some true

/-- The packet is a GRANT with credit for which the phantom queue of its arrival port pays. -/
def takesReservation (cfg : SwitchConfig) (p : Packet) (inDevHint : Nat) : Prop :=
  cfg.cbEnable ∧ p.isCreditGrantPacket ∧ inDevHint < pCnt ∧ grantCredit p ≠ 0

/-- The dedicated MMU holds bytes and was set up for another number of ports. -/
def forgetsBytes (cfg : SwitchConfig) (s : SwitchNode) : Prop :=
  cfg.dedicatedMmuEnable ∧ s.cbMmu.activePortCnt ≠ s.activePorts ∧ s.cbMmu.counters ≠ {}

/-- The state in which the admission control runs. -/
def beforeAdmission (cfg : SwitchConfig) (s : SwitchNode) : SwitchNode :=
  if cfg.dedicatedMmuEnable then s.syncDedicatedCbMmuConfig cfg else s

theorem syncDedicatedCbMmuConfig_counters (cfg : SwitchConfig) (s : SwitchNode) :
    (s.syncDedicatedCbMmuConfig cfg).cbMmu.counters =
      if s.cbMmu.activePortCnt ≠ s.activePorts then {} else s.cbMmu.counters := by
  unfold syncDedicatedCbMmuConfig
  split
  · rename_i hPorts
    have hClear := SwitchCbMmu.setActivePortCnt_counters s.cbMmu s.activePorts
    rw [if_neg (Ne.symm hPorts)] at hClear
    simpa using hClear
  · simp

/-- The first counter update: nothing changes unless the GRANT carries credit. -/
theorem reserveGrantCredit_counters_iff (cfg : SwitchConfig) (s : SwitchNode) (inDevHint : Nat)
    (p : Packet) :
    (s.reserveGrantCredit cfg inDevHint p).counters = s.counters ↔
      ¬ takesReservation cfg p inDevHint := by
  unfold reserveGrantCredit takesReservation portIdx
  by_cases hGrant : cfg.cbEnable && p.isCreditGrantPacket
  · obtain ⟨hEnable, hGrantPacket⟩ := Bool.and_eq_true_iff.mp hGrant
    rw [if_pos hGrant]
    by_cases hPort : inDevHint < pCnt
    · simp only [dif_pos hPort]
      constructor
      · intro hSame hTakes
        have hQp := congrFun (congrArg SwitchCounters.qpLenBytes hSame) ⟨inDevHint, hPort⟩
        simp only [counters, addQp, modifyPort, update_self] at hQp
        exact hTakes.2.2.2 (by simpa using hQp)
      · intro hTakes
        have hZero : grantCredit p = 0 := by
          by_contra hCredit
          exact hTakes ⟨hEnable, hGrantPacket, hPort, hCredit⟩
        rw [hZero]
        simp [counters, addQp, modifyPort]
    · simp [hPort]
  · rw [if_neg hGrant]
    constructor
    · intro _ hTakes
      exact hGrant (by simp [hTakes.1, hTakes.2.1])
    · intro _
      rfl

/-- The second counter update: only the counters of the dedicated MMU can change. -/
theorem beforeAdmission_counters (cfg : SwitchConfig) (s : SwitchNode) :
    (s.beforeAdmission cfg).counters =
      { s.counters with cbMmu := (s.beforeAdmission cfg).cbMmu.counters } := by
  unfold beforeAdmission
  split <;> rfl

theorem beforeAdmission_cbMmu_iff (cfg : SwitchConfig) (s : SwitchNode) :
    (s.beforeAdmission cfg).cbMmu.counters = s.cbMmu.counters ↔ ¬ s.forgetsBytes cfg := by
  unfold beforeAdmission forgetsBytes
  by_cases hMode : cfg.dedicatedMmuEnable
  · rw [if_pos hMode, syncDedicatedCbMmuConfig_counters]
    by_cases hPorts : s.cbMmu.activePortCnt = s.activePorts
    · simp [hPorts]
    · simp [hMode, hPorts, eq_comm]
  · simp [hMode]

/-! ## The state after a drop -/

theorem enqueue_not_dropped {cfg : SwitchConfig} {s s' : SwitchNode} {p : Packet}
    {inDev forwardIdx qIndex : Nat} {pfc : List (QueueIdx × PfcType)} {v : Verdict}
    (h : enqueue cfg s p inDev forwardIdx qIndex pfc = some (v, s')) : v ≠ .dropped := by
  obtain ⟨o, -, hSent, -⟩ := enqueue_eq_some h
  dsimp only at hSent
  rw [hSent]
  exact Verdict.noConfusion

theorem forwardDedicated_dropped {cfg : SwitchConfig} {s s' : SwitchNode} {p : Packet}
    {inDev forwardIdx : Nat}
    (h : s.forwardDedicated cfg p inDev forwardIdx = some (.dropped, s')) :
    s' = s.syncDedicatedCbMmuConfig cfg := by
  rcases forwardDedicated_cases h with hDropped | ⟨m, -, hEnqueue⟩
  · exact (Prod.mk.inj hDropped).2
  · exact absurd rfl (enqueue_not_dropped hEnqueue)

theorem forwardShared_dropped {cfg : SwitchConfig} {s s' : SwitchNode} {p : Packet} {drop : Bool}
    {inDev forwardIdx : Nat}
    (h : s.forwardShared cfg p drop inDev forwardIdx = some (.dropped, s')) : s' = s := by
  rcases forwardShared_cases h with hDropped | ⟨m, pfc, frames, hEnqueue⟩
  · exact (Prod.mk.inj hDropped).2
  · exact absurd rfl (enqueue_not_dropped hEnqueue)

/-- A dropped packet leaves its reservation, if it was not bounced, and the re-synchronised MMU. -/
theorem sendToDev_dropped {cfg : SwitchConfig} {s s' : SwitchNode} {env : Ambient} {p : Packet}
    {inDevHint : Nat} (h : s.sendToDev cfg env p inDevHint = some (.dropped, s')) :
    (s.isBounced cfg env p inDevHint ∧ s' = s.beforeAdmission cfg) ∨
      (¬ s.isBounced cfg env p inDevHint ∧
        s' = (s.reserveGrantCredit cfg inDevHint p).beforeAdmission cfg) := by
  rcases sendToDev_cases h with ⟨hRoute, -⟩ | ⟨idx, t, p', forwardIdx, hIdx, -, hBounce, hForward⟩
  · cases hRoute
  have hAfter : s' = t.beforeAdmission cfg := by
    unfold beforeAdmission
    rcases hForward with ⟨hMode, hDedicated⟩ | ⟨hMode, drop, hShared⟩
    · rw [if_pos hMode]
      exact forwardDedicated_dropped hDedicated
    · rw [if_neg (Bool.eq_false_iff.mp hMode)]
      exact forwardShared_dropped hShared
  rcases bounceOrReserve_cases hBounce with ⟨hBounced, rfl, -⟩ | ⟨hBounced, rfl, -⟩
  · exact .inl ⟨⟨idx, hIdx, hBounced⟩, hAfter⟩
  · refine .inr ⟨?_, hAfter⟩
    rintro ⟨idx', hIdx', hBounced'⟩
    obtain rfl : idx = idx' := Option.some.inj (hIdx.symm.trans hIdx')
    exact absurd (hBounced.symm.trans hBounced') (by decide)

/-! ## When a drop leaves no trace -/

theorem reserveGrantCredit_forgetsBytes (cfg : SwitchConfig) (s : SwitchNode) (inDevHint : Nat)
    (p : Packet) :
    (s.reserveGrantCredit cfg inDevHint p).forgetsBytes cfg ↔ s.forgetsBytes cfg := by
  unfold reserveGrantCredit
  split
  · split <;> rfl
  · rfl

/-- The two early updates act on different counters, so one cannot hide the other. -/
theorem beforeAdmission_counters_iff (cfg : SwitchConfig) (s₀ s : SwitchNode)
    (hCb : s.cbMmu.counters = s₀.cbMmu.counters) :
    (s.beforeAdmission cfg).counters = s₀.counters ↔
      s.counters = s₀.counters ∧ ¬ s.forgetsBytes cfg := by
  rw [← beforeAdmission_cbMmu_iff, beforeAdmission_counters]
  constructor
  · intro hSame
    have hCb' := congrArg SwitchCounters.cbMmu hSame
    have hCb'' : (s.beforeAdmission cfg).cbMmu.counters = s.cbMmu.counters := hCb'.trans hCb.symm
    refine ⟨?_, hCb''⟩
    rw [hCb''] at hSame
    exact hSame
  · rintro ⟨hSame, hKeep⟩
    rw [hKeep]
    exact hSame

/-- Drop atomicity: the counters after a drop are those before it exactly when no credit was
reserved for the packet and the dedicated MMU forgot no bytes. -/
theorem drop_atomic_iff {cfg : SwitchConfig} {s s' : SwitchNode} {env : Ambient} {p : Packet}
    {inDevHint : Nat} (h : s.sendToDev cfg env p inDevHint = some (.dropped, s')) :
    s'.counters = s.counters ↔
      (takesReservation cfg p inDevHint → s.isBounced cfg env p inDevHint) ∧
        ¬ s.forgetsBytes cfg := by
  rcases sendToDev_dropped h with ⟨hBounced, rfl⟩ | ⟨hBounced, rfl⟩
  · rw [beforeAdmission_counters_iff cfg s s rfl]
    simp [hBounced]
  · have hCb : (s.reserveGrantCredit cfg inDevHint p).cbMmu.counters = s.cbMmu.counters := by
      unfold reserveGrantCredit
      split
      · split <;> rfl
      · rfl
    rw [beforeAdmission_counters_iff cfg s _ hCb, reserveGrantCredit_counters_iff,
      reserveGrantCredit_forgetsBytes]
    simp [hBounced]

/-! ## A GRANT that meets a full credit queue -/

/-- A dedicated-mode switch with every other feature at its default. -/
def dedicatedConfig : SwitchConfig where
  ecmpSeed := 0
  ackHighPrio := false
  symmetricRouting := true
  cbEnable := true
  fcEnable := true
  dedicatedMmuEnable := true
  dedicatedCreditQueueBytes := 64 * 1024
  mmu := {
    maxBufferBytes := 12 * 200 * 1024
    pgMinCell := 1048
    portMinCell := 1048
    bufferCellLimitSp := 4000 * 1048
    pgHdrmLimit := fun _ => 103000
    opBufferSharedLimitCell := 12 * 200 * 1024
    opUcPortConfigCell := 12 * 200 * 1024
    opUcPortConfig1Cell := 12 * 200 * 1024
    qMinCell := 1049
    pgSharedAlphaCellEgress := 1
    tlt := false
    maxBytesTltUip := 0
    tltUimpDropRate := 0
    dynamicth := false
    pgSharedAlphaCell := 1
    pgSharedAlphaCellOffDiff := 16
    pgSharedLimitCell := 20 * 1048
    portMaxSharedCell := 4800 * 1048
    pgSharedLimitCellOff := 18 * 1048
    portMinCellOff := 4700 * 1048 }

/-- Two ports; the credit queue of port 2, the next hop of address 7, is full. -/
def fullCreditQueue : SwitchNode where
  rtTable dip := if dip = 7 then some [2] else none
  devices := List.replicate 3 (some { dataRate := 10 ^ 11 })
  cbMmu := {
    activePortCnt := 2
    counters := { creditQueueBytes := fun i => if i = 2 then 64 * 1024 else 0 } }

def sampleGrant : Packet where
  ch := { sip := 9, dip := 7, l3Prot := 0xFB, sport := 1, dport := 2, pg := 3, seq := 0 }
  size := 84
  cbTag := some { type := .grant, creditBytes := 1538 }

/-- The GRANT is dropped on port 2, and port 1 keeps 1538 bytes reserved for it. -/
theorem dropped_grant_stays_reserved :
    ∃ s', fullCreditQueue.sendToDev dedicatedConfig {} sampleGrant 1 = some (.dropped, s') ∧
      (fullCreditQueue.counters.qpLenBytes 1 = 0 ∧ s'.counters.qpLenBytes 1 = 1538) ∧
      s'.counters ≠ fullCreditQueue.counters := by
  have hRun : (fullCreditQueue.sendToDev dedicatedConfig {} sampleGrant 1).map
      (fun r => (r.1, (r.2.portState 1).qpLenBytes)) = some (.dropped, 1538) := by
    decide +kernel
  obtain ⟨⟨v, s'⟩, hSend, hResult⟩ := Option.map_eq_some_iff.mp hRun
  obtain ⟨rfl, hQp⟩ := Prod.mk.inj hResult
  refine ⟨s', hSend, ⟨rfl, hQp⟩, ?_⟩
  intro hSame
  have hSameQp := congrFun (congrArg SwitchCounters.qpLenBytes hSame) 1
  exact absurd (hQp.symm.trans hSameQp) (by decide)

/-- 201 full packets fill the data queue of port 2 up to its share. -/
def fullDataQueue : SwitchNode where
  rtTable dip := if dip = 7 then some [2] else none
  devices := List.replicate 3 (some { dataRate := 10 ^ 11 })
  cbMmu := {
    activePortCnt := 2
    maxBufferBytes := 750000
    dataSharedLimitBytes := 750000 - 2 * (64 * 1024)
    counters := {
      dataQueueBytes := fun i => if i = 2 then 201 * 1538 else 0
      dataSharedBytesByPort := fun i => if i = 2 then 201 * 1538 else 0
      dataSharedUsedBytes := 201 * 1538 } }

def sampleRequest : Packet where
  ch := { sip := 9, dip := 7, l3Prot := 0x11, sport := 1, dport := 2, pg := 3, seq := 0 }
  size := 1538
  cbTag := some { type := .request }

/-- The next packet is dropped and leaves no trace. -/
theorem drop_atomic_iff_sample :
    ∃ s', fullDataQueue.sendToDev dedicatedConfig {} sampleRequest 1 = some (.dropped, s') ∧
      s'.counters = fullDataQueue.counters := by
  have hRun : (fullDataQueue.sendToDev dedicatedConfig {} sampleRequest 1).map
      (fun r => r.1) = some .dropped := by
    decide +kernel
  obtain ⟨⟨v, s'⟩, hSend, rfl⟩ := Option.map_eq_some_iff.mp hRun
  refine ⟨s', hSend, (drop_atomic_iff hSend).mpr ⟨?_, ?_⟩⟩
  · intro hTakes
    exact absurd hTakes.2.1 (by decide)
  · intro hForgets
    exact hForgets.2.1 rfl

end SwitchNode

end Dpdq.Ns3
