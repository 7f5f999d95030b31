import Dpdq.Ns3.SwitchMmu

/-!
# The dedicated DPDQ MMU of the ns-3 switch

`switch-cb-mmu.cc`: a small fixed credit queue for each port and one shared data pool. The
guarantee and headroom counters are kept for older configurations; no admission rule reads them.
-/

namespace Dpdq.Ns3

open Function

/-- The byte counters of `SwitchCbMmu`. -/
structure CbMmuCounters where
  creditQueueBytes : PortIdx → Nat := fun _ => 0
  dataQueueBytes : PortIdx → Nat := fun _ => 0
  dataGuaranteedBytesByPort : PortIdx → Nat := fun _ => 0
  dataSharedBytesByPort : PortIdx → Nat := fun _ => 0
  dataHeadroomBytesByPort : PortIdx → Nat := fun _ => 0
  dataSharedUsedBytes : Nat := 0

structure SwitchCbMmu where
  activePortCnt : Nat := 12
  maxBufferBytesPerPort : Nat := 375 * 1000
  staticMaxBufferBytes : Nat := 0
  maxBufferBytes : Nat := 12 * (375 * 1000)
  creditQueueLimitBytes : Nat := 64 * 1024
  dataAdmissionAlpha : ℚ := 1
  dataSharedLimitBytes : Nat := 12 * (375 * 1000) - 12 * (64 * 1024)
  counters : CbMmuCounters := {}

/-- Port 0 is not used; a port number from `pCnt` on is outside the arrays. -/
def validPort (port : Nat) : Option PortIdx :=
  if h : port ≠ 0 ∧ port < pCnt then some ⟨port, h.2⟩ else none

namespace SwitchCbMmu

/-! ## Configuration -/

def recomputeDataSharedLimit (m : SwitchCbMmu) : SwitchCbMmu :=
  let totalCreditReserve := m.creditQueueLimitBytes * m.activePortCnt
  let dataBudget :=
    if m.maxBufferBytes > totalCreditReserve then m.maxBufferBytes - totalCreditReserve else 0
  { m with dataSharedLimitBytes := min dataBudget (2 ^ 32 - 1) }

def initSwitch (m : SwitchCbMmu) : SwitchCbMmu :=
  recomputeDataSharedLimit { m with
    maxBufferBytes :=
      if m.staticMaxBufferBytes ≠ 0 then m.staticMaxBufferBytes
      else m.maxBufferBytesPerPort * m.activePortCnt % 2 ^ 32
    counters := {} }

def setActivePortCnt (m : SwitchCbMmu) (v : Nat) : SwitchCbMmu :=
  if v = m.activePortCnt then m else initSwitch { m with activePortCnt := min v (pCnt - 1) }

def setCreditQueueLimitBytes (m : SwitchCbMmu) (v : Nat) : SwitchCbMmu :=
  if v = m.creditQueueLimitBytes then m
  else recomputeDataSharedLimit { m with creditQueueLimitBytes := v }

@[simp] theorem recomputeDataSharedLimit_counters (m : SwitchCbMmu) :
    m.recomputeDataSharedLimit.counters = m.counters := rfl

@[simp] theorem initSwitch_counters (m : SwitchCbMmu) : m.initSwitch.counters = {} := rfl

theorem setActivePortCnt_counters (m : SwitchCbMmu) (v : Nat) :
    (m.setActivePortCnt v).counters = if v = m.activePortCnt then m.counters else {} := by
  unfold setActivePortCnt
  split
  · rfl
  · exact initSwitch_counters _

@[simp] theorem setCreditQueueLimitBytes_counters (m : SwitchCbMmu) (v : Nat) :
    (m.setCreditQueueLimitBytes v).counters = m.counters := by
  unfold setCreditQueueLimitBytes
  split
  · rfl
  · exact recomputeDataSharedLimit_counters _

/-! ## Credit queue -/

def checkCreditAdmission (m : SwitchCbMmu) (port psize : Nat) : Bool :=
  match validPort port with
  | none => false
  | some i => addU32 (m.counters.creditQueueBytes i) psize ≤ m.creditQueueLimitBytes

def updateCreditAdmission (m : SwitchCbMmu) (port psize : Nat) : SwitchCbMmu :=
  match validPort port with
  | none => m
  | some i =>
    let queue := update m.counters.creditQueueBytes i (addU32 (m.counters.creditQueueBytes i) psize)
    { m with counters := { m.counters with creditQueueBytes := queue } }

def removeCreditAdmission (m : SwitchCbMmu) (port psize : Nat) : SwitchCbMmu :=
  match validPort port with
  | none => m
  | some i =>
    let queue := update m.counters.creditQueueBytes i (m.counters.creditQueueBytes i - psize)
    { m with counters := { m.counters with creditQueueBytes := queue } }

/-! ## Data queue -/

/-- `CheckDataAdmission`: the queue after the packet against `alpha` of the free shared bytes. -/
def checkDataAdmission (m : SwitchCbMmu) (port psize : Nat) : Bool :=
  match validPort port with
  | none => false
  | some i =>
    let qdAfter := m.counters.dataQueueBytes i + psize
    let available := m.dataSharedLimitBytes - m.counters.dataSharedUsedBytes
    let threshold := (m.dataAdmissionAlpha * available).floor.toNat
    qdAfter ≤ threshold

def updateDataAdmission (m : SwitchCbMmu) (port psize : Nat) : SwitchCbMmu :=
  match validPort port with
  | none => m
  | some i =>
    if psize = 0 then m
    else
      let queue := update m.counters.dataQueueBytes i (addU32 (m.counters.dataQueueBytes i) psize)
      let shared := update m.counters.dataSharedBytesByPort i
        (addU32 (m.counters.dataSharedBytesByPort i) psize)
      { m with counters := { m.counters with
          dataQueueBytes := queue
          dataSharedBytesByPort := shared
          dataSharedUsedBytes := addU32 m.counters.dataSharedUsedBytes psize } }

def removeDataAdmission (m : SwitchCbMmu) (port psize : Nat) : SwitchCbMmu :=
  match validPort port with
  | none => m
  | some i =>
    if psize = 0 then m
    else
      let oldDataBytes := m.counters.dataQueueBytes i
      let removeShared := min (min psize oldDataBytes) (m.counters.dataSharedBytesByPort i)
      let queue := update m.counters.dataQueueBytes i (oldDataBytes - psize)
      let shared := update m.counters.dataSharedBytesByPort i
        (m.counters.dataSharedBytesByPort i - removeShared)
      { m with counters := { m.counters with
          dataQueueBytes := queue
          dataSharedBytesByPort := shared
          dataSharedUsedBytes := m.counters.dataSharedUsedBytes - removeShared } }

end SwitchCbMmu

end Dpdq.Ns3
