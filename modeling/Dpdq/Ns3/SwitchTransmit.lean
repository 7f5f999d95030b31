import Dpdq.Ns3.SwitchNode

/-!
# A packet leaves the ns-3 switch

`SwitchNotifyDequeue` of `switch-node.cc`, which releases what `SendToDev` has charged, with
`CheckAndSendResume` and `UpdateCBPortStateOnTransmit`: the flow control state of the port, and its
phantom queue.

What becomes of the packet itself (the ECN marks, the INT header) is left out, and so are the
thresholds that a port state keeps, since each call sets them first. The doubles of the source are
rationals.
-/

namespace Dpdq.Ns3

open Function

/-- The attributes that a transmission reads. -/
structure TransmitConfig extends SwitchConfig where
  ccEnable : Bool
  xonBytes : UInt64
  xoffBytes : UInt64
  dynamicThreshold : Bool
  dynamicAlpha : ℚ
  dedicatedXoffMarginBytes : UInt64
  dedicatedFcMarginBytes : UInt64

/-! ## Packet kinds -/

namespace Packet

def isBouncedCreditPacket (p : Packet) : Bool :=
  p.isCreditBouncerControlPacket ∧ p.hasType .bouncedCredit

def isSignalPacket (p : Packet) : Bool :=
  p.isCreditBouncerControlPacket ∧ (p.hasType .grantReq ∨ p.hasType .resend)

def isUnscheduledDataPacket (p : Packet) : Bool :=
  p.ch.l3Prot = 0x11 ∧ p.hasType .request ∧
    p.cbTag.any fun tag => tag.dataClass = .unscheduled

end Packet

/-! ## The dedicated MMU -/

namespace SwitchCbMmu

def getTotalDataQueueBytes (m : SwitchCbMmu) : Nat :=
  let ports := (List.finRange pCnt).filter fun i => 1 ≤ i.val ∧ i.val ≤ m.activePortCnt
  min (ports.map m.counters.dataQueueBytes).sum (2 ^ 32 - 1)

def getDedicatedFcBsBytes (m : SwitchCbMmu) : Nat :=
  let totalCreditReserve := m.creditQueueLimitBytes * m.activePortCnt
  let dedicatedFcBs :=
    if m.maxBufferBytes > totalCreditReserve then m.maxBufferBytes - totalCreditReserve else 0
  min dedicatedFcBs (2 ^ 32 - 1)

end SwitchCbMmu

namespace MmuCounters

def removeFromIngressTLT (m : MmuCounters) (port : PortIdx) (psize : Nat) : MmuCounters :=
  { m with
    bytesIngressTltUip :=
      update m.bytesIngressTltUip port (wrapSubU32 (m.bytesIngressTltUip port) psize)
    totaluipbytes := wrapSubU32 m.totaluipbytes psize }

def removeFromEgressTLT (m : MmuCounters) (port : PortIdx) (psize : Nat) : MmuCounters :=
  { m with
    bytesEgressTltUip :=
      update m.bytesEgressTltUip port (wrapSubU32 (m.bytesEgressTltUip port) psize) }

end MmuCounters

/-! ## `UpdateCBPortStateOnTransmit` -/

/-- What the subtraction of a counter of bytes leaves, at least 0. -/
def drainU64 (counter bytes : UInt64) : UInt64 := if counter ≥ bytes then counter - bytes else 0

namespace SwitchNode

variable (cfg : TransmitConfig)

/-- `qdQcLen`: the bytes in the queues of the port. -/
def queuedLen (s : SwitchNode) (outDev : PortIdx) : UInt64 :=
  if cfg.dedicatedMmuEnable then
    UInt64.ofNat (s.cbMmu.counters.dataQueueBytes outDev) +
      UInt64.ofNat (s.cbMmu.counters.creditQueueBytes outDev)
  else (s.portState outDev).qdLenBytes

def compareLen (s : SwitchNode) (outDev : PortIdx) : UInt64 :=
  max (s.queuedLen cfg outDev) (s.portState outDev).qpLenBytes

/-- `m_xonBytes` and `m_xoffBytes`, fixed or from the free bytes of the dedicated MMU. -/
def thresholds (s : SwitchNode) (outDev : PortIdx) : UInt64 × UInt64 :=
  if cfg.dynamicThreshold && cfg.dedicatedMmuEnable then
    let dedicatedFcAvail := s.cbMmu.getDedicatedFcBsBytes - s.cbMmu.getTotalDataQueueBytes
    let thresholdBudget := UInt64.ofNat (cfg.dynamicAlpha * dedicatedFcAvail).floor.toNat
    let xoff := drainU64 (s.queuedLen cfg outDev + thresholdBudget) cfg.dedicatedXoffMarginBytes
    (drainU64 xoff cfg.dedicatedFcMarginBytes, xoff)
  else (cfg.xonBytes, cfg.xoffBytes)

/-- The two tests, one after the other. -/
def nextFcState (xonBytes xoffBytes compareLen : UInt64) (st : CreditBouncerFcState) :
    CreditBouncerFcState :=
  let st := if compareLen > xoffBytes ∧ st = .normal then .pause else st
  if compareLen < xonBytes ∧ st = .pause then .normal else st

def updateFcState (s : SwitchNode) (outDev : PortIdx) : SwitchNode :=
  if cfg.cbEnable && cfg.fcEnable then
    let (xon, xoff) := s.thresholds cfg outDev
    let compareLen := s.compareLen cfg outDev
    s.modifyPort outDev fun st => { st with fcState := nextFcState xon xoff compareLen st.fcState }
  else s

/-- A bounced credit that was not bounced here gives its credit back. -/
def returnBouncedCredit (s : SwitchNode) (outDev : PortIdx) (p : Packet) : SwitchNode :=
  if cfg.cbEnable && cfg.fcEnable && p.isBouncedCreditPacket && !p.justBounced then
    s.modifyPort outDev fun st =>
      { st with qpLenBytes := drainU64 (st.qpLenBytes + UInt64.ofNat p.size) (grantCredit p) }
  else s

/-- The packets that the phantom queue takes in. -/
def phantomEnqueue (s : SwitchNode) (outDev : PortIdx) (p : Packet) : SwitchNode :=
  if p.isUnscheduledDataPacket || p.isCreditGrantPacket || p.isSignalPacket then
    s.addQp outDev (UInt64.ofNat p.size)
  else s

/-- What the link has drained since the last transmission. The device list is read only where time
has passed. -/
def phantomDrain (s : SwitchNode) (outDev : PortIdx) (lastUpdateTimeNs nowNs : UInt64) :
    Option SwitchNode :=
  if lastUpdateTimeNs ≠ 0 ∧ nowNs > lastUpdateTimeNs then do
    let device ← s.devices[outDev.val]?
    match device with
    | none => return s
    | some dev =>
      let drainedBytes :=
        (nowNs - lastUpdateTimeNs) * UInt64.ofNat dev.dataRate / 8000000000
      return s.modifyPort outDev fun st =>
        { st with qpLenBytes := drainU64 st.qpLenBytes drainedBytes }
  else some s

/-- `UpdateCBPortStateOnTransmit`, with `m_lastUpdateTimeNs` of the ports. -/
def updateCBPortStateOnTransmit (s : SwitchNode) (lastUpdateTimeNs : PortIdx → UInt64)
    (outDev : PortIdx) (p : Packet) (nowNs : UInt64) :
    Option (SwitchNode × (PortIdx → UInt64)) :=
  if cfg.cbEnable && (cfg.ccEnable || cfg.fcEnable) then do
    let s := ((s.updateFcState cfg outDev).returnBouncedCredit cfg outDev p).phantomEnqueue outDev p
    let s ← s.phantomDrain outDev (lastUpdateTimeNs outDev) nowNs
    return (s, update lastUpdateTimeNs outDev nowNs)
  else some (s, lastUpdateTimeNs)

/-! ## `SwitchNotifyDequeue` -/

/-- The queued data of a port without a packet that leaves. -/
def removeQd (s : SwitchNode) (i : PortIdx) (size : Nat) : SwitchNode :=
  s.modifyPort i fun st => { st with qdLenBytes := drainU64 st.qdLenBytes (UInt64.ofNat size) }

def removeBytes (s : SwitchNode) (inDev ifIndex : PortIdx) (qIndex : QueueIdx)
    (f : Nat → Nat) : SwitchNode :=
  { s with bytes := update s.bytes inDev (update (s.bytes inDev) ifIndex
      (update (s.bytes inDev ifIndex) qIndex (f (s.bytes inDev ifIndex qIndex)))) }

/-- A data packet leaves the count of its port, in both modes by the same code. -/
def releaseQd (s : SwitchNode) (ifIndex : PortIdx) (p : Packet) : SwitchNode :=
  if cfg.cbEnable && p.isDataPacket then s.removeQd ifIndex p.size else s

/-- The branch of the dedicated MMU. -/
def releaseDedicated (s : SwitchNode) (inDev ifIndex : PortIdx) (qIndex : QueueIdx) (p : Packet) :
    SwitchNode :=
  let s := s.removeBytes inDev ifIndex qIndex fun count => count - p.size
  if qIndex = 0 then { s with cbMmu := s.cbMmu.removeCreditAdmission ifIndex p.size }
  else
    let s := { s with cbMmu := s.cbMmu.removeDataAdmission ifIndex p.size }
    s.releaseQd cfg ifIndex p

/-- `CheckAndSendResume`; a RESUME goes through the device. -/
def checkAndSendResume (s : SwitchNode) (inDev : PortIdx) (qIndex : QueueIdx) :
    Option SwitchNode :=
  if cfg.mmu.getResumeClasses s.mmu s.pfc (inDev, qIndex) then do
    let _ ← s.devices[inDev.val]?.join
    return { s with pfc := s.pfc.setResume (inDev, qIndex) }
  else some s

/-- The branch of the shared MMU, for the queues other than 0. -/
def releaseShared (s : SwitchNode) (inDev ifIndex : PortIdx) (qIndex : QueueIdx) (p : Packet) :
    Option SwitchNode := do
  let m ← s.mmu.removeFromIngressAdmission (inDev, qIndex) p.size
  let m ← m.removeFromEgressAdmission cfg.mmu.toMmuConfig (ifIndex, qIndex) p.size
  let m := if cfg.mmu.tlt && p.tltTag = some .notImportant then
      (m.removeFromIngressTLT inDev p.size).removeFromEgressTLT ifIndex p.size
    else m
  let s := { s with mmu := m }
  let s := s.removeBytes inDev ifIndex qIndex fun count => wrapSubU32 count p.size
  (s.releaseQd cfg ifIndex p).checkAndSendResume cfg inDev qIndex

def release (s : SwitchNode) (inDev ifIndex : PortIdx) (qIndex : QueueIdx) (p : Packet) :
    Option SwitchNode :=
  if cfg.dedicatedMmuEnable then some (s.releaseDedicated cfg inDev ifIndex qIndex p)
  else if qIndex ≠ 0 then s.releaseShared cfg inDev ifIndex qIndex p
  else some s

/-- The port that a leaving packet came in by. -/
def arrivalDev (p : Packet) (ifIndex : PortIdx) : PortIdx :=
  match p.flowIdTag.bind portIdx with
  | some i => i
  | none => ifIndex

/-- `SwitchNotifyDequeue`. -/
def switchNotifyDequeue (s : SwitchNode) (lastUpdateTimeNs : PortIdx → UInt64) (ifIndex : PortIdx)
    (qIndex : QueueIdx) (p : Packet) (nowNs : UInt64) :
    Option (SwitchNode × (PortIdx → UInt64)) := do
  let s ← s.release cfg (arrivalDev p ifIndex) ifIndex qIndex p
  let (s, lastUpdateTimeNs) ← s.updateCBPortStateOnTransmit cfg lastUpdateTimeNs ifIndex p nowNs
  let txBytes := update s.txBytes ifIndex (addU64 (s.txBytes ifIndex) p.size)
  return ({ s with txBytes }, lastUpdateTimeNs)

end SwitchNode

end Dpdq.Ns3
