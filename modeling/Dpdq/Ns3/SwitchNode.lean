import Dpdq.Ns3.Packet
import Dpdq.Ns3.SwitchCbMmu
import Dpdq.Ns3.SwitchPfc

/-!
# The ns-3 switch node

`switch-node.cc`: the next hop of a packet, the classification of DPDQ packets, and `SendToDev`,
which bounces or reserves credit, asks one of the two MMUs for admission and enqueues. A read
outside an array, or through a null device, has no result (`none`).

Logging, traces and the `stat_tx` statistics are left out, and so is the link-up assertion, which
optimized builds do not check.
-/

namespace Dpdq.Ns3

open Function

/-! ## State -/

inductive CreditBouncerFcState where
  | normal
  | pause
deriving DecidableEq, Repr

structure CreditBouncerPortState where
  fcState : CreditBouncerFcState := .normal
  qpLenBytes : UInt64 := 0
  qdLenBytes : UInt64 := 0
deriving DecidableEq, Repr

structure SwitchConfig where
  ecmpSeed : UInt32
  ackHighPrio : Bool
  symmetricRouting : Bool
  cbEnable : Bool
  fcEnable : Bool
  dedicatedMmuEnable : Bool
  dedicatedCreditQueueBytes : Nat
  mmu : PfcConfig

/-- A device that is not a null pointer, with the bit rate of its link. -/
structure NetDevice where
  dataRate : Nat
deriving DecidableEq, Repr

structure SwitchNode where
  rtTable : Nat → Option (List Int)
  devices : List (Option NetDevice)
  portState : PortIdx → CreditBouncerPortState := fun _ => {}
  /-- `m_bytes[inDev][outDev][qidx]`. -/
  bytes : PortIdx → PortIdx → QueueIdx → Nat := fun _ _ _ => 0
  txBytes : PortIdx → Nat := fun _ => 0
  mmu : MmuCounters := {}
  pfc : PfcState := {}
  cbMmu : SwitchCbMmu := {}

/-- What `SendToDev` reads from outside: the stack word that `GetOutDev` hashes for a protocol it
does not know, and the next draw of the random drop of unimportant packets. -/
structure Ambient where
  stackWord : UInt32 := 0
  draw : ℚ := 0

def portIdx (i : Nat) : Option PortIdx := if h : i < pCnt then some ⟨i, h⟩ else none

def queueIdx (i : Nat) : Option QueueIdx := if h : i < qCnt then some ⟨i, h⟩ else none

/-! ## Classification -/

namespace Packet

def isCreditBouncerControlPacket (p : Packet) : Bool :=
  p.ch.l3Prot = 0xFB ∧
    (p.hasType .grant ∨ p.hasType .grantReq ∨ p.hasType .bouncedCredit ∨ p.hasType .resend)

def isCreditGrantPacket (p : Packet) : Bool :=
  p.isCreditBouncerControlPacket ∧ p.hasType .grant

def isDataPacket (p : Packet) : Bool := p.ch.l3Prot = 0x11 ∨ p.ch.l3Prot = 0x06

/-- `MarkPacketAsBouncedCredit`. -/
def markAsBouncedCredit (p : Packet) : Packet :=
  match p.cbTag with
  | none => p
  | some tag =>
    if tag.type = .none then p
    else { p with cbTag := some { tag with type := .bouncedCredit } }

/-- The address and port swap of a bounced packet. -/
def swapDirection (p : Packet) : Packet :=
  { p with ch := { p.ch with
      sip := p.ch.dip, dip := p.ch.sip, sport := p.ch.dport, dport := p.ch.sport } }

end Packet

/-! ## Next hop -/

/-- One 32-bit word of `EcmpHash`. -/
def ecmpWord (h k : UInt32) : UInt32 :=
  let k := k * 0xcc9e2d51
  let k := (k <<< 15) ||| (k >>> 17)
  let k := k * 0x1b873593
  let h := h ^^^ k
  let h := (h <<< 13) ||| (h >>> 19)
  h + ((h <<< 2) + 0xe6546b64)

/-- The bytes after the last whole word of `EcmpHash`. -/
def ecmpTail (h : UInt32) : Option UInt32 → UInt32
  | none => h
  | some k =>
    let k := k * 0xcc9e2d51
    let k := (k <<< 15) ||| (k >>> 17)
    h ^^^ (k * 0x1b873593)

/-- `EcmpHash` of a key given by its little-endian words and the bytes that are left. -/
def ecmpHash (words : List UInt32) (tail : Option UInt32) (len seed : UInt32) : UInt32 :=
  let h := ecmpTail (words.foldl ecmpWord seed) tail
  let h := h ^^^ len
  let h := h ^^^ (h >>> 16)
  let h := h * 0x85ebca6b
  let h := h ^^^ (h >>> 13)
  let h := h * 0xc2b2ae35
  h ^^^ (h >>> 16)

/-- Two 16-bit numbers in one word, the first in the low half. -/
def packWord (lo hi : Nat) : UInt32 := UInt32.ofNat lo ||| (UInt32.ofNat hi <<< 16)

/-- `BuildCreditBouncerSymmetricHash`: the smaller end of the tuple comes first. -/
def buildCreditBouncerSymmetricHash (sip dip sport dport pg seq : Nat) : UInt32 :=
  let words := if sip > dip ∨ (sip = dip ∧ sport > dport) then
      [UInt32.ofNat dip, UInt32.ofNat sip, packWord dport sport]
    else [UInt32.ofNat sip, UInt32.ofNat dip, packWord sport dport]
  ecmpHash (words ++ [packWord pg (seq % 2 ^ 16)]) (some (UInt32.ofNat (seq / 2 ^ 16))) 18 0

/-- The protocols whose ports `GetOutDev` reads for a tagged packet. -/
def hasCbTuple (ch : CustomHeader) : Bool :=
  ch.l3Prot = 0x11 ∨ ch.l3Prot = 0xFB ∨ ch.l3Prot = 0xFC ∨ ch.l3Prot = 0xFD

def usesSymmetricHash (cfg : SwitchConfig) (p : Packet) : Bool :=
  cfg.symmetricRouting ∧ hasCbTuple p.ch ∧
    ((p.ch.l3Prot = 0x11 ∧ p.hasType .request) ∨
      (p.ch.l3Prot = 0xFB ∧
        (p.hasType .grant ∨ p.hasType .request ∨ p.hasType .bouncedCredit)))

def defaultHash (cfg : SwitchConfig) (env : Ambient) (ch : CustomHeader) : UInt32 :=
  let ports := if ch.l3Prot = 0x06 ∨ ch.l3Prot = 0x11 ∨ ch.l3Prot = 0xFC ∨ ch.l3Prot = 0xFD ∨
      ch.l3Prot = 0xFB then packWord ch.sport ch.dport else env.stackWord
  ecmpHash [UInt32.ofNat ch.sip, UInt32.ofNat ch.dip, ports] none 12 cfg.ecmpSeed

/-- `GetOutDev`: `-1` without a table entry. -/
def getOutDev (cfg : SwitchConfig) (s : SwitchNode) (env : Ambient) (p : Packet) : Option Int :=
  match s.rtTable p.ch.dip with
  | none => some (-1)
  | some nexthops =>
    let hash := if usesSymmetricHash cfg p then
        buildCreditBouncerSymmetricHash p.ch.sip p.ch.dip p.ch.sport p.ch.dport p.ch.pg p.ch.seq
      else defaultHash cfg env p.ch
    nexthops[hash.toNat % nexthops.length]?

/-! ## Bounce and reservation -/

namespace SwitchNode

def shouldBounceCreditPacket (cfg : SwitchConfig) (s : SwitchNode) (inDev outDev : Nat)
    (p : Packet) : Bool :=
  if !(cfg.cbEnable && cfg.fcEnable) then false
  else if outDev ≥ pCnt then false
  else if !p.isCreditGrantPacket then false
  else match portIdx inDev with
    | none => false
    | some i => (s.portState i).fcState = .pause

/-- The condition of the first branch of `SendToDev`; the device list is read last. -/
def bounces (cfg : SwitchConfig) (s : SwitchNode) (inDevHint idx : Nat) (p : Packet) :
    Option Bool :=
  if s.shouldBounceCreditPacket cfg inDevHint idx p then
    (s.devices[inDevHint]?).map Option.isSome
  else some false

/-- The credit that the phantom queue of the arrival port takes for an unbounced GRANT. -/
def grantCredit (p : Packet) : UInt64 :=
  match p.cbTag with
  | none => 0
  | some tag => UInt64.ofNat tag.creditBytes

def modifyPort (s : SwitchNode) (i : PortIdx)
    (f : CreditBouncerPortState → CreditBouncerPortState) : SwitchNode :=
  { s with portState := update s.portState i (f (s.portState i)) }

def addQp (s : SwitchNode) (i : PortIdx) (credit : UInt64) : SwitchNode :=
  s.modifyPort i fun st => { st with qpLenBytes := st.qpLenBytes + credit }

def addQd (s : SwitchNode) (i : PortIdx) (size : Nat) : SwitchNode :=
  s.modifyPort i fun st => { st with qdLenBytes := st.qdLenBytes + UInt64.ofNat size }

/-- The second branch: the switch reserves the credit of a GRANT on its arrival port. -/
def reserveGrantCredit (cfg : SwitchConfig) (s : SwitchNode) (inDevHint : Nat) (p : Packet) :
    SwitchNode :=
  if cfg.cbEnable && p.isCreditGrantPacket then
    match portIdx inDevHint with
    | none => s
    | some i => s.addQp i (grantCredit p)
  else s

/-! ## Admission -/

def getDedicatedCbQueueIndex (cfg : SwitchConfig) (p : Packet) : Nat :=
  if p.ch.l3Prot = 0xFF ∨ p.ch.l3Prot = 0xFE then 0
  else if p.isCreditBouncerControlPacket then 0
  else if cfg.ackHighPrio ∧ (p.ch.l3Prot = 0xFD ∨ p.ch.l3Prot = 0xFC) then 0
  else 1

def getQueueIndex (cfg : SwitchConfig) (p : Packet) : Nat :=
  if cfg.dedicatedMmuEnable then getDedicatedCbQueueIndex cfg p
  else if p.ch.l3Prot = 0xFF ∨ p.ch.l3Prot = 0xFE ∨
      (cfg.ackHighPrio ∧ (p.ch.l3Prot = 0xFD ∨ p.ch.l3Prot = 0xFC)) then 0
  else if p.ch.l3Prot = 0x06 then 1
  else p.ch.pg

/-- The port count that `SyncDedicatedCbMmuConfig` derives from the devices of the node. -/
def activePorts (s : SwitchNode) : Nat := if s.devices.length > 0 then s.devices.length - 1 else 0

def syncDedicatedCbMmuConfig (cfg : SwitchConfig) (s : SwitchNode) : SwitchNode :=
  let m := if s.cbMmu.activePortCnt ≠ s.activePorts then s.cbMmu.setActivePortCnt s.activePorts
    else s.cbMmu
  { s with cbMmu := m.setCreditQueueLimitBytes cfg.dedicatedCreditQueueBytes }

/-- The unimportant packets of TLT are dropped before the buffer checks. -/
def tltDrop (cfg : SwitchConfig) (s : SwitchNode) (env : Ambient) (idx : Nat) (p : Packet) :
    Option Bool :=
  if !cfg.dedicatedMmuEnable && cfg.mmu.tlt && p.tltTag = some .notImportant then do
    let i ← portIdx idx
    return !(s.mmu.checkEgressTLT cfg.mmu.toMmuConfig i p.size env.draw)
  else some false

/-- The device that the shared MMU charges: the flow tag if it names one, else the arrival port. -/
def admissionDev (p : Packet) (inDevHint : Nat) : Nat :=
  let inDev := p.flowIdTag.getD inDevHint
  if inDev ≥ pCnt then inDevHint else inDev

/-- The dedicated MMU: control packets to the credit queue, everything else to the data queue. -/
def admitDedicated (m : SwitchCbMmu) (forwardIdx qIndex psize : Nat) : Option SwitchCbMmu :=
  if qIndex = 0 then
    if m.checkCreditAdmission forwardIdx psize then
      some (m.updateCreditAdmission forwardIdx psize)
    else none
  else if m.checkDataAdmission forwardIdx psize then some (m.updateDataAdmission forwardIdx psize)
  else none

/-- The counters that the shared MMU charges for an admitted packet. -/
def chargeShared (cfg : SwitchConfig) (m : MmuCounters) (inCell outCell : Cell) (p : Packet) :
    Option MmuCounters := do
  let m := m.updateIngressAdmission cfg.mmu.toMmuConfig inCell p.size
  let m ← m.updateEgressAdmission cfg.mmu.toMmuConfig outCell p.size
  if cfg.mmu.tlt && p.tltTag.getD .notImportant = .notImportant then
    return (m.updateIngressTLT inCell.1 p.size).updateEgressTLT outCell.1 p.size
  else return m

/-- What became of a packet. -/
inductive Verdict where
  /-- `GetOutDev` found no next hop. -/
  | noRoute
  /-- Dropped by the admission control. -/
  | dropped
  /-- Handed to `SwitchSend` of a device, with the PFC frames sent on the way. -/
  | sent (dev qIndex : Nat) (p : Packet) (pfc : List (QueueIdx × PfcType))
deriving DecidableEq, Repr

/-- The end of `SendToDev` for an admitted packet. -/
def enqueue (cfg : SwitchConfig) (s : SwitchNode) (p : Packet) (inDev forwardIdx qIndex : Nat)
    (pfc : List (QueueIdx × PfcType)) : Option (Verdict × SwitchNode) := do
  let i ← portIdx inDev
  let o ← portIdx forwardIdx
  let q ← queueIdx qIndex
  let s := if cfg.cbEnable && p.isDataPacket then s.addQd o p.size else s
  let count := addU32 (s.bytes i o q) p.size
  let s := { s with bytes := update s.bytes i (update (s.bytes i) o (update (s.bytes i o) q count)) }
  let _ ← s.devices[forwardIdx]?.join
  return (.sent forwardIdx qIndex p pfc, s)

/-- Admission and enqueueing in dedicated mode. -/
def forwardDedicated (cfg : SwitchConfig) (s : SwitchNode) (p : Packet) (inDev forwardIdx : Nat) :
    Option (Verdict × SwitchNode) :=
  let qIndex := getQueueIndex cfg p
  let s := s.syncDedicatedCbMmuConfig cfg
  match admitDedicated s.cbMmu forwardIdx qIndex p.size with
  | none => some (.dropped, s)
  | some m => enqueue cfg { s with cbMmu := m } p inDev forwardIdx qIndex []

/-- Admission and enqueueing with the shared MMU; queue 0 is not checked. -/
def forwardShared (cfg : SwitchConfig) (s : SwitchNode) (p : Packet) (tltDrop : Bool)
    (inDev forwardIdx : Nat) : Option (Verdict × SwitchNode) :=
  let qIndex := getQueueIndex cfg p
  if qIndex = 0 then enqueue cfg s p inDev forwardIdx qIndex []
  else if tltDrop then some (.dropped, s)
  else do
    let i ← portIdx inDev
    let q ← queueIdx qIndex
    if !s.mmu.checkIngressAdmission cfg.mmu.toMmuConfig (i, q) p.size then
      return (.dropped, s)
    let o ← portIdx forwardIdx
    if !s.mmu.checkEgressAdmission cfg.mmu.toMmuConfig (o, q) p.size then
      return (.dropped, s)
    let m ← chargeShared cfg s.mmu (i, q) (o, q) p
    let (pfc, frames) := s.pfc.checkAndSendPfc cfg.mmu m i q
    let device ← s.devices[inDev]?
    if frames ≠ [] ∧ device = none then none
    else enqueue cfg { s with mmu := m, pfc := pfc } p inDev forwardIdx qIndex frames

/-! ## `SendToDev` -/

/-- The packet and the port it goes to after the first branch, and the state with the
reservation. -/
def bounceOrReserve (cfg : SwitchConfig) (s : SwitchNode) (p : Packet) (inDevHint idx : Nat) :
    Option (SwitchNode × Packet × Nat) := do
  if ← s.bounces cfg inDevHint idx p then
    let q := { p.markAsBouncedCredit with justBounced := true }
    return (s, if p.ch.l3Prot = 0xFB then q.swapDirection else q, inDevHint)
  else return (s.reserveGrantCredit cfg inDevHint p, p, idx)

/-- `SendToDev`. -/
def sendToDev (cfg : SwitchConfig) (s : SwitchNode) (env : Ambient) (p : Packet)
    (inDevHint : Nat) : Option (Verdict × SwitchNode) := do
  let idx ← getOutDev cfg s env p
  if idx < 0 then return (.noRoute, s)
  let (s, p, forwardIdx) ← s.bounceOrReserve cfg p inDevHint idx.toNat
  let drop ← s.tltDrop cfg env idx.toNat p
  let inDev := admissionDev p inDevHint
  if cfg.dedicatedMmuEnable then s.forwardDedicated cfg p inDev forwardIdx
  else s.forwardShared cfg p drop inDev forwardIdx

end SwitchNode

end Dpdq.Ns3
