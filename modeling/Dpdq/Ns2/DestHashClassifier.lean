import Mathlib.Data.Rat.Floor
import Mathlib.Logic.Function.Basic
import Dpdq.Lib.Machine
import Dpdq.Ns2.R2p2Hdr

/-!
# The ns-2 switch

`DestHashClassifier` of `classifier-hash.cc`: the slot of a packet, the phantom queue of the port that
it comes in by (`ppass_ingress`) and of the one that it leaves by (`ppass_egress`). Time is rational,
and so are the drain rates. The bytes in the egress queues belong to other objects, a packet brings
them along.
-/

namespace Dpdq.Ns2

open Function
open Dpdq.Lib

/-- A packet as a switch sees it: the label of the interface that it came in by, whether it is UDP,
its addresses and its size, `hdr_r2p2` and the ECN mark. -/
structure FabricPacket where
  iface : Int
  udp : Bool := true
  saddr : Int
  daddr : Int
  size : Nat
  msgType : MsgType
  bouncedCredit : Bool := false
  credit : Int := 0
  isUnsolPkt : Bool := false
  ce : Bool := false
deriving DecidableEq, Repr

namespace FabricPacket

def isUnboundedGrant (p : FabricPacket) : Bool := p.msgType = .grant ∧ p.bouncedCredit = false

/-- The packets that take room in the phantom queue that they leave by. -/
def isCharged (p : FabricPacket) : Bool :=
  p.msgType = .grant ∨ p.isUnsolPkt ∨ p.msgType = .grantReq ∨ p.msgType = .resend

/-- `is_data_pkt`. -/
def isDataPkt (p : FabricPacket) : Bool :=
  p.msgType = .request ∨ p.msgType = .grantReq ∨ p.msgType = .reply

end FabricPacket

structure PPassPortStatus where
  pqlen : UInt64 := 0
  lastTime : ℚ := 0
  paused : Bool := false
deriving DecidableEq, Repr

/-- The settings of a switch and its slots up to `maxslot_`, each with the label of the interface that
`get_iface` finds behind it. -/
structure DestHashConfig where
  enablePpass : Bool
  pthr : Int
  lineRateGbps : ℚ
  rho : ℚ
  xoffBytes : Int
  xonBytes : Int
  hash : Int → Int
  defaultSlot : Int
  slots : List (Option Int)

namespace DestHashConfig

variable (cfg : DestHashConfig)

/-! ## Slots -/

def lookup (p : FabricPacket) : Int := cfg.hash p.daddr

/-- The slot of a packet that is not bounced. -/
def slotOf (p : FabricPacket) : Int :=
  let slot := cfg.lookup p
  if 0 ≤ slot ∧ slot < cfg.slots.length then slot
  else if 0 ≤ cfg.defaultSlot then cfg.defaultSlot
  else -1

def getIface (slot : Int) : Option Int :=
  if slot < 0 then none else (cfg.slots[slot.toNat]?).join

def getSlotForIfaceLabel (label : Int) : Int :=
  match cfg.slots.findIdx? fun iface => iface = some label with
  | some slot => slot
  | none => -1

/-! ## The phantom queue of a port -/

def xoff : Int := if 0 < cfg.xoffBytes then cfg.xoffBytes else cfg.pthr

def xon : Int :=
  if 0 ≤ cfg.xonBytes then cfg.xonBytes else max 0 (cfg.xoff - minEthernetFrameOnWire)

def drainPhantomQueue (now : ℚ) (status : PPassPortStatus) : PPassPortStatus :=
  let interval := now - status.lastTime
  let interval := if status.lastTime = 0 ∨ interval < 0 then 0 else interval
  let delta := UInt64.ofNat ⌊cfg.rho * interval * cfg.lineRateGbps * 125000000⌋₊
  { status with
    lastTime := now
    pqlen := if delta > status.pqlen then 0 else status.pqlen - delta }

def getCongestionMetric (egressQlen : UInt64) (status : PPassPortStatus) : UInt64 :=
  max status.pqlen egressQlen

def updatePortState (egressQlen : UInt64) (status : PPassPortStatus) : PPassPortStatus :=
  if cfg.xoff ≤ 0 then status
  else
    let metric := getCongestionMetric egressQlen status
    if !status.paused && decide (metric.toNat > cfg.xoff.toNat) then { status with paused := true }
    else if status.paused && decide (metric.toNat < cfg.xon.toNat) then
      { status with paused := false }
    else status

def bounceCredit (p : FabricPacket) : FabricPacket :=
  { p with saddr := p.daddr, daddr := p.saddr, bouncedCredit := true }

/-- `ppass_ingress`: whether the packet is bounced, the packet and the port behind it. -/
def ppassIngress (egressQlen : UInt64) (p : FabricPacket) (status : PPassPortStatus) :
    Bool × FabricPacket × PPassPortStatus :=
  let status := cfg.updatePortState egressQlen status
  if p.isUnboundedGrant && status.paused then (true, bounceCredit p, status)
  else
    let status :=
      if p.isUnboundedGrant then { status with pqlen := status.pqlen + UInt64.ofInt p.credit }
      else status
    (false, p, cfg.updatePortState egressQlen status)

/-- The phantom queue with a packet that leaves: a bounced credit on its way back revokes what it
reserved. The comparison is one of `int`. -/
def chargePhantomQueue (p : FabricPacket) (justBounced : Bool) (status : PPassPortStatus) :
    PPassPortStatus :=
  if p.msgType = .grant ∧ p.bouncedCredit ∧ justBounced = false then
    { status with
      pqlen :=
        if p.credit > Int.bmod status.pqlen.toNat (2 ^ 32) then 0
        else status.pqlen - UInt64.ofInt p.credit }
  else if p.isCharged then { status with pqlen := status.pqlen + UInt64.ofNat p.size }
  else status

def ppassEgress (egressQlen : UInt64) (now : ℚ) (p : FabricPacket) (justBounced : Bool)
    (status : PPassPortStatus) : FabricPacket × PPassPortStatus :=
  let status := cfg.drainPhantomQueue now status
  let status := cfg.updatePortState egressQlen (chargePhantomQueue p justBounced status)
  let mark := p.isDataPkt && decide (getCongestionMetric egressQlen status > UInt64.ofInt cfg.pthr)
  ({ p with ce := p.ce || mark }, status)

/-! ## Classification -/

/-- What becomes of a packet: its slot, itself, and the ports. -/
structure Classified where
  slot : Int
  packet : FabricPacket
  bounced : Bool := false
  ports : Int → PPassPortStatus

/-- The slot that a packet is sent to behind `ppass_ingress`. -/
def retSlot (p : FabricPacket) (bounced : Bool) (forwarded : FabricPacket) : Int :=
  if bounced then
    let slot := cfg.getSlotForIfaceLabel p.iface
    if slot < 0 then cfg.lookup forwarded else slot
  else cfg.slotOf p

def classify (egressQlen : Int → UInt64) (now : ℚ) (ports : Int → PPassPortStatus)
    (p : FabricPacket) : Classified :=
  if cfg.enablePpass && p.udp then
    let (bounced, forwarded, status) :=
      cfg.ppassIngress (egressQlen p.iface) p (ports p.iface)
    let ports := update ports p.iface status
    let slot := cfg.retSlot p bounced forwarded
    match cfg.getIface slot with
    | none => { slot, packet := forwarded, bounced, ports }
    | some label =>
      let (forwarded, status) :=
        cfg.ppassEgress (egressQlen label) now forwarded bounced (ports label)
      { slot, packet := forwarded, bounced, ports := update ports label status }
  else { slot := cfg.slotOf p, packet := p, ports }

end DestHashConfig

/-! ## The switch -/

/-- A packet, the time at which it arrives and the bytes in the egress queues. -/
structure FabricArrival where
  now : ℚ
  packet : FabricPacket
  egressQlen : Int → UInt64 := fun _ => 0

structure DestHashSwitch where
  clock : ℚ := 0
  ports : Int → PPassPortStatus := fun _ => {}

/-- The clock of the scheduler does not go back. -/
def destHash (cfg : DestHashConfig) : Machine DestHashSwitch FabricArrival where
  init := {}
  step s a :=
    if s.clock ≤ a.now then
      some { clock := a.now, ports := (cfg.classify a.egressQlen a.now s.ports a.packet).ports }
    else none

end Dpdq.Ns2
