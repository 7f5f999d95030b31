import Dpdq.Tofino.Parser

/-!
# The ingress control

The ingress pipeline of `dpdq.p4`: its register, its actions and its `apply` block, cut at the
top-level statements. The match-action tables are what the control plane installed, so they are
parameters (`Tables`).

* `ingressApply_fcReg_of_no_sync`: without a synchronisation header the replica register is
  untouched.
* `ingressApply_fcReg_of_sync`: with one, exactly the word of its port is written.
-/

namespace Dpdq.Tofino

open Lib

/-! ## Registers -/

/-- `Register<bit<w>, bit<9>>(512, 0)` -/
abbrev Register (w : Nat) := PortId → BitVec w

/-- One register action: update the addressed word and return a result. -/
def Register.execute {w : Nat} {ρ : Type} (r : Register w) (i : PortId)
    (action : BitVec w → BitVec w × ρ) : Register w × ρ :=
  (fun j => if j = i then (action (r i)).1 else r j, (action (r i)).2)

@[simp] theorem Register.execute_self {w : Nat} {ρ : Type} (r : Register w) (i : PortId)
    (action : BitVec w → BitVec w × ρ) : (r.execute i action).1 i = (action (r i)).1 := by
  simp [execute]

theorem Register.execute_of_ne {w : Nat} {ρ : Type} (r : Register w) {i j : PortId}
    (action : BitVec w → BitVec w × ρ) (h : j ≠ i) : (r.execute i action).1 j = r j := by
  simp [execute, h]

theorem Register.execute_eq_self {w : Nat} {ρ : Type} {r : Register w} {i : PortId}
    {action : BitVec w → BitVec w × ρ} (h : (action (r i)).1 = r i) :
    (r.execute i action).1 = r := by
  funext j
  by_cases hj : j = i
  · subst j
    rw [execute_self, h]
  · rw [execute_of_ne r action hj]

/-! ## Tables -/

inductive ForwardAction
  | forward (port : PortId) (srcMac dstMac : MacAddr)
  | drop
  deriving DecidableEq, Repr

inductive ClassifyAction
  | classifyPlain
  | classifyData
  | classifySignal
  deriving DecidableEq, Repr

inductive EffectAction
  | computeDataNetAdd
  | computeDataNetSubtract
  | computeSignalNetAdd
  | computeSignalNetSubtract
  | noAction
  deriving DecidableEq, Repr

/-- The installed entries; `none` is a miss, which takes the table's default action. -/
structure Tables where
  dpdqRecircPorts : PortId → Bool
  ipv4Forward : Ipv4Addr → Option ForwardAction
  packetClassify : BitVec 8 → BitVec 1 → Option ClassifyAction
  approximateEffect : BitVec 2 → BitVec 16 → Option EffectAction

/-! ## Constants -/

def dpdqControlQid : BitVec 5 := 0#5
def dpdqDataQid : BitVec 5 := 1#5
def dpdqMetaShim : BitVec 16 := 0x0800#16
def dpdqMetaClassData : BitVec 16 := 0x0400#16
def dpdqMetaClassSignal : BitVec 16 := 0x0200#16

/-! ## Actions -/

/-- What the ingress control reads and writes while it processes one packet. An egress port that
was never written is `none`. -/
structure IngressState where
  hdr : Headers
  creditHandled : BitVec 1 := 0
  fcState : BitVec 1 := 0
  shouldForward : BitVec 1 := 0
  ucastEgressPort : Option PortId := none
  qid : BitVec 5 := dpdqDataQid
  dropCtl : BitVec 3 := 0
  fcReg : Register 8

namespace IngressState

/-- The value of `ig_tm_md.ucast_egress_port` when it is read. -/
def egressPort (s : IngressState) : PortId := s.ucastEgressPort.getD 0

def readIngressFcAction (value : BitVec 8) : BitVec 8 × BitVec 1 := (value, value.setWidth 1)
def writeIngressPauseAction (_ : BitVec 8) : BitVec 8 × BitVec 1 := (1, 1)
def writeIngressNormalAction (_ : BitVec 8) : BitVec 8 × BitVec 1 := (0, 0)

def executeFc (s : IngressState) (port : PortId) (action : BitVec 8 → BitVec 8 × BitVec 1) :
    IngressState :=
  let r := s.fcReg.execute port action
  { s with fcReg := r.1, fcState := r.2 }

def forward (s : IngressState) (port : PortId) (srcMac dstMac : MacAddr) : IngressState :=
  { s with
    hdr := { s.hdr with
      ipv4 := s.hdr.ipv4.map fun h => { h with ttl := h.ttl - 1 }
      ethernet := s.hdr.ethernet.map fun h => { h with srcAddr := srcMac, dstAddr := dstMac } }
    ucastEgressPort := some port }

def drop (s : IngressState) : IngressState := { s with dropCtl := 1 }

def bounceCreditTo (s : IngressState) (port : PortId) : IngressState :=
  { s with
    hdr := { s.hdr with
      ethernet := s.hdr.ethernet.map fun h =>
        { h with srcAddr := h.dstAddr, dstAddr := h.srcAddr }
      ipv4 := s.hdr.ipv4.map fun h => { h with srcAddr := h.dstAddr, dstAddr := h.srcAddr }
      dpdq := s.hdr.dpdq.map fun h =>
        { h with flags := h.flags ||| dpdqFlagBounced, reserved := port.setWidth 16 }
      udp := s.hdr.udp.map fun h => { h with checksum := 0 } }
    creditHandled := 1
    ucastEgressPort := some port
    qid := dpdqControlQid }

/-- The shim both credit actions write: the port whose phantom queue the egress updates, and
the internal header that says how. -/
def setShim (s : IngressState) (port : PortId) (subtract updateFc : BitVec 1) : IngressState :=
  { s with
    hdr := { s.hdr with
      dpdq := s.hdr.dpdq.map fun h => { h with reserved := port.setWidth 16 ||| dpdqMetaShim }
      dpdqInternal := s.hdr.dpdq.map fun h => ⟨h.credit, subtract, updateFc, 0⟩ }
    creditHandled := 1
    qid := dpdqControlQid }

def acceptCredit (s : IngressState) (ingressPort : PortId) : IngressState :=
  s.setShim ingressPort 0 0

def acceptRemoteBounce (s : IngressState) : IngressState := s.setShim s.egressPort 1 1

def setReserved (s : IngressState) (reserved : BitVec 16) : IngressState :=
  { s with hdr := { s.hdr with dpdq := s.hdr.dpdq.map fun h => { h with reserved := reserved } } }

def classifyPlain (s : IngressState) : IngressState := s.setReserved (s.egressPort.setWidth 16)

def classifyData (s : IngressState) : IngressState :=
  s.setReserved (s.egressPort.setWidth 16 ||| dpdqMetaClassData)

def classifySignal (s : IngressState) : IngressState :=
  { s.setReserved (s.egressPort.setWidth 16 ||| dpdqMetaClassSignal) with qid := dpdqControlQid }

end IngressState

/-! ## The apply block -/

/-- A GRANT that has not been bounced. -/
def DpdqHeader.isUnbouncedGrant (h : DpdqHeader) : Bool :=
  h.msgType = dpdqGrant && h.flags &&& dpdqFlagBounced = 0

/-- A GRANT on its way back. -/
def DpdqHeader.isBouncedGrant (h : DpdqHeader) : Bool :=
  h.msgType = dpdqGrant && h.flags &&& dpdqFlagBounced ≠ 0

open IngressState

/-- `if (hdr.dpdq_sync.isValid()) { … drop(); }` -/
def applySync (s : IngressState) : IngressState :=
  match s.hdr.dpdqSync with
  | none => s
  | some sync =>
    if getElem sync.paused 0 fcBit_lt then (s.executeFc (sync.port.setWidth 9) writeIngressPauseAction).drop
    else (s.executeFc (sync.port.setWidth 9) writeIngressNormalAction).drop

def applyShouldForward (s : IngressState) : IngressState :=
  if s.hdr.ipv4.isSome then { s with shouldForward := 1 } else s

def applyGrant (ingressPort : PortId) (s : IngressState) : IngressState :=
  match s.hdr.dpdq with
  | none => s
  | some h =>
    if h.isUnbouncedGrant then
      let s := s.executeFc ingressPort readIngressFcAction
      if s.fcState = 1 then { s.bounceCreditTo ingressPort with shouldForward := 0 }
      else s.acceptCredit ingressPort
    else s

def applyForward (T : Tables) (s : IngressState) : IngressState :=
  match s.hdr.ipv4 with
  | none => s
  | some h =>
    if s.shouldForward = 1 then
      match (T.ipv4Forward h.dstAddr).getD .drop with
      | .forward port srcMac dstMac => s.forward port srcMac dstMac
      | .drop => s.drop
    else s

def applyRemoteBounce (s : IngressState) : IngressState :=
  match s.hdr.dpdq with
  | none => s
  | some h => if s.creditHandled = 0 ∧ h.isBouncedGrant then s.acceptRemoteBounce else s

def applyClassify (T : Tables) (s : IngressState) : IngressState :=
  match s.hdr.dpdq with
  | none => s
  | some h =>
    if s.creditHandled = 0 then
      match (T.packetClassify h.msgType (h.flags.extractLsb' 1 1)).getD .classifyPlain with
      | .classifyPlain => s.classifyPlain
      | .classifyData => s.classifyData
      | .classifySignal => s.classifySignal
    else s

/-- The `apply` block of `Ingress`. -/
def ingressApply (T : Tables) (ingressPort : PortId) (fcReg : Register 8) (hdr : Headers) :
    IngressState :=
  applyClassify T <| applyRemoteBounce <| applyForward T <| applyGrant ingressPort <|
    applyShouldForward <| applySync { hdr, fcReg }

/-! ## The replica register -/

/-- The word a synchronisation header writes. -/
def fcWord (paused : Bool) : BitVec 8 := if paused then 1 else 0

theorem executeFc_read_fcReg (s : IngressState) (port : PortId) :
    (s.executeFc port readIngressFcAction).fcReg = s.fcReg :=
  Register.execute_eq_self rfl

@[simp] theorem applyShouldForward_fcReg (s : IngressState) :
    (applyShouldForward s).fcReg = s.fcReg := by
  unfold applyShouldForward
  split <;> rfl

@[simp] theorem applyGrant_fcReg (ingressPort : PortId) (s : IngressState) :
    (applyGrant ingressPort s).fcReg = s.fcReg := by
  unfold applyGrant
  split
  · rfl
  · split
    · dsimp only
      split <;> exact executeFc_read_fcReg s ingressPort
    · rfl

@[simp] theorem applyForward_fcReg (T : Tables) (s : IngressState) :
    (applyForward T s).fcReg = s.fcReg := by
  unfold applyForward
  split
  · rfl
  · split
    · split <;> rfl
    · rfl

@[simp] theorem applyRemoteBounce_fcReg (s : IngressState) :
    (applyRemoteBounce s).fcReg = s.fcReg := by
  unfold applyRemoteBounce
  split
  · rfl
  · split <;> rfl

@[simp] theorem applyClassify_fcReg (T : Tables) (s : IngressState) :
    (applyClassify T s).fcReg = s.fcReg := by
  unfold applyClassify
  split
  · rfl
  · split
    · split <;> rfl
    · rfl

theorem ingressApply_fcReg (T : Tables) (ingressPort : PortId) (fcReg : Register 8)
    (hdr : Headers) :
    (ingressApply T ingressPort fcReg hdr).fcReg = (applySync { hdr, fcReg }).fcReg := by
  simp [ingressApply]

/-- A packet without a synchronisation header leaves the replica register as it is. -/
theorem ingressApply_fcReg_of_no_sync (T : Tables) (ingressPort : PortId) (fcReg : Register 8)
    {hdr : Headers} (h : hdr.dpdqSync = none) :
    (ingressApply T ingressPort fcReg hdr).fcReg = fcReg := by
  rw [ingressApply_fcReg]
  simp [applySync, h]

/-- A synchronisation header writes the word of its port, and no other. -/
theorem ingressApply_fcReg_of_sync (T : Tables) (ingressPort : PortId) (fcReg : Register 8)
    {hdr : Headers} {sync : DpdqSync} (h : hdr.dpdqSync = some sync) :
    (ingressApply T ingressPort fcReg hdr).fcReg = fun p =>
      if p = sync.port.setWidth 9 then fcWord (getElem sync.paused 0 fcBit_lt) else fcReg p := by
  rw [ingressApply_fcReg]
  simp only [applySync, h]
  split <;> rename_i hPaused <;> simp only [hPaused, fcWord] <;> rfl

end Dpdq.Tofino
