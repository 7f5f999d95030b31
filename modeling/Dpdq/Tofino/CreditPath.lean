import Dpdq.Tofino.Switch

/-!
# A GRANT on its way through the switch

`traverse` sends one packet through ingress and, unless it is dropped there, through egress: the
register words and the packet that come out. For a GRANT that arrives with its reserved field
clear, the decision taken in ingress reaches egress in the reserved field and the internal
header, and the packet leaves without either.

* `traverse_bounced`, `traverse_accepted`, `traverse_revoked`, `traverse_dropped`: the four ways.
* `grant_end_to_end`: all of them.
-/

namespace Dpdq.Tofino

open Lib IngressState

/-! ## One traversal -/

structure Traversal where
  ingressFc : Register 8
  egress : EgressRegs
  sync : Option DpdqSync
  packet : Option (PortId × Bits)

/-- Ingress, and then egress on the packet that ingress sends on. `regs` are the registers that
egress finds when the packet gets there. -/
def traverse (T : Tables) (intr : EgressIntrinsic) (fcReg : Register 8) (regs : EgressRegs)
    (port : PortId) (pkt : Bits) : Traversal :=
  let ingress := ingressPipe T fcReg port pkt
  match ingress.2 with
  | none => ⟨ingress.1, regs, none, none⟩
  | some tm =>
    let out := egressPipe T intr regs tm.bits
    ⟨ingress.1, out.regs, out.sync, out.bits.map fun bits => (tm.egressPort, bits)⟩

/-! ## GRANT packets -/

/-- The headers of a DPDQ packet. -/
def dpdqStack (e : Ethernet) (i : Ipv4) (u : Udp) (d : DpdqHeader)
    (internal : Option DpdqInternal) : Headers where
  ethernet := some e
  ipv4 := some i
  udp := some u
  dpdq := some d
  dpdqInternal := internal

/-- A GRANT whose reserved field is clear: its headers, in the order of the parser, and the
bits behind them. -/
structure GrantPacket where
  ethernet : Ethernet
  ipv4 : Ipv4
  udp : Udp
  dpdq : DpdqHeader
  payload : Bits
  etherType_eq : ethernet.etherType = ethertypeIpv4
  protocol_eq : ipv4.protocol = ipProtocolUdp
  dstPort_eq : udp.dstPort = dpdqUdpPort
  msgType_eq : dpdq.msgType = dpdqGrant
  reserved_eq : dpdq.reserved = 0

theorem layered_dpdqStack {e : Ethernet} {i : Ipv4} {u : Udp} {d : DpdqHeader}
    {internal : Option DpdqInternal} (hType : e.etherType = ethertypeIpv4)
    (hProtocol : i.protocol = ipProtocolUdp) (hPort : u.dstPort = dpdqUdpPort)
    (hShim : getElem d.reserved 11 shimBit_lt = internal.isSome) :
    Layered (dpdqStack e i u d internal) := by
  cases internal with
  | none => exact .dpdq hType hProtocol hPort hShim
  | some n => exact .dpdqInternal hType hProtocol hPort hShim

@[simp] theorem dpdqStack_updateChecksum (e : Ethernet) (i : Ipv4) (u : Udp) (d : DpdqHeader)
    (internal : Option DpdqInternal) :
    (dpdqStack e i u d internal).updateChecksum = dpdqStack e i.updateChecksum u d internal := rfl

namespace GrantPacket

def headers (g : GrantPacket) : Headers := dpdqStack g.ethernet g.ipv4 g.udp g.dpdq none

def bits (g : GrantPacket) : Bits := emitLayers g.headers ++ g.payload

def isBounced (g : GrantPacket) : Bool := g.dpdq.flags &&& dpdqFlagBounced ≠ 0

theorem layered (g : GrantPacket) : Layered g.headers :=
  layered_dpdqStack g.etherType_eq g.protocol_eq g.dstPort_eq (by simp [g.reserved_eq])

theorem layerParser_bits (g : GrantPacket) : layerParser g.bits = some (g.headers, g.payload) :=
  layerParser_emitLayers g.layered g.payload

theorem ingressParser_bits {T : Tables} {port : PortId} (g : GrantPacket)
    (hSync : readsAsSync T port g.bits = false) :
    ingressParser T.dpdqRecircPorts port g.bits = some (g.headers, g.payload) :=
  ingressParser_layerParser hSync g.layerParser_bits

/-- The packet between the pipelines: the port in the reserved field, and the internal header
when there is one. -/
def within (g : GrantPacket) (e : Ethernet) (i : Ipv4) (u : Udp) (d : DpdqHeader)
    (internal : Option DpdqInternal) : Bits :=
  emitLayers (dpdqStack e i.updateChecksum u d internal) ++ g.payload

/-- The packet on the wire: no internal header, and the reserved field clear. -/
def leave (g : GrantPacket) (e : Ethernet) (i : Ipv4) (u : Udp) (d : DpdqHeader) : Bits :=
  g.within e i u { d with reserved := 0 } none

/-! ### The headers that leave -/

/-- `bounce_credit_to` on the Ethernet header. -/
def swappedEthernet (g : GrantPacket) : Ethernet :=
  { g.ethernet with srcAddr := g.ethernet.dstAddr, dstAddr := g.ethernet.srcAddr }

/-- `bounce_credit_to` on the IPv4 header. -/
def swappedIpv4 (g : GrantPacket) : Ipv4 :=
  { g.ipv4 with srcAddr := g.ipv4.dstAddr, dstAddr := g.ipv4.srcAddr }

/-- `bounce_credit_to` on the UDP header. -/
def clearedUdp (g : GrantPacket) : Udp := { g.udp with checksum := 0 }

/-- `bounce_credit_to` on the DPDQ header. -/
def markedDpdq (g : GrantPacket) (port : PortId) : DpdqHeader :=
  { g.dpdq with flags := g.dpdq.flags ||| dpdqFlagBounced, reserved := port.setWidth 16 }

/-- `forward` on the Ethernet header. -/
def routedEthernet (g : GrantPacket) (srcMac dstMac : MacAddr) : Ethernet :=
  { g.ethernet with srcAddr := srcMac, dstAddr := dstMac }

/-- `forward` on the IPv4 header. -/
def routedIpv4 (g : GrantPacket) : Ipv4 := { g.ipv4 with ttl := g.ipv4.ttl - 1 }

/-- The DPDQ header with the shim of the egress update. -/
def shimDpdq (g : GrantPacket) (port : PortId) : DpdqHeader :=
  { g.dpdq with reserved := port.setWidth 16 ||| dpdqMetaShim }

/-- The packet returned to its sender: MAC and IP addresses swapped, BOUNCED set. -/
def returned (g : GrantPacket) : Bits :=
  g.leave g.swappedEthernet g.swappedIpv4 g.clearedUdp
    { g.dpdq with flags := g.dpdq.flags ||| dpdqFlagBounced }

/-- The packet routed on: new MAC addresses, one hop less to live. -/
def routed (g : GrantPacket) (srcMac dstMac : MacAddr) : Bits :=
  g.leave (g.routedEthernet srcMac dstMac) g.routedIpv4 g.udp g.dpdq

end GrantPacket

/-! ## Ingress -/

theorem setWidth_shim (p : PortId) : (p.setWidth 16 ||| dpdqMetaShim).setWidth 9 = p := by
  ext i hi
  simp [dpdqMetaShim]

theorem shim_getElem (p : PortId) : getElem (p.setWidth 16 ||| dpdqMetaShim) 11 shimBit_lt = true := by
  simp [dpdqMetaShim]

theorem port_getElem (p : PortId) : getElem (p.setWidth 16) 11 shimBit_lt = false := by
  simp

theorem setWidth_one_eq_one_iff (value : BitVec 8) :
    value.setWidth 1 = 1 ↔ getElem value 0 fcBit_lt = true := by
  constructor
  · intro h
    have hBit := congrArg (fun x : BitVec 1 => x[0]) h
    simpa using hBit
  · intro h
    ext i hi
    obtain rfl : i = 0 := by omega
    simpa using h

section Ingress

variable {T : Tables} {port : PortId} {fcReg : Register 8} (g : GrantPacket)

theorem isUnbouncedGrant_eq : g.dpdq.isUnbouncedGrant = !g.isBounced := by
  simp [DpdqHeader.isUnbouncedGrant, g.msgType_eq, GrantPacket.isBounced]

theorem isBouncedGrant_eq : g.dpdq.isBouncedGrant = g.isBounced := by
  simp [DpdqHeader.isBouncedGrant, g.msgType_eq, GrantPacket.isBounced]

/-- The ingress state of a GRANT when its turn in the `apply` block comes. -/
def GrantPacket.entry (g : GrantPacket) (fcReg : Register 8) : IngressState :=
  { hdr := g.headers, fcReg, shouldForward := 1 }

theorem applyShouldForward_grant :
    applyShouldForward (applySync { hdr := g.headers, fcReg }) = g.entry fcReg := rfl

theorem applyGrant_paused (hUnbounced : g.isBounced = false)
    (hPause : getElem (fcReg port) 0 fcBit_lt = true) :
    applyGrant port (g.entry fcReg) =
      { ((g.entry fcReg).executeFc port readIngressFcAction).bounceCreditTo port with
        shouldForward := 0 } := by
  have hState : ((g.entry fcReg).executeFc port readIngressFcAction).fcState = 1 :=
    (setWidth_one_eq_one_iff _).mpr hPause
  simp only [applyGrant, GrantPacket.entry, GrantPacket.headers, dpdqStack, isUnbouncedGrant_eq,
    hUnbounced, Bool.not_false, if_true]
  exact if_pos hState

theorem applyGrant_normal (hUnbounced : g.isBounced = false)
    (hNormal : getElem (fcReg port) 0 fcBit_lt = false) :
    applyGrant port (g.entry fcReg) =
      ((g.entry fcReg).executeFc port readIngressFcAction).acceptCredit port := by
  have hState : ((g.entry fcReg).executeFc port readIngressFcAction).fcState ≠ 1 := by
    intro h
    have hBit := (setWidth_one_eq_one_iff _).mp h
    exact absurd (hNormal.symm.trans hBit) (by decide)
  simp only [applyGrant, GrantPacket.entry, GrantPacket.headers, dpdqStack, isUnbouncedGrant_eq,
    hUnbounced, Bool.not_false, if_true]
  exact if_neg hState

theorem applyGrant_bounced (hBounced : g.isBounced = true) :
    applyGrant port (g.entry fcReg) = g.entry fcReg := by
  simp [applyGrant, GrantPacket.entry, GrantPacket.headers, dpdqStack, isUnbouncedGrant_eq, hBounced]

theorem applyForward_skip {s : IngressState} (h : s.shouldForward = 0) : applyForward T s = s := by
  unfold applyForward
  split
  · rfl
  · simp [h]

theorem applyRemoteBounce_handled {s : IngressState} (h : s.creditHandled = 1) :
    applyRemoteBounce s = s := by
  unfold applyRemoteBounce
  split
  · rfl
  · simp [h]

theorem applyClassify_handled {s : IngressState} (h : s.creditHandled = 1) :
    applyClassify T s = s := by
  unfold applyClassify
  split
  · rfl
  · simp [h]

theorem output_of_kept {s : IngressState} {p : PortId} (payload : Bits) (hKept : s.dropCtl = 0)
    (hPort : s.ucastEgressPort = some p) :
    s.output payload = some ⟨p, s.qid, ingressDeparser s.hdr payload⟩ := by
  simp [IngressState.output, hKept, hPort]

theorem ingressPipe_paused (hSync : readsAsSync T port g.bits = false)
    (hUnbounced : g.isBounced = false) (hPause : getElem (fcReg port) 0 fcBit_lt = true) :
    (ingressPipe T fcReg port g.bits).2 = some ⟨port, dpdqControlQid,
      g.within g.swappedEthernet g.swappedIpv4 g.clearedUdp (g.markedDpdq port)
        none⟩ := by
  simp only [ingressPipe, g.ingressParser_bits hSync, ingressApply, applyShouldForward_grant,
    applyGrant_paused g hUnbounced hPause]
  rw [applyForward_skip rfl, applyRemoteBounce_handled rfl, applyClassify_handled rfl,
    output_of_kept _ rfl rfl]
  rfl

theorem ingressPipe_accepted (hSync : readsAsSync T port g.bits = false)
    (hUnbounced : g.isBounced = false) (hNormal : getElem (fcReg port) 0 fcBit_lt = false)
    {eport : PortId} {srcMac dstMac : MacAddr}
    (hRoute : T.ipv4Forward g.ipv4.dstAddr = some (.forward eport srcMac dstMac)) :
    (ingressPipe T fcReg port g.bits).2 = some ⟨eport, dpdqControlQid,
      g.within (g.routedEthernet srcMac dstMac) g.routedIpv4 g.udp (g.shimDpdq port)
        (some ⟨g.dpdq.credit, 0, 0, 0⟩)⟩ := by
  have hForward : applyForward T
      (((g.entry fcReg).executeFc port readIngressFcAction).acceptCredit port) =
      (((g.entry fcReg).executeFc port readIngressFcAction).acceptCredit port).forward
        eport srcMac dstMac := by
    simp [applyForward, acceptCredit, setShim, executeFc, GrantPacket.entry, GrantPacket.headers,
      dpdqStack, hRoute]
  simp only [ingressPipe, g.ingressParser_bits hSync, ingressApply, applyShouldForward_grant,
    applyGrant_normal g hUnbounced hNormal, hForward]
  rw [applyRemoteBounce_handled rfl, applyClassify_handled rfl,
    output_of_kept _ rfl rfl]
  rfl

theorem ingressPipe_bounced (hSync : readsAsSync T port g.bits = false)
    (hBounced : g.isBounced = true) {eport : PortId} {srcMac dstMac : MacAddr}
    (hRoute : T.ipv4Forward g.ipv4.dstAddr = some (.forward eport srcMac dstMac)) :
    (ingressPipe T fcReg port g.bits).2 = some ⟨eport, dpdqControlQid,
      g.within (g.routedEthernet srcMac dstMac) g.routedIpv4 g.udp (g.shimDpdq eport)
        (some ⟨g.dpdq.credit, 1, 1, 0⟩)⟩ := by
  have hForward : applyForward T (g.entry fcReg) =
      (g.entry fcReg).forward eport srcMac dstMac := by
    simp [applyForward, GrantPacket.entry, GrantPacket.headers, dpdqStack, hRoute]
  have hBounce : applyRemoteBounce ((g.entry fcReg).forward eport srcMac dstMac) =
      ((g.entry fcReg).forward eport srcMac dstMac).acceptRemoteBounce := by
    simp [applyRemoteBounce, forward, GrantPacket.entry, GrantPacket.headers, dpdqStack,
      isBouncedGrant_eq, hBounced]
  simp only [ingressPipe, g.ingressParser_bits hSync, ingressApply, applyShouldForward_grant,
    applyGrant_bounced g hBounced, hForward, hBounce]
  rw [applyClassify_handled rfl, output_of_kept _ rfl rfl]
  rfl

/-- No route, or an entry that drops. -/
def RouteMiss (T : Tables) (g : GrantPacket) : Prop :=
  T.ipv4Forward g.ipv4.dstAddr = none ∨ T.ipv4Forward g.ipv4.dstAddr = some .drop

theorem RouteMiss.getD {T : Tables} {g : GrantPacket} (h : RouteMiss T g) :
    (T.ipv4Forward g.ipv4.dstAddr).getD .drop = .drop := by
  rcases h with h | h <;> simp [h]

theorem applyRemoteBounce_dropCtl (s : IngressState) :
    (applyRemoteBounce s).dropCtl = s.dropCtl := by
  unfold applyRemoteBounce
  split
  · rfl
  · split <;> rfl

theorem applyClassify_dropCtl (s : IngressState) : (applyClassify T s).dropCtl = s.dropCtl := by
  unfold applyClassify
  split
  · rfl
  · split
    · split <;> rfl
    · rfl

theorem ingressPipe_dropped (hSync : readsAsSync T port g.bits = false)
    (hRouted : g.isBounced = true ∨ getElem (fcReg port) 0 fcBit_lt = false) (hMiss : RouteMiss T g) :
    (ingressPipe T fcReg port g.bits).2 = none := by
  have hDrop : (ingressApply T port fcReg g.headers).dropCtl = 1 := by
    rw [ingressApply, applyClassify_dropCtl, applyRemoteBounce_dropCtl, applyShouldForward_grant]
    rcases Bool.eq_false_or_eq_true g.isBounced with hBounced | hUnbounced
    · rw [applyGrant_bounced g hBounced]
      simp [applyForward, GrantPacket.entry, GrantPacket.headers, dpdqStack, hMiss.getD, drop]
    · have hNormal : (fcReg port)[0] = false := by simpa [hUnbounced] using hRouted
      rw [applyGrant_normal g hUnbounced hNormal]
      simp [applyForward, acceptCredit, setShim, executeFc, GrantPacket.entry,
        GrantPacket.headers, dpdqStack, hMiss.getD, drop]
  simp [ingressPipe, g.ingressParser_bits hSync, IngressState.output, hDrop]

end Ingress

/-! ## Egress -/

section Egress

variable {T : Tables} {intr : EgressIntrinsic} {regs : EgressRegs} (g : GrantPacket)
  {e : Ethernet} {i : Ipv4} {u : Udp} {d : DpdqHeader}

theorem egressParser_within (internal : Option DpdqInternal) (hType : e.etherType = ethertypeIpv4)
    (hProtocol : i.protocol = ipProtocolUdp) (hPort : u.dstPort = dpdqUdpPort)
    (hShim : getElem d.reserved 11 shimBit_lt = internal.isSome) :
    egressParser (g.within e i u d internal) =
      some (dpdqStack e i.updateChecksum u d internal, g.payload) :=
  layerParser_emitLayers
    (layered_dpdqStack hType (i.updateChecksum_protocol.trans hProtocol) hPort hShim) g.payload

/-- A GRANT without the internal header changes no register. -/
theorem egressPipe_within_none (hType : e.etherType = ethertypeIpv4)
    (hProtocol : i.protocol = ipProtocolUdp) (hPort : u.dstPort = dpdqUdpPort)
    (hGrant : d.msgType = dpdqGrant) (hShim : getElem d.reserved 11 shimBit_lt = false) :
    egressPipe T intr regs (g.within e i u d none) = ⟨regs, none, some (g.leave e i u d)⟩ := by
  have hAmount : applyAmount T intr { hdr := dpdqStack e i.updateChecksum u d none, regs } =
      { hdr := dpdqStack e i.updateChecksum u d none, regs } := by
    simp [applyAmount, dpdqStack, hGrant]
  have hApply : (egressApply T intr regs (dpdqStack e i.updateChecksum u d none)).hdr =
      dpdqStack e i.updateChecksum u { d with reserved := 0 } none := by
    rw [egressApply, hAmount]
    rfl
  have hRegs : (egressApply T intr regs (dpdqStack e i.updateChecksum u d none)).regs = regs ∧
      (egressApply T intr regs (dpdqStack e i.updateChecksum u d none)).mirrored = none := by
    rw [egressApply, hAmount]
    exact ⟨rfl, rfl⟩
  simp only [egressPipe, egressParser_within g none hType hProtocol hPort hShim,
    hRegs.1, hRegs.2, hApply, egressDeparser, dpdqStack_updateChecksum, Ipv4.updateChecksum_idem]
  rfl

/-- The egress state of a GRANT behind the update of its phantom queue. -/
def EgressState.updated (regs : EgressRegs) (hdr : Headers) (d : DpdqHeader) (n : DpdqInternal) :
    EgressState :=
  applyQp { hdr, regs, qpUpdatePending := 1 } d n

theorem applyUpdate_internal (n : DpdqInternal) :
    applyUpdate intr (applyAmount T intr { hdr := dpdqStack e i u d (some n), regs }) =
      let s := EgressState.updated regs (dpdqStack e i u d (some n)) d n
      (if n.updateFc = 1 then applyEcn (applyFc intr.deqQdepth s d) d else s).clearInternal := rfl

/-- With the internal header, `egressApply` updates the phantom queue of the port in the
reserved field and, when asked, evaluates its flow control. -/
theorem egressApply_internal (T : Tables) (intr : EgressIntrinsic) (regs : EgressRegs)
    (e : Ethernet) (i : Ipv4) (u : Udp) (n : DpdqInternal) (hGrant : d.msgType = dpdqGrant) :
    let qp := regs.portQp.execute d.qpPort
      (if n.subtract = 1 then subtractQpAction n.amount else addQpAction n.amount)
    let fc := if n.updateFc = 1 then fcEvaluation intr.deqQdepth qp.2 d.qpPort regs.portFc
      else (regs.portFc, none)
    let s := egressApply T intr regs (dpdqStack e i u d (some n))
    s.regs = { regs with portQp := qp.1, portFc := fc.1 } ∧ s.mirrored = fc.2 ∧
      ∃ sync, s.hdr =
        { dpdqStack e i u { d with reserved := 0 } none with dpdqSync := sync } := by
  intro qp fc s
  have hs : s = clearReserved (applyUpdate intr
      (applyAmount T intr { hdr := dpdqStack e i u d (some n), regs })) := rfl
  rw [applyUpdate_internal] at hs
  set updated := EgressState.updated regs (dpdqStack e i u d (some n)) d n
  by_cases hFc : n.updateFc = 1
  · have hFcEq : fc = fcEvaluation intr.deqQdepth qp.2 d.qpPort regs.portFc := if_pos hFc
    have hEcn : applyEcn (applyFc intr.deqQdepth updated d) d =
        applyFc intr.deqQdepth updated d := by
      simp [applyEcn, hGrant, dpdqGrant, dpdqRequest, dpdqReply]
    obtain ⟨hRegs, hMirrored, sync, hHdr⟩ := applyFc_eq intr.deqQdepth (s := updated) d rfl
    dsimp only at hs
    rw [if_pos hFc, hEcn] at hs
    rw [hFcEq, hs, clearReserved_regs, clearInternal_regs, clearReserved_mirrored,
      clearInternal_mirrored, clearReserved_hdr, clearInternal_hdr, hRegs, hMirrored, hHdr]
    exact ⟨rfl, rfl, sync, rfl⟩
  · have hFcEq : fc = (regs.portFc, none) := if_neg hFc
    dsimp only at hs
    rw [if_neg hFc] at hs
    rw [hFcEq, hs]
    exact ⟨rfl, rfl, none, rfl⟩

theorem egressPipe_within_some (n : DpdqInternal) (hType : e.etherType = ethertypeIpv4)
    (hProtocol : i.protocol = ipProtocolUdp) (hPort : u.dstPort = dpdqUdpPort)
    (hGrant : d.msgType = dpdqGrant) (hShim : getElem d.reserved 11 shimBit_lt = true) :
    egressPipe T intr regs (g.within e i u d (some n)) =
      let qp := regs.portQp.execute d.qpPort
        (if n.subtract = 1 then subtractQpAction n.amount else addQpAction n.amount)
      let fc := if n.updateFc = 1 then fcEvaluation intr.deqQdepth qp.2 d.qpPort regs.portFc
        else (regs.portFc, none)
      ⟨{ regs with portQp := qp.1, portFc := fc.1 }, fc.2, some (g.leave e i u d)⟩ := by
  obtain ⟨hRegs, hMirrored, sync, hHdr⟩ :=
    egressApply_internal T intr regs e i.updateChecksum u n hGrant
  simp only [egressPipe, egressParser_within g (some n) hType hProtocol hPort hShim]
  rw [hRegs, hMirrored, hHdr]
  simp only [egressDeparser, GrantPacket.leave, GrantPacket.within]
  rw [← Ipv4.updateChecksum_idem]
  rfl

end Egress

/-! ## End to end -/

section EndToEnd

variable {T : Tables} {intr : EgressIntrinsic} {fcReg : Register 8} {regs : EgressRegs}
  {port : PortId} {g : GrantPacket}

theorem traverse_of_ingress {tm : TmPacket} (hSync : readsAsSync T port g.bits = false)
    (hIngress : (ingressPipe T fcReg port g.bits).2 = some tm) :
    traverse T intr fcReg regs port g.bits =
      ⟨fcReg, (egressPipe T intr regs tm.bits).regs, (egressPipe T intr regs tm.bits).sync,
        (egressPipe T intr regs tm.bits).bits.map fun bits => (tm.egressPort, bits)⟩ := by
  simp only [traverse, hIngress, ingressPipe_fcReg hSync]

theorem traverse_bounced (hSync : readsAsSync T port g.bits = false)
    (hUnbounced : g.isBounced = false) (hPause : getElem (fcReg port) 0 fcBit_lt = true) :
    traverse T intr fcReg regs port g.bits = ⟨fcReg, regs, none, some (port, g.returned)⟩ := by
  rw [traverse_of_ingress hSync (ingressPipe_paused g hSync hUnbounced hPause),
    egressPipe_within_none (e := g.swappedEthernet) (i := g.swappedIpv4) (u := g.clearedUdp)
      (d := g.markedDpdq port) g g.etherType_eq g.protocol_eq g.dstPort_eq g.msgType_eq
      (port_getElem port)]
  rfl

theorem traverse_accepted (hSync : readsAsSync T port g.bits = false)
    (hUnbounced : g.isBounced = false) (hNormal : getElem (fcReg port) 0 fcBit_lt = false)
    {eport : PortId} {srcMac dstMac : MacAddr}
    (hRoute : T.ipv4Forward g.ipv4.dstAddr = some (.forward eport srcMac dstMac)) :
    traverse T intr fcReg regs port g.bits =
      ⟨fcReg, { regs with portQp := fun q =>
          if q = port then regs.portQp q + g.dpdq.credit else regs.portQp q },
        none, some (eport, g.routed srcMac dstMac)⟩ := by
  have hQp : (g.shimDpdq port).qpPort = port := setWidth_shim port
  rw [traverse_of_ingress hSync (ingressPipe_accepted g hSync hUnbounced hNormal hRoute),
    egressPipe_within_some (e := g.routedEthernet srcMac dstMac) (i := g.routedIpv4) (u := g.udp)
      (d := g.shimDpdq port) g _ g.etherType_eq g.protocol_eq g.dstPort_eq g.msgType_eq
      (shim_getElem port), hQp]
  have hReg : (regs.portQp.execute port (addQpAction g.dpdq.credit)).1 = fun q =>
      if q = port then regs.portQp q + g.dpdq.credit else regs.portQp q := by
    funext q
    simp only [Register.execute, addQpAction]
    split
    · subst q
      rfl
    · rfl
  rw [← hReg]
  rfl

/-- The saturating subtraction of the register action. -/
theorem subtractQpAction_eq (amount value : BitVec 32) :
    subtractQpAction amount value =
      (BitVec.ofNat 32 (value.toNat - amount.toNat), BitVec.ofNat 32 (value.toNat - amount.toNat)) := by
  have hValue : (if value < amount then 0 else value - amount) =
      BitVec.ofNat 32 (value.toNat - amount.toNat) := by
    apply BitVec.eq_of_toNat_eq
    have hBound := value.isLt
    split
    · rename_i hLess
      have hNat : value.toNat < amount.toNat := hLess
      simp only [BitVec.ofNat_eq_ofNat, BitVec.toNat_ofNat]
      omega
    · rename_i hLess
      have hNat : amount.toNat ≤ value.toNat := BitVec.not_lt.mp hLess
      rw [BitVec.toNat_sub_of_le hNat, BitVec.toNat_ofNat, Nat.mod_eq_of_lt]
      omega
  simp only [subtractQpAction, hValue]

theorem traverse_revoked (hSync : readsAsSync T port g.bits = false)
    (hBounced : g.isBounced = true) {eport : PortId} {srcMac dstMac : MacAddr}
    (hRoute : T.ipv4Forward g.ipv4.dstAddr = some (.forward eport srcMac dstMac)) :
    let qp := BitVec.ofNat 32 ((regs.portQp eport).toNat - g.dpdq.credit.toNat)
    let fc := fcEvaluation intr.deqQdepth qp eport regs.portFc
    traverse T intr fcReg regs port g.bits =
      ⟨fcReg, { regs with
          portQp := fun q => if q = eport then qp else regs.portQp q
          portFc := fc.1 },
        fc.2, some (eport, g.routed srcMac dstMac)⟩ := by
  intro qp fc
  have hQp : (g.shimDpdq eport).qpPort = eport := setWidth_shim eport
  rw [traverse_of_ingress hSync (ingressPipe_bounced g hSync hBounced hRoute),
    egressPipe_within_some (e := g.routedEthernet srcMac dstMac) (i := g.routedIpv4) (u := g.udp)
      (d := g.shimDpdq eport) g _ g.etherType_eq g.protocol_eq g.dstPort_eq g.msgType_eq
      (shim_getElem eport), hQp]
  have hReg : regs.portQp.execute eport (subtractQpAction g.dpdq.credit) =
      (fun q => if q = eport then qp else regs.portQp q, qp) := by
    simp only [Register.execute, subtractQpAction_eq, qp]
  simp only [if_true, hReg]
  rfl

theorem traverse_dropped (hSync : readsAsSync T port g.bits = false)
    (hRouted : g.isBounced = true ∨ getElem (fcReg port) 0 fcBit_lt = false) (hMiss : RouteMiss T g) :
    traverse T intr fcReg regs port g.bits = ⟨fcReg, regs, none, none⟩ := by
  simp only [traverse, ingressPipe_dropped g hSync hRouted hMiss, ingressPipe_fcReg hSync]

/-- What leaves the switch parses without the internal header, its reserved field is clear and
its payload is untouched. -/
def LeavesClean (g : GrantPacket) (out : Option (PortId × Bits)) : Prop :=
  ∀ q bits, out = some (q, bits) → ∃ hdr d, layerParser bits = some (hdr, g.payload) ∧
    hdr.dpdq = some d ∧ d.reserved = 0 ∧ hdr.dpdqInternal = none

theorem leavesClean_leave {e : Ethernet} {i : Ipv4} {u : Udp} {d : DpdqHeader} (q : PortId)
    (hType : e.etherType = ethertypeIpv4) (hProtocol : i.protocol = ipProtocolUdp)
    (hPort : u.dstPort = dpdqUdpPort) : LeavesClean g (some (q, g.leave e i u d)) := by
  rintro q' bits hOut
  cases hOut
  exact ⟨_, _, egressParser_within g none hType hProtocol hPort (by simp),
    rfl, rfl, rfl⟩

end EndToEnd

/-- What the switch does with a GRANT whose reserved field is clear: returned to the port it
came from while that port is paused, accepted into the phantom queue of that port, revoked from
the phantom queue of the port it leaves on, or dropped. No other register changes. -/
structure GrantEffect (T : Tables) (intr : EgressIntrinsic) (fcReg : Register 8)
    (regs : EgressRegs) (port : PortId) (g : GrantPacket) : Prop where
  bounced : g.isBounced = false → getElem (fcReg port) 0 fcBit_lt = true →
    traverse T intr fcReg regs port g.bits = ⟨fcReg, regs, none, some (port, g.returned)⟩
  accepted : ∀ eport srcMac dstMac, g.isBounced = false → getElem (fcReg port) 0 fcBit_lt = false →
    T.ipv4Forward g.ipv4.dstAddr = some (.forward eport srcMac dstMac) →
    traverse T intr fcReg regs port g.bits =
      ⟨fcReg, { regs with portQp := fun q =>
          if q = port then regs.portQp q + g.dpdq.credit else regs.portQp q },
        none, some (eport, g.routed srcMac dstMac)⟩
  revoked : ∀ eport srcMac dstMac, g.isBounced = true →
    T.ipv4Forward g.ipv4.dstAddr = some (.forward eport srcMac dstMac) →
    let qp := BitVec.ofNat 32 ((regs.portQp eport).toNat - g.dpdq.credit.toNat)
    let fc := fcEvaluation intr.deqQdepth qp eport regs.portFc
    traverse T intr fcReg regs port g.bits =
      ⟨fcReg, { regs with
          portQp := fun q => if q = eport then qp else regs.portQp q
          portFc := fc.1 },
        fc.2, some (eport, g.routed srcMac dstMac)⟩
  dropped : RouteMiss T g → g.isBounced = true ∨ getElem (fcReg port) 0 fcBit_lt = false →
    traverse T intr fcReg regs port g.bits = ⟨fcReg, regs, none, none⟩
  clean : LeavesClean g (traverse T intr fcReg regs port g.bits).packet

/-- **The life of a GRANT in the switch**, for every GRANT that arrives with its reserved field
clear and every state of the two pipelines. -/
theorem grant_end_to_end (T : Tables) (intr : EgressIntrinsic) (fcReg : Register 8)
    (regs : EgressRegs) (port : PortId) (g : GrantPacket)
    (hSync : readsAsSync T port g.bits = false) : GrantEffect T intr fcReg regs port g where
  bounced := traverse_bounced hSync
  accepted eport srcMac dstMac hUnbounced hNormal hRoute :=
    traverse_accepted hSync hUnbounced hNormal hRoute
  revoked eport srcMac dstMac hBounced hRoute := traverse_revoked hSync hBounced hRoute
  dropped hMiss hRouted := traverse_dropped hSync hRouted hMiss
  clean := by
    by_cases hPause : g.isBounced = false ∧ (fcReg port)[0] = true
    · rw [traverse_bounced hSync hPause.1 hPause.2]
      exact leavesClean_leave port g.etherType_eq g.protocol_eq g.dstPort_eq
    · have hRouted : g.isBounced = true ∨ (fcReg port)[0] = false := by
        rcases Bool.eq_false_or_eq_true g.isBounced with hBounced | hUnbounced
        · exact .inl hBounced
        · exact .inr (by simpa [hUnbounced] using hPause)
      cases hLookup : T.ipv4Forward g.ipv4.dstAddr with
      | none =>
        rw [traverse_dropped hSync hRouted (.inl hLookup)]
        rintro q bits ⟨⟩
      | some action =>
        cases action with
        | drop =>
          rw [traverse_dropped hSync hRouted (.inr hLookup)]
          rintro q bits ⟨⟩
        | forward eport srcMac dstMac =>
          have hLeave : LeavesClean g (some (eport, g.routed srcMac dstMac)) :=
            leavesClean_leave eport g.etherType_eq g.protocol_eq g.dstPort_eq
          rcases Bool.eq_false_or_eq_true g.isBounced with hBounced | hUnbounced
          · rw [traverse_revoked hSync hBounced hLookup]
            exact hLeave
          · have hNormal : (fcReg port)[0] = false := by simpa [hUnbounced] using hRouted
            rw [traverse_accepted hSync hUnbounced hNormal hLookup]
            exact hLeave

/-- Everything is routed to port 7. -/
def oneRoute : Tables where
  dpdqRecircPorts port := port = 68
  ipv4Forward _ := some (.forward 7 0x11 0x22)
  packetClassify _ _ := none
  approximateEffect _ _ := none

/-- A GRANT of 1538 bytes with a 96-bit payload. -/
def sampleGrant : GrantPacket where
  ethernet := ⟨1, 2, ethertypeIpv4⟩
  ipv4 := ⟨4, 5, 0, 48, 0, 0, 0, 64, ipProtocolUdp, 0, 10, 20⟩
  udp := ⟨5, dpdqUdpPort, 28, 0⟩
  dpdq := ⟨dpdqGrant, 0, 0, 1538⟩
  payload := List.replicate 96 false
  etherType_eq := rfl
  protocol_eq := rfl
  dstPort_eq := rfl
  msgType_eq := rfl
  reserved_eq := rfl

theorem grant_end_to_end_sample :
    readsAsSync oneRoute 3 sampleGrant.bits = false ∧
      GrantEffect oneRoute ⟨0, 0⟩ (fun _ => 0) {} 3 sampleGrant :=
  ⟨rfl, grant_end_to_end oneRoute ⟨0, 0⟩ (fun _ => 0) {} 3 sampleGrant rfl⟩

end Dpdq.Tofino
