import Dpdq.Tofino.CreditPath

/-!
# The reserved field on the wire

The switch uses the reserved field of a DPDQ packet as its own marker between ingress and egress:
ingress overwrites it for every DPDQ packet, and egress clears it. The ingress parser, however,
reads the marker off the wire. For a packet that arrives with bit 11 set it takes the first five
bytes of the payload for an internal header. They are put back into the packet unless ingress
writes an internal header of its own over them.
-/

namespace Dpdq.Tofino

open Lib IngressState

/-! ## What ingress decides -/

/-- The port that the forwarding table routes a destination to, unless it drops. -/
def routeOf (T : Tables) (dst : Ipv4Addr) : Option PortId :=
  match (T.ipv4Forward dst).getD .drop with
  | .forward port _ _ => some port
  | .drop => none

def ClassifyAction.marker : ClassifyAction → BitVec 16
  | .classifyPlain => 0
  | .classifyData => dpdqMetaClassData
  | .classifySignal => dpdqMetaClassSignal

/-- Where a DPDQ packet goes, the prefix that egress gets to see, and the internal header that
ingress writes. -/
structure IngressPlan where
  out : Option PortId
  dpdq : DpdqHeader
  shim : Option DpdqInternal

/-- What ingress decides about a DPDQ packet that arrives on `port`, paused or not, and that is
routed to `route`. -/
def ingressPlan (T : Tables) (paused : Bool) (port : PortId) (route : Option PortId)
    (d : DpdqHeader) : IngressPlan :=
  if d.isUnbouncedGrant then
    if paused then
      ⟨some port, { d with flags := d.flags ||| dpdqFlagBounced, reserved := port.setWidth 16 }, none⟩
    else ⟨route, { d with reserved := port.setWidth 16 ||| dpdqMetaShim }, some ⟨d.credit, 0, 0, 0⟩⟩
  else if d.isBouncedGrant then
    ⟨route, { d with reserved := (route.getD 0).setWidth 16 ||| dpdqMetaShim },
      some ⟨d.credit, 1, 1, 0⟩⟩
  else
    let action := (T.packetClassify d.msgType (d.flags.extractLsb' 1 1)).getD .classifyPlain
    ⟨route, { d with reserved := (route.getD 0).setWidth 16 ||| action.marker }, none⟩

/-- The reserved field that arrives has no part in it. -/
theorem ingressPlan_reserved (T : Tables) (paused : Bool) (port : PortId) (route : Option PortId)
    (d : DpdqHeader) (r : BitVec 16) :
    ingressPlan T paused port route { d with reserved := r } =
      ingressPlan T paused port route d := rfl

theorem marker_getElem (q : PortId) (a : ClassifyAction) :
    (q.setWidth 16 ||| a.marker)[11] = false := by
  cases a <;> simp [ClassifyAction.marker, dpdqMetaClassData, dpdqMetaClassSignal]

/-- Ingress marks the packet exactly when it writes an internal header. -/
theorem ingressPlan_marked (T : Tables) (paused : Bool) (port : PortId) (route : Option PortId)
    (d : DpdqHeader) :
    (ingressPlan T paused port route d).dpdq.reserved[11] =
      (ingressPlan T paused port route d).shim.isSome := by
  unfold ingressPlan
  split
  · split
    · exact port_getElem port
    · exact shim_getElem port
  · split
    · exact shim_getElem _
    · exact marker_getElem _ _

section Ingress

variable {T : Tables} {port : PortId} {fcReg : Register 8} {e : Ethernet} {i : Ipv4} {u : Udp}
  {d : DpdqHeader} {internal : Option DpdqInternal}

/-- What ingress makes of the headers before the prefix, for a packet that is returned to the port
it came from or for any other one. -/
structure Rewrites (returned : Bool) (e : Ethernet) (i : Ipv4) (u : Udp) (e' : Ethernet) (i' : Ipv4)
    (u' : Udp) : Prop where
  etherType : e'.etherType = e.etherType
  protocol : i'.protocol = i.protocol
  diffserv : i'.diffserv = i.diffserv
  addrs : (i'.srcAddr, i'.dstAddr) =
    if returned then (i.dstAddr, i.srcAddr) else (i.srcAddr, i.dstAddr)
  udp : u' = if returned then { u with checksum := 0 } else u

theorem Rewrites.dstPort {returned : Bool} {e e' : Ethernet} {i i' : Ipv4} {u u' : Udp}
    (h : Rewrites returned e i u e' i' u') : u'.dstPort = u.dstPort := by
  rw [h.udp]
  split <;> rfl

/-- A GRANT that is sent back because its port is paused. -/
def isReturned (fcReg : Register 8) (port : PortId) (d : DpdqHeader) : Bool :=
  d.isUnbouncedGrant && (fcReg port)[0]

/-- The state that the `apply` block ends in for a DPDQ packet. -/
structure Follows (returned : Bool) (plan : IngressPlan) (e : Ethernet) (i : Ipv4) (u : Udp)
    (internal : Option DpdqInternal) (s : IngressState) : Prop where
  headers : ∃ e' i' u', Rewrites returned e i u e' i' u' ∧
    s.hdr = dpdqStack e' i' u' plan.dpdq (plan.shim.or internal)
  kept : plan.out.isSome → s.dropCtl = 0 ∧ s.ucastEgressPort = plan.out
  dropped : plan.out = none → s.dropCtl = 1

theorem applyForward_routed {s : IngressState} (hIpv4 : s.hdr.ipv4 = some i)
    (hForward : s.shouldForward = 1) {eport : PortId} {srcMac dstMac : MacAddr}
    (hRoute : (T.ipv4Forward i.dstAddr).getD .drop = .forward eport srcMac dstMac) :
    applyForward T s = s.forward eport srcMac dstMac := by
  simp [applyForward, hIpv4, hForward, hRoute]

theorem applyForward_missed {s : IngressState} (hIpv4 : s.hdr.ipv4 = some i)
    (hForward : s.shouldForward = 1) (hRoute : (T.ipv4Forward i.dstAddr).getD .drop = .drop) :
    applyForward T s = s.drop := by
  simp [applyForward, hIpv4, hForward, hRoute]

/-- The state of a DPDQ packet when its turn in the `apply` block comes. -/
def dpdqEntry (fcReg : Register 8) (hdr : Headers) : IngressState :=
  { hdr, fcReg, shouldForward := 1 }

theorem ingressApply_dpdqStack :
    ingressApply T port fcReg (dpdqStack e i u d internal) =
      applyClassify T (applyRemoteBounce (applyForward T
        (applyGrant port (dpdqEntry fcReg (dpdqStack e i u d internal))))) := rfl

theorem follows_unbounced_paused (hGrant : d.isUnbouncedGrant = true)
    (hPause : (fcReg port)[0] = true) :
    Follows (isReturned fcReg port d)
      (ingressPlan T (fcReg port)[0] port (routeOf T i.dstAddr) d) e i u internal
      (ingressApply T port fcReg (dpdqStack e i u d internal)) := by
  have hState : ((dpdqEntry fcReg (dpdqStack e i u d internal)).executeFc port
      readIngressFcAction).fcState = 1 := (setWidth_one_eq_one_iff _).mpr hPause
  have hApply : applyGrant port (dpdqEntry fcReg (dpdqStack e i u d internal)) =
      { ((dpdqEntry fcReg (dpdqStack e i u d internal)).executeFc port
        readIngressFcAction).bounceCreditTo port with shouldForward := 0 } := by
    simp only [applyGrant, dpdqEntry, dpdqStack, hGrant, if_true]
    exact if_pos hState
  have hPlan : ingressPlan T (fcReg port)[0] port (routeOf T i.dstAddr) d =
      ⟨some port, { d with flags := d.flags ||| dpdqFlagBounced, reserved := port.setWidth 16 },
        none⟩ := by
    unfold ingressPlan
    rw [if_pos hGrant, hPause, if_pos rfl]
  rw [ingressApply_dpdqStack, hApply, applyForward_skip rfl, applyRemoteBounce_handled rfl,
    applyClassify_handled rfl, hPlan]
  have hReturned : isReturned fcReg port d = true := by
    rw [isReturned, hGrant, hPause]
    rfl
  rw [hReturned]
  refine ⟨⟨{ e with srcAddr := e.dstAddr, dstAddr := e.srcAddr },
    { i with srcAddr := i.dstAddr, dstAddr := i.srcAddr }, { u with checksum := 0 }, ?_, rfl⟩,
    fun _ => ⟨rfl, rfl⟩, fun h => by cases h⟩
  exact ⟨rfl, rfl, rfl, rfl, rfl⟩

/-- The forwarding table on a DPDQ packet: the three headers before the prefix keep what the
parser selects on, and a packet without a route is dropped. -/
theorem applyForward_dpdq (T : Tables) {s : IngressState} (e : Ethernet) (i : Ipv4) (u : Udp)
    (d : DpdqHeader) (internal : Option DpdqInternal) (hHdr : s.hdr = dpdqStack e i u d internal)
    (hForward : s.shouldForward = 1) (hKept : s.dropCtl = 0) (hPort : s.ucastEgressPort = none) :
    ∃ e' i' u' drop, Rewrites false e i u e' i' u' ∧ (routeOf T i.dstAddr = none → drop = 1) ∧
      ((routeOf T i.dstAddr).isSome → drop = 0) ∧
      applyForward T s = { s with
        hdr := dpdqStack e' i' u' d internal
        ucastEgressPort := routeOf T i.dstAddr
        dropCtl := drop } := by
  have hIpv4 : s.hdr.ipv4 = some i := by
    rw [hHdr]
    rfl
  unfold routeOf
  cases hRoute : (T.ipv4Forward i.dstAddr).getD .drop with
  | forward eport srcMac dstMac =>
    refine ⟨{ e with srcAddr := srcMac, dstAddr := dstMac }, { i with ttl := i.ttl - 1 }, u, 0,
      ⟨rfl, rfl, rfl, rfl, rfl⟩, (fun h => by cases h), fun _ => rfl, ?_⟩
    rw [applyForward_routed hIpv4 hForward hRoute]
    simp [forward, hHdr, dpdqStack, hKept]
  | drop =>
    refine ⟨e, i, u, 1, ⟨rfl, rfl, rfl, rfl, rfl⟩, fun _ => rfl, (fun h => by cases h), ?_⟩
    rw [applyForward_missed hIpv4 hForward hRoute]
    simp [drop, hHdr, hPort]

theorem follows_unbounced_normal (hGrant : d.isUnbouncedGrant = true)
    (hNormal : (fcReg port)[0] = false) :
    Follows (isReturned fcReg port d)
      (ingressPlan T (fcReg port)[0] port (routeOf T i.dstAddr) d) e i u internal
      (ingressApply T port fcReg (dpdqStack e i u d internal)) := by
  have hState : ((dpdqEntry fcReg (dpdqStack e i u d internal)).executeFc port
      readIngressFcAction).fcState ≠ 1 := by
    intro h
    have hBit := (setWidth_one_eq_one_iff _).mp h
    exact absurd (hNormal.symm.trans hBit) (by decide)
  have hApply : applyGrant port (dpdqEntry fcReg (dpdqStack e i u d internal)) =
      ((dpdqEntry fcReg (dpdqStack e i u d internal)).executeFc port
        readIngressFcAction).acceptCredit port := by
    simp only [applyGrant, dpdqEntry, dpdqStack, hGrant, if_true]
    exact if_neg hState
  have hPlan : ingressPlan T (fcReg port)[0] port (routeOf T i.dstAddr) d =
      ⟨routeOf T i.dstAddr, { d with reserved := port.setWidth 16 ||| dpdqMetaShim },
        some ⟨d.credit, 0, 0, 0⟩⟩ := by
    unfold ingressPlan
    rw [if_pos hGrant, hNormal, if_neg (by decide)]
  obtain ⟨e', i', u', drop, hRewrites, hNone, hSome, hForward⟩ :=
    applyForward_dpdq T (s := ((dpdqEntry fcReg (dpdqStack e i u d internal)).executeFc port
        readIngressFcAction).acceptCredit port)
      e i u { d with reserved := port.setWidth 16 ||| dpdqMetaShim } (some ⟨d.credit, 0, 0, 0⟩)
      rfl rfl rfl rfl
  rw [ingressApply_dpdqStack, hApply, hForward, applyRemoteBounce_handled rfl,
    applyClassify_handled rfl, hPlan]
  have hReturned : isReturned fcReg port d = false := by rw [isReturned, hNormal, Bool.and_false]
  rw [hReturned]
  exact ⟨⟨e', i', u', hRewrites, rfl⟩, fun h => ⟨hSome h, rfl⟩, hNone⟩

theorem follows_bounced (hUnbounced : d.isUnbouncedGrant = false)
    (hBounced : d.isBouncedGrant = true) :
    Follows (isReturned fcReg port d)
      (ingressPlan T (fcReg port)[0] port (routeOf T i.dstAddr) d) e i u internal
      (ingressApply T port fcReg (dpdqStack e i u d internal)) := by
  have hApply : applyGrant port (dpdqEntry fcReg (dpdqStack e i u d internal)) =
      dpdqEntry fcReg (dpdqStack e i u d internal) := by
    simp [applyGrant, dpdqEntry, dpdqStack, hUnbounced]
  have hPlan : ingressPlan T (fcReg port)[0] port (routeOf T i.dstAddr) d =
      ⟨routeOf T i.dstAddr,
        { d with reserved := ((routeOf T i.dstAddr).getD 0).setWidth 16 ||| dpdqMetaShim },
        some ⟨d.credit, 1, 1, 0⟩⟩ := by
    unfold ingressPlan
    rw [if_neg (by simp [hUnbounced]), if_pos hBounced]
  obtain ⟨e', i', u', drop, hRewrites, hNone, hSome, hForward⟩ :=
    applyForward_dpdq T (s := dpdqEntry fcReg (dpdqStack e i u d internal)) e i u d internal
      rfl rfl rfl rfl
  rw [ingressApply_dpdqStack, hApply, hForward, hPlan]
  have hBounce : applyRemoteBounce { dpdqEntry fcReg (dpdqStack e i u d internal) with
      hdr := dpdqStack e' i' u' d internal
      ucastEgressPort := routeOf T i.dstAddr
      dropCtl := drop } =
      acceptRemoteBounce { dpdqEntry fcReg (dpdqStack e i u d internal) with
        hdr := dpdqStack e' i' u' d internal
        ucastEgressPort := routeOf T i.dstAddr
        dropCtl := drop } := by
    simp [applyRemoteBounce, dpdqStack, dpdqEntry, hBounced]
  have hReturned : isReturned fcReg port d = false := by rw [isReturned, hUnbounced, Bool.false_and]
  rw [hBounce, applyClassify_handled rfl, hReturned]
  exact ⟨⟨e', i', u', hRewrites, rfl⟩, fun h => ⟨hSome h, rfl⟩, hNone⟩

theorem follows_other (hUnbounced : d.isUnbouncedGrant = false) (hBounced : d.isBouncedGrant = false) :
    Follows (isReturned fcReg port d)
      (ingressPlan T (fcReg port)[0] port (routeOf T i.dstAddr) d) e i u internal
      (ingressApply T port fcReg (dpdqStack e i u d internal)) := by
  have hApply : applyGrant port (dpdqEntry fcReg (dpdqStack e i u d internal)) =
      dpdqEntry fcReg (dpdqStack e i u d internal) := by
    simp [applyGrant, dpdqEntry, dpdqStack, hUnbounced]
  obtain ⟨e', i', u', drop, hRewrites, hNone, hSome, hForward⟩ :=
    applyForward_dpdq T (s := dpdqEntry fcReg (dpdqStack e i u d internal)) e i u d internal
      rfl rfl rfl rfl
  have hBounce : applyRemoteBounce { dpdqEntry fcReg (dpdqStack e i u d internal) with
      hdr := dpdqStack e' i' u' d internal
      ucastEgressPort := routeOf T i.dstAddr
      dropCtl := drop } =
      { dpdqEntry fcReg (dpdqStack e i u d internal) with
        hdr := dpdqStack e' i' u' d internal
        ucastEgressPort := routeOf T i.dstAddr
        dropCtl := drop } := by
    simp [applyRemoteBounce, dpdqStack, dpdqEntry, hBounced]
  have hReturned : isReturned fcReg port d = false := by rw [isReturned, hUnbounced, Bool.false_and]
  rw [ingressApply_dpdqStack, hApply, hForward, hBounce, hReturned]
  unfold ingressPlan
  rw [if_neg (by simp [hUnbounced]), if_neg (by simp [hBounced])]
  simp only [applyClassify, dpdqStack, dpdqEntry, if_true]
  cases (T.packetClassify d.msgType (d.flags.extractLsb' 1 1)).getD .classifyPlain with
  | classifyPlain =>
    refine ⟨⟨e', i', u', hRewrites, ?_⟩, fun h => ⟨hSome h, rfl⟩, hNone⟩
    simp [classifyPlain, setReserved, dpdqStack, ClassifyAction.marker, egressPort]
  | classifyData =>
    exact ⟨⟨e', i', u', hRewrites, rfl⟩, fun h => ⟨hSome h, rfl⟩, hNone⟩
  | classifySignal =>
    exact ⟨⟨e', i', u', hRewrites, rfl⟩, fun h => ⟨hSome h, rfl⟩, hNone⟩

/-- The `apply` block follows the plan, whatever the parser took for an internal header. -/
theorem follows_ingressApply (T : Tables) (port : PortId) (fcReg : Register 8) (e : Ethernet)
    (i : Ipv4) (u : Udp) (d : DpdqHeader) (internal : Option DpdqInternal) :
    Follows (isReturned fcReg port d)
      (ingressPlan T (fcReg port)[0] port (routeOf T i.dstAddr) d) e i u internal
      (ingressApply T port fcReg (dpdqStack e i u d internal)) := by
  cases hUnbounced : d.isUnbouncedGrant with
  | true =>
    cases hPause : (fcReg port)[0] with
    | true => exact hPause ▸ follows_unbounced_paused hUnbounced hPause
    | false => exact hPause ▸ follows_unbounced_normal hUnbounced hPause
  | false =>
    cases hBounced : d.isBouncedGrant with
    | true => exact follows_bounced hUnbounced hBounced
    | false => exact follows_other hUnbounced hBounced

end Ingress

/-! ## What egress does -/

/-- The registers and the clone of a packet with an internal header. -/
def qpEffect (intr : EgressIntrinsic) (regs : EgressRegs) (d : DpdqHeader) (n : DpdqInternal) :
    EgressRegs × Option DpdqSync :=
  let qp := regs.portQp.execute d.qpPort
    (if n.subtract = 1 then subtractQpAction n.amount else addQpAction n.amount)
  let fc := if n.updateFc = 1 then fcEvaluation intr.deqQdepth qp.2 d.qpPort regs.portFc
    else (regs.portFc, none)
  ({ regs with portQp := qp.1, portFc := fc.1 }, fc.2)

/-- The registers and the clone of a DPDQ packet, from its prefix and its internal header. -/
def egressEffect (T : Tables) (intr : EgressIntrinsic) (regs : EgressRegs) (d : DpdqHeader) :
    Option DpdqInternal → EgressRegs × Option DpdqSync
  | some n => qpEffect intr regs d n
  | none =>
    if d.msgType ≠ dpdqGrant then
      let r := regs.timestamp.execute d.qpPort (updateTimestampAction intr.globalTstamp)
      let internal := (DpdqInternal.mk r.2 1 1 0).capElapsedTime.computeReduceBytes
      let action := (T.approximateEffect (d.reserved.extractLsb' 9 2)
        (internal.amount.setWidth 16)).getD .noAction
      qpEffect intr { regs with timestamp := r.1 } d (internal.effect action)
    else (regs, none)

/-- The ECN decision for a phantom queue of `qp` bytes and a real queue of `depth` cells. -/
def ecnDecision (qp : BitVec 32) (depth : BitVec 19) : Prop :=
  dpdqEcnTriggerBytes ≤ qp ∨ dpdqEcnTriggerCells ≤ depth

instance (qp : BitVec 32) (depth : BitVec 19) : Decidable (ecnDecision qp depth) :=
  inferInstanceAs (Decidable (_ ∨ _))

/-- A packet with the prefix `d` and the internal header `n` gets an ECN mark. -/
def qpMarks (intr : EgressIntrinsic) (regs : EgressRegs) (d : DpdqHeader) (n : DpdqInternal) : Bool :=
  n.updateFc = 1 ∧ (d.msgType = dpdqRequest ∨ d.msgType = dpdqReply) ∧
    ecnDecision ((qpEffect intr regs d n).1.portQp d.qpPort) intr.deqQdepth

/-- A DPDQ packet gets an ECN mark. -/
def egressMarks (T : Tables) (intr : EgressIntrinsic) (regs : EgressRegs) (d : DpdqHeader) :
    Option DpdqInternal → Bool
  | some n => qpMarks intr regs d n
  | none =>
    if d.msgType ≠ dpdqGrant then
      let r := regs.timestamp.execute d.qpPort (updateTimestampAction intr.globalTstamp)
      let internal := (DpdqInternal.mk r.2 1 1 0).capElapsedTime.computeReduceBytes
      let action := (T.approximateEffect (d.reserved.extractLsb' 9 2)
        (internal.amount.setWidth 16)).getD .noAction
      qpMarks intr { regs with timestamp := r.1 } d (internal.effect action)
    else false

def Ipv4.marked (h : Ipv4) (mark : Bool) : Ipv4 :=
  if mark then { h with diffserv := h.diffserv ||| 3 } else h

def DpdqHeader.marked (h : DpdqHeader) (mark : Bool) : DpdqHeader :=
  if mark then { h with flags := h.flags ||| dpdqFlagNetworkMarked } else h

/-- The headers with which a DPDQ packet leaves egress. -/
def LeavesEgress (e : Ethernet) (i : Ipv4) (u : Udp) (d : DpdqHeader) (hdr : Headers) : Prop :=
  ∃ sync, hdr = { dpdqStack e i u d none with dpdqSync := sync }

theorem leavesEgress_clearReserved {s : EgressState} {e : Ethernet} {i : Ipv4} {u : Udp}
    {d : DpdqHeader} (h : LeavesEgress e i u d s.hdr) :
    LeavesEgress e i u { d with reserved := 0 } (clearReserved s).hdr := by
  obtain ⟨sync, hHdr⟩ := h
  exact ⟨sync, by rw [clearReserved_hdr, hHdr]; rfl⟩

/-- The minima for the ECN decision stay what the thresholds were compared with. -/
theorem applyFc_ecnMins (depth : BitVec 19) (s : EgressState) (d : DpdqHeader) :
    (applyFc depth s d).qpEcnMin = bmin dpdqEcnTriggerBytes s.qpBytes ∧
      (applyFc depth s d).physicalEcnMin = bmin dpdqEcnTriggerCells depth := by
  unfold applyFc EgressState.cloneOnChange
  dsimp only
  split <;> exact ⟨rfl, rfl⟩

/-- Behind the flow control, the ECN decision marks the packets that it is made for. -/
theorem applyEcn_applyFc {s : EgressState} {e : Ethernet} {i : Ipv4} {u : Udp} {d : DpdqHeader}
    {internal : Option DpdqInternal} {sync : Option DpdqSync} {mark : Bool} (depth : BitVec 19)
    (h : (applyFc depth s d).hdr = { dpdqStack e i u d internal with dpdqSync := sync })
    (hMark : mark = true ↔ (d.msgType = dpdqRequest ∨ d.msgType = dpdqReply) ∧
      ecnDecision s.qpBytes depth) :
    (applyEcn (applyFc depth s d) d).hdr =
      { dpdqStack e (i.marked mark) u (d.marked mark) internal with dpdqSync := sync } := by
  obtain ⟨hQp, hPhysical⟩ := applyFc_ecnMins depth s d
  have hMarked : (applyFc depth s d).mark.hdr =
      { dpdqStack e (i.marked true) u (d.marked true) internal with dpdqSync := sync } := by
    simp [EgressState.mark, h, dpdqStack, Ipv4.marked, DpdqHeader.marked]
  unfold applyEcn
  rw [hQp, hPhysical]
  simp only [bmin_eq_left_iff]
  cases mark with
  | true =>
    obtain ⟨hType, hOver⟩ := hMark.mp rfl
    rw [if_pos hType]
    split
    · exact hMarked
    · rename_i hQueue
      rw [if_pos (hOver.resolve_left hQueue)]
      exact hMarked
  | false =>
    have hNot : ¬ ((d.msgType = dpdqRequest ∨ d.msgType = dpdqReply) ∧
        ecnDecision s.qpBytes depth) := fun hAll => absurd (hMark.mpr hAll) Bool.false_ne_true
    split
    · rename_i hType
      rw [if_neg fun hQueue => hNot ⟨hType, .inl hQueue⟩,
        if_neg fun hCells => hNot ⟨hType, .inr hCells⟩]
      exact h
    · exact h

/-- The update of the phantom queue and what follows from it. -/
theorem applyUpdate_effect (intr : EgressIntrinsic) (regs : EgressRegs) (e : Ethernet) (i : Ipv4)
    (u : Udp) (d : DpdqHeader) (n : DpdqInternal) :
    (applyUpdate intr { hdr := dpdqStack e i u d (some n), regs, qpUpdatePending := 1 }).regs =
        (qpEffect intr regs d n).1 ∧
      (applyUpdate intr { hdr := dpdqStack e i u d (some n), regs, qpUpdatePending := 1 }).mirrored =
        (qpEffect intr regs d n).2 ∧
      LeavesEgress e (i.marked (qpMarks intr regs d n)) u (d.marked (qpMarks intr regs d n))
        (applyUpdate intr { hdr := dpdqStack e i u d (some n), regs, qpUpdatePending := 1 }).hdr := by
  have hEq : applyUpdate intr { hdr := dpdqStack e i u d (some n), regs, qpUpdatePending := 1 } =
      let s := EgressState.updated regs (dpdqStack e i u d (some n)) d n
      (if n.updateFc = 1 then applyEcn (applyFc intr.deqQdepth s d) d else s).clearInternal := rfl
  rw [hEq]
  simp only [clearInternal_regs, clearInternal_mirrored, clearInternal_hdr]
  by_cases hFc : n.updateFc = 1
  · obtain ⟨hRegs, hMirrored, sync, hHdr⟩ := applyFc_eq intr.deqQdepth
      (s := EgressState.updated regs (dpdqStack e i u d (some n)) d n) d rfl
    obtain ⟨hEcnRegs, hEcnMirrored⟩ := applyEcn_portFc
      (applyFc intr.deqQdepth (EgressState.updated regs (dpdqStack e i u d (some n)) d n) d) d
    have hMark : qpMarks intr regs d n = true ↔
        (d.msgType = dpdqRequest ∨ d.msgType = dpdqReply) ∧
          ecnDecision (EgressState.updated regs (dpdqStack e i u d (some n)) d n).qpBytes
            intr.deqQdepth := by
      have hQp : (qpEffect intr regs d n).1.portQp d.qpPort =
          (EgressState.updated regs (dpdqStack e i u d (some n)) d n).qpBytes := by
        simp only [qpEffect, EgressState.updated, applyQp, Register.execute, if_true]
        split <;> rfl
      rw [qpMarks, decide_eq_true_iff, hQp]
      exact and_iff_right hFc
    have hEcnHdr := applyEcn_applyFc intr.deqQdepth
      (hHdr : _ = { dpdqStack e i u d (some n) with dpdqSync := sync }) hMark
    rw [if_pos hFc, hEcnRegs, hEcnMirrored, hRegs, hMirrored, hEcnHdr, qpEffect, if_pos hFc]
    exact ⟨rfl, rfl, sync, rfl⟩
  · have hMark : qpMarks intr regs d n = false := by
      rw [qpMarks, decide_eq_false_iff_not]
      exact fun hAll => hFc hAll.1
    rw [if_neg hFc, hMark, qpEffect, if_neg hFc]
    exact ⟨rfl, rfl, none, rfl⟩

theorem egressApply_effect (T : Tables) (intr : EgressIntrinsic) (regs : EgressRegs) (e : Ethernet)
    (i : Ipv4) (u : Udp) (d : DpdqHeader) (internal : Option DpdqInternal) :
    (egressApply T intr regs (dpdqStack e i u d internal)).regs =
        (egressEffect T intr regs d internal).1 ∧
      (egressApply T intr regs (dpdqStack e i u d internal)).mirrored =
        (egressEffect T intr regs d internal).2 ∧
      LeavesEgress e (i.marked (egressMarks T intr regs d internal)) u
        { d.marked (egressMarks T intr regs d internal) with reserved := 0 }
        (egressApply T intr regs (dpdqStack e i u d internal)).hdr := by
  unfold egressApply
  rw [clearReserved_regs, clearReserved_mirrored]
  cases internal with
  | some n =>
    obtain ⟨hRegs, hMirrored, hHdr⟩ := applyUpdate_effect intr regs e i u d n
    exact ⟨hRegs, hMirrored, leavesEgress_clearReserved hHdr⟩
  | none =>
    by_cases hGrant : d.msgType = dpdqGrant
    · have hAmount : applyAmount T intr { hdr := dpdqStack e i u d none, regs } =
          { hdr := dpdqStack e i u d none, regs } := by
        simp [applyAmount, dpdqStack, hGrant]
      have hEffect : egressEffect T intr regs d none = (regs, none) := by
        simp [egressEffect, hGrant]
      have hMark : egressMarks T intr regs d none = false := by
        simp [egressMarks, hGrant]
      rw [hAmount, hEffect, hMark]
      exact ⟨rfl, rfl, leavesEgress_clearReserved ⟨none, rfl⟩⟩
    · let r := regs.timestamp.execute d.qpPort (updateTimestampAction intr.globalTstamp)
      let internal := (DpdqInternal.mk r.2 1 1 0).capElapsedTime.computeReduceBytes
      let action := (T.approximateEffect (d.reserved.extractLsb' 9 2)
        (internal.amount.setWidth 16)).getD .noAction
      have hAmount : applyAmount T intr { hdr := dpdqStack e i u d none, regs } =
          { hdr := dpdqStack e i u d (some (internal.effect action)),
            regs := { regs with timestamp := r.1 }, qpUpdatePending := 1 } := by
        simp [applyAmount, dpdqStack, hGrant, r, internal, action]
      have hEffect : egressEffect T intr regs d none =
          qpEffect intr { regs with timestamp := r.1 } d (internal.effect action) := by
        simp [egressEffect, hGrant, r, internal, action]
      have hMark : egressMarks T intr regs d none =
          qpMarks intr { regs with timestamp := r.1 } d (internal.effect action) := by
        simp [egressMarks, hGrant, r, internal, action]
      obtain ⟨hRegs, hMirrored, hHdr⟩ := applyUpdate_effect intr { regs with timestamp := r.1 } e i u
        d (internal.effect action)
      rw [hAmount, hEffect, hMark]
      exact ⟨hRegs, hMirrored, leavesEgress_clearReserved hHdr⟩

/-! ## DPDQ packets -/

/-- A DPDQ packet as it arrives: its headers up to the 8-byte prefix, with any reserved field, and
the bits behind them. -/
structure DpdqPacket where
  ethernet : Ethernet
  ipv4 : Ipv4
  udp : Udp
  dpdq : DpdqHeader
  payload : Bits
  etherType_eq : ethernet.etherType = ethertypeIpv4
  protocol_eq : ipv4.protocol = ipProtocolUdp
  dstPort_eq : udp.dstPort = dpdqUdpPort

/-- The wire format of a DPDQ packet. -/
def wire (e : Ethernet) (i : Ipv4) (u : Udp) (d : DpdqHeader) (payload : Bits) : Bits :=
  emitLayers (dpdqStack e i u d none) ++ payload

theorem length_wire (e : Ethernet) (i : Ipv4) (u : Udp) (d : DpdqHeader) (payload : Bits) :
    (wire e i u d payload).length = 400 + payload.length := by
  simp only [wire, emitLayers, emit, dpdqStack, List.length_append,
    Ethernet.sized_codec.length_encode, Ipv4.sized_codec.length_encode,
    Udp.sized_codec.length_encode, DpdqHeader.sized_codec.length_encode, List.length_nil]

/-- An internal header is in front of the payload. -/
theorem emitLayers_internal (e : Ethernet) (i : Ipv4) (u : Udp) (d : DpdqHeader)
    (internal : Option DpdqInternal) (rest : Bits) :
    emitLayers (dpdqStack e i u d internal) ++ rest =
      wire e i u d (emit DpdqInternal.codec internal ++ rest) := by
  simp [wire, emitLayers, emit, dpdqStack]

namespace DpdqPacket

def bits (p : DpdqPacket) : Bits := wire p.ethernet p.ipv4 p.udp p.dpdq p.payload

/-- The same packet with a clear reserved field. -/
def cleared (p : DpdqPacket) : DpdqPacket := { p with dpdq := { p.dpdq with reserved := 0 } }

/-- The internal header and the payload that the parser makes of the bits behind the prefix. -/
def received (p : DpdqPacket) : Option (Option DpdqInternal × Bits) :=
  if p.dpdq.reserved[11] then
    (DpdqInternal.codec.decode p.payload).map fun (n, rest) => (some n, rest)
  else some (none, p.payload)

theorem layerParser_bits (p : DpdqPacket) : layerParser p.bits = p.received.map fun (n, rest) =>
    (dpdqStack p.ethernet p.ipv4 p.udp p.dpdq n, rest) := by
  have hStart : layerParser p.bits = parseDpdq
      { ethernet := some p.ethernet, ipv4 := some p.ipv4, udp := some p.udp }
      (DpdqHeader.codec.encode p.dpdq ++ p.payload) := by
    simp [layerParser, parseEthernet, parseIpv4, parseUdp, bits, wire, emitLayers, emit, dpdqStack,
      Codec.decode_encode, List.append_assoc, p.etherType_eq, p.protocol_eq, p.dstPort_eq]
  rw [hStart, parseDpdq, Codec.decode_encode, received, Option.bind_some]
  simp only
  split
  · rw [parseDpdqInternal, Option.map_map]
    rfl
  · rfl

theorem received_eq_none_iff (p : DpdqPacket) :
    p.received = none ↔ p.dpdq.reserved[11] = true ∧ p.payload.length < 40 := by
  unfold received
  split
  · rename_i hMark
    rw [Option.map_eq_none_iff, DpdqInternal.sized_codec.decode_eq_none_iff, hMark]
    simp
  · rename_i hMark
    simp [hMark]

/-- What the parser takes off the payload goes back in front of it. -/
theorem payload_of_received {p : DpdqPacket} {internal : Option DpdqInternal} {rest : Bits}
    (h : p.received = some (internal, rest)) :
    emit DpdqInternal.codec internal ++ rest = p.payload := by
  unfold received at h
  split at h
  · obtain ⟨⟨n, rest'⟩, hDecode, hEq⟩ := Option.map_eq_some_iff.mp h
    simp only [Prod.mk.injEq] at hEq
    obtain ⟨rfl, rfl⟩ := hEq
    exact (Codec.encode_decode _ _ _ _ hDecode).symm
  · simp only [Option.some.injEq, Prod.mk.injEq] at h
    obtain ⟨rfl, rfl⟩ := h
    rfl

/-- The plan for the packet. -/
def plan (T : Tables) (fcReg : Register 8) (port : PortId) (p : DpdqPacket) : IngressPlan :=
  ingressPlan T (fcReg port)[0] port (routeOf T p.ipv4.dstAddr) p.dpdq

/-! ### Traversals -/

section Traverse

variable {T : Tables} (intr : EgressIntrinsic) {fcReg : Register 8} (regs : EgressRegs)
  {port : PortId} {p : DpdqPacket}

theorem ingressPipe_received (hSync : readsAsSync T port p.bits = false)
    {internal : Option DpdqInternal} {rest : Bits} (hReceived : p.received = some (internal, rest)) :
    ingressPipe T fcReg port p.bits =
      (fcReg, (ingressApply T port fcReg
        (dpdqStack p.ethernet p.ipv4 p.udp p.dpdq internal)).output rest) := by
  have hParse : layerParser p.bits =
      some (dpdqStack p.ethernet p.ipv4 p.udp p.dpdq internal, rest) := by
    rw [layerParser_bits, hReceived]
    rfl
  unfold ingressPipe
  rw [ingressParser_layerParser hSync hParse]
  simp only
  rw [ingressApply_fcReg_of_no_sync T port fcReg rfl]

/-- A packet that the parser rejects has no effect. -/
theorem traverse_rejected (hSync : readsAsSync T port p.bits = false)
    (hReceived : p.received = none) :
    traverse T intr fcReg regs port p.bits = ⟨fcReg, regs, none, none⟩ := by
  have hParse : layerParser p.bits = none := by
    rw [layerParser_bits, hReceived]
    rfl
  have hIngress := ingressParser_unparsed hSync hParse
  simp [traverse, ingressPipe, hIngress]

/-- A packet that ingress drops has no effect. -/
theorem traverse_unrouted (hSync : readsAsSync T port p.bits = false)
    (hOut : (p.plan T fcReg port).out = none) :
    traverse T intr fcReg regs port p.bits = ⟨fcReg, regs, none, none⟩ := by
  cases hReceived : p.received with
  | none => exact traverse_rejected intr regs hSync hReceived
  | some received =>
    obtain ⟨internal, rest⟩ := received
    have hFollows := follows_ingressApply T port fcReg p.ethernet p.ipv4 p.udp p.dpdq internal
    have hNone : (ingressApply T port fcReg
        (dpdqStack p.ethernet p.ipv4 p.udp p.dpdq internal)).output rest = none := by
      simp [IngressState.output, hFollows.dropped hOut]
    simp [traverse, ingressPipe_received hSync hReceived, hNone]

/-- What is left of the payload behind the internal header. -/
def carried (shim internal : Option DpdqInternal) (rest : Bits) : Bits :=
  match shim with
  | none => emit DpdqInternal.codec internal ++ rest
  | some _ => rest

/-- What ingress emits parses, at egress, as the planned headers in front of what is carried on. -/
theorem egressParser_ingressDeparser {e : Ethernet} {i : Ipv4} {u : Udp} {d : DpdqHeader}
    {shim : Option DpdqInternal} (internal : Option DpdqInternal) (rest : Bits)
    (hType : e.etherType = ethertypeIpv4) (hProtocol : i.protocol = ipProtocolUdp)
    (hPort : u.dstPort = dpdqUdpPort) (hMarked : d.reserved[11] = shim.isSome) :
    egressParser (ingressDeparser (dpdqStack e i u d (shim.or internal)) rest) =
      some (dpdqStack e i.updateChecksum u d shim, carried shim internal rest) := by
  have hEmitted : ingressDeparser (dpdqStack e i u d (shim.or internal)) rest =
      emitLayers (dpdqStack e i.updateChecksum u d shim) ++ carried shim internal rest := by
    change emitLayers (dpdqStack e i.updateChecksum u d (shim.or internal)) ++ rest = _
    cases shim with
    | none =>
      rw [Option.none_or, emitLayers_internal]
      rfl
    | some n => rfl
  rw [hEmitted]
  exact layerParser_emitLayers (layered_dpdqStack hType
    (i.updateChecksum_protocol.trans hProtocol) hPort hMarked) _

/-- A packet that ingress sends on has the effect that its plan says. The payload that leaves lacks
what the parser took off it if ingress wrote an internal header. -/
theorem traverse_sent (hSync : readsAsSync T port p.bits = false) {q : PortId}
    (hOut : (p.plan T fcReg port).out = some q) {internal : Option DpdqInternal} {rest : Bits}
    (hReceived : p.received = some (internal, rest)) :
    let plan := p.plan T fcReg port
    let mark := egressMarks T intr regs plan.dpdq plan.shim
    ∃ e i u, Rewrites (isReturned fcReg port p.dpdq) p.ethernet p.ipv4 p.udp e i u ∧
      traverse T intr fcReg regs port p.bits =
        ⟨fcReg, (egressEffect T intr regs plan.dpdq plan.shim).1,
          (egressEffect T intr regs plan.dpdq plan.shim).2,
          some (q, wire e (i.updateChecksum.marked mark).updateChecksum u
            { plan.dpdq.marked mark with reserved := 0 } (carried plan.shim internal rest))⟩ := by
  intro plan mark
  have hFollows := follows_ingressApply T port fcReg p.ethernet p.ipv4 p.udp p.dpdq internal
  have hMarked := ingressPlan_marked T (fcReg port)[0] port (routeOf T p.ipv4.dstAddr) p.dpdq
  change Follows _ plan _ _ _ _ _ at hFollows
  change plan.dpdq.reserved[11] = plan.shim.isSome at hMarked
  obtain ⟨hKept, hPort⟩ := hFollows.kept (by rw [hOut]; rfl)
  obtain ⟨e, i, u, hRewrites, hHdr⟩ := hFollows.headers
  have hTm := output_of_kept rest hKept (hPort.trans hOut)
  rw [hHdr] at hTm
  have hParse := egressParser_ingressDeparser internal rest (hRewrites.etherType.trans p.etherType_eq)
    (hRewrites.protocol.trans p.protocol_eq) (hRewrites.dstPort.trans p.dstPort_eq) hMarked
  obtain ⟨hRegs, hMirrored, sync, hLeaves⟩ := egressApply_effect T intr regs e
    i.updateChecksum u plan.dpdq plan.shim
  refine ⟨e, i, u, hRewrites, ?_⟩
  unfold traverse
  rw [ingressPipe_received hSync hReceived, hTm]
  simp only [egressPipe, hParse, hRegs, hMirrored, hLeaves]
  rfl

end Traverse

/-! ### Transparency -/

/-- A packet that moves credit between phantom queues: ingress writes an internal header for it. -/
def HandlesCredit (fcReg : Register 8) (port : PortId) (p : DpdqPacket) : Prop :=
  p.dpdq.isBouncedGrant = true ∨ p.dpdq.isUnbouncedGrant = true ∧ (fcReg port)[0] = false

/-- A packet that is returned to the paused port it came from, or that has a route. -/
def Forwarded (T : Tables) (fcReg : Register 8) (port : PortId) (p : DpdqPacket) : Prop :=
  p.dpdq.isUnbouncedGrant = true ∧ (fcReg port)[0] = true ∨ (routeOf T p.ipv4.dstAddr).isSome = true

theorem shim_isSome_iff (T : Tables) (fcReg : Register 8) (port : PortId) (p : DpdqPacket) :
    (p.plan T fcReg port).shim.isSome = true ↔ p.HandlesCredit fcReg port := by
  unfold plan ingressPlan HandlesCredit
  cases hUnbounced : p.dpdq.isUnbouncedGrant with
  | true =>
    have hNot : p.dpdq.isBouncedGrant = false := by
      simp only [DpdqHeader.isUnbouncedGrant, DpdqHeader.isBouncedGrant, Bool.and_eq_true,
        decide_eq_true_eq] at hUnbounced ⊢
      simp [hUnbounced.2]
    cases hPause : (fcReg port)[0] with
    | true => simp [hNot]
    | false => simp
  | false =>
    cases hBounced : p.dpdq.isBouncedGrant with
    | true => simp
    | false => simp

theorem out_isSome_iff (T : Tables) (fcReg : Register 8) (port : PortId) (p : DpdqPacket) :
    (p.plan T fcReg port).out.isSome = true ↔ p.Forwarded T fcReg port := by
  unfold plan ingressPlan Forwarded
  cases hUnbounced : p.dpdq.isUnbouncedGrant with
  | true =>
    cases hPause : (fcReg port)[0] with
    | true => simp
    | false => simp
  | false =>
    cases hBounced : p.dpdq.isBouncedGrant with
    | true => simp
    | false => simp

/-- Packets with the same type, flags, credit, length and ports. -/
structure SameClass (T : Tables) (p p' : DpdqPacket) : Prop where
  msgType : p'.dpdq.msgType = p.dpdq.msgType
  flags : p'.dpdq.flags = p.dpdq.flags
  credit : p'.dpdq.credit = p.dpdq.credit
  length : p'.payload.length = p.payload.length
  route : routeOf T p'.ipv4.dstAddr = routeOf T p.ipv4.dstAddr

theorem SameClass.plan_cleared {T : Tables} {p p' : DpdqPacket} (h : SameClass T p p')
    (fcReg : Register 8) (port : PortId) :
    p'.cleared.plan T fcReg port = p.plan T fcReg port := by
  have hDpdq : p'.dpdq = { p.dpdq with reserved := p'.dpdq.reserved } := by
    simp only [← h.msgType, ← h.flags, ← h.credit]
  have hSame : ingressPlan T (fcReg port)[0] port (routeOf T p.ipv4.dstAddr) p'.dpdq =
      ingressPlan T (fcReg port)[0] port (routeOf T p.ipv4.dstAddr) p.dpdq := by
    rw [hDpdq, ingressPlan_reserved]
  unfold plan cleared
  simp only
  rw [ingressPlan_reserved, h.route, hSame]

/-- Whether a packet is read as a notification depends on its first two bytes only. -/
theorem readsAsSync_cleared (T : Tables) (port : PortId) (p : DpdqPacket) :
    readsAsSync T port p.cleared.bits = readsAsSync T port p.bits := by
  have hFirst (d : DpdqHeader) : lookahead16 (wire p.ethernet p.ipv4 p.udp d p.payload) =
      lookahead16 (Ethernet.codec.encode p.ethernet) := by
    have hLength : 16 ≤ (Ethernet.codec.encode p.ethernet).length := by
      rw [Ethernet.sized_codec.length_encode]
      decide
    unfold lookahead16
    rw [wire, emitLayers, List.append_assoc]
    change ((Codec.bits 16).decode (Ethernet.codec.encode p.ethernet ++ _)).map Prod.fst = _
    rw [(Codec.sized_bits 16).decode_append hLength, Option.map_map]
    rfl
  unfold readsAsSync
  rw [show lookahead16 p.cleared.bits = _ from hFirst _, show lookahead16 p.bits = _ from hFirst _]

/-- The bits behind the prefix leave the switch unchanged and in full, if the packet leaves at all
with a clear reserved field; and the registers do not tell it from any packet of its class with a
clear reserved field. -/
structure Transparent (T : Tables) (intr : EgressIntrinsic) (fcReg : Register 8)
    (regs : EgressRegs) (port : PortId) (p : DpdqPacket) : Prop where
  whole : ∀ q bits, (traverse T intr fcReg regs port p.bits).packet = some (q, bits) →
    ∃ e i u d, bits = wire e i u d p.payload
  leaves : (traverse T intr fcReg regs port p.bits).packet.isSome =
    (traverse T intr fcReg regs port p.cleared.bits).packet.isSome
  registers : ∀ p', SameClass T p p' → readsAsSync T port p'.bits = false →
    (traverse T intr fcReg regs port p.bits).ingressFc =
        (traverse T intr fcReg regs port p'.cleared.bits).ingressFc ∧
      (traverse T intr fcReg regs port p.bits).egress =
        (traverse T intr fcReg regs port p'.cleared.bits).egress

theorem received_cleared (p : DpdqPacket) : p.cleared.received = some (none, p.payload) := by
  simp [received, cleared]

theorem sameClass_refl (T : Tables) (p : DpdqPacket) : SameClass T p p := ⟨rfl, rfl, rfl, rfl, rfl⟩

section Transparency

variable {T : Tables} {intr : EgressIntrinsic} {fcReg : Register 8} {regs : EgressRegs}
  {port : PortId} {p : DpdqPacket}

/-- A packet with a clear reserved field leaves if it is forwarded. -/
theorem cleared_leaves (hSync : readsAsSync T port p.bits = false) :
    (traverse T intr fcReg regs port p.cleared.bits).packet.isSome =
      (p.plan T fcReg port).out.isSome := by
  have hSyncCleared := (readsAsSync_cleared T port p).trans hSync
  have hPlan := (sameClass_refl T p).plan_cleared fcReg port
  cases hOut : (p.plan T fcReg port).out with
  | none =>
    rw [traverse_unrouted intr regs hSyncCleared (hPlan ▸ hOut)]
    rfl
  | some q =>
    obtain ⟨e, i, u, -, hSent⟩ := traverse_sent intr regs hSyncCleared
      (hPlan ▸ hOut) p.received_cleared
    rw [hSent]
    rfl

theorem transparent_of_unrouted (hSync : readsAsSync T port p.bits = false)
    (hOut : (p.plan T fcReg port).out = none) : p.Transparent T intr fcReg regs port := by
  have hNone := traverse_unrouted intr regs hSync hOut
  constructor
  · rw [hNone]
    nofun
  · rw [cleared_leaves hSync, hNone, hOut]
    rfl
  · intro p' hClass hSync'
    rw [hNone, traverse_unrouted intr regs ((readsAsSync_cleared T port p').trans hSync')
      ((hClass.plan_cleared fcReg port).symm ▸ hOut)]
    exact ⟨rfl, rfl⟩

theorem transparent_of_carried (hSync : readsAsSync T port p.bits = false) {q : PortId}
    (hOut : (p.plan T fcReg port).out = some q) {internal : Option DpdqInternal} {rest : Bits}
    (hReceived : p.received = some (internal, rest))
    (hCarried : carried (p.plan T fcReg port).shim internal rest = p.payload) :
    p.Transparent T intr fcReg regs port := by
  obtain ⟨e, i, u, -, hSent⟩ := traverse_sent intr regs hSync hOut hReceived
  constructor
  · intro q' bits hPacket
    rw [hSent, hCarried] at hPacket
    cases hPacket
    exact ⟨_, _, _, _, rfl⟩
  · rw [cleared_leaves hSync, hSent, hOut]
    rfl
  · intro p' hClass hSync'
    have hPlan := hClass.plan_cleared fcReg port
    obtain ⟨e', i', u', -, hSent'⟩ := traverse_sent intr regs
      ((readsAsSync_cleared T port p').trans hSync') (hPlan.symm ▸ hOut) p'.received_cleared
    rw [hSent, hSent', hPlan]
    exact ⟨rfl, rfl⟩

/-- A marked packet that gets an internal header loses the bits that the parser took for one. -/
theorem length_carried_of_marked (hMark : p.dpdq.reserved[11] = true) {internal : Option DpdqInternal}
    {rest : Bits} (hReceived : p.received = some (internal, rest)) (n : DpdqInternal) :
    (carried (some n) internal rest).length + 40 = p.payload.length := by
  have hPayload := congrArg List.length (payload_of_received hReceived)
  unfold received at hReceived
  rw [if_pos hMark] at hReceived
  obtain ⟨⟨m, rest'⟩, -, hEq⟩ := Option.map_eq_some_iff.mp hReceived
  obtain ⟨rfl, rfl⟩ := Prod.mk.inj hEq
  simp only [emit, List.length_append, DpdqInternal.sized_codec.length_encode] at hPayload
  show rest'.length + 40 = p.payload.length
  omega

/-- A packet that is not marked is not parsed any further. -/
theorem received_of_unmarked (hMark : p.dpdq.reserved[11] = false) :
    p.received = some (none, p.payload) := by
  unfold received
  rw [hMark]
  rfl

end Transparency

end DpdqPacket

/-- The switch is transparent to the reserved field of a DPDQ packet unless the packet arrives with
bit 11 of it set, is forwarded, and is too short for an internal header or gets one written. -/
theorem wire_transparent_iff (T : Tables) (intr : EgressIntrinsic) (fcReg : Register 8)
    (regs : EgressRegs) (port : PortId) (p : DpdqPacket)
    (hSync : readsAsSync T port p.bits = false) :
    p.Transparent T intr fcReg regs port ↔
      (p.dpdq.reserved[11] = true → p.Forwarded T fcReg port →
        40 ≤ p.payload.length ∧ ¬ p.HandlesCredit fcReg port) := by
  have hOutIff := p.out_isSome_iff T fcReg port
  have hShimIff := p.shim_isSome_iff T fcReg port
  cases hOut : (p.plan T fcReg port).out with
  | none =>
    have hStays : ¬ p.Forwarded T fcReg port := by
      rw [← hOutIff, hOut]
      decide
    exact iff_of_true (DpdqPacket.transparent_of_unrouted hSync hOut)
      fun _ hForwarded => absurd hForwarded hStays
  | some q =>
    have hForwarded : p.Forwarded T fcReg port := hOutIff.mp (by rw [hOut]; rfl)
    constructor
    · intro h hMark _
      cases hReceived : p.received with
      | none =>
        have hLeaves := h.leaves
        rw [DpdqPacket.traverse_rejected intr regs hSync hReceived, DpdqPacket.cleared_leaves hSync,
          hOut] at hLeaves
        cases hLeaves
      | some received =>
        obtain ⟨internal, rest⟩ := received
        constructor
        · by_contra hShort
          rw [p.received_eq_none_iff.mpr ⟨hMark, Nat.lt_of_not_le hShort⟩] at hReceived
          cases hReceived
        · intro hCredit
          obtain ⟨n, hShim⟩ := Option.isSome_iff_exists.mp (hShimIff.mpr hCredit)
          obtain ⟨e, i, u, -, hSent⟩ := DpdqPacket.traverse_sent intr regs
            hSync hOut hReceived
          obtain ⟨e', i', u', d', hWhole⟩ := h.whole q _ (by rw [hSent])
          have hLost := DpdqPacket.length_carried_of_marked hMark hReceived n
          have hLength := congrArg List.length hWhole
          rw [length_wire, length_wire, hShim] at hLength
          omega
    · intro h
      cases hMark : p.dpdq.reserved[11] with
      | false =>
        apply DpdqPacket.transparent_of_carried hSync hOut (DpdqPacket.received_of_unmarked hMark)
        cases (p.plan T fcReg port).shim with
        | none => rfl
        | some n => rfl
      | true =>
        obtain ⟨hLong, hNoCredit⟩ := h hMark hForwarded
        have hNoShim : (p.plan T fcReg port).shim = none := by
          rw [← hShimIff, Bool.not_eq_true, Option.isSome_eq_false_iff] at hNoCredit
          exact Option.isNone_iff_eq_none.mp hNoCredit
        cases hReceived : p.received with
        | none =>
          have hShort := (p.received_eq_none_iff.mp hReceived).2
          omega
        | some received =>
          obtain ⟨internal, rest⟩ := received
          apply DpdqPacket.transparent_of_carried hSync hOut hReceived
          rw [hNoShim]
          exact DpdqPacket.payload_of_received hReceived

/-- The sample GRANT with any reserved field, and the 96 bits of the fields behind the prefix. -/
def sampleDpdq (reserved : BitVec 16) : DpdqPacket where
  ethernet := sampleGrant.ethernet
  ipv4 := sampleGrant.ipv4
  udp := sampleGrant.udp
  dpdq := { sampleGrant.dpdq with reserved := reserved }
  payload := (Codec.bits 96).encode 0x0000000100000002_00000003
  etherType_eq := sampleGrant.etherType_eq
  protocol_eq := sampleGrant.protocol_eq
  dstPort_eq := sampleGrant.dstPort_eq

/-- Bits 0 to 10 and bit 12 of the reserved field are set. -/
theorem wire_transparent_iff_sample :
    (sampleDpdq 0x17ff).Transparent oneRoute ⟨0, 0⟩ (fun _ => 0) {} 3 :=
  (wire_transparent_iff oneRoute ⟨0, 0⟩ (fun _ => 0) {} 3 (sampleDpdq 0x17ff) rfl).mpr
    fun hMarked => absurd hMarked (by decide)

/-- An accepted GRANT that arrives with bit 11 of its reserved field set loses the first 40 bits
behind the prefix. -/
theorem marked_grant_truncated :
    readsAsSync oneRoute 3 (sampleDpdq 0x0800).bits = false ∧
      ∃ bits, (traverse oneRoute ⟨0, 0⟩ (fun _ => 0) {} 3 (sampleDpdq 0x0800).bits).packet =
          some (7, bits) ∧
        bits.drop 400 = (sampleDpdq 0x0800).payload.drop 40 ∧
        ∀ e i u d, bits ≠ wire e i u d (sampleDpdq 0x0800).payload := by
  have hRun : (traverse oneRoute ⟨0, 0⟩ (fun _ => 0) {} 3 (sampleDpdq 0x0800).bits).packet.map
      (fun x => (x.1, x.2.length, x.2.drop 400)) =
        some (7, 456, (sampleDpdq 0x0800).payload.drop 40) := by
    decide +kernel
  obtain ⟨⟨q, bits⟩, hPacket, hEq⟩ := Option.map_eq_some_iff.mp hRun
  obtain ⟨rfl, hLength, hRest⟩ : q = 7 ∧ bits.length = 456 ∧
      bits.drop 400 = (sampleDpdq 0x0800).payload.drop 40 := by
    simpa using hEq
  refine ⟨rfl, bits, hPacket, hRest, ?_⟩
  rintro e i u d rfl
  rw [length_wire] at hLength
  cases hLength

end Dpdq.Tofino
