import Dpdq.Tofino.EgressPort
import Dpdq.Tofino.Transparency

/-!
# Flow control and ECN

Egress compares the phantom queue and the real queue with their thresholds through saturated minima,
and keeps the state of a port in a register word. Over any run of packets, the word of a port follows
the plain machine with two thresholds and a band between them in which the state is held
(`hysteresis`), and the packets that get an ECN mark are those that the thresholds say (`ecnMark`).
-/

namespace Dpdq.Tofino

open Lib

/-! ## The direct decisions -/

/-- The state of a port behind an evaluation with `qp` bytes in the phantom queue and `depth` cells
in the real one. -/
def hysteresis (paused : Bool) (qp depth : Nat) : Bool :=
  if 162500 < qp ∨ 2033 ≤ depth then true
  else if qp < 142500 ∧ depth < 1782 then false
  else paused

/-- A packet is marked. -/
def ecnMark (msgType : BitVec 8) (qp depth : Nat) : Bool :=
  (msgType = dpdqRequest ∨ msgType = dpdqReply) ∧ (81250 < qp ∨ 1016 ≤ depth)

theorem updateFcStateAction_fcDecision (paused : Bool) (qp : BitVec 32) (depth : BitVec 19) :
    (updateFcStateAction (fcDecision qp depth) (fcWord paused)).1 =
      fcWord (hysteresis paused qp.toNat depth.toNat) := by
  have hXoff : (dpdqXoffTriggerBytes ≤ qp ∨ dpdqXoffTriggerCells ≤ depth) ↔
      162500 < qp.toNat ∨ 2033 ≤ depth.toNat := Iff.rfl
  have hXon : (qp < dpdqXonBytes ∧ depth < dpdqXonCells) ↔
      qp.toNat < 142500 ∧ depth.toNat < 1782 := Iff.rfl
  unfold fcDecision hysteresis
  simp only [hXoff, hXon]
  split
  · rfl
  · split
    · rfl
    · rfl

theorem ecnDecision_iff (qp : BitVec 32) (depth : BitVec 19) :
    ecnDecision qp depth ↔ 81250 < qp.toNat ∨ 1016 ≤ depth.toNat := Iff.rfl

/-! ## The state of a port -/

/-- The queues that the evaluation of a packet reads for a port, if there is one. -/
def PortRegs.fcReading (T : Tables) (intr : EgressIntrinsic) (r : PortRegs)
    (out : Option (DpdqHeader × Option DpdqInternal)) : Option (Nat × Nat) :=
  (r.internalOf T intr out).bind fun n =>
    if n.updateFc = 1 then some ((r.after T intr out).qp.toNat, intr.deqQdepth.toNat) else none

/-- The readings of the evaluations of port `p` in a run. -/
def fcReadings (T : Tables) (p : PortId) : EgressRegs → List (EgressIntrinsic × Bits) →
    List (Nat × Nat)
  | _, [] => []
  | regs, x :: pkts =>
    ((regs.port p).fcReading T x.1 (accountedTo p x.2)).toList ++
      fcReadings T p (egressPipe T x.1 regs x.2).regs pkts

/-- The readings of a run, one after the other. -/
def hysteresisRun (paused : Bool) (readings : List (Nat × Nat)) : Bool :=
  readings.foldl (fun paused x => hysteresis paused x.1 x.2) paused

theorem PortRegs.update_fc {r : PortRegs} {paused : Bool} (hWord : r.fc = fcWord paused)
    (depth : BitVec 19) (n : DpdqInternal) :
    (r.update depth n).fc = fcWord (if n.updateFc = 1 then
      hysteresis paused (r.update depth n).qp.toNat depth.toNat else paused) := by
  simp only [PortRegs.update]
  split
  · rw [hWord, updateFcStateAction_fcDecision]
  · exact hWord

/-- One packet. -/
theorem PortRegs.after_fc (T : Tables) (intr : EgressIntrinsic) {r : PortRegs} {paused : Bool}
    (hWord : r.fc = fcWord paused) (out : Option (DpdqHeader × Option DpdqInternal)) :
    (r.after T intr out).fc = fcWord (hysteresisRun paused (r.fcReading T intr out).toList) := by
  have hUpdate {r : PortRegs} {n : DpdqInternal} (hWord : r.fc = fcWord paused) :
      (r.update intr.deqQdepth n).fc = fcWord (hysteresisRun paused
        (if n.updateFc = 1 then some ((r.update intr.deqQdepth n).qp.toNat, intr.deqQdepth.toNat)
          else none).toList) := by
    rw [PortRegs.update_fc hWord]
    split <;> rfl
  unfold PortRegs.fcReading
  cases out with
  | none => exact hWord
  | some out =>
    obtain ⟨d, internal⟩ := out
    cases internal with
    | some n => exact hUpdate hWord
    | none =>
      unfold PortRegs.after PortRegs.internalOf
      dsimp only
      split
      · exact hWord
      · exact hUpdate (r := { r with tstamp := intr.globalTstamp.setWidth 32 }) hWord

theorem egressRun_portFc {T : Tables} {p : PortId} {regs : EgressRegs} {paused : Bool}
    (hWord : regs.portFc p = fcWord paused) (pkts : List (EgressIntrinsic × Bits)) :
    (egressRun T regs pkts).portFc p = fcWord (hysteresisRun paused (fcReadings T p regs pkts)) := by
  induction pkts generalizing regs paused with
  | nil => exact hWord
  | cons x pkts ih =>
    have hPort := congrArg PortRegs.fc (egressPipe_port T x.1 regs x.2 p)
    have hHead := PortRegs.after_fc T x.1 (r := regs.port p) hWord (accountedTo p x.2)
    rw [egressRun_cons, ih (hPort.trans hHead), fcReadings, hysteresisRun, hysteresisRun,
      hysteresisRun, List.foldl_append]

/-! ## Marks -/

section Marks

variable {T : Tables} {intr : EgressIntrinsic} {regs : EgressRegs} {d : DpdqHeader}

/-- A packet without an internal header is marked by its type and the queues of its port. -/
theorem egressMarks_none :
    egressMarks T intr regs d none =
      ecnMark d.msgType ((egressEffect T intr regs d none).1.portQp d.qpPort).toNat
        intr.deqQdepth.toNat := by
  by_cases hGrant : d.msgType = dpdqGrant
  · simp [egressMarks, ecnMark, hGrant, dpdqGrant, dpdqRequest, dpdqReply]
  · have hKept (n : DpdqInternal) (action : EffectAction) (hFc : n.updateFc = 1) :
        (n.effect action).updateFc = 1 := by
      cases action <;>
        simp [DpdqInternal.effect, DpdqInternal.computeNetAdd, DpdqInternal.computeNetSubtract, hFc]
    rw [Bool.eq_iff_iff]
    simp only [egressMarks, egressEffect, ne_eq, hGrant, not_false_eq_true, if_true, qpMarks, ecnMark,
      decide_eq_true_eq, ecnDecision_iff]
    apply and_iff_right
    exact hKept _ _ rfl

/-- A GRANT is never marked. -/
theorem egressMarks_grant (hGrant : d.msgType = dpdqGrant) (internal : Option DpdqInternal) :
    egressMarks T intr regs d internal = false := by
  cases internal with
  | none => simp [egressMarks, hGrant]
  | some n => simp [egressMarks, qpMarks, hGrant, dpdqGrant, dpdqRequest, dpdqReply]

end Marks

/-- A packet without a DPDQ prefix leaves egress as it is. -/
theorem egressApply_other (T : Tables) (intr : EgressIntrinsic) (regs : EgressRegs) (hdr : Headers)
    (hNone : hdr.dpdq = none) : (egressApply T intr regs hdr).hdr = hdr := by
  have hAmount : applyAmount T intr { hdr, regs } = { hdr, regs } := by
    unfold applyAmount
    dsimp only
    rw [hNone]
    cases hdr.ipv4 <;> rfl
  have hUpdate : applyUpdate intr { hdr, regs } = { hdr, regs } := by
    simp only [applyUpdate, hNone]
  rw [egressApply, hAmount, hUpdate]
  show { hdr with dpdq := hdr.dpdq.map _ } = hdr
  rw [hNone, Option.map_none, ← hNone]

/-- Ingress tells egress the port that a REQUEST or a REPLY leaves through, and writes no internal
header for it. -/
theorem DpdqPacket.plan_data {T : Tables} {fcReg : Register 8} {port q : PortId} {p : DpdqPacket}
    (hType : p.dpdq.msgType ≠ dpdqGrant) (hOut : (p.plan T fcReg port).out = some q) :
    (p.plan T fcReg port).shim = none ∧ (p.plan T fcReg port).dpdq.qpPort = q ∧
      (p.plan T fcReg port).dpdq.flags = p.dpdq.flags := by
  have hUnbounced : p.dpdq.isUnbouncedGrant = false := by simp [DpdqHeader.isUnbouncedGrant, hType]
  have hBounced : p.dpdq.isBouncedGrant = false := by simp [DpdqHeader.isBouncedGrant, hType]
  have hMarker (q : PortId) (a : ClassifyAction) : (q.setWidth 16 ||| a.marker).setWidth 9 = q := by
    ext i hi
    cases a <;> simp [ClassifyAction.marker, dpdqMetaClassData, dpdqMetaClassSignal]
  unfold DpdqPacket.plan ingressPlan at hOut ⊢
  rw [hUnbounced, hBounced, if_neg Bool.false_ne_true, if_neg Bool.false_ne_true] at hOut ⊢
  have hRoute : routeOf T p.ipv4.dstAddr = some q := hOut
  refine ⟨rfl, ?_, rfl⟩
  show (((routeOf T p.ipv4.dstAddr).getD 0).setWidth 16 ||| ClassifyAction.marker _).setWidth 9 = q
  rw [hRoute, Option.getD_some, hMarker]

/-- The type decides, and GRANTs are never marked. -/
theorem DpdqPacket.plan_msgType (T : Tables) (fcReg : Register 8) (port : PortId) (p : DpdqPacket) :
    (p.plan T fcReg port).dpdq.msgType = p.dpdq.msgType := by
  unfold DpdqPacket.plan ingressPlan
  split
  · split <;> rfl
  · split <;> rfl

/-- Ingress leaves the mark of the network alone. -/
theorem DpdqPacket.plan_networkMarked (T : Tables) (fcReg : Register 8) (port : PortId)
    (p : DpdqPacket) : (p.plan T fcReg port).dpdq.flags &&& dpdqFlagNetworkMarked =
      p.dpdq.flags &&& dpdqFlagNetworkMarked := by
  have hBounced (flags : BitVec 8) : (flags ||| dpdqFlagBounced) &&& dpdqFlagNetworkMarked =
      flags &&& dpdqFlagNetworkMarked := by
    rw [BitVec.and_or_distrib_right]
    exact BitVec.or_zero
  unfold DpdqPacket.plan ingressPlan
  split
  · split
    · exact hBounced p.dpdq.flags
    · rfl
  · split <;> rfl

/-- The mark of a packet that leaves through port `q`. -/
theorem DpdqPacket.egressMarks_plan (T : Tables) (intr : EgressIntrinsic) (fcReg : Register 8)
    (regs : EgressRegs) (port : PortId) (p : DpdqPacket) {q : PortId}
    (hOut : (p.plan T fcReg port).out = some q) :
    egressMarks T intr regs (p.plan T fcReg port).dpdq (p.plan T fcReg port).shim =
      ecnMark p.dpdq.msgType ((egressEffect T intr regs (p.plan T fcReg port).dpdq
        (p.plan T fcReg port).shim).1.portQp q).toNat intr.deqQdepth.toNat := by
  have hType := p.plan_msgType T fcReg port
  by_cases hGrant : p.dpdq.msgType = dpdqGrant
  · rw [egressMarks_grant (hType.trans hGrant), hGrant]
    rfl
  · obtain ⟨hShim, hPort, -⟩ := DpdqPacket.plan_data hGrant hOut
    rw [hShim, egressMarks_none, hType, hPort]

/-! ## The direct functions -/

/-- What the flow control and the ECN marks of the egress pipeline should be: the state of a port
follows the plain machine in every run of packets, and the packets of a switch that leave marked are
the REQUESTs and the REPLYs over the ECN thresholds. -/
structure DirectFlowControl (T : Tables) : Prop where
  state : ∀ regs p paused pkts, regs.portFc p = fcWord paused →
    (egressRun T regs pkts).portFc p = fcWord (hysteresisRun paused (fcReadings T p regs pkts))
  marked : ∀ intr fcReg regs port (p : DpdqPacket), readsAsSync T port p.bits = false →
    ∀ q bits, (traverse T intr fcReg regs port p.bits).packet = some (q, bits) →
      let mark := ecnMark p.dpdq.msgType
        ((traverse T intr fcReg regs port p.bits).egress.portQp q).toNat intr.deqQdepth.toNat
      ∃ e i u d rest, bits = wire e i u d rest ∧
        i.diffserv = (if mark then p.ipv4.diffserv ||| 3 else p.ipv4.diffserv) ∧
        d.flags &&& dpdqFlagNetworkMarked =
          if mark then dpdqFlagNetworkMarked else p.dpdq.flags &&& dpdqFlagNetworkMarked
  others : ∀ intr regs hdr, hdr.dpdq = none → (egressApply T intr regs hdr).hdr = hdr

theorem flow_control_is_hysteresis (T : Tables) : DirectFlowControl T := by
  refine ⟨fun regs p paused pkts hWord => egressRun_portFc hWord pkts, ?_, ?_⟩
  · intro intr fcReg regs port p hSync q bits hPacket
    cases hOut : (p.plan T fcReg port).out with
    | none =>
      rw [DpdqPacket.traverse_unrouted intr regs hSync hOut] at hPacket
      cases hPacket
    | some q' =>
      cases hReceived : p.received with
      | none =>
        rw [DpdqPacket.traverse_rejected intr regs hSync hReceived] at hPacket
        cases hPacket
      | some received =>
        obtain ⟨internal, rest⟩ := received
        obtain ⟨e, i, u, hRewrites, hSent⟩ :=
          DpdqPacket.traverse_sent intr regs hSync hOut hReceived
        rw [hSent] at hPacket ⊢
        cases hPacket
        have hMark := p.egressMarks_plan T intr fcReg regs port hOut
        refine ⟨_, _, _, _, _, rfl, ?_, ?_⟩
        · rw [← hMark]
          show ((i.updateChecksum.marked _).updateChecksum).diffserv = _
          rw [Ipv4.updateChecksum, Ipv4.marked]
          split
          · exact congrArg (· ||| 3) hRewrites.diffserv
          · exact hRewrites.diffserv
        · rw [← hMark]
          show ((p.plan T fcReg port).dpdq.marked _).flags &&& dpdqFlagNetworkMarked = _
          rw [DpdqHeader.marked]
          split
          · show ((p.plan T fcReg port).dpdq.flags ||| dpdqFlagNetworkMarked) &&& _ = _
            ext j hj
            rw [BitVec.getElem_and, BitVec.getElem_or]
            cases dpdqFlagNetworkMarked[j] with
            | false => exact Bool.and_false _
            | true => rw [Bool.or_true, Bool.and_true]
          · exact p.plan_networkMarked T fcReg port
  · exact fun intr regs hdr hNone => egressApply_other T intr regs hdr hNone

end Dpdq.Tofino
