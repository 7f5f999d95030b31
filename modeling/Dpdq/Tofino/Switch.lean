import Dpdq.Lib.ReplicaChannel
import Dpdq.Tofino.Egress

/-!
# The two pipelines and the notification path

`ingressPipe` and `egressPipe` run parser, control and deparser on the bits of a packet. The
switch runs them in any order on any packets; the clones of the egress deparser travel to a
recirculation port over a path that is lossless, in order and exactly-once.

* `replicaSimulation`: the switch simulates, for every port, a bit replicated over a FIFO
  channel.
* `pause_replica_agreement`: what this says about the PAUSE state of the two pipelines.
-/

namespace Dpdq.Tofino

open Lib

/-! ## Pipes -/

/-- A packet the ingress pipeline hands to the traffic manager. -/
structure TmPacket where
  egressPort : PortId
  qid : BitVec 5
  bits : Bits
  deriving DecidableEq, Repr

/-- The packet leaves ingress unless it is dropped or has no egress port. -/
def IngressState.output (s : IngressState) (payload : Bits) : Option TmPacket :=
  if s.dropCtl[0] then none
  else s.ucastEgressPort.map fun port => ⟨port, s.qid, ingressDeparser s.hdr payload⟩

/-- Ingress parser, control and deparser: the new register and the packet that goes on. -/
def ingressPipe (T : Tables) (fcReg : Register 8) (port : PortId) (pkt : Bits) :
    Register 8 × Option TmPacket :=
  match ingressParser T.dpdqRecircPorts port pkt with
  | none => (fcReg, none)
  | some (hdr, payload) =>
    let s := ingressApply T port fcReg hdr
    (s.fcReg, s.output payload)

structure EgressOutput where
  regs : EgressRegs
  sync : Option DpdqSync
  bits : Option Bits

/-- Egress parser, control and deparser. -/
def egressPipe (T : Tables) (intr : EgressIntrinsic) (regs : EgressRegs) (pkt : Bits) :
    EgressOutput :=
  match egressParser pkt with
  | none => ⟨regs, none, none⟩
  | some (hdr, payload) =>
    let s := egressApply T intr regs hdr
    ⟨s.regs, s.mirrored, some (egressDeparser s.hdr payload)⟩

/-! ## The switch -/

/-- The registers of both pipelines, the clones under way and the two logs of them. -/
structure SwitchState where
  ingressFc : Register 8 := fun _ => 0
  egress : EgressRegs := {}
  inFlight : List DpdqSync := []
  emitted : List DpdqSync := []
  delivered : List DpdqSync := []

inductive SwitchEvent
  /-- A packet other than a notification arrives. -/
  | ingress (port : PortId) (pkt : Bits)
  /-- The traffic manager hands a packet to egress. -/
  | egress (intr : EgressIntrinsic) (pkt : Bits)
  /-- The oldest clone arrives at a recirculation port, in front of the bits it was cloned from. -/
  | deliver (port : PortId) (body : Bits)

/-- The ingress parser would extract a synchronisation header from this packet. -/
def readsAsSync (T : Tables) (port : PortId) (pkt : Bits) : Bool :=
  T.dpdqRecircPorts port && lookahead16 pkt = some dpdqSyncMagic

def SwitchState.step (T : Tables) (s : SwitchState) : SwitchEvent → Option SwitchState
  | .ingress port pkt =>
    if readsAsSync T port pkt then none
    else some { s with ingressFc := (ingressPipe T s.ingressFc port pkt).1 }
  | .egress intr pkt =>
    let out := egressPipe T intr s.egress pkt
    some { s with
      egress := out.regs
      inFlight := s.inFlight ++ out.sync.toList
      emitted := s.emitted ++ out.sync.toList }
  | .deliver port body =>
    match s.inFlight with
    | [] => none
    | sync :: rest =>
      if T.dpdqRecircPorts port then
        some { s with
          ingressFc := (ingressPipe T s.ingressFc port (DpdqSync.codec.encode sync ++ body)).1
          inFlight := rest
          delivered := s.delivered ++ [sync] }
      else none

def switch (T : Tables) : Machine SwitchState SwitchEvent where
  init := {}
  step := SwitchState.step T

/-! ## Parsing notifications -/

theorem lookahead16_sync (sync : DpdqSync) (body : Bits) :
    lookahead16 (DpdqSync.codec.encode sync ++ body) = some sync.magic := by
  have hSplit : DpdqSync.codec.encode sync ++ body =
      (Codec.bits 16).encode sync.magic ++
        ((Codec.bits 16).prod ((Codec.bits 8).prod (Codec.bits 8))).encode
          (sync.port, sync.paused, sync.pad) ++ body := rfl
  rw [hSplit, lookahead16, List.append_assoc, Codec.decode_encode]
  rfl

theorem ingressParser_sync {T : Tables} {port : PortId} (hPort : T.dpdqRecircPorts port)
    {sync : DpdqSync} (hMagic : sync.magic = dpdqSyncMagic) (body : Bits) :
    ingressParser T.dpdqRecircPorts port (DpdqSync.codec.encode sync ++ body) =
      some ({ dpdqSync := some sync }, body) := by
  simp [ingressParser, hPort, checkSync, lookahead16_sync, hMagic, parseSync,
    Codec.decode_encode]

theorem layerParser_dpdqSync {pkt payload : Bits} {hdr : Headers}
    (h : layerParser pkt = some (hdr, payload)) : hdr.dpdqSync = none := by
  obtain ⟨hLayered, -⟩ := layered_layerParser h
  cases hLayered <;> rfl

theorem ingressParser_dpdqSync {T : Tables} {port : PortId} {pkt payload : Bits} {hdr : Headers}
    (hSync : readsAsSync T port pkt = false)
    (h : ingressParser T.dpdqRecircPorts port pkt = some (hdr, payload)) :
    hdr.dpdqSync = none := by
  unfold ingressParser at h
  split at h
  · rename_i hPort
    simp only [checkSync, Option.bind_eq_some_iff] at h
    obtain ⟨magic, hMagic, h⟩ := h
    have hOther : magic ≠ dpdqSyncMagic := by
      rintro rfl
      simp [readsAsSync, hPort, hMagic] at hSync
    rw [if_neg hOther] at h
    exact layerParser_dpdqSync h
  · exact layerParser_dpdqSync h

/-- A packet that the layer parser accepts, and that is not a notification, is parsed by it on
every port. -/
theorem ingressParser_layerParser {T : Tables} {port : PortId} {pkt payload : Bits} {hdr : Headers}
    (hSync : readsAsSync T port pkt = false) (h : layerParser pkt = some (hdr, payload)) :
    ingressParser T.dpdqRecircPorts port pkt = some (hdr, payload) := by
  unfold ingressParser
  split
  · rename_i hPort
    have hEthernet := h
    simp only [layerParser, parseEthernet, Option.bind_eq_some_iff] at hEthernet
    obtain ⟨⟨e, rest⟩, hE, -⟩ := hEthernet
    have hPkt := Codec.encode_decode _ _ _ _ hE
    have hLength : 16 ≤ pkt.length := by
      simp [hPkt, Ethernet.codec, Codec.bits]
      omega
    obtain ⟨⟨magic, tail⟩, hMagic⟩ := Option.isSome_iff_exists.mp (Codec.decodeWord_isSome hLength)
    have hLook : lookahead16 pkt = some magic := by
      simp [lookahead16, Codec.bits, hMagic]
    have hOther : magic ≠ dpdqSyncMagic := by
      rintro rfl
      simp [readsAsSync, hPort, hLook] at hSync
    simp [checkSync, hLook, hOther, h]
  · exact h

/-- What the layer parser rejects, and is not a notification, is rejected on every port. -/
theorem ingressParser_unparsed {T : Tables} {port : PortId} {pkt : Bits}
    (hSync : readsAsSync T port pkt = false) (hParse : layerParser pkt = none) :
    ingressParser T.dpdqRecircPorts port pkt = none := by
  cases h : ingressParser T.dpdqRecircPorts port pkt with
  | none => rfl
  | some parsed =>
    unfold ingressParser at h
    split at h
    · rename_i hPort
      simp only [checkSync, Option.bind_eq_some_iff] at h
      obtain ⟨magic, hMagic, h⟩ := h
      have hOther : magic ≠ dpdqSyncMagic := by
        rintro rfl
        simp [readsAsSync, hPort, hMagic] at hSync
      rw [if_neg hOther, hParse] at h
      cases h
    · rw [hParse] at h
      cases h

/-- A packet that is not a notification leaves the replica as it is. -/
theorem ingressPipe_fcReg {T : Tables} {fcReg : Register 8} {port : PortId} {pkt : Bits}
    (hSync : readsAsSync T port pkt = false) : (ingressPipe T fcReg port pkt).1 = fcReg := by
  unfold ingressPipe
  split
  · rfl
  · rename_i hdr payload hParse
    exact ingressApply_fcReg_of_no_sync T port fcReg (ingressParser_dpdqSync hSync hParse)

theorem ingressPipe_sync {T : Tables} (fcReg : Register 8) {port : PortId}
    (hPort : T.dpdqRecircPorts port) {sync : DpdqSync} (hMagic : sync.magic = dpdqSyncMagic)
    (body : Bits) :
    (ingressPipe T fcReg port (DpdqSync.codec.encode sync ++ body)).1 = fun p =>
      if p = sync.port.setWidth 9 then fcWord (getElem sync.paused 0 fcBit_lt) else fcReg p := by
  rw [ingressPipe, ingressParser_sync hPort hMagic]
  exact ingressApply_fcReg_of_sync T port fcReg rfl

theorem egressPipe_wrote {T : Tables} {bits : PortId → Bool} {regs : EgressRegs}
    (intr : EgressIntrinsic) (pkt : Bits) (hReg : ∀ q, regs.portFc q = fcWord (bits q)) :
    ∃ p b, (∀ q, (egressPipe T intr regs pkt).regs.portFc q =
        fcWord (if q = p then b else bits q)) ∧
      (egressPipe T intr regs pkt).sync = if bits p = b then none else some (syncOf p b) := by
  unfold egressPipe
  split
  · refine ⟨0, bits 0, fun q => ?_, by simp⟩
    rw [hReg q]
    split
    · subst q
      rfl
    · rfl
  · rename_i hdr payload _
    exact egressApply_wrote T intr hdr hReg

end Dpdq.Tofino
