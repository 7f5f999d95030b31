import Dpdq.Tofino.CreditPath

/-!
# The egress registers of one port

The words of one port in the three register arrays of the egress pipeline. A packet through egress
changes them by what it is to that port: nothing, an update that ingress asked for, or a departure
(`egressPipe_port`). What a departure drains from the phantom queue comes from the timestamp word.
-/

namespace Dpdq.Tofino

open Lib

/-! ## What a packet does to the registers of a port -/

/-- The DPDQ header and the internal header of a packet that egress accounts to port `p`. -/
def accountedTo (p : PortId) (pkt : Bits) : Option (DpdqHeader × Option DpdqInternal) :=
  (egressParser pkt).bind fun (hdr, _) =>
    match hdr.ipv4, hdr.dpdq with
    | some _, some d => if d.qpPort = p then some (d, hdr.dpdqInternal) else none
    | _, _ => none

/-- The time since the last departure, as `update_timestamp_action` measures it. -/
def elapsedNs (now : BitVec 48) (value : BitVec 32) : BitVec 32 :=
  (updateTimestampAction now value).2

/-- What `cap_elapsed_time` and `compute_reduce_bytes` make of it. -/
def drainBytes (elapsed : BitVec 32) : Nat := 4 * min elapsed.toNat 16383

/-- The four entries of `approximate_effect_table` that the control plane installs. -/
def installedEffect (cls : BitVec 2) (drain : BitVec 16) : Option EffectAction :=
  if cls = 2 then
    some (if drain < dpdqApproxDataBytes then .computeDataNetAdd else .computeDataNetSubtract)
  else if cls = 1 then
    some (if drain < dpdqApproxSignalBytes then .computeSignalNetAdd
      else .computeSignalNetSubtract)
  else none

/-- The entries of the control plane; everything is routed to port 7, port 68 recirculates. -/
def installedTables : Tables where
  dpdqRecircPorts port := port = 68
  ipv4Forward _ := some (.forward 7 0x11 0x22)
  packetClassify msgType unscheduled :=
    if msgType = dpdqGrantReq ∨ msgType = dpdqResend then some .classifySignal
    else if (msgType = dpdqRequest ∨ msgType = dpdqReply) ∧ unscheduled = 1 then
      some .classifyData
    else none
  approximateEffect := installedEffect

/-- The internal header egress makes for a packet that came without one. -/
def departureInternal (T : Tables) (now : BitVec 48) (value : BitVec 32) (d : DpdqHeader) :
    DpdqInternal :=
  let internal := (DpdqInternal.mk (elapsedNs now value) 1 1 0).capElapsedTime.computeReduceBytes
  internal.effect ((T.approximateEffect (d.reserved.extractLsb' 9 2)
    (internal.amount.setWidth 16)).getD .noAction)

/-- The egress registers of one port. -/
structure PortRegs where
  fc : BitVec 8
  tstamp : BitVec 32
  qp : BitVec 32
  deriving DecidableEq

def EgressRegs.port (regs : EgressRegs) (p : PortId) : PortRegs :=
  ⟨regs.portFc p, regs.timestamp p, regs.portQp p⟩

/-- What an internal header does to the registers of its port. -/
def PortRegs.update (depth : BitVec 19) (n : DpdqInternal) (r : PortRegs) : PortRegs :=
  let qp := (if n.subtract = 1 then subtractQpAction n.amount r.qp
    else addQpAction n.amount r.qp).1
  { r with
    qp
    fc := if n.updateFc = 1 then (updateFcStateAction (fcDecision qp depth) r.fc).1 else r.fc }

/-- What a packet other than a GRANT does to the registers of the port it leaves through. -/
def PortRegs.depart (T : Tables) (intr : EgressIntrinsic) (d : DpdqHeader) (r : PortRegs) :
    PortRegs :=
  { r with tstamp := intr.globalTstamp.setWidth 32 }.update intr.deqQdepth
    (departureInternal T intr.globalTstamp r.tstamp d)

/-- What a packet does to the registers of port `p`. -/
def PortRegs.after (T : Tables) (intr : EgressIntrinsic) (r : PortRegs) :
    Option (DpdqHeader × Option DpdqInternal) → PortRegs
  | none => r
  | some (_, some n) => r.update intr.deqQdepth n
  | some (d, none) => if d.msgType = dpdqGrant then r else r.depart T intr d

/-- The internal header of what a packet does to the phantom queue of a port, if it does
anything. -/
def PortRegs.internalOf (T : Tables) (intr : EgressIntrinsic) (r : PortRegs) :
    Option (DpdqHeader × Option DpdqInternal) → Option DpdqInternal
  | none => none
  | some (_, some n) => some n
  | some (d, none) =>
    if d.msgType = dpdqGrant then none else some (departureInternal T intr.globalTstamp r.tstamp d)

section Egress

variable {T : Tables} {intr : EgressIntrinsic} {regs : EgressRegs} {hdr : Headers}
  {d : DpdqHeader} {p : PortId}

/-- The words of the port in the reserved field are updated, those of the others are not. -/
theorem port_updated (n : DpdqInternal) (s : EgressState) (hDpdq : s.hdr.dpdq = some d)
    (hInternal : s.hdr.dpdqInternal = some n) (hPending : s.qpUpdatePending = 1)
    (hMirror : s.mirrorType = 0) :
    (applyUpdate intr s).regs.port p =
      if d.qpPort = p then (s.regs.port p).update intr.deqQdepth n else s.regs.port p := by
  have hUpdate : (applyUpdate intr s).regs =
      if n.updateFc = 1 then (applyFc intr.deqQdepth (applyQp s d n) d).regs
      else (applyQp s d n).regs := by
    simp only [applyUpdate, hDpdq, hInternal, hPending, if_true, clearInternal_regs]
    split
    · exact (applyEcn_portFc _ d).1
    · rfl
  have hFc := (applyFc_eq intr.deqQdepth (s := applyQp s d n) d hMirror).1
  rw [hUpdate, hFc]
  by_cases hPort : d.qpPort = p
  · subst hPort
    rw [if_pos rfl]
    have hAction (action : BitVec 32 → BitVec 32 × BitVec 32) (r : Register 32) :
        (r.execute d.qpPort action).1 d.qpPort = (action (r d.qpPort)).1 :=
      Register.execute_self r d.qpPort action
    have hResult (value : BitVec 32) : (if n.subtract = 1 then subtractQpAction n.amount
        else addQpAction n.amount) value =
        if n.subtract = 1 then subtractQpAction n.amount value else addQpAction n.amount value := by
      split <;> rfl
    have hSame (value : BitVec 32) :
        (if n.subtract = 1 then subtractQpAction n.amount value
          else addQpAction n.amount value).2 =
        (if n.subtract = 1 then subtractQpAction n.amount value
          else addQpAction n.amount value).1 := by
      split <;> rfl
    split
    · rename_i hFcUpdate
      simp only [EgressRegs.port, PortRegs.update, applyQp, fcEvaluation, hAction,
        Register.execute_self, hFcUpdate, if_true, PortRegs.mk.injEq, hResult, true_and]
      simp only [Register.execute, hResult, hSame, and_self]
    · rename_i hFcUpdate
      simp only [EgressRegs.port, PortRegs.update, applyQp, hAction, hResult, hFcUpdate, if_false]
  · have hOther : p ≠ d.qpPort := fun h => hPort h.symm
    rw [if_neg hPort]
    split <;> simp [EgressRegs.port, applyQp, fcEvaluation, Register.execute, hOther]

theorem egressApply_idle (hAmount : applyAmount T intr { hdr, regs } = { hdr, regs }) :
    (egressApply T intr regs hdr).regs = regs := by
  have hKept (s : EgressState) (h : s.qpUpdatePending = 0) : applyUpdate intr s = s := by
    unfold applyUpdate
    split
    · rw [if_neg (by rw [h]; decide)]
    · rfl
  rw [egressApply, hAmount, clearReserved_regs, hKept _ rfl]

theorem egressApply_port {i : Ipv4} (hIpv4 : hdr.ipv4 = some i) (hDpdq : hdr.dpdq = some d) :
    (egressApply T intr regs hdr).regs.port p =
      (regs.port p).after T intr
        (if d.qpPort = p then some (d, hdr.dpdqInternal) else none) := by
  cases hInternal : hdr.dpdqInternal with
  | some n =>
    have hAmount : applyAmount T intr { hdr, regs } = { hdr, regs, qpUpdatePending := 1 } := by
      simp [applyAmount, hIpv4, hDpdq, hInternal]
    rw [egressApply, clearReserved_regs, hAmount,
      port_updated n { hdr, regs, qpUpdatePending := 1 } hDpdq hInternal rfl rfl]
    split <;> rfl
  | none =>
    by_cases hGrant : d.msgType = dpdqGrant
    · rw [egressApply_idle (by simp [applyAmount, hIpv4, hDpdq, hInternal, hGrant])]
      split <;> simp [PortRegs.after, hGrant]
    · let internal := departureInternal T intr.globalTstamp (regs.timestamp d.qpPort) d
      let timestamp := (regs.timestamp.execute d.qpPort
        (updateTimestampAction intr.globalTstamp)).1
      have hAmount : applyAmount T intr { hdr, regs } =
          { hdr := { hdr with dpdqInternal := some internal }, regs := { regs with timestamp },
            qpUpdatePending := 1 } := by
        simp [applyAmount, hIpv4, hDpdq, hInternal, hGrant, departureInternal, elapsedNs,
          Register.execute, internal, timestamp]
      rw [egressApply, clearReserved_regs, hAmount, port_updated _ _ hDpdq rfl rfl rfl]
      by_cases hPort : d.qpPort = p
      · subst hPort
        simp [PortRegs.after, hGrant, PortRegs.depart, EgressRegs.port, updateTimestampAction,
          internal, timestamp]
      · have hOther : p ≠ d.qpPort := fun h => hPort h.symm
        simp [PortRegs.after, hPort, EgressRegs.port, Register.execute, hOther, timestamp]

/-- The registers of a port behind a packet through egress are a function of these registers and
of what the packet is to that port. -/
theorem egressPipe_port (T : Tables) (intr : EgressIntrinsic) (regs : EgressRegs) (pkt : Bits)
    (p : PortId) : (egressPipe T intr regs pkt).regs.port p =
      (regs.port p).after T intr (accountedTo p pkt) := by
  unfold egressPipe accountedTo
  cases egressParser pkt with
  | none => rfl
  | some parsed =>
    obtain ⟨hdr, payload⟩ := parsed
    simp only [Option.bind_some]
    cases hIpv4 : hdr.ipv4 with
    | none =>
      rw [egressApply_idle (by simp [applyAmount, hIpv4])]
      rfl
    | some i =>
      cases hDpdq : hdr.dpdq with
      | none =>
        rw [egressApply_idle (by simp [applyAmount, hIpv4, hDpdq])]
        rfl
      | some d => exact egressApply_port hIpv4 hDpdq

end Egress

/-- A packet other than a GRANT leaves through port `p`. -/
def leavesThrough (p : PortId) (pkt : Bits) : Bool :=
  match accountedTo p pkt with
  | some (d, none) => d.msgType ≠ dpdqGrant
  | _ => false

theorem leavesThrough_eq_true {p : PortId} {pkt : Bits} (h : leavesThrough p pkt = true) :
    ∃ d, accountedTo p pkt = some (d, none) ∧ d.msgType ≠ dpdqGrant := by
  unfold leavesThrough at h
  split at h
  · rename_i d hOut
    exact ⟨d, hOut, of_decide_eq_true h⟩
  · cases h

/-! ## Runs of packets through egress -/

def egressRun (T : Tables) (regs : EgressRegs) (pkts : List (EgressIntrinsic × Bits)) :
    EgressRegs :=
  pkts.foldl (fun regs x => (egressPipe T x.1 regs x.2).regs) regs

@[simp] theorem egressRun_nil (T : Tables) (regs : EgressRegs) : egressRun T regs [] = regs := rfl

@[simp] theorem egressRun_cons (T : Tables) (regs : EgressRegs) (x : EgressIntrinsic × Bits)
    (pkts : List (EgressIntrinsic × Bits)) :
    egressRun T regs (x :: pkts) = egressRun T (egressPipe T x.1 regs x.2).regs pkts := rfl

/-! ## What a departure drains -/

theorem drainBytes_lt (elapsed : BitVec 32) : drainBytes elapsed < 65536 := by
  have := Nat.min_le_right elapsed.toNat 16383
  unfold drainBytes
  omega

theorem toNat_reduced (elapsed : BitVec 32) :
    (DpdqInternal.mk elapsed 1 1 0).capElapsedTime.computeReduceBytes.amount.toNat =
      drainBytes elapsed := by
  have hCap : (bmin dpdqMaxElapsedNs elapsed).toNat = min elapsed.toNat 16383 := by
    have hMax : dpdqMaxElapsedNs.toNat = 16383 := rfl
    unfold bmin
    split
    · rename_i h
      have hNat : dpdqMaxElapsedNs.toNat < elapsed.toNat := h
      omega
    · rename_i h
      have hNat : elapsed.toNat ≤ dpdqMaxElapsedNs.toNat := BitVec.not_lt.mp h
      omega
  simp only [DpdqInternal.computeReduceBytes, DpdqInternal.capElapsedTime, dpdqDrainShift,
    BitVec.toNat_shiftLeft, hCap, drainBytes, Nat.shiftLeft_eq]
  omega

end Dpdq.Tofino
