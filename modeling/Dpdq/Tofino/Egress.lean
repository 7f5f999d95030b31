import Dpdq.Tofino.Ingress

/-!
# The egress control

The egress pipeline of `dpdq.p4`: the phantom queue `Port_Qp_Reg`, the timestamps and the
flow-control state, the hysteresis that decides a transition, and the clone that announces it.

* `egressApply_wrote`: a packet writes one bit of the flow-control register, and a
  notification carrying that bit is cloned exactly when the bit is new.
-/

namespace Dpdq.Tofino

open Lib

/-! ## Constants -/

def dpdqXoffTriggerBytes : BitVec 32 := 162501
def dpdqXonBytes : BitVec 32 := 142500
def dpdqEcnTriggerBytes : BitVec 32 := 81251
def dpdqXoffTriggerCells : BitVec 19 := 2033
def dpdqXonCells : BitVec 19 := 1782
def dpdqEcnTriggerCells : BitVec 19 := 1016
def dpdqMaxElapsedNs : BitVec 32 := 16383
def dpdqApproxDataBytes : BitVec 16 := 1500
def dpdqApproxSignalBytes : BitVec 16 := 64
def dpdqDrainShift : Nat := 2
def dpdqMirrorTypeE2e : BitVec 3 := 2
def dpdqSyncMirrorSession : BitVec 10 := 1

/-! ## State -/

/-- The three register arrays of the egress pipeline. -/
structure EgressRegs where
  portFc : Register 8 := fun _ => 0
  timestamp : Register 32 := fun _ => 0
  portQp : Register 32 := fun _ => 0

/-- The intrinsic metadata the egress control reads: the depth of the port's real queue and the
parser's timestamp. -/
structure EgressIntrinsic where
  deqQdepth : BitVec 19
  globalTstamp : BitVec 48
  deriving DecidableEq, Repr

structure EgressState where
  hdr : Headers
  regs : EgressRegs
  qpBytes : BitVec 32 := 0
  qpXoffMin : BitVec 32 := 0
  qpXonMin : BitVec 32 := 0
  qpEcnMin : BitVec 32 := 0
  physicalXoffMin : BitVec 19 := 0
  physicalXonMin : BitVec 19 := 0
  physicalEcnMin : BitVec 19 := 0
  fcCommand : BitVec 2 := 0
  fcOldState : BitVec 1 := 0
  fcChanged : BitVec 1 := 0
  syncSession : BitVec 10 := 0
  qpUpdatePending : BitVec 1 := 0
  mirrorType : BitVec 3 := 0

/-! ## Register actions -/

def updateTimestampAction (now : BitVec 48) (value : BitVec 32) : BitVec 32 × BitVec 32 :=
  (now.setWidth 32, if value = 0 then 0 else now.setWidth 32 - value)

def addQpAction (amount value : BitVec 32) : BitVec 32 × BitVec 32 :=
  (value + amount, value + amount)

def subtractQpAction (amount value : BitVec 32) : BitVec 32 × BitVec 32 :=
  let value := if value < amount then 0 else value - amount
  (value, value)

def updateFcStateAction (fcCommand : BitVec 2) (value : BitVec 8) : BitVec 8 × BitVec 1 :=
  (if fcCommand = 1 then 1 else if fcCommand = 2 then 0 else value, value.setWidth 1)

/-! ## Actions -/

/-- P4's `min` on unsigned words. -/
def bmin {w : Nat} (a b : BitVec w) : BitVec w := if a < b then a else b

def DpdqInternal.capElapsedTime (h : DpdqInternal) : DpdqInternal :=
  { h with amount := bmin dpdqMaxElapsedNs h.amount }

def DpdqInternal.computeReduceBytes (h : DpdqInternal) : DpdqInternal :=
  { h with amount := h.amount <<< dpdqDrainShift }

/-- The net effect of a packet of `size` bytes on a queue that drained `amount` bytes, when the
packet outweighs the drain. -/
def DpdqInternal.computeNetAdd (size : BitVec 16) (h : DpdqInternal) : DpdqInternal :=
  { h with amount := (size - h.amount.setWidth 16).setWidth 32, subtract := 0 }

def DpdqInternal.computeNetSubtract (size : BitVec 16) (h : DpdqInternal) : DpdqInternal :=
  { h with amount := (h.amount.setWidth 16 - size).setWidth 32, subtract := 1 }

def DpdqInternal.effect (h : DpdqInternal) : EffectAction → DpdqInternal
  | .computeDataNetAdd => h.computeNetAdd dpdqApproxDataBytes
  | .computeDataNetSubtract => h.computeNetSubtract dpdqApproxDataBytes
  | .computeSignalNetAdd => h.computeNetAdd dpdqApproxSignalBytes
  | .computeSignalNetSubtract => h.computeNetSubtract dpdqApproxSignalBytes
  | .noAction => h

/-- `hdr.dpdq.reserved[8:0]`: the port whose registers the packet updates. -/
def DpdqHeader.qpPort (h : DpdqHeader) : PortId := h.reserved.setWidth 9

namespace EgressState

def computeThresholdMins (s : EgressState) (deqQdepth : BitVec 19) : EgressState :=
  { s with
    qpXoffMin := bmin dpdqXoffTriggerBytes s.qpBytes
    qpXonMin := bmin dpdqXonBytes s.qpBytes
    qpEcnMin := bmin dpdqEcnTriggerBytes s.qpBytes
    physicalXoffMin := bmin dpdqXoffTriggerCells deqQdepth
    physicalXonMin := bmin dpdqXonCells deqQdepth
    physicalEcnMin := bmin dpdqEcnTriggerCells deqQdepth }

/-- `prepare_sync_constants`, `prepare_sync_port` and `prepare_sync_state`. -/
def prepareSync (s : EgressState) (d : DpdqHeader) : EgressState :=
  let sync : DpdqSync :=
    ⟨dpdqSyncMagic, d.qpPort.setWidth 16, (s.fcCommand.setWidth 1).setWidth 8, 0⟩
  { s with
    syncSession := dpdqSyncMirrorSession
    mirrorType := dpdqMirrorTypeE2e
    hdr := { s.hdr with dpdqSync := some sync } }

/-- Set NETWORK_MARKED and the two ECN bits. -/
def mark (s : EgressState) : EgressState :=
  { s with hdr := { s.hdr with
      dpdq := s.hdr.dpdq.map fun h => { h with flags := h.flags ||| dpdqFlagNetworkMarked }
      ipv4 := s.hdr.ipv4.map fun h => { h with diffserv := h.diffserv ||| 3 } } }

end EgressState

/-! ## The apply block -/

open EgressState

/-- The first statement: how much this packet changes the phantom queue. -/
def applyAmount (T : Tables) (intr : EgressIntrinsic) (s : EgressState) : EgressState :=
  match s.hdr.ipv4, s.hdr.dpdq, s.hdr.dpdqInternal with
  | some _, some _, some _ => { s with qpUpdatePending := 1 }
  | some _, some d, none =>
    if d.msgType ≠ dpdqGrant then
      let r := s.regs.timestamp.execute d.qpPort (updateTimestampAction intr.globalTstamp)
      let internal := (DpdqInternal.mk r.2 1 1 0).capElapsedTime.computeReduceBytes
      let action := (T.approximateEffect (d.reserved.extractLsb' 9 2)
        (internal.amount.setWidth 16)).getD .noAction
      { s with
        regs := { s.regs with timestamp := r.1 }
        hdr := { s.hdr with dpdqInternal := some (internal.effect action) }
        qpUpdatePending := 1 }
    else s
  | _, _, _ => s

def applyQp (s : EgressState) (d : DpdqHeader) (internal : DpdqInternal) : EgressState :=
  let r := s.regs.portQp.execute d.qpPort
    (if internal.subtract = 1 then subtractQpAction internal.amount
      else addQpAction internal.amount)
  { s with regs := { s.regs with portQp := r.1 }, qpBytes := r.2 }

/-- The command the thresholds ask for: 1 is PAUSE, 2 is NORMAL, 0 keeps the state. -/
def fcCommandOf (s : EgressState) : BitVec 2 :=
  if s.qpXoffMin = dpdqXoffTriggerBytes then 1
  else if s.physicalXoffMin = dpdqXoffTriggerCells then 1
  else if s.qpXonMin ≠ dpdqXonBytes then
    if s.physicalXonMin ≠ dpdqXonCells then 2 else 0
  else 0

/-- Run `update_fc_state_action` on the packet's port. -/
def EgressState.updateFcState (s : EgressState) (d : DpdqHeader) (fcCommand : BitVec 2) :
    EgressState :=
  let r := s.regs.portFc.execute d.qpPort (updateFcStateAction fcCommand)
  { s with fcCommand, regs := { s.regs with portFc := r.1 }, fcOldState := r.2 }

/-- Set `fc_changed` and prepare the clone when the command differs from the old state. -/
def EgressState.cloneOnChange (s : EgressState) (d : DpdqHeader) : EgressState :=
  if (s.fcCommand = 1 ∧ s.fcOldState = 0) ∨ (s.fcCommand = 2 ∧ s.fcOldState = 1) then
    { s with fcChanged := 1 }.prepareSync d
  else s

/-- Evaluate the thresholds, update the state of the port and prepare the clone. -/
def applyFc (deqQdepth : BitVec 19) (s : EgressState) (d : DpdqHeader) : EgressState :=
  let s := s.computeThresholdMins deqQdepth
  (s.updateFcState d (fcCommandOf s)).cloneOnChange d

def applyEcn (s : EgressState) (d : DpdqHeader) : EgressState :=
  if d.msgType = dpdqRequest ∨ d.msgType = dpdqReply then
    if s.qpEcnMin = dpdqEcnTriggerBytes then s.mark
    else if s.physicalEcnMin = dpdqEcnTriggerCells then s.mark
    else s
  else s

/-- `hdr.dpdq_internal.setInvalid()` -/
def EgressState.clearInternal (s : EgressState) : EgressState :=
  { s with hdr := { s.hdr with dpdqInternal := none } }

/-- `if (meta.qp_update_pending == 1) { … }` -/
def applyUpdate (intr : EgressIntrinsic) (s : EgressState) : EgressState :=
  match s.hdr.dpdq, s.hdr.dpdqInternal with
  | some d, some internal =>
    if s.qpUpdatePending = 1 then
      let s := applyQp s d internal
      let s := if internal.updateFc = 1 then applyEcn (applyFc intr.deqQdepth s d) d else s
      s.clearInternal
    else s
  | _, _ => s

def clearReserved (s : EgressState) : EgressState :=
  { s with hdr := { s.hdr with dpdq := s.hdr.dpdq.map fun h => { h with reserved := 0 } } }

/-- The `apply` block of `Egress`. -/
def egressApply (T : Tables) (intr : EgressIntrinsic) (regs : EgressRegs) (hdr : Headers) :
    EgressState :=
  clearReserved <| applyUpdate intr <| applyAmount T intr { hdr, regs }

/-- The notification the egress deparser clones, if any. -/
def EgressState.mirrored (s : EgressState) : Option DpdqSync :=
  if s.mirrorType = dpdqMirrorTypeE2e then s.hdr.dpdqSync else none

section Simp

variable (s : EgressState)

@[simp] theorem clearInternal_regs : s.clearInternal.regs = s.regs := rfl
@[simp] theorem clearInternal_mirrored : s.clearInternal.mirrored = s.mirrored := rfl
@[simp] theorem clearInternal_hdr :
    s.clearInternal.hdr = { s.hdr with dpdqInternal := none } := rfl
@[simp] theorem clearReserved_regs : (clearReserved s).regs = s.regs := rfl
@[simp] theorem clearReserved_mirrored : (clearReserved s).mirrored = s.mirrored := rfl
@[simp] theorem clearReserved_hdr : (clearReserved s).hdr =
    { s.hdr with dpdq := s.hdr.dpdq.map fun h => { h with reserved := 0 } } := rfl

end Simp

/-! ## The hysteresis -/

/-- The command for a phantom queue of `qp` bytes and a real queue of `depth` cells, stated
directly: PAUSE from the XOFF triggers on, NORMAL when both are below XON. -/
def fcDecision (qp : BitVec 32) (depth : BitVec 19) : BitVec 2 :=
  if dpdqXoffTriggerBytes ≤ qp ∨ dpdqXoffTriggerCells ≤ depth then 1
  else if qp < dpdqXonBytes ∧ depth < dpdqXonCells then 2
  else 0

theorem bmin_eq_left_iff {w : Nat} (a b : BitVec w) : bmin a b = a ↔ a ≤ b := by
  unfold bmin
  split
  · rename_i h
    exact ⟨fun _ => BitVec.le_of_lt h, fun _ => rfl⟩
  · rename_i h
    constructor
    · rintro rfl
      exact BitVec.le_refl _
    · intro hle
      exact BitVec.le_antisymm (BitVec.not_lt.mp h) hle

/-- The chain of comparisons with saturated minima computes the hysteresis. -/
theorem fcCommandOf_computeThresholdMins (s : EgressState) (depth : BitVec 19) :
    fcCommandOf (s.computeThresholdMins depth) = fcDecision s.qpBytes depth := by
  simp only [fcCommandOf, computeThresholdMins, fcDecision, ne_eq, bmin_eq_left_iff,
    BitVec.not_le]
  split
  · simp [*]
  · split
    · simp [*]
    · split
      · split <;> simp [*]
      · simp [*]

/-! ## Flow-control transitions -/

/-- The notification that port `p` is now paused, or normal again. -/
def syncOf (p : PortId) (paused : Bool) : DpdqSync :=
  ⟨dpdqSyncMagic, p.setWidth 16, fcWord paused, 0⟩

/-- The flow-control evaluation of one port: the new register, and the clone if its bit changed. -/
def fcEvaluation (depth : BitVec 19) (qp : BitVec 32) (p : PortId) (portFc : Register 8) :
    Register 8 × Option DpdqSync :=
  let command := fcDecision qp depth
  let r := portFc.execute p (updateFcStateAction command)
  (r.1, if (command = 1 ∧ r.2 = 0) ∨ (command = 2 ∧ r.2 = 1) then
    some (syncOf p (command = 1)) else none)

theorem fcDecision_cases (qp : BitVec 32) (depth : BitVec 19) :
    fcDecision qp depth = 1 ∨ fcDecision qp depth = 2 ∨ fcDecision qp depth = 0 := by
  unfold fcDecision
  split
  · exact .inl rfl
  · split
    · exact .inr (.inl rfl)
    · exact .inr (.inr rfl)

/-- Over a register whose bits are `bits`, the evaluation of port `p` writes one bit of it, and
clones this bit exactly when it is new. -/
theorem fcEvaluation_wrote {bits : PortId → Bool} {portFc : Register 8} (depth : BitVec 19)
    (qp : BitVec 32) (p : PortId) (hReg : ∀ q, portFc q = fcWord (bits q)) :
    ∃ b, (∀ q, (fcEvaluation depth qp p portFc).1 q = fcWord (if q = p then b else bits q)) ∧
      (fcEvaluation depth qp p portFc).2 = if bits p = b then none else some (syncOf p b) := by
  simp only [fcEvaluation, Register.execute, updateFcStateAction, hReg]
  rcases fcDecision_cases qp depth with h | h | h
  · refine ⟨true, fun q => ?_, ?_⟩
    · by_cases hq : q = p <;> simp [h, hq, fcWord]
    · cases hb : bits p <;> simp [h, fcWord]
  · refine ⟨false, fun q => ?_, ?_⟩
    · by_cases hq : q = p <;> simp [h, hq, fcWord]
    · cases hb : bits p <;> simp [h, fcWord]
  · refine ⟨bits p, fun q => ?_, by simp [h]⟩
    by_cases hq : q = p <;> simp [h, hq]

/-- The registers and the clone of a state in which the packet set port `p` to `b`, over a
register whose bits were `bits`. -/
def Wrote (bits : PortId → Bool) (p : PortId) (b : Bool) (s : EgressState) : Prop :=
  (∀ q, s.regs.portFc q = fcWord (if q = p then b else bits q)) ∧
    s.mirrored = if bits p = b then none else some (syncOf p b)

theorem wrote_same {bits : PortId → Bool} {s : EgressState} (p : PortId)
    (hReg : ∀ q, s.regs.portFc q = fcWord (bits q)) (hNone : s.mirrored = none) :
    Wrote bits p (bits p) s := by
  refine ⟨fun q => ?_, by simp [hNone]⟩
  rw [hReg q]
  split
  · subst q
    rfl
  · rfl

@[simp] theorem computeThresholdMins_regs (s : EgressState) (depth : BitVec 19) :
    (s.computeThresholdMins depth).regs = s.regs := rfl

/-- What `applyFc` does, in terms of the evaluation. -/
theorem applyFc_eq (depth : BitVec 19) {s : EgressState} (d : DpdqHeader)
    (hMirror : s.mirrorType = 0) :
    (applyFc depth s d).regs =
        { s.regs with portFc := (fcEvaluation depth s.qpBytes d.qpPort s.regs.portFc).1 } ∧
      (applyFc depth s d).mirrored = (fcEvaluation depth s.qpBytes d.qpPort s.regs.portFc).2 ∧
      ∃ sync, (applyFc depth s d).hdr = { s.hdr with dpdqSync := sync } := by
  have hCommand := fcCommandOf_computeThresholdMins s depth
  have hOneOfTwo : ∀ c : BitVec 2, c = 1 ∨ c = 2 → (c.setWidth 1).setWidth 8 = fcWord (c = 1) := by
    rintro c (rfl | rfl) <;> rfl
  simp only [applyFc, cloneOnChange, updateFcState, hCommand, fcEvaluation,
    computeThresholdMins_regs]
  split
  · rename_i hChange
    refine ⟨rfl, ?_, _, rfl⟩
    have hKind : fcDecision s.qpBytes depth = 1 ∨ fcDecision s.qpBytes depth = 2 := by
      rcases hChange with ⟨h, -⟩ | ⟨h, -⟩
      · exact .inl h
      · exact .inr h
    rw [syncOf, ← hOneOfTwo _ hKind]
    rfl
  · refine ⟨rfl, ?_, _, rfl⟩
    simp [EgressState.mirrored, computeThresholdMins, hMirror, dpdqMirrorTypeE2e]

theorem applyFc_wrote {bits : PortId → Bool} {s : EgressState} (depth : BitVec 19)
    (d : DpdqHeader) (hReg : ∀ q, s.regs.portFc q = fcWord (bits q)) (hMirror : s.mirrorType = 0) :
    ∃ b, Wrote bits d.qpPort b (applyFc depth s d) := by
  obtain ⟨hRegs, hMirrored, -⟩ := applyFc_eq depth d hMirror
  obtain ⟨b, hWord, hClone⟩ := fcEvaluation_wrote depth s.qpBytes d.qpPort hReg
  refine ⟨b, fun q => ?_, ?_⟩
  · rw [hRegs]
    exact hWord q
  · rw [hMirrored]
    exact hClone

/-- The later statements of the `apply` block keep the register and the clone. -/
theorem Wrote.congr {bits : PortId → Bool} {p : PortId} {b : Bool} {s t : EgressState}
    (h : Wrote bits p b s) (hReg : t.regs.portFc = s.regs.portFc)
    (hMirrored : t.mirrored = s.mirrored) : Wrote bits p b t := by
  refine ⟨fun q => ?_, ?_⟩
  · rw [hReg]
    exact h.1 q
  · rw [hMirrored]
    exact h.2

theorem applyEcn_portFc (s : EgressState) (d : DpdqHeader) :
    (applyEcn s d).regs = s.regs ∧ (applyEcn s d).mirrored = s.mirrored := by
  unfold applyEcn
  split
  · split
    · exact ⟨rfl, rfl⟩
    · split <;> exact ⟨rfl, rfl⟩
  · exact ⟨rfl, rfl⟩

theorem applyAmount_portFc (T : Tables) (intr : EgressIntrinsic) (s : EgressState) :
    (applyAmount T intr s).regs.portFc = s.regs.portFc ∧
      (applyAmount T intr s).mirrorType = s.mirrorType := by
  unfold applyAmount
  split
  · exact ⟨rfl, rfl⟩
  · split <;> exact ⟨rfl, rfl⟩
  · exact ⟨rfl, rfl⟩

theorem applyUpdate_wrote {bits : PortId → Bool} {s : EgressState} (intr : EgressIntrinsic)
    (hReg : ∀ q, s.regs.portFc q = fcWord (bits q)) (hMirror : s.mirrorType = 0) :
    ∃ p b, Wrote bits p b (applyUpdate intr s) := by
  have hNone : s.mirrored = none := by simp [EgressState.mirrored, hMirror, dpdqMirrorTypeE2e]
  have hIdle : ∃ p b, Wrote bits p b s := ⟨0, bits 0, wrote_same 0 hReg hNone⟩
  unfold applyUpdate
  split
  · rename_i d internal _ _
    split
    · dsimp only
      split
      · obtain ⟨b, hWrote⟩ := applyFc_wrote (s := applyQp s d internal) intr.deqQdepth d hReg hMirror
        have hEcn := applyEcn_portFc (applyFc intr.deqQdepth (applyQp s d internal) d) d
        exact ⟨d.qpPort, b, hWrote.congr (congrArg EgressRegs.portFc hEcn.1) hEcn.2⟩
      · exact ⟨0, bits 0, wrote_same 0 hReg hNone⟩
    · exact hIdle
  · exact hIdle

/-- A packet through egress writes one bit of the flow-control register, perhaps the one it
already holds, and clones a notification with this bit exactly when it is new. -/
theorem egressApply_wrote {bits : PortId → Bool} {regs : EgressRegs} (T : Tables)
    (intr : EgressIntrinsic) (hdr : Headers) (hReg : ∀ q, regs.portFc q = fcWord (bits q)) :
    ∃ p b, Wrote bits p b (egressApply T intr regs hdr) := by
  have hAmount := applyAmount_portFc T intr { hdr, regs }
  obtain ⟨p, b, hWrote⟩ := applyUpdate_wrote (s := applyAmount T intr { hdr, regs }) intr
    (by rw [hAmount.1]; exact hReg) hAmount.2
  exact ⟨p, b, hWrote.congr rfl rfl⟩

end Dpdq.Tofino
