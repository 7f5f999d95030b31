import Dpdq.Lib.SaturatingCounter
import Dpdq.Tofino.EgressPort
import Mathlib.Algebra.Order.Group.Nat
import Mathlib.Data.BitVec

/-!
# The phantom queue

A packet that leaves through a port makes one net update of the phantom queue of that port: it adds
its size and takes off what has drained since the departure before it. Credit that is accepted adds
to the queue, credit that is revoked takes off it.

* `phantom_queue_net_update`: the update of a departure, with its bounds.
* `drained_eq_iff`: when the drain of a departure is that of the true elapsed time.
* `accepted_then_revoked_le`: credit that is accepted and then revoked leaves at most what would
  have been there without it. The phantom queue is a saturating counter as long as it does not wrap.
-/

namespace Dpdq.Tofino

open Lib
open Lib.SaturatingCounter (Update Fits)

/-! ## The net update of a departure -/

/-- The size that a packet is accounted with, by the class that ingress gave it. -/
def DpdqHeader.classSize (d : DpdqHeader) : Nat :=
  if d.reserved.extractLsb' 9 2 = 2 then 1500
  else if d.reserved.extractLsb' 9 2 = 1 then 64
  else 0

/-- The queue `after` a packet of `size` bytes, when `drain` bytes have drained from `qp`. -/
structure NetUpdate (qp size drain after : Nat) : Prop where
  fits : drain < 2 ^ 16
  eq_mod : after = (qp + size - drain) % 2 ^ 32
  eq : qp + size < 2 ^ 32 → after = qp + size - drain
  le : after ≤ qp - drain + size
  eq_iff : qp + size < 2 ^ 32 → (after = qp - drain + size ↔ drain ≤ qp ∨ size = 0)

theorem NetUpdate.of_eq_mod {qp size drain after : Nat} (hFits : drain < 2 ^ 16)
    (hAfter : after = (qp + size - drain) % 2 ^ 32) : NetUpdate qp size drain after := by
  have hLe : (qp + size - drain) % 2 ^ 32 ≤ qp + size - drain := Nat.mod_le _ _
  have hSmall (h : qp + size < 2 ^ 32) : after = qp + size - drain := by
    rw [hAfter]
    apply Nat.mod_eq_of_lt
    omega
  refine ⟨hFits, hAfter, hSmall, by omega, fun h => ?_⟩
  rw [hSmall h]
  omega

/-- The time on the 32-bit clock since the word `stamp` was written. Zero is no time. -/
def elapsedSince (stamp : BitVec 32) (now : BitVec 48) : Nat :=
  if stamp = 0 then 0 else (now.toNat + 2 ^ 32 - stamp.toNat) % 2 ^ 32

theorem elapsedNs_toNat (now : BitVec 48) (stamp : BitVec 32) :
    (elapsedNs now stamp).toNat = elapsedSince stamp now := by
  have hStamp := stamp.isLt
  simp only [elapsedNs, updateTimestampAction, elapsedSince]
  split
  · rfl
  · rw [BitVec.toNat_sub, BitVec.toNat_setWidth]
    omega

/-! ## The queue as a counter -/

/-- What an internal header does to the phantom queue. -/
def DpdqInternal.counterUpdate (n : DpdqInternal) : Update Nat :=
  if n.subtract = 1 then .lower n.amount.toNat else .raise n.amount.toNat

theorem PortRegs.update_qp (depth : BitVec 19) (n : DpdqInternal) (r : PortRegs) :
    (r.update depth n).qp.toNat = n.counterUpdate.apply r.qp.toNat % 2 ^ 32 := by
  simp only [PortRegs.update, DpdqInternal.counterUpdate]
  split
  · rw [subtractQpAction_eq, BitVec.toNat_ofNat]
    rfl
  · exact BitVec.toNat_add _ _

/-- The net of a size and a drain, in the words of the two actions. -/
theorem counterUpdate_net {internal : DpdqInternal} (word : BitVec 16)
    (hAmount : internal.amount.toNat < 2 ^ 16) (q : Nat) :
    (if internal.amount.setWidth 16 < word then internal.computeNetAdd word
      else internal.computeNetSubtract word).counterUpdate.apply q =
      q + word.toNat - internal.amount.toNat := by
  have hWidth : (internal.amount.setWidth 16).toNat = internal.amount.toNat := by
    rw [BitVec.toNat_setWidth, Nat.mod_eq_of_lt hAmount]
  have hWord := word.isLt
  split
  · rename_i hLess
    have hNat : (word - internal.amount.setWidth 16).toNat =
        word.toNat - internal.amount.toNat := by
      rw [BitVec.toNat_sub_of_le (BitVec.le_of_lt hLess), hWidth]
    have hLess : internal.amount.toNat < word.toNat := hWidth ▸ hLess
    show q + ((word - internal.amount.setWidth 16).setWidth 32).toNat = _
    rw [BitVec.toNat_setWidth, hNat]
    omega
  · rename_i hNot
    have hNat : (internal.amount.setWidth 16 - word).toNat =
        internal.amount.toNat - word.toNat := by
      rw [BitVec.toNat_sub_of_le (BitVec.not_lt.mp hNot), hWidth]
    have hLe : word.toNat ≤ internal.amount.toNat := hWidth ▸ BitVec.not_lt.mp hNot
    show q - ((internal.amount.setWidth 16 - word).setWidth 32).toNat = _
    rw [BitVec.toNat_setWidth, hNat]
    omega

/-- A departure adds the size of the packet and takes off the drain. -/
theorem counterUpdate_departure {T : Tables} (hEffect : T.approximateEffect = installedEffect)
    (now : BitVec 48) (stamp : BitVec 32) (d : DpdqHeader) (q : Nat) :
    (departureInternal T now stamp d).counterUpdate.apply q =
      q + d.classSize - drainBytes (elapsedNs now stamp) := by
  have hAmount := toNat_reduced (elapsedNs now stamp)
  have hFits := drainBytes_lt (elapsedNs now stamp)
  unfold departureInternal
  rw [hEffect]
  generalize hInternal :
    (DpdqInternal.mk (elapsedNs now stamp) 1 1 0).capElapsedTime.computeReduceBytes = internal
    at hAmount
  have hSub : internal.subtract = 1 := by rw [← hInternal]; rfl
  rw [← hAmount] at hFits ⊢
  unfold installedEffect DpdqHeader.classSize
  dsimp only
  split
  · have hNet := counterUpdate_net dpdqApproxDataBytes hFits q
    split
    · rename_i hLess
      rwa [if_pos hLess] at hNet
    · rename_i hNot
      rwa [if_neg hNot] at hNet
  · split
    · have hNet := counterUpdate_net dpdqApproxSignalBytes hFits q
      split
      · rename_i hLess
        rwa [if_pos hLess] at hNet
      · rename_i hNot
        rwa [if_neg hNot] at hNet
    · show internal.counterUpdate.apply q = _
      rw [DpdqInternal.counterUpdate, if_pos hSub]
      rfl

/-- A packet other than a GRANT makes one net update of the phantom queue of the port that it leaves
through. -/
theorem phantom_queue_net_update {T : Tables} (hEffect : T.approximateEffect = installedEffect)
    (intr : EgressIntrinsic) (regs : EgressRegs) {pkt : Bits} {p : PortId} {d : DpdqHeader}
    (hOut : accountedTo p pkt = some (d, none)) (hType : d.msgType ≠ dpdqGrant) :
    NetUpdate (regs.portQp p).toNat d.classSize
      (4 * min (elapsedSince (regs.timestamp p) intr.globalTstamp) 16383)
      ((egressPipe T intr regs pkt).regs.portQp p).toNat := by
  have hPort := congrArg PortRegs.qp (egressPipe_port T intr regs pkt p)
  simp only [hOut, PortRegs.after, if_neg hType, PortRegs.depart] at hPort
  have hQp : ((egressPipe T intr regs pkt).regs.portQp p).toNat = _ := congrArg BitVec.toNat hPort
  rw [PortRegs.update_qp, counterUpdate_departure hEffect] at hQp
  have hDrain : drainBytes (elapsedNs intr.globalTstamp (regs.timestamp p)) =
      4 * min (elapsedSince (regs.timestamp p) intr.globalTstamp) 16383 := by
    rw [drainBytes, elapsedNs_toNat]
  have hFits := drainBytes_lt (elapsedNs intr.globalTstamp (regs.timestamp p))
  rw [← hDrain]
  exact .of_eq_mod hFits hQp

/-- A REPLY on its way through egress, with what ingress has put into its reserved field. -/
def departingReply (reserved : BitVec 16) : Bits :=
  emitLayers (dpdqStack sampleGrant.ethernet sampleGrant.ipv4 sampleGrant.udp
    ⟨dpdqReply, 0, reserved, 0⟩ none)

theorem phantom_queue_net_update_data :
    NetUpdate 5000 1500 400 ((egressPipe installedTables ⟨0, 1100⟩
      { timestamp := fun _ => 1000, portQp := fun _ => 5000 } (departingReply 0x0407)).regs.portQp
        7).toNat := by
  have hOut : accountedTo 7 (departingReply 0x0407) =
      some (⟨dpdqReply, 0, 0x0407, 0⟩, none) := by decide +kernel
  have hEffect : installedTables.approximateEffect = installedEffect := rfl
  exact phantom_queue_net_update hEffect ⟨0, 1100⟩
    { timestamp := fun _ => 1000, portQp := fun _ => 5000 } hOut (by decide)

/-- The departure behind one at 2 ^ 32 ns finds a word that is zero. -/
theorem zero_stamp_drains_nothing :
    let before := egressRun installedTables { portQp := fun _ => 5000 }
      [(⟨0, 2 ^ 32⟩, departingReply 7)]
    let after := egressRun installedTables before [(⟨0, 2 ^ 32 + 1000⟩, departingReply 7)]
    (before.portQp 7).toNat = 5000 ∧ (after.portQp 7).toNat = 5000 ∧
      ¬ NetUpdate (before.portQp 7).toNat 0
        (4 * min ((2 ^ 32 + 1000 - 2 ^ 32) % 2 ^ 32) 16383) (after.portQp 7).toNat := by
  intro before after
  have hBefore : (before.portQp 7).toNat = 5000 := by decide +kernel
  have hAfter : (after.portQp 7).toNat = 5000 := by decide +kernel
  refine ⟨hBefore, hAfter, fun hNet => ?_⟩
  have hEq := hNet.eq (by rw [hBefore]; decide)
  rw [hBefore, hAfter] at hEq
  exact absurd hEq (by decide)

/-! ## The drain and the clock -/

/-- What a packet drains from the phantom queue of port `p`: the amount behind
`reduce_bytes_table`. -/
def drainOf (regs : EgressRegs) (p : PortId) (intr : EgressIntrinsic) : Nat :=
  (DpdqInternal.mk (elapsedNs intr.globalTstamp (regs.timestamp p)) 1 1
    0).capElapsedTime.computeReduceBytes.amount.toNat

/-- A packet that does not leave through the port leaves its timestamp word alone. -/
theorem egressPipe_timestamp {T : Tables} {regs : EgressRegs} {p : PortId}
    {x : EgressIntrinsic × Bits} (hOther : leavesThrough p x.2 = false) :
    (egressPipe T x.1 regs x.2).regs.timestamp p = regs.timestamp p := by
  have hPort := congrArg PortRegs.tstamp (egressPipe_port T x.1 regs x.2 p)
  change (egressPipe T x.1 regs x.2).regs.timestamp p = _ at hPort
  rw [hPort]
  unfold leavesThrough at hOther
  split at hOther
  · rename_i d hOut
    have hGrant : d.msgType = dpdqGrant := by
      by_contra hType
      simp [hType] at hOther
    rw [hOut, PortRegs.after, if_pos hGrant]
    rfl
  · rename_i hNone
    cases hOut : accountedTo p x.2 with
    | none => rfl
    | some out =>
      obtain ⟨d, internal⟩ := out
      cases internal with
      | none => exact absurd hOut (hNone d)
      | some n => rfl

theorem egressRun_timestamp {T : Tables} {regs : EgressRegs} {p : PortId}
    {pkts : List (EgressIntrinsic × Bits)} (hOthers : ∀ x ∈ pkts, leavesThrough p x.2 = false) :
    (egressRun T regs pkts).timestamp p = regs.timestamp p := by
  induction pkts generalizing regs with
  | nil => rfl
  | cons x pkts ih =>
    rw [egressRun_cons, ih fun y hy => hOthers y (List.mem_cons_of_mem x hy),
      egressPipe_timestamp (hOthers x List.mem_cons_self)]

/-- A departure writes its time. -/
theorem egressPipe_stamped {T : Tables} {regs : EgressRegs} {p : PortId}
    {x : EgressIntrinsic × Bits} (hOut : leavesThrough p x.2 = true) :
    (egressPipe T x.1 regs x.2).regs.timestamp p = x.1.globalTstamp.setWidth 32 := by
  obtain ⟨d, hAccounted, hType⟩ := leavesThrough_eq_true hOut
  have hPort := congrArg PortRegs.tstamp (egressPipe_port T x.1 regs x.2 p)
  change (egressPipe T x.1 regs x.2).regs.timestamp p = _ at hPort
  rw [hPort, hAccounted, PortRegs.after, if_neg hType]
  rfl

/-- Between two departures through a port, at `t₁` and `t₂` ns, the phantom queue drains by the
elapsed time, up to the cap, unless the first of them was at a multiple of 2 ^ 32 or the port was idle
for 2 ^ 32 ns and a rest below the cap. -/
theorem drained_eq_iff (T : Tables) (regs : EgressRegs) (p : PortId) (t₁ t₂ : Nat) (hTime : t₁ < t₂)
    (fst snd : EgressIntrinsic × Bits) (between : List (EgressIntrinsic × Bits))
    (hFst : leavesThrough p fst.2 = true ∧ fst.1.globalTstamp = BitVec.ofNat 48 t₁)
    (hSnd : leavesThrough p snd.2 = true ∧ snd.1.globalTstamp = BitVec.ofNat 48 t₂)
    (hBetween : ∀ x ∈ between, leavesThrough p x.2 = false) :
    drainOf (egressRun T regs (fst :: between)) p snd.1 = 4 * min (t₂ - t₁) 16383 ↔
      t₁ % 2 ^ 32 ≠ 0 ∧ (t₂ - t₁ < 2 ^ 32 ∨ 16383 ≤ (t₂ - t₁) % 2 ^ 32) := by
  have hStamp : (egressRun T regs (fst :: between)).timestamp p = BitVec.ofNat 32 t₁ := by
    rw [egressRun_cons, egressRun_timestamp hBetween, egressPipe_stamped hFst.1, hFst.2]
    apply BitVec.eq_of_toNat_eq
    simp only [BitVec.toNat_setWidth, BitVec.toNat_ofNat]
    omega
  have hWord : (BitVec.ofNat 32 t₁).toNat = t₁ % 2 ^ 32 := BitVec.toNat_ofNat _ _
  have hZero : BitVec.ofNat 32 t₁ = 0 ↔ t₁ % 2 ^ 32 = 0 := by
    rw [← BitVec.toNat_inj, hWord]
    rfl
  rw [drainOf, hStamp, toNat_reduced, drainBytes, elapsedNs_toNat, elapsedSince, hSnd.2, hWord,
    BitVec.toNat_ofNat]
  split
  · rename_i hStart
    have hStart := hZero.mp hStart
    omega
  · rename_i hStart
    have hStart : t₁ % 2 ^ 32 ≠ 0 := fun h => hStart (hZero.mpr h)
    have hElapsed : (t₂ % 2 ^ 48 + 2 ^ 32 - t₁ % 2 ^ 32) % 2 ^ 32 = (t₂ - t₁) % 2 ^ 32 := by omega
    rw [hElapsed]
    omega

theorem drained_eq_iff_adjacent :
    drainOf (egressRun installedTables {} [(⟨0, 1000⟩, departingReply 7)]) 7 ⟨0, 3000⟩ = 8000 := by
  have hOut : leavesThrough 7 (departingReply 7) = true := by decide +kernel
  exact (drained_eq_iff installedTables {} 7 1000 3000 (by decide) (⟨0, 1000⟩, departingReply 7)
    (⟨0, 3000⟩, departingReply 7) [] ⟨hOut, rfl⟩ ⟨hOut, rfl⟩ nofun).mpr (by decide)

/-- A port that is idle for a little more than 2 ^ 32 ns drains as if it had been idle for the
rest. -/
theorem idle_port_keeps_queue :
    leavesThrough 7 (departingReply 7) = true ∧
      drainOf (egressRun installedTables {} [(⟨0, 1⟩, departingReply 7)]) 7
        ⟨0, 2 ^ 32 + 101⟩ = 400 ∧
      400 ≠ 4 * min (2 ^ 32 + 101 - 1) 16383 := by
  refine ⟨?_, ?_, ?_⟩
  · decide +kernel
  · decide +kernel
  · decide

/-! ## Credit that is accepted and revoked -/

/-- The updates of the phantom queue of port `p` in a run, with what the departures drain. -/
def queueUpdates (T : Tables) (p : PortId) : PortRegs → List (EgressIntrinsic × Bits) →
    List (Update Nat)
  | _, [] => []
  | r, x :: pkts =>
    (r.internalOf T x.1 (accountedTo p x.2)).toList.map DpdqInternal.counterUpdate ++
      queueUpdates T p (r.after T x.1 (accountedTo p x.2)) pkts

/-- No packet of the run adds so much to the phantom queue of port `p` that it reaches 2 ^ 32. -/
def AddsFit (T : Tables) (p : PortId) : EgressRegs → List (EgressIntrinsic × Bits) → Prop
  | _, [] => True
  | regs, x :: pkts =>
    (∀ n ∈ (regs.port p).internalOf T x.1 (accountedTo p x.2), n.subtract ≠ 1 →
      (regs.portQp p).toNat + n.amount.toNat < 2 ^ 32) ∧
    AddsFit T p (egressPipe T x.1 regs x.2).regs pkts

instance decidableAddsFit (T : Tables) (p : PortId) :
    ∀ regs pkts, Decidable (AddsFit T p regs pkts)
  | _, [] => isTrue trivial
  | regs, x :: pkts =>
    have := decidableAddsFit T p (egressPipe T x.1 regs x.2).regs pkts
    inferInstanceAs (Decidable (_ ∧ _))

section Pairs

variable {T : Tables} {p : PortId}

theorem PortRegs.after_tstamp {r r' : PortRegs} (intr : EgressIntrinsic)
    (h : r'.tstamp = r.tstamp) (out : Option (DpdqHeader × Option DpdqInternal)) :
    (r'.after T intr out).tstamp = (r.after T intr out).tstamp := by
  cases out with
  | none => exact h
  | some out =>
    obtain ⟨d, internal⟩ := out
    cases internal with
    | some n => exact h
    | none =>
      unfold PortRegs.after
      dsimp only
      split
      · exact h
      · rfl

/-- The updates depend on the timestamp word alone. -/
theorem queueUpdates_congr {r r' : PortRegs} (h : r'.tstamp = r.tstamp)
    (pkts : List (EgressIntrinsic × Bits)) :
    queueUpdates T p r' pkts = queueUpdates T p r pkts := by
  induction pkts generalizing r r' with
  | nil => rfl
  | cons x pkts ih =>
    rw [queueUpdates, queueUpdates, ih (PortRegs.after_tstamp x.1 h _)]
    congr 2
    unfold PortRegs.internalOf
    split
    · rfl
    · rfl
    · rw [h]

theorem PortRegs.after_qp_none {r : PortRegs} {intr : EgressIntrinsic}
    {out : Option (DpdqHeader × Option DpdqInternal)} (h : r.internalOf T intr out = none) :
    (r.after T intr out).qp = r.qp := by
  unfold PortRegs.internalOf at h
  unfold PortRegs.after
  split at h
  · rfl
  · cases h
  · split at h
    · rename_i hGrant
      simp only [if_pos hGrant]
    · cases h

theorem PortRegs.after_qp_some {r : PortRegs} {intr : EgressIntrinsic}
    {out : Option (DpdqHeader × Option DpdqInternal)} {n : DpdqInternal}
    (h : r.internalOf T intr out = some n) :
    (r.after T intr out).qp.toNat = n.counterUpdate.apply r.qp.toNat % 2 ^ 32 := by
  unfold PortRegs.internalOf at h
  unfold PortRegs.after
  split at h
  · cases h
  · cases h
    exact PortRegs.update_qp _ n r
  · split at h
    · cases h
    · rename_i hType
      cases h
      simp only [if_neg hType]
      exact PortRegs.update_qp _ _ _

theorem fits_counterUpdate {n : DpdqInternal} {q : Nat} :
    n.counterUpdate.Fits (2 ^ 32) q ↔ (n.subtract ≠ 1 → q + n.amount.toNat < 2 ^ 32) := by
  unfold DpdqInternal.counterUpdate
  split
  · rename_i hSub
    exact iff_of_true trivial fun hAdd => absurd hSub hAdd
  · rename_i hAdd
    exact ⟨fun hFits _ => hFits, fun hFits => hFits hAdd⟩

/-- An update that fits does not wrap. -/
theorem counterUpdate_apply_mod {n : DpdqInternal} {q : Nat} (hq : q < 2 ^ 32)
    (hFits : n.counterUpdate.Fits (2 ^ 32) q) :
    n.counterUpdate.apply q % 2 ^ 32 = n.counterUpdate.apply q := by
  apply Nat.mod_eq_of_lt
  rw [fits_counterUpdate] at hFits
  unfold DpdqInternal.counterUpdate
  split
  · show q - n.amount.toNat < 2 ^ 32
    omega
  · rename_i hAdd
    exact hFits hAdd

/-- One packet is no update of the queue, or one. -/
theorem queueUpdates_cons (regs : EgressRegs) (x : EgressIntrinsic × Bits)
    (pkts : List (EgressIntrinsic × Bits)) :
    let regs' := (egressPipe T x.1 regs x.2).regs
    ((regs.port p).internalOf T x.1 (accountedTo p x.2) = none ∧
      queueUpdates T p (regs.port p) (x :: pkts) = queueUpdates T p (regs'.port p) pkts ∧
      (regs'.portQp p).toNat = (regs.portQp p).toNat) ∨
    ∃ n, (regs.port p).internalOf T x.1 (accountedTo p x.2) = some n ∧
      queueUpdates T p (regs.port p) (x :: pkts) =
        n.counterUpdate :: queueUpdates T p (regs'.port p) pkts ∧
      (n.counterUpdate.Fits (2 ^ 32) (regs.portQp p).toNat →
        (regs'.portQp p).toNat = n.counterUpdate.apply (regs.portQp p).toNat) := by
  intro regs'
  have hPort : regs'.port p = (regs.port p).after T x.1 (accountedTo p x.2) :=
    egressPipe_port T x.1 regs x.2 p
  have hQp : regs'.portQp p = ((regs.port p).after T x.1 (accountedTo p x.2)).qp :=
    congrArg PortRegs.qp hPort
  rw [queueUpdates, hPort, hQp]
  cases hInternal : (regs.port p).internalOf T x.1 (accountedTo p x.2) with
  | none => exact .inl ⟨rfl, rfl, congrArg BitVec.toNat (PortRegs.after_qp_none hInternal)⟩
  | some n =>
    refine .inr ⟨n, rfl, rfl, fun hFits => ?_⟩
    rw [PortRegs.after_qp_some hInternal]
    exact counterUpdate_apply_mod (regs.port p).qp.isLt hFits

theorem addsFit_iff {regs : EgressRegs} {pkts : List (EgressIntrinsic × Bits)} :
    AddsFit T p regs pkts ↔
      Fits (2 ^ 32) (queueUpdates T p (regs.port p) pkts) (regs.portQp p).toNat := by
  induction pkts generalizing regs with
  | nil => exact Iff.rfl
  | cons x pkts ih =>
    rw [AddsFit, ih]
    rcases queueUpdates_cons (T := T) (p := p) regs x pkts with
      ⟨hNone, hUpdates, hQp⟩ | ⟨n, hSome, hUpdates, hQp⟩
    · rw [hUpdates, hQp, hNone]
      exact and_iff_right nofun
    · rw [hUpdates, hSome, Fits]
      constructor
      · rintro ⟨hFit, hRest⟩
        have hFit := fits_counterUpdate.mpr (hFit n rfl)
        rw [hQp hFit] at hRest
        exact ⟨hFit, hRest⟩
      · rintro ⟨hFit, hRest⟩
        rw [← hQp hFit] at hRest
        refine ⟨fun m hm => ?_, hRest⟩
        cases hm
        exact fits_counterUpdate.mp hFit

/-- As long as it does not wrap, the phantom queue is a counter with these updates. -/
theorem egressRun_portQp {regs : EgressRegs} {pkts : List (EgressIntrinsic × Bits)}
    (hFits : Fits (2 ^ 32) (queueUpdates T p (regs.port p) pkts) (regs.portQp p).toNat) :
    ((egressRun T regs pkts).portQp p).toNat =
      SaturatingCounter.run (queueUpdates T p (regs.port p) pkts) (regs.portQp p).toNat := by
  induction pkts generalizing regs with
  | nil => rfl
  | cons x pkts ih =>
    rw [egressRun_cons]
    rcases queueUpdates_cons (T := T) (p := p) regs x pkts with
      ⟨-, hUpdates, hQp⟩ | ⟨n, -, hUpdates, hQp⟩
    · rw [hUpdates] at hFits ⊢
      rw [← hQp] at hFits ⊢
      exact ih hFits
    · rw [hUpdates] at hFits ⊢
      have hRest := hFits.2
      rw [← hQp hFits.1] at hRest
      rw [ih hRest, hQp hFits.1, SaturatingCounter.run_cons]

end Pairs

/-- Credit that is accepted before a run of packets and revoked behind it leaves at most as much in
the phantom queue as the run alone, as long as no addition wraps. -/
theorem accepted_then_revoked_le (T : Tables) (p : PortId) (regs : EgressRegs) (credit : BitVec 32)
    (accept revoke : EgressIntrinsic × Bits) (between : List (EgressIntrinsic × Bits))
    {d d' : DpdqHeader} (hAccept : accountedTo p accept.2 = some (d, some ⟨credit, 0, 0, 0⟩))
    (hRevoke : accountedTo p revoke.2 = some (d', some ⟨credit, 1, 1, 0⟩))
    (hFits : AddsFit T p regs (accept :: between ++ [revoke])) :
    (egressRun T regs (accept :: between ++ [revoke])).portQp p ≤
      (egressRun T regs between).portQp p := by
  have hUpdates (r : PortRegs) (pkts : List (EgressIntrinsic × Bits)) :
      queueUpdates T p r (pkts ++ [revoke]) = queueUpdates T p r pkts ++ [.lower credit.toNat] := by
    induction pkts generalizing r with
    | nil =>
      show (r.internalOf T revoke.1 (accountedTo p revoke.2)).toList.map _ ++ _ = _
      rw [hRevoke]
      rfl
    | cons x pkts ih => rw [List.cons_append, queueUpdates, queueUpdates, ih, List.append_assoc]
  have hPair : queueUpdates T p (regs.port p) (accept :: between ++ [revoke]) =
      .raise credit.toNat :: queueUpdates T p (regs.port p) between ++ [.lower credit.toNat] := by
    have hSame : queueUpdates T p ((regs.port p).after T accept.1 (accountedTo p accept.2)) between =
        queueUpdates T p (regs.port p) between := by
      apply queueUpdates_congr
      rw [hAccept]
      rfl
    rw [hUpdates, queueUpdates, hSame, hAccept]
    rfl
  rw [addsFit_iff, hPair, SaturatingCounter.fits_append] at hFits
  have hWith := @egressRun_portQp T p regs (accept :: between ++ [revoke])
  rw [hPair, SaturatingCounter.fits_append] at hWith
  have hBetween := hFits.1.2.mono (Nat.le_add_right (regs.portQp p).toNat credit.toNat)
  rw [BitVec.le_def, hWith hFits, egressRun_portQp hBetween]
  exact SaturatingCounter.run_pair_le _ _ _

/-- A GRANT on its way through egress with the internal header that ingress wrote. -/
def creditUpdate (flags : BitVec 8) (reserved : BitVec 16) (internal : DpdqInternal) : Bits :=
  emitLayers (dpdqStack sampleGrant.ethernet sampleGrant.ipv4 sampleGrant.udp
    ⟨dpdqGrant, flags, reserved, internal.amount⟩ (some internal))

theorem accepted_then_revoked_le_reply :
    (egressRun installedTables { timestamp := fun _ => 1000 }
      [(⟨0, 1200⟩, creditUpdate 0 0x0803 ⟨1538, 0, 0, 0⟩), (⟨0, 1300⟩, departingReply 0x0403),
        (⟨0, 1400⟩, creditUpdate 1 0x0803 ⟨1538, 1, 1, 0⟩)]).portQp 3 ≤
      (egressRun installedTables { timestamp := fun _ => 1000 }
        [(⟨0, 1300⟩, departingReply 0x0403)]).portQp 3 := by
  have hAccept : accountedTo 3 (creditUpdate 0 0x0803 ⟨1538, 0, 0, 0⟩) =
      some (⟨dpdqGrant, 0, 0x0803, 1538⟩, some ⟨1538, 0, 0, 0⟩) := by decide +kernel
  have hRevoke : accountedTo 3 (creditUpdate 1 0x0803 ⟨1538, 1, 1, 0⟩) =
      some (⟨dpdqGrant, 1, 0x0803, 1538⟩, some ⟨1538, 1, 1, 0⟩) := by decide +kernel
  exact accepted_then_revoked_le installedTables 3 { timestamp := fun _ => 1000 } 1538
    (⟨0, 1200⟩, creditUpdate 0 0x0803 ⟨1538, 0, 0, 0⟩)
    (⟨0, 1400⟩, creditUpdate 1 0x0803 ⟨1538, 1, 1, 0⟩) [(⟨0, 1300⟩, departingReply 0x0403)]
    hAccept hRevoke (by decide +kernel)

end Dpdq.Tofino
