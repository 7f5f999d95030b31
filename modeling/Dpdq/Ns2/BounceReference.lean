import Dpdq.Lib.Hysteresis
import Dpdq.Ns2.DestHashClassifier
import Mathlib.Tactic.Linarith
import Mathlib.Tactic.Ring

/-!
# Grants and the phantom queue that bounces them

`ppass_ingress` looks at the phantom queue as the last packet out of the port has left it: only
`ppass_egress` drains. The reference of a port drains whenever it looks, by everything up to less than
one byte.

* `DestHashConfig.ingress_tracks`, `DestHashConfig.egress_tracks`: what the two routines do, next to
  the reference.
* `bounce_follows_reference`: the runs in which every grant is bounced exactly if the reference of its
  port is paused.
* `drainedPort_bounces`: a port that has had a second to run empty bounces the next grant, however the
  reference rounds.
-/

namespace Dpdq.Ns2

open Function
open Dpdq.Lib

/-! ## The reference of a port -/

namespace DestHashConfig

variable (cfg : DestHashConfig)

/-- Bytes in a second. -/
def drainRate : ℚ := cfg.rho * cfg.lineRateGbps * 125000000

/-- Without a threshold nothing is ever paused. -/
def pausedAt (metric : ℚ) (paused : Bool) : Bool :=
  if cfg.xoff ≤ 0 then paused else latch (cfg.xon.toNat : ℚ) cfg.xoff.toNat metric paused

/-- Two readings that lead to the same state. -/
def SameState (x y : ℚ) (paused : Bool) : Prop :=
  cfg.xoff ≤ 0 ∨ SameSide (cfg.xon.toNat : ℚ) cfg.xoff.toNat x y paused

instance (x y : ℚ) (paused : Bool) : Decidable (cfg.SameState x y paused) :=
  inferInstanceAs (Decidable (_ ∨ _))

variable {cfg}

theorem SameState.pausedAt_eq {x y : ℚ} {paused : Bool} (h : cfg.SameState x y paused) :
    cfg.pausedAt x paused = cfg.pausedAt y paused := by
  unfold pausedAt
  rcases h with hOff | hSide
  · rw [if_pos hOff, if_pos hOff]
  · rw [(latch_eq_iff paused).mpr hSide]

end DestHashConfig

/-- A continuous phantom queue, the time up to which it is drained and the state of its port. -/
structure PPassRef where
  queue : ℚ := 0
  last : ℚ := 0
  paused : Bool := false
deriving DecidableEq, Repr

namespace PPassRef

variable (cfg : DestHashConfig)

/-- Draining falls short by `rounding`. -/
def drain (rounding now : ℚ) (r : PPassRef) : PPassRef :=
  { r with queue := max 0 (r.queue - cfg.drainRate * (now - r.last) + rounding), last := now }

def metric (egressQlen : UInt64) (r : PPassRef) : ℚ := max r.queue egressQlen.toNat

def update (egressQlen : UInt64) (r : PPassRef) : PPassRef :=
  { r with paused := cfg.pausedAt (r.metric egressQlen) r.paused }

/-- The port as a packet finds it. -/
def arrive (rounding now : ℚ) (egressQlen : UInt64) (r : PPassRef) : PPassRef :=
  (r.drain cfg rounding now).update cfg egressQlen

def add (bytes : ℚ) (r : PPassRef) : PPassRef := { r with queue := r.queue + bytes }

/-- The credit that a packet reserves where it is not bounced. -/
def reservation (p : FabricPacket) : ℚ := if p.isUnboundedGrant then p.credit else 0

def ingress (rounding now : ℚ) (egressQlen : UInt64) (p : FabricPacket) (bounced : Bool)
    (r : PPassRef) : PPassRef :=
  let r := r.arrive cfg rounding now egressQlen
  if bounced then r else (r.add (reservation p)).update cfg egressQlen

def charge (p : FabricPacket) (justBounced : Bool) (r : PPassRef) : PPassRef :=
  if p.msgType = .grant ∧ p.bouncedCredit ∧ justBounced = false then
    { r with queue := max 0 (r.queue - p.credit) }
  else if p.isCharged then r.add p.size
  else r

def egress (rounding now : ℚ) (egressQlen : UInt64) (p : FabricPacket) (justBounced : Bool)
    (r : PPassRef) : PPassRef :=
  ((r.drain cfg rounding now).charge p justBounced).update cfg egressQlen

end PPassRef

/-! ## A switch and the references of its ports -/

/-- What the updates of the two ports of a packet fall short by. -/
structure Rounding where
  ingress : ℚ := 0
  egress : ℚ := 0
deriving DecidableEq, Repr

def Rounding.Admissible (ρ : Rounding) : Prop :=
  (0 ≤ ρ.ingress ∧ ρ.ingress < 1) ∧ 0 ≤ ρ.egress ∧ ρ.egress < 1

instance (ρ : Rounding) : Decidable ρ.Admissible := inferInstanceAs (Decidable (_ ∧ _))

/-- An unbounded grant: whether the switch has bounced it and whether the reference is paused. -/
structure Verdict where
  bounced : Bool
  paused : Bool
deriving DecidableEq, Repr

structure WatchedHash where
  switch : DestHashSwitch := {}
  refs : Int → PPassRef := fun _ => {}
  log : List Verdict := []

namespace WatchedHash

variable (cfg : DestHashConfig) (w : WatchedHash) (a : FabricArrival)

/-- The packets that the two routines are called for. -/
def Handled : Prop := cfg.enablePpass = true ∧ a.packet.udp = true

instance : Decidable (Handled cfg a) := inferInstanceAs (Decidable (_ ∧ _))

/-- `ppass_ingress` for the packet. -/
def ingressOf : Bool × FabricPacket × PPassPortStatus :=
  cfg.ppassIngress (a.egressQlen a.packet.iface) a.packet (w.switch.ports a.packet.iface)

/-- The label of the port that the packet leaves by. -/
def egressLabel : Option Int :=
  cfg.getIface (cfg.retSlot a.packet (w.ingressOf cfg a).1 (w.ingressOf cfg a).2.1)

/-- The references behind `ppass_ingress`. -/
def arrived (rounding : ℚ) : Int → PPassRef :=
  update w.refs a.packet.iface
    ((w.refs a.packet.iface).ingress cfg rounding a.now (a.egressQlen a.packet.iface) a.packet
      (w.ingressOf cfg a).1)

def follow (ρ : Rounding) : Int → PPassRef :=
  if Handled cfg a then
    let refs := w.arrived cfg a ρ.ingress
    match w.egressLabel cfg a with
    | none => refs
    | some label =>
      update refs label
        ((refs label).egress cfg ρ.egress a.now (a.egressQlen label) (w.ingressOf cfg a).2.1
          (w.ingressOf cfg a).1)
  else w.refs

def judged (ρ : Rounding) : List Verdict :=
  if Handled cfg a ∧ a.packet.isUnboundedGrant then
    [{ bounced := (w.ingressOf cfg a).1
       paused := ((w.refs a.packet.iface).arrive cfg ρ.ingress a.now
         (a.egressQlen a.packet.iface)).paused }]
  else []

end WatchedHash

/-- The switch with its references, the rounding of which comes with the packets. -/
def watchedHash (cfg : DestHashConfig) : Machine WatchedHash (FabricArrival × Rounding) where
  init := {}
  step w e :=
    if e.2.Admissible then
      ((destHash cfg).step w.switch e.1).map fun switch =>
        { switch
          refs := w.follow cfg e.1 e.2
          log := w.log ++ w.judged cfg e.1 e.2 }
    else none

/-! ## The condition on a packet -/

namespace PPassPortStatus

def reading (egressQlen : UInt64) (s : PPassPortStatus) : ℚ := max (s.pqlen.toNat : ℚ) egressQlen.toNat

end PPassPortStatus

namespace DestHashConfig

variable (cfg : DestHashConfig)

/-- The packet is not bounced. -/
def Admits (s : PPassPortStatus) (egressQlen : UInt64) (p : FabricPacket) : Prop :=
  ¬(p.isUnboundedGrant = true ∧ cfg.pausedAt (s.reading egressQlen) s.paused = true)

instance (s : PPassPortStatus) (egressQlen : UInt64) (p : FabricPacket) :
    Decidable (cfg.Admits s egressQlen p) :=
  inferInstanceAs (Decidable (¬_))

/-- The port that a packet comes in by: it is in the state that it would be in with the queue drained,
before and behind the reservation, and a port that reserves has not run empty since it last drained. -/
structure IngressFollows (s : PPassPortStatus) (r : PPassRef) (egressQlen : UInt64) (now : ℚ)
    (p : FabricPacket) : Prop where
  arrival : cfg.SameState (s.reading egressQlen) ((r.drain cfg 0 now).metric egressQlen) s.paused
  behind : cfg.Admits s egressQlen p →
    cfg.SameState (max (s.pqlen.toNat + PPassRef.reservation p) egressQlen.toNat)
      (((r.drain cfg 0 now).add (PPassRef.reservation p)).metric egressQlen)
      (cfg.pausedAt (s.reading egressQlen) s.paused)
  room : cfg.Admits s egressQlen p → p.isUnboundedGrant = true →
    0 ≤ p.credit ∧ s.pqlen.toNat + p.credit < 2 ^ 64
  backlog : cfg.Admits s egressQlen p → p.isUnboundedGrant = true → s.lastTime ≠ 0 →
    p.credit = 0 ∨ cfg.drainRate * (now - s.lastTime) ≤ s.pqlen.toNat

/-- The port that a packet leaves by: nothing is left to drain where the stamp reads as none, and the
numbers stay in their types. -/
structure EgressFollows (s : PPassPortStatus) (r : PPassRef) (now : ℚ) (p : FabricPacket)
    (justBounced : Bool) : Prop where
  stamp : s.lastTime = 0 →
    r.queue = s.pqlen.toNat ∧ (s.pqlen = 0 ∨ cfg.drainRate * (now - r.last) < 1)
  product : s.lastTime ≠ 0 → cfg.drainRate * (now - s.lastTime) < 2 ^ 64
  room : s.pqlen.toNat + p.size < 2 ^ 64
  revoked : p.msgType = .grant ∧ p.bouncedCredit ∧ justBounced = false →
    0 ≤ p.credit ∧ s.pqlen.toNat < 2 ^ 31

variable {cfg} {s : PPassPortStatus} {r : PPassRef} {egressQlen : UInt64} {now : ℚ}
  {p : FabricPacket} {justBounced : Bool}

instance : Decidable (cfg.IngressFollows s r egressQlen now p) :=
  decidable_of_iff
    (cfg.SameState (s.reading egressQlen) ((r.drain cfg 0 now).metric egressQlen) s.paused ∧
      (cfg.Admits s egressQlen p →
        cfg.SameState (max (s.pqlen.toNat + PPassRef.reservation p) egressQlen.toNat)
          (((r.drain cfg 0 now).add (PPassRef.reservation p)).metric egressQlen)
          (cfg.pausedAt (s.reading egressQlen) s.paused)) ∧
      (cfg.Admits s egressQlen p → p.isUnboundedGrant = true →
        0 ≤ p.credit ∧ s.pqlen.toNat + p.credit < 2 ^ 64) ∧
      (cfg.Admits s egressQlen p → p.isUnboundedGrant = true → s.lastTime ≠ 0 →
        p.credit = 0 ∨ cfg.drainRate * (now - s.lastTime) ≤ s.pqlen.toNat))
    ⟨fun ⟨hArrival, hBehind, hRoom, hBacklog⟩ => ⟨hArrival, hBehind, hRoom, hBacklog⟩,
      fun h => ⟨h.arrival, h.behind, h.room, h.backlog⟩⟩

instance : Decidable (cfg.EgressFollows s r now p justBounced) :=
  decidable_of_iff
    ((s.lastTime = 0 →
        r.queue = s.pqlen.toNat ∧ (s.pqlen = 0 ∨ cfg.drainRate * (now - r.last) < 1)) ∧
      (s.lastTime ≠ 0 → cfg.drainRate * (now - s.lastTime) < 2 ^ 64) ∧
      s.pqlen.toNat + p.size < 2 ^ 64 ∧
      (p.msgType = .grant ∧ p.bouncedCredit ∧ justBounced = false →
        0 ≤ p.credit ∧ s.pqlen.toNat < 2 ^ 31))
    ⟨fun ⟨hStamp, hProduct, hRoom, hRevoked⟩ => ⟨hStamp, hProduct, hRoom, hRevoked⟩,
      fun h => ⟨h.stamp, h.product, h.room, h.revoked⟩⟩

/-! ## The routines of the switch -/

theorem updatePortState_eq (s : PPassPortStatus) (egressQlen : UInt64) :
    cfg.updatePortState egressQlen s =
      { s with paused := cfg.pausedAt (s.reading egressQlen) s.paused } := by
  have hReading : s.reading egressQlen = ((getCongestionMetric egressQlen s).toNat : ℚ) := by
    unfold PPassPortStatus.reading getCongestionMetric
    rw [toNat_max]
    push_cast
    rfl
  rw [hReading]
  unfold updatePortState pausedAt latch
  obtain ⟨pqlen, lastTime, paused⟩ := s
  simp only [Nat.cast_lt]
  split
  · rfl
  cases paused with
  | false =>
    simp only [Bool.not_false, Bool.true_and, decide_eq_true_eq, Bool.false_and]
    split
    · rename_i hSet
      simp [hSet]
    · rename_i hHeld
      simp [hHeld]
  | true =>
    simp only [Bool.not_true, Bool.false_and, Bool.false_eq_true, if_false, Bool.true_and,
      decide_eq_true_eq]
    split
    · rename_i hClear
      simp only [hClear, decide_true, Bool.not_true, ↓reduceIte]
    · rename_i hHeld
      simp only [hHeld, decide_false, Bool.not_false, ↓reduceIte]

/-- A subtraction that stops at 0. -/
theorem ite_gt_eq_sub_toNat (a b : UInt64) :
    (if b > a then 0 else a - b).toNat = a.toNat - b.toNat := by
  split
  · rename_i hLess
    have hLt := UInt64.lt_iff_toNat_lt.mp hLess
    rw [UInt64.toNat_zero]
    omega
  · rename_i hEnough
    exact UInt64.toNat_sub_of_le _ _ (UInt64.not_lt.mp hEnough)

theorem toNat_ofInt {z : Int} (hNonneg : 0 ≤ z) (hSmall : z < 2 ^ 64) :
    (UInt64.ofInt z).toNat = z.toNat := by
  unfold UInt64.ofInt
  rw [Int.emod_eq_of_lt hNonneg (by exact_mod_cast hSmall)]
  exact UInt64.toNat_ofNat_of_lt' (by show z.toNat < 2 ^ 64; omega)

theorem drainPhantomQueue_lastTime (s : PPassPortStatus) :
    (cfg.drainPhantomQueue now s).lastTime = now := rfl

theorem drainPhantomQueue_paused (s : PPassPortStatus) :
    (cfg.drainPhantomQueue now s).paused = s.paused := rfl

/-- The first packet out of a port drains nothing. -/
theorem drainPhantomQueue_never (h : s.lastTime = 0) :
    (cfg.drainPhantomQueue now s).pqlen = s.pqlen := by
  unfold drainPhantomQueue
  simp [h]

theorem drainPhantomQueue_toNat (hStamp : s.lastTime ≠ 0) (hClock : s.lastTime ≤ now)
    (hProduct : cfg.drainRate * (now - s.lastTime) < 2 ^ 64) :
    (cfg.drainPhantomQueue now s).pqlen.toNat =
      s.pqlen.toNat - ⌊cfg.drainRate * (now - s.lastTime)⌋₊ := by
  have hInterval : ¬(s.lastTime = 0 ∨ now - s.lastTime < 0) := by
    rintro (hZero | hBack)
    · exact hStamp hZero
    · linarith
  have hRate : cfg.rho * (now - s.lastTime) * cfg.lineRateGbps * 125000000 =
      cfg.drainRate * (now - s.lastTime) := by
    unfold drainRate
    ring
  have hSmall : ⌊cfg.drainRate * (now - s.lastTime)⌋₊ < 2 ^ 64 := by
    rcases le_or_gt 0 (cfg.drainRate * (now - s.lastTime)) with hNonneg | hNeg
    · rw [Nat.floor_lt hNonneg]
      exact_mod_cast hProduct
    · rw [Nat.floor_of_nonpos hNeg.le]
      decide
  unfold drainPhantomQueue
  dsimp only
  rw [if_neg hInterval, hRate]
  rw [ite_gt_eq_sub_toNat, UInt64.toNat_ofNat_of_lt' hSmall]

/-! ## A port and its reference -/

/-- The reference of a port, drained up to a time that is not past `clock`. -/
structure Tracks (cfg : DestHashConfig) (clock : ℚ) (s : PPassPortStatus) (r : PPassRef) : Prop where
  paused : r.paused = s.paused
  queue : s.lastTime ≠ 0 → r.queue = max 0 (s.pqlen.toNat - cfg.drainRate * (r.last - s.lastTime))
  stamp : s.lastTime ≤ r.last
  clock : r.last ≤ clock

theorem Tracks.mono {clock : ℚ} (h : Tracks cfg clock s r) (hLe : clock ≤ now) :
    Tracks cfg now s r :=
  ⟨h.paused, h.queue, h.stamp, h.clock.trans hLe⟩

/-- Draining twice. -/
theorem max_zero_sub_sub {q debt more : ℚ} (hMore : 0 ≤ more) :
    max 0 (max 0 (q - debt) - more) = max 0 (q - (debt + more)) := by
  rcases le_total q debt with hEmpty | hFull
  · rw [max_eq_left (by linarith : q - debt ≤ 0), max_eq_left (by linarith),
      max_eq_left (by linarith)]
  · rw [max_eq_right (by linarith : 0 ≤ q - debt), sub_sub]

/-- The queue of the reference once it is drained up to `now`. -/
theorem Tracks.drain_queue (h : Tracks cfg now s r) (hRate : 0 ≤ cfg.drainRate)
    (hStamp : s.lastTime ≠ 0) :
    (r.drain cfg 0 now).queue = max 0 (s.pqlen.toNat - cfg.drainRate * (now - s.lastTime)) := by
  have hMore : 0 ≤ cfg.drainRate * (now - r.last) :=
    mul_nonneg hRate (by linarith [h.clock])
  unfold PPassRef.drain
  dsimp only
  rw [add_zero, h.queue hStamp, max_zero_sub_sub hMore]
  congr 2
  ring

/-- The phantom queue behind a reservation. -/
def reservedQlen (s : PPassPortStatus) (p : FabricPacket) : UInt64 :=
  if p.isUnboundedGrant then s.pqlen + UInt64.ofInt p.credit else s.pqlen

theorem reservedQlen_cast (hFollows : cfg.IngressFollows s r egressQlen now p)
    (hAdmits : cfg.Admits s egressQlen p) :
    ((reservedQlen s p).toNat : ℚ) = s.pqlen.toNat + PPassRef.reservation p := by
  unfold reservedQlen PPassRef.reservation
  by_cases hGrant : p.isUnboundedGrant = true
  · rw [if_pos hGrant, if_pos hGrant]
    obtain ⟨hNonneg, hRoom⟩ := hFollows.room hAdmits hGrant
    have hSum : ((s.pqlen + UInt64.ofInt p.credit).toNat : ℤ) = s.pqlen.toNat + p.credit := by
      rw [UInt64.toNat_add, toNat_ofInt hNonneg (by omega), Nat.mod_eq_of_lt (by omega)]
      omega
    exact_mod_cast hSum
  · rw [if_neg hGrant, if_neg hGrant, add_zero]

/-- What a port reserves, its reference reserves: there is nothing left that an empty queue would have
swallowed. -/
theorem reserved_queue (hRate : 0 ≤ cfg.drainRate) (h : Tracks cfg now s r)
    (hFollows : cfg.IngressFollows s r egressQlen now p) (hAdmits : cfg.Admits s egressQlen p)
    (hStamp : s.lastTime ≠ 0) :
    (r.drain cfg 0 now).queue + PPassRef.reservation p =
      max 0 (s.pqlen.toNat + PPassRef.reservation p - cfg.drainRate * (now - s.lastTime)) := by
  rw [h.drain_queue hRate hStamp]
  by_cases hGrant : p.isUnboundedGrant = true
  · rcases hFollows.backlog hAdmits hGrant hStamp with hNone | hBacklog
    · have hZero : PPassRef.reservation p = 0 := by
        unfold PPassRef.reservation
        rw [hNone]
        simp
      rw [hZero, add_zero, add_zero]
    · have hNonneg : 0 ≤ PPassRef.reservation p := by
        unfold PPassRef.reservation
        rw [if_pos hGrant]
        exact_mod_cast (hFollows.room hAdmits hGrant).1
      rw [max_eq_right (by linarith), max_eq_right (by linarith)]
      ring
  · have hZero : PPassRef.reservation p = 0 := if_neg hGrant
    rw [hZero, add_zero, add_zero]

/-- The port that a packet comes in by. -/
theorem ingress_tracks (hRate : 0 ≤ cfg.drainRate) (h : Tracks cfg now s r)
    (hFollows : cfg.IngressFollows s r egressQlen now p) :
    Tracks cfg now (cfg.ppassIngress egressQlen p s).2.2
        (r.ingress cfg 0 now egressQlen p (cfg.ppassIngress egressQlen p s).1) ∧
      (p.isUnboundedGrant = true →
        (cfg.ppassIngress egressQlen p s).1 = (r.arrive cfg 0 now egressQlen).paused) := by
  have hArrive : (r.arrive cfg 0 now egressQlen).paused =
      cfg.pausedAt (s.reading egressQlen) s.paused := by
    unfold PPassRef.arrive PPassRef.update
    dsimp only
    rw [hFollows.arrival.pausedAt_eq, ← h.paused]
    rfl
  have hStamp : s.lastTime ≤ now := h.stamp.trans h.clock
  unfold ppassIngress PPassRef.ingress
  dsimp only
  rw [updatePortState_eq]
  dsimp only
  by_cases hBounced :
      (p.isUnboundedGrant && cfg.pausedAt (s.reading egressQlen) s.paused) = true
  · rw [if_pos hBounced]
    obtain ⟨hGrant, hPaused⟩ := Bool.and_eq_true_iff.mp hBounced
    refine ⟨⟨hArrive, ?_, hStamp, le_refl now⟩, fun _ => (hArrive.trans hPaused).symm⟩
    exact fun hNever => h.drain_queue hRate hNever
  · rw [if_neg hBounced]
    have hAdmits : cfg.Admits s egressQlen p := fun hBoth => hBounced (by simp [hBoth])
    refine ⟨?_, ?_⟩
    · have hReserve : (if p.isUnboundedGrant = true then
          { s with
            paused := cfg.pausedAt (s.reading egressQlen) s.paused
            pqlen := s.pqlen + UInt64.ofInt p.credit }
        else { s with paused := cfg.pausedAt (s.reading egressQlen) s.paused }) =
          { s with
            paused := cfg.pausedAt (s.reading egressQlen) s.paused
            pqlen := reservedQlen s p } := by
        unfold reservedQlen
        split
        · rfl
        · rfl
      have hCast := reservedQlen_cast hFollows hAdmits
      rw [hReserve, updatePortState_eq]
      refine ⟨?_, ?_, hStamp, le_refl now⟩
      · have hBehind := (hFollows.behind hAdmits).pausedAt_eq
        unfold PPassPortStatus.reading at hBehind ⊢
        dsimp only at hBehind ⊢
        rw [hCast, hBehind]
        unfold PPassPortStatus.reading at hArrive
        rw [← hArrive]
        rfl
      · intro hNever
        dsimp only
        rw [hCast]
        exact reserved_queue hRate h hFollows hAdmits hNever
    · intro hGrant
      rw [hArrive]
      simpa [hGrant] using hBounced

/-! ### The port that a packet leaves by -/

/-- What the drain of the switch cuts off, next to the reference. -/
def cutOff (cfg : DestHashConfig) (s : PPassPortStatus) (r : PPassRef) (now : ℚ) : ℚ :=
  let left := (cfg.drainPhantomQueue now s).pqlen
  if left = 0 then 0 else left.toNat - (r.queue - cfg.drainRate * (now - r.last))

/-- The numbers behind a drain: `q` is what the reference has left after `debt`, and `left` what
remains of `qlen` once `debt + more` is drained in whole bytes. -/
theorem cut_spec {qlen left : ℕ} {q debt more : ℚ} (hDebt : 0 ≤ debt) (hMore : 0 ≤ more)
    (hQueue : q = max 0 (qlen - debt)) (hLeft : left = qlen - ⌊debt + more⌋₊) :
    let rounding := if left = 0 then 0 else (left : ℚ) - (q - more)
    (0 ≤ rounding ∧ rounding < 1) ∧ max 0 (q - more + rounding) = left := by
  have hFloor := Nat.floor_le (add_nonneg hDebt hMore)
  have hNext := Nat.lt_floor_add_one (debt + more)
  dsimp only
  by_cases hZero : left = 0
  · rw [if_pos hZero]
    have hLe : (qlen : ℚ) ≤ ⌊debt + more⌋₊ := by
      exact_mod_cast (by omega : qlen ≤ ⌊debt + more⌋₊)
    have hEmpty : q - more ≤ 0 := by
      rw [hQueue]
      rcases max_cases 0 ((qlen : ℚ) - debt) with ⟨hMax, -⟩ | ⟨hMax, -⟩
      · rw [hMax]
        linarith
      · rw [hMax]
        linarith
    refine ⟨⟨le_refl 0, by norm_num⟩, ?_⟩
    rw [add_zero, max_eq_left hEmpty, hZero, Nat.cast_zero]
  · rw [if_neg hZero]
    have hLt : ⌊debt + more⌋₊ + 1 ≤ qlen := by omega
    have hLtCast : (⌊debt + more⌋₊ : ℚ) + 1 ≤ qlen := by exact_mod_cast hLt
    have hCast : (left : ℚ) = qlen - ⌊debt + more⌋₊ := by
      rw [hLeft, Nat.cast_sub (by omega)]
    have hFull : q = qlen - debt := by
      rw [hQueue, max_eq_right (by linarith)]
    refine ⟨⟨?_, ?_⟩, ?_⟩
    · rw [hFull, hCast]
      linarith
    · rw [hFull, hCast]
      linarith
    · rw [add_sub_cancel, max_eq_right (by positivity)]

theorem cutOff_spec (hRate : 0 ≤ cfg.drainRate) (h : Tracks cfg now s r)
    (hFollows : cfg.EgressFollows s r now p justBounced) :
    (0 ≤ cutOff cfg s r now ∧ cutOff cfg s r now < 1) ∧
      (r.drain cfg (cutOff cfg s r now) now).queue = (cfg.drainPhantomQueue now s).pqlen.toNat := by
  have hMore : 0 ≤ cfg.drainRate * (now - r.last) :=
    mul_nonneg hRate (by linarith [h.clock])
  have hCut : cutOff cfg s r now = if (cfg.drainPhantomQueue now s).pqlen.toNat = 0 then 0 else
      ((cfg.drainPhantomQueue now s).pqlen.toNat : ℚ) -
        (r.queue - cfg.drainRate * (now - r.last)) := by
    unfold cutOff
    simp only [← UInt64.toNat_inj, UInt64.toNat_zero]
  unfold PPassRef.drain
  dsimp only
  rw [hCut]
  by_cases hNever : s.lastTime = 0
  · obtain ⟨hQueue, hNothing⟩ := hFollows.stamp hNever
    have hFull : r.queue = max 0 ((s.pqlen.toNat : ℚ) - 0) := by
      rw [sub_zero, max_eq_right (Nat.cast_nonneg _), hQueue]
    have hLeft : s.pqlen.toNat =
        s.pqlen.toNat - ⌊0 + cfg.drainRate * (now - r.last)⌋₊ := by
      rcases hNothing with hEmpty | hShort
      · rw [hEmpty, UInt64.toNat_zero, Nat.zero_sub]
      · rw [zero_add, Nat.floor_eq_zero.mpr hShort, Nat.sub_zero]
    rw [drainPhantomQueue_never hNever]
    exact cut_spec (le_refl 0) hMore hFull hLeft
  · have hDebt : 0 ≤ cfg.drainRate * (r.last - s.lastTime) :=
      mul_nonneg hRate (by linarith [h.stamp])
    have hTotal : cfg.drainRate * (now - s.lastTime) =
        cfg.drainRate * (r.last - s.lastTime) + cfg.drainRate * (now - r.last) := by
      ring
    have hLeft := drainPhantomQueue_toNat hNever (h.stamp.trans h.clock) (hFollows.product hNever)
    rw [hTotal] at hLeft
    exact cut_spec hDebt hMore (h.queue hNever) hLeft

/-- A packet takes as much room in the phantom queue as in the reference. -/
theorem chargePhantomQueue_spec {q : PPassRef} (hQueue : q.queue = s.pqlen.toNat)
    (hRoom : s.pqlen.toNat + p.size < 2 ^ 64)
    (hRevoked : p.msgType = .grant ∧ p.bouncedCredit ∧ justBounced = false →
      0 ≤ p.credit ∧ s.pqlen.toNat < 2 ^ 31) :
    (q.charge p justBounced).queue = (chargePhantomQueue p justBounced s).pqlen.toNat := by
  unfold PPassRef.charge chargePhantomQueue
  by_cases hRevokes : p.msgType = .grant ∧ p.bouncedCredit ∧ justBounced = false
  · obtain ⟨hNonneg, hSmall⟩ := hRevoked hRevokes
    have hInt : Int.bmod s.pqlen.toNat (2 ^ 32) = s.pqlen.toNat := by
      rw [Int.bmod_eq_of_le (by omega) (by omega)]
    rw [if_pos hRevokes, if_pos hRevokes]
    dsimp only
    rw [hInt, hQueue]
    split
    · rename_i hMore
      have hCast : (s.pqlen.toNat : ℚ) < p.credit := by exact_mod_cast hMore
      rw [max_eq_left (by linarith), UInt64.toNat_zero, Nat.cast_zero]
    · rename_i hEnough
      have hLe : p.credit ≤ s.pqlen.toNat := not_lt.mp hEnough
      have hCredit := toNat_ofInt hNonneg (by omega)
      have hSub : ((s.pqlen - UInt64.ofInt p.credit).toNat : ℤ) = s.pqlen.toNat - p.credit := by
        rw [UInt64.toNat_sub_of_le _ _ (UInt64.le_iff_toNat_le.mpr (by omega)), hCredit]
        omega
      have hCast : ((s.pqlen - UInt64.ofInt p.credit).toNat : ℚ) = s.pqlen.toNat - p.credit := by
        exact_mod_cast hSub
      have hLeCast : (p.credit : ℚ) ≤ s.pqlen.toNat := by exact_mod_cast hLe
      rw [hCast, max_eq_right (by linarith)]
  · rw [if_neg hRevokes, if_neg hRevokes]
    by_cases hCharged : p.isCharged = true
    · rw [if_pos hCharged, if_pos hCharged]
      unfold PPassRef.add
      dsimp only
      rw [hQueue, UInt64.toNat_add, UInt64.toNat_ofNat_of_lt' (by show p.size < 2 ^ 64; omega),
        Nat.mod_eq_of_lt hRoom]
      push_cast
      rfl
    · rw [if_neg hCharged, if_neg hCharged, hQueue]

theorem chargePhantomQueue_frame (s : PPassPortStatus) :
    (chargePhantomQueue p justBounced s).paused = s.paused ∧
      (chargePhantomQueue p justBounced s).lastTime = s.lastTime := by
  unfold chargePhantomQueue
  split
  · exact ⟨rfl, rfl⟩
  · split
    · exact ⟨rfl, rfl⟩
    · exact ⟨rfl, rfl⟩

theorem charge_frame (r : PPassRef) :
    (r.charge p justBounced).paused = r.paused ∧ (r.charge p justBounced).last = r.last := by
  unfold PPassRef.charge
  split
  · exact ⟨rfl, rfl⟩
  · split
    · exact ⟨rfl, rfl⟩
    · exact ⟨rfl, rfl⟩

/-- The port that a packet leaves by: it drains before it looks, and so is where its reference is. -/
theorem egress_tracks (hRate : 0 ≤ cfg.drainRate) (h : Tracks cfg now s r)
    (hFollows : cfg.EgressFollows s r now p justBounced) :
    Tracks cfg now (cfg.ppassEgress egressQlen now p justBounced s).2
      (r.egress cfg (cutOff cfg s r now) now egressQlen p justBounced) := by
  obtain ⟨-, hDrained⟩ := cutOff_spec hRate h hFollows
  have hLess : (cfg.drainPhantomQueue now s).pqlen.toNat ≤ s.pqlen.toNat := by
    by_cases hNever : s.lastTime = 0
    · rw [drainPhantomQueue_never hNever]
    · rw [drainPhantomQueue_toNat hNever (h.stamp.trans h.clock) (hFollows.product hNever)]
      exact Nat.sub_le _ _
  have hCharged := @chargePhantomQueue_spec (cfg.drainPhantomQueue now s) p justBounced _ hDrained
    (by have hRoom := hFollows.room; omega)
    (fun hRevokes => ⟨(hFollows.revoked hRevokes).1,
      hLess.trans_lt (hFollows.revoked hRevokes).2⟩)
  obtain ⟨hPaused, hLast⟩ :=
    @chargePhantomQueue_frame p justBounced (cfg.drainPhantomQueue now s)
  obtain ⟨hRefPaused, hRefLast⟩ :=
    @charge_frame p justBounced (r.drain cfg (cutOff cfg s r now) now)
  unfold ppassEgress PPassRef.egress
  dsimp only
  rw [updatePortState_eq]
  refine ⟨?_, ?_, ?_, ?_⟩
  · unfold PPassRef.update PPassRef.metric PPassPortStatus.reading
    dsimp only
    rw [hCharged, hPaused, hRefPaused]
    unfold PPassRef.drain
    dsimp only
    rw [h.paused, drainPhantomQueue_paused]
  · intro _
    have hSame : ((r.drain cfg (cutOff cfg s r now) now).charge p justBounced).last -
        (chargePhantomQueue p justBounced (cfg.drainPhantomQueue now s)).lastTime = 0 := by
      rw [hRefLast, hLast, drainPhantomQueue_lastTime]
      exact sub_self now
    unfold PPassRef.update
    dsimp only
    rw [hSame, hCharged, mul_zero, sub_zero, max_eq_right (Nat.cast_nonneg _)]
  · unfold PPassRef.update
    dsimp only
    rw [hRefLast, hLast]
    exact le_refl now
  · unfold PPassRef.update
    dsimp only
    rw [hRefLast]
    exact le_refl now

end DestHashConfig

/-! ## Runs -/

namespace WatchedHash

variable (cfg : DestHashConfig) (w : WatchedHash) (a : FabricArrival)

/-- The ports behind `ppass_ingress`. -/
def arrivedPorts : Int → PPassPortStatus :=
  update w.switch.ports a.packet.iface (w.ingressOf cfg a).2.2

/-- What the switch rounds. -/
def cutOffs : Rounding where
  egress :=
    match w.egressLabel cfg a with
    | none => 0
    | some label =>
      if Handled cfg a then
        DestHashConfig.cutOff cfg (w.arrivedPorts cfg a label) (w.arrived cfg a 0 label) a.now
      else 0

/-- The condition on a packet. -/
def Follows : Prop :=
  Handled cfg a →
    cfg.IngressFollows (w.switch.ports a.packet.iface) (w.refs a.packet.iface)
      (a.egressQlen a.packet.iface) a.now a.packet ∧
    ∀ label ∈ w.egressLabel cfg a,
      cfg.EgressFollows (w.arrivedPorts cfg a label) (w.arrived cfg a 0 label) a.now
        (w.ingressOf cfg a).2.1 (w.ingressOf cfg a).1

instance : Decidable (w.Follows cfg a) := inferInstanceAs (Decidable (_ → _ ∧ _))

end WatchedHash

/-- The switch with the references that round as it does. -/
def exactHash (cfg : DestHashConfig) : Machine WatchedHash FabricArrival :=
  (watchedHash cfg).choosing fun w a => w.cutOffs cfg a

namespace WatchedHash

variable {cfg : DestHashConfig} {w : WatchedHash} {a : FabricArrival}

theorem classify_ports :
    (cfg.classify a.egressQlen a.now w.switch.ports a.packet).ports =
      if Handled cfg a then
        match w.egressLabel cfg a with
        | none => w.arrivedPorts cfg a
        | some label =>
          update (w.arrivedPorts cfg a) label
            (cfg.ppassEgress (a.egressQlen label) a.now (w.ingressOf cfg a).2.1
              (w.ingressOf cfg a).1 (w.arrivedPorts cfg a label)).2
      else w.switch.ports := by
  unfold DestHashConfig.classify
  by_cases hHandled : Handled cfg a
  · rw [if_pos hHandled, if_pos (by simp [hHandled.1, hHandled.2])]
    unfold egressLabel arrivedPorts ingressOf
    dsimp only
    split
    · rename_i hNone
      rw [hNone]
    · rename_i label hLabel
      rw [hLabel]
  · rw [if_neg hHandled, if_neg (fun hBoth => hHandled (Bool.and_eq_true_iff.mp hBoth))]

/-- Every port is where its reference is, and every grant was judged alike. -/
structure Agrees (cfg : DestHashConfig) (w : WatchedHash) : Prop where
  ports : ∀ i, DestHashConfig.Tracks cfg w.switch.clock (w.switch.ports i) (w.refs i)
  log : ∀ d ∈ w.log, d.bounced = d.paused

theorem agrees_init (cfg : DestHashConfig) : Agrees cfg {} where
  ports _ := ⟨rfl, fun h => absurd rfl h, le_refl _, le_refl _⟩
  log _ h := nomatch h

theorem cutOffs_admissible (hNone : ∀ label ∈ w.egressLabel cfg a, Handled cfg a →
    0 ≤ DestHashConfig.cutOff cfg (w.arrivedPorts cfg a label) (w.arrived cfg a 0 label) a.now ∧
      DestHashConfig.cutOff cfg (w.arrivedPorts cfg a label) (w.arrived cfg a 0 label) a.now < 1) :
    (w.cutOffs cfg a).Admissible := by
  refine ⟨⟨le_refl 0, zero_lt_one⟩, ?_⟩
  unfold cutOffs
  dsimp only
  cases hLabel : w.egressLabel cfg a with
  | none => exact ⟨le_refl 0, zero_lt_one⟩
  | some label =>
    dsimp only
    split
    · rename_i hHandled
      exact hNone label hLabel hHandled
    · exact ⟨le_refl 0, zero_lt_one⟩

/-- The ports behind `ppass_ingress`. -/
theorem Agrees.arrived (h : Agrees cfg w) (hRate : 0 ≤ cfg.drainRate)
    (hClock : w.switch.clock ≤ a.now)
    (hFollows : cfg.IngressFollows (w.switch.ports a.packet.iface) (w.refs a.packet.iface)
      (a.egressQlen a.packet.iface) a.now a.packet) (i : Int) :
    DestHashConfig.Tracks cfg a.now (w.arrivedPorts cfg a i) (w.arrived cfg a 0 i) := by
  unfold arrivedPorts WatchedHash.arrived
  by_cases hSame : i = a.packet.iface
  · rw [hSame, update_self, update_self]
    exact (DestHashConfig.ingress_tracks hRate ((h.ports _).mono hClock) hFollows).1
  · rw [update_of_ne hSame, update_of_ne hSame]
    exact (h.ports i).mono hClock

/-- The ports behind a packet. -/
theorem Agrees.followed (h : Agrees cfg w) (hRate : 0 ≤ cfg.drainRate)
    (hClock : w.switch.clock ≤ a.now) (hFollows : w.Follows cfg a) (i : Int) :
    DestHashConfig.Tracks cfg a.now
      ((cfg.classify a.egressQlen a.now w.switch.ports a.packet).ports i)
      (w.follow cfg a (w.cutOffs cfg a) i) := by
  rw [classify_ports]
  unfold follow
  by_cases hHandled : Handled cfg a
  · obtain ⟨hIngress, hEgress⟩ := hFollows hHandled
    have hArrived := h.arrived hRate hClock hIngress
    rw [if_pos hHandled, if_pos hHandled]
    unfold cutOffs
    dsimp only
    cases hLabel : w.egressLabel cfg a with
    | none => exact hArrived i
    | some label =>
      dsimp only
      rw [if_pos hHandled]
      by_cases hSame : i = label
      · rw [hSame, update_self, update_self]
        exact DestHashConfig.egress_tracks hRate (hArrived label) (hEgress label hLabel)
      · rw [update_of_ne hSame, update_of_ne hSame]
        exact hArrived i
  · rw [if_neg hHandled, if_neg hHandled]
    exact (h.ports i).mono hClock

theorem Agrees.judged (h : Agrees cfg w) (hRate : 0 ≤ cfg.drainRate)
    (hClock : w.switch.clock ≤ a.now) (hFollows : w.Follows cfg a) :
    ∀ d ∈ w.judged cfg a (w.cutOffs cfg a), d.bounced = d.paused := by
  intro d hMem
  unfold WatchedHash.judged at hMem
  split at hMem
  · rename_i hGrant
    obtain rfl := List.mem_singleton.mp hMem
    have hIngress := (hFollows hGrant.1).1
    exact (DestHashConfig.ingress_tracks hRate ((h.ports _).mono hClock) hIngress).2 hGrant.2
  · cases hMem

theorem Agrees.step (h : Agrees cfg w) (hRate : 0 ≤ cfg.drainRate) (hFollows : w.Follows cfg a)
    {s : DestHashSwitch} (hStep : (destHash cfg).step w.switch a = some s) :
    ∃ v, (exactHash cfg).step w a = some v ∧ v.switch = s ∧ Agrees cfg v := by
  obtain ⟨hClock, rfl⟩ := Machine.of_guarded hStep
  have hAdmissible : (w.cutOffs cfg a).Admissible := by
    refine cutOffs_admissible ?_
    intro label hLabel hHandled
    obtain ⟨hIngress, hEgress⟩ := hFollows hHandled
    exact (DestHashConfig.cutOff_spec hRate (h.arrived hRate hClock hIngress label)
      (hEgress label hLabel)).1
  refine ⟨_, (if_pos hAdmissible).trans (by rw [hStep]; rfl), rfl, ?_, ?_⟩
  · exact h.followed hRate hClock hFollows
  · intro d hMem
    rcases List.mem_append.mp hMem with hOld | hNew
    · exact h.log d hOld
    · exact h.judged hRate hClock hFollows d hNew

/-- A run of the switch alone is one of the switch with its references. -/
theorem Agrees.run (hRate : 0 ≤ cfg.drainRate) {as : List FabricArrival} {w : WatchedHash}
    {s : DestHashSwitch} (h : Agrees cfg w)
    (hGuard : (exactHash cfg).Guarded (fun w a => w.Follows cfg a) w as)
    (hRun : (destHash cfg).run w.switch as = some s) :
    ∃ v, (exactHash cfg).run w as = some v ∧ v.switch = s ∧ Agrees cfg v := by
  induction as generalizing w with
  | nil =>
    cases hRun
    exact ⟨w, rfl, rfl, h⟩
  | cons a as ih =>
    obtain ⟨next, hNext, hRest⟩ := Machine.run_cons_eq_some.mp hRun
    obtain ⟨v, hStep, rfl, hAgrees⟩ := h.step hRate hGuard.1 hNext
    obtain ⟨u, hTail, hSwitch, hLast⟩ := ih hAgrees (hGuard.2 v hStep) hRest
    exact ⟨u, Machine.run_cons_eq_some.mpr ⟨v, hStep, hTail⟩, hSwitch, hLast⟩

end WatchedHash

/-- Along every run whose packets meet the condition, the references can round, by less than a byte at
each update, so that every unbounced grant is bounced exactly if the reference of its port is paused
when it arrives. -/
theorem bounce_follows_reference (cfg : DestHashConfig) (hRate : 0 < cfg.drainRate)
    {as : List FabricArrival} {s : DestHashSwitch}
    (hGuard : (exactHash cfg).Guarded (fun w a => w.Follows cfg a) (exactHash cfg).init as)
    (hRun : (destHash cfg).run (destHash cfg).init as = some s) :
    ∃ es v, es.map Prod.fst = as ∧ (watchedHash cfg).run (watchedHash cfg).init es = some v ∧
      v.switch = s ∧ ∀ d ∈ v.log, d.bounced = d.paused := by
  obtain ⟨v, hExact, hSwitch, hAgrees⟩ :=
    (WatchedHash.agrees_init cfg).run hRate.le hGuard hRun
  obtain ⟨es, hMap, hWatched⟩ := Machine.exists_run_of_choosing hExact
  exact ⟨es, v, hMap, hWatched, hSwitch, hAgrees.log⟩

/-- Two ports at 1 Gbit/s: destination 8 is behind the first one, destination 9 behind the second. -/
def twoPortHash : DestHashConfig where
  enablePpass := true
  pthr := 0
  lineRateGbps := 1
  rho := 1
  xoffBytes := 20000
  xonBytes := 10000
  hash daddr := if daddr = 8 then 0 else if daddr = 9 then 1 else -1
  defaultSlot := -1
  slots := [some 1, some 2]

/-- A grant that comes in by one of the two ports. -/
def grantAt (now : ℚ) (iface daddr credit : Int) : FabricArrival where
  now
  packet := { iface, saddr := 7, daddr, size := 84, msgType := .grant, credit }

/-- Ten microseconds behind a grant that pauses a port, the next one is bounced, rightly. -/
theorem bounce_follows_reference_pause : ∃ es v,
    es.map Prod.fst = [grantAt 1 2 8 1000, grantAt 1 1 9 30000, grantAt (100001 / 100000) 1 9 1000] ∧
      (watchedHash twoPortHash).run (watchedHash twoPortHash).init es = some v ∧
      (v.switch.ports 1).paused = true ∧ ∀ d ∈ v.log, d.bounced = d.paused := by
  have hRun : ((destHash twoPortHash).run (destHash twoPortHash).init
      [grantAt 1 2 8 1000, grantAt 1 1 9 30000, grantAt (100001 / 100000) 1 9 1000]).map
        (fun s => (s.ports 1).paused) = some true := by
    decide +kernel
  obtain ⟨s, hSwitch, hPaused⟩ := Option.map_eq_some_iff.mp hRun
  have hGuard : (exactHash twoPortHash).Guarded (fun w a => w.Follows twoPortHash a)
      (exactHash twoPortHash).init
      [grantAt 1 2 8 1000, grantAt 1 1 9 30000, grantAt (100001 / 100000) 1 9 1000] := by
    decide +kernel
  obtain ⟨es, v, hMap, hWatched, rfl, hLog⟩ :=
    bounce_follows_reference twoPortHash (by decide +kernel) hGuard hSwitch
  exact ⟨es, v, hMap, hWatched, hPaused, hLog⟩

/-- A queue that has had the time to run empty is empty. -/
theorem PPassRef.drain_queue_eq_zero {cfg : DestHashConfig} {r : PPassRef} {rounding now : ℚ}
    (hRounding : rounding < 1) (hTime : r.queue + 1 ≤ cfg.drainRate * (now - r.last)) :
    (r.drain cfg rounding now).queue = 0 := by
  unfold PPassRef.drain
  exact max_eq_left (by linarith)

/-- An empty port is not paused, whatever it was. -/
theorem PPassRef.arrive_paused_of_drained {r : PPassRef} {rounding now : ℚ}
    (hRounding : rounding < 1) (hTime : r.queue + 1 ≤ twoPortHash.drainRate * (now - r.last)) :
    (r.arrive twoPortHash rounding now 0).paused = false := by
  have hEmpty := r.drain_queue_eq_zero hRounding hTime
  have hState : (r.arrive twoPortHash rounding now 0).paused =
      twoPortHash.pausedAt (max 0 ((0 : UInt64).toNat : ℚ)) r.paused := by
    rw [← hEmpty]
    rfl
  have hNever : ∀ paused, twoPortHash.pausedAt (max 0 ((0 : UInt64).toNat : ℚ)) paused = false := by
    decide +kernel
  rw [hState, hNever]

theorem watchedHash_step {cfg : DestHashConfig} {w v : WatchedHash} {a : FabricArrival}
    {ρ : Rounding} (h : (watchedHash cfg).step w (a, ρ) = some v) :
    ρ.Admissible ∧ ∃ s, (destHash cfg).step w.switch a = some s ∧
      v = { switch := s, refs := w.follow cfg a ρ, log := w.log ++ w.judged cfg a ρ } := by
  unfold watchedHash at h
  dsimp only at h
  split at h
  · rename_i hAdmissible
    obtain ⟨s, hStep, rfl⟩ := Option.map_eq_some_iff.mp h
    exact ⟨hAdmissible, s, hStep, rfl⟩
  · cases h

/-- The first grant reserves, in the switch and in the reference. -/
theorem firstGrant_reserves {w : WatchedHash} {ρ : Rounding}
    (h : (watchedHash twoPortHash).step {} (grantAt 1 1 9 30000, ρ) = some w) :
    w.log = [⟨false, false⟩] ∧ w.switch.ports 1 = ⟨30000, 0, true⟩ ∧
      (w.refs 1).queue = 30000 ∧ (w.refs 1).last = 1 := by
  obtain ⟨hAdmissible, s, hStep, rfl⟩ := watchedHash_step h
  have hTime : ({} : PPassRef).queue + 1 ≤
      twoPortHash.drainRate * (1 - ({} : PPassRef).last) := by
    decide +kernel
  have hEmpty := PPassRef.drain_queue_eq_zero hAdmissible.1.2 hTime
  have hPaused := PPassRef.arrive_paused_of_drained hAdmissible.1.2 hTime
  have hPort : ((destHash twoPortHash).step {} (grantAt 1 1 9 30000)).map (fun s => s.ports 1) =
      some ⟨30000, 0, true⟩ := by
    decide +kernel
  rw [hStep] at hPort
  have hHandled : WatchedHash.Handled twoPortHash (grantAt 1 1 9 30000) ∧
      (grantAt 1 1 9 30000).packet.isUnboundedGrant = true := by
    decide
  have hBounced :
      (WatchedHash.ingressOf twoPortHash {} (grantAt 1 1 9 30000)).1 = false := by
    decide +kernel
  have hLabel : WatchedHash.egressLabel twoPortHash {} (grantAt 1 1 9 30000) = some 2 := by
    decide +kernel
  have hRef : WatchedHash.follow twoPortHash {} (grantAt 1 1 9 30000) ρ 1 =
      ({} : PPassRef).ingress twoPortHash ρ.ingress 1 0 (grantAt 1 1 9 30000).packet false := by
    unfold WatchedHash.follow WatchedHash.arrived
    rw [if_pos hHandled.1, hLabel, hBounced]
    rfl
  refine ⟨?_, Option.some.inj hPort, ?_, ?_⟩
  · unfold WatchedHash.judged
    rw [if_pos hHandled, hBounced]
    exact congrArg (fun paused => [Verdict.mk false paused]) hPaused
  · dsimp only
    rw [hRef]
    show (({} : PPassRef).drain twoPortHash ρ.ingress 1).queue + _ = _
    rw [hEmpty]
    decide +kernel
  · dsimp only
    rw [hRef]
    rfl

/-- A second behind the grant that pauses it, the port has had the time to run empty, and bounces. -/
theorem drainedPort_bounces :
    ((destHash twoPortHash).run (destHash twoPortHash).init
      [grantAt 1 1 9 30000, grantAt 2 1 9 1000]).isSome = true ∧
    ∀ es v, es.map Prod.fst = [grantAt 1 1 9 30000, grantAt 2 1 9 1000] →
      (watchedHash twoPortHash).run (watchedHash twoPortHash).init es = some v →
      v.log = [⟨false, false⟩, ⟨true, false⟩] := by
  refine ⟨by decide +kernel, ?_⟩
  intro es v hMap hRun
  obtain ⟨⟨a, ρ⟩, rest, rfl, rfl, hRest⟩ := List.map_eq_cons_iff.mp hMap
  obtain ⟨⟨b, σ⟩, rest, rfl, rfl, hNil⟩ := List.map_eq_cons_iff.mp hRest
  obtain rfl := List.map_eq_nil_iff.mp hNil
  obtain ⟨w, hFirst, hRun⟩ := Machine.run_cons_eq_some.mp hRun
  obtain ⟨u, hSecond, hRun⟩ := Machine.run_cons_eq_some.mp hRun
  obtain rfl := Option.some.inj hRun
  obtain ⟨hLog, hPort, hQueue, hLast⟩ := firstGrant_reserves hFirst
  obtain ⟨hAdmissible, s, hStep, rfl⟩ := watchedHash_step hSecond
  have hPaused := @PPassRef.arrive_paused_of_drained (w.refs 1) σ.ingress 2 hAdmissible.1.2
    (by rw [hQueue, hLast]; decide +kernel)
  have hBounced : (w.ingressOf twoPortHash (grantAt 2 1 9 1000)).1 = true := by
    show (twoPortHash.ppassIngress 0 (grantAt 2 1 9 1000).packet (w.switch.ports 1)).1 = true
    rw [hPort]
    decide +kernel
  have hHandled : WatchedHash.Handled twoPortHash (grantAt 2 1 9 1000) ∧
      (grantAt 2 1 9 1000).packet.isUnboundedGrant = true := by
    decide
  dsimp only
  unfold WatchedHash.judged
  rw [hLog, if_pos hHandled, hBounced]
  exact congrArg (fun paused => [Verdict.mk false false, Verdict.mk true paused]) hPaused

end Dpdq.Ns2
