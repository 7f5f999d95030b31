import Mathlib.Algebra.Group.Nat.Defs
import Mathlib.Algebra.GroupWithZero.Nat
import Mathlib.Data.Nat.ModEq
import Mathlib.Tactic.SplitIfs
import Dpdq.Lib.Machine

/-!
# The CNPs of a DCQCN receiver

The ECN account of a `RdmaRxQueuePair` in `rdma-hw.cc` (`m_cc_mode` 1): what `ReceiveUdp` counts,
`MaybeSendDcqcnCnp`, `HandleDcqcnCnpTimer` and `SendDcqcnCnp`. The clock is in nanoseconds; a packet
cannot arrive after the moment at which the timer is due.

* `dcqcn_cnp_stream`: CNPs keep their distance and carry what has been counted.
* `dcqcn_marks_reported_iff`: the runs in which every mark is reported in time.
-/

namespace Dpdq.Ns3

open Dpdq.Lib

/-- `DCQCN_STANDALONE_CNP_INTERVAL_US` in nanoseconds. -/
def dcqcnStandaloneCnpInterval : Nat := 50 * 1000

/-! ## State -/

/-- `ECNAccount`. -/
structure EcnAccount where
  ecnbits : BitVec 8 := 0
  qfb : BitVec 16 := 0
  total : BitVec 16 := 0
deriving DecidableEq, Repr

/-- A CNP with the time at which it was sent. The queue index has fewer bits in `CnHeader` than in
`ECNAccount`. -/
structure Cnp where
  time : Nat
  fid : BitVec 16
  qIndex : BitVec 8
  account : EcnAccount
deriving DecidableEq, Repr

/-- The receiver of one QP. -/
structure CnpRx where
  dport : BitVec 16
  pg : BitVec 16
  ecnSource : EcnAccount := {}
  qcnPending : Bool := false
  /-- The moment at which `QcnTimerEvent` is due, while it is running. -/
  qcnTimerEvent : Option Nat := none
  now : Nat := 0
  /-- All CNPs sent so far. -/
  cnps : List Cnp := []
  /-- The packets so far, which no code reads. -/
  packets : Nat := 0
  /-- The marked ones of them. -/
  marks : Nat := 0
  /-- When the oldest mark that is not reported arrived. -/
  oldestMark : Nat := 0
deriving DecidableEq, Repr

namespace CnpRx

/-! ## The handlers -/

/-- `SendDcqcnCnp`. -/
def sendDcqcnCnp (q : CnpRx) : CnpRx :=
  if q.ecnSource.ecnbits = 0 ∨ q.ecnSource.total = 0 then q
  else { q with
    cnps := q.cnps ++ [{
      time := q.now, fid := q.dport, qIndex := q.pg.setWidth 8, account := q.ecnSource }]
    ecnSource := {} }

def startTimer (q : CnpRx) : CnpRx :=
  { q with qcnTimerEvent := some (q.now + dcqcnStandaloneCnpInterval) }

/-- `HandleDcqcnCnpTimer`, once the timer is no longer running. -/
def handleDcqcnCnpTimer (q : CnpRx) : CnpRx :=
  if q.qcnPending then { q with qcnPending := false }.sendDcqcnCnp.startTimer else q

def maybeSendDcqcnCnp (q : CnpRx) : CnpRx :=
  if q.qcnTimerEvent.isNone then { q with qcnPending := false }.sendDcqcnCnp.startTimer
  else { q with qcnPending := true }

/-- The account of `ReceiveUdp`. -/
def count (q : CnpRx) (ecnbits : BitVec 8) : CnpRx :=
  let q :=
    if ecnbits ≠ 0 then { q with
      ecnSource := { q.ecnSource with
        ecnbits := q.ecnSource.ecnbits ||| ecnbits
        qfb := q.ecnSource.qfb + 1 }
      marks := q.marks + 1
      oldestMark := if q.ecnSource.ecnbits = 0 then q.now else q.oldestMark }
    else q
  { q with
    ecnSource := { q.ecnSource with total := q.ecnSource.total + 1 }
    packets := q.packets + 1 }

def receiveUdp (q : CnpRx) (ecnbits : BitVec 8) : CnpRx :=
  if ecnbits ≠ 0 then (q.count ecnbits).maybeSendDcqcnCnp else q.count ecnbits

end CnpRx

/-! ## Runs -/

inductive CnpEvent where
  /-- A data packet with these ECN bits arrives at the time `now`. -/
  | data (ecnbits : BitVec 8) (now : Nat)
  | timer
deriving DecidableEq

/-- The clock does not go back, nor past a timer that is due. -/
def CnpRx.MayArrive (q : CnpRx) (now : Nat) : Prop := q.now ≤ now ∧ ∀ t ∈ q.qcnTimerEvent, now ≤ t

instance (q : CnpRx) (now : Nat) : Decidable (q.MayArrive now) :=
  inferInstanceAs (Decidable (_ ∧ _))

def CnpRx.step (q : CnpRx) : CnpEvent → Option CnpRx
  | .data ecnbits now =>
    if q.MayArrive now then some ({ q with now := now }.receiveUdp ecnbits) else none
  | .timer => q.qcnTimerEvent.map fun t =>
    { q with now := t, qcnTimerEvent := none }.handleDcqcnCnpTimer

def dcqcnCnp (dport pg : BitVec 16) : Machine CnpRx CnpEvent where
  init := { dport := dport, pg := pg }
  step := CnpRx.step

namespace CnpRx

/-! ## The stream of CNPs -/

/-- No CNP before this moment. -/
def earliest (q : CnpRx) : Nat := q.qcnTimerEvent.getD q.now

/-- CNPs keep their distance, from each other and from the next one, and carry what was counted. -/
structure Streamed (q : CnpRx) : Prop where
  spaced : q.cnps.Pairwise fun a b => a.time + dcqcnStandaloneCnpInterval ≤ b.time
  ahead : ∀ c ∈ q.cnps, c.time + dcqcnStandaloneCnpInterval ≤ q.earliest
  clock : q.now ≤ q.earliest
  marked : ∀ c ∈ q.cnps, c.account.ecnbits ≠ 0
  qfb : (q.cnps.map fun c => c.account.qfb.toNat).sum + q.ecnSource.qfb.toNat ≡ q.marks
    [MOD 2 ^ 16]
  total : (q.cnps.map fun c => c.account.total.toNat).sum + q.ecnSource.total.toNat ≡ q.packets
    [MOD 2 ^ 16]

theorem toNat_succ_modEq {n m : Nat} {x : BitVec 16} (h : n + x.toNat ≡ m [MOD 2 ^ 16]) :
    n + (x + 1).toNat ≡ m + 1 [MOD 2 ^ 16] := by
  have hNext : (x + 1).toNat = (x.toNat + 1) % 2 ^ 16 := by
    have hOne : (1 : BitVec 16).toNat = 1 := by decide
    rw [BitVec.toNat_add, hOne]
  rw [hNext, Nat.ModEq, Nat.add_mod_mod, ← Nat.add_assoc]
  exact h.add_right 1

theorem earliest_startTimer (q : CnpRx) :
    q.startTimer.earliest = q.now + dcqcnStandaloneCnpInterval := rfl

theorem Streamed.startTimer {q : CnpRx} (h : q.Streamed)
    (hAhead : ∀ c ∈ q.cnps, c.time ≤ q.now) : q.startTimer.Streamed := by
  refine { h with ahead := ?_, clock := ?_ }
  · intro c hc
    rw [earliest_startTimer]
    exact Nat.add_le_add_right (hAhead c hc) _
  · rw [earliest_startTimer]
    exact Nat.le_add_right _ _

/-- What a CNP that is sent at the earliest moment does to the stream. -/
theorem Streamed.sendDcqcnCnp {q : CnpRx} (h : q.Streamed) (hNow : q.earliest = q.now) :
    q.sendDcqcnCnp.startTimer.Streamed := by
  have hAhead (c : Cnp) (hc : c ∈ q.cnps) :
      c.time + dcqcnStandaloneCnpInterval ≤ q.now := hNow ▸ h.ahead c hc
  unfold CnpRx.sendDcqcnCnp
  split
  · exact h.startTimer fun c hc => (Nat.le_add_right _ _).trans (hAhead c hc)
  · rename_i hSend
    refine ⟨?_, ?_, ?_, ?_, ?_, ?_⟩
    · refine List.pairwise_append.mpr ⟨h.spaced, List.pairwise_singleton _ _, ?_⟩
      intro a ha b hb
      rw [List.mem_singleton.mp hb]
      exact hAhead a ha
    · intro c hc
      rw [earliest_startTimer]
      rcases List.mem_append.mp hc with hOld | hNew
      · exact (hAhead c hOld).trans (Nat.le_add_right _ _)
      · rw [List.mem_singleton.mp hNew]
    · rw [earliest_startTimer]
      exact Nat.le_add_right _ _
    · intro c hc
      rcases List.mem_append.mp hc with hOld | hNew
      · exact h.marked c hOld
      · rw [List.mem_singleton.mp hNew]
        exact fun hZero => hSend (Or.inl hZero)
    · show (List.map _ (q.cnps ++ [_])).sum + 0 ≡ q.marks [MOD 2 ^ 16]
      rw [List.map_append, List.sum_append]
      simpa using h.qfb
    · show (List.map _ (q.cnps ++ [_])).sum + 0 ≡ q.packets [MOD 2 ^ 16]
      rw [List.map_append, List.sum_append]
      simpa using h.total

theorem Streamed.count {q : CnpRx} (h : q.Streamed) (ecnbits : BitVec 8) :
    (q.count ecnbits).Streamed := by
  unfold CnpRx.count
  dsimp only
  split
  · exact { h with qfb := toNat_succ_modEq h.qfb, total := toNat_succ_modEq h.total }
  · exact { h with total := toNat_succ_modEq h.total }

theorem count_timer (q : CnpRx) (ecnbits : BitVec 8) :
    (q.count ecnbits).qcnTimerEvent = q.qcnTimerEvent ∧ (q.count ecnbits).now = q.now := by
  unfold count
  dsimp only
  split
  · exact ⟨rfl, rfl⟩
  · exact ⟨rfl, rfl⟩

theorem Streamed.maybeSendDcqcnCnp {q : CnpRx} (h : q.Streamed) : q.maybeSendDcqcnCnp.Streamed := by
  unfold CnpRx.maybeSendDcqcnCnp
  split
  · rename_i hIdle
    have hNow : q.earliest = q.now := by
      unfold earliest
      rw [Option.isNone_iff_eq_none.mp hIdle]
      rfl
    have hQuiet : ({ q with qcnPending := false } : CnpRx).Streamed := { h with }
    exact hQuiet.sendDcqcnCnp hNow
  · exact { h with }

theorem Streamed.step {q t : CnpRx} {e : CnpEvent} (h : q.Streamed) (hStep : q.step e = some t) :
    t.Streamed := by
  cases e with
  | data ecnbits now =>
    obtain ⟨hMay, rfl⟩ := Machine.of_guarded hStep
    have hEarliest : q.earliest ≤ ({ q with now := now } : CnpRx).earliest ∧
        now ≤ ({ q with now := now } : CnpRx).earliest := by
      unfold earliest
      cases hTimer : q.qcnTimerEvent with
      | none => exact ⟨hMay.1, Nat.le_refl _⟩
      | some t => exact ⟨Nat.le_refl _, hMay.2 t hTimer⟩
    have hMoved : ({ q with now := now } : CnpRx).Streamed := { h with
      ahead := fun c hc => (h.ahead c hc).trans hEarliest.1
      clock := hEarliest.2 }
    unfold receiveUdp
    split
    · exact (hMoved.count ecnbits).maybeSendDcqcnCnp
    · exact hMoved.count ecnbits
  | timer =>
    obtain ⟨due, hDue, rfl⟩ := Option.map_eq_some_iff.mp hStep
    have hEarliest : q.earliest = due := by
      unfold earliest
      rw [hDue]
      rfl
    have hFired : ({ q with now := due, qcnTimerEvent := none } : CnpRx).Streamed := { h with
      ahead := fun c hc => hEarliest ▸ h.ahead c hc
      clock := Nat.le_refl _ }
    unfold handleDcqcnCnpTimer
    split
    · have hQuiet : ({ q with now := due, qcnTimerEvent := none, qcnPending := false } :
          CnpRx).Streamed := { hFired with }
      exact hQuiet.sendDcqcnCnp rfl
    · exact hFired

end CnpRx

/-- In every run, the CNPs of a QP are at least 50 µs apart, each of them carries a mark, and their
counters add up to the packets and marks that have arrived, modulo the 16 bits of the fields. -/
theorem dcqcn_cnp_stream {dport pg : BitVec 16} {q : CnpRx} (h : (dcqcnCnp dport pg).Reachable q) :
    (q.cnps.Pairwise fun a b => a.time + dcqcnStandaloneCnpInterval ≤ b.time) ∧
      (∀ c ∈ q.cnps, c.account.ecnbits ≠ 0) ∧
      (q.cnps.map fun c => c.account.qfb.toNat).sum + q.ecnSource.qfb.toNat ≡ q.marks
        [MOD 2 ^ 16] ∧
      (q.cnps.map fun c => c.account.total.toNat).sum + q.ecnSource.total.toNat ≡ q.packets
        [MOD 2 ^ 16] := by
  have hInit : (dcqcnCnp dport pg).init.Streamed := {
    spaced := List.Pairwise.nil
    ahead := fun _ hIn => absurd hIn List.not_mem_nil
    clock := Nat.le_refl _
    marked := fun _ hIn => absurd hIn List.not_mem_nil
    qfb := rfl
    total := rfl }
  have hStreamed : q.Streamed :=
    Machine.reachable_induction (I := CnpRx.Streamed) hInit (fun _ _ _ hs hNext => hs.step hNext) h
  exact ⟨hStreamed.spaced, hStreamed.marked, hStreamed.qfb, hStreamed.total⟩

/-! ## Reported marks -/

namespace CnpRx

/-- A mark that is not reported yet waits for the timer, which is due within the interval. -/
def Reported (q : CnpRx) : Prop :=
  q.ecnSource.ecnbits ≠ 0 → q.qcnPending = true ∧ ∃ t ∈ q.qcnTimerEvent,
    t ≤ q.oldestMark + dcqcnStandaloneCnpInterval

/-- A CNP is due only while the 16-bit count of the packets since the last one is not 0. -/
def CountsOn (q : CnpRx) : CnpEvent → Prop
  | .data ecnbits _ => ecnbits = 0 ∨ q.qcnTimerEvent ≠ none ∨ q.ecnSource.total + 1 ≠ 0
  | .timer => q.ecnSource.ecnbits = 0 ∨ q.ecnSource.total ≠ 0

instance (q : CnpRx) (e : CnpEvent) : Decidable (q.CountsOn e) := by
  cases e with
  | data ecnbits now => exact inferInstanceAs (Decidable (_ ∨ _ ∨ _))
  | timer => exact inferInstanceAs (Decidable (_ ∨ _))

/-- The timer is due within the interval, and nothing waits without it. -/
structure Timed (q : CnpRx) : Prop where
  due : ∀ t ∈ q.qcnTimerEvent, t ≤ q.now + dcqcnStandaloneCnpInterval
  idle : q.qcnTimerEvent = none → q.qcnPending = false

theorem timed_started (q : CnpRx) : q.sendDcqcnCnp.startTimer.Timed where
  due _ ht := (Option.some.inj ht).ge
  idle hNone := absurd hNone (Option.some_ne_none _)

/-- What is left after an attempt to send. -/
theorem reported_started_iff (q : CnpRx) :
    ({ q with qcnPending := false } : CnpRx).sendDcqcnCnp.startTimer.Reported ↔
      q.ecnSource.ecnbits = 0 ∨ q.ecnSource.total ≠ 0 := by
  unfold sendDcqcnCnp Reported
  split
  · rename_i hKept
    constructor
    · intro h
      by_contra hBoth
      obtain ⟨hMarked, -⟩ := not_or.mp hBoth
      exact Bool.false_ne_true (h hMarked).1
    · rintro (hClear | hTotal) hMarked
      · exact absurd hClear hMarked
      · exact absurd (hKept.resolve_right hTotal) hMarked
  · rename_i hSent
    constructor
    · intro _
      exact Or.inr (not_or.mp hSent).2
    · intro _ hMarked
      exact absurd rfl hMarked

theorem Timed.step {q t : CnpRx} {e : CnpEvent} (h : q.Timed) (hStep : q.step e = some t) :
    t.Timed := by
  cases e with
  | data ecnbits now =>
    obtain ⟨hMay, rfl⟩ := Machine.of_guarded hStep
    have hMoved : ({ q with now := now } : CnpRx).Timed :=
      ⟨fun t ht => (h.due t ht).trans (Nat.add_le_add_right hMay.1 _), h.idle⟩
    have hCounted : (({ q with now := now } : CnpRx).count ecnbits).Timed := by
      unfold count
      dsimp only
      split
      · exact ⟨hMoved.due, hMoved.idle⟩
      · exact ⟨hMoved.due, hMoved.idle⟩
    unfold receiveUdp
    split
    · unfold maybeSendDcqcnCnp
      split
      · exact timed_started _
      · rename_i hBusy
        exact ⟨hCounted.due, fun hNone => absurd (Option.isNone_iff_eq_none.mpr hNone) hBusy⟩
    · exact hCounted
  | timer =>
    obtain ⟨due, -, rfl⟩ := Option.map_eq_some_iff.mp hStep
    unfold handleDcqcnCnpTimer
    split
    · exact timed_started _
    · rename_i hQuiet
      exact ⟨fun t ht => absurd ht.symm (Option.some_ne_none t),
        fun _ => Bool.not_eq_true _ ▸ hQuiet⟩

theorem or_ne_zero {x y : BitVec 8} (h : y ≠ 0) : x ||| y ≠ 0 := by
  intro hZero
  exact h (BitVec.or_eq_zero_iff.mp hZero).2

theorem maybeSendDcqcnCnp_idle {q : CnpRx} (h : q.qcnTimerEvent = none) :
    q.maybeSendDcqcnCnp = ({ q with qcnPending := false } : CnpRx).sendDcqcnCnp.startTimer :=
  if_pos (by rw [h]; rfl)

theorem maybeSendDcqcnCnp_busy {q : CnpRx} {t : Nat} (h : q.qcnTimerEvent = some t) :
    q.maybeSendDcqcnCnp = { q with qcnPending := true } :=
  if_neg (by rw [h]; exact Bool.false_ne_true)

theorem count_marked (q : CnpRx) {ecnbits : BitVec 8} (h : ecnbits ≠ 0) :
    (q.count ecnbits).ecnSource.ecnbits ≠ 0 ∧
      (q.count ecnbits).ecnSource.total = q.ecnSource.total + 1 ∧
      (q.count ecnbits).oldestMark = if q.ecnSource.ecnbits = 0 then q.now else q.oldestMark := by
  unfold count
  rw [if_pos h]
  exact ⟨or_ne_zero h, rfl, rfl⟩

theorem count_unmarked (q : CnpRx) : (q.count 0).ecnSource.ecnbits = q.ecnSource.ecnbits ∧
    (q.count 0).oldestMark = q.oldestMark ∧ (q.count 0).qcnPending = q.qcnPending ∧
    (q.count 0).qcnTimerEvent = q.qcnTimerEvent := by
  unfold count
  rw [if_neg (not_not.mpr rfl)]
  exact ⟨rfl, rfl, rfl, rfl⟩

/-- A step keeps every mark reported exactly if the count does not stand at 0 when a CNP is due. -/
theorem reported_step_iff {q t : CnpRx} {e : CnpEvent} (hTimed : q.Timed) (h : q.Reported)
    (hStep : q.step e = some t) : t.Reported ↔ q.CountsOn e := by
  cases e with
  | data ecnbits now =>
    obtain ⟨hMay, rfl⟩ := Machine.of_guarded hStep
    show _ ↔ ecnbits = 0 ∨ q.qcnTimerEvent ≠ none ∨ q.ecnSource.total + 1 ≠ 0
    generalize hMoved : ({ q with now := now } : CnpRx) = p
    have hAccount : p.ecnSource = q.ecnSource := by rw [← hMoved]
    have hTimer : p.qcnTimerEvent = q.qcnTimerEvent := by rw [← hMoved]
    have hOldest : p.oldestMark = q.oldestMark := by rw [← hMoved]
    have hNow : p.now = now := by rw [← hMoved]
    unfold receiveUdp
    by_cases hMark : ecnbits = 0
    · rw [if_neg (not_not.mpr hMark), hMark]
      refine iff_of_true ?_ (Or.inl rfl)
      obtain ⟨hBits, hOld, hPending, hDue⟩ := count_unmarked p
      intro hMarked
      rw [hBits, hAccount] at hMarked
      rw [hOld, hPending, hDue, hOldest, hTimer, ← hMoved]
      exact h hMarked
    · obtain ⟨hAfter, hTotal, hOld⟩ := count_marked p hMark
      rw [if_pos hMark, or_iff_right hMark]
      cases hBusy : q.qcnTimerEvent with
      | none =>
        have hIdle : (p.count ecnbits).qcnTimerEvent = none := by
          rw [(count_timer p ecnbits).1, hTimer, hBusy]
        rw [maybeSendDcqcnCnp_idle hIdle, reported_started_iff, or_iff_right hAfter,
          or_iff_right (not_not.mpr rfl), hTotal, hAccount]
      | some due =>
        have hRunning : (p.count ecnbits).qcnTimerEvent = some due := by
          rw [(count_timer p ecnbits).1, hTimer, hBusy]
        rw [maybeSendDcqcnCnp_busy hRunning]
        refine iff_of_true ?_ (Or.inl (Option.some_ne_none due))
        intro _
        refine ⟨rfl, due, hRunning, ?_⟩
        dsimp only
        rw [hOld, hAccount]
        split
        · rw [hNow]
          exact (hTimed.due due hBusy).trans (Nat.add_le_add_right hMay.1 _)
        · rename_i hMarked
          obtain ⟨-, other, hOther, hLe⟩ := h hMarked
          rw [hBusy] at hOther
          rw [hOldest, Option.some.inj hOther]
          exact hLe
  | timer =>
    obtain ⟨due, hDue, rfl⟩ := Option.map_eq_some_iff.mp hStep
    show _ ↔ q.ecnSource.ecnbits = 0 ∨ q.ecnSource.total ≠ 0
    unfold handleDcqcnCnpTimer
    split
    · rw [reported_started_iff]
    · rename_i hQuiet
      -- Nothing is pending, so nothing was marked.
      have hClear : q.ecnSource.ecnbits = 0 := by
        by_contra hMarked
        exact hQuiet (h hMarked).1
      exact iff_of_true (fun hMarked => absurd hClear hMarked) (Or.inl hClear)

end CnpRx

/-- The runs in which every mark is reported within 50 µs, or waits for a timer that is due by then:
those in which no CNP is due when the number of packets since the last CNP is a multiple of
2^16. -/
theorem dcqcn_marks_reported_iff (dport pg : BitVec 16) (es : List CnpEvent)
    (hRun : ((dcqcnCnp dport pg).run (dcqcnCnp dport pg).init es).isSome) :
    (dcqcnCnp dport pg).Throughout CnpRx.Reported (dcqcnCnp dport pg).init es ↔
      (dcqcnCnp dport pg).Guarded CnpRx.CountsOn (dcqcnCnp dport pg).init es :=
  Machine.throughout_iff_guarded (C := fun _ _ => True) (J := CnpRx.Timed)
    (fun _ _ _ hTimed _ hNext => hTimed.step hNext)
    (fun _ _ _ hTimed hReported _ hNext => CnpRx.reported_step_iff hTimed hReported hNext)
    ⟨fun t ht => absurd ht.symm (Option.some_ne_none t), fun _ => rfl⟩
    (fun hMarked => absurd rfl hMarked) (Machine.guarded_true _ _ _) hRun

/-- Three marks: the first is reported at once, the other two together when the timer fires. -/
def cnpSampleRun : List CnpEvent := [.data 3 10, .data 0 20, .data 3 30, .data 3 40, .timer, .timer]

theorem dcqcn_marks_reported_iff_sample :
    (dcqcnCnp 7 3).Throughout CnpRx.Reported (dcqcnCnp 7 3).init cnpSampleRun :=
  (dcqcn_marks_reported_iff 7 3 cnpSampleRun (by decide)).mpr (by decide)

theorem dcqcn_cnp_stream_sample :
    ∃ q, (dcqcnCnp 7 3).run (dcqcnCnp 7 3).init cnpSampleRun = some q ∧ q.cnps.length = 2 ∧
      q.cnps.Pairwise fun a b => a.time + dcqcnStandaloneCnpInterval ≤ b.time := by
  have hRun : ((dcqcnCnp 7 3).run (dcqcnCnp 7 3).init cnpSampleRun).map
      (fun q => decide (q.cnps.length = 2)) = some true := by
    decide +kernel
  obtain ⟨q, hq, hTwo⟩ := Option.map_eq_some_iff.mp hRun
  exact ⟨q, hq, of_decide_eq_true hTwo, (dcqcn_cnp_stream ⟨_, hq⟩).1⟩

end Dpdq.Ns3
