import Mathlib.Algebra.Order.Field.Basic
import Mathlib.Data.Nat.Cast.Order.Field
import Mathlib.Tactic.Linarith
import Dpdq.Lib.Machine
import Dpdq.Lib.Rounds
import Dpdq.Ns3.DcqcnRate

/-!
# The rate of a DCTCP sender

`HandleAckDctcp` of `rdma-hw.cc` (`m_cc_mode` 8) on the marks that acknowledgements echo. The doubles
of the source are rationals here, and a cast to an integer rounds down.

* `dctcp_rate_bounds`: the share of marks stays a share, the rate stays between the minimum and the
  rate of the device, and no acknowledgement takes more than half of it, up to rounding.
* `dctcp_once_per_round`: it goes up at most once for each batch and down at most once for each cut.
  A batch, and a cut after another one, take an acknowledgement beyond the `snd_nxt` of the last one;
  of all earlier ones if `snd_nxt` is never behind what was acknowledged.
-/

namespace Dpdq.Ns3

open Dpdq.Lib

structure DctcpConfig where
  minRate : Nat
  maxRate : Nat
  rai : Nat
  g : ℚ
  mtu : Nat

/-- `m_rate` and the struct `dctcp` of a QP. `cwr` is `m_caState`. -/
structure Dctcp where
  rate : Nat
  lastUpdateSeq : Nat := 0
  cwr : Bool := false
  highSeq : Nat := 0
  alpha : ℚ := 1
  ecnCnt : Nat := 0
  batchSizeOfAlpha : Nat := 0

namespace Dctcp

variable (cfg : DctcpConfig)

/-- `min(1.0, …)`, which is 1.0 also for a quotient by zero. -/
def share (ecnCnt batchSize : Nat) : ℚ :=
  if batchSize = 0 then 1 else min 1 ((ecnCnt : ℚ) / batchSize)

/-- Full RTT feedback is ready. -/
def newBatch (ackSeq : Nat) (q : Dctcp) : Bool := ackSeq > q.lastUpdateSeq

/-- The update of alpha, with the count of the mark. -/
def updateAlpha (ackSeq : Nat) (cnp : Bool) (sndNxt : Nat) (q : Dctcp) : Dctcp :=
  let ecnCnt := addU32 q.ecnCnt cnp.toNat
  if q.newBatch ackSeq then
    if q.lastUpdateSeq = 0 then
      { q with
        ecnCnt
        lastUpdateSeq := sndNxt % 2 ^ 32
        batchSizeOfAlpha := (sndNxt / cfg.mtu + 1) % 2 ^ 32 }
    else
      { q with
        alpha := (1 - cfg.g) * q.alpha + cfg.g * share ecnCnt q.batchSizeOfAlpha
        lastUpdateSeq := sndNxt % 2 ^ 32
        ecnCnt := 0
        batchSizeOfAlpha := ((sndNxt + 2 ^ 64 - ackSeq) % 2 ^ 64 / cfg.mtu + 1) % 2 ^ 32 }
  else { q with ecnCnt }

/-- The exit from CWR. -/
def checkExit (ackSeq : Nat) (q : Dctcp) : Dctcp :=
  if q.cwr && ackSeq > q.highSeq then { q with cwr := false } else q

/-- The cut of the rate. -/
def reduce (cnp : Bool) (sndNxt : Nat) (q : Dctcp) : Dctcp :=
  if cnp && !q.cwr then
    { q with
      rate := max cfg.minRate (truncate (q.rate * (1 - q.alpha / 2)))
      cwr := true
      highSeq := sndNxt % 2 ^ 32 }
  else q

/-- The additive increase. -/
def raise (newBatch : Bool) (q : Dctcp) : Dctcp :=
  if !q.cwr && newBatch then { q with rate := min cfg.maxRate (addU64 q.rate cfg.rai) } else q

def handleAckDctcp (ackSeq : Nat) (cnp : Bool) (sndNxt : Nat) (q : Dctcp) : Dctcp :=
  let next := (q.updateAlpha cfg ackSeq cnp sndNxt).checkExit ackSeq
  (next.reduce cfg cnp sndNxt).raise cfg (q.newBatch ackSeq)

end Dctcp

/-- An acknowledgement with the mark that it echoes, and `snd_nxt` when it is handled. -/
structure DctcpAck where
  ackSeq : BitVec 32
  cnp : Bool
  sndNxt : Nat

/-- A QP with its batches and its cuts. A cut comes with the acknowledgement that ended the CWR
state before it. -/
structure DctcpRun where
  qp : Dctcp
  /-- The highest acknowledgement so far. -/
  acked : Nat
  /-- The acknowledgement that ended the last CWR state. -/
  left : Nat
  batches : List Reaction
  cuts : List Reaction

namespace DctcpRun

variable (cfg : DctcpConfig)

def handleAck (s : DctcpRun) (e : DctcpAck) : DctcpRun :=
  let ackSeq := e.ackSeq.toNat
  let nextSeq := e.sndNxt % 2 ^ 32
  let left := if s.qp.cwr && ackSeq > s.qp.highSeq then ackSeq else s.left
  let free := !s.qp.cwr || ackSeq > s.qp.highSeq
  { qp := s.qp.handleAckDctcp cfg ackSeq e.cnp e.sndNxt
    acked := max s.acked ackSeq
    left
    batches := if s.qp.newBatch ackSeq then s.batches ++ [⟨ackSeq, nextSeq⟩] else s.batches
    cuts := if e.cnp && free then s.cuts ++ [⟨left, nextSeq⟩] else s.cuts }

end DctcpRun

/-- `AddQueuePair` starts a QP at the rate of the device. -/
def dctcp (cfg : DctcpConfig) : Machine DctcpRun DctcpAck where
  init := ⟨{ rate := cfg.maxRate }, 0, 0, [], []⟩
  step s e := some (s.handleAck cfg e)

/-! ## Bounds -/

/-- Attributes that make sense. -/
structure DctcpConfig.Sensible (cfg : DctcpConfig) : Prop where
  g_nonneg : 0 ≤ cfg.g
  g_le_one : cfg.g ≤ 1
  minRate_le : cfg.minRate ≤ cfg.maxRate
  rai_fits : cfg.maxRate + cfg.rai < 2 ^ 64

namespace Dctcp

variable {cfg : DctcpConfig}

theorem share_nonneg (ecnCnt batchSize : Nat) : 0 ≤ share ecnCnt batchSize := by
  unfold share
  split
  · exact zero_le_one
  · exact le_min zero_le_one (div_nonneg (Nat.cast_nonneg _) (Nat.cast_nonneg _))

theorem share_le_one (ecnCnt batchSize : Nat) : share ecnCnt batchSize ≤ 1 := by
  unfold share
  split
  · exact le_refl _
  · exact min_le_left _ _

theorem updateAlpha_fields (cfg : DctcpConfig) (q : Dctcp) (ackSeq : Nat) (cnp : Bool)
    (sndNxt : Nat) :
    (q.updateAlpha cfg ackSeq cnp sndNxt).rate = q.rate ∧
      (q.updateAlpha cfg ackSeq cnp sndNxt).cwr = q.cwr ∧
      (q.updateAlpha cfg ackSeq cnp sndNxt).highSeq = q.highSeq ∧
      (q.updateAlpha cfg ackSeq cnp sndNxt).lastUpdateSeq =
        if q.newBatch ackSeq then sndNxt % 2 ^ 32 else q.lastUpdateSeq := by
  unfold Dctcp.updateAlpha
  dsimp only
  split
  · split
    · exact ⟨rfl, rfl, rfl, rfl⟩
    · exact ⟨rfl, rfl, rfl, rfl⟩
  · exact ⟨rfl, rfl, rfl, rfl⟩

theorem checkExit_fields (q : Dctcp) (ackSeq : Nat) :
    (q.checkExit ackSeq).rate = q.rate ∧ (q.checkExit ackSeq).highSeq = q.highSeq ∧
      (q.checkExit ackSeq).lastUpdateSeq = q.lastUpdateSeq ∧
      (q.checkExit ackSeq).cwr = (q.cwr && !decide (ackSeq > q.highSeq)) := by
  unfold Dctcp.checkExit
  cases hCwr : q.cwr with
  | false => exact ⟨rfl, rfl, rfl, hCwr⟩
  | true =>
    cases hExit : decide (ackSeq > q.highSeq) with
    | false => exact ⟨rfl, rfl, rfl, hCwr⟩
    | true => exact ⟨rfl, rfl, rfl, rfl⟩

/-- What holds of a QP in every run. -/
structure Bounded (cfg : DctcpConfig) (q : Dctcp) : Prop where
  ge : cfg.minRate ≤ q.rate
  le : q.rate ≤ cfg.maxRate
  alpha_nonneg : 0 ≤ q.alpha
  alpha_le_one : q.alpha ≤ 1

theorem Bounded.updateAlpha {q : Dctcp} (h : q.Bounded cfg) (hCfg : cfg.Sensible) (ackSeq : Nat)
    (cnp : Bool) (sndNxt : Nat) : (q.updateAlpha cfg ackSeq cnp sndNxt).Bounded cfg := by
  have hGain := hCfg.g_nonneg
  have hRest := sub_nonneg.mpr hCfg.g_le_one
  have hNonneg := h.alpha_nonneg
  have hOne := h.alpha_le_one
  unfold Dctcp.updateAlpha
  dsimp only
  split
  · split
    · exact { h with }
    · have hShare := share_nonneg (addU32 q.ecnCnt cnp.toNat) q.batchSizeOfAlpha
      have hShareLe := share_le_one (addU32 q.ecnCnt cnp.toNat) q.batchSizeOfAlpha
      have hOld : 0 ≤ (1 - cfg.g) * q.alpha := mul_nonneg hRest hNonneg
      have hOldLe : (1 - cfg.g) * q.alpha ≤ 1 - cfg.g := mul_le_of_le_one_right hRest hOne
      have hNew := mul_nonneg hGain hShare
      have hNewLe := mul_le_of_le_one_right hGain hShareLe
      refine { h with alpha_nonneg := ?_, alpha_le_one := ?_ }
      · dsimp only
        linarith
      · dsimp only
        linarith
  · exact { h with }

theorem Bounded.checkExit {q : Dctcp} (h : q.Bounded cfg) (ackSeq : Nat) :
    (q.checkExit ackSeq).Bounded cfg := by
  unfold Dctcp.checkExit
  split
  · exact { h with }
  · exact h

/-- What a cut leaves: a half at least. -/
theorem truncate_cut {q : Dctcp} (h : q.Bounded cfg) :
    truncate (q.rate * (1 - q.alpha / 2)) ≤ q.rate ∧
      q.rate ≤ 2 * truncate (q.rate * (1 - q.alpha / 2)) + 1 := by
  have hNonneg := h.alpha_nonneg
  have hOne := h.alpha_le_one
  have hRate : (0 : ℚ) ≤ q.rate := Nat.cast_nonneg _
  constructor
  · exact truncate_le (mul_le_of_le_one_right hRate (by linarith))
  · have hHalf : ((q.rate / 2 : Nat) : ℚ) ≤ q.rate * (1 - q.alpha / 2) := by
      have hDiv : ((q.rate / 2 : Nat) : ℚ) ≤ q.rate / 2 := Nat.cast_div_le
      have hProduct : (q.rate : ℚ) * (1 / 2) ≤ q.rate * (1 - q.alpha / 2) :=
        mul_le_mul_of_nonneg_left (by linarith) hRate
      linarith
    have hKept := le_truncate hHalf
    omega

theorem Bounded.reduce {q : Dctcp} (h : q.Bounded cfg) (hCfg : cfg.Sensible) (cnp : Bool)
    (sndNxt : Nat) : (q.reduce cfg cnp sndNxt).Bounded cfg := by
  unfold Dctcp.reduce
  split
  · exact { h with
      ge := le_max_left _ _
      le := max_le hCfg.minRate_le ((truncate_cut h).1.trans h.le) }
  · exact h

theorem rate_reduce {q : Dctcp} (h : q.Bounded cfg) (cnp : Bool) (sndNxt : Nat) :
    q.rate ≤ 2 * (q.reduce cfg cnp sndNxt).rate + 1 := by
  unfold Dctcp.reduce
  split
  · have hHalf := (truncate_cut h).2
    dsimp only
    omega
  · omega

theorem raise_eq {q : Dctcp} (h : q.Bounded cfg) (hCfg : cfg.Sensible) (newBatch : Bool) :
    (q.raise cfg newBatch).rate =
      if !q.cwr && newBatch then min cfg.maxRate (q.rate + cfg.rai) else q.rate := by
  have hFits : q.rate + cfg.rai < 2 ^ 64 := by
    have hLe := h.le
    have hRai := hCfg.rai_fits
    omega
  unfold Dctcp.raise
  rw [addU64_of_lt hFits]
  split
  · rfl
  · rfl

theorem Bounded.raise {q : Dctcp} (h : q.Bounded cfg) (hCfg : cfg.Sensible) (newBatch : Bool) :
    (q.raise cfg newBatch).Bounded cfg := by
  have hGe := h.ge
  have hLe := h.le
  have hMin := hCfg.minRate_le
  have hRate := raise_eq h hCfg newBatch
  have hAlpha : (q.raise cfg newBatch).alpha = q.alpha := by
    unfold Dctcp.raise
    split <;> rfl
  refine ⟨?_, ?_, ?_, ?_⟩
  · rw [hRate]
    split
    · omega
    · exact hGe
  · rw [hRate]
    split
    · exact min_le_left _ _
    · exact hLe
  · rw [hAlpha]
    exact h.alpha_nonneg
  · rw [hAlpha]
    exact h.alpha_le_one

theorem Bounded.handleAckDctcp {q : Dctcp} (h : q.Bounded cfg) (hCfg : cfg.Sensible)
    (ackSeq : Nat) (cnp : Bool) (sndNxt : Nat) :
    (q.handleAckDctcp cfg ackSeq cnp sndNxt).Bounded cfg :=
  (((h.updateAlpha hCfg ackSeq cnp sndNxt).checkExit ackSeq).reduce hCfg cnp sndNxt).raise hCfg _

theorem rate_handleAckDctcp {q : Dctcp} (h : q.Bounded cfg) (hCfg : cfg.Sensible) (ackSeq : Nat)
    (cnp : Bool) (sndNxt : Nat) :
    q.rate ≤ 2 * (q.handleAckDctcp cfg ackSeq cnp sndNxt).rate + 1 := by
  have hNext := (h.updateAlpha hCfg ackSeq cnp sndNxt).checkExit ackSeq
  have hSame : ((q.updateAlpha cfg ackSeq cnp sndNxt).checkExit ackSeq).rate = q.rate :=
    (checkExit_fields _ _).1.trans (updateAlpha_fields cfg q ackSeq cnp sndNxt).1
  have hCut := rate_reduce hNext cnp sndNxt
  have hReduced := hNext.reduce hCfg cnp sndNxt
  have hRaised : (((q.updateAlpha cfg ackSeq cnp sndNxt).checkExit ackSeq).reduce cfg cnp
      sndNxt).rate ≤ (q.handleAckDctcp cfg ackSeq cnp sndNxt).rate := by
    have hLe := hReduced.le
    rw [handleAckDctcp, raise_eq hReduced hCfg]
    split
    · omega
    · exact Nat.le_refl _
  rw [hSame] at hCut
  omega

/-! ## What one acknowledgement does -/

/-- Still in CWR after the check of the exit. -/
def stays (ackSeq : Nat) (q : Dctcp) : Bool := q.cwr && !decide (ackSeq > q.highSeq)

theorem handleAckDctcp_fields (cfg : DctcpConfig) (q : Dctcp) (ackSeq : Nat) (cnp : Bool)
    (sndNxt : Nat) :
    (q.handleAckDctcp cfg ackSeq cnp sndNxt).cwr = (cnp || q.stays ackSeq) ∧
      (q.handleAckDctcp cfg ackSeq cnp sndNxt).highSeq =
        (if cnp && !q.stays ackSeq then sndNxt % 2 ^ 32 else q.highSeq) ∧
      (q.handleAckDctcp cfg ackSeq cnp sndNxt).lastUpdateSeq =
        if q.newBatch ackSeq then sndNxt % 2 ^ 32 else q.lastUpdateSeq := by
  obtain ⟨-, hCwr, hHigh, hLast⟩ := updateAlpha_fields cfg q ackSeq cnp sndNxt
  obtain ⟨-, hHigh', hLast', hStays⟩ :=
    checkExit_fields (q.updateAlpha cfg ackSeq cnp sndNxt) ackSeq
  rw [hCwr, hHigh] at hStays
  rw [hHigh] at hHigh'
  rw [hLast] at hLast'
  unfold handleAckDctcp
  dsimp only
  generalize (q.updateAlpha cfg ackSeq cnp sndNxt).checkExit ackSeq = next at hHigh' hLast' hStays ⊢
  have hRaise (r : Dctcp) : (r.raise cfg (q.newBatch ackSeq)).cwr = r.cwr ∧
      (r.raise cfg (q.newBatch ackSeq)).highSeq = r.highSeq ∧
      (r.raise cfg (q.newBatch ackSeq)).lastUpdateSeq = r.lastUpdateSeq := by
    unfold Dctcp.raise
    split
    · exact ⟨rfl, rfl, rfl⟩
    · exact ⟨rfl, rfl, rfl⟩
  obtain ⟨hSame, hSame', hSame''⟩ := hRaise (next.reduce cfg cnp sndNxt)
  rw [hSame, hSame', hSame'']
  change next.cwr = q.stays ackSeq at hStays
  unfold Dctcp.reduce
  rw [hStays]
  cases cnp with
  | false => exact ⟨hStays, hHigh', hLast'⟩
  | true =>
    cases hCut : q.stays ackSeq with
    | false => exact ⟨rfl, rfl, hLast'⟩
    | true => exact ⟨hStays.trans hCut, hHigh', hLast'⟩

/-- The rate goes up only with a new batch, and down only with a cut. -/
theorem rate_cases {q : Dctcp} (h : q.Bounded cfg) (hCfg : cfg.Sensible) (ackSeq : Nat)
    (cnp : Bool) (sndNxt : Nat) :
    (q.newBatch ackSeq = false → (q.handleAckDctcp cfg ackSeq cnp sndNxt).rate ≤ q.rate) ∧
      ((cnp && !q.stays ackSeq) = false →
        q.rate ≤ (q.handleAckDctcp cfg ackSeq cnp sndNxt).rate) := by
  obtain ⟨hRate, hCwr, hHigh, -⟩ := updateAlpha_fields cfg q ackSeq cnp sndNxt
  obtain ⟨hRate', -, -, hStays⟩ := checkExit_fields (q.updateAlpha cfg ackSeq cnp sndNxt) ackSeq
  rw [hCwr, hHigh] at hStays
  rw [hRate] at hRate'
  have hNext := (h.updateAlpha hCfg ackSeq cnp sndNxt).checkExit ackSeq
  unfold handleAckDctcp
  dsimp only
  generalize (q.updateAlpha cfg ackSeq cnp sndNxt).checkExit ackSeq = next at hRate' hStays hNext ⊢
  change next.cwr = q.stays ackSeq at hStays
  have hReduced := hNext.reduce hCfg cnp sndNxt
  rw [raise_eq hReduced hCfg, ← hRate']
  constructor
  · intro hOld
    rw [hOld, Bool.and_false, if_neg Bool.false_ne_true]
    have hMin := hNext.ge
    have hCut := (truncate_cut hNext).1
    unfold Dctcp.reduce
    split
    · exact max_le hMin hCut
    · exact Nat.le_refl _
  · intro hNone
    have hSame : next.reduce cfg cnp sndNxt = next := by
      unfold Dctcp.reduce
      rw [hStays, hNone, if_neg Bool.false_ne_true]
    have hLe := hNext.le
    rw [hSame]
    split
    · omega
    · exact Nat.le_refl _

end Dctcp

/-! ## Runs -/

namespace DctcpRun

variable {cfg : DctcpConfig}

/-- What holds in every run. -/
structure Kept (cfg : DctcpConfig) (s : DctcpRun) : Prop where
  bounded : s.qp.Bounded cfg
  batches : Successive s.batches
  /-- The last batch noted what `m_lastUpdateSeq` is. -/
  started : ∀ a ∈ s.batches.getLast?, a.next = s.qp.lastUpdateSeq
  cuts : Successive s.cuts
  /-- In CWR, the last cut noted what `m_highSeq` is. -/
  noted : s.qp.cwr = true → ∀ a ∈ s.cuts.getLast?, a.next = s.qp.highSeq
  /-- Outside CWR, more than that is acknowledged. -/
  ended : s.qp.cwr = false → ∀ a ∈ s.cuts.getLast?, a.next < s.left

theorem kept_init (hCfg : cfg.Sensible) : (dctcp cfg).init.Kept cfg where
  bounded := ⟨hCfg.minRate_le, Nat.le_refl _, zero_le_one, le_refl _⟩
  batches := Successive.nil
  started := nofun
  cuts := Successive.nil
  noted := nofun
  ended _ := nofun

/-- A sender that does not stay in CWR has its last cut acknowledged. -/
theorem Kept.ended_of_free {s : DctcpRun} (h : s.Kept cfg) {e : DctcpAck}
    (hFree : s.qp.stays e.ackSeq.toNat = false) :
    ∀ a ∈ s.cuts.getLast?, a.next < (s.handleAck cfg e).left := by
  intro a ha
  have hLeft : (s.handleAck cfg e).left =
      if s.qp.cwr && e.ackSeq.toNat > s.qp.highSeq then e.ackSeq.toNat else s.left := rfl
  rw [hLeft]
  unfold Dctcp.stays at hFree
  cases hCwr : s.qp.cwr with
  | false => exact h.ended hCwr a ha
  | true =>
    rw [hCwr, Bool.true_and, Bool.not_eq_false'] at hFree
    rw [hFree, Bool.true_and, if_pos rfl, h.noted hCwr a ha]
    exact of_decide_eq_true hFree

/-- A cut is made exactly outside CWR. -/
theorem cuts_handleAck (cfg : DctcpConfig) (s : DctcpRun) (e : DctcpAck) :
    (s.handleAck cfg e).cuts =
      if e.cnp && !s.qp.stays e.ackSeq.toNat then
        s.cuts ++ [⟨(s.handleAck cfg e).left, e.sndNxt % 2 ^ 32⟩]
      else s.cuts := by
  have hFree : (!s.qp.cwr || decide (e.ackSeq.toNat > s.qp.highSeq)) =
      !s.qp.stays e.ackSeq.toNat := by
    unfold Dctcp.stays
    cases s.qp.cwr with
    | false => rfl
    | true => cases decide (e.ackSeq.toNat > s.qp.highSeq) <;> rfl
  unfold handleAck
  dsimp only
  rw [hFree]

/-- An acknowledgement keeps the batches apart. -/
theorem Kept.batches_handleAck {s : DctcpRun} (h : s.Kept cfg) (e : DctcpAck) :
    Successive (s.handleAck cfg e).batches ∧
      ∀ a ∈ (s.handleAck cfg e).batches.getLast?,
        a.next = (s.handleAck cfg e).qp.lastUpdateSeq := by
  have hLast := (Dctcp.handleAckDctcp_fields cfg s.qp e.ackSeq.toNat e.cnp e.sndNxt).2.2
  have hQp : (s.handleAck cfg e).qp = s.qp.handleAckDctcp cfg e.ackSeq.toNat e.cnp e.sndNxt := rfl
  rw [hQp, hLast]
  unfold handleAck
  dsimp only
  split
  · rename_i hBatch
    have hMore : s.qp.lastUpdateSeq < e.ackSeq.toNat := of_decide_eq_true hBatch
    refine ⟨h.batches.react fun a ha => ?_, ?_⟩
    · rw [h.started a ha]
      exact hMore
    · intro a ha
      rw [List.getLast?_concat] at ha
      cases ha
      rfl
  · exact ⟨h.batches, h.started⟩

theorem Kept.handleAck {s : DctcpRun} (h : s.Kept cfg) (hCfg : cfg.Sensible) (e : DctcpAck) :
    (s.handleAck cfg e).Kept cfg := by
  obtain ⟨hCwr, hHigh, -⟩ :=
    Dctcp.handleAckDctcp_fields cfg s.qp e.ackSeq.toNat e.cnp e.sndNxt
  change (s.handleAck cfg e).qp.cwr = _ at hCwr
  change (s.handleAck cfg e).qp.highSeq = _ at hHigh
  have hCuts := cuts_handleAck cfg s e
  obtain ⟨hBatches, hStarted⟩ := h.batches_handleAck e
  have hBounded : (s.handleAck cfg e).qp.Bounded cfg := h.bounded.handleAckDctcp hCfg _ _ _
  cases hStays : s.qp.stays e.ackSeq.toNat with
  | true =>
    rw [hStays, Bool.not_true, Bool.and_false, if_neg Bool.false_ne_true] at hHigh hCuts
    rw [hStays, Bool.or_true] at hCwr
    have hOld : s.qp.cwr = true := (Bool.and_eq_true_iff.mp hStays).1
    refine ⟨hBounded, hBatches, hStarted, ?_, ?_, ?_⟩
    · rw [hCuts]
      exact h.cuts
    · intro _
      rw [hCuts, hHigh]
      exact h.noted hOld
    · intro hOut
      exact absurd (hOut.symm.trans hCwr) Bool.false_ne_true
  | false =>
    have hEnded : ∀ a ∈ s.cuts.getLast?, a.next < (s.handleAck cfg e).left :=
      h.ended_of_free hStays
    rw [hStays, Bool.not_false, Bool.and_true] at hHigh hCuts
    rw [hStays, Bool.or_false] at hCwr
    cases hCnp : e.cnp with
    | false =>
      rw [hCnp, if_neg Bool.false_ne_true] at hCuts
      rw [hCnp] at hCwr
      refine ⟨hBounded, hBatches, hStarted, ?_, ?_, ?_⟩
      · rw [hCuts]
        exact h.cuts
      · intro hIn
        exact absurd (hCwr.symm.trans hIn) Bool.false_ne_true
      · intro _
        rw [hCuts]
        exact hEnded
    | true =>
      rw [hCnp, if_pos rfl] at hCuts hHigh
      rw [hCnp] at hCwr
      refine ⟨hBounded, hBatches, hStarted, ?_, ?_, ?_⟩
      · rw [hCuts]
        exact h.cuts.react hEnded
      · intro _ a ha
        rw [hCuts, List.getLast?_concat] at ha
        cases ha
        exact hHigh.symm
      · intro hOut
        exact absurd (hOut.symm.trans hCwr) Bool.false_ne_true

/-! ### A sender that stays ahead -/

/-- What is acknowledged was sent, and a message has fewer than 2^32 bytes. -/
def InOrder (s : DctcpRun) (e : DctcpAck) : Prop :=
  max s.acked e.ackSeq.toNat ≤ e.sndNxt ∧ e.sndNxt < 2 ^ 32

instance (s : DctcpRun) (e : DctcpAck) : Decidable (InOrder s e) :=
  inferInstanceAs (Decidable (_ ∧ _))

/-- What holds in the runs of such a sender. -/
structure Ordered (s : DctcpRun) : Prop where
  batches : ∀ a ∈ s.batches, a.acked ≤ a.next
  cuts : ∀ a ∈ s.cuts, a.acked ≤ a.next
  left_le : s.left ≤ s.acked

theorem ordered_init : (dctcp cfg).init.Ordered where
  batches _ hIn := absurd hIn List.not_mem_nil
  cuts _ hIn := absurd hIn List.not_mem_nil
  left_le := Nat.le_refl _

theorem Ordered.handleAck {s : DctcpRun} (h : s.Ordered) {e : DctcpAck} (hOrder : InOrder s e) :
    (s.handleAck cfg e).Ordered := by
  have hWord : e.sndNxt % 2 ^ 32 = e.sndNxt := Nat.mod_eq_of_lt hOrder.2
  have hLeft : (s.handleAck cfg e).left ≤ (s.handleAck cfg e).acked := by
    unfold DctcpRun.handleAck
    dsimp only
    split
    · exact Nat.le_max_right _ _
    · exact h.left_le.trans (Nat.le_max_left _ _)
  refine ⟨?_, ?_, hLeft⟩
  · unfold DctcpRun.handleAck
    dsimp only
    rw [hWord]
    split
    · refine List.forall_mem_append.mpr ⟨h.batches, List.forall_mem_singleton.mpr ?_⟩
      exact (Nat.le_max_right _ _).trans hOrder.1
    · exact h.batches
  · rw [cuts_handleAck, hWord]
    split
    · refine List.forall_mem_append.mpr ⟨h.cuts, List.forall_mem_singleton.mpr ?_⟩
      exact hLeft.trans hOrder.1
    · exact h.cuts

/-! ### What changes the rate -/

/-- Whether an acknowledgement raises the rate. -/
def raises (cfg : DctcpConfig) (s : DctcpRun) (e : DctcpAck) : Nat :=
  if s.qp.rate < (s.handleAck cfg e).qp.rate then 1 else 0

/-- Whether an acknowledgement lowers the rate. -/
def lowers (cfg : DctcpConfig) (s : DctcpRun) (e : DctcpAck) : Nat :=
  if (s.handleAck cfg e).qp.rate < s.qp.rate then 1 else 0

theorem Kept.raises_le {s : DctcpRun} (h : s.Kept cfg) (hCfg : cfg.Sensible) (e : DctcpAck) :
    raises cfg s e + s.batches.length ≤ (s.handleAck cfg e).batches.length := by
  have hOld := (Dctcp.rate_cases h.bounded hCfg e.ackSeq.toNat e.cnp e.sndNxt).1
  have hBatches : (s.handleAck cfg e).batches =
      if s.qp.newBatch e.ackSeq.toNat then s.batches ++ [⟨e.ackSeq.toNat, e.sndNxt % 2 ^ 32⟩]
      else s.batches := rfl
  unfold raises
  cases hBatch : s.qp.newBatch e.ackSeq.toNat with
  | false =>
    have hLe : (s.handleAck cfg e).qp.rate ≤ s.qp.rate := hOld hBatch
    rw [if_neg (Nat.not_lt.mpr hLe), hBatches, hBatch, if_neg Bool.false_ne_true, Nat.zero_add]
  | true =>
    rw [hBatches, hBatch, if_pos rfl, List.length_append, List.length_singleton]
    split
    · omega
    · omega

theorem Kept.lowers_le {s : DctcpRun} (h : s.Kept cfg) (hCfg : cfg.Sensible) (e : DctcpAck) :
    lowers cfg s e + s.cuts.length ≤ (s.handleAck cfg e).cuts.length := by
  have hOld := (Dctcp.rate_cases h.bounded hCfg e.ackSeq.toNat e.cnp e.sndNxt).2
  have hCuts := cuts_handleAck cfg s e
  unfold lowers
  cases hCut : e.cnp && !s.qp.stays e.ackSeq.toNat with
  | false =>
    have hLe : s.qp.rate ≤ (s.handleAck cfg e).qp.rate := hOld hCut
    rw [if_neg (Nat.not_lt.mpr hLe), hCuts, hCut, if_neg Bool.false_ne_true, Nat.zero_add]
  | true =>
    rw [hCuts, hCut, if_pos rfl, List.length_append, List.length_singleton]
    split
    · omega
    · omega

theorem Kept.step {s t : DctcpRun} {e : DctcpAck} (h : s.Kept cfg) (hCfg : cfg.Sensible)
    (hNext : (dctcp cfg).step s e = some t) : t.Kept cfg := by
  cases hNext
  exact h.handleAck hCfg e

theorem kept_of_reachable (hCfg : cfg.Sensible) {s : DctcpRun} (h : (dctcp cfg).Reachable s) :
    s.Kept cfg :=
  Machine.reachable_induction (I := Kept cfg) (kept_init hCfg)
    (fun _ _ _ hs hNext => hs.step hCfg hNext) h

end DctcpRun

/-- In every run, the rate of a DCTCP sender lies between the minimum and the rate of the device, its
estimate of the marks is a share, and no acknowledgement takes more than half of the rate, up to
rounding. -/
theorem dctcp_rate_bounds {cfg : DctcpConfig} (hCfg : cfg.Sensible) {s : DctcpRun}
    (h : (dctcp cfg).Reachable s) :
    (cfg.minRate ≤ s.qp.rate ∧ s.qp.rate ≤ cfg.maxRate) ∧ (0 ≤ s.qp.alpha ∧ s.qp.alpha ≤ 1) ∧
      ∀ e t, (dctcp cfg).step s e = some t → s.qp.rate ≤ 2 * t.qp.rate + 1 := by
  have hBounded := (DctcpRun.kept_of_reachable hCfg h).bounded
  refine ⟨⟨hBounded.ge, hBounded.le⟩, ⟨hBounded.alpha_nonneg, hBounded.alpha_le_one⟩, ?_⟩
  intro e t hNext
  cases hNext
  exact Dctcp.rate_handleAckDctcp hBounded hCfg _ _ _

/-- In every run, the rate of a DCTCP sender goes up at most once for each batch and down at most once
for each cut. A batch is due to an acknowledgement beyond the 32 bits of `snd_nxt` at the batch
before it, and between two cuts in a row one beyond those at the first ends the CWR state. If no
acknowledgement is ever ahead of `snd_nxt` and this stays below 2^32, the same holds of any two
batches and any two cuts. -/
theorem dctcp_once_per_round {cfg : DctcpConfig} (hCfg : cfg.Sensible) {es : List DctcpAck}
    {s : DctcpRun} (h : (dctcp cfg).run (dctcp cfg).init es = some s) :
    ((dctcp cfg).cost (DctcpRun.raises cfg) (dctcp cfg).init es ≤ s.batches.length ∧
      Successive s.batches) ∧
    ((dctcp cfg).cost (DctcpRun.lowers cfg) (dctcp cfg).init es ≤ s.cuts.length ∧
      Successive s.cuts) ∧
    ((dctcp cfg).Guarded DctcpRun.InOrder (dctcp cfg).init es →
      (s.batches.Pairwise fun a b => a.next < b.acked) ∧
        s.cuts.Pairwise fun a b => a.next < b.acked) := by
  have hKept := DctcpRun.kept_of_reachable hCfg ⟨es, h⟩
  have hRaises := Machine.cost_add_le (M := dctcp cfg) (C := fun _ _ => True)
    (I := DctcpRun.Kept cfg) (f := DctcpRun.raises cfg) (P := fun s => s.batches.length)
    (fun _ _ _ hs _ hNext => hs.step hCfg hNext)
    (fun _ e _ hs _ hNext => Option.some.inj hNext ▸ hs.raises_le hCfg e) (DctcpRun.kept_init hCfg)
    (Machine.guarded_true _ _ _) h
  have hLowers := Machine.cost_add_le (M := dctcp cfg) (C := fun _ _ => True)
    (I := DctcpRun.Kept cfg) (f := DctcpRun.lowers cfg) (P := fun s => s.cuts.length)
    (fun _ _ _ hs _ hNext => hs.step hCfg hNext)
    (fun _ e _ hs _ hNext => Option.some.inj hNext ▸ hs.lowers_le hCfg e) (DctcpRun.kept_init hCfg)
    (Machine.guarded_true _ _ _) h
  refine ⟨⟨hRaises, hKept.batches⟩, ⟨hLowers, hKept.cuts⟩, ?_⟩
  intro hOrder
  have hOrdered : s.Ordered :=
    Machine.guarded_induction (I := DctcpRun.Ordered) DctcpRun.ordered_init
      (fun _ _ _ hs hC hNext => Option.some.inj hNext ▸ hs.handleAck hC) hOrder h
  exact ⟨hKept.batches.pairwise hOrdered.batches, hKept.cuts.pairwise hOrdered.cuts⟩

def dctcpSampleConfig : DctcpConfig where
  minRate := 100
  maxRate := 1000
  rai := 50
  g := 1 / 16
  mtu := 1000

theorem dctcpSampleConfig_sensible : dctcpSampleConfig.Sensible where
  g_nonneg := by decide +kernel
  g_le_one := by decide +kernel
  minRate_le := by decide
  rai_fits := by decide

/-- Marks in two round trips, then one without any. -/
def dctcpSampleRun : List DctcpAck :=
  [⟨1000, true, 5000⟩, ⟨2000, true, 6000⟩, ⟨6000, true, 9000⟩, ⟨9500, false, 12000⟩]

theorem dctcp_rate_bounds_sample :
    ∃ s, (dctcp dctcpSampleConfig).run (dctcp dctcpSampleConfig).init dctcpSampleRun = some s ∧
      s.qp.rate < 1000 ∧ 100 ≤ s.qp.rate := by
  have hRun : ((dctcp dctcpSampleConfig).run (dctcp dctcpSampleConfig).init dctcpSampleRun).map
      (fun s => decide (s.qp.rate < 1000)) = some true := by
    decide +kernel
  obtain ⟨s, hs, hRate⟩ := Option.map_eq_some_iff.mp hRun
  exact ⟨s, hs, of_decide_eq_true hRate, (dctcp_rate_bounds dctcpSampleConfig_sensible ⟨_, hs⟩).1.1⟩

theorem dctcp_once_per_round_sample :
    ∃ s, (dctcp dctcpSampleConfig).run (dctcp dctcpSampleConfig).init dctcpSampleRun = some s ∧
      s.cuts.length = 2 ∧ (s.cuts.Pairwise fun a b => a.next < b.acked) ∧ Successive s.batches := by
  have hRun : ((dctcp dctcpSampleConfig).run (dctcp dctcpSampleConfig).init dctcpSampleRun).map
      (fun s => decide (s.cuts.length = 2)) = some true := by
    decide +kernel
  have hOrder : (dctcp dctcpSampleConfig).Guarded DctcpRun.InOrder (dctcp dctcpSampleConfig).init
      dctcpSampleRun := by
    decide +kernel
  obtain ⟨s, hs, hTwo⟩ := Option.map_eq_some_iff.mp hRun
  obtain ⟨⟨-, hBatches⟩, -, hAll⟩ := dctcp_once_per_round dctcpSampleConfig_sensible hs
  exact ⟨s, hs, of_decide_eq_true hTwo, (hAll hOrder).2, hBatches⟩

end Dpdq.Ns3
