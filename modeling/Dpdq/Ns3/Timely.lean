import Mathlib.Algebra.Order.Field.Basic
import Mathlib.Tactic.Linarith
import Dpdq.Lib.Machine
import Dpdq.Lib.Rounds
import Dpdq.Ns3.DcqcnRate

/-!
# The rate of a TIMELY sender

`HandleAckTimely` and `UpdateRateTimely` of `rdma-hw.cc` (`m_cc_mode` 7) on the round trip time that
an acknowledgement shows. `FastReactTimely` does nothing, so the flag `us` is never set.

The doubles of the source are rationals here, and a cast to an integer rounds down.

* `timely_rate_bounds`: the rate stays between the minimum and the rate of the device, and changes at
  most once for each update. An update takes an acknowledgement beyond the `snd_nxt` of all earlier
  ones.
* `timely_recovers`: a bounded number of updates with short round trips brings it up to the device's.
-/

namespace Dpdq.Ns3

open Dpdq.Lib

structure TimelyConfig where
  minRate : Nat
  maxRate : Nat
  rai : Nat
  rhai : Nat
  alpha : ℚ
  beta : ℚ
  minRtt : Nat
  tLow : Nat
  tHigh : Nat

/-- `m_rate` and the struct `tmly` of a QP. -/
structure Timely where
  rate : Nat
  lastUpdateSeq : Nat := 0
  curRate : Nat
  incStage : Nat := 0
  lastRtt : Nat := 0
  rttDiff : ℚ := 0

namespace Timely

variable (cfg : TimelyConfig)

/-- The moving average of the differences. -/
def nextRttDiff (q : Timely) (rtt : Nat) : ℚ :=
  (1 - cfg.alpha) * q.rttDiff + cfg.alpha * ((rtt : Int) - (q.lastRtt : Int) : Int)

/-- The factor of a decrease; `none` is an increase. -/
def factor (rtt : Nat) (gradient : ℚ) : Option ℚ :=
  if rtt < cfg.tLow then none
  else if rtt > cfg.tHigh then some (1 - cfg.beta * (1 - (cfg.tHigh : ℚ) / rtt))
  else if gradient ≤ 0 then none
  else
    let c := 1 - cfg.beta * gradient
    some (if c < 0 then 0 else c)

/-- The step of an increase, larger after five of them in a row. -/
def increment (q : Timely) : Nat := if q.incStage < 5 then cfg.rai else cfg.rhai

/-- The rates and stages after a round trip that is not the first one. -/
def adjust (rtt : Nat) (q : Timely) : Timely :=
  let rttDiff := q.nextRttDiff cfg rtt
  match factor cfg rtt (rttDiff / cfg.minRtt) with
  | none =>
    let sum := addU64 q.curRate (q.increment cfg)
    let rate := if sum > cfg.maxRate then cfg.maxRate else sum
    { q with rate, curRate := rate, incStage := addU32 q.incStage 1, rttDiff }
  | some c =>
    let rate := max cfg.minRate (truncate (q.curRate * c))
    { q with rate, curRate := rate, incStage := 0, rttDiff }

def updateRateTimely (rtt sndNxt : Nat) (q : Timely) : Timely :=
  let nextSeq := sndNxt % 2 ^ 32
  let q := if q.lastUpdateSeq ≠ 0 then q.adjust cfg rtt else q
  if nextSeq > q.lastUpdateSeq then { q with lastUpdateSeq := nextSeq, lastRtt := rtt } else q

def handleAckTimely (ackSeq rtt sndNxt : Nat) (q : Timely) : Timely :=
  if ackSeq > q.lastUpdateSeq then q.updateRateTimely cfg rtt sndNxt else q

end Timely

/-- An acknowledgement with its round trip time, and `snd_nxt` when it is handled. -/
structure TimelyAck where
  ackSeq : BitVec 32
  rtt : Nat
  sndNxt : Nat

/-- A QP with its updates. -/
structure TimelyRun where
  qp : Timely
  updates : List Reaction

/-- `AddQueuePair` starts a QP at the rate of the device. -/
def timely (cfg : TimelyConfig) : Machine TimelyRun TimelyAck where
  init := ⟨{ rate := cfg.maxRate, curRate := cfg.maxRate }, []⟩
  step s e := some
    { qp := s.qp.handleAckTimely cfg e.ackSeq.toNat e.rtt e.sndNxt
      updates :=
        if e.ackSeq.toNat > s.qp.lastUpdateSeq then
          s.updates ++ [⟨e.ackSeq.toNat, e.sndNxt % 2 ^ 32⟩]
        else s.updates }

/-! ## Bounds -/

/-- Attributes that make sense. The gradient is a share of `m_tmly_minRtt`. -/
structure TimelyConfig.Sensible (cfg : TimelyConfig) : Prop where
  minRtt_pos : 0 < cfg.minRtt
  beta_nonneg : 0 ≤ cfg.beta
  beta_le_one : cfg.beta ≤ 1
  minRate_le : cfg.minRate ≤ cfg.maxRate
  rai_fits : cfg.maxRate + cfg.rai < 2 ^ 64
  rhai_fits : cfg.maxRate + cfg.rhai < 2 ^ 64

namespace Timely

variable {cfg : TimelyConfig}

theorem factor_le_one (hCfg : cfg.Sensible) {rtt : Nat} {gradient c : ℚ}
    (h : factor cfg rtt gradient = some c) : c ≤ 1 := by
  have hBeta := hCfg.beta_nonneg
  unfold factor at h
  split at h
  · cases h
  · split at h
    · rename_i hLong
      have hRtt : (0 : ℚ) < rtt := by
        have hPos : 0 < rtt := by omega
        exact_mod_cast hPos
      have hQuotient : (cfg.tHigh : ℚ) / rtt ≤ 1 := by
        rw [div_le_one hRtt]
        exact_mod_cast Nat.le_of_lt hLong
      have hProduct := mul_nonneg hBeta (sub_nonneg.mpr hQuotient)
      cases h
      linarith
    · split at h
      · cases h
      · rename_i hGradient
        have hProduct := mul_nonneg hBeta (le_of_lt (not_le.mp hGradient))
        cases h
        split
        · exact zero_le_one
        · linarith

/-- What holds of a QP in every run. -/
structure Bounded (cfg : TimelyConfig) (q : Timely) : Prop where
  same : q.rate = q.curRate
  ge : cfg.minRate ≤ q.curRate
  le : q.curRate ≤ cfg.maxRate

theorem adjust_of_increase {q : Timely} (h : q.Bounded cfg) (hCfg : cfg.Sensible) {rtt : Nat}
    (hFactor : factor cfg rtt (q.nextRttDiff cfg rtt / cfg.minRtt) = none) :
    q.adjust cfg rtt =
      { q with
        rate := min cfg.maxRate (q.curRate + q.increment cfg)
        curRate := min cfg.maxRate (q.curRate + q.increment cfg)
        incStage := addU32 q.incStage 1
        rttDiff := q.nextRttDiff cfg rtt } := by
  have hRai := hCfg.rai_fits
  have hRhai := hCfg.rhai_fits
  have hLe := h.le
  have hFits : q.curRate + q.increment cfg < 2 ^ 64 := by
    unfold increment
    split
    · omega
    · omega
  have hMin : (if q.curRate + q.increment cfg > cfg.maxRate then cfg.maxRate
      else q.curRate + q.increment cfg) = min cfg.maxRate (q.curRate + q.increment cfg) := by
    split
    · rename_i hMore
      exact (Nat.min_eq_left (Nat.le_of_lt hMore)).symm
    · rename_i hMore
      exact (Nat.min_eq_right (Nat.le_of_not_gt hMore)).symm
  unfold adjust
  dsimp only
  rw [hFactor, addU64_of_lt hFits]
  dsimp only
  rw [hMin]

theorem Bounded.adjust {q : Timely} (h : q.Bounded cfg) (hCfg : cfg.Sensible) (rtt : Nat) :
    (q.adjust cfg rtt).Bounded cfg := by
  have hMin := hCfg.minRate_le
  have hGe := h.ge
  cases hFactor : factor cfg rtt (q.nextRttDiff cfg rtt / cfg.minRtt) with
  | none =>
    rw [adjust_of_increase h hCfg hFactor]
    refine ⟨rfl, ?_, min_le_left _ _⟩
    exact le_min hMin (hGe.trans (Nat.le_add_right _ _))
  | some c =>
    have hCut : truncate (q.curRate * c) ≤ q.curRate :=
      truncate_le (mul_le_of_le_one_right (Nat.cast_nonneg _) (factor_le_one hCfg hFactor))
    unfold Timely.adjust
    dsimp only
    rw [hFactor]
    exact ⟨rfl, le_max_left _ _, max_le hMin (hCut.trans h.le)⟩

theorem lastUpdateSeq_adjust (rtt : Nat) (q : Timely) :
    (q.adjust cfg rtt).lastUpdateSeq = q.lastUpdateSeq := by
  unfold adjust
  dsimp only
  split <;> rfl

/-- An update adjusts the rates unless it is the first, and notes `snd_nxt`. -/
theorem updateRateTimely_spec (cfg : TimelyConfig) (rtt sndNxt : Nat) (q : Timely) :
    ∃ lastRtt, q.updateRateTimely cfg rtt sndNxt =
      { (if q.lastUpdateSeq ≠ 0 then q.adjust cfg rtt else q) with
        lastUpdateSeq := max q.lastUpdateSeq (sndNxt % 2 ^ 32), lastRtt } := by
  have hLast : (if q.lastUpdateSeq ≠ 0 then q.adjust cfg rtt else q).lastUpdateSeq =
      q.lastUpdateSeq := by
    split
    · exact lastUpdateSeq_adjust rtt q
    · rfl
  unfold updateRateTimely
  dsimp only
  generalize (if q.lastUpdateSeq ≠ 0 then q.adjust cfg rtt else q) = next at hLast ⊢
  split
  · rename_i hMore
    rw [hLast] at hMore
    rw [Nat.max_eq_right (Nat.le_of_lt hMore)]
    exact ⟨_, rfl⟩
  · rename_i hMore
    rw [hLast] at hMore
    rw [Nat.max_eq_left (Nat.le_of_not_gt hMore), ← hLast]
    exact ⟨next.lastRtt, rfl⟩

theorem Bounded.handleAckTimely {q : Timely} (h : q.Bounded cfg) (hCfg : cfg.Sensible)
    (ackSeq rtt sndNxt : Nat) : (q.handleAckTimely cfg ackSeq rtt sndNxt).Bounded cfg := by
  unfold Timely.handleAckTimely
  split
  · obtain ⟨lastRtt, hNext⟩ := updateRateTimely_spec cfg rtt sndNxt q
    have hAdjusted : (if q.lastUpdateSeq ≠ 0 then q.adjust cfg rtt else q).Bounded cfg := by
      split
      · exact h.adjust hCfg rtt
      · exact h
    rw [hNext]
    exact { hAdjusted with }
  · exact h

/-! ## Short round trips -/

/-- The smaller of the two steps of an increase. -/
def leastIncrement (cfg : TimelyConfig) : Nat := min cfg.rai cfg.rhai

/-- An increase adds at least one step, up to the device's rate. -/
theorem le_handleAckTimely {q : Timely} (h : q.Bounded cfg) (hCfg : cfg.Sensible) {ackSeq rtt : Nat}
    (hShort : q.lastUpdateSeq < ackSeq ∧ q.lastUpdateSeq ≠ 0 → rtt < cfg.tLow) (sndNxt : Nat) :
    min cfg.maxRate (q.curRate +
      (if q.lastUpdateSeq < ackSeq ∧ q.lastUpdateSeq ≠ 0 then 1 else 0) * leastIncrement cfg) ≤
        (q.handleAckTimely cfg ackSeq rtt sndNxt).curRate := by
  have hStep : leastIncrement cfg ≤ q.increment cfg := by
    unfold leastIncrement increment
    split
    · exact min_le_left _ _
    · exact min_le_right _ _
  unfold handleAckTimely
  by_cases hMore : ackSeq > q.lastUpdateSeq
  · obtain ⟨lastRtt, hNext⟩ := updateRateTimely_spec cfg rtt sndNxt q
    rw [if_pos hMore, hNext]
    by_cases hFirst : q.lastUpdateSeq = 0
    · rw [if_neg (fun hBoth => hBoth.2 hFirst), if_neg (not_not.mpr hFirst), Nat.zero_mul]
      exact min_le_right _ _
    · have hIncrease : factor cfg rtt (q.nextRttDiff cfg rtt / cfg.minRtt) = none :=
        if_pos (hShort ⟨hMore, hFirst⟩)
      rw [if_pos ⟨hMore, hFirst⟩, if_pos hFirst, adjust_of_increase h hCfg hIncrease, Nat.one_mul]
      exact min_le_min_left _ (Nat.add_le_add_left hStep _)
  · rw [if_neg hMore, if_neg (fun hBoth => hMore hBoth.1), Nat.zero_mul]
    exact min_le_right _ _

end Timely

/-! ## Runs -/

namespace TimelyRun

variable {cfg : TimelyConfig}

/-- Whether an acknowledgement adjusts the rates. -/
def adjusts (s : TimelyRun) (e : TimelyAck) : Nat :=
  if s.qp.lastUpdateSeq < e.ackSeq.toNat ∧ s.qp.lastUpdateSeq ≠ 0 then 1 else 0

/-- An acknowledgement that adjusts the rates shows a round trip below `m_tmly_TLow`. -/
def ShortUpdate (cfg : TimelyConfig) (s : TimelyRun) (e : TimelyAck) : Prop :=
  s.qp.lastUpdateSeq < e.ackSeq.toNat ∧ s.qp.lastUpdateSeq ≠ 0 → e.rtt < cfg.tLow

instance (s : TimelyRun) (e : TimelyAck) : Decidable (ShortUpdate cfg s e) :=
  inferInstanceAs (Decidable (_ → _))

/-- Whether an acknowledgement changes the rate. -/
def changes (cfg : TimelyConfig) (s : TimelyRun) (e : TimelyAck) : Nat :=
  if (s.qp.handleAckTimely cfg e.ackSeq.toNat e.rtt e.sndNxt).rate = s.qp.rate then 0 else 1

/-- What holds in every run. -/
structure Kept (cfg : TimelyConfig) (s : TimelyRun) : Prop where
  bounded : s.qp.Bounded cfg
  once : OncePerRound s.qp.lastUpdateSeq s.updates

theorem kept_init (hCfg : cfg.Sensible) : (timely cfg).init.Kept cfg where
  bounded := ⟨rfl, hCfg.minRate_le, Nat.le_refl _⟩
  once := OncePerRound.nil _

theorem Kept.step {s t : TimelyRun} {e : TimelyAck} (h : s.Kept cfg) (hCfg : cfg.Sensible)
    (hNext : (timely cfg).step s e = some t) : t.Kept cfg := by
  cases hNext
  refine ⟨h.bounded.handleAckTimely hCfg _ _ _, ?_⟩
  dsimp only
  unfold Timely.handleAckTimely
  split
  · rename_i hMore
    obtain ⟨lastRtt, hUpdated⟩ :=
      Timely.updateRateTimely_spec cfg e.rtt e.sndNxt s.qp
    rw [hUpdated]
    exact h.once.react hMore (Nat.le_max_left _ _) (Nat.le_max_right _ _)
  · exact h.once

theorem changes_step {s t : TimelyRun} {e : TimelyAck} (hNext : (timely cfg).step s e = some t) :
    changes cfg s e + s.updates.length ≤ t.updates.length := by
  cases hNext
  unfold changes Timely.handleAckTimely
  dsimp only
  split
  · rw [List.length_append, List.length_singleton]
    split
    · omega
    · omega
  · rw [if_pos rfl, Nat.zero_add]

end TimelyRun

/-- In every run, the rate of a TIMELY sender lies between the minimum and the rate of the device. It
changes at most once for each update, and an update is due to an acknowledgement beyond the 32 bits
of `snd_nxt` at every earlier one. -/
theorem timely_rate_bounds {cfg : TimelyConfig} (hCfg : cfg.Sensible) {es : List TimelyAck}
    {s : TimelyRun} (h : (timely cfg).run (timely cfg).init es = some s) :
    (cfg.minRate ≤ s.qp.rate ∧ s.qp.rate ≤ cfg.maxRate) ∧
      (timely cfg).cost (TimelyRun.changes cfg) (timely cfg).init es ≤ s.updates.length ∧
      s.updates.Pairwise fun a b => a.next < b.acked := by
  have hKept : s.Kept cfg :=
    Machine.reachable_induction (I := TimelyRun.Kept cfg) (TimelyRun.kept_init hCfg)
      (fun _ _ _ hs hNext => hs.step hCfg hNext) ⟨es, h⟩
  have hCost := Machine.cost_add_le (M := timely cfg) (C := fun _ _ => True) (I := fun _ => True)
    (f := TimelyRun.changes cfg) (P := fun s => s.updates.length) (fun _ _ _ _ _ _ => trivial)
    (fun _ _ _ _ _ hNext => TimelyRun.changes_step hNext) trivial (Machine.guarded_true _ _ _) h
  have hRate := hKept.bounded.same
  refine ⟨⟨?_, ?_⟩, hCost, hKept.once.apart⟩
  · rw [hRate]
    exact hKept.bounded.ge
  · rw [hRate]
    exact hKept.bounded.le

/-- Where every update shows a round trip below `m_tmly_TLow`, a bounded number of them brings a
TIMELY sender to the rate of the device, wherever it was. -/
theorem timely_recovers {cfg : TimelyConfig} (hCfg : cfg.Sensible) (hUp : 0 < Timely.leastIncrement cfg)
    {s t : TimelyRun} (h : (timely cfg).Reachable s) {es : List TimelyAck}
    (hShort : (timely cfg).Guarded (TimelyRun.ShortUpdate cfg) s es)
    (hRun : (timely cfg).run s es = some t)
    (hEnough : (cfg.maxRate - cfg.minRate) / Timely.leastIncrement cfg <
      (timely cfg).cost TimelyRun.adjusts s es) :
    t.qp.rate = cfg.maxRate := by
  have hKept : s.Kept cfg :=
    Machine.reachable_induction (I := TimelyRun.Kept cfg) (TimelyRun.kept_init hCfg)
      (fun _ _ _ hs hNext => hs.step hCfg hNext) h
  -- Every update adds a step, so that the run adds one for each of them.
  have hAll (es : List TimelyAck) : ∀ s : TimelyRun, s.Kept cfg →
      (timely cfg).Guarded (TimelyRun.ShortUpdate cfg) s es → (timely cfg).run s es = some t →
      t.Kept cfg ∧ min cfg.maxRate (s.qp.curRate +
        (timely cfg).cost TimelyRun.adjusts s es * Timely.leastIncrement cfg) ≤ t.qp.curRate := by
    induction es with
    | nil =>
      intro s hs _ hRun
      cases hRun
      refine ⟨hs, ?_⟩
      rw [Machine.cost, Nat.zero_mul]
      exact min_le_right _ _
    | cons e es ih =>
      intro s hs hShort hRun
      obtain ⟨next, hNext, hRest⟩ := Machine.run_cons_eq_some.mp hRun
      have hFirst : min cfg.maxRate (s.qp.curRate + TimelyRun.adjusts s e * Timely.leastIncrement cfg) ≤
          next.qp.curRate := by
        cases hNext
        exact Timely.le_handleAckTimely hs.bounded hCfg hShort.1 _
      obtain ⟨hEnd, hSum⟩ := ih next (hs.step hCfg hNext) (hShort.2 next hNext) hRest
      refine ⟨hEnd, ?_⟩
      rw [Machine.cost, hNext, Option.elim_some, Nat.add_mul]
      omega
  obtain ⟨hEnd, hSum⟩ := hAll es s hKept hShort hRun
  have hFar : cfg.maxRate - cfg.minRate <
      (timely cfg).cost TimelyRun.adjusts s es * Timely.leastIncrement cfg :=
    (Nat.div_lt_iff_lt_mul hUp).mp hEnough
  have hGe := hKept.bounded.ge
  have hLe := hEnd.bounded.le
  have hSame := hEnd.bounded.same
  omega

def timelySampleConfig : TimelyConfig where
  minRate := 100
  maxRate := 1000
  rai := 50
  rhai := 100
  alpha := 1 / 2
  beta := 4 / 5
  minRtt := 20
  tLow := 50
  tHigh := 500

theorem timelySampleConfig_sensible : timelySampleConfig.Sensible where
  minRtt_pos := by decide
  beta_nonneg := by decide +kernel
  beta_le_one := by decide +kernel
  minRate_le := by decide
  rai_fits := by decide
  rhai_fits := by decide

/-- The first round trip, and one that is too long. -/
def timelySlowRun : List TimelyAck := [⟨1, 100, 10⟩, ⟨11, 1000, 20⟩]

/-- Twenty updates with short round trips, and a late acknowledgement with a long one. -/
def timelyFastRun : List TimelyAck :=
  ((List.range 20).map fun k => ⟨BitVec.ofNat 32 (21 + k), 10, 21 + k⟩) ++ [⟨5, 9000, 60⟩]

theorem timely_rate_bounds_sample :
    ∃ s, (timely timelySampleConfig).run (timely timelySampleConfig).init timelySlowRun = some s ∧
      s.qp.rate = 600 ∧ 100 ≤ s.qp.rate := by
  have hRun : ((timely timelySampleConfig).run (timely timelySampleConfig).init
      timelySlowRun).map (fun s => decide (s.qp.rate = 600)) = some true := by
    decide +kernel
  obtain ⟨s, hs, hRate⟩ := Option.map_eq_some_iff.mp hRun
  exact ⟨s, hs, of_decide_eq_true hRate, (timely_rate_bounds timelySampleConfig_sensible hs).1.1⟩

theorem timely_recovers_sample :
    ∃ s t, (timely timelySampleConfig).run (timely timelySampleConfig).init timelySlowRun = some s ∧
      s.qp.rate = 600 ∧ (timely timelySampleConfig).run s timelyFastRun = some t ∧
      t.qp.rate = 1000 := by
  have hRun : ((timely timelySampleConfig).run (timely timelySampleConfig).init
      timelySlowRun).map (fun s => decide (s.qp.rate = 600 ∧
        ((timely timelySampleConfig).run s timelyFastRun).isSome = true ∧
        (timely timelySampleConfig).Guarded (TimelyRun.ShortUpdate timelySampleConfig) s
          timelyFastRun ∧
        (timely timelySampleConfig).cost TimelyRun.adjusts s timelyFastRun = 20)) = some true := by
    decide +kernel
  obtain ⟨s, hs, hFacts⟩ := Option.map_eq_some_iff.mp hRun
  obtain ⟨hRate, hMore, hShort, hCost⟩ := of_decide_eq_true hFacts
  obtain ⟨t, ht⟩ := Option.isSome_iff_exists.mp hMore
  refine ⟨s, t, hs, hRate, ht, ?_⟩
  exact timely_recovers timelySampleConfig_sensible (by decide) ⟨_, hs⟩ hShort ht
    (by rw [hCost]; decide)

end Dpdq.Ns3
