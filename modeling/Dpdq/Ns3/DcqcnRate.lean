import Mathlib.Tactic.FieldSimp
import Mathlib.Tactic.Linarith
import Mathlib.Tactic.SplitIfs
import Dpdq.Ns3.Dcqcn

/-!
# Bounds and recovery of the DCQCN rate

* `dcqcn_rate_bounds`: in every order of CNPs, timers and packets the rate and its target lie between
  a lower bound, which the halving makes even, and the rate of the device.
* `dcqcn_recovers`: without CNPs, a bounded number of increases brings the rate within two bits per
  second of the device's, whatever else happens in between.
-/

namespace Dpdq.Ns3

open Dpdq.Lib

/-! ## Casts -/

theorem truncate_le {x : ℚ} {n : Nat} (h : x ≤ n) : truncate x ≤ n := by
  have hFloor : x.floor ≤ (n : ℚ).floor := Rat.floor_monotone h
  have hNat : (n : ℚ).floor = (n : Int) := Rat.floor_intCast (n : Int)
  unfold truncate
  omega

theorem le_truncate {x : ℚ} {n : Nat} (h : (n : ℚ) ≤ x) : n ≤ truncate x := by
  have hFloor : (n : ℚ).floor ≤ x.floor := Rat.floor_monotone h
  have hNat : (n : ℚ).floor = (n : Int) := Rat.floor_intCast (n : Int)
  unfold truncate
  omega

/-! ## Bounds -/

/-- Attributes that make sense: the gain and the first cut are shares, the minimum is below the rate
of the device, and the sums of the increases do not wrap around. -/
structure DcqcnConfig.Sensible (cfg : DcqcnConfig) : Prop where
  g_nonneg : 0 ≤ cfg.g
  g_le_one : cfg.g ≤ 1
  rateOnFirstCnp_nonneg : 0 ≤ cfg.rateOnFirstCnp
  rateOnFirstCnp_le_one : cfg.rateOnFirstCnp ≤ 1
  minRate_le : cfg.minRate ≤ cfg.dataRate
  rai_fits : cfg.dataRate + cfg.rai < 2 ^ 64
  rhai_fits : cfg.dataRate + cfg.rhai < 2 ^ 64

/-- The lower bound: the minimum or the rate after the first CNP, rounded down to an even number. -/
def DcqcnConfig.lowerRate (cfg : DcqcnConfig) : Nat :=
  2 * (min cfg.minRate (truncate (cfg.rateOnFirstCnp * cfg.dataRate)) / 2)

namespace Mlx

variable {cfg : DcqcnConfig}

/-- What holds of a QP in every run. -/
structure Bounded (cfg : DcqcnConfig) (q : Mlx) : Prop where
  rate_le : q.rate ≤ cfg.dataRate
  target_le : q.targetRate ≤ cfg.dataRate
  le_rate : cfg.lowerRate ≤ q.rate
  le_target : cfg.lowerRate ≤ q.targetRate
  alpha_nonneg : 0 ≤ q.alpha
  alpha_le_one : q.alpha ≤ 1
  /-- Nothing has happened to the rate before the first CNP. -/
  fresh : q.firstCnp = true → q.rate = cfg.dataRate ∧ q.updateAlphaTimer = false ∧
    q.decreaseRateTimer = false ∧ q.rpTimer = false

theorem firstCut_le (h : cfg.Sensible) :
    truncate (cfg.rateOnFirstCnp * cfg.dataRate) ≤ cfg.dataRate :=
  truncate_le (mul_le_of_le_one_left (Nat.cast_nonneg _) h.rateOnFirstCnp_le_one)

theorem lowerRate_le_minRate (cfg : DcqcnConfig) : cfg.lowerRate ≤ cfg.minRate := by
  unfold DcqcnConfig.lowerRate
  omega

theorem lowerRate_le_firstCut (cfg : DcqcnConfig) :
    cfg.lowerRate ≤ truncate (cfg.rateOnFirstCnp * cfg.dataRate) := by
  unfold DcqcnConfig.lowerRate
  omega

theorem bounded_init (h : cfg.Sensible) : Bounded cfg (dcqcn cfg).init where
  rate_le := Nat.le_refl _
  target_le := Nat.le_refl _
  le_rate := (lowerRate_le_minRate cfg).trans h.minRate_le
  le_target := (lowerRate_le_minRate cfg).trans h.minRate_le
  alpha_nonneg := zero_le_one
  alpha_le_one := le_refl _
  fresh _ := ⟨rfl, rfl, rfl, rfl⟩

theorem Bounded.updateAlphaMlx (hCfg : cfg.Sensible) {q : Mlx} (h : q.Bounded cfg)
    (hTimer : q.updateAlphaTimer = true) : (q.updateAlphaMlx cfg).Bounded cfg := by
  have hAlpha := h.alpha_nonneg
  have hOne := h.alpha_le_one
  have hGain := hCfg.g_nonneg
  have hShare := hCfg.g_le_one
  have hKept : 0 ≤ (1 - cfg.g) * q.alpha := mul_nonneg (sub_nonneg.mpr hShare) hAlpha
  have hKeptLe : (1 - cfg.g) * q.alpha ≤ 1 - cfg.g :=
    mul_le_of_le_one_right (sub_nonneg.mpr hShare) hOne
  refine { h with alpha_nonneg := ?_, alpha_le_one := ?_, fresh := ?_ }
  · unfold Mlx.updateAlphaMlx
    dsimp only
    split
    · linarith
    · exact hKept
  · unfold Mlx.updateAlphaMlx
    dsimp only
    split
    · linarith
    · linarith
  · intro hFirst
    have hOff := (h.fresh hFirst).2.1
    rw [hTimer] at hOff
    cases hOff

theorem Bounded.receiveCnp (hCfg : cfg.Sensible) {q : Mlx} (h : q.Bounded cfg) :
    (q.receiveCnp cfg).Bounded cfg := by
  -- The lazy initialisation first.
  have hReady : (if q.rate = 0 then
      { q with rate := cfg.dataRate, targetRate := cfg.dataRate } else q).Bounded cfg := by
    split
    · exact { h with
        rate_le := Nat.le_refl _
        target_le := Nat.le_refl _
        le_rate := (lowerRate_le_minRate cfg).trans hCfg.minRate_le
        le_target := (lowerRate_le_minRate cfg).trans hCfg.minRate_le
        fresh := fun hFirst => ⟨rfl, (h.fresh hFirst).2⟩ }
    · exact h
  unfold Mlx.receiveCnp cnpReceivedMlx
  dsimp only
  generalize (if q.rate = 0 then
    { q with rate := cfg.dataRate, targetRate := cfg.dataRate } else q) = p at hReady ⊢
  split
  · rename_i hFirst
    have hRate := (hReady.fresh hFirst).1
    exact {
      rate_le := by dsimp only; rw [hRate]; exact firstCut_le hCfg
      target_le := by dsimp only; rw [hRate]; exact firstCut_le hCfg
      le_rate := by dsimp only; rw [hRate]; exact lowerRate_le_firstCut cfg
      le_target := by dsimp only; rw [hRate]; exact lowerRate_le_firstCut cfg
      alpha_nonneg := zero_le_one
      alpha_le_one := le_refl _
      fresh := fun hAgain => absurd hAgain Bool.false_ne_true }
  · rename_i hLater
    exact { hReady with fresh := fun hFirst => absurd hFirst hLater }

theorem Bounded.checkRateDecreaseMlx (hCfg : cfg.Sensible) {q : Mlx} (h : q.Bounded cfg)
    (hTimer : q.decreaseRateTimer = true) : (q.checkRateDecreaseMlx cfg).Bounded cfg := by
  have hFresh : q.firstCnp ≠ true := by
    intro hFirst
    have hOff := (h.fresh hFirst).2.2.1
    rw [hTimer] at hOff
    cases hOff
  unfold Mlx.checkRateDecreaseMlx
  split
  · have hHalf : q.alpha / 2 ≤ 1 := by linarith [h.alpha_le_one]
    have hCut : truncate (q.rate * (1 - q.alpha / 2)) ≤ q.rate := by
      refine truncate_le (mul_le_of_le_one_right (Nat.cast_nonneg _) ?_)
      linarith [h.alpha_nonneg]
    refine { h with rate_le := ?_, target_le := ?_, le_rate := ?_, le_target := ?_, fresh := ?_ }
    · exact max_le hCfg.minRate_le (hCut.trans h.rate_le)
    · dsimp only
      split
      · exact h.rate_le
      · exact h.target_le
    · exact (lowerRate_le_minRate cfg).trans (le_max_left _ _)
    · dsimp only
      split
      · exact h.le_rate
      · exact h.le_target
    · exact fun hFirst => absurd hFirst hFresh
  · exact { h with fresh := fun hFirst => absurd hFirst hFresh }

/-- `RateIncEventMlx` halves the distance to the target, which only the later phases move. -/
theorem increasePhase_cases (cfg : DcqcnConfig) (q : Mlx) :
    max q.rpTimeStage q.rpByteStage < cfg.rpgThreshold ∧ q.increasePhase cfg = q.fastRecoveryMlx ∨
      cfg.rpgThreshold ≤ max q.rpTimeStage q.rpByteStage ∧ ∃ increment,
        (increment = cfg.rai ∨ increment = cfg.rhai) ∧
          q.increasePhase cfg = q.increase cfg increment := by
  unfold increasePhase
  dsimp only
  split
  · rename_i hFast
    exact Or.inl ⟨hFast, rfl⟩
  · rename_i hLate
    refine Or.inr ⟨not_lt.mp hLate, ?_⟩
    split_ifs
    · exact ⟨cfg.rai, Or.inl rfl, rfl⟩
    · exact ⟨cfg.rhai, Or.inr rfl, rfl⟩
    · exact ⟨cfg.rai, Or.inl rfl, rfl⟩

/-- The target after an increase, where the sum does not wrap around. -/
theorem addU64_increment (hCfg : cfg.Sensible) {target increment : Nat}
    (hTarget : target ≤ cfg.dataRate) (hIncrement : increment = cfg.rai ∨ increment = cfg.rhai) :
    addU64 target increment = target + increment := by
  have hRai := hCfg.rai_fits
  have hRhai := hCfg.rhai_fits
  refine Nat.mod_eq_of_lt ?_
  rcases hIncrement with rfl | rfl
  · omega
  · omega

theorem Bounded.fastRecoveryMlx {q : Mlx} (h : q.Bounded cfg) (hLater : q.firstCnp ≠ true) :
    q.fastRecoveryMlx.Bounded cfg := by
  have hRate := h.rate_le
  have hTarget := h.target_le
  have hLow := h.le_rate
  have hLowTarget := h.le_target
  refine { h with rate_le := ?_, le_rate := ?_, fresh := fun hFirst => absurd hFirst hLater }
  · show q.rate / 2 + q.targetRate / 2 ≤ cfg.dataRate
    omega
  · show cfg.lowerRate ≤ q.rate / 2 + q.targetRate / 2
    unfold DcqcnConfig.lowerRate at hLow hLowTarget ⊢
    omega

theorem Bounded.rateIncEventMlx (hCfg : cfg.Sensible) {q : Mlx} (h : q.Bounded cfg)
    (hLater : q.firstCnp ≠ true) (byTimer : Bool) :
    (q.rateIncEventMlx cfg byTimer).Bounded cfg ∧
      (q.rateIncEventMlx cfg byTimer).firstCnp = q.firstCnp := by
  have hPhase : (q.increasePhase cfg).Bounded cfg ∧ (q.increasePhase cfg).firstCnp = q.firstCnp := by
    rcases increasePhase_cases cfg q with ⟨-, hFast⟩ | ⟨-, increment, hIncrement, hMore⟩
    · rw [hFast]
      exact ⟨h.fastRecoveryMlx hLater, rfl⟩
    · rw [hMore]
      have hSum := addU64_increment hCfg h.target_le hIncrement
      have hRaised : ({ q with targetRate := min (addU64 q.targetRate increment) cfg.dataRate } :
          Mlx).Bounded cfg := by
        refine { h with target_le := min_le_right _ _, le_target := ?_ }
        rw [hSum]
        exact le_min (h.le_target.trans (Nat.le_add_right _ _)) (h.le_rate.trans h.rate_le)
      exact ⟨hRaised.fastRecoveryMlx hLater, rfl⟩
  have hLaterPhase : (q.increasePhase cfg).firstCnp ≠ true := by
    rw [hPhase.2]
    exact hLater
  unfold Mlx.rateIncEventMlx
  dsimp only
  split
  · exact ⟨{ hPhase.1 with fresh := fun hFirst => absurd hFirst hLaterPhase }, hPhase.2⟩
  · exact ⟨{ hPhase.1 with fresh := fun hFirst => absurd hFirst hLaterPhase }, hPhase.2⟩

theorem Bounded.iterate (hCfg : cfg.Sensible) (n : Nat) {q : Mlx} (h : q.Bounded cfg)
    (hLater : q.firstCnp ≠ true) : ((Mlx.rateIncEventMlx cfg false)^[n] q).Bounded cfg := by
  induction n generalizing q with
  | zero => exact h
  | succ n ih =>
    have hNext := h.rateIncEventMlx hCfg hLater false
    rw [Function.iterate_succ_apply]
    exact ih hNext.1 (hNext.2 ▸ hLater)

theorem Bounded.step (hCfg : cfg.Sensible) {q t : Mlx} {e : DcqcnEvent} (h : q.Bounded cfg)
    (hStep : (dcqcn cfg).step q e = some t) : t.Bounded cfg := by
  cases e with
  | cnp =>
    cases hStep
    exact h.receiveCnp hCfg
  | updateAlpha =>
    obtain ⟨hTimer, rfl⟩ := Machine.of_guarded hStep
    exact h.updateAlphaMlx hCfg hTimer
  | checkRateDecrease =>
    obtain ⟨hTimer, rfl⟩ := Machine.of_guarded hStep
    exact h.checkRateDecreaseMlx hCfg hTimer
  | rateIncTimer =>
    obtain ⟨hTimer, rfl⟩ := Machine.of_guarded hStep
    have hLater : q.firstCnp ≠ true := by
      intro hFirst
      have hOff := (h.fresh hFirst).2.2.2
      rw [hTimer] at hOff
      cases hOff
    have hArmed : ({ q with rpTimer := true } : Mlx).Bounded cfg :=
      { h with fresh := fun hFirst => absurd hFirst hLater }
    exact (hArmed.rateIncEventMlx hCfg hLater true).1
  | pktSent pktSize =>
    cases hStep
    unfold Mlx.pktSent
    split
    · exact h
    · rename_i hCounts
      have hCounted : ({ q with rpByteCounterBytes :=
          (q.rpByteCounterBytes + pktSize) % cfg.rpgByteReset } : Mlx).Bounded cfg := { h with }
      exact hCounted.iterate hCfg _ fun hFirst => hCounts (Or.inl hFirst)
  | qpComplete =>
    cases hStep
    exact { h with fresh := fun hFirst => ⟨(h.fresh hFirst).1, rfl, rfl, rfl⟩ }

end Mlx

theorem bounded_of_reachable {cfg : DcqcnConfig} (hCfg : cfg.Sensible) {q : Mlx}
    (h : (dcqcn cfg).Reachable q) : q.Bounded cfg :=
  Machine.reachable_induction (Mlx.bounded_init hCfg) (fun _ _ _ hs hNext => hs.step hCfg hNext) h

/-- In every run, the rate and the target of a DCQCN sender stay between the lower bound, which is
rounded down to an even number, and the rate of the device, and its estimate of the congestion is a
share. -/
theorem dcqcn_rate_bounds {cfg : DcqcnConfig} (hCfg : cfg.Sensible) {q : Mlx}
    (h : (dcqcn cfg).Reachable q) :
    (cfg.lowerRate ≤ q.rate ∧ q.rate ≤ cfg.dataRate) ∧
      (cfg.lowerRate ≤ q.targetRate ∧ q.targetRate ≤ cfg.dataRate) ∧
      0 ≤ q.alpha ∧ q.alpha ≤ 1 := by
  have hBounded := bounded_of_reachable hCfg h
  exact ⟨⟨hBounded.le_rate, hBounded.rate_le⟩, ⟨hBounded.le_target, hBounded.target_le⟩,
    hBounded.alpha_nonneg, hBounded.alpha_le_one⟩

/-! ## Recovery -/

/-- The increases that bring the target of a QP up to the device's rate: those of fast recovery, and
enough of the later ones. -/
def DcqcnConfig.climb (cfg : DcqcnConfig) : Nat :=
  2 * cfg.rpgThreshold + cfg.dataRate / min cfg.rai cfg.rhai + 1

/-- The increases that bring the rate up, too. -/
def DcqcnConfig.recovery (cfg : DcqcnConfig) : Nat := cfg.climb + cfg.dataRate.size

namespace Mlx

variable {cfg : DcqcnConfig} {stages : Nat}

/-- The increases of one event. -/
def increases (cfg : DcqcnConfig) (q : Mlx) : DcqcnEvent → Nat
  | .rateIncTimer => 1
  | .pktSent pktSize =>
    if q.firstCnp ∨ cfg.rpgByteReset = 0 then 0
    else (q.rpByteCounterBytes + pktSize) / cfg.rpgByteReset
  | _ => 0

/-- A QP after `n` increases without a CNP, which began at the given sum of the stages. -/
structure Recovering (cfg : DcqcnConfig) (stages n : Nat) (q : Mlx) : Prop where
  quiet : q.decreaseCnpArrived = false
  rate_le : q.rate ≤ cfg.dataRate
  target_le : q.targetRate ≤ cfg.dataRate
  stage : q.rpTimeStage + q.rpByteStage = stages + n
  target : min cfg.dataRate ((n - 2 * cfg.rpgThreshold) * min cfg.rai cfg.rhai) ≤ q.targetRate
  /-- Once the target is up, every increase halves the rest. -/
  gap : ∀ j, cfg.climb + j ≤ n → cfg.dataRate - q.rate ≤ cfg.dataRate / 2 ^ j + 2

/-- The target is up. -/
theorem Recovering.target_eq (hUp : 0 < min cfg.rai cfg.rhai) {n : Nat} {q : Mlx}
    (h : q.Recovering cfg stages n) (hClimb : cfg.climb ≤ n) : q.targetRate = cfg.dataRate := by
  refine Nat.le_antisymm h.target_le (le_trans (le_min (Nat.le_refl _) ?_) h.target)
  unfold DcqcnConfig.climb at hClimb
  calc cfg.dataRate
      ≤ min cfg.rai cfg.rhai * (cfg.dataRate / min cfg.rai cfg.rhai + 1) :=
        (Nat.lt_mul_div_succ _ hUp).le
    _ ≤ min cfg.rai cfg.rhai * (n - 2 * cfg.rpgThreshold) := Nat.mul_le_mul_left _ (by omega)
    _ = (n - 2 * cfg.rpgThreshold) * min cfg.rai cfg.rhai := Nat.mul_comm _ _

/-- Half of the way to the target, both halves rounded down. -/
theorem gap_halves {rate dataRate j : Nat} (hRate : rate ≤ dataRate)
    (hGap : dataRate - rate ≤ dataRate / 2 ^ j + 2) :
    dataRate - (rate / 2 + dataRate / 2) ≤ dataRate / 2 ^ (j + 1) + 2 := by
  have hHalf : dataRate / 2 ^ (j + 1) = dataRate / 2 ^ j / 2 := by
    rw [Nat.pow_succ, Nat.div_div_eq_div_mul]
  omega

/-- The target and the rate after one increase. -/
theorem Recovering.increasePhase (hCfg : cfg.Sensible) {n : Nat} {q : Mlx}
    (h : q.Recovering cfg stages n) : ∃ target,
      min cfg.dataRate ((n + 1 - 2 * cfg.rpgThreshold) * min cfg.rai cfg.rhai) ≤ target ∧
        q.targetRate ≤ target ∧ target ≤ cfg.dataRate ∧
        q.increasePhase cfg = { q with targetRate := target, rate := q.rate / 2 + target / 2 } := by
  have hStage := h.stage
  have hTarget := h.target
  have hLe := h.target_le
  rcases increasePhase_cases cfg q with ⟨hFast, hPhase⟩ | ⟨-, increment, hIncrement, hPhase⟩
  · refine ⟨q.targetRate, ?_, Nat.le_refl _, h.target_le, hPhase⟩
    -- Fast recovery is over after that many increases.
    have hEarly : n + 1 - 2 * cfg.rpgThreshold = 0 := by omega
    rw [hEarly, Nat.zero_mul]
    exact (min_le_right _ _).trans (Nat.zero_le _)
  · have hSum := addU64_increment hCfg h.target_le hIncrement
    have hLeast : min cfg.rai cfg.rhai ≤ increment := by
      rcases hIncrement with rfl | rfl
      · exact min_le_left _ _
      · exact min_le_right _ _
    refine ⟨min (addU64 q.targetRate increment) cfg.dataRate, ?_, ?_, min_le_right _ _, hPhase⟩
    · have hMul : (n + 1 - 2 * cfg.rpgThreshold) * min cfg.rai cfg.rhai ≤
          (n - 2 * cfg.rpgThreshold) * min cfg.rai cfg.rhai + min cfg.rai cfg.rhai := by
        rw [← Nat.succ_mul]
        exact Nat.mul_le_mul_right _ (by omega)
      rw [hSum]
      omega
    · rw [hSum]
      omega

theorem Recovering.rateIncEventMlx (hCfg : cfg.Sensible) (hUp : 0 < min cfg.rai cfg.rhai)
    {n : Nat} {q : Mlx} (h : q.Recovering cfg stages n) (hFits : stages + n + 1 < 2 ^ 32)
    (byTimer : Bool) : (q.rateIncEventMlx cfg byTimer).Recovering cfg stages (n + 1) := by
  obtain ⟨target, hTarget, hMore, hLe, hPhase⟩ := h.increasePhase hCfg
  have hStage := h.stage
  have hRate := h.rate_le
  have hTime : addU32 q.rpTimeStage 1 = q.rpTimeStage + 1 := Nat.mod_eq_of_lt (by omega)
  have hByte : addU32 q.rpByteStage 1 = q.rpByteStage + 1 := Nat.mod_eq_of_lt (by omega)
  have hNext : q.rate / 2 + target / 2 ≤ cfg.dataRate := by omega
  have hGap (j : Nat) (hj : cfg.climb + j ≤ n + 1) :
      cfg.dataRate - (q.rate / 2 + target / 2) ≤ cfg.dataRate / 2 ^ j + 2 := by
    cases j with
    | zero =>
      rw [Nat.pow_zero, Nat.div_one]
      omega
    | succ j =>
      have hUpTarget := h.target_eq hUp (by omega)
      have hTargetEq : target = cfg.dataRate := Nat.le_antisymm hLe (hUpTarget ▸ hMore)
      rw [hTargetEq]
      exact gap_halves hRate (h.gap j (by omega))
  unfold Mlx.rateIncEventMlx
  rw [hPhase]
  dsimp only
  split
  · exact ⟨h.quiet, hNext, hLe, by dsimp only; omega, hTarget, hGap⟩
  · exact ⟨h.quiet, hNext, hLe, by dsimp only; omega, hTarget, hGap⟩

theorem Recovering.iterate (hCfg : cfg.Sensible) (hUp : 0 < min cfg.rai cfg.rhai) (k : Nat)
    {n : Nat} {q : Mlx} (h : q.Recovering cfg stages n) (hFits : stages + n + k < 2 ^ 32) :
    ((Mlx.rateIncEventMlx cfg false)^[k] q).Recovering cfg stages (n + k) := by
  induction k generalizing n q with
  | zero => exact h
  | succ k ih =>
    have hRest := ih (h.rateIncEventMlx hCfg hUp (by omega) false) (by omega)
    rw [Nat.add_assoc, Nat.add_comm 1 k] at hRest
    rw [Function.iterate_succ_apply]
    exact hRest

theorem Recovering.step (hCfg : cfg.Sensible) (hUp : 0 < min cfg.rai cfg.rhai) {n : Nat}
    {q t : Mlx} {e : DcqcnEvent} (h : q.Recovering cfg stages n)
    (hFits : stages + n + q.increases cfg e < 2 ^ 32) (hNoCnp : e ≠ .cnp)
    (hStep : (dcqcn cfg).step q e = some t) : t.Recovering cfg stages (n + q.increases cfg e) := by
  cases e with
  | cnp => exact absurd rfl hNoCnp
  | updateAlpha =>
    obtain ⟨-, rfl⟩ := Machine.of_guarded hStep
    exact { h with }
  | checkRateDecrease =>
    obtain ⟨-, rfl⟩ := Machine.of_guarded hStep
    unfold Mlx.checkRateDecreaseMlx
    rw [if_neg (by rw [h.quiet]; exact Bool.false_ne_true)]
    exact { h with }
  | rateIncTimer =>
    obtain ⟨-, rfl⟩ := Machine.of_guarded hStep
    have hArmed : ({ q with rpTimer := true } : Mlx).Recovering cfg stages n := { h with }
    exact hArmed.rateIncEventMlx hCfg hUp hFits true
  | pktSent pktSize =>
    cases hStep
    unfold Mlx.pktSent
    unfold increases at hFits ⊢
    dsimp only at hFits ⊢
    split
    · exact h
    · rename_i hCounts
      rw [if_neg hCounts] at hFits
      have hCounted : ({ q with rpByteCounterBytes :=
          (q.rpByteCounterBytes + pktSize) % cfg.rpgByteReset } : Mlx).Recovering cfg stages n :=
        { h with }
      exact hCounted.iterate hCfg hUp _ hFits
  | qpComplete =>
    cases hStep
    exact { h with }

end Mlx

/-- Without CNPs, a DCQCN sender comes within two bits per second of the device's rate, as soon as
the timer and the byte counter have made enough increases between them. The other timers may fire
at any time. The stages are counters of 32 bits and do not wrap around. -/
theorem dcqcn_recovers {cfg : DcqcnConfig} (hCfg : cfg.Sensible) (hUp : 0 < min cfg.rai cfg.rhai)
    {q t : Mlx} (h : (dcqcn cfg).Reachable q) (hQuiet : q.decreaseCnpArrived = false)
    {es : List DcqcnEvent} (hNoCnp : ∀ e ∈ es, e ≠ .cnp) (hRun : (dcqcn cfg).run q es = some t)
    (hEnough : cfg.recovery ≤ (dcqcn cfg).cost (Mlx.increases cfg) q es)
    (hFits : q.rpTimeStage + q.rpByteStage + (dcqcn cfg).cost (Mlx.increases cfg) q es < 2 ^ 32) :
    cfg.dataRate ≤ t.rate + 2 := by
  have hBounded := bounded_of_reachable hCfg h
  have hStart : q.Recovering cfg (q.rpTimeStage + q.rpByteStage) 0 := {
    quiet := hQuiet
    rate_le := hBounded.rate_le
    target_le := hBounded.target_le
    stage := rfl
    target := by rw [Nat.zero_sub, Nat.zero_mul]; exact (min_le_right _ _).trans (Nat.zero_le _)
    gap := fun j hj => absurd ((Nat.le_add_right _ _).trans hj) (Nat.not_succ_le_zero _) }
  -- The invariant counts the increases of the run.
  have hAll (es : List DcqcnEvent) : ∀ n p, p.Recovering cfg (q.rpTimeStage + q.rpByteStage) n →
      (∀ e ∈ es, e ≠ .cnp) → (dcqcn cfg).run p es = some t →
      q.rpTimeStage + q.rpByteStage + (n + (dcqcn cfg).cost (Mlx.increases cfg) p es) < 2 ^ 32 →
      t.Recovering cfg (q.rpTimeStage + q.rpByteStage)
        (n + (dcqcn cfg).cost (Mlx.increases cfg) p es) := by
    induction es with
    | nil =>
      intro n p hp _ hRun _
      cases hRun
      exact hp
    | cons e es ih =>
      intro n p hp hNone hRun hFits
      obtain ⟨next, hNext, hRest⟩ := Machine.run_cons_eq_some.mp hRun
      have hCost : (dcqcn cfg).cost (Mlx.increases cfg) p (e :: es) =
          p.increases cfg e + (dcqcn cfg).cost (Mlx.increases cfg) next es := by
        rw [Machine.cost, hNext]
        rfl
      rw [hCost] at hFits ⊢
      have hStepped := hp.step hCfg hUp (by omega) (hNone e List.mem_cons_self) hNext
      rw [← Nat.add_assoc n] at hFits ⊢
      exact ih _ next hStepped (fun f hf => hNone f (List.mem_cons_of_mem _ hf)) hRest hFits
  have hEnd := hAll es 0 q hStart hNoCnp hRun (by omega)
  rw [Nat.zero_add] at hEnd
  have hGap := hEnd.gap cfg.dataRate.size hEnough
  have hSmall : cfg.dataRate / 2 ^ cfg.dataRate.size = 0 :=
    Nat.div_eq_of_lt (Nat.lt_size_self cfg.dataRate)
  rw [hSmall] at hGap
  omega

/-- A device of 1000 bits per second, whose QP is cut to a half by its first CNP. -/
def dcqcnSampleConfig : DcqcnConfig where
  dataRate := 1000
  minRate := 100
  rai := 100
  rhai := 400
  g := 1 / 16
  rateOnFirstCnp := 1
  ecnClampTgtRate := false
  rpgThreshold := 2
  rpgByteReset := 0

theorem dcqcnSampleConfig_sensible : dcqcnSampleConfig.Sensible where
  g_nonneg := by decide +kernel
  g_le_one := by decide +kernel
  rateOnFirstCnp_nonneg := by decide
  rateOnFirstCnp_le_one := by decide
  minRate_le := by decide
  rai_fits := by decide
  rhai_fits := by decide

theorem dcqcn_rate_bounds_sample :
    ∃ q, (dcqcn dcqcnSampleConfig).run (dcqcn dcqcnSampleConfig).init
        [.cnp, .checkRateDecrease, .updateAlpha, .cnp, .checkRateDecrease, .rateIncTimer] =
        some q ∧ 100 ≤ q.rate ∧ q.rate ≤ 1000 := by
  have hRun : ((dcqcn dcqcnSampleConfig).run (dcqcn dcqcnSampleConfig).init
      [.cnp, .checkRateDecrease, .updateAlpha, .cnp, .checkRateDecrease, .rateIncTimer]).isSome =
      true := by
    decide +kernel
  obtain ⟨q, hq⟩ := Option.isSome_iff_exists.mp hRun
  have hLower : dcqcnSampleConfig.lowerRate = 100 := by decide +kernel
  exact ⟨q, hq, hLower ▸ (dcqcn_rate_bounds dcqcnSampleConfig_sensible ⟨_, hq⟩).1⟩

theorem dcqcn_recovers_sample :
    ∃ q t, (dcqcn dcqcnSampleConfig).run (dcqcn dcqcnSampleConfig).init [.cnp, .checkRateDecrease] =
        some q ∧ q.rate = 500 ∧
      (dcqcn dcqcnSampleConfig).run q (List.replicate 30 .rateIncTimer) = some t ∧
      1000 ≤ t.rate + 2 := by
  have hRun : ((dcqcn dcqcnSampleConfig).run (dcqcn dcqcnSampleConfig).init
      [.cnp, .checkRateDecrease]).map (fun q => decide (q.rate = 500 ∧
        q.decreaseCnpArrived = false ∧ q.rpTimeStage + q.rpByteStage = 0 ∧
        ((dcqcn dcqcnSampleConfig).run q (List.replicate 30 .rateIncTimer)).isSome = true ∧
        (dcqcn dcqcnSampleConfig).cost (Mlx.increases dcqcnSampleConfig) q
          (List.replicate 30 .rateIncTimer) = 30)) = some true := by
    decide +kernel
  obtain ⟨q, hq, hFacts⟩ := Option.map_eq_some_iff.mp hRun
  obtain ⟨hRate, hQuiet, hStage, hMore, hCost⟩ := of_decide_eq_true hFacts
  obtain ⟨t, ht⟩ := Option.isSome_iff_exists.mp hMore
  have hNoCnp (e : DcqcnEvent) (he : e ∈ List.replicate 30 DcqcnEvent.rateIncTimer) : e ≠ .cnp := by
    rw [List.eq_of_mem_replicate he]
    decide
  refine ⟨q, t, hq, hRate, ht, ?_⟩
  exact dcqcn_recovers dcqcnSampleConfig_sensible (by decide) ⟨_, hq⟩ hQuiet hNoCnp ht
    (by rw [hCost]; decide) (by rw [hCost, hStage]; decide)

end Dpdq.Ns3
