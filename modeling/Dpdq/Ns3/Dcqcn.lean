import Mathlib.Data.Nat.Size
import Dpdq.Lib.Machine
import Dpdq.Ns3.CbAimd
import Dpdq.Ns3.Word

/-!
# The rate of a DCQCN sender

The Mellanox version of DCQCN in `rdma-hw.cc` (`m_cc_mode` 1): what a CNP, the three timers and the
byte counter of `PktSent` do to the rate of a QP. Whether a timer is scheduled is part of the state,
and a scheduled timer may fire at any time, so every order of the events is a run.

The doubles of the source are rationals here, and a cast to an integer rounds down.
-/

namespace Dpdq.Ns3

open Dpdq.Lib

/-! ## Configuration and state -/

/-- The attributes of `RdmaHw` that DCQCN reads, and the rate of the device. -/
structure DcqcnConfig where
  dataRate : Nat
  minRate : Nat
  rai : Nat
  rhai : Nat
  g : ℚ
  rateOnFirstCnp : ℚ
  ecnClampTgtRate : Bool
  rpgThreshold : Nat
  rpgByteReset : Nat

/-- `m_rate` and the struct `mlx` of a QP. The timers are `m_eventUpdateAlpha`,
`m_eventDecreaseRate` and `m_rpTimer`. -/
structure Mlx where
  rate : Nat
  targetRate : Nat
  alpha : ℚ := 1
  alphaCnpArrived : Bool := false
  firstCnp : Bool := true
  decreaseCnpArrived : Bool := false
  rpTimeStage : Nat := 0
  rpByteStage : Nat := 0
  rpByteCounterBytes : Nat := 0
  updateAlphaTimer : Bool := false
  decreaseRateTimer : Bool := false
  rpTimer : Bool := false

namespace Mlx

/-! ## The handlers -/

def updateAlphaMlx (cfg : DcqcnConfig) (q : Mlx) : Mlx :=
  { q with
    alpha := if q.alphaCnpArrived then (1 - cfg.g) * q.alpha + cfg.g else (1 - cfg.g) * q.alpha
    alphaCnpArrived := false
    updateAlphaTimer := true }

/-- `cnp_received_mlx`. -/
def cnpReceivedMlx (cfg : DcqcnConfig) (q : Mlx) : Mlx :=
  if q.firstCnp then
    let rate := truncate (cfg.rateOnFirstCnp * q.rate)
    { q with
      alpha := 1
      alphaCnpArrived := false
      decreaseCnpArrived := true
      updateAlphaTimer := true
      decreaseRateTimer := true
      rate := rate
      targetRate := rate
      firstCnp := false }
  else { q with alphaCnpArrived := true, decreaseCnpArrived := true }

/-- `ReceiveCnp`: a rate of 0 is not initialised yet. -/
def receiveCnp (cfg : DcqcnConfig) (q : Mlx) : Mlx :=
  let q := if q.rate = 0 then { q with rate := cfg.dataRate, targetRate := cfg.dataRate } else q
  q.cnpReceivedMlx cfg

def checkRateDecreaseMlx (cfg : DcqcnConfig) (q : Mlx) : Mlx :=
  if q.decreaseCnpArrived then
    let clamp := cfg.ecnClampTgtRate || max q.rpTimeStage q.rpByteStage ≠ 0
    { q with
      targetRate := if clamp then q.rate else q.targetRate
      rate := max cfg.minRate (truncate (q.rate * (1 - q.alpha / 2)))
      rpTimeStage := 0
      rpByteStage := 0
      rpByteCounterBytes := 0
      decreaseCnpArrived := false
      decreaseRateTimer := true
      rpTimer := true }
  else { q with decreaseRateTimer := true }

def fastRecoveryMlx (q : Mlx) : Mlx := { q with rate := q.rate / 2 + q.targetRate / 2 }

/-- What `ActiveIncreaseMlx` and `HyperIncreaseMlx` do with their increments. -/
def increase (cfg : DcqcnConfig) (increment : Nat) (q : Mlx) : Mlx :=
  { q with targetRate := min (addU64 q.targetRate increment) cfg.dataRate }.fastRecoveryMlx

def activeIncreaseMlx (cfg : DcqcnConfig) (q : Mlx) : Mlx := q.increase cfg cfg.rai

def hyperIncreaseMlx (cfg : DcqcnConfig) (q : Mlx) : Mlx := q.increase cfg cfg.rhai

/-- The phase that `RateIncEventMlx` chooses. -/
def increasePhase (cfg : DcqcnConfig) (q : Mlx) : Mlx :=
  let maxStage := max q.rpTimeStage q.rpByteStage
  let minStage := min q.rpTimeStage q.rpByteStage
  if maxStage < cfg.rpgThreshold then q.fastRecoveryMlx
  else if maxStage > cfg.rpgThreshold ∧ minStage < cfg.rpgThreshold then q.activeIncreaseMlx cfg
  else if minStage > cfg.rpgThreshold then q.hyperIncreaseMlx cfg
  else q.activeIncreaseMlx cfg

def rateIncEventMlx (cfg : DcqcnConfig) (byTimer : Bool) (q : Mlx) : Mlx :=
  let next := q.increasePhase cfg
  if byTimer then { next with rpTimeStage := addU32 q.rpTimeStage 1 }
  else { next with rpByteStage := addU32 q.rpByteStage 1 }

def rateIncEventTimerMlx (cfg : DcqcnConfig) (q : Mlx) : Mlx :=
  { q with rpTimer := true }.rateIncEventMlx cfg true

/-- The byte counter in `PktSent`: one increase for every `m_rpByteResetBytes`. -/
def pktSent (cfg : DcqcnConfig) (pktSize : Nat) (q : Mlx) : Mlx :=
  if q.firstCnp ∨ cfg.rpgByteReset = 0 then q
  else
    let bytes := q.rpByteCounterBytes + pktSize
    (rateIncEventMlx cfg false)^[bytes / cfg.rpgByteReset]
      { q with rpByteCounterBytes := bytes % cfg.rpgByteReset }

/-- `QpComplete` cancels the timers. -/
def qpComplete (q : Mlx) : Mlx :=
  { q with updateAlphaTimer := false, decreaseRateTimer := false, rpTimer := false }

end Mlx

/-! ## Runs -/

inductive DcqcnEvent where
  /-- A CNP for the QP arrives. -/
  | cnp
  | updateAlpha
  | checkRateDecrease
  | rateIncTimer
  /-- A packet of the QP has been sent. -/
  | pktSent (pktSize : Nat)
  | qpComplete
deriving DecidableEq

def Mlx.step (cfg : DcqcnConfig) (q : Mlx) : DcqcnEvent → Option Mlx
  | .cnp => some (q.receiveCnp cfg)
  | .updateAlpha => if q.updateAlphaTimer then some (q.updateAlphaMlx cfg) else none
  | .checkRateDecrease => if q.decreaseRateTimer then some (q.checkRateDecreaseMlx cfg) else none
  | .rateIncTimer => if q.rpTimer then some (q.rateIncEventTimerMlx cfg) else none
  | .pktSent pktSize => some (q.pktSent cfg pktSize)
  | .qpComplete => some q.qpComplete

/-- `AddQueuePair` starts a QP at the rate of the device. -/
def dcqcn (cfg : DcqcnConfig) : Machine Mlx DcqcnEvent where
  init := { rate := cfg.dataRate, targetRate := cfg.dataRate }
  step := Mlx.step cfg

end Dpdq.Ns3
