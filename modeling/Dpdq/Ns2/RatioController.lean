import Mathlib.Algebra.Order.Field.Rat
import Dpdq.Lib.Machine
import Dpdq.Ns2.R2p2Hdr

/-!
# The ratio controller of a sender at the receiver

The part of `SenderState` that `update_sender_state` works on: the caps on the credit of a sender,
and the count of packets after which the ratios of marked packets are brought up to date.
`update_nw_state` and the part of `update_sn_state` for marks are the same code on other fields, so
they are one definition, `EcnLoop.update`.

The doubles of the source are rational numbers. A step that ends in an exception, in a failed
assertion or in a division by the integer 0 yields `none`.
-/

namespace Dpdq.Ns2

open Dpdq.Lib

/-! ## State -/

/-- A cast of a double to `int`. -/
def truncateToInt (x : Rat) : Int := if 0 ≤ x then x.floor else x.ceil

/-- A cast of a double to `uint32_t`; what it is for a negative one depends on the machine. -/
def truncateToUint32 (x : Rat) : Nat := (truncateToInt x).toNat % 2 ^ 32

/-- The parameters, with what `init` asserts of them. -/
structure RatioConfig where
  maxSrpb : Int
  ecnMinMul : Rat
  ecnMinMulNw : Rat
  ceNewWeight : Rat
  additiveIncrMul : Int
  ecnCapable : Bool
  senderMarkAimd : Bool
  senderAlgo : Nat
  priorityFlow : Bool
  linkSpeedGbps : Rat
  eta : Rat
  wai : Nat
  maxStage : Nat
  maxSrpb_ne_zero : maxSrpb ≠ 0
  maxSrpb_lt : maxSrpb < 2 ^ 31
  ecnMinMulNw_pos : 0 < ecnMinMulNw
  additiveIncrMul_ne : additiveIncrMul ≠ -1
  eta_ne : eta ≠ -1

namespace RatioConfig

variable (cfg : RatioConfig)

def hostMinSrpb : Int := truncateToInt (cfg.ecnMinMul * cfg.maxSrpb)

def nwMinSrpb : Int := truncateToInt (cfg.ecnMinMulNw * cfg.maxSrpb)

def rttS : Rat := (cfg.maxSrpb * 8 / 1000 / 1000 / 1000) / cfg.linkSpeedGbps

end RatioConfig

/-- One of the two control loops, for the marks of the network or for those of the sender. -/
structure EcnLoop where
  maxSrpbBytes : Int
  markedRatio : Rat := 0
  pktsMarkedSinceLastRatioUpdate : Nat := 0
  pktsSinceLastWndUpdate : Nat := 0
  pktsAtNextWndUpdate : Nat
  ecnBurst : Bool := false
deriving DecidableEq

structure RatioState where
  nw : EcnLoop
  host : EcnLoop
  maxSrpbBytes : Int
  srpbCeiling : Int
  pktsSinceLastRatioUpdate : Nat := 0
  pktsAtNextRatioUpdate : Nat := 1
  prevQlen : Nat := 0
  prevU : Rat := 0
  wc : Rat
  incStage : Nat := 0
deriving DecidableEq

/-- The constructor of `SenderState`. -/
def RatioState.new (srpbBytes : Int) : RatioState :=
  let loop : EcnLoop :=
    { maxSrpbBytes := srpbBytes
      pktsAtNextWndUpdate := (srpbBytes.tdiv maxEthernetFrameOnWire).toNat }
  { nw := loop
    host := loop
    maxSrpbBytes := srpbBytes
    srpbCeiling := srpbBytes
    wc := srpbBytes }

/-- What `update_sender_state` reads of a packet. -/
structure RatioPkt where
  ect : Bool
  ce : Bool
  senderMarked : Bool
  isRequest : Bool
  priorityFlow : Bool
  qlen : Nat := 0
  txRateBps : Rat := 0
  dt : Rat := 0
  bandwidth : Rat := 0

/-! ## The loops for marks -/

namespace EcnLoop

/-- The packet is counted, and the burst of marks followed. -/
def count (cfg : RatioConfig) (l : EcnLoop) (isMarked : Bool) : EcnLoop :=
  { l with
    pktsSinceLastWndUpdate := (l.pktsSinceLastWndUpdate + 1) % 2 ^ 32
    pktsMarkedSinceLastRatioUpdate :=
      if isMarked then (l.pktsMarkedSinceLastRatioUpdate + 1) % 2 ^ 32
      else l.pktsMarkedSinceLastRatioUpdate
    ecnBurst :=
      if cfg.ecnCapable then
        if ¬ l.ecnBurst ∧ isMarked then true
        else if l.ecnBurst ∧ ¬ isMarked then false
        else l.ecnBurst
      else l.ecnBurst }

/-- The moving average of the ratio of marked packets. -/
def updateRatio (cfg : RatioConfig) (pktsSince : Nat) (l : EcnLoop) : EcnLoop :=
  { l with
    markedRatio := (1 - cfg.ceNewWeight) * l.markedRatio +
      cfg.ceNewWeight * (l.pktsMarkedSinceLastRatioUpdate / pktsSince)
    pktsMarkedSinceLastRatioUpdate := 0 }

/-- The loop with the packet counted and, where it is due, its ratio brought up to date. -/
def observe (cfg : RatioConfig) (pktsSince : Nat) (updateRatios isMarked : Bool) (l : EcnLoop) :
    EcnLoop :=
  if updateRatios then (l.count cfg isMarked).updateRatio cfg pktsSince else l.count cfg isMarked

def shouldAi (cfg : RatioConfig) (l : EcnLoop) (isMarked : Bool) : Bool :=
  cfg.ecnCapable ∧ (¬ isMarked ∨ l.ecnBurst)

/-- `nw_change` for a cap in force that is not 0. -/
def change (cfg : RatioConfig) (maxSrpbBytes : Int) (isMarked : Bool) (l : EcnLoop) : Rat :=
  (if l.shouldAi cfg isMarked then
    (cfg.additiveIncrMul : Rat) *
      ((maxEthernetFrameOnWire * maxEthernetFrameOnWire : Nat) : Int).tdiv maxSrpbBytes
  else 0) -
  if isMarked ∧ l.pktsAtNextWndUpdate ≤ l.pktsSinceLastWndUpdate then
    l.maxSrpbBytes * l.markedRatio / 2
  else 0

/-- The window of packets starts again once it has led to a decrease. -/
def restartWindow (maxSrpbBytes : Int) (isMarked : Bool) (l : EcnLoop) : EcnLoop :=
  if isMarked ∧ l.pktsAtNextWndUpdate ≤ l.pktsSinceLastWndUpdate then
    { l with
      pktsSinceLastWndUpdate := 0
      pktsAtNextWndUpdate := truncateToUint32 (3 / 2 * maxSrpbBytes / maxEthernetFrameOnWire) }
  else l

/-- The new cap, at least `minSrpb` and then at most `max_srpb_`. -/
def setCap (cfg : RatioConfig) (minSrpb : Int) (window : Rat) (l : EcnLoop) : EcnLoop :=
  { l with maxSrpbBytes := min (max minSrpb (truncateToInt window)) cfg.maxSrpb }

/-- `update_nw_state` and the first part of `update_sn_state`. The additive increase divides by the
cap in force. -/
def update (cfg : RatioConfig) (minSrpb maxSrpbBytes : Int) (pktsSince : Nat)
    (updateRatios isMarked : Bool) (l : EcnLoop) : Option EcnLoop :=
  let l := l.observe cfg pktsSince updateRatios isMarked
  if l.shouldAi cfg isMarked ∧ maxSrpbBytes = 0 then none
  else
    some ((l.restartWindow maxSrpbBytes isMarked).setCap cfg minSrpb
      (l.maxSrpbBytes + l.change cfg maxSrpbBytes isMarked))

end EcnLoop

/-! ## `update_sender_state` -/

namespace RatioState

variable (cfg : RatioConfig) (s : RatioState) (pkt : RatioPkt)

/-- `pkts_since_last_ratio_update_ == pkts_at_next_ratio_update_`. -/
def updateRatios : Bool := s.pktsSinceLastRatioUpdate = s.pktsAtNextRatioUpdate

def countPkt : RatioState :=
  { s with pktsSinceLastRatioUpdate := (s.pktsSinceLastRatioUpdate + 1) % 2 ^ 32 }

def nwIsMarked : Bool := cfg.ecnCapable ∧ pkt.ect ∧ pkt.ce

def hostIsMarked : Bool := cfg.ecnCapable ∧ pkt.ect ∧ pkt.senderMarked

def updateNwState : Option RatioState :=
  (s.nw.update cfg cfg.nwMinSrpb s.maxSrpbBytes s.pktsSinceLastRatioUpdate s.updateRatios
    (nwIsMarked cfg pkt)).map fun nw => { s with nw }

/-- `u_new` after the filter. -/
def utilization : Rat :=
  let qlen := min s.prevQlen pkt.qlen
  let bwBps := pkt.bandwidth / 8 * 1000 * 1000 * 1000
  let bdp := bwBps * cfg.rttS
  let tau := min pkt.dt cfg.rttS
  (1 - tau / cfg.rttS) * s.prevU + tau / cfg.rttS * (qlen / bdp + pkt.txRateBps / bwBps)

/-- The branch that scales the window by the utilization. -/
def scales : Bool := cfg.eta ≤ s.utilization cfg pkt ∨ cfg.maxStage ≤ s.incStage

def newSrpb : Rat :=
  min (if s.scales cfg pkt then s.wc / (s.utilization cfg pkt / cfg.eta) + cfg.wai
    else s.wc + cfg.wai) cfg.maxSrpb

/-- `sender_algo_` 100 and 101, with its assertions. -/
def updateHpcc : Option RatioState :=
  if 0 < pkt.txRateBps ∧ pkt.txRateBps * 8 / 1000000000 ≤ 11 / 10 * cfg.linkSpeedGbps ∧
      0 < pkt.dt then
    some
      { s with
        host := s.host.setCap cfg cfg.hostMinSrpb (s.newSrpb cfg pkt)
        prevQlen := pkt.qlen
        prevU := s.utilization cfg pkt
        wc := if s.updateRatios then s.host.maxSrpbBytes else s.wc
        incStage :=
          if s.updateRatios then if s.scales cfg pkt then 0 else (s.incStage + 1) % 2 ^ 32
          else s.incStage }
  else none

/-- `sender_algo_` 2 and 3 end in an exception, as does any other number. -/
def updateSnState : Option RatioState :=
  if cfg.senderAlgo = 0 ∨ cfg.senderAlgo = 1 then
    (s.host.update cfg cfg.hostMinSrpb s.maxSrpbBytes s.pktsSinceLastRatioUpdate s.updateRatios
      (hostIsMarked cfg pkt)).map fun host => { s with host }
  else if cfg.senderAlgo = 100 ∨ cfg.senderAlgo = 101 then s.updateHpcc cfg pkt
  else none

/-- Without `sender_mark_aimd_` the cap for the marks of the sender stays open. -/
def openLoop : RatioState :=
  { s with
    host := { s.host with
      maxSrpbBytes := s.srpbCeiling
      markedRatio := 0
      pktsMarkedSinceLastRatioUpdate := 0 } }

def updateHostState : Option RatioState :=
  if cfg.senderMarkAimd then s.updateSnState cfg pkt else some s.openLoop

/-- A request of a flow with priority opens the cap in force for once. -/
def opens : Bool := cfg.priorityFlow ∧ pkt.priorityFlow ∧ pkt.isRequest

def setMaxSrpb : RatioState :=
  { s with
    maxSrpbBytes :=
      if opens cfg pkt then s.srpbCeiling else min s.nw.maxSrpbBytes s.host.maxSrpbBytes }

def setNextUpdate : RatioState :=
  { s with
    pktsSinceLastRatioUpdate := 0
    pktsAtNextRatioUpdate := truncateToUint32 (s.maxSrpbBytes / maxEthernetFrameOnWire) }

def updateSenderState : Option RatioState := do
  let s₁ ← s.countPkt.updateNwState cfg pkt
  let s₂ ← s₁.updateHostState cfg pkt
  let s₃ := s₂.setMaxSrpb cfg pkt
  return if s.countPkt.updateRatios then s₃.setNextUpdate else s₃

end RatioState

end Dpdq.Ns2
