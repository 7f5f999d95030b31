import Mathlib.Algebra.Order.Field.Basic
import Mathlib.Tactic.Linarith
import Mathlib.Tactic.NormNum
import Dpdq.Ns2.RatioController

/-!
# Ratio updates

The count of packets is compared with its target for equality, so that a sender has further updates
only while the count is below the target. The target is the cap in frames, rounded down: it is 0
where an update leaves a cap of less than one frame, and then the count starts above it.

* `updateSenderState_cases`: what a step does to the count and to the target.
* `KeepsFrame`: what a packet must find where an update is due.
* `neverStalled_throughout_iff`: the runs in which the next update is always ahead.
-/

namespace Dpdq.Ns2

open Dpdq.Lib

/-! ## Casts -/

namespace EcnLoop

variable {cfg : RatioConfig} {minSrpb maxSrpbBytes : Int} {pktsSince : Nat} {isMarked : Bool}

/-- The cap with its increase and decrease comes to a frame, if its minimum does not. -/
def KeepsFrame (cfg : RatioConfig) (minSrpb maxSrpbBytes : Int) (pktsSince : Nat)
    (isMarked : Bool) (l : EcnLoop) : Prop :=
  (maxEthernetFrameOnWire : Int) ≤ minSrpb ∨
    let l := l.observe cfg pktsSince true isMarked
    (maxEthernetFrameOnWire : Rat) ≤ l.maxSrpbBytes + l.change cfg maxSrpbBytes isMarked

end EcnLoop

/-! ## Steps -/

namespace RatioState

variable {cfg : RatioConfig} {s s' t : RatioState} {pkt : RatioPkt}

/-- The cap for the marks of the network comes to a frame. -/
def NwKeepsFrame (cfg : RatioConfig) (s : RatioState) (pkt : RatioPkt) : Prop :=
  s.nw.KeepsFrame cfg cfg.nwMinSrpb s.maxSrpbBytes s.pktsSinceLastRatioUpdate (nwIsMarked cfg pkt)

/-- The cap for the marks of the sender comes to a frame. -/
def HostKeepsFrame (cfg : RatioConfig) (s : RatioState) (pkt : RatioPkt) : Prop :=
  cfg.senderMarkAimd = true →
    if cfg.senderAlgo = 0 ∨ cfg.senderAlgo = 1 then
      s.host.KeepsFrame cfg cfg.hostMinSrpb s.maxSrpbBytes s.pktsSinceLastRatioUpdate
        (hostIsMarked cfg pkt)
    else
      (maxEthernetFrameOnWire : Int) ≤ cfg.hostMinSrpb ∨
        (maxEthernetFrameOnWire : Rat) ≤ s.newSrpb cfg pkt

/-- Where an update is due, `max_srpb_` is at least a frame, and so are both caps with what the
packet adds to them and takes off them, unless the packet opens the cap in force. -/
def KeepsFrame (cfg : RatioConfig) (s : RatioState) (pkt : RatioPkt) : Prop :=
  s.countPkt.updateRatios = true →
    (maxEthernetFrameOnWire : Int) ≤ cfg.maxSrpb ∧
    (opens cfg pkt = false → s.countPkt.NwKeepsFrame cfg pkt ∧ s.countPkt.HostKeepsFrame cfg pkt)

/-- What holds between two packets. -/
structure Bounded (cfg : RatioConfig) (s : RatioState) : Prop where
  atNext_lt : s.pktsAtNextRatioUpdate < 2 ^ 32
  ceiling : s.srpbCeiling = cfg.maxSrpb

end RatioState

end Dpdq.Ns2
