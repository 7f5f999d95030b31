import Mathlib.Algebra.Order.Field.Rat

/-!
# The AIMD caps of a sender at the receiver

The part of `SenderState` that `UpdateSenderStateAimdOnData` works on. Its network half and its
host half run the same rule on different marks, so the rule is one definition, `AimdLoop.onData`.
The doubles of the source are rationals here, and a cast to an integer rounds down.
-/

namespace Dpdq.Ns3

def cbMaxEthernetFrameOnWire : Nat := 1534

/-- `static_cast` of a non-negative double to an integer. -/
def truncate (x : ℚ) : Nat := x.floor.toNat

/-- `min(1, max(0, x))`. -/
def clampUnit (x : ℚ) : ℚ := min 1 (max 0 x)

/-- One of the two control loops. -/
structure AimdLoop where
  maxSrpbBytes : Nat := 0
  bucketLimitSrpbBytes : Nat := 0
  bucketMinBytes : Nat := 0
  markedRatio : ℚ := 0
  pktsMarkedSinceLastRatioUpdate : Nat := 0
  pktsSinceLastWndUpdate : Nat := 0
  pktsAtNextWndUpdate : Nat := 1
  ecnBurst : Bool := false

structure AimdState where
  /-- The cap in force, `m_maxSrpbBytes`. -/
  maxSrpbBytes : Nat := 0
  srpbCeilingBytes : Nat := 0
  network : AimdLoop := {}
  host : AimdLoop := {}
  aiStepBytes : ℚ := 0
  mdFactor : ℚ := 0
  pktsSinceLastRatioUpdate : Nat := 0
  pktsAtNextRatioUpdate : Nat := 1

namespace AimdLoop

/-- Count the packet and follow the burst of marks. -/
def count (l : AimdLoop) (marked : Bool) : AimdLoop :=
  { l with
    pktsSinceLastWndUpdate := l.pktsSinceLastWndUpdate + 1
    pktsMarkedSinceLastRatioUpdate := l.pktsMarkedSinceLastRatioUpdate + marked.toNat
    ecnBurst :=
      if !l.ecnBurst && marked then true
      else if l.ecnBurst && !marked then false
      else l.ecnBurst }

/-- The moving average of the marked share. -/
def updateRatio (l : AimdLoop) (ceNewWeight : ℚ) (sampleDen : Nat) : AimdLoop :=
  let w := clampUnit ceNewWeight
  { l with
    markedRatio := (1 - w) * l.markedRatio + w * (l.pktsMarkedSinceLastRatioUpdate / sampleDen)
    pktsMarkedSinceLastRatioUpdate := 0 }

/-- Additive increase, then multiplicative decrease once a window of packets has been seen. -/
def adjust (l : AimdLoop) (marked : Bool) (aiBytes : Nat) (mdCoeff : ℚ) (maxSrpbBytes : Nat) :
    AimdLoop :=
  let l := if !marked || l.ecnBurst then { l with maxSrpbBytes := l.maxSrpbBytes + aiBytes } else l
  if marked && l.pktsSinceLastWndUpdate ≥ max 1 l.pktsAtNextWndUpdate then
    let dec := truncate (max 0 (l.maxSrpbBytes * clampUnit l.markedRatio * mdCoeff))
    { l with
      maxSrpbBytes := l.maxSrpbBytes - dec
      pktsSinceLastWndUpdate := 0
      pktsAtNextWndUpdate :=
        max 1 (truncate ((3 / 2) * (max 1 maxSrpbBytes : Nat) / cbMaxEthernetFrameOnWire)) }
  else l

/-- The loop's cap lies between its minimum and the ceiling. -/
def bound (l : AimdLoop) (ceiling : Nat) : AimdLoop :=
  let cap := min (max l.bucketMinBytes l.maxSrpbBytes) ceiling
  { l with maxSrpbBytes := cap, bucketLimitSrpbBytes := cap }

end AimdLoop

namespace AimdState

/-- `UpdateSenderStateAimdOnData` of an enabled sender, without the cut of its pair budget. -/
def onData (a : AimdState) (ceNewWeight : ℚ) (csnMarked ecnMarked priorityFlow : Bool) :
    AimdState :=
  let ceiling := if a.srpbCeilingBytes > 0 then a.srpbCeilingBytes else max 1 a.maxSrpbBytes
  let pkts := a.pktsSinceLastRatioUpdate + 1
  let updateRatios := pkts = max 1 a.pktsAtNextRatioUpdate
  let ratio (l : AimdLoop) := if updateRatios then l.updateRatio ceNewWeight (max 1 pkts) else l
  let network := ratio (a.network.count ecnMarked)
  let host := ratio (a.host.count csnMarked)
  let aiMul := if a.aiStepBytes > 0 then a.aiStepBytes else 1
  let aiDelta := aiMul * ((cbMaxEthernetFrameOnWire : ℚ) * cbMaxEthernetFrameOnWire) /
    (max 1 a.maxSrpbBytes : Nat)
  let aiBytes := truncate (max 1 aiDelta)
  let mdCoeff := clampUnit a.mdFactor
  let network := (network.adjust ecnMarked aiBytes mdCoeff a.maxSrpbBytes).bound ceiling
  let host := (host.adjust csnMarked aiBytes mdCoeff a.maxSrpbBytes).bound ceiling
  let pairLimit :=
    if priorityFlow then ceiling else min network.maxSrpbBytes host.maxSrpbBytes
  let maxSrpbBytes := max 1 (min ceiling pairLimit)
  { a with
    maxSrpbBytes := maxSrpbBytes
    network := network
    host := host
    pktsSinceLastRatioUpdate := if updateRatios then 0 else pkts
    pktsAtNextRatioUpdate :=
      if updateRatios then max 1 (truncate ((maxSrpbBytes : ℚ) / cbMaxEthernetFrameOnWire))
      else a.pktsAtNextRatioUpdate }

end AimdState

end Dpdq.Ns3
