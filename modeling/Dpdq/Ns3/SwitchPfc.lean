import Dpdq.Ns3.SwitchMmu

/-!
# PFC decisions of the ns-3 switch

`GetPauseClasses` and `GetResumeClasses` of `switch-mmu.cc`, and the two loops of
`SwitchNode::CheckAndSendPfc`. The timer that `SetPause` arms is not part of the state; when it
fires, it calls `setResume`.
-/

namespace Dpdq.Ns3

open Function

/-- The thresholds of the PFC decisions, besides those of the admission checks. -/
structure PfcConfig extends MmuConfig where
  dynamicth : Bool
  pgSharedAlphaCell : ℚ
  pgSharedAlphaCellOffDiff : ℚ
  pgSharedLimitCell : Nat
  portMaxSharedCell : Nat
  pgSharedLimitCellOff : Nat
  portMinCellOff : Nat

structure PfcState where
  paused : Cell → Bool := fun _ => false
  pauseRemote : Cell → Bool := fun _ => false

/-- The second argument of `SendPfc`: 0 is a PAUSE and 1 a RESUME. -/
inductive PfcType where
  | pause
  | resume
deriving DecidableEq, Repr

namespace PfcConfig

def getPauseClasses (cfg : PfcConfig) (m : MmuCounters) (port : PortIdx) (qIndex : QueueIdx) :
    QueueIdx → Bool :=
  if cfg.dynamicth then fun i =>
    let used := m.usedIngressPGBytes (port, i)
    if used ≤ addU32 cfg.pgMinCell cfg.portMinCell then false
    else (used : ℚ) - cfg.pgMinCell - cfg.portMinCell > cfg.pgSharedAlphaCell *
        ((cfg.bufferCellLimitSp : ℚ) - m.usedIngressSPBytes (getIngressSP (port, qIndex))) ∨
      m.usedIngressPGHeadroomBytes (port, qIndex) ≠ 0
  else if m.usedIngressPortBytes port > cfg.portMaxSharedCell then fun _ => true
  else fun i => i = qIndex ∧ m.usedIngressPGBytes (port, qIndex) > cfg.pgSharedLimitCell

def getResumeClasses (cfg : PfcConfig) (m : MmuCounters) (st : PfcState) (c : Cell) : Bool :=
  if !st.paused c then false
  else if cfg.dynamicth then
    (m.usedIngressPGBytes c : ℚ) - cfg.pgMinCell - cfg.portMinCell < cfg.pgSharedAlphaCell *
        ((cfg.bufferCellLimitSp : ℚ) - m.usedIngressSPBytes (getIngressSP c) -
          cfg.pgSharedAlphaCellOffDiff) ∧
      m.usedIngressPGHeadroomBytes c = 0
  else m.usedIngressPGBytes c < cfg.pgSharedLimitCellOff ∧
    m.usedIngressPortBytes c.1 < cfg.portMinCellOff

end PfcConfig

namespace PfcState

def setPause (st : PfcState) (c : Cell) : PfcState :=
  { st with paused := update st.paused c true }

def setResume (st : PfcState) (c : Cell) : PfcState :=
  { st with paused := update st.paused c false }

/-- The body of the first loop: a class to be paused gets a PAUSE frame. -/
def pauseClass (pClasses : QueueIdx → Bool) (port : PortIdx)
    (acc : PfcState × List (QueueIdx × PfcType)) (j : QueueIdx) :
    PfcState × List (QueueIdx × PfcType) :=
  if pClasses j then
    let st := acc.1.setPause (port, j)
    ({ st with pauseRemote := update st.pauseRemote (port, j) true }, acc.2 ++ [(j, .pause)])
  else acc

/-- The body of the second loop: a class whose peer is paused may get a RESUME frame. -/
def resumeClass (cfg : PfcConfig) (m : MmuCounters) (port : PortIdx)
    (acc : PfcState × List (QueueIdx × PfcType)) (j : QueueIdx) :
    PfcState × List (QueueIdx × PfcType) :=
  if !acc.1.pauseRemote (port, j) then acc
  else if cfg.getResumeClasses m acc.1 (port, j) then
    let st := acc.1.setResume (port, j)
    ({ st with pauseRemote := update st.pauseRemote (port, j) false }, acc.2 ++ [(j, .resume)])
  else acc

/-- `CheckAndSendPfc`, with the frames it hands to the device. -/
def checkAndSendPfc (cfg : PfcConfig) (m : MmuCounters) (st : PfcState) (inDev : PortIdx)
    (qIndex : QueueIdx) : PfcState × List (QueueIdx × PfcType) :=
  let pClasses := cfg.getPauseClasses m inDev qIndex
  let paused := (List.finRange qCnt).foldl (pauseClass pClasses inDev) (st, [])
  (List.finRange qCnt).foldl (resumeClass cfg m inDev) paused

end PfcState

end Dpdq.Ns3
