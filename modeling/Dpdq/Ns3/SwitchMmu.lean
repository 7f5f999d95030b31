import Mathlib.Algebra.Order.Field.Rat
import Mathlib.Logic.Function.Basic
import Dpdq.Lib.Tally
import Dpdq.Ns3.Word

/-!
# The shared-buffer MMU of the ns-3 switch

The counters of `switch-mmu.cc`, its admission checks and the four routines that charge and
release a packet. The counters are 32 bits wide: sums wrap, and a routine whose subtraction
would go below zero has no result (`none`), so that a run that never gets stuck is one without
underflow.
-/

namespace Dpdq.Ns3

open Function

/-! ## State -/

abbrev pCnt : Nat := 128
abbrev qCnt : Nat := 8

instance : NeZero pCnt := ⟨by decide⟩

instance : NeZero qCnt := ⟨by decide⟩

abbrev PortIdx := Fin pCnt
abbrev QueueIdx := Fin qCnt

/-- A port and one of its queues, or priority groups. -/
abbrev Cell := PortIdx × QueueIdx

/-- The thresholds that `InitSwitch` and the attributes set. -/
structure MmuConfig where
  maxBufferBytes : Nat
  pgMinCell : Nat
  portMinCell : Nat
  bufferCellLimitSp : Nat
  pgHdrmLimit : PortIdx → Nat
  opBufferSharedLimitCell : Nat
  opUcPortConfigCell : Nat
  opUcPortConfig1Cell : Nat
  qMinCell : Nat
  pgSharedAlphaCellEgress : ℚ
  tlt : Bool
  maxBytesTltUip : ℚ
  tltUimpDropRate : ℚ

/-- The byte counters. The four service pools have index 0 to 3. -/
structure MmuCounters where
  usedTotalBytes : Nat := 0
  usedIngressSPBytes : Fin 4 → Nat := fun _ => 0
  usedIngressPortBytes : PortIdx → Nat := fun _ => 0
  usedIngressPGBytes : Cell → Nat := fun _ => 0
  usedIngressPGHeadroomBytes : Cell → Nat := fun _ => 0
  usedEgressQMinBytes : Cell → Nat := fun _ => 0
  usedEgressQSharedBytes : Cell → Nat := fun _ => 0
  usedEgressPortBytes : PortIdx → Nat := fun _ => 0
  usedEgressSPBytes : Fin 4 → Nat := fun _ => 0
  bytesIngressTltUip : PortIdx → Nat := fun _ => 0
  bytesEgressTltUip : PortIdx → Nat := fun _ => 0
  totaluipbytes : Nat := 0

def getIngressSP (c : Cell) : Fin 4 := if c.2.val = 1 then 1 else 0

def getEgressSP (c : Cell) : Fin 4 := if c.2.val = 1 then 1 else 0

namespace MmuCounters

/-! ## Checks -/

def checkIngressAdmission (cfg : MmuConfig) (m : MmuCounters) (c : Cell) (psize : Nat) : Bool :=
  if addU32 m.usedTotalBytes psize > cfg.maxBufferBytes then false
  else if addU32 (m.usedIngressPGBytes c) psize > cfg.pgMinCell ∧
      addU32 (m.usedIngressPortBytes c.1) psize > cfg.portMinCell ∧
      m.usedIngressSPBytes (getIngressSP c) > cfg.bufferCellLimitSp ∧
      addU32 (m.usedIngressPGHeadroomBytes c) psize > cfg.pgHdrmLimit c.1 then false
  else true

def checkEgressAdmission (cfg : MmuConfig) (m : MmuCounters) (c : Cell) (psize : Nat) : Bool :=
  if addU32 (m.usedEgressSPBytes (getEgressSP c)) psize > cfg.opBufferSharedLimitCell then false
  else if addU32 (m.usedEgressPortBytes c.1) psize > cfg.opUcPortConfigCell then false
  else if addU32 (m.usedEgressQSharedBytes c) psize > cfg.opUcPortConfig1Cell then false
  else if (m.usedEgressQSharedBytes c : ℚ) + psize > cfg.pgSharedAlphaCellEgress *
      ((cfg.opBufferSharedLimitCell : ℚ) - m.usedEgressSPBytes (getEgressSP c)) then false
  else true

/-- `CheckEgressTLT`; `draw` is what the random variable would return. -/
def checkEgressTLT (cfg : MmuConfig) (m : MmuCounters) (port : PortIdx) (psize : Nat) (draw : ℚ) :
    Bool :=
  if cfg.tlt ∧ cfg.maxBytesTltUip ≠ 0 ∧
      (addU32 (m.bytesEgressTltUip port) psize : ℚ) ≥ cfg.maxBytesTltUip then false
  else if cfg.tlt ∧ cfg.tltUimpDropRate > 0 ∧ draw < cfg.tltUimpDropRate then false
  else true

/-! ## Updates -/

def updateIngressAdmission (cfg : MmuConfig) (m : MmuCounters) (c : Cell) (psize : Nat) :
    MmuCounters :=
  let sp := addU32 (m.usedIngressSPBytes (getIngressSP c)) psize
  { m with
    usedTotalBytes := addU32 m.usedTotalBytes psize
    usedIngressSPBytes := update m.usedIngressSPBytes (getIngressSP c) sp
    usedIngressPortBytes :=
      update m.usedIngressPortBytes c.1 (addU32 (m.usedIngressPortBytes c.1) psize)
    usedIngressPGBytes := update m.usedIngressPGBytes c (addU32 (m.usedIngressPGBytes c) psize)
    usedIngressPGHeadroomBytes :=
      if sp > cfg.bufferCellLimitSp then
        update m.usedIngressPGHeadroomBytes c (addU32 (m.usedIngressPGHeadroomBytes c) psize)
      else m.usedIngressPGHeadroomBytes }

/-- `UpdateEgressAdmission`: a queue first fills its guarantee, and the rest is shared. -/
def updateEgressAdmission (cfg : MmuConfig) (m : MmuCounters) (c : Cell) (psize : Nat) :
    Option MmuCounters :=
  let qMin := m.usedEgressQMinBytes c
  let port := update m.usedEgressPortBytes c.1 (addU32 (m.usedEgressPortBytes c.1) psize)
  if addU32 qMin psize < cfg.qMinCell then
    some { m with
      usedEgressQMinBytes := update m.usedEgressQMinBytes c (addU32 qMin psize)
      usedEgressPortBytes := port }
  else if qMin ≠ cfg.qMinCell then do
    let shared ← subU32 (addU32 (addU32 (m.usedEgressQSharedBytes c) psize) qMin) cfg.qMinCell
    let sp ← subU32 (addU32 (addU32 (m.usedEgressSPBytes (getEgressSP c)) psize) qMin) cfg.qMinCell
    return { m with
      usedEgressQSharedBytes := update m.usedEgressQSharedBytes c shared
      usedEgressPortBytes := port
      usedEgressSPBytes := update m.usedEgressSPBytes (getEgressSP c) sp
      usedEgressQMinBytes := update m.usedEgressQMinBytes c cfg.qMinCell }
  else
    some { m with
      usedEgressQSharedBytes :=
        update m.usedEgressQSharedBytes c (addU32 (m.usedEgressQSharedBytes c) psize)
      usedEgressPortBytes := port
      usedEgressSPBytes := update m.usedEgressSPBytes (getEgressSP c)
        (addU32 (m.usedEgressSPBytes (getEgressSP c)) psize) }

def updateIngressTLT (m : MmuCounters) (port : PortIdx) (psize : Nat) : MmuCounters :=
  { m with
    bytesIngressTltUip :=
      update m.bytesIngressTltUip port (addU32 (m.bytesIngressTltUip port) psize)
    totaluipbytes := addU32 m.totaluipbytes psize }

def updateEgressTLT (m : MmuCounters) (port : PortIdx) (psize : Nat) : MmuCounters :=
  { m with
    bytesEgressTltUip :=
      update m.bytesEgressTltUip port (addU32 (m.bytesEgressTltUip port) psize) }

/-! ## Removals -/

/-- "Illegal Remove": a counter below the packet size is first raised to it. -/
def raiseTo (counter psize : Nat) : Nat := if counter < psize then psize else counter

def removeFromIngressAdmission (m : MmuCounters) (c : Cell) (psize : Nat) : Option MmuCounters := do
  let total ← subU32 (raiseTo m.usedTotalBytes psize) psize
  let sp ← subU32 (raiseTo (raiseTo (m.usedIngressSPBytes (getIngressSP c)) psize) psize) psize
  let port ← subU32 (raiseTo (m.usedIngressPortBytes c.1) psize) psize
  let pg ← subU32 (raiseTo (m.usedIngressPGBytes c) psize) psize
  let headroom ←
    if m.usedIngressPGHeadroomBytes c > psize then subU32 (m.usedIngressPGHeadroomBytes c) psize
    else some 0
  return { m with
    usedTotalBytes := total
    usedIngressSPBytes := update m.usedIngressSPBytes (getIngressSP c) sp
    usedIngressPortBytes := update m.usedIngressPortBytes c.1 port
    usedIngressPGBytes := update m.usedIngressPGBytes c pg
    usedIngressPGHeadroomBytes := update m.usedIngressPGHeadroomBytes c headroom }

/-- `RemoveFromEgressAdmission`: the shared part goes first, then the guarantee. -/
def removeFromEgressAdmission (cfg : MmuConfig) (m : MmuCounters) (c : Cell) (psize : Nat) :
    Option MmuCounters :=
  let qMin := m.usedEgressQMinBytes c
  let shared := m.usedEgressQSharedBytes c
  let sp := m.usedEgressSPBytes (getEgressSP c)
  if qMin < cfg.qMinCell then do
    let qMin ← subU32 qMin psize
    let port ← subU32 (m.usedEgressPortBytes c.1) psize
    return { m with
      usedEgressQMinBytes := update m.usedEgressQMinBytes c qMin
      usedEgressPortBytes := update m.usedEgressPortBytes c.1 port }
  else if qMin = cfg.qMinCell ∧ shared < psize then do
    let qMin ← subU32 (addU32 qMin shared) psize
    let sp ← subU32 sp shared
    let port ← subU32 (m.usedEgressPortBytes c.1) psize
    return { m with
      usedEgressQMinBytes := update m.usedEgressQMinBytes c qMin
      usedEgressSPBytes := update m.usedEgressSPBytes (getEgressSP c) sp
      usedEgressQSharedBytes := update m.usedEgressQSharedBytes c 0
      usedEgressPortBytes := update m.usedEgressPortBytes c.1 port }
  else do
    let shared ← subU32 shared psize
    let port ← subU32 (m.usedEgressPortBytes c.1) psize
    let sp ← subU32 sp psize
    return { m with
      usedEgressQSharedBytes := update m.usedEgressQSharedBytes c shared
      usedEgressPortBytes := update m.usedEgressPortBytes c.1 port
      usedEgressSPBytes := update m.usedEgressSPBytes (getEgressSP c) sp }

end MmuCounters

end Dpdq.Ns3
