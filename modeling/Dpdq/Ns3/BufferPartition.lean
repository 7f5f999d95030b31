import Mathlib.Algebra.BigOperators.Group.Finset.Basic
import Mathlib.Algebra.Order.BigOperators.Group.Finset
import Dpdq.Lib.Machine
import Dpdq.Ns3.SwitchNode

/-!
# How the shared MMU divides its buffer

`InitSwitch` of `switch-mmu.cc` with the calls that configure the MMU, each of which ends with it.
What the service pools share is what the headroom of the ports and their guarantees leave of the
buffer. Ports have the numbers 1 to `m_activePortCnt`, the loop over the headroom starts at 0, and
none of the subtractions of 32 bits is guarded.

* `totalHdrm_spec`: the sum that the loop leaves.
* `partitioned_iff`: the configurations for which the shares add up to the buffer.
-/

namespace Dpdq.Ns3

open Function
open Dpdq.Lib

/-! ## Configuration -/

/-- `SwitchMmu::MTU`. -/
def mmuMtu : UInt32 := 1048

/-- What `InitSwitch` and the thresholds are computed from. -/
structure MmuAttributes where
  staticMaxBufferBytes : UInt32 := 0
  maxBufferBytesPerPort : UInt32 := 200 * 1000
  activePortCnt : UInt32 := 12
  pgHdrmLimit : PortIdx → UInt32 := fun _ => 12500 + 2 * mmuMtu
  dynamicth : Bool := true
  pgSharedAlphaCell : ℚ := 1 / 16
  pgSharedAlphaCellEgress : ℚ := 1
  tlt : Bool := false
  maxBytesTltUip : ℚ := 0
  tltUimpDropRate : ℚ := 0

/-- The MMU after `InitSwitch`. -/
structure SwitchMmu where
  attrs : MmuAttributes
  config : PfcConfig
  counters : MmuCounters := {}

namespace MmuAttributes

variable (a : MmuAttributes)

def maxBufferBytes : UInt32 :=
  if a.staticMaxBufferBytes ≠ 0 then a.staticMaxBufferBytes
  else a.maxBufferBytesPerPort * a.activePortCnt

def pgSharedLimitCell : UInt32 := if a.dynamicth then a.maxBufferBytes else 20 * mmuMtu

def portMaxSharedCell : UInt32 := if a.dynamicth then a.maxBufferBytes else 4800 * mmuMtu

/-- The loop over `m_pg_hdrm_limit`, after its first rounds. -/
def hdrmSum : Nat → Option UInt32
  | 0 => some 0
  | n + 1 => do
    let total ← hdrmSum n
    let i ← portIdx n
    return total + a.pgHdrmLimit i

/-- `total_m_pg_hdrm_limit`. -/
def totalHdrm : Option UInt32 := a.hdrmSum a.activePortCnt.toNat

/-- The guaranteed minimums of the active ports. -/
def guaranteed : UInt32 := a.activePortCnt * max (8 * mmuMtu) mmuMtu

/-- `InitSwitch`. -/
def initSwitch : Option SwitchMmu := do
  let totalPgHdrmLimit ← a.totalHdrm
  return {
    attrs := a
    config := {
      maxBufferBytes := a.maxBufferBytes.toNat
      pgMinCell := mmuMtu.toNat
      portMinCell := mmuMtu.toNat
      bufferCellLimitSp := (a.maxBufferBytes - totalPgHdrmLimit - a.guaranteed).toNat
      pgHdrmLimit := fun i => (a.pgHdrmLimit i).toNat
      opBufferSharedLimitCell := (a.maxBufferBytes - a.guaranteed).toNat
      opUcPortConfigCell := a.maxBufferBytes.toNat
      opUcPortConfig1Cell := a.maxBufferBytes.toNat
      qMinCell := (1 + mmuMtu).toNat
      pgSharedAlphaCellEgress := a.pgSharedAlphaCellEgress
      tlt := a.tlt
      maxBytesTltUip := a.maxBytesTltUip
      tltUimpDropRate := a.tltUimpDropRate
      dynamicth := a.dynamicth
      pgSharedAlphaCell := a.pgSharedAlphaCell
      pgSharedAlphaCellOffDiff := 16
      pgSharedLimitCell := a.pgSharedLimitCell.toNat
      portMaxSharedCell := a.portMaxSharedCell.toNat
      pgSharedLimitCellOff := (a.pgSharedLimitCell - 2 * mmuMtu).toNat
      portMinCellOff := (4700 * mmuMtu).toNat } }

end MmuAttributes

/-- The calls that configure the MMU. -/
inductive MmuCall where
  | configHdrm (port : PortIdx) (size : UInt32)
  | configNPort (nPort : UInt32)
  | configBufferSize (size : UInt32)
  | setMaxBufferBytesPerPort (v : UInt32)
  | setPgHdrmLimit (v : UInt32)
  | setDynamicThreshold (v : Bool)

/-- The attributes with which a call ends in `InitSwitch`. -/
def MmuAttributes.set (a : MmuAttributes) : MmuCall → MmuAttributes
  | .configHdrm port size => { a with pgHdrmLimit := update a.pgHdrmLimit port size }
  | .configNPort nPort => { a with activePortCnt := nPort }
  | .configBufferSize size => { a with staticMaxBufferBytes := size }
  | .setMaxBufferBytesPerPort v => { a with maxBufferBytesPerPort := v }
  | .setPgHdrmLimit v => { a with pgHdrmLimit := fun _ => v }
  | .setDynamicThreshold v => { a with dynamicth := v }

/-- The MMU from a first `InitSwitch` on. -/
def mmuMachine (m₀ : SwitchMmu) : Machine SwitchMmu MmuCall where
  init := m₀
  step m call := (m.attrs.set call).initSwitch

/-! ## The parts of the buffer -/

namespace MmuAttributes

variable (a : MmuAttributes)

/-- The headroom of a port, 0 where there is no port. -/
def headroomAt (i : Nat) : Nat := (portIdx i).elim 0 fun port => (a.pgHdrmLimit port).toNat

/-- The headroom of the ports 0 to `m_activePortCnt - 1`, which the loop adds up. -/
def loopHeadroom : Nat := ∑ i ∈ Finset.range a.activePortCnt.toNat, a.headroomAt i

/-- The headroom of the active ports. -/
def activeHeadroom : Nat := ∑ i ∈ Finset.range a.activePortCnt.toNat, a.headroomAt (i + 1)

def guarantees : Nat := a.activePortCnt.toNat * (8 * 1048)

/-- The subtractions of `InitSwitch`. -/
def subtractions (totalPgHdrmLimit : UInt32) : List (UInt32 × UInt32) :=
  [(a.maxBufferBytes, totalPgHdrmLimit), (a.maxBufferBytes - totalPgHdrmLimit, a.guaranteed),
    (a.pgSharedLimitCell, 2 * mmuMtu), (a.maxBufferBytes, a.guaranteed)]

/-- The reservations of the loop leave something of the buffer, the hysteresis of the pause
threshold too, and the sum of the loop is the headroom of the active ports; or it is less, and
with the guarantees all of the buffer. -/
structure Fits : Prop where
  reserved : a.loopHeadroom % 2 ^ 32 + a.guarantees ≤ a.maxBufferBytes.toNat
  hysteresis : a.dynamicth = true → 2 * 1048 ≤ a.maxBufferBytes.toNat
  sums : (a.loopHeadroom < 2 ^ 32 ∧ a.headroomAt 0 = a.headroomAt a.activePortCnt.toNat) ∨
    (a.loopHeadroom % 2 ^ 32 < a.activeHeadroom ∧
      a.loopHeadroom % 2 ^ 32 + a.guarantees = a.maxBufferBytes.toNat)

instance : Decidable a.Fits :=
  decidable_of_iff
    (a.loopHeadroom % 2 ^ 32 + a.guarantees ≤ a.maxBufferBytes.toNat ∧
      (a.dynamicth = true → 2 * 1048 ≤ a.maxBufferBytes.toNat) ∧
      ((a.loopHeadroom < 2 ^ 32 ∧ a.headroomAt 0 = a.headroomAt a.activePortCnt.toNat) ∨
        (a.loopHeadroom % 2 ^ 32 < a.activeHeadroom ∧
          a.loopHeadroom % 2 ^ 32 + a.guarantees = a.maxBufferBytes.toNat)))
    ⟨fun h => ⟨h.1, h.2.1, h.2.2⟩, fun h => ⟨h.reserved, h.hysteresis, h.sums⟩⟩

end MmuAttributes

/-- The shared limit is what the headroom of the active ports and the guarantees leave, at least 0,
and `InitSwitch` has not subtracted more than there was. -/
structure SwitchMmu.Partitioned (m : SwitchMmu) : Prop where
  shares :
    m.config.bufferCellLimitSp + m.attrs.activeHeadroom + m.attrs.guarantees =
        m.config.maxBufferBytes ∨
      (m.config.bufferCellLimitSp = 0 ∧
        m.config.maxBufferBytes < m.attrs.activeHeadroom + m.attrs.guarantees)
  noWrap : ∀ total ∈ m.attrs.totalHdrm, ∀ s ∈ m.attrs.subtractions total, s.2 ≤ s.1

/-! ## The loop -/

namespace MmuAttributes

variable {a : MmuAttributes}

theorem hdrmSum_spec {n : Nat} {total : UInt32} (h : a.hdrmSum n = some total) :
    n ≤ pCnt ∧ total.toNat = (∑ i ∈ Finset.range n, a.headroomAt i) % 2 ^ 32 := by
  induction n generalizing total with
  | zero =>
    obtain rfl := Option.some.inj h
    exact ⟨Nat.zero_le _, rfl⟩
  | succ n ih =>
    obtain ⟨t, hPrev, h⟩ := Option.bind_eq_some_iff.mp h
    obtain ⟨port, hPort, h⟩ := Option.bind_eq_some_iff.mp h
    obtain rfl := Option.some.inj h
    have hAt : a.headroomAt n = (a.pgHdrmLimit port).toNat := by
      unfold headroomAt
      rw [hPort, Option.elim_some]
    have hBound : n < pCnt := by
      unfold portIdx at hPort
      by_contra hNot
      rw [dif_neg hNot] at hPort
      cases hPort
    refine ⟨hBound, ?_⟩
    rw [Finset.sum_range_succ, hAt, UInt32.toNat_add, (ih hPrev).2, Nat.mod_add_mod]

theorem totalHdrm_spec {total : UInt32} (h : a.totalHdrm = some total) :
    a.activePortCnt.toNat ≤ pCnt ∧ total.toNat = a.loopHeadroom % 2 ^ 32 := hdrmSum_spec h

/-- The loop and the active ports differ in the first and the last port. -/
theorem activeHeadroom_add :
    a.activeHeadroom + a.headroomAt 0 = a.loopHeadroom + a.headroomAt a.activePortCnt.toNat := by
  unfold activeHeadroom loopHeadroom
  rw [← Finset.sum_range_succ', Finset.sum_range_succ]

theorem headroomAt_lt (i : Nat) : a.headroomAt i < 2 ^ 32 := by
  unfold headroomAt
  cases portIdx i with
  | none => exact Nat.two_pow_pos 32
  | some port => exact UInt32.toNat_lt _

/-- The arrays hold so few ports that the product does not wrap around. -/
theorem guaranteed_toNat (hPorts : a.activePortCnt.toNat ≤ pCnt) :
    a.guaranteed.toNat = a.guarantees := by
  have hMax : (max (8 * mmuMtu) mmuMtu).toNat = 8 * 1048 := by decide
  unfold guaranteed guarantees
  rw [UInt32.toNat_mul, hMax]
  refine Nat.mod_eq_of_lt ?_
  have hCnt : pCnt = 128 := rfl
  omega

/-- The four subtractions as two conditions: the first two together, and the third with dynamic
thresholds; the fourth takes less than the first two. -/
theorem noWrap_iff {total : UInt32} (hPorts : a.activePortCnt.toNat ≤ pCnt) :
    (∀ s ∈ a.subtractions total, s.2 ≤ s.1) ↔
      total.toNat + a.guarantees ≤ a.maxBufferBytes.toNat ∧
        (a.dynamicth = true → 2 * 1048 ≤ a.maxBufferBytes.toNat) := by
  have hGuaranteed := guaranteed_toNat hPorts
  have hHysteresis : 2 * mmuMtu ≤ a.pgSharedLimitCell ↔
      (a.dynamicth = true → 2 * 1048 ≤ a.maxBufferBytes.toNat) := by
    unfold pgSharedLimitCell
    cases a.dynamicth with
    | true => exact ⟨fun hLe _ => UInt32.le_iff_toNat_le.mp hLe,
        fun hLe => UInt32.le_iff_toNat_le.mpr (hLe rfl)⟩
    | false =>
      refine ⟨fun _ hMode => absurd hMode Bool.false_ne_true, fun _ => ?_⟩
      show 2 * mmuMtu ≤ 20 * mmuMtu
      decide
  unfold subtractions
  rw [List.forall_mem_cons, List.forall_mem_cons, List.forall_mem_cons, List.forall_mem_singleton,
    hHysteresis]
  dsimp only
  rw [UInt32.le_iff_toNat_le, UInt32.le_iff_toNat_le, UInt32.le_iff_toNat_le, hGuaranteed]
  constructor
  · rintro ⟨hTotal, hRest, hDynamic, -⟩
    rw [UInt32.toNat_sub_of_le _ _ (UInt32.le_iff_toNat_le.mpr hTotal)] at hRest
    exact ⟨by omega, hDynamic⟩
  · rintro ⟨hFits, hDynamic⟩
    have hTotal : total.toNat ≤ a.maxBufferBytes.toNat := by omega
    rw [UInt32.toNat_sub_of_le _ _ (UInt32.le_iff_toNat_le.mpr hTotal)]
    exact ⟨hTotal, by omega, hDynamic, by omega⟩

/-- What one `InitSwitch` leaves. -/
theorem partitioned_initSwitch_iff {m : SwitchMmu} (h : a.initSwitch = some m) :
    m.Partitioned ↔ a.Fits := by
  obtain ⟨total, hTotal, h⟩ := Option.bind_eq_some_iff.mp h
  obtain ⟨hPorts, hLoop⟩ := totalHdrm_spec hTotal
  have hMove := @activeHeadroom_add a
  have hFirst := @headroomAt_lt a 0
  have hGuaranteed := guaranteed_toNat hPorts
  have hNoWrap : (∀ t ∈ a.totalHdrm, ∀ s ∈ a.subtractions t, s.2 ≤ s.1) ↔
      a.loopHeadroom % 2 ^ 32 + a.guarantees ≤ a.maxBufferBytes.toNat ∧
        (a.dynamicth = true → 2 * 1048 ≤ a.maxBufferBytes.toNat) := by
    rw [hTotal, ← hLoop, ← noWrap_iff hPorts]
    exact ⟨fun hAll => hAll total rfl, fun hAll t hMem => Option.some.inj hMem ▸ hAll⟩
  -- What is shared, where nothing wraps around.
  have hShared : a.loopHeadroom % 2 ^ 32 + a.guarantees ≤ a.maxBufferBytes.toNat →
      (a.maxBufferBytes - total - a.guaranteed).toNat =
        a.maxBufferBytes.toNat - a.loopHeadroom % 2 ^ 32 - a.guarantees := by
    intro hFits
    have hLe : total ≤ a.maxBufferBytes := UInt32.le_iff_toNat_le.mpr (by omega)
    have hRest := UInt32.toNat_sub_of_le _ _ hLe
    rw [UInt32.toNat_sub_of_le, hRest, hGuaranteed, hLoop]
    rw [UInt32.le_iff_toNat_le, hRest, hGuaranteed]
    omega
  obtain rfl := Option.some.inj h
  constructor
  · rintro ⟨hShares, hAll⟩
    obtain ⟨hFits, hDynamic⟩ := hNoWrap.mp hAll
    dsimp only at hShares
    rw [hShared hFits] at hShares
    refine ⟨hFits, hDynamic, ?_⟩
    omega
  · rintro ⟨hFits, hDynamic, hSums⟩
    refine ⟨?_, hNoWrap.mpr ⟨hFits, hDynamic⟩⟩
    dsimp only
    rw [hShared hFits]
    omega

theorem initSwitch_attrs {m : SwitchMmu} (h : a.initSwitch = some m) : m.attrs = a := by
  obtain ⟨total, hTotal, h⟩ := Option.bind_eq_some_iff.mp h
  obtain rfl := Option.some.inj h
  rfl

end MmuAttributes

/-! ## Configured switches -/

/-- After any calls the MMU is what `InitSwitch` makes of its attributes. -/
theorem reachable_initSwitch {m₀ m : SwitchMmu} (hInit : m₀.attrs.initSwitch = some m₀)
    (hReach : (mmuMachine m₀).Reachable m) : m.attrs.initSwitch = some m := by
  refine Machine.reachable_induction (M := mmuMachine m₀)
    (I := fun m => m.attrs.initSwitch = some m) hInit ?_ hReach
  intro s call t _ hStep
  rw [MmuAttributes.initSwitch_attrs hStep]
  exact hStep

/-- The parts of the buffer add up, without a subtraction that wraps around, for exactly the
configurations that fit. -/
theorem partitioned_iff {m₀ m : SwitchMmu} (hInit : m₀.attrs.initSwitch = some m₀)
    (hReach : (mmuMachine m₀).Reachable m) : m.Partitioned ↔ m.attrs.Fits :=
  MmuAttributes.partitioned_initSwitch_iff (reachable_initSwitch hInit hReach)

/-- The MMU with its default attributes, after some calls. -/
def configured (calls : List MmuCall) : Option SwitchMmu := do
  let m ← ({} : MmuAttributes).initSwitch
  (mmuMachine m).run (mmuMachine m).init calls

/-- The parts of the buffer and the buffer. -/
def SwitchMmu.parts (m : SwitchMmu) : Nat × Nat × Nat × Nat :=
  (m.config.bufferCellLimitSp, m.attrs.activeHeadroom, m.attrs.guarantees, m.config.maxBufferBytes)

/-- Two ports of 20000 bytes of headroom each, as port 0. -/
theorem partitioned_iff_twoPorts :
    ∃ m, configured [.setPgHdrmLimit 20000, .configNPort 2] = some m ∧
      m.parts = (343232, 40000, 16768, 400000) ∧ m.Partitioned := by
  have hData : (configured [.setPgHdrmLimit 20000, .configNPort 2]).map
      (fun m => (m.parts, decide m.attrs.Fits)) = some ((343232, 40000, 16768, 400000), true) := by
    decide +kernel
  obtain ⟨m, hRun, hBoth⟩ := Option.map_eq_some_iff.mp hData
  obtain ⟨hParts, hFits⟩ := Prod.mk.inj hBoth
  refine ⟨m, hRun, hParts, ?_⟩
  unfold configured at hRun
  obtain ⟨m₀, hInit, hCalls⟩ := Option.bind_eq_some_iff.mp hRun
  have hAttrs : m₀.attrs.initSwitch = some m₀ := by
    rw [MmuAttributes.initSwitch_attrs hInit]
    exact hInit
  exact (partitioned_iff hAttrs ⟨_, hCalls⟩).mpr (of_decide_eq_true hFits)

/-- The parts tell when they do not add up. -/
theorem SwitchMmu.not_partitioned {m : SwitchMmu} {limit headroom guarantees buffer : Nat}
    (hParts : m.parts = (limit, headroom, guarantees, buffer)) (hLimit : limit ≠ 0)
    (hSum : limit + headroom + guarantees ≠ buffer) : ¬m.Partitioned := by
  obtain ⟨hA, hRest⟩ := Prod.mk.inj hParts
  obtain ⟨hB, hRest⟩ := Prod.mk.inj hRest
  obtain ⟨hC, hD⟩ := Prod.mk.inj hRest
  rintro ⟨hShares, -⟩
  rw [hA, hB, hC, hD] at hShares
  rcases hShares with hEq | ⟨hZero, -⟩
  · exact hSum hEq
  · exact hLimit hZero

/-- With the headroom of two ports configured port by port the parts exceed the buffer by 12500
bytes, for the loop reads port 0 and not port 2; and a buffer of 100000 bytes, less than the
reservations of 12 ports, leaves a shared limit of nearly 4 GiB. -/
theorem initSwitch_overcommits :
    (∃ m, configured [.configHdrm 1 27096, .configHdrm 2 27096, .configNPort 2] = some m ∧
      m.parts = (341540, 54192, 16768, 400000) ∧ ¬m.Partitioned) ∧
    (∃ m, configured [.configBufferSize 100000] = some m ∧
      m.parts = (4294791536, 175152, 100608, 100000) ∧ ¬m.Partitioned) := by
  constructor
  · have hData : (configured [.configHdrm 1 27096, .configHdrm 2 27096, .configNPort 2]).map
        SwitchMmu.parts = some (341540, 54192, 16768, 400000) := by
      decide +kernel
    obtain ⟨m, hRun, hParts⟩ := Option.map_eq_some_iff.mp hData
    exact ⟨m, hRun, hParts, SwitchMmu.not_partitioned hParts (by decide) (by decide)⟩
  · have hData : (configured [.configBufferSize 100000]).map SwitchMmu.parts =
        some (4294791536, 175152, 100608, 100000) := by
      decide +kernel
    obtain ⟨m, hRun, hParts⟩ := Option.map_eq_some_iff.mp hData
    exact ⟨m, hRun, hParts, SwitchMmu.not_partitioned hParts (by decide) (by decide)⟩

end Dpdq.Ns3
