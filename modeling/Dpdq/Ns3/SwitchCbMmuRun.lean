import Mathlib.Algebra.BigOperators.Group.Multiset.Basic
import Mathlib.Algebra.Group.Action.Defs
import Mathlib.Algebra.Order.BigOperators.Group.Multiset
import Mathlib.Algebra.Order.Interval.Finset.SuccPred
import Mathlib.Order.Interval.Finset.Nat
import Mathlib.Tactic.Linarith
import Dpdq.Lib.Machine
import Dpdq.Ns3.SwitchCbMmu

/-!
# Runs of the dedicated DPDQ MMU

A packet is charged after its admission check passed and uncharged once when it leaves; the run
remembers the sizes of the packets that each port holds. The counters are the sums of these sizes
as long as they do not wrap. The dynamic threshold bounds a queue by a multiple of the free bytes,
so it bounds the data total by the shared limit for coefficients up to 1 only, and the credit
reserve is one for the active ports only.
-/

namespace Dpdq.Ns3

open Lib Function
open scoped BigOperators

/-! ## The machine -/

/-- The MMU and the sizes of the packets it is charged with. -/
structure CbMmuRun where
  mmu : SwitchCbMmu
  creditHeld : PortIdx → Multiset Nat := fun _ => 0
  dataHeld : PortIdx → Multiset Nat := fun _ => 0

inductive CbMmuEvent
  | creditEnqueue (i : PortIdx) (psize : Nat)
  | creditDequeue (i : PortIdx) (psize : Nat)
  | dataEnqueue (i : PortIdx) (psize : Nat)
  | dataDequeue (i : PortIdx) (psize : Nat)

def CbMmuRun.step (r : CbMmuRun) : CbMmuEvent → Option CbMmuRun
  | .creditEnqueue i psize =>
    if r.mmu.checkCreditAdmission i psize then some { r with
      mmu := r.mmu.updateCreditAdmission i psize
      creditHeld := update r.creditHeld i (psize ::ₘ r.creditHeld i) }
    else none
  | .creditDequeue i psize =>
    if psize ∈ r.creditHeld i then some { r with
      mmu := r.mmu.removeCreditAdmission i psize
      creditHeld := update r.creditHeld i ((r.creditHeld i).erase psize) }
    else none
  | .dataEnqueue i psize =>
    if r.mmu.checkDataAdmission i psize then some { r with
      mmu := r.mmu.updateDataAdmission i psize
      dataHeld := update r.dataHeld i (psize ::ₘ r.dataHeld i) }
    else none
  | .dataDequeue i psize =>
    if psize ∈ r.dataHeld i then some { r with
      mmu := r.mmu.removeDataAdmission i psize
      dataHeld := update r.dataHeld i ((r.dataHeld i).erase psize) }
    else none

/-- The MMU that `InitSwitch` makes of a configuration. -/
def cbMmu (cfg : SwitchCbMmu) : Machine CbMmuRun CbMmuEvent where
  init := { mmu := cfg.initSwitch }
  step := CbMmuRun.step

/-- The bytes of all packets held, of both classes. -/
def CbMmuRun.heldBytes (r : CbMmuRun) : Nat :=
  ∑ i, (r.creditHeld i).sum + ∑ i, (r.dataHeld i).sum

/-! ## The checks -/

theorem validPort_eq_some {port : Nat} {i : PortIdx} :
    validPort port = some i ↔ port ≠ 0 ∧ port = i.val := by
  unfold validPort
  constructor
  · intro h
    split at h
    · rename_i hPort
      obtain rfl := Option.some.inj h
      exact ⟨hPort.1, rfl⟩
    · cases h
  · rintro ⟨hPos, rfl⟩
    rw [dif_pos ⟨hPos, i.isLt⟩]

theorem validPort_zero {port : Nat} (h : port = 0) : validPort port = none :=
  dif_neg fun hPort => hPort.1 h

theorem validPort_val {i : PortIdx} (h : i.val ≠ 0) : validPort i.val = some i :=
  validPort_eq_some.mpr ⟨h, rfl⟩

namespace SwitchCbMmu

theorem checkCreditAdmission_iff {m : SwitchCbMmu} {i : PortIdx} {psize : Nat} :
    m.checkCreditAdmission i psize = true ↔
      i.val ≠ 0 ∧ addU32 (m.counters.creditQueueBytes i) psize ≤ m.creditQueueLimitBytes := by
  unfold checkCreditAdmission
  by_cases hPos : i.val = 0
  · rw [validPort_zero hPos]
    simp [hPos]
  · simp [validPort_val hPos, hPos]

theorem checkDataAdmission_iff {m : SwitchCbMmu} {i : PortIdx} {psize : Nat} :
    m.checkDataAdmission i psize = true ↔
      i.val ≠ 0 ∧ m.counters.dataQueueBytes i + psize ≤
        (m.dataAdmissionAlpha *
          ((m.dataSharedLimitBytes - m.counters.dataSharedUsedBytes : Nat) : ℚ)).floor.toNat := by
  unfold checkDataAdmission
  by_cases hPos : i.val = 0
  · rw [validPort_zero hPos]
    simp [hPos]
  · simp [validPort_val hPos, hPos]

/-- The threshold of an empty switch does not exceed the shared limit. -/
def AlphaBounded (m : SwitchCbMmu) : Prop :=
  (m.dataAdmissionAlpha * (m.dataSharedLimitBytes : ℚ)).floor ≤ (m.dataSharedLimitBytes : Int)

theorem alphaBounded_of_le_one {m : SwitchCbMmu} (h : m.dataAdmissionAlpha ≤ 1) :
    m.AlphaBounded := by
  have hLe : m.dataAdmissionAlpha * (m.dataSharedLimitBytes : ℚ) ≤ m.dataSharedLimitBytes :=
    mul_le_of_le_one_left (Nat.cast_nonneg _) h
  have hFloor := Rat.floor_monotone hLe
  have hNat : ((m.dataSharedLimitBytes : ℚ)).floor = (m.dataSharedLimitBytes : Int) :=
    Rat.floor_intCast (m.dataSharedLimitBytes : Int)
  rwa [hNat] at hFloor

/-- Then no threshold exceeds the free bytes. -/
theorem AlphaBounded.threshold_le {m : SwitchCbMmu} (h : m.AlphaBounded) {free : Nat}
    (hFree : free ≤ m.dataSharedLimitBytes) :
    (m.dataAdmissionAlpha * (free : ℚ)).floor.toNat ≤ free := by
  have hLimit : m.dataAdmissionAlpha * (m.dataSharedLimitBytes : ℚ) < m.dataSharedLimitBytes + 1 := by
    have hLt := Rat.lt_floor_add_one (m.dataAdmissionAlpha * (m.dataSharedLimitBytes : ℚ))
    refine hLt.trans_le ?_
    unfold AlphaBounded at h
    have hCast : (((m.dataAdmissionAlpha * (m.dataSharedLimitBytes : ℚ)).floor + 1 : Int) : ℚ) ≤
        ((m.dataSharedLimitBytes + 1 : Int) : ℚ) := by
      exact_mod_cast Int.add_le_add_right h 1
    simpa using hCast
  have hFreeLe : (free : ℚ) ≤ m.dataSharedLimitBytes := Nat.cast_le.mpr hFree
  have hBelow : m.dataAdmissionAlpha * (free : ℚ) < ((free + 1 : Int) : ℚ) := by
    push_cast
    -- Below 1 the coefficient shrinks what is free, above 1 the excess grows with it.
    rcases le_or_gt m.dataAdmissionAlpha 1 with hAlpha | hAlpha
    · have hNonneg : (0 : ℚ) ≤ free := Nat.cast_nonneg free
      have hShrinks := mul_le_of_le_one_left hNonneg hAlpha
      linarith
    · have hExcess := mul_le_mul_of_nonneg_left hFreeLe (sub_nonneg.mpr hAlpha.le)
      linarith
  have hFloor := Rat.floor_lt_iff.mpr hBelow
  omega

/-! ## The operations on exact counters -/

theorem updateCreditAdmission_val (m : SwitchCbMmu) {i : PortIdx} (hPort : i.val ≠ 0)
    (psize : Nat) :
    m.updateCreditAdmission i psize = { m with counters := { m.counters with
      creditQueueBytes := update m.counters.creditQueueBytes i
        (addU32 (m.counters.creditQueueBytes i) psize) } } := by
  unfold updateCreditAdmission
  rw [validPort_val hPort]

theorem removeCreditAdmission_val (m : SwitchCbMmu) {i : PortIdx} (hPort : i.val ≠ 0)
    (psize : Nat) :
    m.removeCreditAdmission i psize = { m with counters := { m.counters with
      creditQueueBytes := update m.counters.creditQueueBytes i
        (m.counters.creditQueueBytes i - psize) } } := by
  unfold removeCreditAdmission
  rw [validPort_val hPort]

/-- A charge that wraps no counter. -/
theorem updateDataAdmission_val {m : SwitchCbMmu} {i : PortIdx} (hPort : i.val ≠ 0) {psize : Nat}
    (hQueue : m.counters.dataQueueBytes i + psize < 2 ^ 32)
    (hShared : m.counters.dataSharedBytesByPort i = m.counters.dataQueueBytes i)
    (hUsed : m.counters.dataSharedUsedBytes + psize < 2 ^ 32) :
    m.updateDataAdmission i psize = { m with counters := { m.counters with
      dataQueueBytes := update m.counters.dataQueueBytes i (m.counters.dataQueueBytes i + psize)
      dataSharedBytesByPort := update m.counters.dataSharedBytesByPort i
        (m.counters.dataSharedBytesByPort i + psize)
      dataSharedUsedBytes := m.counters.dataSharedUsedBytes + psize } } := by
  unfold updateDataAdmission
  rw [validPort_val hPort]
  simp only
  rw [hShared, addU32_of_lt hQueue, addU32_of_lt hUsed]
  split
  · rename_i hNone
    subst hNone
    rw [Nat.add_zero, Nat.add_zero, update_eq_self, ← hShared, update_eq_self]
  · rfl

/-- Whatever wraps, a charge or release of data changes the data counters only. -/
theorem updateDataAdmission_frame (m : SwitchCbMmu) (port psize : Nat) :
    ∃ c : CbMmuCounters, c.creditQueueBytes = m.counters.creditQueueBytes ∧
      m.updateDataAdmission port psize = { m with counters := c } := by
  unfold updateDataAdmission
  split
  · exact ⟨m.counters, rfl, rfl⟩
  · split
    · exact ⟨m.counters, rfl, rfl⟩
    · refine ⟨_, ?_, rfl⟩
      rfl

theorem removeDataAdmission_frame (m : SwitchCbMmu) (port psize : Nat) :
    ∃ c : CbMmuCounters, c.creditQueueBytes = m.counters.creditQueueBytes ∧
      m.removeDataAdmission port psize = { m with counters := c } := by
  unfold removeDataAdmission
  split
  · exact ⟨m.counters, rfl, rfl⟩
  · split
    · exact ⟨m.counters, rfl, rfl⟩
    · refine ⟨_, ?_, rfl⟩
      rfl

/-- The release of a packet that is in all counters. -/
theorem removeDataAdmission_val {m : SwitchCbMmu} {i : PortIdx} (hPort : i.val ≠ 0) {psize : Nat}
    (hQueue : psize ≤ m.counters.dataQueueBytes i)
    (hShared : m.counters.dataSharedBytesByPort i = m.counters.dataQueueBytes i) :
    m.removeDataAdmission i psize = { m with counters := { m.counters with
      dataQueueBytes := update m.counters.dataQueueBytes i (m.counters.dataQueueBytes i - psize)
      dataSharedBytesByPort := update m.counters.dataSharedBytesByPort i
        (m.counters.dataSharedBytesByPort i - psize)
      dataSharedUsedBytes := m.counters.dataSharedUsedBytes - psize } } := by
  unfold removeDataAdmission
  rw [validPort_val hPort]
  simp only
  have hAll : min (min psize (m.counters.dataQueueBytes i)) (m.counters.dataSharedBytesByPort i) =
      psize := by
    rw [hShared]
    omega
  rw [hAll]
  split
  · rename_i hNone
    subst hNone
    rw [Nat.sub_zero, Nat.sub_zero, Nat.sub_zero, update_eq_self, update_eq_self]
  · rfl

end SwitchCbMmu

/-! ## The invariants -/

namespace CbMmuRun

/-- The configuration stays, and a packet is held at a valid port. -/
structure Configured (cfg : SwitchCbMmu) (r : CbMmuRun) : Prop where
  config : r.mmu = { cfg.initSwitch with counters := r.mmu.counters }
  creditPort : ∀ i psize, psize ∈ r.creditHeld i → i.val ≠ 0
  dataPort : ∀ i psize, psize ∈ r.dataHeld i → i.val ≠ 0
  creditLimit : ∀ i, r.mmu.counters.creditQueueBytes i ≤ cfg.creditQueueLimitBytes

/-- The data counters in terms of the packets held. -/
structure DataExact (r : CbMmuRun) : Prop where
  queue : ∀ i, r.mmu.counters.dataQueueBytes i = (r.dataHeld i).sum
  shared : ∀ i, r.mmu.counters.dataSharedBytesByPort i = r.mmu.counters.dataQueueBytes i
  used : r.mmu.counters.dataSharedUsedBytes = ∑ i, r.mmu.counters.dataQueueBytes i

/-- The credit counters in terms of the packets held, at active ports. -/
structure CreditExact (cfg : SwitchCbMmu) (r : CbMmuRun) : Prop where
  queue : ∀ i, r.mmu.counters.creditQueueBytes i = (r.creditHeld i).sum
  active : ∀ i psize, psize ∈ r.creditHeld i → i.val ≤ cfg.activePortCnt

/-- The data total is counted in 32 bits. -/
def DataFits (r : CbMmuRun) : CbMmuEvent → Prop
  | .dataEnqueue _ psize => r.mmu.counters.dataSharedUsedBytes + psize < 2 ^ 32
  | _ => True

/-- A credit packet goes to an active port, whose credit queue is counted in 32 bits. -/
def CreditFits (cfg : SwitchCbMmu) (r : CbMmuRun) : CbMmuEvent → Prop
  | .creditEnqueue i psize =>
    i.val ≤ cfg.activePortCnt ∧ r.mmu.counters.creditQueueBytes i + psize < 2 ^ 32
  | _ => True

instance decidableCreditFits (cfg : SwitchCbMmu) (r : CbMmuRun) (e : CbMmuEvent) :
    Decidable (r.CreditFits cfg e) :=
  match e with
  | .creditEnqueue i psize => inferInstanceAs (Decidable
      (i.val ≤ cfg.activePortCnt ∧ r.mmu.counters.creditQueueBytes i + psize < 2 ^ 32))
  | .creditDequeue _ _ => isTrue trivial
  | .dataEnqueue _ _ => isTrue trivial
  | .dataDequeue _ _ => isTrue trivial

/-! ## Steps -/

/-- What an enabled event does, by its class and direction. -/
theorem step_cases {r t : CbMmuRun} {e : CbMmuEvent} (hStep : r.step e = some t) :
    (∃ i psize, e = .creditEnqueue i psize ∧ r.mmu.checkCreditAdmission i psize = true ∧
        t = { r with
          mmu := r.mmu.updateCreditAdmission i psize
          creditHeld := update r.creditHeld i (psize ::ₘ r.creditHeld i) }) ∨
      (∃ i psize, e = .creditDequeue i psize ∧ psize ∈ r.creditHeld i ∧
        t = { r with
          mmu := r.mmu.removeCreditAdmission i psize
          creditHeld := update r.creditHeld i ((r.creditHeld i).erase psize) }) ∨
      (∃ i psize, e = .dataEnqueue i psize ∧ r.mmu.checkDataAdmission i psize = true ∧
        t = { r with
          mmu := r.mmu.updateDataAdmission i psize
          dataHeld := update r.dataHeld i (psize ::ₘ r.dataHeld i) }) ∨
      ∃ i psize, e = .dataDequeue i psize ∧ psize ∈ r.dataHeld i ∧
        t = { r with
          mmu := r.mmu.removeDataAdmission i psize
          dataHeld := update r.dataHeld i ((r.dataHeld i).erase psize) } := by
  cases e with
  | creditEnqueue i psize =>
    unfold CbMmuRun.step at hStep
    simp only at hStep
    split at hStep
    · exact Or.inl ⟨i, psize, rfl, ‹_›, (Option.some.inj hStep).symm⟩
    · cases hStep
  | creditDequeue i psize =>
    unfold CbMmuRun.step at hStep
    simp only at hStep
    split at hStep
    · exact Or.inr (Or.inl ⟨i, psize, rfl, ‹_›, (Option.some.inj hStep).symm⟩)
    · cases hStep
  | dataEnqueue i psize =>
    unfold CbMmuRun.step at hStep
    simp only at hStep
    split at hStep
    · exact Or.inr (Or.inr (Or.inl ⟨i, psize, rfl, ‹_›, (Option.some.inj hStep).symm⟩))
    · cases hStep
  | dataDequeue i psize =>
    unfold CbMmuRun.step at hStep
    simp only at hStep
    split at hStep
    · exact Or.inr (Or.inr (Or.inr ⟨i, psize, rfl, ‹_›, (Option.some.inj hStep).symm⟩))
    · cases hStep

/-- What holds of a queued packet and of the new one holds after the packet was queued. -/
theorem forall_mem_enqueue {P : PortIdx → Nat → Prop} {held : PortIdx → Multiset Nat} {i : PortIdx}
    {psize : Nat} (h : ∀ j n, n ∈ held j → P j n) (hNew : P i psize) (j : PortIdx) (n : Nat)
    (hMem : n ∈ update held i (psize ::ₘ held i) j) : P j n := by
  by_cases hj : j = i
  · subst hj
    rw [update_self] at hMem
    rcases Multiset.mem_cons.mp hMem with rfl | hOld
    · exact hNew
    · exact h j n hOld
  · rw [update_of_ne hj] at hMem
    exact h j n hMem

theorem forall_mem_dequeue {P : PortIdx → Nat → Prop} {held : PortIdx → Multiset Nat} {i : PortIdx}
    {psize : Nat} (h : ∀ j n, n ∈ held j → P j n) (j : PortIdx) (n : Nat)
    (hMem : n ∈ update held i ((held i).erase psize) j) : P j n := by
  by_cases hj : j = i
  · subst hj
    rw [update_self] at hMem
    exact h j n (Multiset.mem_of_mem_erase hMem)
  · rw [update_of_ne hj] at hMem
    exact h j n hMem

/-- A counter of the bytes held follows a packet that is queued. -/
theorem counts_enqueue {f : PortIdx → Nat} {held : PortIdx → Multiset Nat}
    (h : ∀ j, f j = (held j).sum) (i j : PortIdx) (psize : Nat) :
    update f i (f i + psize) j = (update held i (psize ::ₘ held i) j).sum := by
  by_cases hj : j = i
  · subst hj
    rw [update_self, update_self, Multiset.sum_cons, h, Nat.add_comm]
  · rw [update_of_ne hj, update_of_ne hj, h]

/-- A counter of the bytes held follows a packet that leaves. -/
theorem counts_dequeue {f : PortIdx → Nat} {held : PortIdx → Multiset Nat}
    (h : ∀ j, f j = (held j).sum) {i : PortIdx} {psize : Nat} (hMem : psize ∈ held i) (j : PortIdx) :
    update f i (f i - psize) j = (update held i ((held i).erase psize) j).sum := by
  by_cases hj : j = i
  · subst hj
    have hSum := Multiset.sum_erase hMem
    rw [update_self, update_self, h]
    omega
  · rw [update_of_ne hj, update_of_ne hj, h]

theorem configured_init (cfg : SwitchCbMmu) : Configured cfg (cbMmu cfg).init where
  config := rfl
  creditPort _ _ hMem := absurd hMem (Multiset.notMem_zero _)
  dataPort _ _ hMem := absurd hMem (Multiset.notMem_zero _)
  creditLimit _ := Nat.zero_le _

theorem Configured.creditQueueLimitBytes {cfg : SwitchCbMmu} {r : CbMmuRun}
    (h : r.Configured cfg) : r.mmu.creditQueueLimitBytes = cfg.creditQueueLimitBytes := by
  rw [h.config]
  rfl

theorem Configured.step {cfg : SwitchCbMmu} {r t : CbMmuRun} (h : r.Configured cfg)
    {e : CbMmuEvent} (hStep : r.step e = some t) : t.Configured cfg := by
  rcases step_cases hStep with ⟨i, psize, -, hCheck, rfl⟩ | ⟨i, psize, -, hMem, rfl⟩ |
    ⟨i, psize, -, hCheck, rfl⟩ | ⟨i, psize, -, hMem, rfl⟩
  · obtain ⟨hPort, hRoom⟩ := SwitchCbMmu.checkCreditAdmission_iff.mp hCheck
    rw [h.creditQueueLimitBytes] at hRoom
    rw [SwitchCbMmu.updateCreditAdmission_val _ hPort]
    refine ⟨?_, forall_mem_enqueue h.creditPort hPort, h.dataPort, ?_⟩
    · simp only
      rw [h.config]
    · intro j
      by_cases hj : j = i
      · subst hj
        simpa using hRoom
      · simpa [update_of_ne hj] using h.creditLimit j
  · have hPort := h.creditPort i psize hMem
    rw [SwitchCbMmu.removeCreditAdmission_val _ hPort]
    refine ⟨?_, forall_mem_dequeue h.creditPort, h.dataPort, ?_⟩
    · simp only
      rw [h.config]
    · intro j
      by_cases hj : j = i
      · subst hj
        simpa using (Nat.sub_le _ _).trans (h.creditLimit j)
      · simpa [update_of_ne hj] using h.creditLimit j
  · obtain ⟨hPort, -⟩ := SwitchCbMmu.checkDataAdmission_iff.mp hCheck
    obtain ⟨c, hCredit, hEq⟩ := r.mmu.updateDataAdmission_frame i psize
    rw [hEq]
    refine ⟨?_, h.creditPort, forall_mem_enqueue h.dataPort hPort, ?_⟩
    · simp only
      rw [h.config]
    · simp only [hCredit]
      exact h.creditLimit
  · obtain ⟨c, hCredit, hEq⟩ := r.mmu.removeDataAdmission_frame i psize
    rw [hEq]
    refine ⟨?_, h.creditPort, forall_mem_dequeue h.dataPort, ?_⟩
    · simp only
      rw [h.config]
    · simp only [hCredit]
      exact h.creditLimit

/-! ### Exact data counters -/

theorem dataExact_init (cfg : SwitchCbMmu) : DataExact (cbMmu cfg).init where
  queue _ := rfl
  shared _ := rfl
  used := (Finset.sum_eq_zero fun _ _ => rfl).symm

theorem DataExact.queue_le_used {r : CbMmuRun} (h : r.DataExact) (i : PortIdx) :
    r.mmu.counters.dataQueueBytes i ≤ r.mmu.counters.dataSharedUsedBytes := by
  rw [h.used]
  exact le_sum _ i

theorem DataExact.step {cfg : SwitchCbMmu} {r t : CbMmuRun} (h : r.DataExact)
    (hConfigured : r.Configured cfg) {e : CbMmuEvent} (hFits : r.DataFits e)
    (hStep : r.step e = some t) : t.DataExact := by
  rcases step_cases hStep with ⟨i, psize, -, hCheck, rfl⟩ | ⟨i, psize, -, hMem, rfl⟩ |
    ⟨i, psize, rfl, hCheck, rfl⟩ | ⟨i, psize, -, hMem, rfl⟩
  · rw [SwitchCbMmu.updateCreditAdmission_val _ (SwitchCbMmu.checkCreditAdmission_iff.mp hCheck).1]
    exact ⟨h.queue, h.shared, h.used⟩
  · rw [SwitchCbMmu.removeCreditAdmission_val _ (hConfigured.creditPort i psize hMem)]
    exact ⟨h.queue, h.shared, h.used⟩
  · have hPort := (SwitchCbMmu.checkDataAdmission_iff.mp hCheck).1
    have hUsed : r.mmu.counters.dataSharedUsedBytes + psize < 2 ^ 32 := hFits
    have hQueue := h.queue_le_used i
    rw [SwitchCbMmu.updateDataAdmission_val hPort (by omega) (h.shared i) hUsed]
    refine ⟨fun j => counts_enqueue h.queue i j psize, ?_, ?_⟩
    · intro j
      simp only
      rw [funext h.shared]
    · simp only
      rw [sum_charge, h.used]
  · have hPort := hConfigured.dataPort i psize hMem
    have hQueue : psize ≤ r.mmu.counters.dataQueueBytes i := by
      rw [h.queue]
      exact Multiset.le_sum_of_mem hMem
    rw [SwitchCbMmu.removeDataAdmission_val hPort hQueue (h.shared i)]
    refine ⟨fun j => counts_dequeue h.queue hMem j, ?_, ?_⟩
    · intro j
      simp only
      rw [funext h.shared]
    · have hSum := sum_release r.mmu.counters.dataQueueBytes hQueue
      simp only
      rw [h.used]
      omega

/-! ### The shared limit -/

/-- The data total is within the shared limit. -/
def WithinShared (cfg : SwitchCbMmu) (r : CbMmuRun) : Prop :=
  r.mmu.counters.dataSharedUsedBytes ≤ cfg.initSwitch.dataSharedLimitBytes

theorem Configured.dataSharedLimitBytes {cfg : SwitchCbMmu} {r : CbMmuRun}
    (h : r.Configured cfg) :
    r.mmu.dataSharedLimitBytes = cfg.initSwitch.dataSharedLimitBytes := by
  rw [h.config]

theorem dataSharedLimitBytes_lt (m : SwitchCbMmu) :
    m.initSwitch.dataSharedLimitBytes < 2 ^ 32 := by
  have hLe : m.initSwitch.dataSharedLimitBytes ≤ 2 ^ 32 - 1 := Nat.min_le_right _ _
  omega

/-- A packet that passes the threshold fits in what is left of the shared limit. -/
theorem WithinShared.of_check {cfg : SwitchCbMmu} (hAlpha : cfg.initSwitch.AlphaBounded)
    {r : CbMmuRun} (h : r.WithinShared cfg) (hConfigured : r.Configured cfg) {i : PortIdx}
    {psize : Nat} (hCheck : r.mmu.checkDataAdmission i psize = true) :
    r.mmu.counters.dataSharedUsedBytes + psize ≤ cfg.initSwitch.dataSharedLimitBytes := by
  obtain ⟨-, hRule⟩ := SwitchCbMmu.checkDataAdmission_iff.mp hCheck
  have hThreshold := hAlpha.threshold_le
    (Nat.sub_le cfg.initSwitch.dataSharedLimitBytes r.mmu.counters.dataSharedUsedBytes)
  have hAlphaEq : r.mmu.dataAdmissionAlpha = cfg.initSwitch.dataAdmissionAlpha := by
    rw [hConfigured.config]
  rw [hAlphaEq, hConfigured.dataSharedLimitBytes] at hRule
  unfold WithinShared at h
  omega

theorem dataFits_of_withinShared {cfg : SwitchCbMmu} (hAlpha : cfg.initSwitch.AlphaBounded)
    {r t : CbMmuRun} (h : r.WithinShared cfg) (hConfigured : r.Configured cfg) {e : CbMmuEvent}
    (hStep : r.step e = some t) : r.DataFits e := by
  rcases step_cases hStep with ⟨i, psize, rfl, -⟩ | ⟨i, psize, rfl, -⟩ |
    ⟨i, psize, rfl, hCheck, -⟩ | ⟨i, psize, rfl, -⟩
  · trivial
  · trivial
  · have hRoom := h.of_check hAlpha hConfigured hCheck
    have hLimit := dataSharedLimitBytes_lt cfg
    exact hRoom.trans_lt hLimit
  · trivial

theorem WithinShared.step {cfg : SwitchCbMmu} (hAlpha : cfg.initSwitch.AlphaBounded)
    {r t : CbMmuRun} (h : r.WithinShared cfg) (hConfigured : r.Configured cfg)
    (hExact : r.DataExact) {e : CbMmuEvent} (hStep : r.step e = some t) : t.WithinShared cfg := by
  rcases step_cases hStep with ⟨i, psize, -, hCheck, rfl⟩ | ⟨i, psize, -, hMem, rfl⟩ |
    ⟨i, psize, -, hCheck, rfl⟩ | ⟨i, psize, -, hMem, rfl⟩
  · rw [SwitchCbMmu.updateCreditAdmission_val _ (SwitchCbMmu.checkCreditAdmission_iff.mp hCheck).1]
    exact h
  · rw [SwitchCbMmu.removeCreditAdmission_val _ (hConfigured.creditPort i psize hMem)]
    exact h
  · have hPort := (SwitchCbMmu.checkDataAdmission_iff.mp hCheck).1
    have hRoom := h.of_check hAlpha hConfigured hCheck
    have hLimit := dataSharedLimitBytes_lt cfg
    have hQueue := hExact.queue_le_used i
    rw [SwitchCbMmu.updateDataAdmission_val hPort (by omega) (hExact.shared i) (by omega)]
    exact hRoom
  · have hQueue : psize ≤ r.mmu.counters.dataQueueBytes i := by
      rw [hExact.queue]
      exact Multiset.le_sum_of_mem hMem
    rw [SwitchCbMmu.removeDataAdmission_val (hConfigured.dataPort i psize hMem) hQueue
      (hExact.shared i)]
    exact (Nat.sub_le _ _).trans h

/-! ### Exact credit counters -/

theorem creditExact_init (cfg : SwitchCbMmu) : CreditExact cfg (cbMmu cfg).init where
  queue _ := rfl
  active _ _ hMem := absurd hMem (Multiset.notMem_zero _)

theorem CreditExact.step {cfg : SwitchCbMmu} {r t : CbMmuRun} (h : r.CreditExact cfg)
    (hConfigured : r.Configured cfg) {e : CbMmuEvent} (hFits : r.CreditFits cfg e)
    (hStep : r.step e = some t) : t.CreditExact cfg := by
  rcases step_cases hStep with ⟨i, psize, rfl, hCheck, rfl⟩ | ⟨i, psize, -, hMem, rfl⟩ |
    ⟨i, psize, -, hCheck, rfl⟩ | ⟨i, psize, -, hMem, rfl⟩
  · rw [SwitchCbMmu.updateCreditAdmission_val _ (SwitchCbMmu.checkCreditAdmission_iff.mp hCheck).1,
      addU32_of_lt hFits.2]
    exact ⟨fun j => counts_enqueue h.queue i j psize, forall_mem_enqueue h.active hFits.1⟩
  · rw [SwitchCbMmu.removeCreditAdmission_val _ (hConfigured.creditPort i psize hMem)]
    exact ⟨fun j => counts_dequeue h.queue hMem j, forall_mem_dequeue h.active⟩
  · obtain ⟨c, hCredit, hEq⟩ := r.mmu.updateDataAdmission_frame i psize
    rw [hEq]
    exact ⟨fun j => (congrFun hCredit j).trans (h.queue j), h.active⟩
  · obtain ⟨c, hCredit, hEq⟩ := r.mmu.removeDataAdmission_frame i psize
    rw [hEq]
    exact ⟨fun j => (congrFun hCredit j).trans (h.queue j), h.active⟩

/-- The credit packets held fit in the reserve for the active ports. -/
theorem CreditExact.held_le {cfg : SwitchCbMmu} {r : CbMmuRun} (h : r.CreditExact cfg)
    (hConfigured : r.Configured cfg) :
    ∑ i, (r.creditHeld i).sum ≤ cfg.creditQueueLimitBytes * cfg.activePortCnt := by
  have hNone (i : PortIdx) (hi : i ∉ Finset.univ.filter fun i : PortIdx =>
      i.val ∈ Finset.Icc 1 cfg.activePortCnt) : (r.creditHeld i).sum = 0 := by
    have hEmpty : r.creditHeld i = 0 := by
      rw [Multiset.eq_zero_iff_forall_notMem]
      intro psize hMem
      apply hi
      rw [Finset.mem_filter, Finset.mem_Icc]
      exact ⟨Finset.mem_univ i, Nat.pos_of_ne_zero (hConfigured.creditPort i psize hMem),
        h.active i psize hMem⟩
    rw [hEmpty, Multiset.sum_zero]
  have hCard : (Finset.univ.filter fun i : PortIdx =>
      i.val ∈ Finset.Icc 1 cfg.activePortCnt).card ≤ cfg.activePortCnt := by
    have hInj := Finset.card_le_card_of_injOn
      (s := Finset.univ.filter fun i : PortIdx => i.val ∈ Finset.Icc 1 cfg.activePortCnt)
      (t := Finset.Icc 1 cfg.activePortCnt) Fin.val
      (fun i hi => (Finset.mem_filter.mp hi).2) (Fin.val_injective.injOn)
    rwa [Nat.card_Icc, Nat.add_sub_cancel] at hInj
  rw [← Finset.sum_subset (Finset.subset_univ _) fun i _ hi => hNone i hi]
  refine (Finset.sum_le_card_nsmul _ _ cfg.creditQueueLimitBytes ?_).trans ?_
  · intro i _
    rw [← h.queue]
    exact hConfigured.creditLimit i
  · rw [smul_eq_mul, Nat.mul_comm]
    exact Nat.mul_le_mul_left _ hCard

end CbMmuRun

/-- What is left of the buffer besides the credit reserve is the shared limit, at most. -/
theorem SwitchCbMmu.reserve_add_shared_le (m : SwitchCbMmu)
    (h : m.creditQueueLimitBytes * m.activePortCnt ≤ m.initSwitch.maxBufferBytes) :
    m.creditQueueLimitBytes * m.activePortCnt + m.initSwitch.dataSharedLimitBytes ≤
      m.initSwitch.maxBufferBytes := by
  have hShared : m.initSwitch.dataSharedLimitBytes ≤
      m.initSwitch.maxBufferBytes - m.creditQueueLimitBytes * m.activePortCnt := by
    refine (Nat.min_le_left _ _).trans ?_
    by_cases hRoom : m.initSwitch.maxBufferBytes > m.creditQueueLimitBytes * m.activePortCnt
    · exact (if_pos hRoom).le
    · exact (if_neg hRoom).le.trans (Nat.zero_le _)
  omega

/-- After any run every credit queue is within its limit, and as long as the data total does not
wrap, the data counters agree. If no threshold exceeds the free bytes, the total does not wrap and
is within the shared limit; and if the credit reserve fits in the buffer and credit goes to active
ports only, the bytes held fit in the buffer. -/
theorem cb_mmu_accounting (cfg : SwitchCbMmu) (es : List CbMmuEvent) (r : CbMmuRun)
    (hRun : (cbMmu cfg).run (cbMmu cfg).init es = some r) :
    (∀ i, r.mmu.counters.creditQueueBytes i ≤ cfg.creditQueueLimitBytes) ∧
      ((cbMmu cfg).Guarded CbMmuRun.DataFits (cbMmu cfg).init es ∨ cfg.initSwitch.AlphaBounded →
        r.mmu.counters.dataSharedUsedBytes = ∑ i, r.mmu.counters.dataQueueBytes i ∧
          r.mmu.counters.dataSharedUsedBytes = ∑ i, r.mmu.counters.dataSharedBytesByPort i) ∧
      (cfg.initSwitch.AlphaBounded →
        r.mmu.counters.dataSharedUsedBytes ≤ r.mmu.dataSharedLimitBytes) ∧
      (cfg.initSwitch.AlphaBounded →
        cfg.creditQueueLimitBytes * cfg.activePortCnt ≤ r.mmu.maxBufferBytes →
        (cbMmu cfg).Guarded (CbMmuRun.CreditFits cfg) (cbMmu cfg).init es →
        r.heldBytes ≤ r.mmu.maxBufferBytes) := by
  have hConfigured : r.Configured cfg := Machine.reachable_induction
    (CbMmuRun.configured_init cfg) (fun _ _ _ h hStep => h.step hStep) ⟨es, hRun⟩
  have hWithin (hAlpha : cfg.initSwitch.AlphaBounded) : r.DataExact ∧ r.WithinShared cfg := by
    have hAll : r.Configured cfg ∧ r.DataExact ∧ r.WithinShared cfg := by
      refine Machine.reachable_induction (M := cbMmu cfg)
        (I := fun r => r.Configured cfg ∧ r.DataExact ∧ r.WithinShared cfg)
        ⟨CbMmuRun.configured_init cfg, CbMmuRun.dataExact_init cfg, Nat.zero_le _⟩ ?_ ⟨es, hRun⟩
      rintro r e t ⟨hConfigured, hExact, hWithin⟩ hStep
      have hFits := CbMmuRun.dataFits_of_withinShared hAlpha hWithin hConfigured hStep
      exact ⟨hConfigured.step hStep, hExact.step hConfigured hFits hStep,
        hWithin.step hAlpha hConfigured hExact hStep⟩
    exact hAll.2
  refine ⟨hConfigured.creditLimit, ?_, ?_, ?_⟩
  · intro hCond
    have hExact : r.DataExact := by
      rcases hCond with hFits | hAlpha
      · have hBoth : r.Configured cfg ∧ r.DataExact := Machine.guarded_induction (M := cbMmu cfg)
          (I := fun r => r.Configured cfg ∧ r.DataExact)
          ⟨CbMmuRun.configured_init cfg, CbMmuRun.dataExact_init cfg⟩
          (fun _ _ _ h hFits hStep => ⟨h.1.step hStep, h.2.step h.1 hFits hStep⟩) hFits hRun
        exact hBoth.2
      · exact (hWithin hAlpha).1
    rw [funext hExact.shared]
    exact ⟨hExact.used, hExact.used⟩
  · intro hAlpha
    rw [hConfigured.dataSharedLimitBytes]
    exact (hWithin hAlpha).2
  · intro hAlpha hReserve hCreditFits
    obtain ⟨hExact, hUsed⟩ := hWithin hAlpha
    have hCredit : r.Configured cfg ∧ r.CreditExact cfg := Machine.guarded_induction
      (M := cbMmu cfg) (I := fun r => r.Configured cfg ∧ r.CreditExact cfg)
      ⟨CbMmuRun.configured_init cfg, CbMmuRun.creditExact_init cfg⟩
      (fun _ _ _ h hFits hStep => ⟨h.1.step hStep, h.2.step h.1 hFits hStep⟩) hCreditFits hRun
    have hMax : r.mmu.maxBufferBytes = cfg.initSwitch.maxBufferBytes := by
      rw [hConfigured.config]
    have hData : ∑ i, (r.dataHeld i).sum = r.mmu.counters.dataSharedUsedBytes := by
      rw [hExact.used]
      exact Finset.sum_congr rfl fun i _ => (hExact.queue i).symm
    have hHeld := hCredit.2.held_le hCredit.1
    rw [hMax] at hReserve ⊢
    have hBuffer := cfg.reserve_add_shared_le hReserve
    unfold CbMmuRun.WithinShared at hUsed
    unfold CbMmuRun.heldBytes
    omega

/-- One active port with a credit reserve of one packet, and 4000 bytes for data. -/
def smallCbMmu (alpha : ℚ) : SwitchCbMmu where
  activePortCnt := 1
  staticMaxBufferBytes := 4084
  creditQueueLimitBytes := 84
  dataAdmissionAlpha := alpha

def threeData : List CbMmuEvent :=
  [.creditEnqueue 1 84, .dataEnqueue 1 1500, .dataEnqueue 2 1500, .dataEnqueue 3 1000]

theorem cb_mmu_accounting_threeData :
    ∃ r, (cbMmu (smallCbMmu 1)).run (cbMmu (smallCbMmu 1)).init threeData = some r ∧
      (∀ i, r.mmu.counters.creditQueueBytes i ≤ 84) ∧
      (r.mmu.counters.dataSharedUsedBytes = ∑ i, r.mmu.counters.dataQueueBytes i ∧
        r.mmu.counters.dataSharedUsedBytes = ∑ i, r.mmu.counters.dataSharedBytesByPort i) ∧
      r.mmu.counters.dataSharedUsedBytes ≤ r.mmu.dataSharedLimitBytes ∧
      r.heldBytes ≤ r.mmu.maxBufferBytes := by
  have hRun : ((cbMmu (smallCbMmu 1)).run (cbMmu (smallCbMmu 1)).init threeData).map
      (fun r => r.mmu.maxBufferBytes) = some 4084 := by
    decide +kernel
  obtain ⟨r, hRun, hMax⟩ := Option.map_eq_some_iff.mp hRun
  have hAlpha : (smallCbMmu 1).initSwitch.AlphaBounded :=
    SwitchCbMmu.alphaBounded_of_le_one (by decide +kernel)
  obtain ⟨hCredit, hSums, hShared, hHeld⟩ := cb_mmu_accounting (smallCbMmu 1) threeData r hRun
  exact ⟨r, hRun, hCredit, hSums (Or.inr hAlpha), hShared hAlpha,
    hHeld hAlpha (hMax ▸ by decide) (by decide +kernel)⟩

/-- With the coefficient 2, a third queue takes the data total above the shared limit. With the
coefficient 1, the credit queue of a port that is not active takes the bytes held above the
buffer, and so do the credit queues of active ports when their reserve does not fit in it. -/
theorem cb_mmu_overcommitted :
    (∃ r, (cbMmu (smallCbMmu 2)).run (cbMmu (smallCbMmu 2)).init
        [.dataEnqueue 1 1500, .dataEnqueue 2 1500, .dataEnqueue 3 1500] = some r ∧
      r.mmu.dataSharedLimitBytes = 4000 ∧ r.mmu.counters.dataSharedUsedBytes = 4500 ∧
      r.mmu.maxBufferBytes = 4084 ∧ r.heldBytes = 4500) ∧
    (∃ r, (cbMmu (smallCbMmu 1)).run (cbMmu (smallCbMmu 1)).init
        (threeData ++ [.creditEnqueue 2 84]) = some r ∧
      r.mmu.maxBufferBytes = 4084 ∧ r.heldBytes = 4168) ∧
    ∃ r, (cbMmu { smallCbMmu 1 with activePortCnt := 49 }).run
        (cbMmu { smallCbMmu 1 with activePortCnt := 49 }).init
        ((List.finRange 128).tail.take 49 |>.map fun i => .creditEnqueue i 84) = some r ∧
      r.mmu.maxBufferBytes = 4084 ∧ r.heldBytes = 4116 := by
  have hAlpha : ((cbMmu (smallCbMmu 2)).run (cbMmu (smallCbMmu 2)).init
      [.dataEnqueue 1 1500, .dataEnqueue 2 1500, .dataEnqueue 3 1500]).map
        (fun r => (r.mmu.dataSharedLimitBytes, r.mmu.counters.dataSharedUsedBytes,
          r.mmu.maxBufferBytes, r.heldBytes)) = some (4000, 4500, 4084, 4500) := by
    decide +kernel
  have hPorts : ((cbMmu (smallCbMmu 1)).run (cbMmu (smallCbMmu 1)).init
      (threeData ++ [.creditEnqueue 2 84])).map
        (fun r => (r.mmu.maxBufferBytes, r.heldBytes)) = some (4084, 4168) := by
    decide +kernel
  have hReserve : ((cbMmu { smallCbMmu 1 with activePortCnt := 49 }).run
      (cbMmu { smallCbMmu 1 with activePortCnt := 49 }).init
      ((List.finRange 128).tail.take 49 |>.map fun i => .creditEnqueue i 84)).map
        (fun r => (r.mmu.maxBufferBytes, r.heldBytes)) = some (4084, 4116) := by
    decide +kernel
  obtain ⟨r₁, hRun₁, hEq₁⟩ := Option.map_eq_some_iff.mp hAlpha
  obtain ⟨r₂, hRun₂, hEq₂⟩ := Option.map_eq_some_iff.mp hPorts
  obtain ⟨r₃, hRun₃, hEq₃⟩ := Option.map_eq_some_iff.mp hReserve
  simp only [Prod.mk.injEq] at hEq₁ hEq₂ hEq₃
  exact ⟨⟨r₁, hRun₁, hEq₁⟩, ⟨r₂, hRun₂, hEq₂⟩, r₃, hRun₃, hEq₃⟩

end Dpdq.Ns3
