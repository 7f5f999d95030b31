import Mathlib.Algebra.BigOperators.Group.Multiset.Basic
import Mathlib.Algebra.Order.BigOperators.Group.Multiset
import Dpdq.Lib.Machine
import Dpdq.Lib.Pairing
import Dpdq.Ns3.SwitchMmu

/-!
# Runs of the shared-buffer MMU

Packets are admitted and removed at ingress and at egress in any order. The run remembers, cell
by cell, the sizes of the packets it holds, and only such a packet is removed. An admission
must fit: with it, the bytes held stay below `2 ^ 32`.

* `sharedMmu_refines`: a switch whose buffer leaves room for a packet below `2 ^ 32` only has such
  admissions, as it checks them against `m_maxBufferBytes`.
* `mmu_canonical`: after every step the counters are a function of the bytes held, and no
  subtraction has gone below zero.
-/

namespace Dpdq.Ns3

open Lib Function
open scoped BigOperators

/-! ## The machine -/

/-- The counters and the sizes of the packets they stand for. -/
structure MmuRun where
  counters : MmuCounters := {}
  ingressHeld : Cell → Multiset Nat := fun _ => 0
  egressHeld : Cell → Multiset Nat := fun _ => 0

inductive MmuEvent
  | ingressAdmit (c : Cell) (psize : Nat)
  | ingressRemove (c : Cell) (psize : Nat)
  | egressAdmit (c : Cell) (psize : Nat)
  | egressRemove (c : Cell) (psize : Nat)

/-- The caller's side of a step: admitted packets fit, removed packets are held. -/
def MmuRun.Enabled (r : MmuRun) : MmuEvent → Prop
  | .ingressAdmit _ psize => r.counters.usedTotalBytes + psize < 2 ^ 32
  | .ingressRemove c psize => psize ∈ r.ingressHeld c
  | .egressAdmit _ psize => ∑ p, r.counters.usedEgressPortBytes p + psize < 2 ^ 32
  | .egressRemove c psize => psize ∈ r.egressHeld c

instance (r : MmuRun) : (e : MmuEvent) → Decidable (r.Enabled e)
  | .ingressAdmit _ psize => inferInstanceAs (Decidable (r.counters.usedTotalBytes + psize < 2 ^ 32))
  | .ingressRemove c psize => inferInstanceAs (Decidable (psize ∈ r.ingressHeld c))
  | .egressAdmit _ psize =>
    inferInstanceAs (Decidable (∑ p, r.counters.usedEgressPortBytes p + psize < 2 ^ 32))
  | .egressRemove c psize => inferInstanceAs (Decidable (psize ∈ r.egressHeld c))

def MmuRun.charge (cfg : MmuConfig) (r : MmuRun) : MmuEvent → Option MmuRun
  | .ingressAdmit c psize => some { r with
      counters := r.counters.updateIngressAdmission cfg c psize
      ingressHeld := update r.ingressHeld c (psize ::ₘ r.ingressHeld c) }
  | .ingressRemove c psize => (r.counters.removeFromIngressAdmission c psize).map fun m =>
      { r with counters := m, ingressHeld := update r.ingressHeld c ((r.ingressHeld c).erase psize) }
  | .egressAdmit c psize => (r.counters.updateEgressAdmission cfg c psize).map fun m =>
      { r with counters := m, egressHeld := update r.egressHeld c (psize ::ₘ r.egressHeld c) }
  | .egressRemove c psize => (r.counters.removeFromEgressAdmission cfg c psize).map fun m =>
      { r with counters := m, egressHeld := update r.egressHeld c ((r.egressHeld c).erase psize) }

def mmu (cfg : MmuConfig) : Machine MmuRun MmuEvent where
  init := {}
  step r e := if r.Enabled e then r.charge cfg e else none

/-! ## The invariant -/

/-- Both parts of an egress queue. -/
def MmuCounters.queueBytes (m : MmuCounters) (c : Cell) : Nat :=
  m.usedEgressQMinBytes c + m.usedEgressQSharedBytes c

/-- The ingress counters in terms of the packets held. -/
structure IngressInv (r : MmuRun) : Prop where
  pg : ∀ c, r.counters.usedIngressPGBytes c = (r.ingressHeld c).sum
  port : ∀ p, r.counters.usedIngressPortBytes p = tally Prod.fst r.counters.usedIngressPGBytes p
  sp : ∀ k, r.counters.usedIngressSPBytes k = tally getIngressSP r.counters.usedIngressPGBytes k
  total : r.counters.usedTotalBytes = ∑ c, r.counters.usedIngressPGBytes c
  headroom : ∀ c, r.counters.usedIngressPGHeadroomBytes c ≤ r.counters.usedIngressPGBytes c

/-- The egress counters in terms of the packets held. -/
structure EgressInv (cfg : MmuConfig) (r : MmuRun) : Prop where
  qMin : ∀ c, r.counters.usedEgressQMinBytes c = min (r.egressHeld c).sum cfg.qMinCell
  shared : ∀ c, r.counters.usedEgressQSharedBytes c = (r.egressHeld c).sum - cfg.qMinCell
  port : ∀ p, r.counters.usedEgressPortBytes p = tally Prod.fst r.counters.queueBytes p
  sp : ∀ k, r.counters.usedEgressSPBytes k = tally getEgressSP r.counters.usedEgressQSharedBytes k

/-! ### Ingress -/

section Ingress

variable {r : MmuRun} (h : IngressInv r)

include h

theorem IngressInv.pg_le_port (c : Cell) :
    r.counters.usedIngressPGBytes c ≤ r.counters.usedIngressPortBytes c.1 := by
  rw [h.port]
  exact le_tally Prod.fst _ c

theorem IngressInv.pg_le_sp (c : Cell) :
    r.counters.usedIngressPGBytes c ≤ r.counters.usedIngressSPBytes (getIngressSP c) := by
  rw [h.sp]
  exact le_tally getIngressSP _ c

theorem IngressInv.port_le_total (p : PortIdx) :
    r.counters.usedIngressPortBytes p ≤ r.counters.usedTotalBytes := by
  rw [h.port, h.total]
  exact tally_le_sum Prod.fst _ p

theorem IngressInv.sp_le_total (k : Fin 4) :
    r.counters.usedIngressSPBytes k ≤ r.counters.usedTotalBytes := by
  rw [h.sp, h.total]
  exact tally_le_sum getIngressSP _ k

/-- The routine on counters that do not wrap. -/
theorem IngressInv.update_eq (cfg : MmuConfig) (c : Cell) {psize : Nat}
    (hFits : r.counters.usedTotalBytes + psize < 2 ^ 32) :
    r.counters.updateIngressAdmission cfg c psize = { r.counters with
      usedTotalBytes := r.counters.usedTotalBytes + psize
      usedIngressSPBytes := update r.counters.usedIngressSPBytes (getIngressSP c)
        (r.counters.usedIngressSPBytes (getIngressSP c) + psize)
      usedIngressPortBytes := update r.counters.usedIngressPortBytes c.1
        (r.counters.usedIngressPortBytes c.1 + psize)
      usedIngressPGBytes := update r.counters.usedIngressPGBytes c
        (r.counters.usedIngressPGBytes c + psize)
      usedIngressPGHeadroomBytes :=
        if r.counters.usedIngressSPBytes (getIngressSP c) + psize > cfg.bufferCellLimitSp then
          update r.counters.usedIngressPGHeadroomBytes c
            (r.counters.usedIngressPGHeadroomBytes c + psize)
        else r.counters.usedIngressPGHeadroomBytes } := by
  have hPort := h.port_le_total c.1
  have hSp := h.sp_le_total (getIngressSP c)
  have hPg := (h.pg_le_port c).trans hPort
  have hHeadroom := (h.headroom c).trans hPg
  simp only [MmuCounters.updateIngressAdmission]
  rw [addU32_of_lt hFits, addU32_of_lt (a := r.counters.usedIngressSPBytes _) (by omega),
    addU32_of_lt (a := r.counters.usedIngressPortBytes _) (by omega),
    addU32_of_lt (a := r.counters.usedIngressPGBytes _) (by omega),
    addU32_of_lt (a := r.counters.usedIngressPGHeadroomBytes _) (by omega)]

/-- The routine on a packet that is held: no counter is raised, and none goes below zero. -/
theorem IngressInv.remove_eq {c : Cell} {psize : Nat} (hHeld : psize ∈ r.ingressHeld c) :
    ∃ headroom, headroom ≤ r.counters.usedIngressPGBytes c - psize ∧
      psize ≤ r.counters.usedIngressPGBytes c ∧
      r.counters.removeFromIngressAdmission c psize = some { r.counters with
        usedTotalBytes := r.counters.usedTotalBytes - psize
        usedIngressSPBytes := update r.counters.usedIngressSPBytes (getIngressSP c)
          (r.counters.usedIngressSPBytes (getIngressSP c) - psize)
        usedIngressPortBytes := update r.counters.usedIngressPortBytes c.1
          (r.counters.usedIngressPortBytes c.1 - psize)
        usedIngressPGBytes := update r.counters.usedIngressPGBytes c
          (r.counters.usedIngressPGBytes c - psize)
        usedIngressPGHeadroomBytes :=
          update r.counters.usedIngressPGHeadroomBytes c headroom } := by
  have hPg : psize ≤ r.counters.usedIngressPGBytes c := by
    rw [h.pg]
    exact Multiset.le_sum_of_mem hHeld
  have hPort := hPg.trans (h.pg_le_port c)
  have hSp := hPg.trans (h.pg_le_sp c)
  have hTotal := hPort.trans (h.port_le_total c.1)
  have hRaise : ∀ {counter : Nat}, psize ≤ counter → MmuCounters.raiseTo counter psize = counter :=
    fun hLe => if_neg (Nat.not_lt.mpr hLe)
  have hHeadroom := h.headroom c
  by_cases hUse : r.counters.usedIngressPGHeadroomBytes c > psize
  · refine ⟨r.counters.usedIngressPGHeadroomBytes c - psize, by omega, hPg, ?_⟩
    simp only [MmuCounters.removeFromIngressAdmission, hRaise hTotal, hRaise hSp, hRaise hPort,
      hRaise hPg, subU32_of_le hTotal, subU32_of_le hSp, subU32_of_le hPort, subU32_of_le hPg,
      if_pos hUse, subU32_of_le hUse.le]
    rfl
  · refine ⟨0, by omega, hPg, ?_⟩
    simp only [MmuCounters.removeFromIngressAdmission, hRaise hTotal, hRaise hSp, hRaise hPort,
      hRaise hPg, subU32_of_le hTotal, subU32_of_le hSp, subU32_of_le hPort, subU32_of_le hPg,
      if_neg hUse]
    rfl

end Ingress

/-- A cell that changes keeps a pointwise description if the new value fits it. -/
theorem update_eq_of {f : Cell → Nat} {held : Cell → Multiset Nat} {g : Multiset Nat → Nat}
    (h : ∀ c, f c = g (held c)) {c : Cell} {x : Nat} {s : Multiset Nat} (hx : x = g s) (j : Cell) :
    update f c x j = g (update held c s j) := by
  by_cases hj : j = c
  · subst hj
    rw [update_self, update_self, hx]
  · rw [update_of_ne hj, update_of_ne hj, h]

theorem IngressInv.admit {r : MmuRun} (h : IngressInv r) (cfg : MmuConfig) (c : Cell) {psize : Nat}
    (hFits : r.counters.usedTotalBytes + psize < 2 ^ 32) :
    ∃ t, r.charge cfg (.ingressAdmit c psize) = some t ∧ IngressInv t ∧
      (EgressInv cfg r → EgressInv cfg t) ∧
      t.counters.usedEgressPortBytes = r.counters.usedEgressPortBytes := by
  refine ⟨_, by rw [MmuRun.charge, h.update_eq cfg c hFits], ?_⟩
  refine ⟨?_, fun hEgress => ⟨hEgress.qMin, hEgress.shared, hEgress.port, hEgress.sp⟩, rfl⟩
  refine ⟨?_, charge_tally h.port c psize, charge_tally h.sp c psize, ?_, ?_⟩
  · exact update_eq_of (g := Multiset.sum) h.pg (by rw [Multiset.sum_cons, h.pg, Nat.add_comm])
  · rw [sum_charge, h.total]
  · intro j
    have hj := h.headroom j
    have hc := h.headroom c
    dsimp only
    by_cases hEq : j = c
    · subst hEq
      split <;> simp only [update_self] <;> omega
    · split <;> simp only [update_of_ne hEq] <;> omega

theorem IngressInv.remove {r : MmuRun} (h : IngressInv r) (cfg : MmuConfig) {c : Cell} {psize : Nat}
    (hHeld : psize ∈ r.ingressHeld c) :
    ∃ t, r.charge cfg (.ingressRemove c psize) = some t ∧ IngressInv t ∧
      (EgressInv cfg r → EgressInv cfg t) ∧
      t.counters.usedEgressPortBytes = r.counters.usedEgressPortBytes := by
  obtain ⟨headroom, hHeadroom, hPg, hRemove⟩ := h.remove_eq hHeld
  refine ⟨_, by rw [MmuRun.charge, hRemove, Option.map_some], ?_⟩
  refine ⟨?_, fun hEgress => ⟨hEgress.qMin, hEgress.shared, hEgress.port, hEgress.sp⟩, rfl⟩
  have hTotal := sum_release r.counters.usedIngressPGBytes hPg
  refine ⟨?_, release_tally h.port hPg, release_tally h.sp hPg, ?_, ?_⟩
  · have hSum := Multiset.sum_erase hHeld
    exact update_eq_of (g := Multiset.sum) h.pg (by rw [h.pg]; omega)
  · dsimp only
    rw [h.total]
    omega
  · intro j
    have hj := h.headroom j
    dsimp only
    by_cases hEq : j = c
    · subst hEq
      simpa only [update_self] using hHeadroom
    · simpa only [update_of_ne hEq] using hj

/-! ### Egress -/

/-- An admission charges `psize` bytes to the port, `x` of them to the shared part. -/
def MmuCounters.egressCharged (m : MmuCounters) (c : Cell) (psize x : Nat) : MmuCounters :=
  { m with
    usedEgressQMinBytes := update m.usedEgressQMinBytes c (m.usedEgressQMinBytes c + (psize - x))
    usedEgressQSharedBytes := update m.usedEgressQSharedBytes c (m.usedEgressQSharedBytes c + x)
    usedEgressPortBytes := update m.usedEgressPortBytes c.1 (m.usedEgressPortBytes c.1 + psize)
    usedEgressSPBytes := update m.usedEgressSPBytes (getEgressSP c)
      (m.usedEgressSPBytes (getEgressSP c) + x) }

/-- A removal releases `psize` bytes of the port, `x` of them from the shared part. -/
def MmuCounters.egressReleased (m : MmuCounters) (c : Cell) (psize x : Nat) : MmuCounters :=
  { m with
    usedEgressQMinBytes := update m.usedEgressQMinBytes c (m.usedEgressQMinBytes c - (psize - x))
    usedEgressQSharedBytes := update m.usedEgressQSharedBytes c (m.usedEgressQSharedBytes c - x)
    usedEgressPortBytes := update m.usedEgressPortBytes c.1 (m.usedEgressPortBytes c.1 - psize)
    usedEgressSPBytes := update m.usedEgressSPBytes (getEgressSP c)
      (m.usedEgressSPBytes (getEgressSP c) - x) }

section Egress

variable {cfg : MmuConfig} {r : MmuRun} (h : EgressInv cfg r)

include h

theorem EgressInv.queueBytes_eq (c : Cell) : r.counters.queueBytes c = (r.egressHeld c).sum := by
  rw [MmuCounters.queueBytes, h.qMin, h.shared]
  omega

theorem EgressInv.queue_le_port (c : Cell) :
    r.counters.queueBytes c ≤ r.counters.usedEgressPortBytes c.1 := by
  rw [h.port]
  exact le_tally Prod.fst _ c

theorem EgressInv.shared_le_sp (c : Cell) :
    r.counters.usedEgressQSharedBytes c ≤ r.counters.usedEgressSPBytes (getEgressSP c) := by
  rw [h.sp]
  exact le_tally getEgressSP _ c

theorem EgressInv.sum_port :
    ∑ p, r.counters.usedEgressPortBytes p = ∑ c, r.counters.queueBytes c := by
  rw [← sum_tally Prod.fst r.counters.queueBytes]
  exact Finset.sum_congr rfl fun p _ => h.port p

/-- A pool and the guarantee of any one queue fit into the whole. -/
theorem EgressInv.sp_add_qMin_le (k : Fin 4) (c : Cell) :
    r.counters.usedEgressSPBytes k + r.counters.usedEgressQMinBytes c ≤
      ∑ p, r.counters.usedEgressPortBytes p := by
  have hPool : r.counters.usedEgressSPBytes k ≤ ∑ c, r.counters.usedEgressQSharedBytes c := by
    rw [h.sp]
    exact tally_le_sum getEgressSP _ k
  have hMin : r.counters.usedEgressQMinBytes c ≤ ∑ c, r.counters.usedEgressQMinBytes c :=
    le_sum r.counters.usedEgressQMinBytes c
  have hSplit : ∑ c, r.counters.queueBytes c =
      ∑ c, r.counters.usedEgressQMinBytes c + ∑ c, r.counters.usedEgressQSharedBytes c := by
    simp only [MmuCounters.queueBytes, Finset.sum_add_distrib]
  rw [h.sum_port, hSplit]
  omega

theorem EgressInv.update_eq (c : Cell) {psize : Nat}
    (hFits : ∑ p, r.counters.usedEgressPortBytes p + psize < 2 ^ 32) :
    ∃ x, x ≤ psize ∧
      min ((r.egressHeld c).sum + psize) cfg.qMinCell =
        r.counters.usedEgressQMinBytes c + (psize - x) ∧
      (r.egressHeld c).sum + psize - cfg.qMinCell = r.counters.usedEgressQSharedBytes c + x ∧
      r.counters.updateEgressAdmission cfg c psize =
        some (r.counters.egressCharged c psize x) := by
  have hMin := h.qMin c
  have hShared := h.shared c
  have hQueue := h.queue_le_port c
  rw [MmuCounters.queueBytes] at hQueue
  have hPort : r.counters.usedEgressPortBytes c.1 ≤ ∑ p, r.counters.usedEgressPortBytes p :=
    le_sum r.counters.usedEgressPortBytes c.1
  have hPool := h.sp_add_qMin_le (getEgressSP c) c
  have hAddMin := addU32_of_lt (a := r.counters.usedEgressQMinBytes c) (b := psize) (by omega)
  have hAddPort := addU32_of_lt (a := r.counters.usedEgressPortBytes c.1) (b := psize) (by omega)
  have hAddShared :=
    addU32_of_lt (a := r.counters.usedEgressQSharedBytes c) (b := psize) (by omega)
  have hAddSp :=
    addU32_of_lt (a := r.counters.usedEgressSPBytes (getEgressSP c)) (b := psize) (by omega)
  simp only [MmuCounters.updateEgressAdmission, hAddMin, hAddPort, hAddShared, hAddSp]
  by_cases hGuarantee : r.counters.usedEgressQMinBytes c + psize < cfg.qMinCell
  · refine ⟨0, Nat.zero_le _, by omega, by omega, ?_⟩
    simp [if_pos hGuarantee, MmuCounters.egressCharged]
  · rw [if_neg hGuarantee]
    by_cases hFull : r.counters.usedEgressQMinBytes c = cfg.qMinCell
    · refine ⟨psize, le_rfl, by omega, by omega, ?_⟩
      rw [if_neg (not_not.mpr hFull)]
      simp only [MmuCounters.egressCharged, Nat.sub_self, Nat.add_zero, update_eq_self]
    · -- The packet fills what is left of the guarantee, and the rest of it is shared.
      refine ⟨r.counters.usedEgressQMinBytes c + psize - cfg.qMinCell, by omega, by omega,
        by omega, ?_⟩
      rw [if_pos hFull, addU32_of_lt (by omega), addU32_of_lt (by omega), subU32_of_le (by omega),
        subU32_of_le (by omega)]
      have hEqShared : r.counters.usedEgressQSharedBytes c + psize +
          r.counters.usedEgressQMinBytes c - cfg.qMinCell =
          r.counters.usedEgressQSharedBytes c +
            (r.counters.usedEgressQMinBytes c + psize - cfg.qMinCell) := by omega
      have hEqSp : r.counters.usedEgressSPBytes (getEgressSP c) + psize +
          r.counters.usedEgressQMinBytes c - cfg.qMinCell =
          r.counters.usedEgressSPBytes (getEgressSP c) +
            (r.counters.usedEgressQMinBytes c + psize - cfg.qMinCell) := by omega
      have hEqMin : cfg.qMinCell = r.counters.usedEgressQMinBytes c +
          (psize - (r.counters.usedEgressQMinBytes c + psize - cfg.qMinCell)) := by omega
      rw [hEqShared, hEqSp]
      simp only [MmuCounters.egressCharged, ← hEqMin]
      rfl

theorem EgressInv.remove_eq {c : Cell} {psize : Nat} (hHeld : psize ∈ r.egressHeld c)
    (hFits : ∑ p, r.counters.usedEgressPortBytes p < 2 ^ 32) :
    ∃ x, x ≤ psize ∧ x ≤ r.counters.usedEgressQSharedBytes c ∧
      psize - x ≤ r.counters.usedEgressQMinBytes c ∧
      min ((r.egressHeld c).sum - psize) cfg.qMinCell =
        r.counters.usedEgressQMinBytes c - (psize - x) ∧
      (r.egressHeld c).sum - psize - cfg.qMinCell = r.counters.usedEgressQSharedBytes c - x ∧
      r.counters.removeFromEgressAdmission cfg c psize =
        some (r.counters.egressReleased c psize x) := by
  have hMin := h.qMin c
  have hShared := h.shared c
  have hSum : psize ≤ (r.egressHeld c).sum := Multiset.le_sum_of_mem hHeld
  have hQueue := h.queue_le_port c
  rw [MmuCounters.queueBytes] at hQueue
  have hPort : r.counters.usedEgressPortBytes c.1 ≤ ∑ p, r.counters.usedEgressPortBytes p :=
    le_sum r.counters.usedEgressPortBytes c.1
  have hPool := h.shared_le_sp c
  have hSubPort := subU32_of_le (a := r.counters.usedEgressPortBytes c.1) (b := psize) (by omega)
  simp only [MmuCounters.removeFromEgressAdmission, hSubPort]
  by_cases hGuarantee : r.counters.usedEgressQMinBytes c < cfg.qMinCell
  · refine ⟨0, Nat.zero_le _, Nat.zero_le _, by omega, by omega, by omega, ?_⟩
    rw [if_pos hGuarantee, subU32_of_le (by omega)]
    simp [MmuCounters.egressReleased]
  · rw [if_neg hGuarantee]
    by_cases hBoth : r.counters.usedEgressQMinBytes c = cfg.qMinCell ∧
        r.counters.usedEgressQSharedBytes c < psize
    · -- The packet takes the whole shared part and some of the guarantee.
      refine ⟨r.counters.usedEgressQSharedBytes c, hBoth.2.le, le_rfl, by omega, by omega,
        by omega, ?_⟩
      have hEqMin : r.counters.usedEgressQMinBytes c + r.counters.usedEgressQSharedBytes c - psize =
          r.counters.usedEgressQMinBytes c -
            (psize - r.counters.usedEgressQSharedBytes c) := by omega
      rw [if_pos hBoth, addU32_of_lt (by omega), subU32_of_le (by omega), subU32_of_le hPool, hEqMin]
      simp only [MmuCounters.egressReleased, Nat.sub_self]
      rfl
    · refine ⟨psize, le_rfl, by omega, by omega, by omega, by omega, ?_⟩
      rw [if_neg hBoth, subU32_of_le (by omega), subU32_of_le (by omega)]
      simp [MmuCounters.egressReleased]

end Egress

/-- The two parts of a queue change together. -/
theorem queueBytes_egressCharged (m : MmuCounters) (c : Cell) {psize x : Nat} (hx : x ≤ psize) :
    (m.egressCharged c psize x).queueBytes =
      update m.queueBytes c (m.queueBytes c + psize) := by
  funext j
  by_cases hj : j = c
  · subst hj
    simp only [MmuCounters.queueBytes, MmuCounters.egressCharged, update_self]
    omega
  · simp only [MmuCounters.queueBytes, MmuCounters.egressCharged, update_of_ne hj]

theorem queueBytes_egressReleased (m : MmuCounters) (c : Cell) {psize x : Nat} (hx : x ≤ psize)
    (hShared : x ≤ m.usedEgressQSharedBytes c) (hMin : psize - x ≤ m.usedEgressQMinBytes c) :
    (m.egressReleased c psize x).queueBytes =
      update m.queueBytes c (m.queueBytes c - psize) := by
  funext j
  by_cases hj : j = c
  · subst hj
    simp only [MmuCounters.queueBytes, MmuCounters.egressReleased, update_self]
    omega
  · simp only [MmuCounters.queueBytes, MmuCounters.egressReleased, update_of_ne hj]

theorem EgressInv.admit {cfg : MmuConfig} {r : MmuRun} {c : Cell} {psize : Nat}
    (h : EgressInv cfg r) (hFits : ∑ p, r.counters.usedEgressPortBytes p + psize < 2 ^ 32) :
    ∃ t, r.charge cfg (.egressAdmit c psize) = some t ∧ EgressInv cfg t ∧
      (IngressInv r → IngressInv t) ∧ ∑ p, t.counters.usedEgressPortBytes p < 2 ^ 32 := by
  obtain ⟨x, hx, hMin, hShared, hUpdate⟩ := h.update_eq c hFits
  refine ⟨_, by rw [MmuRun.charge, hUpdate, Option.map_some], ?_⟩
  refine ⟨⟨?_, ?_, ?_, ?_⟩, fun hIn => ⟨hIn.pg, hIn.port, hIn.sp, hIn.total, hIn.headroom⟩,
    (sum_charge r.counters.usedEgressPortBytes c.1 psize).trans_lt hFits⟩
  · exact update_eq_of (g := fun s => min s.sum cfg.qMinCell) h.qMin
      (by rw [Multiset.sum_cons, Nat.add_comm psize, hMin])
  · exact update_eq_of (g := fun s => s.sum - cfg.qMinCell) h.shared
      (by rw [Multiset.sum_cons, Nat.add_comm psize, hShared])
  · intro p
    dsimp only
    rw [queueBytes_egressCharged _ c hx]
    exact charge_tally h.port c psize p
  · exact charge_tally h.sp c x

theorem EgressInv.remove {cfg : MmuConfig} {r : MmuRun} {c : Cell} {psize : Nat}
    (h : EgressInv cfg r) (hHeld : psize ∈ r.egressHeld c)
    (hFits : ∑ p, r.counters.usedEgressPortBytes p < 2 ^ 32) :
    ∃ t, r.charge cfg (.egressRemove c psize) = some t ∧ EgressInv cfg t ∧
      (IngressInv r → IngressInv t) ∧ ∑ p, t.counters.usedEgressPortBytes p < 2 ^ 32 := by
  obtain ⟨x, hx, hLeShared, hLeMin, hMin, hShared, hRemove⟩ := h.remove_eq hHeld hFits
  have hErase : ((r.egressHeld c).erase psize).sum = (r.egressHeld c).sum - psize := by
    have hSum := Multiset.sum_erase hHeld
    omega
  have hQueue : psize ≤ r.counters.queueBytes c := by
    rw [h.queueBytes_eq]
    exact Multiset.le_sum_of_mem hHeld
  have hSum := sum_release r.counters.usedEgressPortBytes (hQueue.trans (h.queue_le_port c))
  refine ⟨_, by rw [MmuRun.charge, hRemove, Option.map_some], ?_⟩
  refine ⟨⟨?_, ?_, ?_, ?_⟩, fun hIn => ⟨hIn.pg, hIn.port, hIn.sp, hIn.total, hIn.headroom⟩,
    (Nat.le_of_add_right_le hSum.le).trans_lt hFits⟩
  · exact update_eq_of (g := fun s => min s.sum cfg.qMinCell) h.qMin (by rw [hErase, hMin])
  · exact update_eq_of (g := fun s => s.sum - cfg.qMinCell) h.shared (by rw [hErase, hShared])
  · intro p
    dsimp only
    rw [queueBytes_egressReleased _ c hx hLeShared hLeMin]
    exact release_tally h.port hQueue p
  · exact release_tally h.sp hLeShared

/-! ## Every run -/

structure MmuInv (cfg : MmuConfig) (r : MmuRun) : Prop where
  ingress : IngressInv r
  egress : EgressInv cfg r
  fits : ∑ p, r.counters.usedEgressPortBytes p < 2 ^ 32

theorem mmuInv_init (cfg : MmuConfig) : MmuInv cfg (mmu cfg).init where
  ingress := by
    refine ⟨fun _ => rfl, fun p => (tally_zero _ p).symm, fun k => (tally_zero _ k).symm, ?_,
      fun _ => le_rfl⟩
    exact (Finset.sum_eq_zero fun _ _ => rfl).symm
  egress := by
    have hQueue : (mmu cfg).init.counters.queueBytes = fun _ => 0 := rfl
    refine ⟨fun _ => (Nat.zero_min _).symm, fun _ => (Nat.zero_sub _).symm, fun p => ?_,
      fun k => (tally_zero _ k).symm⟩
    rw [hQueue, tally_zero]
    rfl
  fits := by
    have hZero : ∑ p, (mmu cfg).init.counters.usedEgressPortBytes p = 0 :=
      Finset.sum_eq_zero fun _ _ => rfl
    omega

/-- An enabled step has a result, and the result is canonical again. -/
theorem MmuInv.charge {cfg : MmuConfig} {r : MmuRun} (h : MmuInv cfg r) {e : MmuEvent}
    (hEnabled : r.Enabled e) : ∃ t, r.charge cfg e = some t ∧ MmuInv cfg t := by
  cases e with
  | ingressAdmit c psize =>
    obtain ⟨t, ht, hIn, hEgress, hPort⟩ := h.ingress.admit cfg c hEnabled
    exact ⟨t, ht, hIn, hEgress h.egress, hPort ▸ h.fits⟩
  | ingressRemove c psize =>
    obtain ⟨t, ht, hIn, hEgress, hPort⟩ := h.ingress.remove cfg hEnabled
    exact ⟨t, ht, hIn, hEgress h.egress, hPort ▸ h.fits⟩
  | egressAdmit c psize =>
    obtain ⟨t, ht, hEgress, hIn, hFits⟩ := h.egress.admit (c := c) hEnabled
    exact ⟨t, ht, hIn h.ingress, hEgress, hFits⟩
  | egressRemove c psize =>
    obtain ⟨t, ht, hEgress, hIn, hFits⟩ := h.egress.remove hEnabled h.fits
    exact ⟨t, ht, hIn h.ingress, hEgress, hFits⟩

theorem mmuInv_of_reachable {cfg : MmuConfig} {r : MmuRun} (h : (mmu cfg).Reachable r) :
    MmuInv cfg r := by
  refine Machine.reachable_induction (mmuInv_init cfg) ?_ h
  intro r e t hr hStep
  simp only [mmu] at hStep
  split at hStep
  · rename_i hEnabled
    obtain ⟨t', ht', hInv⟩ := hr.charge hEnabled
    rw [ht'] at hStep
    cases hStep
    exact hInv
  · cases hStep

/-! ## The packets of a switch -/

/-- A packet in the shared buffer, and the cells that it is counted in. -/
structure SharedPacket where
  ingress : Cell
  egress : Cell
  psize : Nat
deriving DecidableEq

/-- The counters and the packets that wait on a queue other than 0. -/
structure SharedMmu where
  counters : MmuCounters := {}
  packets : Multiset SharedPacket := 0

inductive SharedEvent
  | send (p : SharedPacket)
  | dequeue (p : SharedPacket)

namespace SharedMmu

/-- `SendToDev`: a packet that fails a check is dropped. -/
def send (cfg : MmuConfig) (s : SharedMmu) (p : SharedPacket) : Option SharedMmu :=
  if s.counters.checkIngressAdmission cfg p.ingress p.psize ∧
      s.counters.checkEgressAdmission cfg p.egress p.psize then do
    let m := s.counters.updateIngressAdmission cfg p.ingress p.psize
    let m ← m.updateEgressAdmission cfg p.egress p.psize
    return { counters := m, packets := p ::ₘ s.packets }
  else some s

/-- `SwitchNotifyDequeue`. -/
def dequeue (cfg : MmuConfig) (s : SharedMmu) (p : SharedPacket) : Option SharedMmu :=
  if p ∈ s.packets then do
    let m ← s.counters.removeFromIngressAdmission p.ingress p.psize
    let m ← m.removeFromEgressAdmission cfg p.egress p.psize
    return { counters := m, packets := s.packets.erase p }
  else none

end SharedMmu

/-- A switch whose buffer with one more packet is below 2^32 bytes. -/
def sharedMmu (cfg : MmuConfig) : Machine SharedMmu SharedEvent where
  init := {}
  step s
    | .send p => if cfg.maxBufferBytes + p.psize < 2 ^ 32 then s.send cfg p else none
    | .dequeue p => s.dequeue cfg p

/-- What a cell holds of the packets that `key` takes to it. -/
def heldBy (key : SharedPacket → Cell) (packets : Multiset SharedPacket) (c : Cell) :
    Multiset Nat :=
  (packets.filter fun p => key p = c).map SharedPacket.psize

theorem heldBy_cons (key : SharedPacket → Cell) (p : SharedPacket)
    (packets : Multiset SharedPacket) :
    heldBy key (p ::ₘ packets) =
      update (heldBy key packets) (key p) (p.psize ::ₘ heldBy key packets (key p)) := by
  funext c
  unfold heldBy
  by_cases hc : c = key p
  · subst hc
    rw [update_self, Multiset.filter_cons_of_pos (p := fun q => key q = key p) _ rfl,
      Multiset.map_cons]
  · rw [update_of_ne hc, Multiset.filter_cons_of_neg (p := fun q => key q = c) _ (Ne.symm hc)]

theorem mem_heldBy {key : SharedPacket → Cell} {p : SharedPacket} {packets : Multiset SharedPacket}
    (hp : p ∈ packets) : p.psize ∈ heldBy key packets (key p) :=
  Multiset.mem_map_of_mem _ (Multiset.mem_filter.mpr ⟨hp, rfl⟩)

theorem heldBy_erase (key : SharedPacket → Cell) {p : SharedPacket}
    {packets : Multiset SharedPacket} (hp : p ∈ packets) :
    heldBy key (packets.erase p) =
      update (heldBy key packets) (key p) ((heldBy key packets (key p)).erase p.psize) := by
  have hCons := heldBy_cons key p (packets.erase p)
  rw [Multiset.cons_erase hp] at hCons
  rw [hCons, update_self, Multiset.erase_cons_head, update_idem, update_eq_self]

/-- The run that the counters of a switch come from: it holds the packets of the switch. -/
structure Counts (cfg : MmuConfig) (s : SharedMmu) (r : MmuRun) : Prop where
  inv : MmuInv cfg r
  counters : r.counters = s.counters
  ingress : r.ingressHeld = heldBy SharedPacket.ingress s.packets
  egress : r.egressHeld = heldBy SharedPacket.egress s.packets

/-- What is held is below the size of the buffer. -/
structure WithinBuffer (cfg : MmuConfig) (s : SharedMmu) (r : MmuRun) : Prop
    extends Counts cfg s r where
  fits : s.counters.usedTotalBytes ≤ cfg.maxBufferBytes

theorem sum_heldBy (key : SharedPacket → Cell) (packets : Multiset SharedPacket) :
    ∑ c, (heldBy key packets c).sum = (packets.map SharedPacket.psize).sum :=
  sum_filter_key_univ key SharedPacket.psize packets

section Counts

variable {cfg : MmuConfig} {s : SharedMmu} {r : MmuRun}

theorem Counts.total (h : Counts cfg s r) :
    s.counters.usedTotalBytes = (s.packets.map SharedPacket.psize).sum := by
  rw [← h.counters, h.inv.ingress.total, ← sum_heldBy SharedPacket.ingress, ← h.ingress]
  exact Finset.sum_congr rfl fun c _ => h.inv.ingress.pg c

/-- Every packet is counted at ingress and at egress. -/
theorem Counts.egress_eq_total (h : Counts cfg s r) :
    ∑ p, s.counters.usedEgressPortBytes p = s.counters.usedTotalBytes := by
  have hPort : ∑ p, s.counters.usedEgressPortBytes p = ∑ c, r.counters.queueBytes c := by
    rw [← h.counters, ← sum_tally Prod.fst]
    exact Finset.sum_congr rfl fun p _ => h.inv.egress.port p
  rw [hPort, h.total, ← sum_heldBy SharedPacket.egress, ← h.egress]
  exact Finset.sum_congr rfl fun c _ => h.inv.egress.queueBytes_eq c

/-- A packet that passes the check at ingress fits the buffer, and so it can be counted there. -/
theorem WithinBuffer.le_of_check (h : WithinBuffer cfg s r) {c : Cell} {psize : Nat}
    (hSize : cfg.maxBufferBytes + psize < 2 ^ 32)
    (hCheck : s.counters.checkIngressAdmission cfg c psize = true) :
    s.counters.usedTotalBytes + psize ≤ cfg.maxBufferBytes := by
  have hUsed := h.fits
  have hSum : addU32 s.counters.usedTotalBytes psize = s.counters.usedTotalBytes + psize :=
    addU32_of_lt (by omega)
  unfold MmuCounters.checkIngressAdmission at hCheck
  rw [hSum] at hCheck
  by_contra hFull
  rw [if_pos (Nat.lt_of_not_le hFull)] at hCheck
  cases hCheck

end Counts

/-- Two enabled steps of the run. -/
theorem mmu_run_pair {cfg : MmuConfig} {r r₁ r₂ : MmuRun} (e₁ e₂ : MmuEvent)
    (hEnabled₁ : r.Enabled e₁) (hCharge₁ : r.charge cfg e₁ = some r₁)
    (hEnabled₂ : r₁.Enabled e₂) (hCharge₂ : r₁.charge cfg e₂ = some r₂) :
    (mmu cfg).run r [e₁, e₂] = some r₂ := by
  have hFirst : (mmu cfg).step r e₁ = some r₁ := (if_pos hEnabled₁).trans hCharge₁
  have hSecond : (mmu cfg).step r₁ e₂ = some r₂ := (if_pos hEnabled₂).trans hCharge₂
  exact Machine.run_cons_eq_some.mpr ⟨r₁, hFirst, Machine.run_cons_eq_some.mpr ⟨r₂, hSecond, rfl⟩⟩

section Steps

variable {cfg : MmuConfig} {s : SharedMmu} {r : MmuRun} {p : SharedPacket}

/-- An admitted packet takes an enabled step at ingress and one at egress. -/
theorem WithinBuffer.send (h : WithinBuffer cfg s r)
    (hSize : cfg.maxBufferBytes + p.psize < 2 ^ 32) :
    ∃ t es r', s.send cfg p = some t ∧ (mmu cfg).run r es = some r' ∧ WithinBuffer cfg t r' := by
  unfold SharedMmu.send
  split
  · rename_i hChecks
    have hFull := h.le_of_check hSize hChecks.1
    have hIngress : r.Enabled (.ingressAdmit p.ingress p.psize) := by
      show r.counters.usedTotalBytes + p.psize < 2 ^ 32
      rw [h.counters]
      omega
    obtain ⟨r₁, hFirst, hInv₁⟩ := h.inv.charge hIngress
    obtain rfl := Option.some.inj hFirst
    have hEgress : ∑ i, r.counters.usedEgressPortBytes i + p.psize < 2 ^ 32 := by
      rw [h.counters, h.toCounts.egress_eq_total]
      omega
    obtain ⟨r₂, hSecond, hInv₂⟩ := hInv₁.charge (e := .egressAdmit p.egress p.psize) hEgress
    obtain ⟨m, hm, rfl⟩ := Option.map_eq_some_iff.mp hSecond
    have hCounts : Counts cfg { counters := m, packets := p ::ₘ s.packets } _ := {
      inv := hInv₂
      counters := rfl
      ingress := by rw [heldBy_cons, ← h.ingress]
      egress := by rw [heldBy_cons, ← h.egress] }
    refine ⟨_, _, _, ?_, mmu_run_pair _ (.egressAdmit p.egress p.psize) hIngress hFirst hEgress
      hSecond, hCounts, ?_⟩
    · rw [h.counters] at hm
      exact Option.bind_eq_some_iff.mpr ⟨m, hm, rfl⟩
    · rw [hCounts.total, Multiset.map_cons, Multiset.sum_cons, ← h.toCounts.total]
      omega
  · exact ⟨s, [], r, rfl, rfl, h⟩

/-- A packet that leaves is held at ingress and at egress. -/
theorem WithinBuffer.dequeue (h : WithinBuffer cfg s r) (hp : p ∈ s.packets) :
    ∃ t es r', s.dequeue cfg p = some t ∧ (mmu cfg).run r es = some r' ∧
      WithinBuffer cfg t r' := by
  have hIngress : r.Enabled (.ingressRemove p.ingress p.psize) := by
    show p.psize ∈ r.ingressHeld p.ingress
    rw [h.ingress]
    exact mem_heldBy hp
  obtain ⟨r₁, hFirst, hInv₁⟩ := h.inv.charge hIngress
  obtain ⟨m₁, hm₁, rfl⟩ := Option.map_eq_some_iff.mp hFirst
  have hEgress : p.psize ∈ r.egressHeld p.egress := by
    rw [h.egress]
    exact mem_heldBy hp
  obtain ⟨r₂, hSecond, hInv₂⟩ := hInv₁.charge (e := .egressRemove p.egress p.psize) hEgress
  obtain ⟨m₂, hm₂, rfl⟩ := Option.map_eq_some_iff.mp hSecond
  have hCounts : Counts cfg { counters := m₂, packets := s.packets.erase p } _ := {
    inv := hInv₂
    counters := rfl
    ingress := by rw [heldBy_erase _ hp, ← h.ingress]
    egress := by rw [heldBy_erase _ hp, ← h.egress] }
  refine ⟨_, _, _, ?_, mmu_run_pair _ (.egressRemove p.egress p.psize) hIngress hFirst hEgress
    hSecond, hCounts, ?_⟩
  · rw [h.counters] at hm₁
    unfold SharedMmu.dequeue
    rw [if_pos hp]
    exact Option.bind_eq_some_iff.mpr ⟨m₁, hm₁, Option.bind_eq_some_iff.mpr ⟨m₂, hm₂, rfl⟩⟩
  · have hLess : ((s.packets.erase p).map SharedPacket.psize).sum ≤
        (s.packets.map SharedPacket.psize).sum := by
      rw [← Multiset.cons_erase hp, Multiset.erase_cons_head, Multiset.map_cons, Multiset.sum_cons]
      exact Nat.le_add_left _ _
    rw [hCounts.total]
    exact hLess.trans (h.toCounts.total ▸ h.fits)

end Steps

/-- The switch takes enabled steps only: the check against `m_maxBufferBytes` keeps what it holds at
ingress below 2^32 bytes, and it holds the same at egress. -/
def sharedMmu_simulation (cfg : MmuConfig) : Simulation (sharedMmu cfg) (mmu cfg) where
  rel := WithinBuffer cfg
  init := ⟨⟨mmuInv_init cfg, rfl, rfl, rfl⟩, Nat.zero_le _⟩
  step := by
    intro s r e t h hStep
    cases e with
    | send p =>
      simp only [sharedMmu] at hStep
      split at hStep
      · rename_i hSize
        obtain ⟨t', es, r', hSend, hRun, hRel⟩ := h.send hSize
        obtain rfl := Option.some.inj (hSend.symm.trans hStep)
        exact ⟨es, r', hRun, hRel⟩
      · cases hStep
    | dequeue p =>
      have hp : p ∈ s.packets := by
        by_contra hNot
        cases (if_neg hNot).symm.trans hStep
      obtain ⟨t', es, r', hDequeue, hRun, hRel⟩ := h.dequeue hp
      obtain rfl := Option.some.inj (hDequeue.symm.trans hStep)
      exact ⟨es, r', hRun, hRel⟩

/-- The counters of a switch are those of a run, it holds no more than its buffer, and no subtraction
of its next step goes below zero. -/
theorem sharedMmu_refines {cfg : MmuConfig} {s : SharedMmu} (h : (sharedMmu cfg).Reachable s) :
    (∃ r, (mmu cfg).Reachable r ∧ r.counters = s.counters) ∧
      s.counters.usedTotalBytes ≤ cfg.maxBufferBytes ∧
      (∀ p, cfg.maxBufferBytes + p.psize < 2 ^ 32 → (s.send cfg p).isSome) ∧
      ∀ p ∈ s.packets, (s.dequeue cfg p).isSome := by
  obtain ⟨r, hReach, hRel⟩ := (sharedMmu_simulation cfg).reachable h
  refine ⟨⟨r, hReach, hRel.counters⟩, hRel.fits, fun p hSize => ?_, fun p hp => ?_⟩
  · obtain ⟨t, -, -, hSend, -⟩ := hRel.send hSize
    rw [hSend]
    rfl
  · obtain ⟨t, -, -, hDequeue, -⟩ := hRel.dequeue hp
    rw [hDequeue]
    rfl

/-- What the counters say about the packets held. -/
structure Canonical (cfg : MmuConfig) (r : MmuRun) : Prop where
  qMin : ∀ c, r.counters.usedEgressQMinBytes c = min (r.egressHeld c).sum cfg.qMinCell
  shared : ∀ c, r.counters.usedEgressQSharedBytes c =
    (r.egressHeld c).sum - r.counters.usedEgressQMinBytes c
  egressSp : ∀ k, r.counters.usedEgressSPBytes k =
    ∑ c with getEgressSP c = k, r.counters.usedEgressQSharedBytes c
  egressPort : ∀ p, r.counters.usedEgressPortBytes p =
    ∑ c with c.1 = p, (r.egressHeld c).sum
  ingressSp : r.counters.usedTotalBytes = ∑ k, r.counters.usedIngressSPBytes k
  ingressPort : r.counters.usedTotalBytes = ∑ p, r.counters.usedIngressPortBytes p
  ingressPg : r.counters.usedTotalBytes = ∑ c, r.counters.usedIngressPGBytes c
  held : ∀ c, r.counters.usedIngressPGBytes c = (r.ingressHeld c).sum
  headroom : ∀ c, r.counters.usedIngressPGHeadroomBytes c ≤ r.counters.usedIngressPGBytes c

/-- A removal at ingress finds the packet in every counter, and raises none of them first. -/
def RemovesExactly (r : MmuRun) : Prop :=
  ∀ c psize, psize ∈ r.ingressHeld c → psize ≤ r.counters.usedTotalBytes ∧
    psize ≤ r.counters.usedIngressSPBytes (getIngressSP c) ∧
    psize ≤ r.counters.usedIngressPortBytes c.1 ∧ psize ≤ r.counters.usedIngressPGBytes c

/-- **Canonical accounting.** After any run the counters are the canonical function of the
packets held, every enabled step has a result (no subtraction goes below zero), and no removal
has to raise a counter first. -/
theorem mmu_canonical (cfg : MmuConfig) {r : MmuRun} (hReach : (mmu cfg).Reachable r) :
    Canonical cfg r ∧ (∀ e, r.Enabled e → (r.charge cfg e).isSome) ∧ RemovesExactly r := by
  have hInv := mmuInv_of_reachable hReach
  have hIn := hInv.ingress
  have hOut := hInv.egress
  refine ⟨⟨hOut.qMin, fun c => ?_, hOut.sp, fun p => ?_, ?_, ?_, hIn.total, hIn.pg,
    hIn.headroom⟩, fun e hEnabled => ?_, fun c psize hHeld => ?_⟩
  · rw [hOut.shared, hOut.qMin]
    omega
  · rw [hOut.port, tally]
    exact Finset.sum_congr rfl fun c _ => hOut.queueBytes_eq c
  · rw [hIn.total, ← sum_tally getIngressSP]
    exact Finset.sum_congr rfl fun k _ => (hIn.sp k).symm
  · rw [hIn.total, ← sum_tally Prod.fst]
    exact Finset.sum_congr rfl fun p _ => (hIn.port p).symm
  · obtain ⟨t, ht, -⟩ := hInv.charge hEnabled
    rw [ht]
    rfl
  · have hPg : psize ≤ r.counters.usedIngressPGBytes c := by
      rw [hIn.pg]
      exact Multiset.le_sum_of_mem hHeld
    have hPort := hPg.trans (hIn.pg_le_port c)
    exact ⟨hPort.trans (hIn.port_le_total c.1), hPg.trans (hIn.pg_le_sp c), hPort, hPg⟩

/-- Thresholds for one megabyte of buffer. -/
def megabyteConfig : MmuConfig where
  maxBufferBytes := 1000000
  pgMinCell := 1048
  portMinCell := 1048
  bufferCellLimitSp := 2000
  pgHdrmLimit _ := 14596
  opBufferSharedLimitCell := 800000
  opUcPortConfigCell := 1000000
  opUcPortConfig1Cell := 1000000
  qMinCell := 1049
  pgSharedAlphaCellEgress := 1
  tlt := false
  maxBytesTltUip := 0
  tltUimpDropRate := 0

/-- Two packets pass port 1; the second uses headroom at ingress and the pool at egress, and
the first leaves before it. -/
def twoPackets : List MmuEvent :=
  [.ingressAdmit (1, 1) 1500, .egressAdmit (2, 1) 1000, .ingressAdmit (1, 1) 900,
    .egressAdmit (2, 1) 900, .ingressRemove (1, 1) 1500, .egressRemove (2, 1) 1000]

theorem mmu_canonical_twoPackets :
    ∃ r, (mmu megabyteConfig).run (mmu megabyteConfig).init twoPackets = some r ∧
      Canonical megabyteConfig r ∧ (∀ e, r.Enabled e → (r.charge megabyteConfig e).isSome) ∧
      RemovesExactly r := by
  have hRun : ((mmu megabyteConfig).run (mmu megabyteConfig).init twoPackets).isSome := by
    decide +kernel
  obtain ⟨r, hr⟩ := Option.isSome_iff_exists.mp hRun
  exact ⟨r, hr, mmu_canonical megabyteConfig ⟨twoPackets, hr⟩⟩

end Dpdq.Ns3
