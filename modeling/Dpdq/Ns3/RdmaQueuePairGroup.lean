import Mathlib.Data.BitVec
import Dpdq.Lib.Rotation

/-!
# The QPs of a NIC

`RdmaQueuePairGroup`: the QPs of a NIC and a bitmap indexed by their positions, which the round robin
of `RdmaEgressQueue::GetNextQindex` sets and all loops of the scheduler skip. A QP is known by a
pointer or by its key, so that the type of its name is a parameter.

* `scan_extends`: the round robin sets marks of finished QPs and does nothing else.
* `skipsNoLive_of_truthful`: where only finished QPs are marked, it skips no live one that may send.
-/

namespace Dpdq.Ns3

open Dpdq.Lib

/-! ## Bits -/

/-- `BITSET` with `BITSLOT` and `BITMASK`. -/
def bitset (a : Nat → BitVec 8) (b : Nat) : Nat → BitVec 8 :=
  Function.update a (b / 8) (a (b / 8) ||| 1#8 <<< (b % 8))

/-- `BITTEST`. -/
def bittest (a : Nat → BitVec 8) (b : Nat) : Bool := a (b / 8) &&& 1#8 <<< (b % 8) ≠ 0

theorem bittest_eq (a : Nat → BitVec 8) (b : Nat) : bittest a b = (a (b / 8)).getLsbD (b % 8) := by
  have hBit : b % 8 < 8 := Nat.mod_lt _ (by decide)
  have hMask : 1#8 <<< (b % 8) ≠ 0#8 := by
    intro hZero
    have hSet := congrArg (fun v : BitVec 8 => v.getLsbD (b % 8)) hZero
    simp [hBit] at hSet
  unfold bittest
  rw [← BitVec.twoPow_eq] at hMask ⊢
  rw [BitVec.and_twoPow]
  cases (a (b / 8)).getLsbD (b % 8) with
  | false => simp
  | true => simpa using hMask

theorem bittest_bitset (a : Nat → BitVec 8) (b c : Nat) :
    bittest (bitset a b) c = (decide (c = b) || bittest a c) := by
  have hBit : c % 8 < 8 := Nat.mod_lt _ (by decide)
  rw [bittest_eq, bittest_eq, bitset]
  by_cases hSlot : c / 8 = b / 8
  · have hSame : c = b ↔ b % 8 = c % 8 := by omega
    rw [hSlot, Function.update_self, BitVec.getLsbD_or, ← BitVec.twoPow_eq, BitVec.getLsbD_twoPow,
      Bool.or_comm]
    simp [hSame, Nat.mod_lt b]
  · rw [Function.update_of_ne hSlot]
    have hNe : c ≠ b := fun hEq => hSlot (hEq ▸ rfl)
    simp [hNe]

/-! ## The group of one NIC -/

/-- `ESTIMATED_MAX_FLOW_PER_HOST`. -/
def estimatedMaxFlowPerHost : Nat := 9120

structure RdmaQueuePairGroup (κ : Type) where
  qps : List κ := []
  qpFinished : Nat → BitVec 8 := fun _ => 0#8

/-- What the round robin evaluates for a QP: `cond1`, `cond2` and its `m_nextAvail`. -/
structure QpChecks (κ : Type) where
  cond1 : κ → Bool
  cond2 : κ → Bool
  late : κ → Bool

variable {κ : Type}

def QpChecks.sendable (c : QpChecks κ) (qp : κ) : Bool := c.cond1 qp && c.cond2 qp && !c.late qp

namespace RdmaQueuePairGroup

def addQp (g : RdmaQueuePairGroup κ) (qp : κ) : RdmaQueuePairGroup κ :=
  { g with qps := g.qps ++ [qp] }

def clear (g : RdmaQueuePairGroup κ) : RdmaQueuePairGroup κ := { g with qps := [] }

def isQpFinished (g : RdmaQueuePairGroup κ) (idx : Nat) : Bool :=
  if idx ≥ estimatedMaxFlowPerHost then false else bittest g.qpFinished idx

def setQpFinished (g : RdmaQueuePairGroup κ) (idx : Nat) : RdmaQueuePairGroup κ :=
  if idx ≥ estimatedMaxFlowPerHost then g else { g with qpFinished := bitset g.qpFinished idx }

/-- A QP that may not send is marked when it is finished. -/
def markFinished (g : RdmaQueuePairGroup κ) (finished : κ → Bool) (c : QpChecks κ) (idx : Nat)
    (qp : κ) : RdmaQueuePairGroup κ :=
  if !c.cond2 qp && finished qp then g.setQpFinished idx else g

/-- The loop of `GetNextQindex`, over positions. -/
def scan (finished : κ → Bool) (c : QpChecks κ) :
    List Nat → RdmaQueuePairGroup κ → Option Nat × RdmaQueuePairGroup κ
  | [], g => (none, g)
  | idx :: rest, g =>
    if g.isQpFinished idx then scan finished c rest g
    else
      match g.qps[idx]? with
      | none => scan finished c rest g
      | some qp =>
        let g := g.markFinished finished c idx qp
        if c.sendable qp then (some idx, g) else scan finished c rest g

/-- The round robin of `GetNextQindex`, from the position behind the last; `none` is -1024. -/
def getNextQindex (g : RdmaQueuePairGroup κ) (finished : κ → Bool) (rrlast : Nat) (c : QpChecks κ) :
    Option Nat × RdmaQueuePairGroup κ :=
  scan finished c (rotation g.qps.length rrlast) g

/-- Every mark is that of a finished QP. -/
def Truthful (finished : κ → Bool) (g : RdmaQueuePairGroup κ) : Prop :=
  ∀ i, g.isQpFinished i = true → ∃ qp, g.qps[i]? = some qp ∧ finished qp = true

/-- The round robin finds a QP where a live one may send. -/
def SkipsNoLive (finished : κ → Bool) (g : RdmaQueuePairGroup κ) : Prop :=
  ∀ rrlast c, (g.getNextQindex finished rrlast c).1 = none →
    ∀ qp ∈ g.qps, finished qp = false → c.sendable qp = false

end RdmaQueuePairGroup

/-! ## Marks of a group -/

namespace RdmaQueuePairGroup

variable {finished : κ → Bool} {g g' g'' : RdmaQueuePairGroup κ}

theorem isQpFinished_empty (qps : List κ) (i : Nat) :
    isQpFinished { qps := qps } i = false := by
  unfold isQpFinished
  rw [bittest_eq]
  simp

theorem isQpFinished_setQpFinished (g : RdmaQueuePairGroup κ) (idx i : Nat) :
    (g.setQpFinished idx).isQpFinished i =
      ((decide (i < estimatedMaxFlowPerHost) && decide (i = idx)) || g.isQpFinished i) := by
  unfold setQpFinished isQpFinished
  by_cases hi : i ≥ estimatedMaxFlowPerHost
  · simp [hi, Nat.not_lt.mpr hi]
  · rw [if_neg hi, if_neg hi]
    split
    · have hNe : i ≠ idx := by omega
      simp [hNe]
    · rw [bittest_bitset]
      simp [Nat.lt_of_not_ge hi]

theorem qps_setQpFinished (g : RdmaQueuePairGroup κ) (idx : Nat) :
    (g.setQpFinished idx).qps = g.qps := by
  unfold setQpFinished
  split
  · rfl
  · rfl

/-- QPs are appended, marks stay, and new marks are those of finished QPs. -/
structure Extends (finished : κ → Bool) (g g' : RdmaQueuePairGroup κ) : Prop where
  qps : g.qps <+: g'.qps
  kept : ∀ i, g.isQpFinished i = true → g'.isQpFinished i = true
  marks : ∀ i, g'.isQpFinished i = true →
    g.isQpFinished i = true ∨ ∃ qp, g'.qps[i]? = some qp ∧ finished qp = true

theorem getElem?_of_prefix {l l' : List κ} (h : l <+: l') {i : Nat} {qp : κ} (hAt : l[i]? = some qp) :
    l'[i]? = some qp := by
  obtain ⟨rest, rfl⟩ := h
  rw [List.getElem?_append_left (List.getElem?_eq_some_iff.mp hAt).1, hAt]

namespace Extends

theorem refl (finished : κ → Bool) (g : RdmaQueuePairGroup κ) : Extends finished g g :=
  ⟨List.prefix_refl _, fun _ h => h, fun _ h => Or.inl h⟩

theorem trans (h : Extends finished g g') (h' : Extends finished g' g'') :
    Extends finished g g'' := by
  refine ⟨h.qps.trans h'.qps, fun i hMark => h'.kept i (h.kept i hMark), ?_⟩
  intro i hMark
  rcases h'.marks i hMark with hOld | hNew
  · rcases h.marks i hOld with hOlder | ⟨qp, hAt, hFinished⟩
    · exact Or.inl hOlder
    · exact Or.inr ⟨qp, getElem?_of_prefix h'.qps hAt, hFinished⟩
  · exact Or.inr hNew

theorem addQp (finished : κ → Bool) (g : RdmaQueuePairGroup κ) (qp : κ) :
    Extends finished g (g.addQp qp) :=
  ⟨List.prefix_append _ _, fun _ h => h, fun _ h => Or.inl h⟩

theorem setQpFinished {idx : Nat} {qp : κ} (hAt : g.qps[idx]? = some qp)
    (hFinished : finished qp = true) : Extends finished g (g.setQpFinished idx) := by
  refine ⟨by rw [qps_setQpFinished], ?_, ?_⟩
  · intro i hMark
    rw [isQpFinished_setQpFinished, hMark, Bool.or_true]
  · intro i hMark
    rw [isQpFinished_setQpFinished, Bool.or_eq_true] at hMark
    rcases hMark with hNew | hOld
    · obtain ⟨-, rfl⟩ : i < estimatedMaxFlowPerHost ∧ i = idx := by simpa using hNew
      exact Or.inr ⟨qp, by rw [qps_setQpFinished, hAt], hFinished⟩
    · exact Or.inl hOld

theorem truthful (h : Extends finished g g') (hOld : g.Truthful finished) : g'.Truthful finished := by
  intro i hMark
  rcases h.marks i hMark with hBefore | hNew
  · obtain ⟨qp, hAt, hFinished⟩ := hOld i hBefore
    exact ⟨qp, getElem?_of_prefix h.qps hAt, hFinished⟩
  · exact hNew

/-- The marks that were there decide whether all marks are those of finished QPs. -/
theorem truthful_iff (h : Extends finished g g') : g'.Truthful finished ↔
    ∀ i, g.isQpFinished i = true → ∃ qp, g'.qps[i]? = some qp ∧ finished qp = true := by
  constructor
  · intro hTrue i hMark
    exact hTrue i (h.kept i hMark)
  · intro hOld i hMark
    rcases h.marks i hMark with hBefore | hNew
    · exact hOld i hBefore
    · exact hNew

end Extends

/-! ## The round robin -/

theorem markFinished_extends (c : QpChecks κ) {idx : Nat} {qp : κ} (hAt : g.qps[idx]? = some qp) :
    Extends finished g (g.markFinished finished c idx qp) ∧
      (g.markFinished finished c idx qp).qps = g.qps := by
  unfold markFinished
  split
  · rename_i hMark
    have hFinished : finished qp = true := (Bool.and_eq_true_iff.mp hMark).2
    exact ⟨Extends.setQpFinished hAt hFinished, qps_setQpFinished g idx⟩
  · exact ⟨Extends.refl finished g, rfl⟩

/-- The loop only marks finished QPs, and keeps the vector. -/
theorem scan_extends (c : QpChecks κ) (idxs : List Nat) (g : RdmaQueuePairGroup κ) :
    Extends finished g (scan finished c idxs g).2 ∧ (scan finished c idxs g).2.qps = g.qps := by
  induction idxs generalizing g with
  | nil => exact ⟨Extends.refl finished g, rfl⟩
  | cons idx rest ih =>
    unfold scan
    split
    · exact ih g
    · split
      · exact ih g
      · rename_i qp hAt
        obtain ⟨hExtends, hQps⟩ := @markFinished_extends κ finished g c _ _ hAt
        dsimp only
        split
        · exact ⟨hExtends, hQps⟩
        · obtain ⟨hRest, hRestQps⟩ := ih (g.markFinished finished c idx qp)
          exact ⟨hExtends.trans hRest, hRestQps.trans hQps⟩

theorem getNextQindex_extends (g : RdmaQueuePairGroup κ) (rrlast : Nat) (c : QpChecks κ) :
    Extends finished g (g.getNextQindex finished rrlast c).2 :=
  (scan_extends c _ g).1

/-- Where only finished QPs are marked, the loop does not end before a live QP that may send. -/
theorem sendable_of_scan_none {c : QpChecks κ} {idxs : List Nat} (hTrue : g.Truthful finished)
    (hNone : (scan finished c idxs g).1 = none) {idx : Nat} {qp : κ} (hMem : idx ∈ idxs)
    (hAt : g.qps[idx]? = some qp) (hLive : finished qp = false) : c.sendable qp = false := by
  induction idxs generalizing g with
  | nil => cases hMem
  | cons first rest ih =>
    unfold scan at hNone
    split at hNone
    · rename_i hMark
      rcases List.mem_cons.mp hMem with rfl | hRest
      · -- a marked position holds a finished QP
        obtain ⟨qp', hAt', hFinished⟩ := hTrue idx hMark
        rw [Option.some.inj (hAt.symm.trans hAt'), hFinished] at hLive
        cases hLive
      · exact ih hTrue hNone hRest hAt
    · split at hNone
      · rename_i hOutside
        rcases List.mem_cons.mp hMem with rfl | hRest
        · rw [hAt] at hOutside
          cases hOutside
        · exact ih hTrue hNone hRest hAt
      · rename_i qp' hAt'
        obtain ⟨hExtends, hQps⟩ := @markFinished_extends κ finished g c _ _ hAt'
        dsimp only at hNone
        split at hNone
        · cases hNone
        · rename_i hNot
          rcases List.mem_cons.mp hMem with rfl | hRest
          · rw [Option.some.inj (hAt.symm.trans hAt')]
            exact Bool.eq_false_iff.mpr hNot
          · exact ih (hExtends.truthful hTrue) hNone hRest (hQps ▸ hAt)

/-- A truthful bitmap hides no live QP. -/
theorem skipsNoLive_of_truthful (hTrue : g.Truthful finished) : g.SkipsNoLive finished := by
  intro rrlast c hNone qp hMem hLive
  obtain ⟨idx, hAt⟩ := List.mem_iff_getElem?.mp hMem
  have hBound := (List.getElem?_eq_some_iff.mp hAt).1
  exact sendable_of_scan_none hTrue hNone (mem_rotation.mpr hBound) hAt hLive

end RdmaQueuePairGroup

end Dpdq.Ns3
