import Mathlib.Algebra.Order.Field.Rat
import Mathlib.Tactic.FieldSimp
import Mathlib.Tactic.NormNum
import Mathlib.Tactic.Ring
import Dpdq.Lib.DeficitScheduler
import Dpdq.Ns3.CbScheduler

/-!
# The deficits of the receivers

The second half of `GetNextCreditBouncerQindex` outside the round-robin policy: the quanta of the
candidates, the deficits and the selection, with rational numbers for `double`. The candidates come in
the order in which the map of the receivers is iterated over.

* `sum_schedQuantum`: the quanta of a round, together.
* `deficitRound_spec`: a round is one of `Dpdq.Lib.DeficitScheduler`.
-/

namespace Dpdq.Ns3

open Function
open Dpdq.Lib

namespace CbSender

/-! ## A round -/

def policyRatio (senderPolicyRatio : ℚ) : ℚ := max 0 (min 1 senderPolicyRatio)

def minUnsent (cs : List ReceiverCandidate) : Nat :=
  cs.foldl (fun least c => min least c.unsentBytes) (2 ^ 64 - 1)

def isHighPrio (cs : List ReceiverCandidate) (c : ReceiverCandidate) : Bool :=
  c.unsentBytes = minUnsent cs

/-- `m_schedQuantum`. -/
def schedQuantum (senderPolicyRatio : ℚ) (cs : List ReceiverCandidate) (c : ReceiverCandidate) : ℚ :=
  let ratio := policyRatio senderPolicyRatio
  let fsQuantum := 1 / (cs.length : ℚ)
  let srptQuantum := 1
  let highQuantum := fsQuantum * (1 - ratio) + srptQuantum * ratio
  let lowQuantum := fsQuantum * (1 - ratio)
  if isHighPrio cs c then highQuantum else lowQuantum

/-- Every candidate gets its quantum. -/
def addQuanta (senderPolicyRatio : ℚ) (cs : List ReceiverCandidate) (deficit : Nat → ℚ) : Nat → ℚ :=
  cs.foldl (fun d c => update d c.receiverAddr
    (d c.receiverAddr + schedQuantum senderPolicyRatio cs c)) deficit

def maxDeficit (cs : List ReceiverCandidate) (deficit : Nat → ℚ) : ℚ :=
  cs.foldl (fun most c => max most (deficit c.receiverAddr)) (-1)

/-- The refill loop. -/
def refillDeficits (senderPolicyRatio : ℚ) (cs : List ReceiverCandidate) :
    Nat → (Nat → ℚ) → Nat → ℚ
  | 0, deficit => deficit
  | refills + 1, deficit =>
    if maxDeficit cs deficit ≥ 1 then deficit
    else refillDeficits senderPolicyRatio cs refills (addQuanta senderPolicyRatio cs deficit)

/-- One iteration of the selection: `selected`, `bestDeficit` and `bestUnsent`. -/
def pickStep (deficit : Nat → ℚ) (best : Option ReceiverCandidate × ℚ × Nat)
    (c : ReceiverCandidate) : Option ReceiverCandidate × ℚ × Nat :=
  let d := deficit c.receiverAddr
  if d > best.2.1 ∨ (d = best.2.1 ∧ c.unsentBytes < best.2.2) then (some c, d, c.unsentBytes)
  else best

def pickDeficit (cs : List ReceiverCandidate) (deficit : Nat → ℚ) : Option ReceiverCandidate :=
  (cs.foldl (pickStep deficit) (none, -1, 2 ^ 64 - 1)).1

/-- The candidate at the selected index pays. -/
def payDeficit (cs : List ReceiverCandidate) (deficit : Nat → ℚ) (qindex : Nat) : Nat → ℚ :=
  match cs.find? fun c => c.qindex = qindex with
  | none => deficit
  | some c => update deficit c.receiverAddr (max 0 (deficit c.receiverAddr - 1))

/-- Receivers that are no candidates lose their deficits. -/
def candidatesOnly (cs : List ReceiverCandidate) (deficit : Nat → ℚ) (addr : Nat) : ℚ :=
  if addr ∈ cs.map ReceiverCandidate.receiverAddr then deficit addr else 0

/-- The deficits that the selection compares. -/
def topDeficits (senderPolicyRatio : ℚ) (cs : List ReceiverCandidate) (deficit : Nat → ℚ) :
    Nat → ℚ :=
  refillDeficits senderPolicyRatio cs 8
    (addQuanta senderPolicyRatio cs (candidatesOnly cs deficit))

/-- The candidate that is selected, and the deficits behind the round. -/
def deficitRound (senderPolicyRatio : ℚ) (cs : List ReceiverCandidate) (deficit : Nat → ℚ) :
    Option ReceiverCandidate × (Nat → ℚ) :=
  let deficit := topDeficits senderPolicyRatio cs deficit
  match pickDeficit cs deficit with
  | none => (none, deficit)
  | some best => (some best, payDeficit cs deficit best.qindex)

/-! ## The quanta -/

variable {ratio : ℚ} {cs : List ReceiverCandidate} {deficit : Nat → ℚ}

theorem policyRatio_nonneg (ratio : ℚ) : 0 ≤ policyRatio ratio := le_max_left _ _

theorem policyRatio_le_one (ratio : ℚ) : policyRatio ratio ≤ 1 :=
  max_le zero_le_one (min_le_left _ _)

theorem policyRatio_eq (hNonneg : 0 ≤ ratio) (hLess : ratio < 1) : policyRatio ratio = ratio := by
  unfold policyRatio
  rw [min_eq_right hLess.le, max_eq_right hNonneg]

theorem schedQuantum_eq (ratio : ℚ) (cs : List ReceiverCandidate) (c : ReceiverCandidate) :
    schedQuantum ratio cs c = 1 / (cs.length : ℚ) * (1 - policyRatio ratio) +
      if isHighPrio cs c then policyRatio ratio else 0 := by
  unfold schedQuantum
  dsimp only
  split
  · rw [one_mul]
  · rw [add_zero]

/-- Every candidate gets its share of what is not the SRPT share. -/
theorem le_schedQuantum (ratio : ℚ) (cs : List ReceiverCandidate) (c : ReceiverCandidate) :
    1 / (cs.length : ℚ) * (1 - policyRatio ratio) ≤ schedQuantum ratio cs c := by
  rw [schedQuantum_eq]
  split
  · exact le_add_of_nonneg_right (policyRatio_nonneg ratio)
  · rw [add_zero]

theorem share_nonneg (ratio : ℚ) (n : Nat) : 0 ≤ 1 / (n : ℚ) * (1 - policyRatio ratio) :=
  mul_nonneg (by positivity) (by linarith [policyRatio_le_one ratio])

theorem schedQuantum_nonneg (ratio : ℚ) (cs : List ReceiverCandidate) (c : ReceiverCandidate) :
    0 ≤ schedQuantum ratio cs c :=
  (share_nonneg ratio cs.length).trans (le_schedQuantum ratio cs c)

/-- The quanta of a round, together: each candidate with the fewest bytes gets an SRPT share. -/
theorem sum_schedQuantum (ratio : ℚ) (hSome : cs ≠ []) :
    (cs.map (schedQuantum ratio cs)).sum =
      1 - policyRatio ratio + cs.countP (isHighPrio cs) * policyRatio ratio := by
  have hSum (share extra : ℚ) (high : ReceiverCandidate → Bool) (l : List ReceiverCandidate) :
      (l.map fun c => share + if high c then extra else 0).sum =
        l.length * share + l.countP high * extra := by
    induction l with
    | nil => simp
    | cons c l ih =>
      rw [List.map_cons, List.sum_cons, ih, List.countP_cons]
      split
      · push_cast [List.length_cons]
        ring
      · push_cast [List.length_cons]
        ring
  have hLength : (cs.length : ℚ) ≠ 0 := by
    simpa using hSome
  have hEach : schedQuantum ratio cs = fun c => 1 / (cs.length : ℚ) * (1 - policyRatio ratio) +
      if isHighPrio cs c then policyRatio ratio else 0 :=
    funext (schedQuantum_eq ratio cs)
  rw [hEach, hSum]
  field_simp

/-- The condition on a round: one candidate has the fewest bytes, or there is no SRPT share. -/
def OneHighPrio (ratio : ℚ) (cs : List ReceiverCandidate) : Prop :=
  cs ≠ [] → policyRatio ratio = 0 ∨ cs.countP (isHighPrio cs) = 1

instance (ratio : ℚ) (cs : List ReceiverCandidate) : Decidable (OneHighPrio ratio cs) :=
  inferInstanceAs (Decidable (_ → _))

/-- The quanta sum to 1 in exactly these rounds. -/
theorem sum_schedQuantum_eq_one_iff (ratio : ℚ) (hSome : cs ≠ []) :
    (cs.map (schedQuantum ratio cs)).sum = 1 ↔ OneHighPrio ratio cs := by
  rw [sum_schedQuantum ratio hSome]
  unfold OneHighPrio
  constructor
  · intro hSum _
    have hProduct : ((cs.countP (isHighPrio cs) : ℚ) - 1) * policyRatio ratio = 0 := by
      linarith
    rcases mul_eq_zero.mp hProduct with hOne | hNone
    · exact Or.inr (by exact_mod_cast sub_eq_zero.mp hOne)
    · exact Or.inl hNone
  · intro hOne
    rcases hOne hSome with hNone | hCount
    · rw [hNone]
      ring
    · rw [hCount]
      push_cast
      ring

/-! ## The deficits -/

theorem addQuanta_nonneg (hDeficit : ∀ addr, 0 ≤ deficit addr) (addr : Nat) :
    0 ≤ addQuanta ratio cs deficit addr := by
  unfold addQuanta
  refine List.foldlRecOn cs _ (motive := fun d : Nat → ℚ => ∀ addr, 0 ≤ d addr) hDeficit ?_ addr
  intro d hd c _ addr
  by_cases hSame : addr = c.receiverAddr
  · rw [hSame, update_self]
    exact add_nonneg (hd _) (schedQuantum_nonneg ratio cs c)
  · rw [update_of_ne hSame]
    exact hd addr

theorem refillDeficits_nonneg (hDeficit : ∀ addr, 0 ≤ deficit addr) (refills : Nat) (addr : Nat) :
    0 ≤ refillDeficits ratio cs refills deficit addr := by
  induction refills generalizing deficit with
  | zero => exact hDeficit addr
  | succ refills ih =>
    unfold refillDeficits
    split
    · exact hDeficit addr
    · exact ih (addQuanta_nonneg hDeficit)

theorem topDeficits_nonneg (hDeficit : ∀ addr, 0 ≤ deficit addr) (addr : Nat) :
    0 ≤ topDeficits ratio cs deficit addr := by
  refine refillDeficits_nonneg (addQuanta_nonneg ?_) 8 addr
  intro other
  unfold candidatesOnly
  split
  · exact hDeficit other
  · exact le_refl 0

theorem payDeficit_nonneg (hDeficit : ∀ addr, 0 ≤ deficit addr) (qindex addr : Nat) :
    0 ≤ payDeficit cs deficit qindex addr := by
  unfold payDeficit
  cases cs.find? fun c => c.qindex = qindex with
  | none => exact hDeficit addr
  | some c =>
    dsimp only
    by_cases hSame : addr = c.receiverAddr
    · rw [hSame, update_self]
      exact le_max_left _ _
    · rw [update_of_ne hSame]
      exact hDeficit addr

theorem deficitRound_nonneg (hDeficit : ∀ addr, 0 ≤ deficit addr) (addr : Nat) :
    0 ≤ (deficitRound ratio cs deficit).2 addr := by
  unfold deficitRound
  dsimp only
  split
  · exact topDeficits_nonneg hDeficit addr
  · exact payDeficit_nonneg (topDeficits_nonneg hDeficit) _ addr

/-- What the selection has found among the candidates so far. -/
structure Best (deficit : Nat → ℚ) (cs : List ReceiverCandidate)
    (best : Option ReceiverCandidate × ℚ × Nat) : Prop where
  atLeast : ∀ c ∈ cs, deficit c.receiverAddr ≤ best.2.1
  found : cs ≠ [] → ∃ c ∈ cs, best.1 = some c ∧ deficit c.receiverAddr = best.2.1

theorem Best.step {best : Option ReceiverCandidate × ℚ × Nat} {before : List ReceiverCandidate}
    (h : Best deficit before best) (hFirst : before = [] → best.2.1 = -1) {c : ReceiverCandidate}
    (hc : 0 ≤ deficit c.receiverAddr) :
    Best deficit (before ++ [c]) (pickStep deficit best c) := by
  unfold pickStep
  dsimp only
  split
  · rename_i hBetter
    have hLe : best.2.1 ≤ deficit c.receiverAddr := by
      rcases hBetter with hMore | ⟨hEqual, -⟩
      · exact hMore.le
      · exact hEqual.ge
    refine ⟨?_, fun _ => ⟨c, by simp, rfl, rfl⟩⟩
    intro d hd
    rcases List.mem_append.mp hd with hOld | hNew
    · exact (h.atLeast d hOld).trans hLe
    · rw [List.mem_singleton.mp hNew]
  · rename_i hWorse
    have hLe : deficit c.receiverAddr ≤ best.2.1 :=
      not_lt.mp fun hMore => hWorse (Or.inl hMore)
    have hSome : before ≠ [] := by
      intro hNone
      rw [hFirst hNone] at hLe
      linarith
    refine ⟨?_, fun _ => ?_⟩
    · intro d hd
      rcases List.mem_append.mp hd with hOld | hNew
      · exact h.atLeast d hOld
      · rw [List.mem_singleton.mp hNew]
        exact hLe
    · obtain ⟨d, hd, hBest, hDeficit⟩ := h.found hSome
      exact ⟨d, List.mem_append_left _ hd, hBest, hDeficit⟩

/-- A candidate with the highest deficit is selected. -/
theorem pickDeficit_spec (hDeficit : ∀ addr, 0 ≤ deficit addr) (hSome : cs ≠ []) :
    ∃ best ∈ cs, pickDeficit cs deficit = some best ∧
      ∀ c ∈ cs, deficit c.receiverAddr ≤ deficit best.receiverAddr := by
  have hFold (before after : List ReceiverCandidate)
      (best : Option ReceiverCandidate × ℚ × Nat) (h : Best deficit before best)
      (hFirst : before = [] → best.2.1 = -1) :
      Best deficit (before ++ after) (after.foldl (pickStep deficit) best) := by
    induction after generalizing before best with
    | nil =>
      rw [List.append_nil]
      exact h
    | cons c after ih =>
      rw [List.foldl_cons, List.append_cons]
      exact ih (before ++ [c]) _ (h.step hFirst (hDeficit _)) (by simp)
  have hBest := hFold [] cs (none, -1, 2 ^ 64 - 1) ⟨by simp, by simp⟩ fun _ => rfl
  obtain ⟨best, hMem, hFound, hEq⟩ := hBest.found hSome
  refine ⟨best, hMem, hFound, ?_⟩
  intro c hc
  rw [hEq]
  exact hBest.atLeast c hc

/-! ## A round of a deficit scheduler -/

/-- The receivers of the candidates. -/
def addrs (cs : List ReceiverCandidate) : Finset Nat :=
  (cs.map ReceiverCandidate.receiverAddr).toFinset

/-- The quantum of a receiver. -/
def quantumOf (ratio : ℚ) (cs : List ReceiverCandidate) (addr : Nat) : ℚ :=
  (cs.find? fun c => c.receiverAddr = addr).elim 0 (schedQuantum ratio cs)

theorem mem_addrs {addr : Nat} :
    addr ∈ addrs cs ↔ ∃ c ∈ cs, c.receiverAddr = addr := by
  simp [addrs]

theorem quantumOf_nonneg (ratio : ℚ) (cs : List ReceiverCandidate) (addr : Nat) :
    0 ≤ quantumOf ratio cs addr := by
  unfold quantumOf
  cases cs.find? fun c => c.receiverAddr = addr with
  | none => exact le_refl 0
  | some c => exact schedQuantum_nonneg ratio cs c

/-- Adding to one receiver after the other. -/
theorem foldl_add (f : ReceiverCandidate → ℚ) {l : List ReceiverCandidate}
    (hNodup : (l.map ReceiverCandidate.receiverAddr).Nodup) (d : Nat → ℚ) (addr : Nat) :
    l.foldl (fun d c => update d c.receiverAddr (d c.receiverAddr + f c)) d addr =
      d addr + (l.find? fun c => c.receiverAddr = addr).elim 0 f := by
  induction l generalizing d with
  | nil => simp
  | cons c l ih =>
    obtain ⟨hNew, hRest⟩ := List.nodup_cons.mp hNodup
    rw [List.foldl_cons, ih hRest, List.find?_cons]
    by_cases hSame : c.receiverAddr = addr
    · have hNone : (l.find? fun c => c.receiverAddr = addr) = none := by
        rw [List.find?_eq_none]
        intro e he
        simp only [decide_eq_true_eq]
        intro hOther
        exact hNew (List.mem_map.mpr ⟨e, he, hOther.trans hSame.symm⟩)
      rw [hNone, ← hSame, update_self]
      simp
    · rw [update_of_ne (Ne.symm hSame)]
      simp [hSame]

theorem addQuanta_eq (hNodup : (cs.map ReceiverCandidate.receiverAddr).Nodup) :
    addQuanta ratio cs deficit =
      DeficitScheduler.topUp (addrs cs) (quantumOf ratio cs) deficit := by
  funext addr
  unfold addQuanta DeficitScheduler.topUp
  rw [foldl_add _ hNodup]
  split
  · rfl
  · rename_i hOut
    have hNone : (cs.find? fun c => c.receiverAddr = addr) = none := by
      rw [List.find?_eq_none]
      intro c hc
      simp only [decide_eq_true_eq]
      exact fun hSame => hOut (mem_addrs.mpr ⟨c, hc, hSame⟩)
    rw [hNone]
    exact add_zero _

theorem one_le_maxDeficit_iff :
    1 ≤ maxDeficit cs deficit ↔ ∃ addr ∈ addrs cs, 1 ≤ deficit addr := by
  have hFold (l : List ReceiverCandidate) (most : ℚ) :
      1 ≤ l.foldl (fun most c => max most (deficit c.receiverAddr)) most ↔
        1 ≤ most ∨ ∃ c ∈ l, 1 ≤ deficit c.receiverAddr := by
    induction l generalizing most with
    | nil => simp
    | cons c l ih =>
      rw [List.foldl_cons, ih, le_max_iff]
      simp [or_assoc]
  unfold maxDeficit
  rw [hFold]
  constructor
  · rintro (hStart | ⟨c, hc, hOne⟩)
    · norm_num at hStart
    · exact ⟨c.receiverAddr, mem_addrs.mpr ⟨c, hc, rfl⟩, hOne⟩
  · rintro ⟨addr, hAddr, hOne⟩
    obtain ⟨c, hc, rfl⟩ := mem_addrs.mp hAddr
    exact Or.inr ⟨c, hc, hOne⟩

theorem refillDeficits_eq (hNodup : (cs.map ReceiverCandidate.receiverAddr).Nodup)
    (refills : Nat) : refillDeficits ratio cs refills deficit =
      DeficitScheduler.refill (addrs cs) (quantumOf ratio cs) refills deficit := by
  induction refills generalizing deficit with
  | zero => rfl
  | succ refills ih =>
    unfold refillDeficits DeficitScheduler.refill
    rw [ih, addQuanta_eq hNodup]
    exact if_congr one_le_maxDeficit_iff rfl rfl

theorem topDeficits_eq (hNodup : (cs.map ReceiverCandidate.receiverAddr).Nodup) :
    topDeficits ratio cs deficit =
      DeficitScheduler.topped (addrs cs) (quantumOf ratio cs) 8 deficit := by
  have hKeep : candidatesOnly cs deficit = DeficitScheduler.keep (addrs cs) deficit := by
    funext addr
    unfold candidatesOnly DeficitScheduler.keep addrs
    exact if_congr List.mem_toFinset.symm rfl rfl
  unfold topDeficits DeficitScheduler.topped
  rw [refillDeficits_eq hNodup, addQuanta_eq hNodup, hKeep]

theorem find?_receiverAddr (hNodup : (cs.map ReceiverCandidate.receiverAddr).Nodup)
    {c : ReceiverCandidate} (hc : c ∈ cs) :
    (cs.find? fun d => d.receiverAddr = c.receiverAddr) = some c := by
  cases hFind : cs.find? fun d => d.receiverAddr = c.receiverAddr with
  | none =>
    have hNone := List.find?_eq_none.mp hFind c hc
    simp at hNone
  | some d =>
    have hSame : d.receiverAddr = c.receiverAddr := by simpa using List.find?_some hFind
    rw [List.inj_on_of_nodup_map hNodup (List.mem_of_find?_eq_some hFind) hc hSame]

theorem quantumOf_receiverAddr (hNodup : (cs.map ReceiverCandidate.receiverAddr).Nodup)
    {c : ReceiverCandidate} (hc : c ∈ cs) :
    quantumOf ratio cs c.receiverAddr = schedQuantum ratio cs c := by
  unfold quantumOf
  rw [find?_receiverAddr hNodup hc]
  rfl

theorem sum_quantumOf (hNodup : (cs.map ReceiverCandidate.receiverAddr).Nodup) :
    ∑ addr ∈ addrs cs, quantumOf ratio cs addr = (cs.map (schedQuantum ratio cs)).sum := by
  unfold addrs
  rw [List.sum_toFinset _ hNodup, List.map_map]
  refine congrArg List.sum (List.map_congr_left ?_)
  intro c hc
  exact quantumOf_receiverAddr hNodup hc

/-- One candidate for each receiver and each index. -/
structure Distinct (cs : List ReceiverCandidate) : Prop where
  addrs : (cs.map ReceiverCandidate.receiverAddr).Nodup
  qindex : ∀ c ∈ cs, ∀ d ∈ cs, c.qindex = d.qindex → c = d

theorem Distinct.perm {cs' : List ReceiverCandidate} (h : Distinct cs) (hPerm : cs'.Perm cs) :
    Distinct cs' where
  addrs := (hPerm.map _).nodup_iff.mpr h.addrs
  qindex c hc d hd := h.qindex c (hPerm.subset hc) d (hPerm.subset hd)

/-- A round without candidates only takes the deficits away. -/
theorem deficitRound_nil (ratio : ℚ) (deficit : Nat → ℚ) :
    deficitRound ratio [] deficit = (none, fun _ => 0) := by
  have hTop : topDeficits ratio [] deficit = fun _ => 0 := by
    have hKeep : candidatesOnly [] deficit = fun _ => 0 := by
      funext addr
      simp [candidatesOnly]
    have hRefill (refills : Nat) : refillDeficits ratio [] refills (fun _ => 0) = fun _ => 0 := by
      induction refills with
      | zero => rfl
      | succ refills ih =>
        unfold refillDeficits
        split
        · rfl
        · exact ih
    unfold topDeficits
    rw [hKeep]
    exact hRefill 8
  unfold deficitRound
  rw [hTop]
  rfl

/-- A round serves a candidate with the highest deficit, which pays. -/
theorem deficitRound_spec (h : Distinct cs) (hDeficit : ∀ addr, 0 ≤ deficit addr)
    (hSome : cs ≠ []) : ∃ best ∈ cs,
      deficitRound ratio cs deficit = (some best, DeficitScheduler.charge
        (DeficitScheduler.topped (addrs cs) (quantumOf ratio cs) 8 deficit) best.receiverAddr) ∧
      ∀ addr ∈ addrs cs,
        DeficitScheduler.topped (addrs cs) (quantumOf ratio cs) 8 deficit addr ≤
          DeficitScheduler.topped (addrs cs) (quantumOf ratio cs) 8 deficit best.receiverAddr := by
  obtain ⟨best, hMem, hPick, hBest⟩ :=
    pickDeficit_spec (@topDeficits_nonneg ratio cs deficit hDeficit) hSome
  have hPays : (cs.find? fun c => c.qindex = best.qindex) = some best := by
    cases hFind : cs.find? fun c => c.qindex = best.qindex with
    | none =>
      have hNone := List.find?_eq_none.mp hFind best hMem
      simp at hNone
    | some d =>
      have hSame : d.qindex = best.qindex := by simpa using List.find?_some hFind
      rw [h.qindex d (List.mem_of_find?_eq_some hFind) best hMem hSame]
  refine ⟨best, hMem, ?_, ?_⟩
  · unfold deficitRound payDeficit
    dsimp only
    rw [hPick]
    dsimp only
    rw [hPays, topDeficits_eq h.addrs]
    rfl
  · intro addr hAddr
    obtain ⟨c, hc, rfl⟩ := mem_addrs.mp hAddr
    rw [← topDeficits_eq h.addrs]
    exact hBest c hc

end CbSender

end Dpdq.Ns3
