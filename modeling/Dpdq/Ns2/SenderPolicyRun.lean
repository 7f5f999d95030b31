import Mathlib.Data.List.Sort
import Mathlib.Tactic.LinearCombination
import Mathlib.Tactic.Ring
import Dpdq.Ns2.SenderSelection

/-!
# Runs of the sender policy

In every state that a run reaches, the deficits are not negative, and the quanta of a call add up
to 1. The receiver that the policy prefers has a quantum of at least `1 / n` where `n` receivers can
send, so that the recursion of `select_msg_to_send` ends after `n` calls.

The assertions demand more: a quantum of at least 0.000001 from the receivers that get a deficit
higher than all before them. Where the policy leaves nothing for fair sharing, the quantum of all
receivers but one is 0.
-/

namespace Dpdq.Ns2

open Dpdq.Lib

variable {cfg : SenderConfig} {rcvers : Nat → ReceiverState} {s : List PolicyState}

/-! ## The quanta -/

namespace SenderConfig

variable (cfg : SenderConfig)

theorem fsWeight_nonneg : 0 ≤ cfg.fsWeight := by
  unfold fsWeight
  split
  · exact zero_le_one
  · exact sub_nonneg.mpr cfg.ratio_le_one

theorem srptWeight_nonneg : 0 ≤ cfg.srptWeight := by
  unfold srptWeight
  split
  · exact le_rfl
  · exact cfg.ratio_nonneg

theorem fsWeight_add_srptWeight : cfg.fsWeight + cfg.srptWeight = 1 := by
  unfold fsWeight srptWeight
  split <;> ring

end SenderConfig

section Quanta

variable (cfg : SenderConfig) {s : List PolicyState}

theorem fsQuantum_pos (h : 0 < numCanSend s) : 0 < fsQuantum s :=
  one_div_pos.mpr (Nat.cast_pos.mpr h)

theorem fsQuantum_le_one (h : 0 < numCanSend s) : fsQuantum s ≤ 1 := by
  unfold fsQuantum
  rw [div_le_one (Nat.cast_pos.mpr h)]
  exact Nat.one_le_cast.mpr h

theorem lowPrioQuantum_nonneg (h : 0 < numCanSend s) : 0 ≤ lowPrioQuantum cfg s :=
  mul_nonneg (fsQuantum_pos h).le cfg.fsWeight_nonneg

theorem lowPrioQuantum_le : lowPrioQuantum cfg s ≤ highPrioQuantum cfg s := by
  unfold lowPrioQuantum highPrioQuantum
  linarith [cfg.srptWeight_nonneg]

theorem highPrioQuantum_le_one (h : 0 < numCanSend s) : highPrioQuantum cfg s ≤ 1 := by
  have hFs : fsQuantum s * cfg.fsWeight ≤ cfg.fsWeight :=
    mul_le_of_le_one_left cfg.fsWeight_nonneg (fsQuantum_le_one h)
  unfold highPrioQuantum
  linarith [cfg.fsWeight_add_srptWeight]

/-- The preferred receiver has at least the share that it would have of a fair division. -/
theorem fsQuantum_le_highPrioQuantum (h : 0 < numCanSend s) :
    fsQuantum s ≤ highPrioQuantum cfg s := by
  have hSrpt : fsQuantum s * cfg.srptWeight ≤ cfg.srptWeight :=
    mul_le_of_le_one_left cfg.srptWeight_nonneg (fsQuantum_le_one h)
  have hOne : fsQuantum s * cfg.fsWeight + fsQuantum s * cfg.srptWeight = fsQuantum s := by
    rw [← mul_add, cfg.fsWeight_add_srptWeight, mul_one]
  unfold highPrioQuantum
  linarith

theorem quanta_sum (h : 0 < numCanSend s) :
    highPrioQuantum cfg s + (numCanSend s - 1) * lowPrioQuantum cfg s = 1 := by
  have hOne : (numCanSend s : Rat) * fsQuantum s = 1 :=
    mul_one_div_cancel (Nat.cast_pos.mpr h).ne'
  unfold highPrioQuantum lowPrioQuantum
  linear_combination cfg.fsWeight * hOne + cfg.fsWeight_add_srptWeight

end Quanta

/-! ## The update -/

/-- What holds of the receivers between two calls. -/
structure SchedSound (s : List PolicyState) : Prop where
  nodup : (s.map PolicyState.rcverAddr).Nodup
  nonneg : ∀ ps ∈ s, 0 ≤ ps.deficit

/-- A receiver after `want_to_send`. -/
structure Wanting (rcvers : Nat → ReceiverState) (ps : PolicyState) : Prop where
  canSend : ps.canSend = true ↔ (rcvers ps.rcverAddr).Sendable
  chosen : ps.Chosen
  nonneg : 0 ≤ ps.deficit
  idle : ps.canSend = false → ps.deficit = 0

theorem wanting_of_mem (h : SchedSound s) {t : PolicyState} (hMem : t ∈ wantAll cfg rcvers s) :
    Wanting rcvers t := by
  obtain ⟨ps, hPs, rfl⟩ := List.mem_map.mp hMem
  obtain ⟨hAddr, hCan, hChosen, hKeep, hIdle⟩ :=
    wantToSend_spec cfg (rcvers ps.rcverAddr) ps
  refine ⟨by rw [hAddr]; exact hCan, hChosen, ?_, hIdle⟩
  cases hSend : (wantToSend cfg (rcvers ps.rcverAddr) ps).canSend with
  | true => exact (hKeep hSend).symm ▸ h.nonneg ps hPs
  | false => exact (hIdle hSend).ge

theorem wantAll_rcverAddr (cfg : SenderConfig) (rcvers : Nat → ReceiverState)
    (s : List PolicyState) :
    (wantAll cfg rcvers s).map PolicyState.rcverAddr = s.map PolicyState.rcverAddr := by
  unfold wantAll
  rw [List.map_map]
  exact List.map_congr_left fun ps _ => (wantToSend_spec cfg (rcvers ps.rcverAddr) ps).1

/-- The outcomes of `update_policy_state`. -/
inductive Updated (cfg : SenderConfig) (rcvers : Nat → ReceiverState) (s : List PolicyState) :
    Except SchedFailure (List PolicyState) → Prop
  | idle (hNone : numCanSend s = 0) : Updated cfg rcvers s (.ok s)
  | given (prio flow : Nat) (hSome : 0 < numCanSend s) (hPreferred : Preferred cfg rcvers s)
      (hPrio : rcverWithHighestPrio cfg rcvers s = some prio)
      (hMem : ∃ ps ∈ s, ps.canSend = true ∧ ps.rcverAddr = prio) :
      Updated cfg rcvers s (.ok (s.map (addDeficit cfg s prio flow)))
  | failed (e : SchedFailure) (hFuel : e ≠ .outOfFuel) (hSome : 0 < numCanSend s)
      (hPreferred : ¬ Preferred cfg rcvers s) : Updated cfg rcvers s (.error e)

theorem updatePolicyState_updated (h : SchedSound s) :
    Updated cfg rcvers (wantAll cfg rcvers s) (updatePolicyState cfg rcvers s) := by
  have hWanting : ∀ ps ∈ wantAll cfg rcvers s, Wanting rcvers ps := fun ps => wanting_of_mem h
  unfold updatePolicyState
  generalize wantAll cfg rcvers s = t at hWanting ⊢
  dsimp only
  rw [check_bind_of fun ps hMem hCan => ((hWanting ps hMem).chosen hCan).1,
    check_bind_of fun ps hMem hIdle => (hWanting ps hMem).idle hIdle ▸ leastQuantum_pos,
    check_bind_of fun ps hMem => (hWanting ps hMem).nonneg]
  split
  · rename_i hNone
    exact .idle hNone
  · rename_i hSome
    have hSome : 0 < numCanSend t := Nat.pos_of_ne_zero hSome
    rcases preferred_cases cfg rcvers t with
      ⟨prio, flow, hPrio, hFlow, hPreferred, hMem⟩ | ⟨hNot, hNone⟩
    · rw [hPrio, hFlow]
      dsimp only
      have hSum : highPrioQuantum cfg t + (numCanSend t - 1) * lowPrioQuantum cfg t - 1 <
          1 / 100000 := by
        rw [quanta_sum cfg hSome]
        norm_num
      have hLow := lowPrioQuantum_nonneg cfg hSome
      have hLe := lowPrioQuantum_le cfg (s := t)
      have hHigh := highPrioQuantum_le_one cfg hSome
      rw [check_bind_of hSum, check_bind_of ⟨hLow, hLe.trans hHigh⟩,
        check_bind_of ⟨hLow.trans hLe, hHigh⟩,
        check_bind_of fun ps hMem hCan => ((hWanting ps hMem).chosen hCan).2]
      exact .given prio flow hSome hPreferred hPrio hMem
    · rcases hNone with hPrio | hFlow
      · rw [hPrio]
        exact .failed _ (by decide) hSome hNot
      · rw [hFlow]
        cases rcverWithHighestPrio cfg rcvers t with
        | none => exact .failed _ (by decide) hSome hNot
        | some prio => exact .failed _ (by decide) hSome hNot

/-! ## The whole call -/

/-- The part of 1 that the weights give to a receiver. -/
def share (cfg : SenderConfig) (rcvers : Nat → ReceiverState) (s : List PolicyState)
    (ps : PolicyState) : Rat :=
  cfg.fsWeight / numCanSend s +
    if rcverWithHighestPrio cfg rcvers s = some ps.rcverAddr then cfg.srptWeight else 0

/-- What makes all assertions hold, for the receivers after `want_to_send`: there is a preferred
receiver; the share of a receiver that comes to a deficit above all in front of it is not too
small, nor that of any one if none comes to 1; and no deficit comes to more than 11. -/
structure Affords (cfg : SenderConfig) (rcvers : Nat → ReceiverState) (s : List PolicyState) :
    Prop where
  preferred : Preferred cfg rcvers s
  overtakers : ∀ front ps back, s = front ++ ps :: back → ps.canSend = true →
    (∀ x ∈ front, x.canSend = true →
      x.deficit + share cfg rcvers s x < ps.deficit + share cfg rcvers s ps) →
    leastQuantum ≤ share cfg rcvers s ps
  topUp : (∀ ps ∈ s, ps.canSend = true → ps.deficit + share cfg rcvers s ps < 1) →
    ∀ ps ∈ s, ps.canSend = true → leastQuantum ≤ share cfg rcvers s ps
  charge : ∀ ps ∈ s, ps.canSend = true → ps.deficit + share cfg rcvers s ps ≤ 11

/-- The quanta of `update_policy_state` are these shares. -/
theorem share_eq (cfg : SenderConfig) (rcvers : Nat → ReceiverState) (s : List PolicyState)
    (ps : PolicyState) :
    share cfg rcvers s ps = if rcverWithHighestPrio cfg rcvers s = some ps.rcverAddr then
      highPrioQuantum cfg s else lowPrioQuantum cfg s := by
  unfold share highPrioQuantum lowPrioQuantum fsQuantum
  split <;> ring

section Given

variable {prio flow : Nat} {ps : PolicyState}

theorem addDeficit_rcverAddr (ps : PolicyState) :
    (addDeficit cfg s prio flow ps).rcverAddr = ps.rcverAddr := by
  unfold addDeficit
  dsimp only
  split <;> rfl

theorem addDeficit_canSend (ps : PolicyState) :
    (addDeficit cfg s prio flow ps).canSend = ps.canSend := by
  unfold addDeficit
  dsimp only
  split <;> rfl

theorem addDeficit_of_canSend (flow : Nat) (hPrio : rcverWithHighestPrio cfg rcvers s = some prio)
    (hCan : ps.canSend = true) :
    (addDeficit cfg s prio flow ps).deficit = ps.deficit + share cfg rcvers s ps ∧
      (addDeficit cfg s prio flow ps).quantum = share cfg rcvers s ps := by
  have hQuantum : (if ps.rcverAddr = prio then highPrioQuantum cfg s else lowPrioQuantum cfg s) =
      share cfg rcvers s ps := by
    rw [share_eq, hPrio]
    simp only [Option.some.injEq, eq_comm]
  unfold addDeficit
  dsimp only
  rw [if_pos hCan, hQuantum]
  exact ⟨rfl, rfl⟩

theorem addDeficit_of_idle (hIdle : ps.canSend = false) :
    (addDeficit cfg s prio flow ps).deficit = ps.deficit := by
  unfold addDeficit
  dsimp only
  rw [if_neg (by simp [hIdle])]

theorem share_mem (cfg : SenderConfig) (rcvers : Nat → ReceiverState)
    (hSome : 0 < numCanSend s) (ps : PolicyState) :
    0 ≤ share cfg rcvers s ps ∧ share cfg rcvers s ps ≤ 1 := by
  have hLow := lowPrioQuantum_nonneg cfg hSome
  have hLe := lowPrioQuantum_le cfg (s := s)
  have hHigh := highPrioQuantum_le_one cfg hSome
  rw [share_eq]
  split
  · exact ⟨hLow.trans hLe, hHigh⟩
  · exact ⟨hLow, hLe.trans hHigh⟩

theorem armed_addDeficit (hNodup : (s.map PolicyState.rcverAddr).Nodup)
    (hWanting : ∀ ps ∈ s, Wanting rcvers ps) (hSome : 0 < numCanSend s)
    (hPrio : rcverWithHighestPrio cfg rcvers s = some prio) :
    Armed (s.map (addDeficit cfg s prio flow)) where
  nodup := by
    have hSame : s.map (PolicyState.rcverAddr ∘ addDeficit cfg s prio flow) =
        s.map PolicyState.rcverAddr :=
      List.map_congr_left fun ps _ => addDeficit_rcverAddr ps
    rw [List.map_map, hSame]
    exact hNodup
  idle := by
    intro t hMem hIdle
    obtain ⟨ps, hPs, rfl⟩ := List.mem_map.mp hMem
    rw [addDeficit_canSend] at hIdle
    rw [addDeficit_of_idle hIdle]
    exact (hWanting ps hPs).idle hIdle
  deficit := by
    intro t hMem hCan
    obtain ⟨ps, hPs, rfl⟩ := List.mem_map.mp hMem
    rw [addDeficit_canSend] at hCan
    rw [(addDeficit_of_canSend flow hPrio hCan).1]
    exact add_nonneg (hWanting ps hPs).nonneg (share_mem cfg rcvers hSome ps).1
  quantum := by
    intro t hMem hCan
    obtain ⟨ps, hPs, rfl⟩ := List.mem_map.mp hMem
    rw [addDeficit_canSend] at hCan
    rw [(addDeficit_of_canSend flow hPrio hCan).2]
    exact share_mem cfg rcvers hSome ps

/-- The preferred receiver comes to a deficit of 1 in as many calls as there are receivers. -/
theorem fair_addDeficit (flow : Nat) (hWanting : ∀ ps ∈ s, Wanting rcvers ps)
    (hSome : 0 < numCanSend s) (hPrio : rcverWithHighestPrio cfg rcvers s = some prio)
    (hMem : ∃ ps ∈ s, ps.canSend = true ∧ ps.rcverAddr = prio) :
    ∃ ps ∈ s.map (addDeficit cfg s prio flow), ps.canSend = true ∧
      1 ≤ ps.deficit + s.length * ps.quantum := by
  obtain ⟨ps, hPs, hCan, rfl⟩ := hMem
  obtain ⟨hDeficit, hQuantum⟩ := addDeficit_of_canSend flow hPrio hCan
  refine ⟨_, List.mem_map_of_mem hPs, (addDeficit_canSend ps).trans hCan, ?_⟩
  rw [hDeficit, hQuantum]
  have hHigh : share cfg rcvers s ps = highPrioQuantum cfg s := by rw [share_eq, if_pos hPrio]
  have hLength : (numCanSend s : Rat) ≤ s.length := Nat.cast_le.mpr List.countP_le_length
  have hOne : (numCanSend s : Rat) * fsQuantum s = 1 :=
    mul_one_div_cancel (Nat.cast_pos.mpr hSome).ne'
  have hMul : (numCanSend s : Rat) * fsQuantum s ≤ s.length * highPrioQuantum cfg s :=
    mul_le_mul hLength (fsQuantum_le_highPrioQuantum cfg hSome) (fsQuantum_pos hSome).le
      (Nat.cast_nonneg _)
  have hNonneg := (hWanting ps hPs).nonneg
  have hFirst := (share_mem cfg rcvers hSome ps).1
  rw [hHigh] at hFirst ⊢
  linarith

/-- The assertions of the selection, in terms of the receivers before the update. -/
theorem accepts_addDeficit_iff (hWanting : ∀ ps ∈ s, Wanting rcvers ps)
    (hSome : 0 < numCanSend s) (hPreferred : Preferred cfg rcvers s)
    (hPrio : rcverWithHighestPrio cfg rcvers s = some prio) :
    Accepts (s.map (addDeficit cfg s prio flow)) ↔ Affords cfg rcvers s := by
  have hGiven : ∀ ps, ps.canSend = true →
      (addDeficit cfg s prio flow ps).canSend = true ∧
      (addDeficit cfg s prio flow ps).deficit = ps.deficit + share cfg rcvers s ps ∧
      (addDeficit cfg s prio flow ps).quantum = share cfg rcvers s ps := fun ps hCan =>
    ⟨(addDeficit_canSend ps).trans hCan, addDeficit_of_canSend flow hPrio hCan⟩
  constructor
  · intro h
    refine ⟨hPreferred, ?_, ?_, ?_⟩
    · intro front ps back hEq hCan hFront
      obtain ⟨hCan', hDeficit, hQuantum⟩ := hGiven ps hCan
      have hMem : ps ∈ s := hEq ▸ by simp
      have hSplit : s.map (addDeficit cfg s prio flow) = front.map (addDeficit cfg s prio flow) ++
          addDeficit cfg s prio flow ps :: back.map (addDeficit cfg s prio flow) := by
        conv_lhs => rw [hEq]
        rw [List.map_append, List.map_cons, ← hEq]
      rw [← hQuantum]
      refine (h.overtakers _ _ _ hSplit hCan' ?_ ?_).2
      · rw [hDeficit]
        linarith [(hWanting ps hMem).nonneg, (share_mem cfg rcvers hSome ps).1]
      · intro t hx hxCan
        obtain ⟨x, hFrontMem, rfl⟩ := List.mem_map.mp hx
        rw [addDeficit_canSend] at hxCan
        rw [hDeficit, (hGiven x hxCan).2.1]
        exact hFront x hFrontMem hxCan
    · intro hBelow ps hMem hCan
      rw [← (hGiven ps hCan).2.2]
      refine h.topUp ?_ _ (List.mem_map_of_mem hMem) (hGiven ps hCan).1
      intro t hx hxCan
      obtain ⟨x, hxMem, rfl⟩ := List.mem_map.mp hx
      rw [addDeficit_canSend] at hxCan
      rw [(hGiven x hxCan).2.1]
      exact hBelow x hxMem hxCan
    · intro ps hMem hCan
      rw [← (hGiven ps hCan).2.1]
      exact h.charge _ (List.mem_map_of_mem hMem) (hGiven ps hCan).1
  · intro h
    refine ⟨?_, ?_, ?_⟩
    · intro front t back hEq hCan _ hFront
      obtain ⟨front', rest, hSplit, rfl, hRest⟩ := List.map_eq_append_iff.mp hEq
      obtain ⟨ps, back', rfl, rfl, rfl⟩ := List.map_eq_cons_iff.mp hRest
      have hMem : ps ∈ s := hSplit ▸ by simp
      rw [addDeficit_canSend] at hCan
      obtain ⟨-, hDeficit, hQuantum⟩ := hGiven ps hCan
      have hLeast : leastQuantum ≤ share cfg rcvers s ps := by
        refine h.overtakers front' ps back' hSplit hCan fun x hx hxCan => ?_
        have hLess := hFront _ (List.mem_map_of_mem hx) (hGiven x hxCan).1
        rwa [hDeficit, (hGiven x hxCan).2.1] at hLess
      rw [hDeficit, hQuantum]
      exact ⟨by linarith [(hWanting ps hMem).nonneg], hLeast⟩
    · intro hBelow t hMem hCan
      obtain ⟨ps, hPs, rfl⟩ := List.mem_map.mp hMem
      rw [addDeficit_canSend] at hCan
      rw [(hGiven ps hCan).2.2]
      refine h.topUp (fun x hx hxCan => ?_) ps hPs hCan
      rw [← (hGiven x hxCan).2.1]
      exact hBelow _ (List.mem_map_of_mem hx) (hGiven x hxCan).1
    · intro t hMem hCan
      obtain ⟨ps, hPs, rfl⟩ := List.mem_map.mp hMem
      rw [addDeficit_canSend] at hCan
      rw [(hGiven ps hCan).2.1]
      exact h.charge ps hPs hCan

end Given

/-- What a call is to come to: no receiver is returned exactly where nothing can be sent, and a
receiver that is returned had the highest deficit, at least 1, before it paid. -/
structure Selects (rcvers : Nat → ReceiverState) (s : List PolicyState) (o : Option Nat)
    (s' : List PolicyState) : Prop where
  null : o = none ↔ ∀ ps ∈ s, ¬ (rcvers ps.rcverAddr).Sendable
  highest : ∀ addr, o = some addr → ∃ ps ∈ s', ps.rcverAddr = addr ∧ ps.canSend = true ∧
    1 ≤ ps.deficit + 1 ∧ ∀ x ∈ s', x.canSend = true → x.deficit ≤ ps.deficit + 1
  canSend : ∀ ps ∈ s', ps.canSend = true ↔ (rcvers ps.rcverAddr).Sendable
  nonneg : ∀ ps ∈ s', 0 ≤ ps.deficit
  idle : ∀ ps ∈ s', ps.canSend = false → ps.deficit = 0
  same : s'.map PolicyState.rcverAddr = s.map PolicyState.rcverAddr

/-- The outcomes of `pollReceivers`. -/
inductive Polled (cfg : SenderConfig) (rcvers : Nat → ReceiverState) (s : List PolicyState) :
    Except SchedFailure (Option Nat × List PolicyState) → Prop
  | idle (s' : List PolicyState) (hNone : ∀ ps ∈ s, ¬ (rcvers ps.rcverAddr).Sendable)
      (hSelects : Selects rcvers s none s') : Polled cfg rcvers s (.ok (none, s'))
  | picked (addr : Nat) (s' : List PolicyState)
      (hAffords : Affords cfg rcvers (wantAll cfg rcvers s))
      (hSelects : Selects rcvers s (some addr) s') : Polled cfg rcvers s (.ok (some addr, s'))
  | failed (e : SchedFailure) (hFuel : e ≠ .outOfFuel)
      (hSome : ∃ ps ∈ s, (rcvers ps.rcverAddr).Sendable)
      (hNot : ¬ Affords cfg rcvers (wantAll cfg rcvers s)) : Polled cfg rcvers s (.error e)

theorem exists_mem_wantAll (p : PolicyState → Prop) :
    (∃ t ∈ wantAll cfg rcvers s, p t) ↔
      ∃ ps ∈ s, p (wantToSend cfg (rcvers ps.rcverAddr) ps) := by
  unfold wantAll
  simp only [List.mem_map, exists_exists_and_eq_and]

/-- Something can be sent exactly where `want_to_send` says so of a receiver. -/
theorem exists_sendable_iff : (∃ ps ∈ s, (rcvers ps.rcverAddr).Sendable) ↔
    0 < numCanSend (wantAll cfg rcvers s) := by
  unfold numCanSend
  rw [List.countP_pos_iff, exists_mem_wantAll]
  simp only [(wantToSend_spec cfg _ _).2.1]

/-- Where nothing can be sent, the search comes to nothing. -/
theorem selectMsgToSend_of_idle (fuel : Nat) (hWanting : ∀ ps ∈ s, Wanting rcvers ps)
    (hNone : numCanSend s = 0) : selectMsgToSend (fuel + 1) s = .ok (none, s) := by
  have hIdle : ∀ ps ∈ s, ¬ ps.canSend = true := List.countP_eq_zero.mp hNone
  have hSearched := findHighest_searched s (-1) none fun ps hMem hCan =>
    (hWanting ps hMem).idle hCan ▸ leastQuantum_pos
  unfold selectMsgToSend
  generalize findHighest (-1) none s = r at hSearched ⊢
  cases hSearched with
  | behind hAll hOver => rfl
  | found d a hAbove hHighest hOver =>
    obtain ⟨⟨ps, hMem, hCan, -⟩, -⟩ := hHighest
    exact absurd hCan (hIdle ps hMem)
  | failed e hFuel hOver =>
    refine absurd ?_ hOver
    rintro front ps back rfl hCan
    exact absurd hCan (hIdle ps (by simp))

theorem selects_none (h : SchedSound s) (hNone : numCanSend (wantAll cfg rcvers s) = 0) :
    Selects rcvers s none (wantAll cfg rcvers s) where
  null := by
    have hNot := mt (@exists_sendable_iff cfg rcvers s).mp hNone.not_gt
    push Not at hNot
    exact iff_of_true rfl hNot
  highest := nofun
  canSend := fun _ hMem => (wanting_of_mem h hMem).canSend
  nonneg := fun _ hMem => (wanting_of_mem h hMem).nonneg
  idle := fun _ hMem => (wanting_of_mem h hMem).idle
  same := wantAll_rcverAddr cfg rcvers s

theorem selects_some {prio flow addr : Nat} {s' : List PolicyState} (h : SchedSound s)
    (hSome : 0 < numCanSend (wantAll cfg rcvers s))
    (hPicked : Picked ((wantAll cfg rcvers s).map (addDeficit cfg (wantAll cfg rcvers s) prio flow))
      s' addr) : Selects rcvers s (some addr) s' := by
  obtain ⟨hHighest, hNonneg, hIdle, hSame⟩ := hPicked
  have hWant : s'.map (fun ps => (ps.rcverAddr, ps.canSend)) =
      (wantAll cfg rcvers s).map fun ps => (ps.rcverAddr, ps.canSend) := by
    rw [hSame, List.map_map]
    exact List.map_congr_left fun ps _ => Prod.ext (addDeficit_rcverAddr ps) (addDeficit_canSend ps)
  refine ⟨iff_of_false nofun ?_, ?_, ?_, hNonneg, hIdle, ?_⟩
  · obtain ⟨ps, hMem, hSend⟩ := exists_sendable_iff.mpr hSome
    exact fun hNone => hNone ps hMem hSend
  · intro a hAddr
    obtain rfl := Option.some.inj hAddr
    exact hHighest
  · intro ps hMem
    have hPair := List.mem_map_of_mem (f := fun ps => (ps.rcverAddr, ps.canSend)) hMem
    rw [hWant] at hPair
    obtain ⟨t, ht, hEq⟩ := List.mem_map.mp hPair
    obtain ⟨hAddr, hCan⟩ := Prod.mk.inj hEq
    rw [← hAddr, ← hCan]
    exact (wanting_of_mem h ht).canSend
  · have hFst := congrArg (List.map Prod.fst) hWant
    rw [List.map_map, List.map_map] at hFst
    exact hFst.trans (wantAll_rcverAddr cfg rcvers s)

theorem SchedSound.polled (cfg : SenderConfig) (rcvers : Nat → ReceiverState) (h : SchedSound s) :
    Polled cfg rcvers s (pollReceivers cfg rcvers s) := by
  have hWanting : ∀ ps ∈ wantAll cfg rcvers s, Wanting rcvers ps := fun ps => wanting_of_mem h
  have hNodup : ((wantAll cfg rcvers s).map PolicyState.rcverAddr).Nodup :=
    (wantAll_rcverAddr cfg rcvers s).symm ▸ h.nodup
  have hNoneSendable : numCanSend (wantAll cfg rcvers s) = 0 →
      ∀ ps ∈ s, ¬ (rcvers ps.rcverAddr).Sendable := fun hNone =>
    (selects_none h hNone).null.mp rfl
  unfold pollReceivers
  split
  · rename_i hNil
    subst hNil
    exact .idle [] (List.forall_mem_nil _) (@selects_none cfg rcvers [] h rfl)
  · have hUpdated := @updatePolicyState_updated cfg rcvers s h
    generalize updatePolicyState cfg rcvers s = r at hUpdated ⊢
    cases hUpdated with
    | idle hNone =>
      dsimp only [bind, Except.bind]
      rw [selectMsgToSend_of_idle _ hWanting hNone]
      exact .idle _ (hNoneSendable hNone) (selects_none h hNone)
    | given prio flow hSome hPreferred hPrio hMem =>
      have hArmed : Armed ((wantAll cfg rcvers s).map
          (addDeficit cfg (wantAll cfg rcvers s) prio flow)) :=
        armed_addDeficit hNodup hWanting hSome hPrio
      have hAccepts : Accepts ((wantAll cfg rcvers s).map
          (addDeficit cfg (wantAll cfg rcvers s) prio flow)) ↔
          Affords cfg rcvers (wantAll cfg rcvers s) :=
        accepts_addDeficit_iff hWanting hSome hPreferred hPrio
      dsimp only [bind, Except.bind]
      rw [List.length_map]
      have hSelected := hArmed.selected _ (fair_addDeficit flow hWanting hSome hPrio hMem)
      generalize selectMsgToSend _ _ = r at hSelected ⊢
      cases hSelected with
      | picked addr s' hOk hPicked =>
        exact .picked addr s' (hAccepts.mp hOk) (selects_some h hSome hPicked)
      | failed e hFuel hNot =>
        exact .failed e hFuel (exists_sendable_iff.mpr hSome) (mt hAccepts.mpr hNot)
    | failed e hFuel hSome hNot =>
      exact .failed e hFuel (exists_sendable_iff.mpr hSome) fun hAffords => hNot hAffords.preferred

/-! ## All runs -/

theorem SchedSound.onCreate {states : List PolicyState} {daddr : Nat} (h : SchedSound s)
    (hFresh : ∀ ps ∈ s, ps.rcverAddr ≠ daddr)
    (hPerm : states.Perm ({ rcverAddr := daddr } :: s)) : SchedSound states where
  nodup := by
    rw [(hPerm.map _).nodup_iff, List.map_cons, List.nodup_cons]
    refine ⟨fun hMem => ?_, h.nodup⟩
    obtain ⟨ps, hPs, hAddr⟩ := List.mem_map.mp hMem
    exact hFresh ps hPs hAddr
  nonneg := by
    intro ps hMem
    rcases List.mem_cons.mp (hPerm.mem_iff.mp hMem) with rfl | hOld
    · exact le_rfl
    · exact h.nonneg ps hOld

theorem SchedSound.step {s' : List PolicyState} {e : SchedEvent} (h : SchedSound s)
    (hStep : schedStep cfg s e = some s') : SchedSound s' := by
  cases e with
  | onCreate daddr states =>
    obtain ⟨⟨hFresh, hPerm⟩, hEq⟩ := Option.ite_none_right_eq_some.mp hStep
    obtain rfl := Option.some.inj hEq
    exact h.onCreate hFresh hPerm
  | poll rcvers =>
    have hPolled := h.polled cfg rcvers
    unfold schedStep at hStep
    dsimp only at hStep
    generalize pollReceivers cfg rcvers s = r at hPolled hStep
    cases hPolled with
    | idle t hNone hSelects =>
      obtain rfl := Option.some.inj hStep
      exact ⟨hSelects.same ▸ h.nodup, hSelects.nonneg⟩
    | picked addr t hAffords hSelects =>
      obtain rfl := Option.some.inj hStep
      exact ⟨hSelects.same ▸ h.nodup, hSelects.nonneg⟩
    | failed e hFuel hSome hNot => cases hStep

theorem schedSound_of_reachable (h : (schedMachine cfg).Reachable s) : SchedSound s :=
  Machine.reachable_induction (I := SchedSound) (show SchedSound [] from
    ⟨List.nodup_nil, List.forall_mem_nil _⟩) (fun _ _ _ hSound hStep => hSound.step hStep) h

/-- In every state that a run reaches, a call ends. It returns what it is to return exactly where
nothing can be sent or the assertions have what they demand. -/
theorem pollReceivers_selects_iff (h : (schedMachine cfg).Reachable s)
    (rcvers : Nat → ReceiverState) :
    pollReceivers cfg rcvers s ≠ .error .outOfFuel ∧
    ((∃ o s', pollReceivers cfg rcvers s = .ok (o, s') ∧ Selects rcvers s o s') ↔
      (∀ ps ∈ s, ¬ (rcvers ps.rcverAddr).Sendable) ∨
        Affords cfg rcvers (wantAll cfg rcvers s)) := by
  have hPolled := (schedSound_of_reachable h).polled cfg rcvers
  generalize pollReceivers cfg rcvers s = r at hPolled ⊢
  cases hPolled with
  | idle s' hNone hSelects => exact ⟨nofun, iff_of_true ⟨none, s', rfl, hSelects⟩ (.inl hNone)⟩
  | picked addr s' hAffords hSelects =>
    exact ⟨nofun, iff_of_true ⟨some addr, s', rfl, hSelects⟩ (.inr hAffords)⟩
  | failed e hFuel hSome hNot =>
    refine ⟨fun hEq => hFuel (Except.error.inj hEq), iff_of_false ?_ ?_⟩
    · rintro ⟨o, s', hEq, -⟩
      cases hEq
    · rintro (hNone | hAffords)
      · obtain ⟨ps, hMem, hSend⟩ := hSome
        exact hNone ps hMem hSend
      · exact hNot hAffords

/-! ## Two receivers -/

/-- The policy `srpt` with the share that it leaves to fair sharing. -/
def srptConfig (ratio : Rat) (hNonneg : 0 ≤ ratio) (hOne : ratio ≤ 1) : SenderConfig where
  senderPolicy := .srpt
  senderPolicyRatio := ratio
  ratio_nonneg := hNonneg
  ratio_le_one := hOne
  sortByFewerRemaining := List.insertionSort fun a b => a.state.unsentBytes ≤ b.state.unsentBytes
  sort_perm := List.perm_insertionSort _
  sort_ordered := by
    have : Std.Total fun a b : OutboundMsg => a.state.unsentBytes ≤ b.state.unsentBytes :=
      ⟨fun a b => le_total a.state.unsentBytes b.state.unsentBytes⟩
    have : IsTrans OutboundMsg fun a b => a.state.unsentBytes ≤ b.state.unsentBytes :=
      ⟨fun _ _ _ => le_trans⟩
    exact List.pairwise_insertionSort _

def freshMsg (bytes : Nat) : OutboundMsgState where
  src := 0
  isRequest := true
  totalBytes := bytes
  unsentBytes := bytes
  pktId := 0

/-- A receiver with credit for its one message, of `bytes`. -/
def withMsg (addr bytes : Nat) : ReceiverState where
  availCreditBytes := 20000
  availCreditDataBytes := 18000
  outMsgs := { items := [⟨⟨addr, 0, 1⟩, addr, freshMsg bytes⟩] }

/-- Receiver 2 has the shorter message. -/
def longAndShort (addr : Nat) : ReceiverState :=
  withMsg addr (if addr = 1 then 6000 else 3000)

def twoAdded : List PolicyState := [{ rcverAddr := 1 }, { rcverAddr := 2 }]

theorem reachable_twoAdded (cfg : SenderConfig) : (schedMachine cfg).Reachable twoAdded :=
  ⟨[.onCreate 2 [{ rcverAddr := 2 }], .onCreate 1 twoAdded], rfl⟩

/-- With shares of 3/4 and 1/4 the receiver with the shorter message is chosen. -/
theorem pollReceivers_selects_iff_twoAdded :
    let cfg := srptConfig (1 / 2) (by decide +kernel) (by decide +kernel)
    (pollReceivers cfg longAndShort twoAdded).toOption.map Prod.fst = some (some 2) ∧
    pollReceivers cfg longAndShort twoAdded ≠ .error .outOfFuel ∧
    ((∃ o s', pollReceivers cfg longAndShort twoAdded = .ok (o, s') ∧
        Selects longAndShort twoAdded o s') ↔
      (∀ ps ∈ twoAdded, ¬ (longAndShort ps.rcverAddr).Sendable) ∨
        Affords cfg longAndShort (wantAll cfg longAndShort twoAdded)) :=
  ⟨by decide +kernel, pollReceivers_selects_iff (reachable_twoAdded _) longAndShort⟩

/-- A share of 1 for `srpt` leaves the other receiver a quantum of 0, and it comes first. -/
theorem pollReceivers_srptOnly :
    let cfg := srptConfig 1 (by decide +kernel) (by decide +kernel)
    (schedMachine cfg).Reachable twoAdded ∧
    pollReceivers cfg longAndShort twoAdded = .error .smallDeficit ∧
    ¬ ∃ o s', pollReceivers cfg longAndShort twoAdded = .ok (o, s') ∧
      Selects longAndShort twoAdded o s' := by
  have hError : pollReceivers (srptConfig 1 (by decide +kernel) (by decide +kernel)) longAndShort
      twoAdded = .error .smallDeficit := by decide +kernel
  refine ⟨reachable_twoAdded _, hError, ?_⟩
  rintro ⟨o, s', hOk, -⟩
  exact absurd (hError.symm.trans hOk) nofun

end Dpdq.Ns2
