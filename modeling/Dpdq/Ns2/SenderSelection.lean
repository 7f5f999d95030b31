import Mathlib.Algebra.Order.Field.Basic
import Mathlib.Tactic.Linarith
import Mathlib.Tactic.NormNum
import Dpdq.Ns2.SenderPolicy

/-!
# Selecting a receiver

What `want_to_send` leaves of the state of a receiver, which receivers the policy prefers, and what
`select_msg_to_send` does with deficits and quanta that are not negative.

* `preferred_cases`: when there is a receiver that the policy prefers.
* `findHighest_searched`: the loop finds the highest deficit, or an assertion fails.
* `Armed.selected`: the recursion ends where a receiver comes to a deficit of 1; the assertions hold
  exactly where `Accepts` does.
-/

namespace Dpdq.Ns2

open Dpdq.Lib

/-! ## Messages that can be sent -/

/-- There is a message for which the credit suffices. -/
def ReceiverState.Sendable (r : ReceiverState) : Prop :=
  ∃ m ∈ r.outMsgs.items, m.state.unsentBytes ≠ 0 ∧ m.toSend ≤ r.creditAvail

theorem OutboundMsg.toSend_pos (m : OutboundMsg) : 0 < m.toSend := by
  unfold toSend wireBytes
  exact lt_max_of_lt_right (by decide)

namespace PolicyState

/-- `can_send_` comes with a message and the size of its next packet. -/
def Chosen (ps : PolicyState) : Prop :=
  ps.canSend = true → ps.msgState ≠ none ∧ 0 < ps.wantToSendBytes

variable {creditAvail : Nat} {ps : PolicyState}

theorem offer_cases (creditAvail : Nat) (ps : PolicyState) (m : OutboundMsg) :
    ps.offer creditAvail m = ps.take m ∧ m.state.unsentBytes ≠ 0 ∧ m.toSend ≤ creditAvail ∨
    ps.offer creditAvail m = ps ∧
      (m.state.unsentBytes ≠ 0 → m.toSend ≤ creditAvail → ps.canSend = true) := by
  unfold offer
  split_ifs with hSent hCredit hCan hNew
  · exact .inr ⟨rfl, fun h => absurd hSent h⟩
  · exact .inr ⟨rfl, fun _ _ => hCan⟩
  · exact .inl ⟨rfl, hSent, hCredit⟩
  · exact .inl ⟨rfl, hSent, hCredit⟩
  · exact .inr ⟨rfl, fun _ h => absurd h hCredit⟩

/-- What the loop of `want_to_send` makes of a state. -/
theorem foldl_offer (msgs : List OutboundMsg) (ps : PolicyState) (h : ps.Chosen) :
    let r := msgs.foldl (offer creditAvail) ps
    r.rcverAddr = ps.rcverAddr ∧ r.deficit = ps.deficit ∧ r.Chosen ∧
      (r.canSend = true ↔ ps.canSend = true ∨
        ∃ m ∈ msgs, m.state.unsentBytes ≠ 0 ∧ m.toSend ≤ creditAvail) := by
  induction msgs generalizing ps with
  | nil => exact ⟨rfl, rfl, h, by simp⟩
  | cons m msgs ih =>
    rcases offer_cases creditAvail ps m with ⟨hTake, hUnsent, hCredit⟩ | ⟨hKeep, hNot⟩
    · have hChosen : (ps.take m).Chosen := fun _ => ⟨nofun, m.toSend_pos⟩
      obtain ⟨hAddr, hDeficit, hRest, hCan⟩ := ih (ps.take m) hChosen
      rw [List.foldl_cons, hTake]
      refine ⟨hAddr, hDeficit, hRest, iff_of_true (hCan.mpr (.inl rfl)) ?_⟩
      exact .inr ⟨m, List.mem_cons_self, hUnsent, hCredit⟩
    · obtain ⟨hAddr, hDeficit, hRest, hCan⟩ := ih ps h
      rw [List.foldl_cons, hKeep]
      refine ⟨hAddr, hDeficit, hRest, hCan.trans ?_⟩
      rw [List.exists_mem_cons_iff]
      constructor
      · exact Or.imp_right .inr
      · rintro (hCan | hHere | hThere)
        · exact .inl hCan
        · exact .inl (hNot hHere.1 hHere.2)
        · exact .inr hThere

variable (ps)

theorem topUp_rcverAddr : ps.topUp.rcverAddr = ps.rcverAddr := by
  unfold topUp
  split <;> rfl

theorem topUp_canSend : ps.topUp.canSend = ps.canSend := by
  unfold topUp
  split <;> rfl

variable {ps}

theorem topUp_of_idle (h : ps.canSend = false) : ps.topUp = ps := by simp [topUp, h]

theorem topUp_of_canSend (h : ps.canSend = true) :
    ps.topUp = { ps with deficit := ps.deficit + ps.quantum } := by simp [topUp, h]

end PolicyState

theorem ReceiverState.sortedMsgs_eq (cfg : SenderConfig) (r : ReceiverState) :
    r.sortedMsgs cfg = cfg.sortByFewerRemaining r.outMsgs.items := by
  unfold sortedMsgs
  dsimp only
  have hSize : r.outMsgs.size = CursorList.size (CursorList.reset
      { r.outMsgs with items := cfg.sortByFewerRemaining r.outMsgs.items }) :=
    (cfg.sort_perm _).length_eq.symm
  obtain ⟨l, hVisits, -⟩ := CursorList.visits_size (CursorList.InRange.reset
    { r.outMsgs with items := cfg.sortByFewerRemaining r.outMsgs.items })
  rw [hSize, hVisits, Option.elim_some, CursorList.cycle_reset]

variable {cfg : SenderConfig} {rcvers : Nat → ReceiverState} {s : List PolicyState}

/-- What `want_to_send` leaves: a receiver that can send keeps its deficit, any other has none. -/
theorem wantToSend_spec (cfg : SenderConfig) (r : ReceiverState) (ps : PolicyState) :
    let t := wantToSend cfg r ps
    t.rcverAddr = ps.rcverAddr ∧ (t.canSend = true ↔ r.Sendable) ∧ t.Chosen ∧
      (t.canSend = true → t.deficit = ps.deficit) ∧ (t.canSend = false → t.deficit = 0) := by
  dsimp only
  unfold wantToSend
  dsimp only
  by_cases hSize : r.outMsgs.size = 0
  · rw [if_pos hSize]
    have hNone : ¬ r.Sendable := by
      rintro ⟨m, hMem, -⟩
      rw [List.length_eq_zero_iff.mp hSize] at hMem
      cases hMem
    exact ⟨rfl, iff_of_false nofun hNone, nofun, nofun, fun _ => rfl⟩
  · rw [if_neg hSize]
    obtain ⟨hAddr, hDeficit, hChosen, hCan⟩ := PolicyState.foldl_offer (r.sortedMsgs cfg)
      { ps with canSend := false, msgState := none, wantToSendBytes := 0 } nofun
    generalize (r.sortedMsgs cfg).foldl _ _ = t at *
    have hSendable : t.canSend = true ↔ r.Sendable := by
      rw [hCan, r.sortedMsgs_eq]
      simp only [Bool.false_eq_true, false_or, (cfg.sort_perm _).mem_iff]
      rfl
    split
    · rename_i hYes
      exact ⟨hAddr, hSendable, hChosen, fun _ => hDeficit, fun hNo => absurd hYes (by simp [hNo])⟩
    · rename_i hNo
      exact ⟨hAddr, iff_of_false nofun (mt hSendable.mpr hNo), nofun, nofun, fun _ => rfl⟩

/-! ## The preferred receiver -/

section HighestPrio

variable (better : Int → Int → Bool) (key : PolicyState → Int)

/-- Once there is a best receiver, there is one at the end: this one or one that can send. -/
theorem foldl_highestPrio (s : List PolicyState) (best : Int) (addr : Nat) :
    ∃ h, (s.foldl (fun best ps => if ps.canSend = true ∧ better (key ps) best.1 = true then
        (key ps, some ps.rcverAddr) else best) (best, some addr)).2 = some h ∧
      (h = addr ∨ ∃ ps ∈ s, ps.canSend = true ∧ ps.rcverAddr = h) := by
  induction s generalizing best addr with
  | nil => exact ⟨addr, rfl, .inl rfl⟩
  | cons ps s ih =>
    rw [List.foldl_cons]
    split
    · rename_i hBetter
      obtain ⟨h, hEq, hAddr⟩ := ih (key ps) ps.rcverAddr
      refine ⟨h, hEq, .inr ?_⟩
      rcases hAddr with rfl | ⟨other, hMem, hOther⟩
      · exact ⟨ps, List.mem_cons_self, hBetter.1, rfl⟩
      · exact ⟨other, List.mem_cons_of_mem _ hMem, hOther⟩
    · obtain ⟨h, hEq, hAddr⟩ := ih best addr
      refine ⟨h, hEq, hAddr.imp_right ?_⟩
      rintro ⟨other, hMem, hOther⟩
      exact ⟨other, List.mem_cons_of_mem _ hMem, hOther⟩

/-- There is a best receiver if one that can send is better than the start; it can send. -/
theorem highestPrio_cases (start : Int) (s : List PolicyState) :
    (∃ h, (highestPrio better key start s).2 = some h ∧
      (∃ ps ∈ s, ps.canSend = true ∧ ps.rcverAddr = h) ∧
      ∃ ps ∈ s, ps.canSend = true ∧ better (key ps) start = true) ∨
    (highestPrio better key start s).2 = none ∧
      ∀ ps ∈ s, ps.canSend = true → better (key ps) start = false := by
  unfold highestPrio
  induction s with
  | nil => exact .inr ⟨rfl, List.forall_mem_nil _⟩
  | cons ps s ih =>
    rw [List.foldl_cons]
    split
    · rename_i hBetter
      obtain ⟨h, hEq, hAddr⟩ := foldl_highestPrio better key s (key ps) ps.rcverAddr
      refine .inl ⟨h, hEq, ?_, ps, List.mem_cons_self, hBetter⟩
      rcases hAddr with rfl | ⟨other, hMem, hOther⟩
      · exact ⟨ps, List.mem_cons_self, hBetter.1, rfl⟩
      · exact ⟨other, List.mem_cons_of_mem _ hMem, hOther⟩
    · rename_i hWorse
      rcases ih with ⟨h, hEq, ⟨ps₁, hMem₁, hPs₁⟩, ps₂, hMem₂, hPs₂⟩ | ⟨hEq, hAll⟩
      · exact .inl ⟨h, hEq, ⟨ps₁, List.mem_cons_of_mem _ hMem₁, hPs₁⟩, ps₂,
          List.mem_cons_of_mem _ hMem₂, hPs₂⟩
      · refine .inr ⟨hEq, List.forall_mem_cons.mpr ⟨fun hCan => ?_, hAll⟩⟩
        exact Bool.eq_false_iff.mpr fun hBetter => hWorse ⟨hCan, hBetter⟩

end HighestPrio

/-- The policy finds a receiver that it prefers. By unsent bytes this fails only where all have
`2 ^ 31 - 1` of them, the number that the search starts from. -/
def Preferred (cfg : SenderConfig) (rcvers : Nat → ReceiverState) (s : List PolicyState) : Prop :=
  (∃ ps ∈ s, ps.canSend = true ∧ unsentBytesKey ps < maxInt) ∧
  (cfg.senderPolicy = .creditBacklog →
    ∃ ps ∈ s, ps.canSend = true ∧ 0 < (rcvers ps.rcverAddr).availCreditDataBytes)

theorem preferred_cases (cfg : SenderConfig) (rcvers : Nat → ReceiverState) (s : List PolicyState) :
    (∃ prio flow, rcverWithHighestPrio cfg rcvers s = some prio ∧
      rcverWithHighestPrioFlow s = some flow ∧ Preferred cfg rcvers s ∧
      ∃ ps ∈ s, ps.canSend = true ∧ ps.rcverAddr = prio) ∨
    ¬ Preferred cfg rcvers s ∧
      (rcverWithHighestPrio cfg rcvers s = none ∨ rcverWithHighestPrioFlow s = none) := by
  unfold Preferred rcverWithHighestPrio rcverWithHighestPrioFlow
  rcases highestPrio_cases (fun a b => a < b) unsentBytesKey maxInt s with
    ⟨flow, hFlow, hPs, ps, hMem, hCan, hLess⟩ | ⟨hFlow, hAll⟩
  · have hUnsent : ∃ ps ∈ s, ps.canSend = true ∧ unsentBytesKey ps < maxInt :=
      ⟨ps, hMem, hCan, of_decide_eq_true hLess⟩
    by_cases hPolicy : cfg.senderPolicy = .creditBacklog
    · rw [hPolicy, hFlow]
      dsimp only
      rcases highestPrio_cases (fun a b => b < a)
        (fun ps => (rcvers ps.rcverAddr).availCreditDataBytes) 0 s with
        ⟨prio, hPrio, hPs', ps', hMem', hCan', hMore⟩ | ⟨hPrio, hAll⟩
      · rw [hPrio]
        exact .inl ⟨prio, flow, rfl, rfl,
          ⟨hUnsent, fun _ => ⟨ps', hMem', hCan', of_decide_eq_true hMore⟩⟩, hPs'⟩
      · rw [hPrio]
        refine .inr ⟨?_, .inl rfl⟩
        rintro ⟨-, hCredit⟩
        obtain ⟨ps', hMem', hCan', hMore⟩ := hCredit rfl
        exact of_decide_eq_false (hAll ps' hMem' hCan') hMore
    · left
      refine ⟨flow, flow, ?_, hFlow, ⟨hUnsent, fun h => absurd h hPolicy⟩, hPs⟩
      cases hCase : cfg.senderPolicy with
      | creditBacklog => exact absurd hCase hPolicy
      | fairSharing => exact hFlow
      | srpt => exact hFlow
  · right
    refine ⟨?_, .inr hFlow⟩
    rintro ⟨⟨ps, hMem, hCan, hLess⟩, -⟩
    exact of_decide_eq_false (hAll ps hMem hCan) hLess

/-! ## The highest deficit -/

/-- The receivers with a deficit above `highest` and above those of all in front of them: what the
assertions of the loop demand of them. -/
def Overtakers (highest : Rat) (s : List PolicyState) : Prop :=
  ∀ front ps back, s = front ++ ps :: back → ps.canSend = true → highest < ps.deficit →
    (∀ x ∈ front, x.canSend = true → x.deficit < ps.deficit) →
    leastQuantum ≤ ps.deficit ∧ leastQuantum ≤ ps.quantum

section Overtakers

variable {highest : Rat} {ps : PolicyState} {rest : List PolicyState}

theorem overtakers_cons_of_behind (h : ps.canSend = true → ps.deficit ≤ highest) :
    Overtakers highest (ps :: rest) ↔ Overtakers highest rest := by
  constructor
  · rintro hAll front other back rfl hCan hAbove hFront
    refine hAll (ps :: front) other back rfl hCan hAbove (List.forall_mem_cons.mpr ⟨?_, hFront⟩)
    exact fun hPs => (h hPs).trans_lt hAbove
  · intro hAll front other back hEq hCan hAbove hFront
    cases front with
    | nil =>
      obtain ⟨rfl, -⟩ := List.cons.inj hEq
      exact absurd hAbove (not_lt.mpr (h hCan))
    | cons first front =>
      obtain ⟨rfl, rfl⟩ := List.cons.inj hEq
      exact hAll front other back rfl hCan hAbove fun x hx => hFront x (List.mem_cons_of_mem _ hx)

theorem overtakers_cons_of_above (hCan : ps.canSend = true) (hAbove : highest < ps.deficit) :
    Overtakers highest (ps :: rest) ↔
      (leastQuantum ≤ ps.deficit ∧ leastQuantum ≤ ps.quantum) ∧ Overtakers ps.deficit rest := by
  constructor
  · refine fun hAll => ⟨hAll [] ps rest rfl hCan hAbove (List.forall_mem_nil _), ?_⟩
    rintro front other back rfl hOther hHigher hFront
    exact hAll (ps :: front) other back rfl hOther (hAbove.trans hHigher)
      (List.forall_mem_cons.mpr ⟨fun _ => hHigher, hFront⟩)
  · rintro ⟨hPs, hAll⟩ front other back hEq hOther hHigher hFront
    cases front with
    | nil =>
      obtain ⟨rfl, -⟩ := List.cons.inj hEq
      exact hPs
    | cons first front =>
      obtain ⟨rfl, rfl⟩ := List.cons.inj hEq
      exact hAll front other back rfl hOther (hFront ps List.mem_cons_self hCan)
        fun x hx => hFront x (List.mem_cons_of_mem _ hx)

end Overtakers

/-- `highest` is the highest deficit of the receivers that can send, and `best` has it. -/
def IsHighest (s : List PolicyState) (highest : Rat) (best : Nat) : Prop :=
  (∃ ps ∈ s, ps.canSend = true ∧ ps.rcverAddr = best ∧ ps.deficit = highest) ∧
  ∀ ps ∈ s, ps.canSend = true → ps.deficit ≤ highest

theorem IsHighest.cons {s : List PolicyState} {d : Rat} {a : Nat} {ps : PolicyState}
    (h : IsHighest s d a) (hPs : ps.canSend = true → ps.deficit ≤ d) : IsHighest (ps :: s) d a := by
  obtain ⟨⟨best, hMem, hBest⟩, hAll⟩ := h
  exact ⟨⟨best, List.mem_cons_of_mem _ hMem, hBest⟩, List.forall_mem_cons.mpr ⟨hPs, hAll⟩⟩

/-- The outcomes of the loop: no receiver is above `highest`, or one of those that are is the
highest, or an assertion fails. -/
inductive Searched (highest : Rat) (best : Option Nat) (s : List PolicyState) :
    Except SchedFailure (Rat × Option Nat) → Prop
  | behind (hAll : ∀ ps ∈ s, ps.canSend = true → ps.deficit ≤ highest)
      (hOver : Overtakers highest s) : Searched highest best s (.ok (highest, best))
  | found (d : Rat) (a : Nat) (hAbove : highest < d) (hHighest : IsHighest s d a)
      (hOver : Overtakers highest s) : Searched highest best s (.ok (d, some a))
  | failed (e : SchedFailure) (hFuel : e ≠ .outOfFuel) (hOver : ¬ Overtakers highest s) :
      Searched highest best s (.error e)

/-- A receiver that is not above the highest deficit changes nothing. -/
theorem Searched.cons_of_behind {highest : Rat} {best : Option Nat} {rest : List PolicyState}
    {ps : PolicyState} {r : Except SchedFailure (Rat × Option Nat)}
    (h : Searched highest best rest r) (hPs : ps.canSend = true → ps.deficit ≤ highest) :
    Searched highest best (ps :: rest) r := by
  have hOvertakers := @overtakers_cons_of_behind highest ps rest hPs
  cases h with
  | behind hAll hOver =>
    exact .behind (List.forall_mem_cons.mpr ⟨hPs, hAll⟩) (hOvertakers.mpr hOver)
  | found d a hAbove hHighest hOver =>
    exact .found d a hAbove (hHighest.cons fun hCan => (hPs hCan).trans hAbove.le)
      (hOvertakers.mpr hOver)
  | failed e hFuel hOver => exact .failed e hFuel (mt hOvertakers.mp hOver)

/-- A receiver that is above the highest deficit takes the lead. -/
theorem Searched.cons_of_above {highest : Rat} {best : Option Nat} {rest : List PolicyState}
    {ps : PolicyState} {r : Except SchedFailure (Rat × Option Nat)}
    (h : Searched ps.deficit (some ps.rcverAddr) rest r) (hCan : ps.canSend = true)
    (hAbove : highest < ps.deficit)
    (hLeast : leastQuantum ≤ ps.deficit ∧ leastQuantum ≤ ps.quantum) :
    Searched highest best (ps :: rest) r := by
  have hOvertakers := (@overtakers_cons_of_above highest ps rest hCan hAbove).trans
    (and_iff_right hLeast)
  cases h with
  | behind hAll hOver =>
    exact .found _ _ hAbove ⟨⟨ps, List.mem_cons_self, hCan, rfl, rfl⟩,
      List.forall_mem_cons.mpr ⟨fun _ => le_rfl, hAll⟩⟩ (hOvertakers.mpr hOver)
  | found d a hHigher hHighest hOver =>
    exact .found d a (hAbove.trans hHigher) (hHighest.cons fun _ => hHigher.le)
      (hOvertakers.mpr hOver)
  | failed e hFuel hOver => exact .failed e hFuel (mt hOvertakers.mp hOver)

theorem findHighest_searched (s : List PolicyState) (highest : Rat) (best : Option Nat)
    (hIdle : ∀ ps ∈ s, ps.canSend = false → ps.deficit < leastQuantum) :
    Searched highest best s (findHighest highest best s) := by
  induction s generalizing highest best with
  | nil =>
    refine .behind (List.forall_mem_nil _) ?_
    intro front ps back hEq
    cases front <;> cases hEq
  | cons ps rest ih =>
    obtain ⟨hPs, hRest⟩ := List.forall_mem_cons.mp hIdle
    unfold findHighest
    cases hCan : ps.canSend with
    | false =>
      rw [if_neg nofun, check_bind_of (hPs hCan)]
      exact (ih highest best hRest).cons_of_behind (by simp [hCan])
    | true =>
      rw [if_pos rfl]
      split
      · rename_i hAbove
        by_cases hDeficit : leastQuantum ≤ ps.deficit
        · by_cases hQuantum : leastQuantum ≤ ps.quantum
          · rw [check_bind_of hDeficit, check_bind_of hQuantum]
            exact (ih _ _ hRest).cons_of_above hCan hAbove ⟨hDeficit, hQuantum⟩
          · rw [check_bind_of hDeficit, check_bind_of_not hQuantum]
            refine .failed _ nofun fun hOver => ?_
            exact hQuantum ((overtakers_cons_of_above hCan hAbove).mp hOver).1.2
        · rw [check_bind_of_not hDeficit]
          refine .failed _ nofun fun hOver => ?_
          exact hDeficit ((overtakers_cons_of_above hCan hAbove).mp hOver).1.1
      · rename_i hBehind
        exact (ih highest best hRest).cons_of_behind fun _ => not_lt.mp hBehind

/-! ## The selection -/

/-- The deficits and quanta as `select_msg_to_send` finds them. -/
structure Armed (s : List PolicyState) : Prop where
  nodup : (s.map PolicyState.rcverAddr).Nodup
  idle : ∀ ps ∈ s, ps.canSend = false → ps.deficit = 0
  deficit : ∀ ps ∈ s, ps.canSend = true → 0 ≤ ps.deficit
  quantum : ∀ ps ∈ s, ps.canSend = true → 0 ≤ ps.quantum ∧ ps.quantum ≤ 1

/-- What the assertions of `select_msg_to_send` demand in the end. -/
structure Accepts (s : List PolicyState) : Prop where
  overtakers : Overtakers (-1) s
  topUp : (∀ ps ∈ s, ps.canSend = true → ps.deficit < 1) →
    ∀ ps ∈ s, ps.canSend = true → leastQuantum ≤ ps.quantum
  charge : ∀ ps ∈ s, ps.canSend = true → ps.deficit ≤ 11

/-- The receiver `a` had the highest deficit, at least 1, and has paid 1. -/
structure Picked (s s' : List PolicyState) (a : Nat) : Prop where
  highest : ∃ ps ∈ s', ps.rcverAddr = a ∧ ps.canSend = true ∧ 1 ≤ ps.deficit + 1 ∧
    ∀ x ∈ s', x.canSend = true → x.deficit ≤ ps.deficit + 1
  nonneg : ∀ ps ∈ s', 0 ≤ ps.deficit
  idle : ∀ ps ∈ s', ps.canSend = false → ps.deficit = 0
  same : s'.map (fun ps => (ps.rcverAddr, ps.canSend)) =
    s.map fun ps => (ps.rcverAddr, ps.canSend)

theorem leastQuantum_pos : 0 < leastQuantum := by
  unfold leastQuantum
  norm_num

namespace Armed

variable {s : List PolicyState}

theorem searched (h : Armed s) : Searched (-1) none s (findHighest (-1) none s) := by
  refine findHighest_searched s (-1) none fun ps hMem hIdle => ?_
  rw [h.idle ps hMem hIdle]
  exact leastQuantum_pos

theorem topUp (h : Armed s) : Armed (s.map PolicyState.topUp) where
  nodup := by
    have hSame : s.map (PolicyState.rcverAddr ∘ PolicyState.topUp) = s.map PolicyState.rcverAddr :=
      List.map_congr_left fun ps _ => ps.topUp_rcverAddr
    rw [List.map_map, hSame]
    exact h.nodup
  idle := by
    intro t hMem hIdle
    obtain ⟨ps, hPs, rfl⟩ := List.mem_map.mp hMem
    rw [ps.topUp_canSend] at hIdle
    rw [ps.topUp_of_idle hIdle]
    exact h.idle ps hPs hIdle
  deficit := by
    intro t hMem hCan
    obtain ⟨ps, hPs, rfl⟩ := List.mem_map.mp hMem
    rw [ps.topUp_canSend] at hCan
    rw [ps.topUp_of_canSend hCan]
    exact add_nonneg (h.deficit ps hPs hCan) (h.quantum ps hPs hCan).1
  quantum := by
    intro t hMem hCan
    obtain ⟨ps, hPs, rfl⟩ := List.mem_map.mp hMem
    rw [ps.topUp_canSend] at hCan
    rw [ps.topUp_of_canSend hCan]
    exact h.quantum ps hPs hCan

/-- Where all quanta suffice and all deficits are below 1, the assertions hold of the next call. -/
theorem accepts_topUp (h : Armed s) (hBelow : ∀ ps ∈ s, ps.canSend = true → ps.deficit < 1)
    (hQuanta : ∀ ps ∈ s, ps.canSend = true → leastQuantum ≤ ps.quantum) :
    Accepts (s.map PolicyState.topUp) where
  overtakers := by
    intro front t back hEq hCan _ _
    have hMem : t ∈ s.map PolicyState.topUp := hEq ▸ by simp
    obtain ⟨ps, hPs, rfl⟩ := List.mem_map.mp hMem
    rw [ps.topUp_canSend] at hCan
    rw [ps.topUp_of_canSend hCan]
    have hDeficit := h.deficit ps hPs hCan
    have hQuantum := hQuanta ps hPs hCan
    exact ⟨by show _ ≤ ps.deficit + ps.quantum; linarith, hQuantum⟩
  topUp := by
    intro _ t hMem hCan
    obtain ⟨ps, hPs, rfl⟩ := List.mem_map.mp hMem
    rw [ps.topUp_canSend] at hCan
    rw [ps.topUp_of_canSend hCan]
    exact hQuanta ps hPs hCan
  charge := by
    intro t hMem hCan
    obtain ⟨ps, hPs, rfl⟩ := List.mem_map.mp hMem
    rw [ps.topUp_canSend] at hCan
    rw [ps.topUp_of_canSend hCan]
    have hDeficit := hBelow ps hPs hCan
    have hQuantum := (h.quantum ps hPs hCan).2
    show ps.deficit + ps.quantum ≤ 11
    linarith

/-- Only one receiver pays. -/
theorem mem_charge (h : Armed s) {best x : PolicyState} (hBest : best ∈ s)
    (hMem : x ∈ s.map (·.charge best.rcverAddr)) :
    x = { best with deficit := best.deficit - 1 } ∨ x ∈ s := by
  obtain ⟨ps, hPs, rfl⟩ := List.mem_map.mp hMem
  unfold PolicyState.charge
  split
  · rename_i hAddr
    obtain rfl := List.inj_on_of_nodup_map h.nodup hPs hBest hAddr
    exact .inl rfl
  · exact .inr hPs

/-- The receiver with the highest deficit pays. -/
theorem picked_charge (h : Armed s) {d : Rat} {a : Nat} (hHighest : IsHighest s d a)
    (hOne : 1 ≤ d) : Picked s (s.map (·.charge a)) a := by
  obtain ⟨⟨best, hBest, hCan, rfl, rfl⟩, hAll⟩ := hHighest
  have hBestCharge : best.charge best.rcverAddr = { best with deficit := best.deficit - 1 } :=
    if_pos rfl
  refine ⟨⟨_, List.mem_map_of_mem hBest, ?_⟩, ?_, ?_, ?_⟩
  · rw [hBestCharge]
    refine ⟨rfl, hCan, by show 1 ≤ best.deficit - 1 + 1; linarith, ?_⟩
    intro x hx hxCan
    show x.deficit ≤ best.deficit - 1 + 1
    rcases h.mem_charge hBest hx with rfl | hMem
    · show best.deficit - 1 ≤ _
      linarith
    · linarith [hAll x hMem hxCan]
  · intro x hx
    rcases h.mem_charge hBest hx with rfl | hMem
    · show 0 ≤ best.deficit - 1
      linarith
    · cases hxCan : x.canSend with
      | true => exact h.deficit x hMem hxCan
      | false => exact (h.idle x hMem hxCan).ge
  · intro x hx hIdle
    rcases h.mem_charge hBest hx with rfl | hMem
    · exact absurd (hCan.symm.trans hIdle) nofun
    · exact h.idle x hMem hIdle
  · rw [List.map_map]
    refine List.map_congr_left fun ps _ => ?_
    show ((ps.charge _).rcverAddr, (ps.charge _).canSend) = _
    unfold PolicyState.charge
    split <;> rfl

end Armed

/-- The outcomes of the recursion. -/
inductive Selected (s : List PolicyState) :
    Except SchedFailure (Option Nat × List PolicyState) → Prop
  | picked (a : Nat) (s' : List PolicyState) (hAccepts : Accepts s) (hPicked : Picked s s' a) :
      Selected s (.ok (some a, s'))
  | failed (e : SchedFailure) (hFuel : e ≠ .outOfFuel) (hAccepts : ¬ Accepts s) :
      Selected s (.error e)

theorem Selected.of_topUp {s : List PolicyState}
    {r : Except SchedFailure (Option Nat × List PolicyState)}
    (h : Selected (s.map PolicyState.topUp) r) (hTopUp : Accepts (s.map PolicyState.topUp))
    (hAccepts : Accepts s) : Selected s r := by
  cases h with
  | picked a s' _ hPicked =>
    refine .picked a s' hAccepts ⟨hPicked.highest, hPicked.nonneg, hPicked.idle, ?_⟩
    rw [hPicked.same, List.map_map]
    exact List.map_congr_left fun ps _ => Prod.ext ps.topUp_rcverAddr ps.topUp_canSend
  | failed e _ hNot => exact absurd hTopUp hNot

/-- One call of the recursion; the next one is made only while all deficits are below 1. -/
theorem Armed.selected_step {s : List PolicyState} (fuel : Nat) (h : Armed s)
    (hSome : ∃ ps ∈ s, ps.canSend = true)
    (hNext : (∀ ps ∈ s, ps.canSend = true → ps.deficit < 1) →
      Selected (s.map PolicyState.topUp) (selectMsgToSend fuel (s.map PolicyState.topUp))) :
    Selected s (selectMsgToSend (fuel + 1) s) := by
  obtain ⟨ps, hMem, hCan⟩ := hSome
  have hSearched := h.searched
  unfold selectMsgToSend
  generalize findHighest (-1) none s = r at hSearched ⊢
  cases hSearched with
  | behind hAll hOver =>
    have hDeficit := h.deficit ps hMem hCan
    have hBehind := hAll ps hMem hCan
    linarith
  | failed e hFuel hOver => exact .failed e hFuel fun hAccepts => hOver hAccepts.overtakers
  | found d a hAbove hHighest hOver =>
    dsimp only [bind, Except.bind]
    split
    · rename_i hBelow
      have hBelow : ∀ ps ∈ s, ps.canSend = true → ps.deficit < 1 :=
        fun ps hMem hCan => (hHighest.2 ps hMem hCan).trans_lt hBelow
      by_cases hQuanta : ∀ ps ∈ s, ps.canSend = true → leastQuantum ≤ ps.quantum
      · have hAccepts : Accepts s := ⟨hOver, fun _ => hQuanta,
          fun ps hMem hCan => (hBelow ps hMem hCan).le.trans (by norm_num)⟩
        rw [check, if_pos hQuanta]
        exact (hNext hBelow).of_topUp (h.accepts_topUp hBelow hQuanta) hAccepts
      · rw [check, if_neg hQuanta]
        exact .failed _ (by decide) fun hAccepts => hQuanta (hAccepts.topUp hBelow)
    · rename_i hOne
      have hOne : 1 ≤ d := not_lt.mp hOne
      obtain ⟨⟨best, hBest, hBestCan, rfl, rfl⟩, hAll⟩ := id hHighest
      by_cases hLarge : best.deficit ≤ 11
      · have hCheck : ∀ ps ∈ s.map (·.charge best.rcverAddr), ps.rcverAddr = best.rcverAddr →
            ps.deficit ≤ 10 := by
          intro x hx hAddr
          obtain ⟨ps, hPs, rfl⟩ := List.mem_map.mp hx
          unfold PolicyState.charge at hAddr ⊢
          split at hAddr
          · rename_i hSame
            obtain rfl := List.inj_on_of_nodup_map h.nodup hPs hBest hSame
            rw [if_pos rfl]
            show ps.deficit - 1 ≤ 10
            linarith
          · rename_i hOther
            exact absurd hAddr hOther
        rw [check, if_pos hCheck]
        refine .picked _ _ ⟨hOver, fun hBelow => ?_, fun ps hMem hCan => ?_⟩
          (h.picked_charge hHighest hOne)
        · exact absurd (hBelow best hBest hBestCan) (not_lt.mpr hOne)
        · exact (hAll ps hMem hCan).trans hLarge
      · have hCheck : ¬ ∀ ps ∈ s.map (·.charge best.rcverAddr), ps.rcverAddr = best.rcverAddr →
            ps.deficit ≤ 10 := by
          intro hAllCharged
          have hCharged := hAllCharged _ (List.mem_map_of_mem hBest)
          rw [PolicyState.charge, if_pos rfl] at hCharged
          have hTen : best.deficit - 1 ≤ 10 := hCharged rfl
          exact hLarge (by linarith)
        rw [check, if_neg hCheck]
        exact .failed _ (by decide) fun hAccepts => hLarge (hAccepts.charge best hBest hBestCan)

/-- The recursion ends where a receiver comes to a deficit of 1 in as many calls. -/
theorem Armed.selected {s : List PolicyState} (fuel : Nat) (h : Armed s)
    (hFuel : ∃ ps ∈ s, ps.canSend = true ∧ 1 ≤ ps.deficit + fuel * ps.quantum) :
    Selected s (selectMsgToSend (fuel + 1) s) := by
  obtain ⟨ps, hMem, hCan, hOne⟩ := hFuel
  induction fuel generalizing s ps with
  | zero =>
    refine h.selected_step 0 ⟨ps, hMem, hCan⟩ fun hBelow => ?_
    have hLess := hBelow ps hMem hCan
    push_cast at hOne
    linarith
  | succ fuel ih =>
    refine h.selected_step _ ⟨ps, hMem, hCan⟩ fun _ => ?_
    refine ih h.topUp ps.topUp (List.mem_map_of_mem hMem) (ps.topUp_canSend.trans hCan) ?_
    rw [ps.topUp_of_canSend hCan]
    push_cast at hOne
    show 1 ≤ ps.deficit + ps.quantum + fuel * ps.quantum
    linarith

end Dpdq.Ns2
