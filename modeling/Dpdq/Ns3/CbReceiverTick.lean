import Dpdq.Ns3.CbReceiverEntry

/-!
# The grant timer

The grant timer is running in every reachable state in which an enabled sender has pending demand
(`Ticking.step`). What the timer calls, `TryIssueCreditGrant`, issues a grant as soon as one of its
candidates passes, under both policies (`tryIssueCreditGrant_isSome`).
-/

namespace Dpdq.Ns3

open Dpdq.Lib

variable {cfg : CbConfig}

namespace CbReceiver

/-! ## Pending demand -/

/-- The timer runs while demand is pending. -/
def Ticking (s : CbReceiver) : Prop := s.hasPendingDemand = true → s.grantTickRunning = true

theorem hasPendingDemand_iff (s : CbReceiver) : s.hasPendingDemand = true ↔
    ∃ addr st, s.senderStates.get? addr = some st ∧ st.enabled = true ∧
      0 < st.pendingDemandDataBytes := by
  unfold hasPendingDemand Table.any
  rw [decide_eq_true_eq]
  constructor
  · rintro ⟨addr, hAddr, hDemand⟩
    rw [decide_eq_true_eq] at hDemand
    exact ⟨addr, _, Table.get?_eq_some.mpr ⟨hAddr, rfl⟩, hDemand⟩
  · rintro ⟨addr, st, hst, hDemand⟩
    obtain ⟨hAddr, rfl⟩ := Table.get?_eq_some.mp hst
    exact ⟨addr, hAddr, decide_eq_true hDemand⟩

theorem ticking_init : ({} : CbReceiver).Ticking := by
  intro hDemand
  obtain ⟨addr, st, hst, -⟩ := (hasPendingDemand_iff _).mp hDemand
  cases hst

theorem ticking_scheduleGrantTick (s : CbReceiver) : s.scheduleGrantTick.Ticking := by
  unfold scheduleGrantTick
  split
  · rename_i hRunning
    exact fun _ => hRunning
  · exact id

/-- The schedule at the end of an arrival covers the demand of its sender; that of the other senders
had the timer running. -/
theorem ticking_scheduleGrantTickFor {s : CbReceiver} {a : SenderState}
    (h : ∀ addr st, s.senderStates.get? addr = some st → st.enabled = true →
      0 < st.pendingDemandDataBytes → s.grantTickRunning = true ∨ 0 < a.pendingDemandDataBytes) :
    (s.scheduleGrantTickFor a).Ticking := by
  unfold scheduleGrantTickFor
  split
  · exact ticking_scheduleGrantTick s
  · rename_i hNone
    intro hDemand
    obtain ⟨addr, st, hst, hOn, hPending⟩ := (hasPendingDemand_iff _).mp hDemand
    exact (h addr st hst hOn hPending).resolve_right hNone

/-! ## Steps -/

theorem getRxQp_grantTickRunning (cfg : CbConfig) (s : CbReceiver) (p : CbPacket) :
    (s.getRxQp cfg p).1.grantTickRunning = s.grantTickRunning := by
  rcases getRxQp_cases cfg s p with ⟨q, -, hEq⟩ | ⟨-, st, -, -, -, hEq⟩
  · rw [hEq]
  · rw [hEq]

theorem cleanupSenderState_grantTickRunning (s : CbReceiver) (k : RxKey) :
    (s.cleanupSenderState k).grantTickRunning = s.grantTickRunning := by
  unfold cleanupSenderState
  split
  · rfl
  · simp only
    split
    · rfl
    · rfl

theorem Ticking.receive {s : CbReceiver} (h : s.Ticking) (p : CbPacket) :
    (s.receive cfg p).1.Ticking := by
  -- The entry of the sender is the one that the schedule looks at; the others are as before.
  have hEnd {t : CbReceiver} {st₀ : SenderState} (hTimer : t.grantTickRunning = s.grantTickRunning)
      (hSender : ∀ addr st, t.senderStates.get? addr = some st →
        s.senderStates.get? addr = some st ∨ st.pendingDemandDataBytes = st₀.pendingDemandDataBytes) :
      (t.scheduleGrantTickFor st₀).Ticking := by
    apply ticking_scheduleGrantTickFor
    intro addr st hst hOn hPending
    rcases hSender addr st hst with hOld | hDemand
    · left
      rw [hTimer]
      exact h ((hasPendingDemand_iff s).mpr ⟨addr, st, hOld, hOn, hPending⟩)
    · right
      exact hDemand ▸ hPending
  have hPosted {t : CbReceiver} {a : Account} (hRx : ∀ addr, addr ≠ p.rxKey.dip →
        t.senderStates.get? addr = s.senderStates.get? addr) (addr : Nat) (st : SenderState)
      (hst : (t.post p.rxKey a).senderStates.get? addr = some st) :
      s.senderStates.get? addr = some st ∨
        st.pendingDemandDataBytes = a.sender.pendingDemandDataBytes := by
    by_cases hAddr : addr = p.rxKey.dip
    · subst hAddr
      rw [get?_post_self] at hst
      exact Or.inr (congrArg _ (Option.some.inj hst).symm)
    · rw [get?_post_of_ne _ _ _ hAddr, hRx addr hAddr] at hst
      exact Or.inl hst
  have hRx (addr : Nat) (hAddr : addr ≠ p.rxKey.dip) :
      (s.getRxQp cfg p).1.senderStates.get? addr = s.senderStates.get? addr :=
    get?_getRxQp_of_ne s p hAddr
  rcases receive_cases cfg s p with hEq | ⟨-, hEq⟩ | ⟨-, hEq⟩ | ⟨-, q, hq, hEq⟩
  · rw [hEq]
    exact h
  · rw [hEq]
    unfold receiveRequestData
    apply hEnd
    · unfold postData
      split
      · rw [cleanupSenderState_grantTickRunning]
        exact getRxQp_grantTickRunning cfg s p
      · exact getRxQp_grantTickRunning cfg s p
    · intro addr st hst
      rcases get?_postData hst with ⟨-, l, rfl⟩ | ⟨hAddr, hOld⟩
      · exact Or.inr rfl
      · rw [hRx addr hAddr] at hOld
        exact Or.inl hOld
  · rw [hEq]
    unfold receiveRequest
    exact hEnd (getRxQp_grantTickRunning cfg s p) (hPosted hRx)
  · rw [hEq]
    unfold receiveBouncedCredit
    simp only [hq]
    exact hEnd rfl (hPosted fun _ _ => rfl)

theorem Ticking.step {s t : CbReceiver} (h : s.Ticking) (hListed : s.Listed) {e : Event}
    (hStep : s.step cfg e = some t) : t.Ticking := by
  cases e with
  | arrive p =>
    obtain rfl := Option.some.inj hStep
    exact h.receive p
  | grantTick order =>
    obtain ⟨-, rfl⟩ := Machine.of_guarded hStep
    exact ticking_scheduleGrantTick _
  | resendTimeout k =>
    intro hDemand
    obtain ⟨addr, st, hst, hOn, hPending⟩ := (hasPendingDemand_iff t).mp hDemand
    have hTimer : t.grantTickRunning = s.grantTickRunning := by
      obtain ⟨q, -, -, rfl⟩ := resendTimeout_eq_some hStep
      obtain ⟨q', -, hEq | hEq⟩ := handleResendTimeout_cases cfg s k q
      · rw [hEq]
      · rw [hEq]
    rw [hTimer]
    apply h
    rw [hasPendingDemand_iff]
    cases senderAfter_step hStep hst with
    | kept _ _ hOld => exact ⟨addr, st, hOld, hOn, hPending⟩
    | touched _ q hq hRunning hAddr =>
      obtain ⟨st', hst'⟩ := hListed.entry_of_running hq hRunning
      obtain ⟨l, hl⟩ := listMessage_eq st' k
      unfold getOrCreateSenderState at hOn hPending
      rw [hst', Option.getD_some, hl] at hOn hPending
      exact ⟨k.dip, st', hst', hOn, hPending⟩

/-! ## The grant attempt -/

/-- A listed message that waits for a grant is a candidate. -/
theorem mem_candidates_of {s : CbReceiver} {order : List Nat} {addr : Nat} {st : SenderState}
    {k : RxKey} {q : RxQueuePair} (hOrder : addr ∈ order)
    (hst : s.senderStates.get? addr = some st) (hOn : st.enabled = true)
    (hDemand : 0 < st.pendingDemandDataBytes) (hk : k ∈ st.msgStates) (hq : s.rxQpMap k = some q)
    (hPending : 0 < q.pendingDemandBytes) :
    ⟨addr, k, q.pendingDemandBytes, q.flowId⟩ ∈ s.candidates order := by
  unfold candidates
  rw [List.mem_flatMap]
  refine ⟨addr, hOrder, ?_⟩
  have hOpen : ¬ ((!st.enabled) = true ∨ st.pendingDemandDataBytes = 0) := by
    rw [hOn]
    simp
    omega
  simp only [hst]
  rw [if_neg hOpen, List.mem_filterMap]
  refine ⟨k, hk, ?_⟩
  simp only [hq]
  rw [if_neg (by omega)]

/-- The round over `n` positions that starts at a cursor comes to every position. -/
theorem exists_offset {cursor n j : Nat} (hCursor : cursor < n) (hj : j < n) :
    ∃ offset < n, (cursor + offset) % n = j := by
  refine ⟨(j + (n - cursor)) % n, Nat.mod_lt _ (by omega), ?_⟩
  have hSum : cursor + (j + (n - cursor)) = j + n := by omega
  rw [Nat.add_mod_mod, hSum, Nat.add_mod_right, Nat.mod_eq_of_lt hj]

/-- Both policies select a candidate if one passes. -/
theorem selectCandidate_isSome {s : CbReceiver} {cs : List GrantCandidate} {c : GrantCandidate}
    (hc : c ∈ cs) (hPass : (s.trySelectCandidate cfg c).isSome) :
    ((s.selectCandidate cfg cs).1).isSome := by
  unfold selectCandidate
  cases cfg.grantSchedPolicy with
  | srpt =>
    rw [List.isSome_findSome?]
    simp only [List.any_eq_true]
    exact ⟨c, List.mem_mergeSort.mpr hc, hPass⟩
  | rr =>
    obtain ⟨j, hj, rfl⟩ := List.mem_iff_getElem.mp hc
    have hCursor : (if s.grantRrCursor ≥ cs.length then 0 else s.grantRrCursor) < cs.length := by
      split
      · omega
      · omega
    obtain ⟨offset, hOffset, hPosition⟩ := exists_offset hCursor hj
    obtain ⟨selected, hSelected⟩ := Option.isSome_iff_exists.mp hPass
    have hFound : (((List.range cs.length).map fun offset =>
        ((if s.grantRrCursor ≥ cs.length then 0 else s.grantRrCursor) + offset) % cs.length).findSome?
          fun i => do
            let selected ← s.trySelectCandidate cfg (← cs[i]?)
            return (selected, (i + 1) % cs.length)).isSome := by
      rw [List.isSome_findSome?, List.any_eq_true]
      refine ⟨j, List.mem_map.mpr ⟨offset, List.mem_range.mpr hOffset, hPosition⟩, ?_⟩
      rw [List.getElem?_eq_getElem hj]
      simp [hSelected]
    obtain ⟨found, hFound⟩ := Option.isSome_iff_exists.mp hFound
    simp only [hFound]
    rfl

/-- A grant is issued if a candidate passes. -/
theorem tryIssueCreditGrant_isSome {s : CbReceiver} {order : List Nat} {c : GrantCandidate}
    (hc : c ∈ s.candidates order) (hPass : (s.trySelectCandidate cfg c).isSome) :
    (s.tryIssueCreditGrant cfg order).2.isSome := by
  obtain ⟨⟨d, data, wire⟩, hSelected⟩ :=
    Option.isSome_iff_exists.mp (selectCandidate_isSome hc hPass)
  obtain ⟨hMem, -⟩ := selectCandidate_spec hSelected
  obtain ⟨st, q, hst, -, hq, -⟩ := mem_candidates hMem
  unfold tryIssueCreditGrant
  rw [if_neg (List.ne_nil_of_mem hc)]
  simp only [hSelected, hst, hq]
  rfl

end CbReceiver

end Dpdq.Ns3
