import Dpdq.Ns3.CbReceiver

/-!
# What a step of the receiver can do

For each operation of the receiver, the fields it leaves alone and the form of its result. The
invariants of the later modules are derived from these facts and not from the definitions.
-/

namespace Dpdq.Ns3

open Dpdq.Lib

variable {cfg : CbConfig}

/-! ## Senders and accounts -/

namespace SenderState

theorem updateAimdOnData_ledger (cfg : CbConfig) (st : SenderState)
    (csnMarked ecnMarked priorityFlow : Bool) :
    (st.updateAimdOnData cfg csnMarked ecnMarked priorityFlow).outstandingBytes =
        st.outstandingBytes ∧
      (st.updateAimdOnData cfg csnMarked ecnMarked priorityFlow).pendingDemandDataBytes =
        st.pendingDemandDataBytes ∧
      (st.updateAimdOnData cfg csnMarked ecnMarked priorityFlow).msgStates = st.msgStates := by
  unfold updateAimdOnData
  split
  · exact ⟨rfl, rfl, rfl⟩
  · exact ⟨rfl, rfl, rfl⟩

@[simp] theorem listMessage_outstandingBytes (st : SenderState) (k : RxKey) :
    (st.listMessage k).outstandingBytes = st.outstandingBytes := by
  unfold listMessage
  split <;> rfl

@[simp] theorem listMessage_pendingDemandDataBytes (st : SenderState) (k : RxKey) :
    (st.listMessage k).pendingDemandDataBytes = st.pendingDemandDataBytes := by
  unfold listMessage
  split <;> rfl

end SenderState

/-! ## Messages -/

namespace RxQueuePair

theorem scheduleResend_eq (q : RxQueuePair) :
    ∃ running, q.scheduleResend = { q with resendRunning := running } := by
  unfold scheduleResend
  split
  · exact ⟨q.resendRunning, rfl⟩
  · exact ⟨true, rfl⟩

end RxQueuePair

/-! ## Grants -/

namespace CbReceiver

/-- The grant timer is all that its schedule changes. -/
theorem scheduleGrantTick_eq (s : CbReceiver) :
    ∃ running, s.scheduleGrantTick = { s with grantTickRunning := running } := by
  unfold scheduleGrantTick
  split
  · exact ⟨s.grantTickRunning, rfl⟩
  · exact ⟨s.hasPendingDemand, rfl⟩

theorem scheduleGrantTickFor_eq (s : CbReceiver) (st : SenderState) :
    ∃ running, s.scheduleGrantTickFor st = { s with grantTickRunning := running } := by
  unfold scheduleGrantTickFor
  split
  · exact s.scheduleGrantTick_eq
  · exact ⟨s.grantTickRunning, rfl⟩

/-- A new message is listed with its sender, whose ledger stays as it is. -/
theorem getRxQp_cases (cfg : CbConfig) (s : CbReceiver) (p : CbPacket) :
    (∃ q, s.rxQpMap p.rxKey = some q ∧ s.getRxQp cfg p = (s, q)) ∨
      s.rxQpMap p.rxKey = none ∧ ∃ st : SenderState,
        st.outstandingBytes = (s.getOrCreateSenderState p.rxKey).outstandingBytes ∧
        st.pendingDemandDataBytes =
          (s.getOrCreateSenderState p.rxKey).pendingDemandDataBytes ∧
        st.msgStates = (s.getOrCreateSenderState p.rxKey).msgStates ∧
        s.getRxQp cfg p =
          ({ s with
            senderStates := s.senderStates.set p.rxKey.dip st
            rxQpMap := Function.update s.rxQpMap p.rxKey (some p.newRxQp) }, p.newRxQp) := by
  unfold getRxQp
  cases hq : s.rxQpMap p.rxKey with
  | some q =>
    left
    exact ⟨q, rfl, by simp only [hq]⟩
  | none =>
    right
    refine ⟨rfl, if !(s.getOrCreateSenderState p.rxKey).enabled then
      (s.getOrCreateSenderState p.rxKey).enable cfg else s.getOrCreateSenderState p.rxKey,
      ?_, ?_, ?_, by simp only [hq]⟩
    all_goals
      split
      · rfl
      · rfl

/-- The account of the message that a packet belongs to. -/
def accountOf (cfg : CbConfig) (s : CbReceiver) (p : CbPacket) : Account :=
  (s.getRxQp cfg p).1.openAccount p.rxKey (s.getRxQp cfg p).2

/-- A candidate is a listed message that waits for a grant. -/
theorem mem_candidates {s : CbReceiver} {order : List Nat} {c : GrantCandidate}
    (hc : c ∈ s.candidates order) : ∃ st q, s.senderStates.get? c.senderAddr = some st ∧
      c.key ∈ st.msgStates ∧ s.rxQpMap c.key = some q ∧
      c.msgPendingDataBytes = q.pendingDemandBytes ∧ q.pendingDemandBytes ≠ 0 := by
  unfold candidates at hc
  obtain ⟨addr, -, hc⟩ := List.mem_flatMap.mp hc
  split at hc
  · exact absurd hc List.not_mem_nil
  rename_i st hst
  split at hc
  · exact absurd hc List.not_mem_nil
  obtain ⟨k, hk, hc⟩ := List.mem_filterMap.mp hc
  split at hc
  · exact absurd hc nofun
  rename_i q hq
  split at hc
  · exact absurd hc nofun
  rename_i hPending
  obtain rfl := Option.some.inj hc
  exact ⟨st, q, hst, hk, hq, rfl, hPending⟩

/-- The tests of `trySelectCandidate` for a message with this pending demand: the cap of its sender,
the demand, the global budget and the pair budget. -/
structure Passes (cfg : CbConfig) (s : CbReceiver) (st : SenderState) (msgPendingDataBytes : Nat) :
    Prop where
  cap : st.outstandingBytes ≤ st.aimd.maxSrpbBytes
  demand : askData cfg st msgPendingDataBytes ≠ 0
  budget : addU64 s.globalOutstandingBytes
    (cbAddHeaderOverhead (askData cfg st msgPendingDataBytes) cfg.mtu true) ≤ globalLimit cfg
  pair : cbAddHeaderOverhead (askData cfg st msgPendingDataBytes) cfg.mtu true ≤ st.srpbBytes

/-- A candidate is selected exactly if it passes, with what it asks for. -/
theorem trySelectCandidate_eq_some_iff {s : CbReceiver} {c d : GrantCandidate} {data wire : Nat} :
    s.trySelectCandidate cfg c = some (d, data, wire) ↔ d = c ∧
      ∃ st, s.senderStates.get? c.senderAddr = some st ∧
        data = askData cfg st c.msgPendingDataBytes ∧ wire = cbAddHeaderOverhead data cfg.mtu true ∧
        s.Passes cfg st c.msgPendingDataBytes := by
  unfold trySelectCandidate
  simp only [Option.bind_eq_bind, Option.bind_eq_some_iff]
  constructor
  · rintro ⟨st, hst, h⟩
    split at h
    · cases h
    rename_i hCap
    split at h
    · cases h
    rename_i hDemand
    split at h
    · cases h
    rename_i hGlobal
    split at h
    · cases h
    rename_i hSrpb
    simp only [Option.some.injEq, Prod.mk.injEq] at h
    obtain ⟨rfl, rfl, rfl⟩ := h
    exact ⟨rfl, st, hst, rfl, rfl, Nat.le_of_not_lt hCap, hDemand, Nat.le_of_not_lt hGlobal,
      Nat.le_of_not_lt hSrpb⟩
  · rintro ⟨rfl, st, hst, rfl, rfl, hPasses⟩
    refine ⟨st, hst, ?_⟩
    rw [if_neg (Nat.not_lt.mpr hPasses.cap), if_neg hPasses.demand,
      if_neg (Nat.not_lt.mpr hPasses.budget), if_neg (Nat.not_lt.mpr hPasses.pair)]

/-- A candidate that passes is offered its own grant, within the pair budget. -/
theorem trySelectCandidate_spec {s : CbReceiver} {c d : GrantCandidate} {data wire : Nat}
    (h : s.trySelectCandidate cfg c = some (d, data, wire)) : d = c ∧
      ∃ st, s.senderStates.get? c.senderAddr = some st ∧
        data = askData cfg st c.msgPendingDataBytes ∧ wire = cbAddHeaderOverhead data cfg.mtu true ∧
        addU64 s.globalOutstandingBytes wire ≤ globalLimit cfg ∧ wire ≤ st.srpbBytes := by
  obtain ⟨rfl, st, hst, rfl, rfl, hPasses⟩ := trySelectCandidate_eq_some_iff.mp h
  exact ⟨rfl, st, hst, rfl, rfl, hPasses.budget, hPasses.pair⟩

/-- Both policies select a candidate that passes. -/
theorem selectCandidate_spec {s : CbReceiver} {cs : List GrantCandidate} {c : GrantCandidate}
    {data wire : Nat} (h : (s.selectCandidate cfg cs).1 = some (c, data, wire)) :
    c ∈ cs ∧ s.trySelectCandidate cfg c = some (c, data, wire) := by
  unfold selectCandidate at h
  split at h
  · obtain ⟨d, hd, hSelect⟩ := List.exists_of_findSome?_eq_some h
    obtain rfl := (trySelectCandidate_spec hSelect).1
    exact ⟨List.mem_mergeSort.mp hd, hSelect⟩
  · simp only at h
    split at h
    · exact absurd h nofun
    rename_i hFound
    simp only [Option.some.injEq] at h
    subst h
    obtain ⟨i, -, hi⟩ := List.exists_of_findSome?_eq_some hFound
    simp only [Option.bind_eq_bind, Option.pure_def, Option.bind_eq_some_iff, Option.some.injEq,
      Prod.mk.injEq] at hi
    obtain ⟨d, hd, _, hSelect, rfl, -⟩ := hi
    obtain rfl := (trySelectCandidate_spec hSelect).1
    exact ⟨List.mem_of_getElem? hd, hSelect⟩

/-- The counters of a state in which a message was granted `data` bytes. -/
def granted (s : CbReceiver) (addr : Nat) (k : RxKey) (a : Account) : CbReceiver :=
  { s with
    senderStates := s.senderStates.set addr a.sender
    rxQpMap := Function.update s.rxQpMap k (some a.msg)
    globalOutstandingBytes := a.globalOutstandingBytes }

/-- A grant attempt moves the cursor, and it may grant a listed message what it asks for. -/
theorem tryIssueCreditGrant_spec (cfg : CbConfig) (s : CbReceiver) (order : List Nat) :
    (∃ cursor, s.tryIssueCreditGrant cfg order = ({ s with grantRrCursor := cursor }, none)) ∨
      ∃ c ∈ s.candidates order, ∃ data wire st q cursor,
        s.trySelectCandidate cfg c = some (c, data, wire) ∧
        s.senderStates.get? c.senderAddr = some st ∧ s.rxQpMap c.key = some q ∧
        s.tryIssueCreditGrant cfg order =
          ({ s with grantRrCursor := cursor }.granted c.senderAddr c.key
            (Account.grant ⟨st, q, s.globalOutstandingBytes⟩ data wire),
            some (grantPacket c.key q data wire)) := by
  unfold tryIssueCreditGrant
  by_cases hNone : s.candidates order = []
  · left
    exact ⟨s.grantRrCursor, by rw [if_pos hNone]⟩
  rw [if_neg hNone]
  cases hSelected : (s.selectCandidate cfg (s.candidates order)).1 with
  | none =>
    left
    simp only [hSelected]
    exact ⟨_, rfl⟩
  | some selection =>
    obtain ⟨c, data, wire⟩ := selection
    obtain ⟨hMem, hTry⟩ := selectCandidate_spec hSelected
    obtain ⟨st, q, hst, -, hq, -⟩ := mem_candidates hMem
    right
    refine ⟨c, hMem, data, wire, st, q, (s.selectCandidate cfg (s.candidates order)).2, hTry, hst, hq,
      ?_⟩
    simp only [hSelected, hst, hq]
    rfl

/-- The state after a grant attempt. -/
theorem tryIssueCreditGrant_cases (cfg : CbConfig) (s : CbReceiver) (order : List Nat) :
    (∃ cursor, (s.tryIssueCreditGrant cfg order).1 = { s with grantRrCursor := cursor }) ∨
      ∃ c ∈ s.candidates order, ∃ data wire st q cursor,
        s.trySelectCandidate cfg c = some (c, data, wire) ∧
        s.senderStates.get? c.senderAddr = some st ∧ s.rxQpMap c.key = some q ∧
        (s.tryIssueCreditGrant cfg order).1 =
          { s with grantRrCursor := cursor }.granted c.senderAddr c.key
            (Account.grant ⟨st, q, s.globalOutstandingBytes⟩ data wire) := by
  rcases tryIssueCreditGrant_spec cfg s order with
    ⟨cursor, hEq⟩ | ⟨c, hc, data, wire, st, q, cursor, hTry, hst, hq, hEq⟩
  · exact Or.inl ⟨cursor, congrArg Prod.fst hEq⟩
  · exact Or.inr ⟨c, hc, data, wire, st, q, cursor, hTry, hst, hq, congrArg Prod.fst hEq⟩

/-! ## Resend timer -/

/-- A resend timer fires only where it runs. -/
theorem resendTimeout_eq_some {s t : CbReceiver} {k : RxKey}
    (hStep : s.step cfg (.resendTimeout k) = some t) :
    ∃ q, s.rxQpMap k = some q ∧ q.resendRunning = true ∧
      t = (s.handleResendTimeout cfg k q).1 := by
  simp only [step, Option.bind_eq_bind, Option.bind_eq_some_iff] at hStep
  obtain ⟨q, hq, hStep⟩ := hStep
  obtain ⟨hRunning, rfl⟩ := Machine.of_guarded hStep
  exact ⟨q, hq, hRunning, rfl⟩

/-- A timer that has fired writes its message, and of the rest at most the entry of the sender. -/
theorem handleResendTimeout_cases (cfg : CbConfig) (s : CbReceiver) (k : RxKey)
    (q : RxQueuePair) : ∃ q' : RxQueuePair, q'.pendingDemandBytes = q.pendingDemandBytes ∧
      ((s.handleResendTimeout cfg k q).1 =
          { s with rxQpMap := Function.update s.rxQpMap k (some q') } ∨
        (s.handleResendTimeout cfg k q).1 =
          { s with
            senderStates := s.senderStates.set k.dip (s.getOrCreateSenderState k)
            rxQpMap := Function.update s.rxQpMap k (some q') }) := by
  unfold handleResendTimeout
  simp only
  split
  · refine ⟨_, ?_, Or.inl rfl⟩
    rfl
  · split
    · refine ⟨_, ?_, Or.inr rfl⟩
      rfl
    · refine ⟨_, ?_, Or.inr rfl⟩
      split
      · obtain ⟨running, hResend⟩ := RxQueuePair.scheduleResend_eq { q with
          resendRunning := false
          grantedChunkLimit := grantedChunkLimit cfg { q with resendRunning := false } }
        rw [hResend]
      · rfl

end CbReceiver

end Dpdq.Ns3
