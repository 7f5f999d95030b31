import Dpdq.Ns3.CbReceiverTick

/-!
# The choice of a grant

`TryIssueCreditGrant` in any state of the receiver, for both policies: what it grants, it may
grant, the counters follow without an underflow, and it gives up only if no waiting message of any
enabled sender passes its tests (`try_issue_credit_grant_correct`).
-/

namespace Dpdq.Ns3

open Dpdq.Lib

variable {cfg : CbConfig}

namespace CbReceiver

/-! ## Sizes -/

/-- A grant is within the demand of the message and of its sender. -/
theorem askData_le (cfg : CbConfig) (st : SenderState) (msgPendingDataBytes : Nat) :
    askData cfg st msgPendingDataBytes ≤ msgPendingDataBytes ∧
      askData cfg st msgPendingDataBytes ≤ st.pendingDemandDataBytes := by
  unfold askData
  simp only
  refine ⟨(cbAlignChunkPrefixBytes_le_candidate _ _ _).trans ?_,
    (cbAlignChunkPrefixBytes_le_candidate _ _ _).trans ?_⟩
  · exact (Nat.min_le_left _ _).trans (Nat.min_le_left _ _)
  · exact Nat.min_le_right _ _

/-- A grant is the whole demand of the message, or whole chunks. -/
theorem askData_whole (cfg : CbConfig) (st : SenderState) (msgPendingDataBytes : Nat) :
    askData cfg st msgPendingDataBytes = msgPendingDataBytes ∨
      cfg.mtu ∣ askData cfg st msgPendingDataBytes :=
  cbAlignChunkPrefixBytes_whole _ _ _

/-! ## The choice -/

/-- A grant of `data` to the message `k` of the sender `addr` takes the receiver from `s` to `t`. The
equations on the decreasing counters say that none of them underflows. -/
structure SoundGrant (cfg : CbConfig) (s t : CbReceiver) (g : CbPacket) (addr : Nat) (k : RxKey)
    (st st' : SenderState) (q q' : RxQueuePair) (data : Nat) : Prop where
  sender : s.senderStates.get? addr = some st ∧ t.senderStates.get? addr = some st'
  listed : k ∈ st.msgStates
  message : s.rxQpMap k = some q ∧ t.rxQpMap k = some q'
  packet : g = grantPacket k q data (cbAddHeaderOverhead data cfg.mtu true)
  budget : t.globalOutstandingBytes ≤ cfg.globalBucketBytes
  cap : st.outstandingBytes ≤ st.aimd.maxSrpbBytes
  some_data : 0 < data
  message_demand : data ≤ q.pendingDemandBytes
  sender_demand : data ≤ st.pendingDemandDataBytes
  whole : data = q.pendingDemandBytes ∨ cfg.mtu ∣ data
  message_pending : q'.pendingDemandBytes + data = q.pendingDemandBytes
  sender_pending : st'.pendingDemandDataBytes + data = st.pendingDemandDataBytes
  srpb : st'.srpbBytes + cbAddHeaderOverhead data cfg.mtu true = st.srpbBytes

/-- A message that waits for a grant of an enabled sender and passes the tests. -/
def Grantable (cfg : CbConfig) (s : CbReceiver) : Prop :=
  ∃ addr st k q, s.senderStates.get? addr = some st ∧ st.enabled = true ∧
    0 < st.pendingDemandDataBytes ∧ k ∈ st.msgStates ∧ s.rxQpMap k = some q ∧
    0 < q.pendingDemandBytes ∧ s.Passes cfg st q.pendingDemandBytes

theorem globalLimit_of_pos (hBudget : 0 < cfg.globalBucketBytes) :
    globalLimit cfg = cfg.globalBucketBytes := if_neg (Nat.ne_of_gt hBudget)

/-- A selected candidate makes a sound grant. -/
theorem soundGrant_of_selected (hBudget : 0 < cfg.globalBucketBytes) {s : CbReceiver}
    {order : List Nat} {c : GrantCandidate} (hc : c ∈ s.candidates order) {data wire : Nat}
    (cursor : Nat) {st : SenderState} {q : RxQueuePair}
    (hTry : s.trySelectCandidate cfg c = some (c, data, wire))
    (hst : s.senderStates.get? c.senderAddr = some st) (hq : s.rxQpMap c.key = some q) :
    ∃ st' q', SoundGrant cfg s
      (({ s with grantRrCursor := cursor } : CbReceiver).granted c.senderAddr c.key
        (Account.grant ⟨st, q, s.globalOutstandingBytes⟩ data wire))
      (grantPacket c.key q data wire) c.senderAddr c.key st st' q q' data := by
  obtain ⟨stListed, qListed, hst', hk, hq', hPending, -⟩ := mem_candidates hc
  obtain rfl := Option.some.inj (hst.symm.trans hst')
  obtain rfl := Option.some.inj (hq.symm.trans hq')
  obtain ⟨-, stTried, hst'', hData, rfl, hPasses⟩ := trySelectCandidate_eq_some_iff.mp hTry
  obtain rfl := Option.some.inj (hst.symm.trans hst'')
  rw [hPending] at hData hPasses
  obtain ⟨hMessage, hSender⟩ := askData_le cfg st q.pendingDemandBytes
  have hWhole := askData_whole cfg st q.pendingDemandBytes
  have hGlobal := hPasses.budget
  have hSrpb := hPasses.pair
  have hSome := hPasses.demand
  rw [← hData] at hMessage hSender hWhole hGlobal hSrpb hSome
  rw [globalLimit_of_pos hBudget] at hGlobal
  refine ⟨_, _, ⟨⟨hst, Table.get?_set_self _ _ _⟩, hk, ⟨hq, Function.update_self _ _ _⟩, rfl,
    hGlobal, hPasses.cap, Nat.pos_of_ne_zero hSome, hMessage, hSender, hWhole, ?_, ?_, ?_⟩⟩
  · exact Nat.sub_add_cancel hMessage
  · exact Nat.sub_add_cancel hSender
  · exact Nat.sub_add_cancel hSrpb

/-- If `TryIssueCreditGrant` issues a grant, then it is sound; if it issues none, then no message may
be granted. -/
theorem try_issue_credit_grant_correct (cfg : CbConfig) (hBudget : 0 < cfg.globalBucketBytes)
    (s : CbReceiver) {order : List Nat} (hOrder : order.toFinset = s.senderStates.keys) :
    (∀ g, (s.tryIssueCreditGrant cfg order).2 = some g → ∃ addr k st st' q q' data,
      SoundGrant cfg s (s.tryIssueCreditGrant cfg order).1 g addr k st st' q q' data) ∧
      ((s.tryIssueCreditGrant cfg order).2 = none → ¬ s.Grantable cfg) := by
  refine ⟨?_, ?_⟩
  · intro g hg
    rcases tryIssueCreditGrant_spec cfg s order with
      ⟨cursor, hEq⟩ | ⟨c, hc, data, wire, st, q, cursor, hTry, hst, hq, hEq⟩
    · rw [hEq] at hg
      cases hg
    · rw [hEq] at hg ⊢
      obtain rfl := Option.some.inj hg
      obtain ⟨st', q', hSound⟩ := soundGrant_of_selected hBudget hc cursor hTry hst hq
      exact ⟨c.senderAddr, c.key, st, st', q, q', data, hSound⟩
  · rintro hNone ⟨addr, st, k, q, hst, hOn, hDemand, hk, hq, hPending, hPasses⟩
    have hAddr : addr ∈ order := by
      rw [← List.mem_toFinset, hOrder]
      exact (Table.get?_eq_some.mp hst).1
    have hc := mem_candidates_of hAddr hst hOn hDemand hk hq hPending
    have hSelected : s.trySelectCandidate cfg ⟨addr, k, q.pendingDemandBytes, q.flowId⟩ =
        some (⟨addr, k, q.pendingDemandBytes, q.flowId⟩, askData cfg st q.pendingDemandBytes,
          cbAddHeaderOverhead (askData cfg st q.pendingDemandBytes) cfg.mtu true) :=
      trySelectCandidate_eq_some_iff.mpr ⟨rfl, st, hst, rfl, rfl, hPasses⟩
    have hIssued := tryIssueCreditGrant_isSome hc (by rw [hSelected]; rfl)
    rw [hNone] at hIssued
    cases hIssued

/-- The first grant of a message of 1500 bytes takes 1534 bytes of the budget. -/
theorem try_issue_credit_grant_first : ∃ s g, ∃ (addr : Nat) (k : RxKey) (st st' : SenderState)
    (q q' : RxQueuePair) (data : Nat),
    (cbReceiver {}).run {} [.grantReq 11 7 1500] = some s ∧
      (s.tryIssueCreditGrant {} [11]).2 = some g ∧ g.tag.creditBytes = 1534 ∧
      SoundGrant {} s (s.tryIssueCreditGrant {} [11]).1 g addr k st st' q q' data := by
  have hRun : ((cbReceiver {}).run {} [.grantReq 11 7 1500]).map (fun s => (s.senderStates.keys,
      (s.tryIssueCreditGrant {} [11]).2.map fun g => g.tag.creditBytes)) =
      some ({11}, some 1534) := by decide +kernel
  obtain ⟨s, hs, hEnd⟩ := Option.map_eq_some_iff.mp hRun
  obtain ⟨hKeys, hGrant⟩ := Prod.mk.inj hEnd
  obtain ⟨g, hg, hCredit⟩ := Option.map_eq_some_iff.mp hGrant
  obtain ⟨addr, k, st, st', q, q', data, hSound⟩ :=
    (try_issue_credit_grant_correct {} (by decide) s (by rw [hKeys]; rfl)).1 g hg
  exact ⟨s, g, addr, k, st, st', q, q', data, hs, hg, hCredit, hSound⟩

end CbReceiver

end Dpdq.Ns3
