import Dpdq.Ns3.CbGrantChoice
import Dpdq.Ns3.CbSenderStep

/-!
# A grant and its bounce

A grant that comes back bounced is undone: `TryIssueCreditGrant` followed by the branch of
`ReceiveCreditBouncer` for the bounced packet leaves the receiver as it was, but for the cursor and
the timers (`grant_then_bounce`). The size of a grant is encoded as wire bytes and padding; the
receiver and the sender decode the payload that was granted (`bouncedData_grantPacket`).
-/

namespace Dpdq.Ns3

open Dpdq.Lib

variable {cfg : CbConfig}

/-! ## The encoding -/

/-- Every packet of a payload costs its headers, and there is at least one. -/
theorem add_headers_le_cbAddHeaderOverhead {payloadBytes maxPayloadBytes : Nat}
    (hPayload : 0 < payloadBytes) (hMax : 0 < maxPayloadBytes) :
    payloadBytes + 68 ≤ cbAddHeaderOverhead payloadBytes maxPayloadBytes true := by
  have hSplit := Nat.div_add_mod payloadBytes maxPayloadBytes
  have hFull : payloadBytes / maxPayloadBytes * (maxPayloadBytes + 68) =
      maxPayloadBytes * (payloadBytes / maxPayloadBytes) +
        payloadBytes / maxPayloadBytes * 68 := by ring
  unfold cbAddHeaderOverhead cbDataHeadersOnWire cbLinkOverheadOnWire cbMinEthernetOnWire
  rw [if_neg (by omega)]
  simp only [Nat.add_assoc, Nat.reduceAdd]
  split
  · omega
  · rename_i hWhole
    have hPkts : 0 < payloadBytes / maxPayloadBytes := by
      apply Nat.pos_of_ne_zero
      intro hNone
      rw [hNone] at hSplit
      omega
    rw [if_pos ⟨trivial, hPkts⟩]
    omega

/-- What the sender and the receiver decode from a GRANT is the payload that was granted. -/
theorem bouncedData_grantPacket (k : RxKey) (q : RxQueuePair) {data wire : Nat}
    (hWire : wire < 2 ^ 32) (hCost : data + 68 ≤ wire) (hPad : wire - (data + 68) < 2 ^ 16) :
    Account.bouncedData (CbReceiver.grantPacket k q data wire).tag = data := by
  have hCredit : wire % 2 ^ 32 = wire := Nat.mod_eq_of_lt hWire
  have hRest : (wire - (data + 48 + 20)) % 2 ^ 16 = wire - (data + 68) := by
    rw [Nat.add_assoc]
    exact Nat.mod_eq_of_lt hPad
  show wire % 2 ^ 32 - (48 + 20 + (wire - (data + 48 + 20)) % 2 ^ 16) = data
  rw [hCredit, hRest]
  omega

/-- The credit of a GRANT goes to the receiver of its QP, in wire bytes and in payload. -/
theorem receiveGrant_receiverStates {s : CbSender} {p : CbPacket} {qp : QueuePair}
    (hQp : s.qpMap ⟨p.ch.dport, p.ch.pg⟩ = some qp) :
    ∃ r, (s.receiveGrant p).receiverStates.get? qp.dip = some r ∧
      r.availCreditBytes =
        addU64 (s.getOrCreateReceiverState qp.dip ⟨p.ch.dport, p.ch.pg⟩).availCreditBytes
          p.tag.creditBytes ∧
      r.availCreditDataBytes =
        addU64 (s.getOrCreateReceiverState qp.dip ⟨p.ch.dport, p.ch.pg⟩).availCreditDataBytes
          (Account.bouncedData p.tag) := by
  unfold CbSender.receiveGrant
  simp only [hQp]
  exact ⟨_, Table.get?_set_self _ _ _, rfl, rfl⟩

namespace Account

/-! ## One account -/

/-- The sizes under which no counter of a grant is clamped or wraps around. -/
structure Holds (a : Account) (data wire : Nat) : Prop where
  message : data ≤ a.msg.pendingDemandBytes ∧ a.msg.pendingDemandBytes < 2 ^ 64
  demand : data ≤ a.sender.pendingDemandDataBytes ∧ a.sender.pendingDemandDataBytes < 2 ^ 64
  pair : wire ≤ a.sender.srpbBytes ∧ a.sender.srpbBytes ≤ a.sender.aimd.maxSrpbBytes ∧
    a.sender.aimd.maxSrpbBytes < 2 ^ 64
  outstandingData : a.sender.outstandingDataBytes + data < 2 ^ 64
  outstanding : a.sender.outstandingBytes + wire < 2 ^ 64
  budget : a.globalOutstandingBytes + wire < 2 ^ 64

/-- A grant that comes back leaves the account as it was. -/
theorem bounce_grant {a : Account} {data : Nat} {tag : CreditBouncerTag}
    (h : a.Holds data tag.creditBytes) (hData : bouncedData tag = data) :
    (a.grant data tag.creditBytes).bounce tag = a := by
  obtain ⟨⟨hMsg, hMsgFits⟩, ⟨hDemand, hDemandFits⟩, ⟨hPair, hCap, hCapFits⟩, hOutData, hOut,
    hGlobal⟩ := h
  have hWireBack : min tag.creditBytes (a.sender.outstandingBytes + tag.creditBytes) =
      tag.creditBytes := Nat.min_eq_left (Nat.le_add_left _ _)
  have hDataBack : min data (a.sender.outstandingDataBytes + data) = data :=
    Nat.min_eq_left (Nat.le_add_left _ _)
  have hMsgBack : saturatingAdd (a.msg.pendingDemandBytes - data) data = a.msg.pendingDemandBytes := by
    rw [saturatingAdd_of_lt (by omega), Nat.sub_add_cancel hMsg]
  have hDemandBack : addU64 (a.sender.pendingDemandDataBytes - data) data =
      a.sender.pendingDemandDataBytes := by
    rw [addU64_of_lt (by omega), Nat.sub_add_cancel hDemand]
  have hPairBack : addU64 (a.sender.srpbBytes - tag.creditBytes) tag.creditBytes =
      a.sender.srpbBytes := by
    rw [addU64_of_lt (by omega), Nat.sub_add_cancel hPair]
  unfold bounce grant
  simp only [hData, addU64_of_lt hOutData, addU64_of_lt hOut, addU64_of_lt hGlobal, hWireBack,
    hDataBack, hMsgBack, hDemandBack]
  unfold SenderState.refundSrpb
  simp only [hPairBack]
  rw [if_neg (by omega)]
  simp only [Nat.add_sub_cancel, Nat.sub_add_cancel hPair]

end Account

/-! ## The receiver -/

/-- `r` is `q`, but for the resend timer. -/
def RxQueuePair.Restored (q r : RxQueuePair) : Prop := r = { q with resendRunning := r.resendRunning }

namespace CbReceiver

/-- `u` is `s` again, but for the cursor and the timers. -/
structure Restores (s u : CbReceiver) : Prop where
  senders : u.senderStates = s.senderStates
  unknown : ∀ k, s.rxQpMap k = none → u.rxQpMap k = none
  messages : ∀ k q, s.rxQpMap k = some q → ∃ r, u.rxQpMap k = some r ∧ q.Restored r
  budget : u.globalOutstandingBytes = s.globalOutstandingBytes

/-- The budgets of the pairs are within their caps, which are 32-bit numbers, and the 64-bit counters
have room for what is granted. -/
structure WithinCaps (s : CbReceiver) : Prop where
  pair : ∀ addr st, s.senderStates.get? addr = some st →
    st.srpbBytes ≤ st.aimd.maxSrpbBytes ∧ st.aimd.maxSrpbBytes < 2 ^ 32
  demand : ∀ addr st, s.senderStates.get? addr = some st →
    st.outstandingDataBytes + st.pendingDemandDataBytes < 2 ^ 64
  message : ∀ k q, s.rxQpMap k = some q → q.pendingDemandBytes < 2 ^ 64
  budget : s.globalOutstandingBytes + 2 ^ 32 ≤ 2 ^ 64

/-- What a selected candidate is granted fits the counters, and its wire bytes cover the headers. -/
theorem WithinCaps.holds {s : CbReceiver} (h : s.WithinCaps) {c : GrantCandidate} {data wire : Nat}
    (hTry : s.trySelectCandidate cfg c = some (c, data, wire)) {st : SenderState} {q : RxQueuePair}
    (hst : s.senderStates.get? c.senderAddr = some st) (hq : s.rxQpMap c.key = some q)
    (hPending : c.msgPendingDataBytes = q.pendingDemandBytes) :
    Account.Holds ⟨st, q, s.globalOutstandingBytes⟩ data wire ∧ wire < 2 ^ 32 ∧ data + 68 ≤ wire := by
  obtain ⟨-, stTried, hTried, hData, hWire, hPasses⟩ := trySelectCandidate_eq_some_iff.mp hTry
  obtain rfl := Option.some.inj (hst.symm.trans hTried)
  rw [hPending] at hData hPasses
  obtain ⟨hMsg, hDemand⟩ := askData_le cfg st q.pendingDemandBytes
  have hSome := hPasses.demand
  have hPair := hPasses.pair
  have hCap := hPasses.cap
  rw [← hData] at hMsg hDemand hSome hPair
  rw [← hWire] at hPair
  obtain ⟨hWithin, hCapFits⟩ := h.pair c.senderAddr st hst
  have hDemandFits := h.demand c.senderAddr st hst
  have hMsgFits := h.message c.key q hq
  have hBudget := h.budget
  have hMtu : 0 < cfg.mtu := by
    apply Nat.pos_of_ne_zero
    intro hNone
    apply hSome
    rw [hData]
    unfold askData cbAlignChunkPrefixBytes
    simp [hNone]
  have hCost := add_headers_le_cbAddHeaderOverhead (Nat.pos_of_ne_zero hSome) hMtu
  rw [← hWire] at hCost
  refine ⟨⟨⟨hMsg, hMsgFits⟩, ⟨hDemand, ?_⟩, ⟨hPair, hWithin, ?_⟩, ?_, ?_, ?_⟩, by omega, hCost⟩
  all_goals
    dsimp only
    omega

/-- The bounced packet of a grant belongs to the message that was granted. -/
theorem rxKey_bounced_grantPacket (k : RxKey) (q : RxQueuePair) (data wire : Nat) :
    (grantPacket k q data wire).bounced.rxKey = k := rfl

/-- The account of a listed message of an enabled sender. -/
theorem openAccount_of_listed {s : CbReceiver} {k : RxKey} {st : SenderState}
    (hst : s.senderStates.get? k.dip = some st) (hOn : st.enabled = true) (hk : k ∈ st.msgStates)
    (q : RxQueuePair) : s.openAccount k q = ⟨st, q, s.globalOutstandingBytes⟩ := by
  have hSender : s.getOrCreateSenderState k = st := by
    unfold getOrCreateSenderState SenderState.listMessage
    rw [hst, Option.getD_some, if_pos hk]
  unfold openAccount
  rw [hSender, ← hOn]

/-- An account that is posted after another one for the same message replaces it. -/
theorem restores_of_posted {s t u : CbReceiver} {k : RxKey} {st : SenderState} {q : RxQueuePair}
    {a b : Account} (hst : s.senderStates.get? k.dip = some st) (hq : s.rxQpMap k = some q)
    (hGranted : t.senderStates = s.senderStates.set k.dip a.sender ∧
      t.rxQpMap = Function.update s.rxQpMap k (some a.msg))
    (hBounced : u.senderStates = t.senderStates.set k.dip b.sender ∧
      u.rxQpMap = Function.update t.rxQpMap k (some b.msg))
    (hSender : b.sender = st) (hMsg : q.Restored b.msg)
    (hBudget : u.globalOutstandingBytes = s.globalOutstandingBytes) : Restores s u := by
  obtain ⟨hTables, hMaps⟩ := hBounced
  rw [hGranted.1, Table.set_set, hSender, Table.set_eq_self hst] at hTables
  rw [hGranted.2, Function.update_idem] at hMaps
  constructor
  · exact hTables
  · intro l hl
    have hNe : l ≠ k := by
      rintro rfl
      rw [hq] at hl
      cases hl
    rw [hMaps, Function.update_of_ne hNe, hl]
  · intro l r hr
    rw [hMaps]
    by_cases hl : l = k
    · subst hl
      rw [Function.update_self]
      obtain rfl := Option.some.inj (hq.symm.trans hr)
      exact ⟨b.msg, rfl, hMsg⟩
    · rw [Function.update_of_ne hl]
      exact ⟨r, hr, rfl⟩
  · exact hBudget

/-- The grant of a selected candidate. -/
theorem tryIssueCreditGrant_of_selected {s : CbReceiver} {order : List Nat} {c : GrantCandidate}
    {data wire : Nat}
    (hSelected : (s.selectCandidate cfg (s.candidates order)).1 = some (c, data, wire)) :
    ∃ st q cursor, s.senderStates.get? c.senderAddr = some st ∧ c.key ∈ st.msgStates ∧
      s.rxQpMap c.key = some q ∧ c.msgPendingDataBytes = q.pendingDemandBytes ∧
      s.trySelectCandidate cfg c = some (c, data, wire) ∧
      s.tryIssueCreditGrant cfg order =
        ({ s with grantRrCursor := cursor }.granted c.senderAddr c.key
          (Account.grant ⟨st, q, s.globalOutstandingBytes⟩ data wire),
          some (grantPacket c.key q data wire)) := by
  obtain ⟨hMem, hTry⟩ := selectCandidate_spec hSelected
  obtain ⟨st, q, hst, hk, hq, hPending, -⟩ := mem_candidates hMem
  refine ⟨st, q, (s.selectCandidate cfg (s.candidates order)).2, hst, hk, hq, hPending, hTry, ?_⟩
  unfold tryIssueCreditGrant
  rw [if_neg (List.ne_nil_of_mem hMem)]
  simp only [hSelected, hst, hq]
  rfl

/-- The receiver in which a grant is bounced right after it was issued. -/
theorem restores_of_bounced {s t : CbReceiver} {k : RxKey} {st : SenderState} {q : RxQueuePair}
    {data wire cursor : Nat} (hst : s.senderStates.get? k.dip = some st) (hOn : st.enabled = true)
    (hk : k ∈ st.msgStates) (hq : s.rxQpMap k = some q)
    (hGranted : t = { s with grantRrCursor := cursor }.granted k.dip k
      (Account.grant ⟨st, q, s.globalOutstandingBytes⟩ data wire))
    (hHolds : Account.Holds ⟨st, q, s.globalOutstandingBytes⟩ data wire) (hWire : wire < 2 ^ 32)
    (hData : Account.bouncedData (grantPacket k q data wire).tag = data) :
    Restores s (t.receive cfg (grantPacket k q data wire).bounced).1 := by
  have hTag : (grantPacket k q data wire).tag.creditBytes = wire := Nat.mod_eq_of_lt hWire
  have hUndone : (Account.grant ⟨st, q, s.globalOutstandingBytes⟩ data wire).bounce
      (grantPacket k q data wire).bounced.tag = ⟨st, q, s.globalOutstandingBytes⟩ := by
    have hBack := @Account.bounce_grant _ _ (grantPacket k q data wire).bounced.tag
      (hTag.symm ▸ hHolds) hData
    rwa [show (grantPacket k q data wire).bounced.tag.creditBytes = wire from hTag] at hBack
  have hOpen : t.openAccount k
      (Account.grant ⟨st, q, s.globalOutstandingBytes⟩ data wire).msg =
      Account.grant ⟨st, q, s.globalOutstandingBytes⟩ data wire := by
    have hEntry : t.senderStates.get? k.dip =
        some (Account.grant ⟨st, q, s.globalOutstandingBytes⟩ data wire).sender := by
      rw [hGranted]
      exact Table.get?_set_self _ _ _
    rw [openAccount_of_listed hEntry hOn hk, hGranted]
    rfl
  have hFound : t.rxQpMap k =
      some (Account.grant ⟨st, q, s.globalOutstandingBytes⟩ data wire).msg := by
    rw [hGranted]
    exact rxQpMap_granted_self _ _ _ _
  rw [receive_of_bounced cfg t rfl]
  unfold receiveBouncedCredit
  simp only [rxKey_bounced_grantPacket, hFound]
  obtain ⟨running, hEq⟩ := scheduleGrantTickFor_eq
    (t.post k { (⟨st, q, s.globalOutstandingBytes⟩ : Account) with msg := q.scheduleResend }) st
  rw [hOpen, hUndone, hEq]
  apply restores_of_posted hst hq (a := Account.grant ⟨st, q, s.globalOutstandingBytes⟩ data wire)
    (b := ⟨st, q.scheduleResend, s.globalOutstandingBytes⟩) (t := t)
  · rw [hGranted]
    exact ⟨rfl, rfl⟩
  · exact ⟨rfl, rfl⟩
  · rfl
  · obtain ⟨running, hResend⟩ := q.scheduleResend_eq
    show q.scheduleResend = { q with resendRunning := q.scheduleResend.resendRunning }
    rw [hResend]
  · rfl

/-- If a grant is issued and comes back bounced, then the receiver is as before: all senders with
their pending demand, outstanding credit and pair budget, all messages with their pending demand and
what is granted of it, and the global counter. The sender decodes the payload that was granted. -/
theorem grant_then_bounce {s : CbReceiver} (hReachable : (cbReceiver cfg).Reachable s)
    (hCaps : s.WithinCaps) (order : List Nat) {c : GrantCandidate} {data wire : Nat}
    (hSelected : (s.selectCandidate cfg (s.candidates order)).1 = some (c, data, wire))
    (hPad : wire - (data + 68) < 2 ^ 16) :
    ∃ t g st q cursor, s.tryIssueCreditGrant cfg order = (t, some g) ∧
      s.senderStates.get? c.senderAddr = some st ∧ s.rxQpMap c.key = some q ∧
      t = { s with grantRrCursor := cursor }.granted c.senderAddr c.key
        (Account.grant ⟨st, q, s.globalOutstandingBytes⟩ data wire) ∧
      Restores s (t.receive cfg g.bounced).1 ∧
      ∀ (tx : CbSender) (qp : QueuePair), tx.qpMap ⟨g.ch.dport, g.ch.pg⟩ = some qp →
        ∃ r, (tx.receiveGrant g).receiverStates.get? qp.dip = some r ∧
          r.availCreditBytes =
            addU64 (tx.getOrCreateReceiverState qp.dip ⟨g.ch.dport, g.ch.pg⟩).availCreditBytes wire ∧
          r.availCreditDataBytes =
            addU64 (tx.getOrCreateReceiverState qp.dip ⟨g.ch.dport, g.ch.pg⟩).availCreditDataBytes
              data := by
  obtain ⟨st, q, cursor, hst, hk, hq, hPending, hTry, hIssued⟩ :=
    tryIssueCreditGrant_of_selected hSelected
  obtain ⟨hHolds, hWire, hCost⟩ := hCaps.holds hTry hst hq hPending
  have hData := bouncedData_grantPacket c.key q hWire hCost hPad
  have hInv := Machine.reachable_induction (I := fun s : CbReceiver => s.Enabled ∧ s.Listed)
    ⟨enabled_init, listed_init⟩ (fun _ _ _ h hStep => ⟨h.1.step h.2 hStep, h.2.step hStep⟩) hReachable
  have hAddr : c.key.dip = c.senderAddr := by
    apply (hInv.2.known c.senderAddr c.key _).1
    unfold msgsOf
    rw [hst]
    exact hk
  refine ⟨_, _, st, q, cursor, hIssued, hst, hq, rfl, ?_, ?_⟩
  · rw [← hAddr] at hst ⊢
    exact restores_of_bounced hst (hInv.1 _ _ hst) hk hq rfl hHolds hWire hData
  · intro tx qp hQp
    obtain ⟨r, hr, hCredit, hPayload⟩ := receiveGrant_receiverStates hQp
    refine ⟨r, hr, hCredit.trans ?_, hPayload.trans ?_⟩
    · rw [show (grantPacket c.key q data wire).tag.creditBytes = wire from Nat.mod_eq_of_lt hWire]
    · rw [hData]

/-- The first announcement of the sender 11, for 1500 bytes. -/
def firstRequest : CbPacket where
  ch := { sip := 11, dip := 1, l3Prot := 0xFB, sport := 7, dport := 100, pg := 3, seq := 0 }
  tag := { type := .grantReq, creditReqBytes := 1500 }

/-- The receiver that has got it. -/
def firstAnnounced : CbReceiver := (({} : CbReceiver).receive {} firstRequest).1

theorem withinCaps_firstAnnounced : firstAnnounced.WithinCaps := by
  have hStep : ({} : CbReceiver).step {} (.arrive firstRequest) = some firstAnnounced := rfl
  have hSenders : ∀ addr ∈ firstAnnounced.senderStates.keys,
      (firstAnnounced.senderStates.val addr).srpbBytes ≤
          (firstAnnounced.senderStates.val addr).aimd.maxSrpbBytes ∧
        (firstAnnounced.senderStates.val addr).aimd.maxSrpbBytes < 2 ^ 32 ∧
        (firstAnnounced.senderStates.val addr).outstandingDataBytes +
          (firstAnnounced.senderStates.val addr).pendingDemandDataBytes < 2 ^ 64 := by
    decide +kernel
  constructor
  · intro addr st hst
    obtain ⟨hAddr, rfl⟩ := Table.get?_eq_some.mp hst
    exact ⟨(hSenders addr hAddr).1, (hSenders addr hAddr).2.1⟩
  · intro addr st hst
    obtain ⟨hAddr, rfl⟩ := Table.get?_eq_some.mp hst
    exact (hSenders addr hAddr).2.2
  · intro k q hq
    cases msgAfter_step hStep hq with
    | kept _ _ hOld => cases hOld
    | completed p hData hKey hDone => cases hData.1
    | data p hData hKey hOpen => cases hData.1
    | request p hRequest hKey => decide +kernel
    | bounced p q' hBounced hKey hOld => cases hBounced
  · decide +kernel

/-- The first grant, of one chunk, comes back bounced. -/
theorem grant_then_bounce_first : ∃ t g,
    firstAnnounced.tryIssueCreditGrant {} [11] = (t, some g) ∧ g.tag.creditBytes = 1534 ∧
      Restores firstAnnounced (t.receive {} g.bounced).1 := by
  have hReachable : (cbReceiver {}).Reachable firstAnnounced := ⟨[.arrive firstRequest], rfl⟩
  have hSelected : (firstAnnounced.selectCandidate {} (firstAnnounced.candidates [11])).1 =
      some (⟨11, ⟨11, 3, 7⟩, 1500, -1⟩, 1466, 1534) := by decide +kernel
  obtain ⟨t, g, st, q, cursor, hIssued, -, -, -, hRestores, -⟩ :=
    grant_then_bounce hReachable withinCaps_firstAnnounced [11] hSelected (by decide)
  have hCredit : (firstAnnounced.tryIssueCreditGrant {} [11]).2.map (fun g => g.tag.creditBytes) =
      some 1534 := by decide +kernel
  rw [hIssued] at hCredit
  exact ⟨t, g, hIssued, Option.some.inj hCredit, hRestores⟩

end CbReceiver

end Dpdq.Ns3
