import Dpdq.Ns3.CbReceiverStep

/-!
# The message lists of the senders

`m_msgStates` of a sender holds receive QPs of its own address, each once, and among them all its
messages that are not complete. This holds in every reachable state (`listed_of_reachable`).
-/

namespace Dpdq.Ns3

open Dpdq.Lib

variable {cfg : CbConfig}

/-! ## Messages -/

namespace RxQueuePair

/-- The flags of a message: it asks for resends only before its completion, and it expects bytes
and completes only after its announcement. -/
structure Flags (q : RxQueuePair) : Prop where
  resend : q.resendRunning = true → q.completionNotified = false
  expected : q.announcementExpectedBytes > 0 → q.announcementAccounted = true
  announced : q.completionNotified = true → q.announcementAccounted = true

theorem Flags.scheduleResend {q : RxQueuePair} (h : q.Flags) : q.scheduleResend.Flags := by
  unfold RxQueuePair.scheduleResend
  split
  · exact h
  · rename_i hOpen
    refine ⟨fun _ => ?_, h.expected, h.announced⟩
    simpa using fun hDone => hOpen (Or.inl hDone)

theorem flags_newRxQp (p : CbPacket) : p.newRxQp.Flags := ⟨nofun, nofun, nofun⟩

/-- `r` has the pending demand and the flags of `q`. -/
structure Alike (q r : RxQueuePair) : Prop where
  pendingDemandBytes : r.pendingDemandBytes = q.pendingDemandBytes
  announcementAccounted : r.announcementAccounted = q.announcementAccounted
  completionNotified : r.completionNotified = q.completionNotified
  resendRunning : r.resendRunning = q.resendRunning
  announcementExpectedBytes : r.announcementExpectedBytes = q.announcementExpectedBytes

theorem Alike.refl (q : RxQueuePair) : q.Alike q := ⟨rfl, rfl, rfl, rfl, rfl⟩

theorem Alike.trans {q r t : RxQueuePair} (h : q.Alike r) (h' : r.Alike t) : q.Alike t :=
  ⟨h'.1.trans h.1, h'.2.trans h.2, h'.3.trans h.3, h'.4.trans h.4, h'.5.trans h.5⟩

theorem Alike.flags {q r : RxQueuePair} (h : q.Alike r) (hq : q.Flags) : r.Flags := by
  constructor
  · intro hRunning
    rw [h.completionNotified]
    exact hq.resend (h.resendRunning ▸ hRunning)
  · intro hExpected
    rw [h.announcementAccounted]
    exact hq.expected (h.announcementExpectedBytes ▸ hExpected)
  · intro hDone
    rw [h.announcementAccounted]
    exact hq.announced (h.completionNotified ▸ hDone)

theorem alike_markChunk (cfg : CbConfig) (q : RxQueuePair) (seq : Nat) :
    q.Alike (q.markChunk cfg seq) := by
  unfold markChunk
  split
  · exact Alike.refl q
  · split
    · exact ⟨rfl, rfl, rfl, rfl, rfl⟩
    · exact Alike.refl q

theorem alike_learnFlowId (q : RxQueuePair) (flowId : Option Int) :
    q.Alike (q.learnFlowId flowId) := by
  unfold learnFlowId
  split
  · exact ⟨rfl, rfl, rfl, rfl, rfl⟩
  · exact Alike.refl q

theorem alike_countPayload (q : RxQueuePair) (seq payloadSize : Nat) :
    q.Alike (q.countPayload cfg seq payloadSize) := by
  unfold countPayload
  split
  · exact ⟨rfl, rfl, rfl, rfl, rfl⟩
  · exact Alike.refl q

end RxQueuePair

namespace Account

theorem flags_applyNewAnnouncement {a : Account} (h : a.msg.Flags) (tag : CreditBouncerTag) :
    (a.applyNewAnnouncement cfg tag).msg.Flags := by
  unfold applyNewAnnouncement
  split
  · apply RxQueuePair.Flags.scheduleResend
    split
    · exact ⟨nofun, fun _ => rfl, fun _ => rfl⟩
    · exact ⟨nofun, fun _ => rfl, fun _ => rfl⟩
  · exact h

theorem flags_countArrival {a : Account} (h : a.msg.Flags) (p : CbPacket) :
    (a.countArrival cfg p).msg.Flags := by
  unfold countArrival
  simp only
  split
  · exact flags_applyNewAnnouncement (a := a.updateAimd cfg p _) h p.tag
  · exact flags_applyNewAnnouncement h p.tag

theorem flags_countRequest {a : Account} (h : a.msg.Flags) (p : CbPacket) :
    (a.countRequest cfg p).msg.Flags := by
  unfold countRequest
  simp only
  split
  · exact flags_applyNewAnnouncement (a := a.updateAimd cfg p _) h p.tag
  · exact flags_applyNewAnnouncement h p.tag

/-- A chunk leaves the demand and the flags of its message alone. -/
theorem alike_receiveChunk (cfg : CbConfig) (a : Account) (p : CbPacket) :
    a.msg.Alike (a.receiveChunk cfg p).msg := by
  have hMark := a.msg.alike_markChunk cfg p.ch.seq
  have hLearn := hMark.trans ((a.msg.markChunk cfg p.ch.seq).alike_learnFlowId p.flowId)
  unfold receiveChunk
  by_cases hFirst : a.msg.firstSeenChunk cfg p.ch.seq
  · simp only [hFirst, if_true]
    exact hLearn.trans (RxQueuePair.alike_countPayload _ _ _)
  · simp only [hFirst]
    exact hLearn

theorem countArrival_msg_of_old (cfg : CbConfig) {a : Account} {p : CbPacket}
    (hOld : ¬ a.isNewAnnouncement p.tag) : (a.countArrival cfg p).msg = a.msg := by
  have hMarked : ¬ (a.updateAimd cfg p p.tag.priorityFlow).isNewAnnouncement p.tag := hOld
  unfold countArrival applyNewAnnouncement
  by_cases hCc : cfg.ccEnable
  · simp only [hCc, if_true]
    rw [if_neg hMarked]
    rfl
  · simp only [hCc]
    exact congrArg Account.msg (if_neg hOld)

theorem flags_receiveData {a : Account} (h : a.msg.Flags) (p : CbPacket) :
    (a.receiveData cfg p).msg.Flags :=
  (alike_receiveChunk cfg (a.countArrival cfg p) p).flags (flags_countArrival h p)

theorem applyNewAnnouncement_msgStates (a : Account) (tag : CreditBouncerTag) :
    (a.applyNewAnnouncement cfg tag).sender.msgStates = a.sender.msgStates := by
  unfold applyNewAnnouncement
  split
  · simp only
    split
    · rfl
    · rfl
  · rfl

theorem updateAimd_msgStates (a : Account) (p : CbPacket) (priorityFlow : Bool) :
    (a.updateAimd cfg p priorityFlow).sender.msgStates = a.sender.msgStates :=
  (SenderState.updateAimdOnData_ledger cfg a.sender _ _ _).2.2

theorem countArrival_msgStates (a : Account) (p : CbPacket) :
    (a.countArrival cfg p).sender.msgStates = a.sender.msgStates := by
  unfold countArrival
  simp only
  split
  · rw [applyNewAnnouncement_msgStates, updateAimd_msgStates]
  · rw [applyNewAnnouncement_msgStates]

theorem countRequest_msgStates (a : Account) (p : CbPacket) :
    (a.countRequest cfg p).sender.msgStates = a.sender.msgStates := by
  unfold countRequest
  simp only
  split
  · rw [applyNewAnnouncement_msgStates, updateAimd_msgStates]
  · rw [applyNewAnnouncement_msgStates]

theorem receiveData_msgStates (a : Account) (p : CbPacket) :
    (a.receiveData cfg p).sender.msgStates = a.sender.msgStates := by
  rw [← a.countArrival_msgStates p]
  unfold receiveData receiveChunk
  simp only
  split
  · rfl
  · rfl

end Account

/-! ## States -/

namespace CbReceiver

/-- The messages listed for an address. -/
def msgsOf (s : CbReceiver) (addr : Nat) : List RxKey :=
  (s.senderStates.get? addr).elim [] SenderState.msgStates

/-- The messages listed for the address of `k` once `k` is among them. -/
def listedWith (s : CbReceiver) (k : RxKey) : List RxKey :=
  if k ∈ s.msgsOf k.dip then s.msgsOf k.dip else s.msgsOf k.dip ++ [k]

structure Listed (s : CbReceiver) : Prop where
  nodup : ∀ addr, (s.msgsOf addr).Nodup
  known : ∀ addr, ∀ k ∈ s.msgsOf addr, k.dip = addr ∧ s.rxQpMap k ≠ none
  unfinished : ∀ k q, s.rxQpMap k = some q → q.completionNotified = false → k ∈ s.msgsOf k.dip
  flags : ∀ k q, s.rxQpMap k = some q → q.Flags

theorem getOrCreateSenderState_msgStates (s : CbReceiver) (k : RxKey) :
    (s.getOrCreateSenderState k).msgStates = s.listedWith k := by
  unfold getOrCreateSenderState SenderState.listMessage listedWith msgsOf
  cases s.senderStates.get? k.dip with
  | none => simp
  | some st =>
    by_cases hk : k ∈ st.msgStates
    · simp [hk]
    · simp [hk]

theorem mem_listedWith {s : CbReceiver} {k l : RxKey} :
    l ∈ s.listedWith k ↔ l ∈ s.msgsOf k.dip ∨ l = k := by
  unfold listedWith
  split
  · rename_i hk
    constructor
    · exact Or.inl
    · rintro (hl | rfl)
      · exact hl
      · exact hk
  · simp

theorem Listed.nodup_listedWith {s : CbReceiver} (h : s.Listed) (k : RxKey) :
    (s.listedWith k).Nodup := by
  unfold listedWith
  split
  · exact h.nodup k.dip
  · rename_i hk
    rw [List.nodup_append]
    refine ⟨h.nodup k.dip, List.nodup_singleton k, ?_⟩
    intro l hl m hm hEq
    rw [List.mem_singleton.mp hm] at hEq
    exact hk (hEq ▸ hl)

theorem msgsOf_set (s t : CbReceiver) {addr : Nat} {st : SenderState}
    (ht : t.senderStates = s.senderStates.set addr st) (other : Nat) :
    t.msgsOf other = if other = addr then st.msgStates else s.msgsOf other := by
  unfold msgsOf
  rw [ht]
  split
  · rename_i hEq
    rw [hEq, Table.get?_set_self]
    rfl
  · rename_i hNe
    rw [Table.get?_set_of_ne _ _ hNe]

/-- Storing a message and the list of its sender. -/
theorem Listed.store {s t : CbReceiver} (h : s.Listed) {k : RxKey} {q : RxQueuePair}
    (hMap : t.rxQpMap = Function.update s.rxQpMap k (some q)) (hFlags : q.Flags)
    (hMsgs : ∀ addr, t.msgsOf addr = if addr = k.dip then s.listedWith k else s.msgsOf addr) :
    t.Listed := by
  have hKept (l : RxKey) (hl : s.rxQpMap l ≠ none) : t.rxQpMap l ≠ none := by
    rw [hMap]
    by_cases hEq : l = k
    · rw [hEq, Function.update_self]
      exact Option.some_ne_none q
    · rw [Function.update_of_ne hEq]
      exact hl
  constructor
  · intro addr
    rw [hMsgs]
    split
    · exact h.nodup_listedWith k
    · exact h.nodup addr
  · intro addr l hl
    rw [hMsgs] at hl
    split at hl
    · rename_i hAddr
      rcases mem_listedWith.mp hl with hOld | rfl
      · obtain ⟨hDip, hSome⟩ := h.known k.dip l hOld
        exact ⟨hDip.trans hAddr.symm, hKept l hSome⟩
      · refine ⟨hAddr.symm, ?_⟩
        rw [hMap, Function.update_self]
        exact Option.some_ne_none q
    · obtain ⟨hDip, hSome⟩ := h.known addr l hl
      exact ⟨hDip, hKept l hSome⟩
  · intro l r hr hOpen
    rw [hMsgs]
    by_cases hEq : l = k
    · rw [if_pos (by rw [hEq])]
      exact mem_listedWith.mpr (Or.inr hEq)
    · rw [hMap, Function.update_of_ne hEq] at hr
      have hOld := h.unfinished l r hr hOpen
      split
      · rename_i hDip
        exact mem_listedWith.mpr (Or.inl (hDip ▸ hOld))
      · exact hOld
  · intro l r hr
    rw [hMap] at hr
    by_cases hEq : l = k
    · rw [hEq, Function.update_self] at hr
      exact Option.some.inj hr ▸ hFlags
    · rw [Function.update_of_ne hEq] at hr
      exact h.flags l r hr

theorem Listed.post {s : CbReceiver} (h : s.Listed) {k : RxKey} {a : Account}
    (hFlags : a.msg.Flags) (hMsgs : a.sender.msgStates = s.listedWith k) :
    (s.post k a).Listed := by
  apply h.store (q := a.msg) (k := k) rfl hFlags
  intro addr
  rw [msgsOf_set s (s.post k a) rfl, hMsgs]

theorem listedWith_eq {s : CbReceiver} {k : RxKey} (hk : k ∈ s.msgsOf k.dip) :
    s.listedWith k = s.msgsOf k.dip := if_pos hk

/-! ### Arrivals -/

theorem getRxQp_lookup (s : CbReceiver) (p : CbPacket) :
    (s.getRxQp cfg p).1.rxQpMap p.rxKey = some (s.getRxQp cfg p).2 := by
  rcases getRxQp_cases cfg s p with ⟨q, hq, hEq⟩ | ⟨-, st, -, -, -, hEq⟩
  · rw [hEq]
    exact hq
  · rw [hEq]
    exact Function.update_self _ _ _

theorem Listed.getRxQp (cfg : CbConfig) {s : CbReceiver} (h : s.Listed) (p : CbPacket) :
    (s.getRxQp cfg p).1.Listed := by
  rcases getRxQp_cases cfg s p with ⟨q, -, hEq⟩ | ⟨-, st, -, -, hMsgs, hEq⟩
  · rw [hEq]
    exact h
  · rw [hEq]
    apply h.store (q := p.newRxQp) (k := p.rxKey) rfl (RxQueuePair.flags_newRxQp p)
    intro addr
    rw [msgsOf_set s _ rfl, hMsgs, getOrCreateSenderState_msgStates]

theorem Listed.flags_accountOf (cfg : CbConfig) {s : CbReceiver} (h : s.Listed) (p : CbPacket) :
    (s.accountOf cfg p).msg.Flags :=
  (h.getRxQp cfg p).flags p.rxKey _ (getRxQp_lookup s p)

/-- A message with a new announcement is not complete. -/
theorem Listed.unfinished_of_new (cfg : CbConfig) {s : CbReceiver} (h : s.Listed) {p : CbPacket}
    (hNew : (s.accountOf cfg p).isNewAnnouncement p.tag) :
    (s.accountOf cfg p).msg.completionNotified = false := by
  have hFlags := h.flags_accountOf cfg p
  unfold Account.isNewAnnouncement at hNew
  simp only [decide_eq_true_eq, Bool.not_eq_true'] at hNew
  by_contra hDone
  rw [Bool.not_eq_false] at hDone
  rw [hFlags.announced hDone] at hNew
  exact absurd hNew.2 nofun

/-- A message that completes was not complete before. -/
theorem Listed.unfinished_of_completes (cfg : CbConfig) {s : CbReceiver} (h : s.Listed)
    {p : CbPacket} (hCompletes : ((s.accountOf cfg p).receiveData cfg p).msg.completes) :
    (s.accountOf cfg p).msg.completionNotified = false := by
  by_cases hNew : (s.accountOf cfg p).isNewAnnouncement p.tag
  · exact h.unfinished_of_new cfg hNew
  · have hAlike := Account.alike_receiveChunk cfg ((s.accountOf cfg p).countArrival cfg p) p
    rw [← Account.countArrival_msg_of_old cfg hNew, ← hAlike.completionNotified]
    unfold RxQueuePair.completes at hCompletes
    simp only [decide_eq_true_eq, Bool.not_eq_true'] at hCompletes
    exact hCompletes.1

theorem openAccount_msgStates (s : CbReceiver) (k : RxKey) (q : RxQueuePair) :
    (s.openAccount k q).sender.msgStates = s.listedWith k := getOrCreateSenderState_msgStates s k

theorem msgsOf_cleanupSenderState (s : CbReceiver) (k : RxKey) (addr : Nat) :
    (s.cleanupSenderState k).msgsOf addr =
      if addr = k.dip then (s.msgsOf k.dip).filter (· ≠ k) else s.msgsOf addr := by
  unfold cleanupSenderState
  cases hst : s.senderStates.get? k.dip with
  | none =>
    simp only [msgsOf]
    split
    · rename_i hEq
      rw [hEq, hst]
      rfl
    · rfl
  | some st =>
    have hOld : s.msgsOf k.dip = st.msgStates := by
      unfold msgsOf
      rw [hst]
      rfl
    simp only
    split
    · rename_i hLast
      unfold msgsOf at hOld ⊢
      simp only
      split
      · rename_i hEq
        rw [hEq, Table.get?_erase_self, hOld, hLast]
        rfl
      · rename_i hNe
        rw [Table.get?_erase_of_ne _ hNe]
    · rw [msgsOf_set s _ rfl, hOld]

theorem cleanupSenderState_rxQpMap (s : CbReceiver) (k : RxKey) :
    (s.cleanupSenderState k).rxQpMap = s.rxQpMap := by
  unfold cleanupSenderState
  split
  · rfl
  · simp only
    split
    · rfl
    · rfl

/-- A complete message may leave its list. -/
theorem Listed.cleanupSenderState {s : CbReceiver} (h : s.Listed) {k : RxKey}
    (hDone : ∀ q, s.rxQpMap k = some q → q.completionNotified = true) :
    (s.cleanupSenderState k).Listed := by
  constructor
  · intro addr
    rw [msgsOf_cleanupSenderState]
    split
    · exact (h.nodup k.dip).filter _
    · exact h.nodup addr
  · intro addr l hl
    rw [cleanupSenderState_rxQpMap]
    rw [msgsOf_cleanupSenderState] at hl
    split at hl
    · rename_i hAddr
      rw [hAddr]
      exact h.known k.dip l (List.mem_of_mem_filter hl)
    · exact h.known addr l hl
  · intro l q hq hOpen
    rw [cleanupSenderState_rxQpMap] at hq
    have hOld := h.unfinished l q hq hOpen
    rw [msgsOf_cleanupSenderState]
    split
    · rename_i hDip
      rw [List.mem_filter]
      refine ⟨hDip ▸ hOld, ?_⟩
      rw [decide_eq_true_eq]
      rintro rfl
      rw [hDone q hq] at hOpen
      cases hOpen
    · exact hOld
  · intro l q hq
    rw [cleanupSenderState_rxQpMap] at hq
    exact h.flags l q hq

theorem Listed.postData {s : CbReceiver} (h : s.Listed) {k : RxKey} {a : Account}
    (hFlags : a.msg.Flags) (hMsgs : a.sender.msgStates = s.listedWith k) :
    (s.postData k a).Listed := by
  unfold CbReceiver.postData
  split
  · rename_i hCompletes
    have hAnnounced : a.msg.announcementAccounted = true := by
      unfold RxQueuePair.completes at hCompletes
      simp only [decide_eq_true_eq] at hCompletes
      exact hFlags.expected hCompletes.2.1
    apply Listed.cleanupSenderState
    · exact h.post ⟨nofun, fun _ => hAnnounced, fun _ => hAnnounced⟩ hMsgs
    · intro q hq
      have hStored : some a.msg.notifyCompletion = some q :=
        (Function.update_self k _ s.rxQpMap).symm.trans hq
      obtain rfl := Option.some.inj hStored
      rfl
  · exact h.post hFlags.scheduleResend hMsgs

theorem Listed.congr {s t : CbReceiver} (h : s.Listed) (hStates : t.senderStates = s.senderStates)
    (hMap : t.rxQpMap = s.rxQpMap) : t.Listed := by
  have hMsgs (addr : Nat) : t.msgsOf addr = s.msgsOf addr := by
    unfold msgsOf
    rw [hStates]
  constructor
  · intro addr
    rw [hMsgs]
    exact h.nodup addr
  · intro addr k hk
    rw [hMsgs] at hk
    rw [hMap]
    exact h.known addr k hk
  · intro k q hq hOpen
    rw [hMap] at hq
    rw [hMsgs]
    exact h.unfinished k q hq hOpen
  · intro k q hq
    rw [hMap] at hq
    exact h.flags k q hq

theorem Listed.scheduleGrantTickFor {s : CbReceiver} (h : s.Listed) (st : SenderState) :
    (s.scheduleGrantTickFor st).Listed := by
  obtain ⟨running, hEq⟩ := s.scheduleGrantTickFor_eq st
  rw [hEq]
  exact h.congr rfl rfl

theorem Listed.receive {s : CbReceiver} (h : s.Listed) (p : CbPacket) :
    (s.receive cfg p).1.Listed := by
  have hRx : (s.getRxQp cfg p).1.Listed := h.getRxQp cfg p
  have hFlags := h.flags_accountOf cfg p
  have hMsgs : (s.accountOf cfg p).sender.msgStates = (s.getRxQp cfg p).1.listedWith p.rxKey :=
    openAccount_msgStates _ _ _
  have hRequest : (s.receiveRequest cfg p).Listed := by
    apply Listed.scheduleGrantTickFor
    apply hRx.post (Account.flags_countRequest hFlags p)
    exact (Account.countRequest_msgStates _ p).trans hMsgs
  unfold CbReceiver.receive
  split
  · split
    · apply Listed.scheduleGrantTickFor
      apply hRx.postData (Account.flags_receiveData hFlags p)
      exact (Account.receiveData_msgStates _ p).trans hMsgs
    · split
      · exact hRequest
      · exact h
  · exact hRequest
  · unfold receiveBouncedCredit
    cases hq : s.rxQpMap p.rxKey with
    | none =>
      simp only [hq]
      exact h
    | some q =>
      simp only [hq]
      apply Listed.scheduleGrantTickFor
      apply h.post
      · apply RxQueuePair.Flags.scheduleResend
        have hOld := h.flags p.rxKey q hq
        exact ⟨hOld.resend, hOld.expected, hOld.announced⟩
      · exact openAccount_msgStates s p.rxKey q
  · exact h

/-! ### Timers -/

/-- A candidate belongs to the sender whose list it is on. -/
theorem Listed.candidate {s : CbReceiver} (h : s.Listed) {order : List Nat} {c : GrantCandidate}
    (hc : c ∈ s.candidates order) :
    c.key.dip = c.senderAddr ∧ c.key ∈ s.msgsOf c.key.dip := by
  obtain ⟨st, q, hst, hk, -, -, -⟩ := mem_candidates hc
  have hListed : c.key ∈ s.msgsOf c.senderAddr := by
    unfold msgsOf
    rw [hst]
    exact hk
  obtain ⟨hDip, -⟩ := h.known c.senderAddr c.key hListed
  exact ⟨hDip, hDip ▸ hListed⟩

theorem Listed.tryIssueCreditGrant {s : CbReceiver} (h : s.Listed) (order : List Nat) :
    (s.tryIssueCreditGrant cfg order).1.Listed := by
  rcases tryIssueCreditGrant_cases cfg s order with
    ⟨cursor, hEq⟩ | ⟨c, hc, data, wire, st, q, cursor, -, hst, hq, hEq⟩
  · rw [hEq]
    exact h.congr rfl rfl
  · obtain ⟨hDip, hListed⟩ := h.candidate hc
    have hOld := h.flags c.key q hq
    rw [hEq]
    apply h.store (k := c.key)
      (q := { q with pendingDemandBytes := q.pendingDemandBytes - data }) rfl
      ⟨hOld.resend, hOld.expected, hOld.announced⟩
    intro addr
    rw [msgsOf_set s _ rfl, listedWith_eq hListed, hDip]
    simp only [msgsOf, hst]
    rfl

theorem Listed.handleResendTimeout {s : CbReceiver} (h : s.Listed) {k : RxKey} {q : RxQueuePair}
    (hq : s.rxQpMap k = some q) (hRunning : q.resendRunning = true) :
    (s.handleResendTimeout cfg k q).1.Listed := by
  have hOld := h.flags k q hq
  have hListed : k ∈ s.msgsOf k.dip := h.unfinished k q hq (hOld.resend hRunning)
  have hStopped (q' : RxQueuePair) (hAlike : { q with resendRunning := false }.Alike q') :
      q'.Flags := hAlike.flags ⟨nofun, hOld.expected, hOld.announced⟩
  have hSame (addr : Nat) :
      s.msgsOf addr = if addr = k.dip then s.listedWith k else s.msgsOf addr := by
    split
    · rename_i hEq
      rw [hEq, listedWith_eq hListed]
    · rfl
  unfold CbReceiver.handleResendTimeout
  simp only
  split
  · exact h.store rfl (hStopped _ (RxQueuePair.Alike.refl _)) hSame
  · have hTouched (addr : Nat) (t : CbReceiver) (ht : t.senderStates =
        s.senderStates.set k.dip (s.getOrCreateSenderState k)) :
        t.msgsOf addr = if addr = k.dip then s.listedWith k else s.msgsOf addr := by
      rw [msgsOf_set s t ht, getOrCreateSenderState_msgStates]
    split
    · exact h.store rfl (hStopped _ (RxQueuePair.Alike.refl _)) fun addr => hTouched addr _ rfl
    · apply h.store rfl _ fun addr => hTouched addr _ rfl
      have hLimit := hStopped { q with
        resendRunning := false
        grantedChunkLimit := grantedChunkLimit cfg { q with resendRunning := false } }
        ⟨rfl, rfl, rfl, rfl, rfl⟩
      split
      · exact hLimit.scheduleResend
      · exact hLimit

theorem Listed.step {s t : CbReceiver} (h : s.Listed) {e : Event} (hStep : s.step cfg e = some t) :
    t.Listed := by
  cases e with
  | arrive p =>
    obtain rfl := Option.some.inj hStep
    exact h.receive p
  | grantTick order =>
    obtain ⟨-, rfl⟩ := Machine.of_guarded hStep
    have hIdle : ({ s with grantTickRunning := false } : CbReceiver).Listed := h.congr rfl rfl
    obtain ⟨running, hEq⟩ := scheduleGrantTick_eq
      (({ s with grantTickRunning := false } : CbReceiver).tryIssueCreditGrant cfg order).1
    simp only [creditGrantTick, hEq]
    exact (hIdle.tryIssueCreditGrant order).congr rfl rfl
  | resendTimeout k =>
    obtain ⟨q, hq, hRunning, rfl⟩ := resendTimeout_eq_some hStep
    exact h.handleResendTimeout hq hRunning

theorem listed_init : ({} : CbReceiver).Listed :=
  ⟨fun _ => List.nodup_nil, fun _ _ hk => absurd hk List.not_mem_nil, nofun, nofun⟩

end CbReceiver

theorem listed_of_reachable {s : CbReceiver} (h : (cbReceiver cfg).Reachable s) : s.Listed :=
  Machine.reachable_induction CbReceiver.listed_init (fun _ _ _ hs hStep => hs.step hStep) h

end Dpdq.Ns3
