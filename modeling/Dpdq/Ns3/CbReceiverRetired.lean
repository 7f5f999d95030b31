import Dpdq.Ns3.CbReceiverChunks

/-!
# Completed messages

The completion takes a message off the list of its sender, and only listed messages are granted or
ask for resends. Every branch of `ReceiveCreditBouncer` looks its sender up with
`GetOrCreateSenderState`, which lists the message of the packet, complete or not: a late packet of
a completed message puts it back, and nothing else does (`Retired.keeps_iff`).
-/

namespace Dpdq.Ns3

open Dpdq.Lib

variable {cfg : CbConfig}

/-- The receive QP that a control packet of the receiver is for. -/
def CbPacket.txKey (p : CbPacket) : RxKey := ⟨p.ch.dip, p.ch.pg, p.ch.dport⟩

namespace CbReceiver

/-- The packets that a step sends: a GRANT, or the RESENDs of a message. -/
def emitted (cfg : CbConfig) (s : CbReceiver) : Event → List CbPacket
  | .arrive _ => []
  | .grantTick order => (s.creditGrantTick cfg order).2.toList
  | .resendTimeout k =>
    match s.rxQpMap k with
    | none => []
    | some q => if q.resendRunning then (s.handleResendTimeout cfg k q).2 else []

/-! ## Packets -/

/-- A GRANT is for a candidate. -/
theorem tryIssueCreditGrant_packet {s : CbReceiver} {order : List Nat} {g : CbPacket}
    (h : (s.tryIssueCreditGrant cfg order).2 = some g) : ∃ c ∈ s.candidates order, g.txKey = c.key := by
  rcases tryIssueCreditGrant_spec cfg s order with
    ⟨cursor, hEq⟩ | ⟨c, hc, data, wire, st, q, cursor, -, -, -, hEq⟩
  · rw [hEq] at h
    cases h
  · rw [hEq] at h
    obtain rfl := Option.some.inj h
    exact ⟨c, hc, rfl⟩

/-- The RESENDs of a timer are for its message. -/
theorem handleResendTimeout_packets (s : CbReceiver) (k : RxKey) (q : RxQueuePair) :
    ∀ g ∈ (s.handleResendTimeout cfg k q).2, g.txKey = k := by
  intro g hg
  unfold handleResendTimeout at hg
  simp only at hg
  split at hg
  · exact absurd hg List.not_mem_nil
  · split at hg
    · exact absurd hg List.not_mem_nil
    · obtain ⟨run, -, rfl⟩ := List.mem_map.mp hg
      rfl

theorem candidates_listed {s : CbReceiver} {order : List Nat} {c : GrantCandidate}
    (hc : c ∈ s.candidates order) : c.key ∈ s.msgsOf c.senderAddr := by
  obtain ⟨st, q, hst, hk, -, -, -⟩ := mem_candidates hc
  unfold msgsOf
  rw [hst]
  exact hk

/-! ## Lists -/

theorem msgsOf_scheduleGrantTickFor (s : CbReceiver) (st : SenderState) (addr : Nat) :
    (s.scheduleGrantTickFor st).msgsOf addr = s.msgsOf addr := by
  obtain ⟨running, hEq⟩ := s.scheduleGrantTickFor_eq st
  rw [hEq]
  rfl

theorem msgsOf_post (s : CbReceiver) (k : RxKey) (a : Account) (addr : Nat) :
    (s.post k a).msgsOf addr = if addr = k.dip then a.sender.msgStates else s.msgsOf addr :=
  msgsOf_set s _ rfl addr

theorem msgsOf_getRxQp_of_ne (s : CbReceiver) (p : CbPacket) {addr : Nat} (h : addr ≠ p.rxKey.dip) :
    (s.getRxQp cfg p).1.msgsOf addr = s.msgsOf addr := by
  unfold msgsOf
  rw [get?_getRxQp_of_ne s p h]

/-- The account of a packet lists its message and what was listed. -/
theorem mem_accountOf_msgStates {s : CbReceiver} {p : CbPacket} {l : RxKey} :
    l ∈ (s.accountOf cfg p).sender.msgStates ↔ l ∈ s.msgsOf p.rxKey.dip ∨ l = p.rxKey := by
  have hMsgs : (s.accountOf cfg p).sender.msgStates = (s.getRxQp cfg p).1.listedWith p.rxKey :=
    openAccount_msgStates _ _ _
  rw [hMsgs, mem_listedWith]
  rcases getRxQp_cases cfg s p with ⟨q, -, hEq⟩ | ⟨-, st, -, -, hList, hEq⟩
  · rw [hEq]
  · rw [hEq, msgsOf_set s _ rfl, if_pos rfl, hList, getOrCreateSenderState_msgStates, mem_listedWith,
      or_assoc, or_self]

/-- What an arrival lists is its message and what was listed. -/
theorem mem_msgsOf_receive {s : CbReceiver} {p : CbPacket} {addr : Nat} {l : RxKey}
    (hl : l ∈ (s.receive cfg p).1.msgsOf addr) : l ∈ s.msgsOf addr ∨
      l = p.rxKey ∧ (IsData p ∨ IsRequest p ∨ p.tag.type = .bouncedCredit) := by
  have hPosted {m : CbReceiver} {a : Account} (hm : addr ≠ p.rxKey.dip → m.msgsOf addr = s.msgsOf addr)
      (ha : ∀ l ∈ a.sender.msgStates, l ∈ s.msgsOf p.rxKey.dip ∨ l = p.rxKey)
      (hl : l ∈ (m.post p.rxKey a).msgsOf addr) : l ∈ s.msgsOf addr ∨ l = p.rxKey := by
    rw [msgsOf_post] at hl
    split at hl
    · rename_i hAddr
      rw [hAddr]
      exact ha l hl
    · rename_i hAddr
      exact Or.inl (hm hAddr ▸ hl)
  have hFound (hAddr : addr ≠ p.rxKey.dip) : (s.getRxQp cfg p).1.msgsOf addr = s.msgsOf addr :=
    msgsOf_getRxQp_of_ne s p hAddr
  rcases receive_cases cfg s p with
    hEq | ⟨hData, hEq⟩ | ⟨hRequest, hEq⟩ | ⟨hBounced, q, hq, hEq⟩
  · rw [hEq] at hl
    exact Or.inl hl
  · rw [hEq] at hl
    unfold receiveRequestData at hl
    simp only [msgsOf_scheduleGrantTickFor] at hl
    have hList (l : RxKey) (hl : l ∈ ((s.accountOf cfg p).receiveData cfg p).sender.msgStates) :
        l ∈ s.msgsOf p.rxKey.dip ∨ l = p.rxKey := by
      rw [Account.receiveData_msgStates] at hl
      exact mem_accountOf_msgStates.mp hl
    refine Or.imp_right (fun hKey => ⟨hKey, Or.inl hData⟩) ?_
    unfold postData at hl
    split at hl
    · rw [msgsOf_cleanupSenderState] at hl
      split at hl
      · rename_i hAddr
        exact hPosted hFound hList (hAddr ▸ List.mem_of_mem_filter hl)
      · exact hPosted hFound hList hl
    · exact hPosted hFound hList hl
  · rw [hEq] at hl
    unfold receiveRequest at hl
    simp only [msgsOf_scheduleGrantTickFor] at hl
    refine Or.imp_right (fun hKey => ⟨hKey, Or.inr (Or.inl hRequest)⟩) (hPosted hFound ?_ hl)
    intro l hl
    rw [Account.countRequest_msgStates] at hl
    exact mem_accountOf_msgStates.mp hl
  · rw [hEq] at hl
    unfold receiveBouncedCredit at hl
    simp only [hq, msgsOf_scheduleGrantTickFor] at hl
    refine Or.imp_right (fun hKey => ⟨hKey, Or.inr (Or.inr hBounced)⟩)
      (hPosted (fun _ => rfl) ?_ hl)
    intro l hl
    have hSame : l ∈ s.listedWith p.rxKey := openAccount_msgStates s p.rxKey q ▸ hl
    exact mem_listedWith.mp hSame

/-- The message that a data packet completes is on no list. -/
theorem not_mem_msgsOf_of_completes (cfg : CbConfig) {s : CbReceiver} (hListed : s.Listed)
    {p : CbPacket} (hData : IsData p)
    (hDone : ((s.accountOf cfg p).receiveData cfg p).msg.completes) (addr : Nat) :
    p.rxKey ∉ (s.receive cfg p).1.msgsOf addr := by
  intro hl
  have hAfter : (s.receive cfg p).1.Listed := hListed.receive p
  have hAddr : p.rxKey.dip = addr := (hAfter.known addr _ hl).1
  rw [receive_of_data cfg s hData] at hl
  unfold receiveRequestData at hl
  simp only [msgsOf_scheduleGrantTickFor] at hl
  unfold postData at hl
  split at hl
  · rw [msgsOf_cleanupSenderState, if_pos hAddr.symm] at hl
    have hKept := (List.mem_filter.mp hl).2
    simp at hKept
  · rename_i hOpen
    exact hOpen hDone

/-- A step lists what was listed and the message of the packet that it takes. -/
theorem mem_msgsOf_step {s t : CbReceiver} (hListed : s.Listed) {e : Event}
    (hStep : s.step cfg e = some t) {addr : Nat} {l : RxKey} (hl : l ∈ t.msgsOf addr) :
    l ∈ s.msgsOf addr ∨ (∃ p, e = .arrive p ∧ l = p.rxKey ∧
      (IsData p ∨ IsRequest p ∨ p.tag.type = .bouncedCredit)) ∨
        ∃ q, s.rxQpMap l = some q ∧ q.completionNotified = false := by
  cases e with
  | arrive p =>
    obtain rfl := Option.some.inj hStep
    rcases mem_msgsOf_receive hl with hOld | ⟨hKey, hTaken⟩
    · exact Or.inl hOld
    · exact Or.inr (Or.inl ⟨p, rfl, hKey, hTaken⟩)
  | grantTick order =>
    left
    unfold msgsOf at hl ⊢
    cases hst : t.senderStates.get? addr with
    | none =>
      rw [hst] at hl
      exact absurd hl List.not_mem_nil
    | some st =>
      rw [hst, Option.elim_some] at hl
      cases senderAfter_step hStep hst with
      | kept _ _ hOld =>
        rw [hOld]
        exact hl
      | granted _ c data wire st' q hTry hAddr hOld =>
        rw [hOld]
        exact hl
  | resendTimeout k =>
    unfold msgsOf at hl ⊢
    cases hst : t.senderStates.get? addr with
    | none =>
      rw [hst] at hl
      exact absurd hl List.not_mem_nil
    | some st =>
      rw [hst, Option.elim_some] at hl
      cases senderAfter_step hStep hst with
      | kept _ _ hOld =>
        rw [hOld]
        exact Or.inl hl
      | touched _ q hq hRunning hAddr =>
        rw [getOrCreateSenderState_msgStates, mem_listedWith, hAddr] at hl
        rcases hl with hOld | rfl
        · exact Or.inl hOld
        · exact Or.inr (Or.inr ⟨q, hq, (hListed.flags l q hq).resend hRunning⟩)

/-! ## Steps -/

/-- Complete messages are on no list. -/
def Retired (s : CbReceiver) : Prop :=
  ∀ k q, s.rxQpMap k = some q → q.completionNotified = true → ∀ addr, k ∉ s.msgsOf addr

theorem retired_init : ({} : CbReceiver).Retired := nofun

/-- A packet that the receiver takes, of a message that is complete. -/
def Late (s : CbReceiver) : Event → Prop
  | .arrive p => ((p.tag.type = .request ∧ p.ch.l3Prot = 0x11) ∨
      (p.tag.type = .grantReq ∨ p.tag.type = .request ∧ p.ch.l3Prot = 0xFB) ∨
      p.tag.type = .bouncedCredit) ∧
    (s.rxQpMap p.rxKey).any RxQueuePair.completionNotified = true
  | _ => False

/-- A step leaves the complete messages alone: none is listed afterwards, has more demand pending
than before, or is sent a GRANT or a RESEND. -/
def LeavesRetired (cfg : CbConfig) (s : CbReceiver) (e : Event) : Prop :=
  ∀ k q, s.rxQpMap k = some q → q.completionNotified = true → ∀ t, s.step cfg e = some t →
    (∀ addr st, t.senderStates.get? addr = some st → k ∉ st.msgStates) ∧
      (∀ q', t.rxQpMap k = some q' → q'.pendingDemandBytes ≤ q.pendingDemandBytes) ∧
      ∀ g ∈ s.emitted cfg e, g.txKey ≠ k

/-- The packet finds its message complete. -/
theorem late_of_complete {s : CbReceiver} {p : CbPacket}
    (hTaken : IsData p ∨ IsRequest p ∨ p.tag.type = .bouncedCredit) {q : RxQueuePair}
    (hq : s.rxQpMap p.rxKey = some q) (hDone : q.completionNotified = true) : s.Late (.arrive p) :=
  ⟨hTaken, (Option.any_eq_true _ _).mpr ⟨q, hq, hDone⟩⟩

/-- A message that is complete after its announcement was counted was complete before. -/
theorem complete_of_announcement {a b : Account} {p : CbPacket}
    (hCases : a.isNewAnnouncement p.tag = false ∧ b.msg = a.msg ∨
      a.isNewAnnouncement p.tag = true ∧ ∃ pending, b.msg =
        { a.msg.announce cfg p.tag.creditReqBytes with pendingDemandBytes := pending }.scheduleResend)
    (hDone : b.msg.completionNotified = true) : a.msg.completionNotified = true := by
  rcases hCases with ⟨-, hOld⟩ | ⟨-, pending, hNew⟩
  · rw [← hOld]
    exact hDone
  · obtain ⟨running, hEq⟩ := RxQueuePair.scheduleResend_eq
      { a.msg.announce cfg p.tag.creditReqBytes with pendingDemandBytes := pending }
    rw [hNew, hEq] at hDone
    cases hDone

theorem late_of_account (cfg : CbConfig) {s : CbReceiver} {p : CbPacket}
    (hTaken : IsData p ∨ IsRequest p ∨ p.tag.type = .bouncedCredit)
    (hDone : (s.accountOf cfg p).msg.completionNotified = true) : s.Late (.arrive p) := by
  rcases accountOf_msg_cases cfg s p with hKnown | ⟨-, hNew⟩
  · exact late_of_complete hTaken hKnown hDone
  · rw [hNew] at hDone
    cases hDone

/-- Without late packets, a message that is complete after a step is not listed. -/
theorem Retired.step {s t : CbReceiver} (h : s.Retired) (hListed : s.Listed) {e : Event}
    (hLate : ¬ s.Late e) (hStep : s.step cfg e = some t) : t.Retired := by
  intro k q hq hDone addr hl
  -- A message that was complete before.
  have hStale (q' : RxQueuePair) (hq' : s.rxQpMap k = some q')
      (hDone' : q'.completionNotified = true) : False := by
    rcases mem_msgsOf_step hListed hStep hl with hOld | ⟨p, rfl, rfl, hTaken⟩ | ⟨r, hr, hOpen⟩
    · exact h k q' hq' hDone' addr hOld
    · exact hLate (late_of_complete hTaken hq' hDone')
    · obtain rfl := Option.some.inj (hq'.symm.trans hr)
      rw [hDone'] at hOpen
      cases hOpen
  cases msgAfter_step hStep hq with
  | kept _ _ hOld => exact hStale q hOld hDone
  | completed p hData hKey hCompletes =>
    subst hKey
    obtain rfl := Option.some.inj hStep
    exact not_mem_msgsOf_of_completes cfg hListed hData hCompletes addr hl
  | data p hData hKey hOpen =>
    subst hKey
    obtain ⟨running, hEq⟩ := RxQueuePair.scheduleResend_eq ((s.accountOf cfg p).receiveData cfg p).msg
    have hAlike := Account.alike_receiveChunk cfg ((s.accountOf cfg p).countArrival cfg p) p
    rw [hEq] at hDone
    apply hLate
    apply late_of_account cfg (Or.inl hData)
    apply complete_of_announcement (Account.countArrival_msg_cases cfg (s.accountOf cfg p) p)
    exact hAlike.completionNotified.symm.trans hDone
  | request p hRequest hKey =>
    subst hKey
    apply hLate
    apply late_of_account cfg (Or.inr (Or.inl hRequest))
    exact complete_of_announcement (Account.countRequest_msg_cases cfg (s.accountOf cfg p) p) hDone
  | bounced p q' hBounced hKey hOld =>
    obtain ⟨running, hEq⟩ := RxQueuePair.scheduleResend_eq ((s.openAccount k q').bounce p.tag).msg
    rw [hEq] at hDone
    exact hStale q' hOld hDone
  | granted order c q' data wire hc hTry hKey hOld => exact hStale q' hOld hDone
  | fired q' hOld hRunning =>
    obtain ⟨limit, running, hEq⟩ := resendMsg_eq cfg (s.getOrCreateSenderState k) q'
    rw [hEq] at hDone
    exact hStale q' hOld hDone

/-- A late packet lists its message. -/
theorem listed_of_late (cfg : CbConfig) {s : CbReceiver} (hListed : s.Listed) {p : CbPacket}
    (hLate : s.Late (.arrive p)) : ∃ st, (s.receive cfg p).1.senderStates.get? p.rxKey.dip = some st ∧
      p.rxKey ∈ st.msgStates := by
  obtain ⟨hTaken, hAny⟩ := hLate
  obtain ⟨q, hq, hDone⟩ := (Option.any_eq_true _ _).mp hAny
  have hMem : p.rxKey ∈ (s.accountOf cfg p).sender.msgStates :=
    mem_accountOf_msgStates.mpr (Or.inr rfl)
  rcases hTaken with hData | hRequest | hBounced
  · refine ⟨_, get?_receive_of_data cfg hData ?_, ?_⟩
    · intro hCompletes
      have hOpen := hListed.unfinished_of_completes cfg hCompletes
      rw [accountOf_of_known hq] at hOpen
      rw [show q.completionNotified = false from hOpen] at hDone
      cases hDone
    · rw [Account.receiveData_msgStates]
      exact hMem
  · refine ⟨_, get?_receive_of_request cfg hRequest, ?_⟩
    rw [Account.countRequest_msgStates]
    exact hMem
  · refine ⟨_, get?_receive_of_bounced cfg hBounced hq, ?_⟩
    rw [accountOf_of_known hq] at hMem
    exact hMem

/-- What a step sends is for messages that are not complete. -/
theorem Retired.emitted {s : CbReceiver} (h : s.Retired) (hListed : s.Listed) {e : Event} {k : RxKey}
    {q : RxQueuePair} (hq : s.rxQpMap k = some q) (hDone : q.completionNotified = true) :
    ∀ g ∈ s.emitted cfg e, g.txKey ≠ k := by
  intro g hg hKey
  cases e with
  | arrive p => exact absurd hg List.not_mem_nil
  | grantTick order =>
    have hGrant : ({ s with grantTickRunning := false }.tryIssueCreditGrant cfg order).2 = some g := by
      simpa [CbReceiver.emitted, creditGrantTick] using hg
    obtain ⟨c, hc, hFor⟩ := tryIssueCreditGrant_packet hGrant
    have hOn : c.key ∈ s.msgsOf c.senderAddr := candidates_listed hc
    rw [← hFor, hKey] at hOn
    exact h k q hq hDone c.senderAddr hOn
  | resendTimeout l =>
    unfold CbReceiver.emitted at hg
    cases hr : s.rxQpMap l with
    | none =>
      simp only [hr] at hg
      exact absurd hg List.not_mem_nil
    | some r =>
      simp only [hr] at hg
      split at hg
      · rename_i hRunning
        have hFor : l = k := (handleResendTimeout_packets s l r g hg).symm.trans hKey
        obtain rfl := Option.some.inj ((hFor ▸ hr).symm.trans hq)
        rw [(hListed.flags l r hr).resend hRunning] at hDone
        cases hDone
      · exact absurd hg List.not_mem_nil

/-- The steps that leave the complete messages alone are those that take no late packet. -/
theorem Retired.leaves_iff {s : CbReceiver} (h : s.Retired) (hListed : s.Listed) (e : Event) :
    s.LeavesRetired cfg e ↔ ¬ s.Late e := by
  constructor
  · intro hLeaves hLate
    cases e with
    | grantTick order => exact hLate
    | resendTimeout l => exact hLate
    | arrive p =>
      obtain ⟨q, hq, hDone⟩ := (Option.any_eq_true _ _).mp hLate.2
      obtain ⟨st, hst, hOn⟩ := listed_of_late cfg hListed hLate
      exact (hLeaves p.rxKey q hq hDone _ rfl).1 p.rxKey.dip st hst hOn
  · intro hLate k q hq hDone t hStep
    refine ⟨?_, ?_, h.emitted hListed hq hDone⟩
    · intro addr st hst hOn
      have hl : k ∈ t.msgsOf addr := by
        unfold msgsOf
        rw [hst]
        exact hOn
      rcases mem_msgsOf_step hListed hStep hl with hOld | ⟨p, rfl, rfl, hTaken⟩ | ⟨r, hr, hOpen⟩
      · exact h k q hq hDone addr hOld
      · exact hLate (late_of_complete hTaken hq hDone)
      · obtain rfl := Option.some.inj (hq.symm.trans hr)
        rw [hDone] at hOpen
        cases hOpen
    · intro q' hq'
      have hSame (r : RxQueuePair) (hr : s.rxQpMap k = some r) : r = q :=
        Option.some.inj (hr.symm.trans hq)
      cases msgAfter_step hStep hq' with
      | kept _ _ hOld => rw [hSame q' hOld]
      | completed p hData hKey hCompletes =>
        exact absurd (late_of_complete (Or.inl hData) (hKey ▸ hq) hDone) hLate
      | data p hData hKey hOpen =>
        exact absurd (late_of_complete (Or.inl hData) (hKey ▸ hq) hDone) hLate
      | request p hRequest hKey =>
        exact absurd (late_of_complete (Or.inr (Or.inl hRequest)) (hKey ▸ hq) hDone) hLate
      | bounced p r hBounced hKey hOld =>
        exact absurd (late_of_complete (Or.inr (Or.inr hBounced)) (hKey ▸ hq) hDone) hLate
      | granted order c r data wire hc hTry hKey hOld =>
        rw [hSame r hOld]
        exact Nat.sub_le _ _
      | fired r hOld hRunning =>
        obtain ⟨limit, running, hEq⟩ := resendMsg_eq cfg (s.getOrCreateSenderState k) r
        rw [hEq, hSame r hOld]

end CbReceiver

/-- All steps of a run leave the complete messages alone, exactly if none of them takes a packet of
a complete message. -/
theorem completed_messages_retired_iff (cfg : CbConfig) (es : List CbReceiver.Event) :
    (cbReceiver cfg).Guarded (CbReceiver.LeavesRetired cfg) {} es ↔
      (cbReceiver cfg).Guarded (fun s e => ¬ s.Late e) {} es := by
  refine Machine.guarded_congr (J := fun s : CbReceiver => s.Retired ∧ s.Listed) ?_ ?_
    ⟨CbReceiver.retired_init, CbReceiver.listed_init⟩ es
  · rintro s e t ⟨hRetired, hListed⟩ hLate hStep
    exact ⟨hRetired.step hListed hLate hStep, hListed.step hStep⟩
  · rintro s e ⟨hRetired, hListed⟩
    exact hRetired.leaves_iff hListed e

/-- A message completes before it is granted, a second message of its sender is announced and
granted its first chunk, and a duplicate of the first message comes in between: the next GRANT is
for the message that is complete. -/
theorem completed_message_granted :
    ∃ s, (cbReceiver { mtu := 1000, grantGranularityBytes := 1000 }).run {}
        [.grantReq 11 7 1000, .scheduledData 11 7 0 1000, .grantReq 11 8 2000,
          .scheduledData 11 7 0 1000, .grantTick [11]] = some s ∧
      (s.rxQpMap ⟨11, 3, 7⟩).map RxQueuePair.completionNotified = some true ∧
      (s.emitted { mtu := 1000, grantGranularityBytes := 1000 } (.grantTick [11])).map
        (fun g => (g.txKey, g.tag.type)) = [(⟨11, 3, 7⟩, .grant)] := by
  have hGrant : ((cbReceiver { mtu := 1000, grantGranularityBytes := 1000 }).run {}
      [.grantReq 11 7 1000, .scheduledData 11 7 0 1000, .grantReq 11 8 2000,
        .scheduledData 11 7 0 1000, .grantTick [11]]).map (fun s =>
          ((s.rxQpMap ⟨11, 3, 7⟩).map RxQueuePair.completionNotified,
            (s.emitted { mtu := 1000, grantGranularityBytes := 1000 } (.grantTick [11])).map
              (fun g => (g.txKey, g.tag.type)))) =
      some (some true, [(⟨11, 3, 7⟩, .grant)]) := by
    decide +kernel
  obtain ⟨s, hRun, hEq⟩ := Option.map_eq_some_iff.mp hGrant
  obtain ⟨hDone, hSent⟩ := Prod.mk.inj hEq
  exact ⟨s, hRun, hDone, hSent⟩

end Dpdq.Ns3
