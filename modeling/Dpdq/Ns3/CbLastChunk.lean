import Dpdq.Ns3.CbReceiverMessage

/-!
# The last chunk of a message

A step marks at most the chunk of the data packet that arrives in it (`MsgAfter.marked`), and it
forgets no completion. A message whose packets are its own becomes complete with the arrival that
marks its last chunk, and with no other step (`RxSound.completes_step_iff`).
-/

namespace Dpdq.Ns3

open Dpdq.Lib

variable {cfg : CbConfig}

namespace RxQueuePair

theorem countPayload_bitmap (q : RxQueuePair) (seq payloadSize : Nat) :
    (q.countPayload cfg seq payloadSize).receivedChunkBitmap = q.receivedChunkBitmap := by
  unfold countPayload
  split
  · rfl
  · rfl

end RxQueuePair

namespace Account

/-- An announcement marks nothing. -/
theorem marked_of_announcement {a b : Account} {p : CbPacket}
    (hCases : a.isNewAnnouncement p.tag = false ∧ b.msg = a.msg ∨
      a.isNewAnnouncement p.tag = true ∧ ∃ pending, b.msg =
        { a.msg.announce cfg p.tag.creditReqBytes with
          pendingDemandBytes := pending }.scheduleResend) {i : Nat}
    (hMarked : b.msg.receivedChunkBitmap[i]? = some true) :
    a.msg.receivedChunkBitmap[i]? = some true := by
  rcases hCases with ⟨-, hOld⟩ | ⟨-, pending, hNew⟩
  · exact hOld ▸ hMarked
  · rw [hNew, (RxQueuePair.sameChunks_scheduleResend _).receivedChunkBitmap] at hMarked
    have hBlank := List.eq_of_mem_replicate (List.mem_of_getElem? hMarked)
    cases hBlank

/-- A chunk marks itself. -/
theorem marked_receiveChunk {a : Account} {p : CbPacket} {i : Nat}
    (hMarked : (a.receiveChunk cfg p).msg.receivedChunkBitmap[i]? = some true) :
    a.msg.receivedChunkBitmap[i]? = some true ∨ i = p.ch.seq / cfg.mtu := by
  have hBitmap : (a.receiveChunk cfg p).msg.receivedChunkBitmap =
      (a.msg.markChunk cfg p.ch.seq).receivedChunkBitmap := by
    have hLearn := RxQueuePair.sameChunks_learnFlowId (a.msg.markChunk cfg p.ch.seq) p.flowId
    rw [receiveChunk_msg]
    split
    · rw [RxQueuePair.countPayload_bitmap]
      exact hLearn.receivedChunkBitmap
    · exact hLearn.receivedChunkBitmap
  rw [hBitmap] at hMarked
  rcases RxQueuePair.markChunk_cases cfg a.msg p.ch.seq with
    ⟨hSame, -⟩ | ⟨j, hChunk, -, -, hSet⟩
  · exact Or.inl (hSame ▸ hMarked)
  · unfold RxQueuePair.chunkOf at hChunk
    split at hChunk
    · obtain rfl := Option.some.inj hChunk
      by_cases hEq : p.ch.seq / cfg.mtu = i
      · exact Or.inr hEq.symm
      · rw [hSet, List.getElem?_set_ne hEq] at hMarked
        exact Or.inl hMarked
    · cases hChunk

theorem marked_receiveData {a : Account} {p : CbPacket} {i : Nat}
    (hMarked : (a.receiveData cfg p).msg.receivedChunkBitmap[i]? = some true) :
    a.msg.receivedChunkBitmap[i]? = some true ∨ i = p.ch.seq / cfg.mtu := by
  rcases marked_receiveChunk hMarked with hOld | hNew
  · exact Or.inl (marked_of_announcement (countArrival_msg_cases cfg a p) hOld)
  · exact Or.inr hNew

/-- A complete message is announced, and its completion is not forgotten. -/
theorem notified_of_announcement {a b : Account} {p : CbPacket}
    (hCases : a.isNewAnnouncement p.tag = false ∧ b.msg = a.msg ∨
      a.isNewAnnouncement p.tag = true ∧ ∃ pending, b.msg =
        { a.msg.announce cfg p.tag.creditReqBytes with
          pendingDemandBytes := pending }.scheduleResend)
    (hFlags : a.msg.Flags) (hDone : a.msg.completionNotified = true) :
    b.msg.completionNotified = true := by
  rcases hCases with ⟨-, hOld⟩ | ⟨hNew, -⟩
  · exact hOld ▸ hDone
  · obtain ⟨-, hQuiet⟩ := isNewAnnouncement_eq_true.mp hNew
    rw [hFlags.announced hDone] at hQuiet
    cases hQuiet

end Account

namespace CbReceiver

/-- A chunk of a receive QP is marked. -/
def Marked (s : CbReceiver) (k : RxKey) (i : Nat) : Prop :=
  ∃ q, s.rxQpMap k = some q ∧ q.receivedChunkBitmap[i]? = some true

/-- `m_completionNotified` of a receive QP. -/
def Notified (s : CbReceiver) (k : RxKey) : Prop :=
  ∃ q, s.rxQpMap k = some q ∧ q.completionNotified = true

theorem marked_accountOf {s : CbReceiver} {p : CbPacket} {i : Nat}
    (hMarked : (s.accountOf cfg p).msg.receivedChunkBitmap[i]? = some true) :
    s.Marked p.rxKey i := by
  rcases accountOf_msg_cases cfg s p with hKnown | ⟨-, hNew⟩
  · exact ⟨_, hKnown, hMarked⟩
  · rw [hNew] at hMarked
    cases hMarked

/-- A step marks only the chunk of its data packet. -/
theorem MsgAfter.marked {s : CbReceiver} {k : RxKey} {e : Event} {q : RxQueuePair}
    (hAfter : MsgAfter cfg s k e q) {i : Nat} (hMarked : q.receivedChunkBitmap[i]? = some true) :
    s.Marked k i ∨ ∃ p, e = .arrive p ∧ IsData p ∧ p.rxKey = k ∧ i = p.ch.seq / cfg.mtu := by
  cases hAfter with
  | kept _ _ hOld => exact Or.inl ⟨q, hOld, hMarked⟩
  | completed p hData hKey hDone =>
    rcases Account.marked_receiveData hMarked with hOld | hNew
    · exact Or.inl (hKey ▸ marked_accountOf hOld)
    · exact Or.inr ⟨p, rfl, hData, hKey, hNew⟩
  | data p hData hKey hOpen =>
    rw [(RxQueuePair.sameChunks_scheduleResend _).receivedChunkBitmap] at hMarked
    rcases Account.marked_receiveData hMarked with hOld | hNew
    · exact Or.inl (hKey ▸ marked_accountOf hOld)
    · exact Or.inr ⟨p, rfl, hData, hKey, hNew⟩
  | request p hRequest hKey =>
    exact Or.inl (hKey ▸ marked_accountOf (Account.marked_of_announcement
      (Account.countRequest_msg_cases cfg _ p) hMarked))
  | bounced p q' hBounced hKey hOld =>
    rw [(RxQueuePair.sameChunks_scheduleResend _).receivedChunkBitmap] at hMarked
    exact Or.inl ⟨q', hOld, hMarked⟩
  | granted order c q' data wire hc hTry hKey hOld => exact Or.inl ⟨q', hOld, hMarked⟩
  | fired q' hOld hRunning =>
    obtain ⟨limit, running, hEq⟩ := resendMsg_eq cfg (s.getOrCreateSenderState k) q'
    rw [hEq] at hMarked
    exact Or.inl ⟨q', hOld, hMarked⟩

theorem MsgAfter.notified {s : CbReceiver} {k : RxKey} {e : Event} {q : RxQueuePair}
    (hAfter : MsgAfter cfg s k e q) (hListed : s.Listed) (hDone : s.Notified k) :
    q.completionNotified = true := by
  obtain ⟨r, hr, hNotified⟩ := hDone
  have hFlags := hListed.flags k r hr
  have hFound {p : CbPacket} (hKey : p.rxKey = k) : (s.accountOf cfg p).msg = r := by
    rw [accountOf_of_known (hKey ▸ hr)]
    rfl
  have hKept {p : CbPacket} (hKey : p.rxKey = k) :
      ((s.accountOf cfg p).receiveData cfg p).msg.completionNotified = true := by
    have hAlike := Account.alike_receiveChunk cfg ((s.accountOf cfg p).countArrival cfg p) p
    exact hAlike.completionNotified.trans (Account.notified_of_announcement
      (Account.countArrival_msg_cases cfg _ p) (hFound hKey ▸ hFlags) (hFound hKey ▸ hNotified))
  cases hAfter with
  | kept _ _ hOld =>
    obtain rfl := Option.some.inj (hr.symm.trans hOld)
    exact hNotified
  | completed p hData hKey hCompletes => rfl
  | data p hData hKey hOpen =>
    obtain ⟨running, hEq⟩ := RxQueuePair.scheduleResend_eq
      ((s.accountOf cfg p).receiveData cfg p).msg
    rw [hEq]
    exact hKept hKey
  | request p hRequest hKey =>
    exact Account.notified_of_announcement (Account.countRequest_msg_cases cfg _ p)
      (hFound hKey ▸ hFlags) (hFound hKey ▸ hNotified)
  | bounced p q' hBounced hKey hOld =>
    obtain rfl := Option.some.inj (hr.symm.trans hOld)
    obtain ⟨running, hEq⟩ := RxQueuePair.scheduleResend_eq ((s.openAccount k r).bounce p.tag).msg
    rw [hEq]
    exact hNotified
  | granted order c q' data wire hc hTry hKey hOld =>
    obtain rfl := Option.some.inj (hr.symm.trans hOld)
    exact hNotified
  | fired q' hOld hRunning =>
    obtain rfl := Option.some.inj (hr.symm.trans hOld)
    obtain ⟨limit, running, hEq⟩ := resendMsg_eq cfg (s.getOrCreateSenderState k) r
    rw [hEq]
    exact hNotified

/-- No step forgets a completion. -/
theorem Notified.step {s t : CbReceiver} {k : RxKey} (h : s.Notified k) (hListed : s.Listed)
    {e : Event} (hStep : s.step cfg e = some t) : t.Notified k := by
  obtain ⟨r, hr, hNotified⟩ := h
  have hKnown := known_step (k := k) (by rw [hr]; exact nofun) hStep
  obtain ⟨q, hq⟩ := Option.ne_none_iff_exists'.mp hKnown
  exact ⟨q, hq, (msgAfter_step hStep hq).notified hListed ⟨r, hr, hNotified⟩⟩

/-! ## Messages of a given size -/

variable {messageBytes : Nat}

/-- A message is complete exactly if all its chunks are marked. -/
theorem RxSound.notified_iff (hMtu : 0 < cfg.mtu) {s : CbReceiver} {k : RxKey}
    (h : s.RxSound cfg messageBytes k) (hBytes : 0 < messageBytes) :
    s.Notified k ↔ ∀ i < chunkCount cfg messageBytes, s.Marked k i := by
  constructor
  · rintro ⟨q, hq, hDone⟩ i hi
    obtain ⟨hTracked, -, hReceives⟩ := h q hq
    obtain ⟨hAnnounced, hAll⟩ := hReceives.complete hDone
    refine ⟨q, hq, hTracked.receivedChunks_eq_iff.mp hAll i ?_⟩
    rw [hTracked.chunks, hReceives.expected hAnnounced]
    exact hi
  · intro hAll
    obtain ⟨q, hq, hFirst⟩ := hAll 0 (chunkCount_pos hMtu hBytes)
    obtain ⟨hTracked, hLacks, hReceives⟩ := h q hq
    refine ⟨q, hq, ?_⟩
    have hAnnounced : q.announcementAccounted = true := by
      by_contra hQuiet
      rw [hTracked.bitmap_eq_nil hMtu (Bool.eq_false_iff.mpr hQuiet)] at hFirst
      cases hFirst
    by_contra hOpen
    have hMissing := hLacks hAnnounced (Bool.eq_false_iff.mpr hOpen)
    have hFull : q.receivedChunks = q.expectedChunks := by
      rw [hTracked.receivedChunks_eq_iff]
      intro i hi
      rw [hTracked.chunks, hReceives.expected hAnnounced] at hi
      obtain ⟨r, hr, hMarked⟩ := hAll i hi
      obtain rfl := Option.some.inj (hq.symm.trans hr)
      exact hMarked
    omega

/-- The data packet of an event marks the last chunk of a message that was not marked. -/
def MarksLast (cfg : CbConfig) (messageBytes : Nat) (s t : CbReceiver) (k : RxKey) (e : Event) :
    Prop :=
  ∃ p, e = .arrive p ∧ IsData p ∧ p.rxKey = k ∧ ¬ s.Marked k (p.ch.seq / cfg.mtu) ∧
    (∀ j < chunkCount cfg messageBytes, j ≠ p.ch.seq / cfg.mtu → s.Marked k j) ∧
    p.ch.seq / cfg.mtu < chunkCount cfg messageBytes ∧
    ∀ j < chunkCount cfg messageBytes, t.Marked k j

/-- A step completes a message exactly if it is the arrival that marks its last chunk. -/
theorem RxSound.completes_step_iff (hMtu : 0 < cfg.mtu) (hBytes : messageBytes < 2 ^ 32)
    (hPos : 0 < messageBytes) {s t : CbReceiver} {k : RxKey} {e : Event}
    (h : s.RxSound cfg messageBytes k) (hOf : e.OfMessage cfg k messageBytes)
    (hStep : s.step cfg e = some t) :
    ¬ s.Notified k ∧ t.Notified k ↔ MarksLast cfg messageBytes s t k e := by
  have ht := h.step hMtu hBytes hOf hStep
  rw [h.notified_iff hMtu hPos, ht.notified_iff hMtu hPos]
  constructor
  · rintro ⟨hOpen, hAll⟩
    have hCases (i : Nat) (hi : i < chunkCount cfg messageBytes) : s.Marked k i ∨
        ∃ p, e = .arrive p ∧ IsData p ∧ p.rxKey = k ∧ i = p.ch.seq / cfg.mtu := by
      obtain ⟨q, hq, hMarked⟩ := hAll i hi
      exact (msgAfter_step hStep hq).marked hMarked
    push Not at hOpen
    obtain ⟨i, hi, hMissing⟩ := hOpen
    obtain ⟨p, rfl, hData, hKey, rfl⟩ := (hCases i hi).resolve_left hMissing
    refine ⟨p, rfl, hData, hKey, hMissing, ?_, hi, hAll⟩
    intro j hj hNe
    rcases hCases j hj with hMarked | ⟨p', hEq, -, -, rfl⟩
    · exact hMarked
    · obtain rfl := Event.arrive.inj hEq
      exact absurd rfl hNe
  · rintro ⟨p, -, -, -, hMissing, -, hi, hAll⟩
    exact ⟨fun hMarked => hMissing (hMarked _ hi), hAll⟩

/-- The sender is told of a completion by the data packet that completes the message. -/
theorem receive_completion {s : CbReceiver} {p : CbPacket} {c : Completion}
    (h : (s.receive cfg p).2 = some c) : IsData p ∧
      ((s.accountOf cfg p).receiveData cfg p).msg.completes = true ∧
      c.owner = p.ch.sip ∧ c.sport = p.ch.sport ∧ c.pg = p.ch.pg := by
  rcases receive_cases cfg s p with hEq | ⟨hData, -⟩ | ⟨hRequest, -⟩ | ⟨hBounced, -⟩
  · by_cases hData : IsData p
    · rw [receive_of_data cfg s hData] at h
      unfold receiveRequestData at h
      simp only at h
      split at h
      · rename_i hDone
        obtain rfl := Option.some.inj h
        exact ⟨hData, hDone, rfl, rfl, rfl⟩
      · cases h
    · exfalso
      unfold receive at h
      split at h
      · rename_i hType
        split at h
        · rename_i hUdp
          exact hData ⟨hType, hUdp⟩
        · split at h
          · cases h
          · cases h
      · cases h
      · cases h
      · cases h
  · rw [receive_of_data cfg s hData] at h
    unfold receiveRequestData at h
    simp only at h
    split at h
    · rename_i hDone
      obtain rfl := Option.some.inj h
      exact ⟨hData, hDone, rfl, rfl, rfl⟩
    · cases h
  · rw [receive_of_request cfg s hRequest] at h
    cases h
  · rw [receive_of_bounced cfg s hBounced] at h
    cases h

end CbReceiver

end Dpdq.Ns3
