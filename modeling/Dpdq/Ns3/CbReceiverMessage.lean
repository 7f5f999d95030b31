import Dpdq.Ns3.CbReceiverChunks

/-!
# A message of a given size

A sender cuts a message into chunks of one MTU, with a short last one, and announces its size on
some of its packets. When all packets of a receive QP belong to one such message, the received
bytes are those of the marked chunks, and the message completes when all are marked.
-/

namespace Dpdq.Ns3

open Dpdq.Lib

variable {cfg : CbConfig}

/-! ## Chunks -/

/-- The payload of a chunk of a message. -/
def chunkSize (cfg : CbConfig) (messageBytes chunk : Nat) : Nat :=
  min cfg.mtu (messageBytes - chunk * cfg.mtu)

theorem totalSum_chunkSize_eq_min (cfg : CbConfig) (messageBytes n : Nat) :
    totalSum (chunkSize cfg messageBytes) n = min (n * cfg.mtu) messageBytes := by
  induction n with
  | zero => rw [Nat.zero_mul, Nat.zero_min]; rfl
  | succ n ih =>
    have hSucc : totalSum (chunkSize cfg messageBytes) (n + 1) =
        totalSum (chunkSize cfg messageBytes) n + chunkSize cfg messageBytes n :=
      Finset.sum_range_succ _ _
    rw [hSucc, ih, Nat.add_mul, Nat.one_mul]
    unfold chunkSize
    omega

/-- The chunks together are the message. -/
theorem totalSum_chunkSize (hMtu : 0 < cfg.mtu) (messageBytes : Nat) :
    totalSum (chunkSize cfg messageBytes) (chunkCount cfg messageBytes) = messageBytes := by
  have hCover : ¬ chunkCount cfg messageBytes * cfg.mtu < messageBytes := by
    rw [← div_lt_chunkCount_iff hMtu]
    exact Nat.lt_irrefl _
  rw [totalSum_chunkSize_eq_min]
  omega

theorem chunkSize_pos (hMtu : 0 < cfg.mtu) {messageBytes chunk : Nat}
    (h : chunk < chunkCount cfg messageBytes) : 0 < chunkSize cfg messageBytes chunk := by
  rw [div_lt_chunkCount_iff hMtu] at h
  unfold chunkSize
  omega

/-! ## Packets -/

/-- The packet is one of a message of `messageBytes`: it announces the size or nothing, and its
data are a chunk. -/
def CbPacket.OfMessage (cfg : CbConfig) (messageBytes : Nat) (p : CbPacket) : Prop :=
  (p.tag.creditReqBytes = 0 ∨ p.tag.creditReqBytes = messageBytes) ∧
    (p.tag.type = .request → p.ch.l3Prot = 0x11 →
      p.ch.seq % cfg.mtu = 0 ∧ p.ch.seq < messageBytes ∧
        p.payloadSize = chunkSize cfg messageBytes (p.ch.seq / cfg.mtu))

instance (cfg : CbConfig) (messageBytes : Nat) (p : CbPacket) :
    Decidable (p.OfMessage cfg messageBytes) :=
  inferInstanceAs (Decidable (_ ∧ _))

namespace RxQueuePair

/-- The receive QP has received chunks of a message of `messageBytes`. -/
structure Receives (cfg : CbConfig) (messageBytes : Nat) (q : RxQueuePair) : Prop where
  expected : q.announcementAccounted = true → q.announcementExpectedBytes = messageBytes
  data : q.receivedDataBytes = markedSum (chunkSize cfg messageBytes) q.receivedChunkBitmap
  complete : q.completionNotified = true →
    q.announcementAccounted = true ∧ q.receivedChunks = q.expectedChunks

theorem Receives.congr {messageBytes : Nat} {q r : RxQueuePair} (h : q.Receives cfg messageBytes)
    (hSame : q.SameChunks r) (hNotified : r.completionNotified = q.completionNotified) :
    r.Receives cfg messageBytes := by
  constructor
  · rw [hSame.announcementAccounted, hSame.announcementExpectedBytes]
    exact h.expected
  · rw [hSame.receivedDataBytes, hSame.receivedChunkBitmap]
    exact h.data
  · rw [hNotified, hSame.announcementAccounted, hSame.receivedChunks, hSame.expectedChunks]
    exact h.complete

theorem receives_newRxQp (messageBytes : Nat) (p : CbPacket) :
    p.newRxQp.Receives cfg messageBytes := ⟨nofun, rfl, nofun⟩

theorem receives_announce (messageBytes : Nat) (q : RxQueuePair) :
    (q.announce cfg messageBytes).Receives cfg messageBytes :=
  ⟨fun _ => rfl, (markedSum_replicate _ _).symm, nofun⟩

/-- The message with one more chunk. -/
def addChunk (q : RxQueuePair) (chunk size : Nat) : RxQueuePair :=
  { q with
    receivedChunkBitmap := q.receivedChunkBitmap.set chunk true
    receivedChunks := q.receivedChunks + 1
    receivedDataBytes := q.receivedDataBytes + size }

/-- The chunk of a packet of an announced message. -/
theorem Tracked.chunkOf_eq {messageBytes : Nat} {q : RxQueuePair} (h : q.Tracked cfg)
    (hMtu : 0 < cfg.mtu) (hExpected : q.announcementExpectedBytes = messageBytes) {seq : Nat}
    (hSeq : seq < messageBytes) : q.chunkOf cfg seq = some (seq / cfg.mtu) := by
  rw [chunkOf_eq_some h hMtu]
  refine ⟨rfl, ?_⟩
  rw [h.chunks, hExpected, div_lt_chunkCount_iff hMtu]
  exact lt_of_le_of_lt (Nat.div_mul_le_self seq cfg.mtu) hSeq

/-- An unannounced message has no bitmap. -/
theorem Tracked.bitmap_eq_nil {q : RxQueuePair} (h : q.Tracked cfg) (hMtu : 0 < cfg.mtu)
    (hQuiet : q.announcementAccounted = false) : q.receivedChunkBitmap = [] := by
  apply List.eq_nil_of_length_eq_zero
  rw [h.length, h.chunks, (h.unannounced hQuiet).1, chunkCount_zero hMtu]

/-- All chunks are received exactly if all are marked. -/
theorem Tracked.receivedChunks_eq_iff {q : RxQueuePair} (h : q.Tracked cfg) :
    q.receivedChunks = q.expectedChunks ↔
      ∀ i < q.expectedChunks, q.receivedChunkBitmap[i]? = some true := by
  have hAll := markedSum_eq_total_iff (f := fun _ => 1) (l := q.receivedChunkBitmap)
    fun _ _ => Nat.one_pos
  rw [totalSum_one, h.length] at hAll
  rw [h.received, hAll]

/-- All bytes are received exactly if all chunks are. -/
theorem Receives.receivedDataBytes_eq_iff {messageBytes : Nat} {q : RxQueuePair}
    (h : q.Receives cfg messageBytes) (hTracked : q.Tracked cfg) (hMtu : 0 < cfg.mtu)
    (hAnnounced : q.announcementAccounted = true) :
    q.receivedDataBytes = messageBytes ↔ q.receivedChunks = q.expectedChunks := by
  have hChunks : q.expectedChunks = chunkCount cfg messageBytes := by
    rw [hTracked.chunks, h.expected hAnnounced]
  have hAll := markedSum_eq_total_iff (f := chunkSize cfg messageBytes) (l := q.receivedChunkBitmap)
    fun i hi => chunkSize_pos hMtu (by rw [← hChunks, ← hTracked.length]; exact hi)
  rw [hTracked.length, hChunks, totalSum_chunkSize hMtu] at hAll
  rw [hTracked.receivedChunks_eq_iff, h.data, hAll, hChunks]

theorem Receives.receivedDataBytes_le {messageBytes : Nat} {q : RxQueuePair}
    (h : q.Receives cfg messageBytes) (hTracked : q.Tracked cfg) (hMtu : 0 < cfg.mtu)
    (hAnnounced : q.announcementAccounted = true) : q.receivedDataBytes ≤ messageBytes := by
  have hLe := markedSum_le (chunkSize cfg messageBytes) q.receivedChunkBitmap
  rw [hTracked.length, hTracked.chunks, h.expected hAnnounced, totalSum_chunkSize hMtu] at hLe
  exact h.data ▸ hLe

theorem Tracked.receivedChunks_le {q : RxQueuePair} (h : q.Tracked cfg) :
    q.receivedChunks ≤ q.expectedChunks := by
  have hLe := markedSum_le (fun _ => 1) q.receivedChunkBitmap
  rw [totalSum_one, h.length] at hLe
  exact h.received ▸ hLe

/-- The completion condition of a message of a given size: all its chunks are received. -/
theorem Receives.completes_iff {messageBytes : Nat} {q : RxQueuePair}
    (h : q.Receives cfg messageBytes) (hTracked : q.Tracked cfg) (hMtu : 0 < cfg.mtu) :
    q.completes = true ↔ q.completionNotified = false ∧ q.announcementAccounted = true ∧
      q.receivedChunks = q.expectedChunks := by
  unfold completes
  rw [decide_eq_true_eq, Bool.not_eq_true']
  constructor
  · rintro ⟨hOpen, hPos, hFull⟩
    have hAnnounced : q.announcementAccounted = true := by
      by_contra hQuiet
      rw [(hTracked.unannounced (Bool.eq_false_iff.mpr hQuiet)).1] at hPos
      cases hPos
    refine ⟨hOpen, hAnnounced, ?_⟩
    rcases hFull with ⟨-, hChunks⟩ | hBytes
    · exact Nat.le_antisymm hTracked.receivedChunks_le hChunks
    · rw [h.expected hAnnounced] at hBytes
      rw [← h.receivedDataBytes_eq_iff hTracked hMtu hAnnounced]
      exact Nat.le_antisymm (h.receivedDataBytes_le hTracked hMtu hAnnounced) hBytes
  · rintro ⟨hOpen, hAnnounced, hFull⟩
    have hPos := hTracked.expected_pos hAnnounced
    have hChunks : q.expectedChunks > 0 := hTracked.chunks ▸ chunkCount_pos hMtu hPos
    exact ⟨hOpen, hPos, Or.inl ⟨hChunks, hFull.ge⟩⟩

/-- The payload of a chunk is accepted in full. -/
theorem countPayload_of_chunk {messageBytes seq payloadSize : Nat} {q : RxQueuePair}
    (hMtu : 0 < cfg.mtu) (hSeq : seq < messageBytes)
    (hSize : payloadSize = chunkSize cfg messageBytes (seq / cfg.mtu))
    (hExpected : q.announcementExpectedBytes = messageBytes)
    (hChunk : seq / cfg.mtu < q.expectedChunks)
    (hRoom : q.receivedDataBytes + chunkSize cfg messageBytes (seq / cfg.mtu) ≤ messageBytes) :
    q.countPayload cfg seq payloadSize =
      { q with receivedDataBytes :=
          q.receivedDataBytes + chunkSize cfg messageBytes (seq / cfg.mtu) } := by
  have hBase : seq / cfg.mtu * cfg.mtu < messageBytes :=
    lt_of_le_of_lt (Nat.div_mul_le_self seq cfg.mtu) hSeq
  have hAccepted : q.acceptedPayload cfg seq payloadSize =
      chunkSize cfg messageBytes (seq / cfg.mtu) := by
    unfold acceptedPayload
    rw [if_pos ⟨hMtu, hChunk⟩, hExpected]
    simp only
    rw [if_pos hBase, hSize]
    exact Nat.min_self _
  unfold countPayload
  rw [if_pos (by omega), hAccepted, hExpected, Nat.min_eq_right hRoom]

end RxQueuePair

/-! ## The chunk of a packet -/

namespace Account

/-- The chunk of an arriving packet. Before the announcement it leaves no trace in the receive QP;
after it, it is counted if it was not marked. -/
theorem receiveChunk_spec {messageBytes : Nat} {a : Account} {p : CbPacket} (hMtu : 0 < cfg.mtu)
    (hTracked : a.msg.Tracked cfg) (h : a.msg.Receives cfg messageBytes)
    (hSeq : p.ch.seq < messageBytes)
    (hSize : p.payloadSize = chunkSize cfg messageBytes (p.ch.seq / cfg.mtu)) :
    (a.receiveChunk cfg p).msg.completionNotified = a.msg.completionNotified ∧
      (a.msg.announcementAccounted = false ∧ a.msg.SameChunks (a.receiveChunk cfg p).msg ∨
        a.msg.announcementAccounted = true ∧ a.msg.firstSeenChunk cfg p.ch.seq = false ∧
          a.msg.receivedChunkBitmap[p.ch.seq / cfg.mtu]? = some true ∧
          a.msg.SameChunks (a.receiveChunk cfg p).msg ∨
        a.msg.announcementAccounted = true ∧ a.msg.firstSeenChunk cfg p.ch.seq = true ∧
          a.msg.receivedChunkBitmap[p.ch.seq / cfg.mtu]? = some false ∧
          (a.msg.addChunk (p.ch.seq / cfg.mtu)
            (chunkSize cfg messageBytes (p.ch.seq / cfg.mtu))).SameChunks
            (a.receiveChunk cfg p).msg) := by
  refine ⟨(alike_receiveChunk cfg a p).completionNotified, ?_⟩
  have hLearn := RxQueuePair.sameChunks_learnFlowId (a.msg.markChunk cfg p.ch.seq) p.flowId
  rw [receiveChunk_msg]
  cases hAnnounced : a.msg.announcementAccounted with
  | false =>
    left
    obtain ⟨hBytes, -⟩ := hTracked.unannounced hAnnounced
    have hNone : a.msg.chunkOf cfg p.ch.seq = none := by
      rw [Option.eq_none_iff_forall_ne_some]
      intro i hSome
      have hBound := ((RxQueuePair.chunkOf_eq_some hTracked hMtu).mp hSome).2
      rw [hTracked.chunks, hBytes, chunkCount_zero hMtu] at hBound
      cases hBound
    have hMark : a.msg.markChunk cfg p.ch.seq = a.msg := by
      unfold RxQueuePair.markChunk
      rw [hNone]
    rw [hMark] at hLearn ⊢
    refine ⟨rfl, ?_⟩
    split
    · unfold RxQueuePair.countPayload
      rw [if_neg (by rw [hLearn.announcementExpectedBytes, hBytes]; decide)]
      exact hLearn
    · exact hLearn
  | true =>
    right
    have hExpected := h.expected hAnnounced
    have hChunk := hTracked.chunkOf_eq hMtu hExpected hSeq
    rcases RxQueuePair.markChunk_cases cfg a.msg p.ch.seq with
      ⟨hMark, hNone | hSeen⟩ | ⟨i, hSome, hFirst, hMissing, hMark⟩
    · rw [hChunk] at hNone
      cases hNone
    · left
      have hBound : p.ch.seq / cfg.mtu < a.msg.receivedChunkBitmap.length := by
        rw [hTracked.length]
        exact ((RxQueuePair.chunkOf_eq_some hTracked hMtu).mp hChunk).2
      refine ⟨rfl, hSeen, ?_, ?_⟩
      · unfold RxQueuePair.firstSeenChunk at hSeen
        rw [hChunk] at hSeen
        simp only at hSeen
        rw [List.getElem?_eq_getElem hBound] at hSeen ⊢
        simpa using hSeen
      · rw [hMark] at hLearn
        rw [hSeen, if_neg (by decide), hMark]
        exact hLearn
    · right
      obtain rfl : p.ch.seq / cfg.mtu = i := Option.some.inj (hChunk.symm.trans hSome)
      refine ⟨rfl, hFirst, hMissing, ?_⟩
      have hRoom : a.msg.receivedDataBytes + chunkSize cfg messageBytes (p.ch.seq / cfg.mtu) ≤
          messageBytes := by
        have hLe := markedSum_le (chunkSize cfg messageBytes)
          (a.msg.receivedChunkBitmap.set (p.ch.seq / cfg.mtu) true)
        rw [markedSum_set _ hMissing, List.length_set, hTracked.length, hTracked.chunks, hExpected,
          totalSum_chunkSize hMtu, ← h.data] at hLe
        exact hLe
      have hBound := ((RxQueuePair.chunkOf_eq_some hTracked hMtu).mp hChunk).2
      rw [hMark] at hLearn
      rw [hFirst, if_pos rfl, hMark, RxQueuePair.countPayload_of_chunk hMtu hSeq hSize
        (hLearn.announcementExpectedBytes.trans hExpected)
        (lt_of_lt_of_eq hBound hLearn.expectedChunks.symm)
        (by rw [hLearn.receivedDataBytes]; exact hRoom)]
      exact ⟨hLearn.1, hLearn.2, hLearn.3, hLearn.4,
        congrArg (· + chunkSize cfg messageBytes (p.ch.seq / cfg.mtu)) hLearn.5, hLearn.6⟩

theorem receives_receiveChunk {messageBytes : Nat} {a : Account} {p : CbPacket}
    (hMtu : 0 < cfg.mtu) (hTracked : a.msg.Tracked cfg) (h : a.msg.Receives cfg messageBytes)
    (hSeq : p.ch.seq < messageBytes)
    (hSize : p.payloadSize = chunkSize cfg messageBytes (p.ch.seq / cfg.mtu)) :
    (a.receiveChunk cfg p).msg.Receives cfg messageBytes := by
  obtain ⟨hNotified, ⟨-, hSame⟩ | ⟨-, -, -, hSame⟩ | ⟨hAnnounced, -, hMissing, hSame⟩⟩ :=
    receiveChunk_spec hMtu hTracked h hSeq hSize
  · exact h.congr hSame hNotified
  · exact h.congr hSame hNotified
  · refine RxQueuePair.Receives.congr (q := a.msg.addChunk _ _) ⟨h.expected, ?_, ?_⟩ hSame hNotified
    · show a.msg.receivedDataBytes + _ = markedSum _ (a.msg.receivedChunkBitmap.set _ true)
      rw [markedSum_set _ hMissing, h.data]
    · intro hDone
      -- A complete message has no missing chunk.
      have hAll := hTracked.receivedChunks_eq_iff.mp (h.complete hDone).2
      obtain ⟨hBound, -⟩ := List.getElem?_eq_some_iff.mp hMissing
      have hMarked := hAll _ (hTracked.length ▸ hBound)
      rw [hMissing] at hMarked
      cases hMarked

theorem receives_of_announcement {messageBytes : Nat} {a b : Account} {p : CbPacket}
    (h : a.msg.Receives cfg messageBytes)
    (hOf : p.tag.creditReqBytes = 0 ∨ p.tag.creditReqBytes = messageBytes)
    (hCases : a.isNewAnnouncement p.tag = false ∧ b.msg = a.msg ∨
      a.isNewAnnouncement p.tag = true ∧ ∃ pending, b.msg =
        { a.msg.announce cfg p.tag.creditReqBytes with
          pendingDemandBytes := pending }.scheduleResend) : b.msg.Receives cfg messageBytes := by
  rcases hCases with ⟨-, hOld⟩ | ⟨hNew, pending, hAnnounced⟩
  · rw [hOld]
    exact h
  · have hPos := pos_of_isNewAnnouncement hNew
    rcases hOf with hNone | hBytes
    · omega
    · rw [hAnnounced, hBytes]
      obtain ⟨running, hEq⟩ := RxQueuePair.scheduleResend_eq
        { a.msg.announce cfg messageBytes with pendingDemandBytes := pending }
      rw [hEq]
      exact (RxQueuePair.receives_announce messageBytes a.msg).congr
        ⟨rfl, rfl, rfl, rfl, rfl, rfl⟩ rfl

end Account

/-! ## Steps -/

namespace CbReceiver

/-- The receive QP of a message of a given size, as it may be found. -/
def RxSound (cfg : CbConfig) (messageBytes : Nat) (s : CbReceiver) (k : RxKey) : Prop :=
  ∀ q, s.rxQpMap k = some q → q.Tracked cfg ∧ q.Lacks ∧ q.Receives cfg messageBytes

/-- The packets of a receive QP belong to one message. -/
def Event.OfMessage (cfg : CbConfig) (k : RxKey) (messageBytes : Nat) : Event → Prop
  | .arrive p => p.rxKey = k → p.OfMessage cfg messageBytes
  | _ => True

instance (cfg : CbConfig) (k : RxKey) (messageBytes : Nat) (e : Event) :
    Decidable (e.OfMessage cfg k messageBytes) :=
  match e with
  | .arrive p => inferInstanceAs (Decidable (p.rxKey = k → p.OfMessage cfg messageBytes))
  | .grantTick _ => isTrue trivial
  | .resendTimeout _ => isTrue trivial

theorem rxSound_init (messageBytes : Nat) (k : RxKey) :
    ({} : CbReceiver).RxSound cfg messageBytes k := nofun

/-- The message that a packet of its finds, after its announcement has been counted. -/
theorem RxSound.countArrival {messageBytes : Nat} {s : CbReceiver} {p : CbPacket}
    (hMtu : 0 < cfg.mtu) (hBytes : messageBytes < 2 ^ 32) (h : s.RxSound cfg messageBytes p.rxKey)
    (hOf : p.OfMessage cfg messageBytes) :
    ((s.accountOf cfg p).countArrival cfg p).msg.Tracked cfg ∧
      ((s.accountOf cfg p).countArrival cfg p).msg.Receives cfg messageBytes := by
  have hFits : p.tag.creditReqBytes < 2 ^ 32 := by
    rcases hOf.1 with hNone | hSome
    · omega
    · omega
  have hCases := Account.countArrival_msg_cases cfg (s.accountOf cfg p) p
  have hFound : (s.accountOf cfg p).msg.Receives cfg messageBytes := by
    rcases accountOf_msg_cases cfg s p with hKnown | ⟨-, hNew⟩
    · exact (h _ hKnown).2.2
    · rw [hNew]
      exact RxQueuePair.receives_newRxQp messageBytes p
  have hTracked := (tracked_accountOf hMtu fun q hq => ⟨(h q hq).1, (h q hq).2.1⟩).1
  exact ⟨(Account.tracked_of_announcement hMtu hTracked hFits hCases).1,
    Account.receives_of_announcement hFound hOf.1 hCases⟩

theorem RxSound.receiveData {messageBytes : Nat} {s : CbReceiver} {p : CbPacket} (hMtu : 0 < cfg.mtu)
    (hBytes : messageBytes < 2 ^ 32) (h : s.RxSound cfg messageBytes p.rxKey)
    (hOf : p.OfMessage cfg messageBytes) (hData : IsData p) :
    ((s.accountOf cfg p).receiveData cfg p).msg.Tracked cfg ∧
      ((s.accountOf cfg p).receiveData cfg p).msg.Receives cfg messageBytes := by
  obtain ⟨hTracked, hReceives⟩ := h.countArrival hMtu hBytes hOf
  obtain ⟨-, hSeq, hSize⟩ := hOf.2 hData.1 hData.2
  exact ⟨Account.tracked_receiveChunk hTracked p,
    Account.receives_receiveChunk hMtu hTracked hReceives hSeq hSize⟩

theorem MsgAfter.receives {messageBytes : Nat} (hMtu : 0 < cfg.mtu) (hBytes : messageBytes < 2 ^ 32)
    {s : CbReceiver} {k : RxKey} {e : Event} {q : RxQueuePair} (hAfter : MsgAfter cfg s k e q)
    (h : s.RxSound cfg messageBytes k) (hOf : e.OfMessage cfg k messageBytes) :
    q.Receives cfg messageBytes := by
  cases hAfter with
  | kept _ _ hOld => exact (h q hOld).2.2
  | completed p hData hKey hDone =>
    subst hKey
    obtain ⟨hTracked, hReceives⟩ := h.receiveData hMtu hBytes (hOf rfl) hData
    obtain ⟨-, hAnnounced, hFull⟩ := (hReceives.completes_iff hTracked hMtu).mp hDone
    exact ⟨hReceives.expected, hReceives.data, fun _ => ⟨hAnnounced, hFull⟩⟩
  | data p hData hKey hOpen =>
    subst hKey
    obtain ⟨running, hEq⟩ := RxQueuePair.scheduleResend_eq ((s.accountOf cfg p).receiveData cfg p).msg
    rw [hEq]
    exact (h.receiveData hMtu hBytes (hOf rfl) hData).2.congr ⟨rfl, rfl, rfl, rfl, rfl, rfl⟩ rfl
  | request p hRequest hKey =>
    subst hKey
    refine Account.receives_of_announcement (a := s.accountOf cfg p) ?_ (hOf rfl).1
      (Account.countRequest_msg_cases cfg _ p)
    rcases accountOf_msg_cases cfg s p with hKnown | ⟨-, hNew⟩
    · exact (h _ hKnown).2.2
    · rw [hNew]
      exact RxQueuePair.receives_newRxQp messageBytes p
  | bounced p q' hBounced hKey hOld =>
    obtain ⟨running, hEq⟩ := RxQueuePair.scheduleResend_eq ((s.openAccount k q').bounce p.tag).msg
    rw [hEq]
    exact (h q' hOld).2.2.congr ⟨rfl, rfl, rfl, rfl, rfl, rfl⟩ rfl
  | granted order c q' data wire hc hTry hKey hOld =>
    exact (h q' hOld).2.2.congr ⟨rfl, rfl, rfl, rfl, rfl, rfl⟩ rfl
  | fired q' hOld hRunning =>
    obtain ⟨limit, running, hEq⟩ := resendMsg_eq cfg (s.getOrCreateSenderState k) q'
    rw [hEq]
    exact (h q' hOld).2.2.congr ⟨rfl, rfl, rfl, rfl, rfl, rfl⟩ rfl

theorem RxSound.step {messageBytes : Nat} (hMtu : 0 < cfg.mtu) (hBytes : messageBytes < 2 ^ 32)
    {s t : CbReceiver} {k : RxKey} {e : Event} (h : s.RxSound cfg messageBytes k)
    (hOf : e.OfMessage cfg k messageBytes) (hStep : s.step cfg e = some t) :
    t.RxSound cfg messageBytes k := by
  intro q hq
  have hAfter := msgAfter_step hStep hq
  have hTracked := hAfter.tracked hMtu (fun q hq => ⟨(h q hq).1, (h q hq).2.1⟩) (by
    rintro p rfl hKey
    rcases (hOf hKey).1 with hNone | hSome
    · omega
    · omega)
  exact ⟨hTracked.1, hTracked.2, hAfter.receives hMtu hBytes h hOf⟩

end CbReceiver

end Dpdq.Ns3
