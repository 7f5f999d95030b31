import Dpdq.Lib.Marks
import Dpdq.Ns3.CbReceiverEntry

/-!
# The chunks of a message

`RxQueuePair.Tracked` relates the counters of a receive QP to its bitmap: the announced size gives
the number of chunks and the length of the bitmap, and the chunks received are the marked ones. It
holds of every receive QP, and an announced message that is not complete lacks a chunk.
-/

namespace Dpdq.Ns3

open Dpdq.Lib

variable {cfg : CbConfig}

/-- The number of chunks of a message. -/
def chunkCount (cfg : CbConfig) (messageBytes : Nat) : Nat :=
  (messageBytes + cfg.mtu - 1) / cfg.mtu

theorem chunkCount_le (hMtu : 0 < cfg.mtu) (messageBytes : Nat) :
    chunkCount cfg messageBytes ≤ messageBytes := by
  unfold chunkCount
  rcases Nat.eq_zero_or_pos messageBytes with rfl | hPos
  · rw [Nat.zero_add, Nat.div_eq_of_lt (by omega)]
  · apply Nat.div_le_of_le_mul
    obtain ⟨m, hm⟩ := Nat.exists_eq_add_of_le hMtu
    rw [hm, Nat.add_mul]
    have hLe : m ≤ m * messageBytes := Nat.le_mul_of_pos_right m hPos
    omega

theorem chunkCount_zero (hMtu : 0 < cfg.mtu) : chunkCount cfg 0 = 0 :=
  Nat.le_zero.mp (chunkCount_le hMtu 0)

/-- An offset lies in a chunk of the message exactly if it is below the size. -/
theorem div_lt_chunkCount_iff (hMtu : 0 < cfg.mtu) (chunk messageBytes : Nat) :
    chunk < chunkCount cfg messageBytes ↔ chunk * cfg.mtu < messageBytes := by
  unfold chunkCount
  rw [Nat.lt_iff_add_one_le, Nat.le_div_iff_mul_le hMtu, Nat.add_mul, Nat.one_mul]
  omega

theorem chunkCount_pos (hMtu : 0 < cfg.mtu) {messageBytes : Nat} (h : 0 < messageBytes) :
    0 < chunkCount cfg messageBytes := by
  rw [div_lt_chunkCount_iff hMtu, Nat.zero_mul]
  exact h

/-! ## One message -/

namespace RxQueuePair

structure Tracked (cfg : CbConfig) (q : RxQueuePair) : Prop where
  expected_pos : q.announcementAccounted = true → 0 < q.announcementExpectedBytes
  unannounced : q.announcementAccounted = false →
    q.announcementExpectedBytes = 0 ∧ q.receivedDataBytes = 0
  chunks : q.expectedChunks = chunkCount cfg q.announcementExpectedBytes
  length : q.receivedChunkBitmap.length = q.expectedChunks
  received : q.receivedChunks = markedSum (fun _ => 1) q.receivedChunkBitmap

/-- A chunk is missing until the completion. -/
def Lacks (q : RxQueuePair) : Prop :=
  q.announcementAccounted = true → q.completionNotified = false →
    q.receivedChunks < q.expectedChunks

/-- `r` has received and expects what `q` has received and expects. -/
structure SameChunks (q r : RxQueuePair) : Prop where
  announcementAccounted : r.announcementAccounted = q.announcementAccounted
  announcementExpectedBytes : r.announcementExpectedBytes = q.announcementExpectedBytes
  expectedChunks : r.expectedChunks = q.expectedChunks
  receivedChunks : r.receivedChunks = q.receivedChunks
  receivedDataBytes : r.receivedDataBytes = q.receivedDataBytes
  receivedChunkBitmap : r.receivedChunkBitmap = q.receivedChunkBitmap

theorem SameChunks.refl (q : RxQueuePair) : q.SameChunks q := ⟨rfl, rfl, rfl, rfl, rfl, rfl⟩

theorem SameChunks.trans {q r t : RxQueuePair} (h : q.SameChunks r) (h' : r.SameChunks t) :
    q.SameChunks t :=
  ⟨h'.1.trans h.1, h'.2.trans h.2, h'.3.trans h.3, h'.4.trans h.4, h'.5.trans h.5, h'.6.trans h.6⟩

theorem Tracked.congr {q r : RxQueuePair} (h : q.Tracked cfg) (hSame : q.SameChunks r) :
    r.Tracked cfg := by
  obtain ⟨hAccounted, hBytes, hChunks, hReceived, hData, hBitmap⟩ := hSame
  constructor
  · rw [hAccounted, hBytes]
    exact h.expected_pos
  · rw [hAccounted, hBytes, hData]
    exact h.unannounced
  · rw [hChunks, hBytes]
    exact h.chunks
  · rw [hBitmap, hChunks]
    exact h.length
  · rw [hReceived, hBitmap]
    exact h.received

theorem Lacks.congr {q r : RxQueuePair} (h : q.Lacks) (hSame : q.SameChunks r)
    (hNotified : r.completionNotified = q.completionNotified) : r.Lacks := by
  unfold Lacks
  rw [hSame.announcementAccounted, hNotified, hSame.receivedChunks, hSame.expectedChunks]
  exact h

theorem sameChunks_scheduleResend (q : RxQueuePair) : q.SameChunks q.scheduleResend := by
  obtain ⟨running, hEq⟩ := q.scheduleResend_eq
  rw [hEq]
  exact ⟨rfl, rfl, rfl, rfl, rfl, rfl⟩

theorem sameChunks_learnFlowId (q : RxQueuePair) (flowId : Option Int) :
    q.SameChunks (q.learnFlowId flowId) := by
  unfold learnFlowId
  split
  · exact ⟨rfl, rfl, rfl, rfl, rfl, rfl⟩
  · exact SameChunks.refl q

theorem sameChunks_notifyCompletion (q : RxQueuePair) : q.SameChunks q.notifyCompletion :=
  ⟨rfl, rfl, rfl, rfl, rfl, rfl⟩

theorem lacks_notifyCompletion (q : RxQueuePair) : q.notifyCompletion.Lacks := nofun

theorem tracked_newRxQp (hMtu : 0 < cfg.mtu) (p : CbPacket) : p.newRxQp.Tracked cfg where
  expected_pos := nofun
  unannounced := fun _ => ⟨rfl, rfl⟩
  chunks := (chunkCount_zero hMtu).symm
  length := rfl
  received := rfl

/-- A new announcement starts with an empty bitmap. -/
theorem tracked_announce (hMtu : 0 < cfg.mtu) (q : RxQueuePair) {creditReqBytes : Nat}
    (hPos : 0 < creditReqBytes) (hFits : creditReqBytes < 2 ^ 32) :
    (q.announce cfg creditReqBytes).Tracked cfg ∧ (q.announce cfg creditReqBytes).Lacks := by
  have hChunks : (q.announce cfg creditReqBytes).expectedChunks = chunkCount cfg creditReqBytes := by
    unfold announce
    simp only
    rw [if_neg (by omega)]
    exact Nat.mod_eq_of_lt (lt_of_le_of_lt (chunkCount_le hMtu creditReqBytes) hFits)
  refine ⟨⟨fun _ => hPos, nofun, hChunks, List.length_replicate, ?_⟩, fun _ _ => ?_⟩
  · exact (markedSum_replicate _ _).symm
  · rw [hChunks]
    exact chunkCount_pos hMtu hPos

/-- A packet of an announced chunk, of a tracked message. -/
theorem chunkOf_eq_some {q : RxQueuePair} (h : q.Tracked cfg) (hMtu : 0 < cfg.mtu) {seq i : Nat} :
    q.chunkOf cfg seq = some i ↔ i = seq / cfg.mtu ∧ i < q.expectedChunks := by
  unfold chunkOf
  constructor
  · intro hChunk
    split at hChunk
    · rename_i hAnnounced
      obtain rfl := Option.some.inj hChunk
      exact ⟨rfl, hAnnounced.2.1⟩
    · cases hChunk
  · rintro ⟨rfl, hBound⟩
    exact if_pos ⟨hMtu, hBound, h.length⟩

/-- A chunk that is seen for the first time is marked, and nothing else changes. -/
theorem markChunk_cases (cfg : CbConfig) (q : RxQueuePair) (seq : Nat) :
    q.markChunk cfg seq = q ∧ (q.chunkOf cfg seq = none ∨ q.firstSeenChunk cfg seq = false) ∨
      ∃ i, q.chunkOf cfg seq = some i ∧ q.firstSeenChunk cfg seq = true ∧
        q.receivedChunkBitmap[i]? = some false ∧
        q.markChunk cfg seq = { q with
          receivedChunkBitmap := q.receivedChunkBitmap.set i true
          receivedChunks := q.receivedChunks + 1 } := by
  unfold markChunk firstSeenChunk
  cases hChunk : q.chunkOf cfg seq with
  | none =>
    left
    exact ⟨rfl, Or.inl rfl⟩
  | some i =>
    simp only
    by_cases hMissing : q.receivedChunkBitmap[i]? = some false
    · right
      exact ⟨i, rfl, decide_eq_true hMissing, hMissing, if_pos (decide_eq_true hMissing)⟩
    · left
      exact ⟨if_neg (by simpa using hMissing), Or.inr (decide_eq_false hMissing)⟩

theorem Tracked.markChunk {q : RxQueuePair} (h : q.Tracked cfg) (seq : Nat) :
    (q.markChunk cfg seq).Tracked cfg := by
  rcases markChunk_cases cfg q seq with ⟨hSame, -⟩ | ⟨i, -, -, hMissing, hMarked⟩
  · rw [hSame]
    exact h
  · rw [hMarked]
    refine ⟨h.expected_pos, h.unannounced, h.chunks, ?_, ?_⟩
    · exact List.length_set.trans h.length
    · simp only [markedSum_set _ hMissing, h.received]

theorem Tracked.countPayload {q : RxQueuePair} (h : q.Tracked cfg) (seq payloadSize : Nat) :
    (q.countPayload cfg seq payloadSize).Tracked cfg := by
  unfold RxQueuePair.countPayload
  split
  · rename_i hExpected
    refine ⟨h.expected_pos, fun hQuiet => ?_, h.chunks, h.length, h.received⟩
    have hNone := (h.unannounced hQuiet).1
    omega
  · exact h

/-- A message that does not complete lacks a chunk. -/
theorem Tracked.lacks_of_not_completes {q : RxQueuePair} (h : q.Tracked cfg) (hMtu : 0 < cfg.mtu)
    (hOpen : ¬ q.completes) : q.Lacks := by
  intro hAccounted hNotified
  have hPos := h.expected_pos hAccounted
  have hChunks : q.expectedChunks > 0 := h.chunks ▸ chunkCount_pos hMtu hPos
  by_contra hAll
  apply hOpen
  unfold completes
  rw [hNotified]
  exact decide_eq_true ⟨rfl, hPos, Or.inl ⟨hChunks, Nat.le_of_not_lt hAll⟩⟩

end RxQueuePair

/-! ## Accounts -/

namespace Account

/-- An announcement is new to the message or leaves it alone. -/
theorem applyNewAnnouncement_msg_cases (cfg : CbConfig) (a : Account) (tag : CreditBouncerTag) :
    a.isNewAnnouncement tag = false ∧ (a.applyNewAnnouncement cfg tag).msg = a.msg ∨
      a.isNewAnnouncement tag = true ∧ ∃ pending, (a.applyNewAnnouncement cfg tag).msg =
        { a.msg.announce cfg tag.creditReqBytes with pendingDemandBytes := pending }.scheduleResend := by
  unfold applyNewAnnouncement
  cases a.isNewAnnouncement tag with
  | false => exact Or.inl ⟨rfl, rfl⟩
  | true =>
    right
    refine ⟨rfl, ?_⟩
    simp only [if_true]
    split
    · exact ⟨_, rfl⟩
    · exact ⟨_, rfl⟩

theorem countArrival_msg_cases (cfg : CbConfig) (a : Account) (p : CbPacket) :
    a.isNewAnnouncement p.tag = false ∧ (a.countArrival cfg p).msg = a.msg ∨
      a.isNewAnnouncement p.tag = true ∧ ∃ pending, (a.countArrival cfg p).msg =
        { a.msg.announce cfg p.tag.creditReqBytes with
          pendingDemandBytes := pending }.scheduleResend := by
  unfold countArrival
  simp only
  split
  · exact applyNewAnnouncement_msg_cases cfg (a.updateAimd cfg p p.tag.priorityFlow) p.tag
  · exact applyNewAnnouncement_msg_cases cfg a p.tag

theorem countRequest_msg_cases (cfg : CbConfig) (a : Account) (p : CbPacket) :
    a.isNewAnnouncement p.tag = false ∧ (a.countRequest cfg p).msg = a.msg ∨
      a.isNewAnnouncement p.tag = true ∧ ∃ pending, (a.countRequest cfg p).msg =
        { a.msg.announce cfg p.tag.creditReqBytes with
          pendingDemandBytes := pending }.scheduleResend := by
  unfold countRequest
  simp only
  split
  · exact applyNewAnnouncement_msg_cases cfg (a.updateAimd cfg p false) p.tag
  · exact applyNewAnnouncement_msg_cases cfg a p.tag

/-- A new announcement asks for some bytes. -/
theorem pos_of_isNewAnnouncement {a : Account} {tag : CreditBouncerTag}
    (h : a.isNewAnnouncement tag = true) : 0 < tag.creditReqBytes := by
  unfold isNewAnnouncement at h
  exact (of_decide_eq_true h).1

theorem isNewAnnouncement_eq_true {a : Account} {tag : CreditBouncerTag} :
    a.isNewAnnouncement tag = true ↔
      0 < tag.creditReqBytes ∧ a.msg.announcementAccounted = false := by
  unfold isNewAnnouncement
  rw [decide_eq_true_eq, Bool.not_eq_true']

/-- After a data packet its message is announced if it was, or if the packet announces it. -/
theorem countArrival_announced_iff (cfg : CbConfig) (a : Account) (p : CbPacket) :
    (a.countArrival cfg p).msg.announcementAccounted = true ↔
      a.msg.announcementAccounted = true ∨ 0 < p.tag.creditReqBytes := by
  rcases countArrival_msg_cases cfg a p with ⟨hOld, hSame⟩ | ⟨hNew, pending, hAnnounced⟩
  · rw [hSame]
    refine ⟨Or.inl, fun hEither => ?_⟩
    by_contra hQuiet
    have hRequests := hEither.resolve_left hQuiet
    rw [isNewAnnouncement_eq_true.mpr ⟨hRequests, Bool.eq_false_iff.mpr hQuiet⟩] at hOld
    cases hOld
  · obtain ⟨running, hEq⟩ := RxQueuePair.scheduleResend_eq
      { a.msg.announce cfg p.tag.creditReqBytes with pendingDemandBytes := pending }
    rw [hAnnounced, hEq]
    exact iff_of_true rfl (Or.inr (pos_of_isNewAnnouncement hNew))

theorem receiveChunk_msg (cfg : CbConfig) (a : Account) (p : CbPacket) :
    (a.receiveChunk cfg p).msg =
      if a.msg.firstSeenChunk cfg p.ch.seq then
        ((a.msg.markChunk cfg p.ch.seq).learnFlowId p.flowId).countPayload cfg p.ch.seq p.payloadSize
      else (a.msg.markChunk cfg p.ch.seq).learnFlowId p.flowId := by
  unfold receiveChunk
  simp only
  split
  · rfl
  · rfl

theorem tracked_receiveChunk {a : Account} (h : a.msg.Tracked cfg) (p : CbPacket) :
    (a.receiveChunk cfg p).msg.Tracked cfg := by
  have hMarked : ((a.msg.markChunk cfg p.ch.seq).learnFlowId p.flowId).Tracked cfg :=
    (h.markChunk p.ch.seq).congr (RxQueuePair.sameChunks_learnFlowId _ _)
  rw [receiveChunk_msg]
  split
  · exact hMarked.countPayload p.ch.seq p.payloadSize
  · exact hMarked

/-- What an announcement does to a message keeps it tracked. -/
theorem tracked_of_announcement (hMtu : 0 < cfg.mtu) {a b : Account} {p : CbPacket}
    (h : a.msg.Tracked cfg) (hFits : p.tag.creditReqBytes < 2 ^ 32)
    (hCases : a.isNewAnnouncement p.tag = false ∧ b.msg = a.msg ∨
      a.isNewAnnouncement p.tag = true ∧ ∃ pending, b.msg =
        { a.msg.announce cfg p.tag.creditReqBytes with
          pendingDemandBytes := pending }.scheduleResend) :
    b.msg.Tracked cfg ∧ (a.msg.Lacks → b.msg.Lacks) := by
  rcases hCases with ⟨-, hOld⟩ | ⟨hNew, pending, hAnnounced⟩
  · rw [hOld]
    exact ⟨h, id⟩
  · have hSame := RxQueuePair.SameChunks.trans (r := { a.msg.announce cfg p.tag.creditReqBytes with
      pendingDemandBytes := pending }) (q := a.msg.announce cfg p.tag.creditReqBytes)
      ⟨rfl, rfl, rfl, rfl, rfl, rfl⟩ (RxQueuePair.sameChunks_scheduleResend _)
    obtain ⟨hTracked, hLacks⟩ :=
      RxQueuePair.tracked_announce hMtu a.msg (pos_of_isNewAnnouncement hNew) hFits
    rw [hAnnounced]
    refine ⟨hTracked.congr hSame, fun _ => hLacks.congr hSame ?_⟩
    obtain ⟨running, hEq⟩ := RxQueuePair.scheduleResend_eq
      { a.msg.announce cfg p.tag.creditReqBytes with pendingDemandBytes := pending }
    rw [hEq]

end Account

/-! ## Steps -/

namespace CbReceiver

/-- A packet finds a tracked message. -/
theorem tracked_accountOf (hMtu : 0 < cfg.mtu) {s : CbReceiver} {p : CbPacket}
    (h : ∀ q, s.rxQpMap p.rxKey = some q → q.Tracked cfg ∧ q.Lacks) :
    (s.accountOf cfg p).msg.Tracked cfg ∧ (s.accountOf cfg p).msg.Lacks := by
  rcases accountOf_msg_cases cfg s p with hKnown | ⟨-, hNew⟩
  · exact h _ hKnown
  · rw [hNew]
    exact ⟨RxQueuePair.tracked_newRxQp hMtu p, nofun⟩

theorem tracked_receiveData (hMtu : 0 < cfg.mtu) {s : CbReceiver} {p : CbPacket}
    (h : ∀ q, s.rxQpMap p.rxKey = some q → q.Tracked cfg ∧ q.Lacks)
    (hFits : p.tag.creditReqBytes < 2 ^ 32) :
    ((s.accountOf cfg p).receiveData cfg p).msg.Tracked cfg :=
  Account.tracked_receiveChunk (Account.tracked_of_announcement hMtu (tracked_accountOf hMtu h).1 hFits
    (Account.countArrival_msg_cases cfg _ p)).1 p

/-- A resend timer changes its own state and the limit it has computed. -/
theorem resendMsg_eq (cfg : CbConfig) (st : SenderState) (q : RxQueuePair) :
    ∃ limit running, resendMsg cfg st q =
      { q with grantedChunkLimit := limit, resendRunning := running } := by
  unfold resendMsg
  simp only
  split
  · exact ⟨q.grantedChunkLimit, false, rfl⟩
  · split
    · exact ⟨q.grantedChunkLimit, false, rfl⟩
    · split
      · unfold RxQueuePair.scheduleResend
        split
        · exact ⟨_, false, rfl⟩
        · exact ⟨_, true, rfl⟩
      · exact ⟨_, false, rfl⟩

/-- What a step leaves of a message is tracked, and lacks a chunk until it completes. -/
theorem MsgAfter.tracked (hMtu : 0 < cfg.mtu) {s : CbReceiver} {k : RxKey} {e : Event}
    {q : RxQueuePair} (hAfter : MsgAfter cfg s k e q)
    (h : ∀ q, s.rxQpMap k = some q → q.Tracked cfg ∧ q.Lacks)
    (hFits : ∀ p, e = .arrive p → p.rxKey = k → p.tag.creditReqBytes < 2 ^ 32) :
    q.Tracked cfg ∧ q.Lacks := by
  cases hAfter with
  | kept _ _ hOld => exact h q hOld
  | completed p hData hKey hDone =>
    subst hKey
    have hTracked := tracked_receiveData hMtu h (hFits p rfl rfl)
    exact ⟨hTracked.congr (RxQueuePair.sameChunks_notifyCompletion _),
      RxQueuePair.lacks_notifyCompletion _⟩
  | data p hData hKey hOpen =>
    subst hKey
    have hTracked := tracked_receiveData hMtu h (hFits p rfl rfl)
    have hSame := RxQueuePair.sameChunks_scheduleResend ((s.accountOf cfg p).receiveData cfg p).msg
    refine ⟨hTracked.congr hSame, (hTracked.lacks_of_not_completes hMtu hOpen).congr hSame ?_⟩
    obtain ⟨running, hEq⟩ := RxQueuePair.scheduleResend_eq ((s.accountOf cfg p).receiveData cfg p).msg
    rw [hEq]
  | request p hRequest hKey =>
    subst hKey
    obtain ⟨hTracked, hLacks⟩ := tracked_accountOf hMtu h
    obtain ⟨hTracked', hLacks'⟩ := Account.tracked_of_announcement hMtu hTracked (hFits p rfl rfl)
      (Account.countRequest_msg_cases cfg _ p)
    exact ⟨hTracked', hLacks' hLacks⟩
  | bounced p q' hBounced hKey hOld =>
    obtain ⟨hTracked, hLacks⟩ := h q' hOld
    have hSame : q'.SameChunks ((s.openAccount k q').bounce p.tag).msg.scheduleResend :=
      RxQueuePair.SameChunks.trans (r := ((s.openAccount k q').bounce p.tag).msg)
        ⟨rfl, rfl, rfl, rfl, rfl, rfl⟩ (RxQueuePair.sameChunks_scheduleResend _)
    refine ⟨hTracked.congr hSame, hLacks.congr hSame ?_⟩
    obtain ⟨running, hEq⟩ := RxQueuePair.scheduleResend_eq ((s.openAccount k q').bounce p.tag).msg
    rw [hEq]
    rfl
  | granted order c q' data wire hc hTry hKey hOld =>
    obtain ⟨hTracked, hLacks⟩ := h q' hOld
    exact ⟨hTracked.congr ⟨rfl, rfl, rfl, rfl, rfl, rfl⟩,
      hLacks.congr (q := q') ⟨rfl, rfl, rfl, rfl, rfl, rfl⟩ rfl⟩
  | fired q' hOld hRunning =>
    obtain ⟨hTracked, hLacks⟩ := h q' hOld
    obtain ⟨limit, running, hEq⟩ := resendMsg_eq cfg (s.getOrCreateSenderState k) q'
    rw [hEq]
    exact ⟨hTracked.congr ⟨rfl, rfl, rfl, rfl, rfl, rfl⟩,
      hLacks.congr (q := q') ⟨rfl, rfl, rfl, rfl, rfl, rfl⟩ rfl⟩

/-! ## All messages -/

/-- The 32-bit field of an announced size. -/
def FitsSize (_ : CbReceiver) : Event → Prop
  | .arrive p => p.tag.creditReqBytes < 2 ^ 32
  | _ => True

instance decidableFitsSize (s : CbReceiver) (e : Event) : Decidable (s.FitsSize e) :=
  match e with
  | .arrive p => inferInstanceAs (Decidable (p.tag.creditReqBytes < 2 ^ 32))
  | .grantTick _ => isTrue trivial
  | .resendTimeout _ => isTrue trivial

/-- Every message is tracked, and lacks a chunk until it completes. -/
def Chunked (cfg : CbConfig) (s : CbReceiver) : Prop :=
  ∀ k q, s.rxQpMap k = some q → q.Tracked cfg ∧ q.Lacks

theorem chunked_init : ({} : CbReceiver).Chunked cfg := nofun

theorem Chunked.step (hMtu : 0 < cfg.mtu) {s t : CbReceiver} (h : s.Chunked cfg) {e : Event}
    (hFits : s.FitsSize e) (hStep : s.step cfg e = some t) : t.Chunked cfg := by
  intro k q hq
  apply (msgAfter_step hStep hq).tracked hMtu (h k)
  rintro p rfl -
  exact hFits

end CbReceiver

end Dpdq.Ns3
