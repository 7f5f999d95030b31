import Dpdq.Lib.Runs
import Dpdq.Ns3.CbReceiverChunks
import Dpdq.Ns3.CbSender

/-!
# RESEND

The timer of a message asks for the maximal runs of missing chunks below the granted limit, and never
reads its bitmap past the end. The sender answers each range with the chunks of it that lie wholly
below `snd_nxt`, in order (`resend_recovery`).
-/

namespace Dpdq.Ns3

open Dpdq.Lib

variable {cfg : CbConfig}

namespace RxQueuePair

/-- Chunk `i` has not arrived. -/
def Missing (q : RxQueuePair) (i : Nat) : Prop := q.receivedChunkBitmap[i]? = some false

/-! ## The bitmap -/

/-- The bitmap has one entry for each chunk, and the numbers and offsets of the chunks fit into 32
bits. -/
structure Sized (cfg : CbConfig) (q : RxQueuePair) : Prop where
  length : q.receivedChunkBitmap.length = q.expectedChunks
  chunks : q.expectedChunks < 2 ^ 32
  offset : ∀ i < q.expectedChunks, i * cfg.mtu < 2 ^ 32

theorem Sized.congr {q r : RxQueuePair} (h : q.Sized cfg) (hSame : q.SameChunks r) : r.Sized cfg := by
  obtain ⟨-, -, hChunks, -, -, hBitmap⟩ := hSame
  constructor
  · rw [hBitmap, hChunks]
    exact h.length
  · rw [hChunks]
    exact h.chunks
  · rw [hChunks]
    exact h.offset

theorem sized_newRxQp (p : CbPacket) : p.newRxQp.Sized cfg where
  length := rfl
  chunks := by
    show 0 < 2 ^ 32
    decide
  offset := nofun

theorem sized_announce (q : RxQueuePair) {creditReqBytes : Nat} (hFits : creditReqBytes < 2 ^ 32) :
    (q.announce cfg creditReqBytes).Sized cfg := by
  have hCount : (q.announce cfg creditReqBytes).expectedChunks =
      if cfg.mtu = 0 then 0 else (creditReqBytes + cfg.mtu - 1) / cfg.mtu % 2 ^ 32 := rfl
  constructor
  · exact List.length_replicate
  · rw [hCount]
    split
    · decide
    · exact Nat.mod_lt _ (by decide)
  · intro i hi
    rw [hCount] at hi
    split at hi
    · exact absurd hi (Nat.not_lt_zero i)
    · rename_i hMtu
      have hChunk : i < chunkCount cfg creditReqBytes := Nat.lt_of_lt_of_le hi (Nat.mod_le _ _)
      exact ((div_lt_chunkCount_iff (Nat.pos_of_ne_zero hMtu) i creditReqBytes).mp hChunk).trans hFits

theorem Sized.markChunk {q : RxQueuePair} (h : q.Sized cfg) (seq : Nat) :
    (q.markChunk cfg seq).Sized cfg := by
  rcases markChunk_cases cfg q seq with ⟨hSame, -⟩ | ⟨i, -, -, -, hMarked⟩
  · rw [hSame]
    exact h
  · rw [hMarked]
    exact ⟨List.length_set.trans h.length, h.chunks, h.offset⟩

theorem Sized.countPayload {q : RxQueuePair} (h : q.Sized cfg) (seq payloadSize : Nat) :
    (q.countPayload cfg seq payloadSize).Sized cfg := by
  unfold RxQueuePair.countPayload
  split
  · exact ⟨h.length, h.chunks, h.offset⟩
  · exact h

end RxQueuePair

namespace Account

theorem sized_receiveChunk {a : Account} (h : a.msg.Sized cfg) (p : CbPacket) :
    (a.receiveChunk cfg p).msg.Sized cfg := by
  have hMarked : ((a.msg.markChunk cfg p.ch.seq).learnFlowId p.flowId).Sized cfg :=
    (h.markChunk p.ch.seq).congr (RxQueuePair.sameChunks_learnFlowId _ _)
  rw [receiveChunk_msg]
  split
  · exact hMarked.countPayload p.ch.seq p.payloadSize
  · exact hMarked

theorem sized_of_announcement {a b : Account} {p : CbPacket} (h : a.msg.Sized cfg)
    (hFits : p.tag.creditReqBytes < 2 ^ 32)
    (hCases : a.isNewAnnouncement p.tag = false ∧ b.msg = a.msg ∨
      a.isNewAnnouncement p.tag = true ∧ ∃ pending, b.msg =
        { a.msg.announce cfg p.tag.creditReqBytes with
          pendingDemandBytes := pending }.scheduleResend) :
    b.msg.Sized cfg := by
  rcases hCases with ⟨-, hOld⟩ | ⟨-, pending, hAnnounced⟩
  · rw [hOld]
    exact h
  · rw [hAnnounced]
    have hSame := RxQueuePair.SameChunks.trans (r := { a.msg.announce cfg p.tag.creditReqBytes with
      pendingDemandBytes := pending }) (q := a.msg.announce cfg p.tag.creditReqBytes)
      ⟨rfl, rfl, rfl, rfl, rfl, rfl⟩ (RxQueuePair.sameChunks_scheduleResend _)
    exact (RxQueuePair.sized_announce a.msg hFits).congr hSame

end Account

namespace CbReceiver

theorem sized_accountOf {s : CbReceiver} {p : CbPacket}
    (h : ∀ q, s.rxQpMap p.rxKey = some q → q.Sized cfg) : (s.accountOf cfg p).msg.Sized cfg := by
  rcases accountOf_msg_cases cfg s p with hKnown | ⟨-, hNew⟩
  · exact h _ hKnown
  · rw [hNew]
    exact RxQueuePair.sized_newRxQp p

theorem sized_receiveData {s : CbReceiver} {p : CbPacket}
    (h : ∀ q, s.rxQpMap p.rxKey = some q → q.Sized cfg) (hFits : p.tag.creditReqBytes < 2 ^ 32) :
    ((s.accountOf cfg p).receiveData cfg p).msg.Sized cfg :=
  Account.sized_receiveChunk (Account.sized_of_announcement (sized_accountOf h) hFits
    (Account.countArrival_msg_cases cfg _ p)) p

theorem MsgAfter.sized {s : CbReceiver} {k : RxKey} {e : Event} {q : RxQueuePair}
    (hAfter : MsgAfter cfg s k e q) (h : ∀ q, s.rxQpMap k = some q → q.Sized cfg)
    (hFits : s.FitsSize e) : q.Sized cfg := by
  cases hAfter with
  | kept _ _ hOld => exact h q hOld
  | completed p hData hKey hDone =>
    subst hKey
    exact (sized_receiveData h hFits).congr (RxQueuePair.sameChunks_notifyCompletion _)
  | data p hData hKey hOpen =>
    subst hKey
    exact (sized_receiveData h hFits).congr (RxQueuePair.sameChunks_scheduleResend _)
  | request p hRequest hKey =>
    subst hKey
    exact Account.sized_of_announcement (sized_accountOf h) hFits
      (Account.countRequest_msg_cases cfg _ p)
  | bounced p q' hBounced hKey hOld =>
    exact (h q' hOld).congr (RxQueuePair.SameChunks.trans
      (r := ((s.openAccount k q').bounce p.tag).msg) ⟨rfl, rfl, rfl, rfl, rfl, rfl⟩
      (RxQueuePair.sameChunks_scheduleResend _))
  | granted order c q' data wire hc hTry hKey hOld =>
    exact (h q' hOld).congr ⟨rfl, rfl, rfl, rfl, rfl, rfl⟩
  | fired q' hOld hRunning =>
    obtain ⟨limit, running, hEq⟩ := resendMsg_eq cfg (s.getOrCreateSenderState k) q'
    rw [hEq]
    exact (h q' hOld).congr ⟨rfl, rfl, rfl, rfl, rfl, rfl⟩

theorem sized_of_run {es : List Event} {s : CbReceiver}
    (hFits : (cbReceiver cfg).Guarded FitsSize {} es) (hRun : (cbReceiver cfg).run {} es = some s)
    {k : RxKey} {q : RxQueuePair} (hq : s.rxQpMap k = some q) : q.Sized cfg := by
  refine Machine.guarded_induction (M := cbReceiver cfg) (C := FitsSize)
    (I := fun s => ∀ k q, s.rxQpMap k = some q → q.Sized cfg) nofun ?_ hFits hRun k q hq
  intro s e t h hFits hStep k q hq
  exact (msgAfter_step hStep hq).sized (h k) hFits

/-! ## The receiver -/

/-- The scan of the bitmap. -/
theorem listsRuns_missingRuns (bitmap : List Bool) (limit : Nat) :
    ListsRuns (fun i => bitmap[i]? = some false) limit (missingRuns bitmap limit) := by
  let step (acc : List (Nat × Nat) × Nat × Nat) (i : Nat) : List (Nat × Nat) × Nat × Nat :=
    if bitmap[i]? = some false then
      (acc.1, if acc.2.2 = 0 then i else acc.2.1, acc.2.2 + 1)
    else if acc.2.2 ≠ 0 then (acc.1 ++ [(acc.2.1, acc.2.2)], acc.2.1, 0)
    else acc
  have hScanned (n : Nat) : ∀ runs start len,
      (List.range n).foldl step ([], 0, 0) = (runs, start, len) →
        Scanned (fun i => bitmap[i]? = some false) n runs start len := by
    induction n with
    | zero =>
      rintro runs start len ⟨⟩
      exact scanned_zero 0
    | succ n ih =>
      intro runs start len hFold
      rw [List.range_succ, List.foldl_append] at hFold
      generalize hOld : (List.range n).foldl step ([], 0, 0) = old at hFold
      obtain ⟨runs', start', len'⟩ := old
      have hPrefix := ih runs' start' len' hOld
      simp only [List.foldl_cons, List.foldl_nil, step] at hFold
      split at hFold
      · rename_i hMissing
        cases hFold
        exact hPrefix.extend hMissing
      · rename_i hThere
        have hClosed := hPrefix.close hThere start
        unfold flushRun at hClosed
        split at hFold
        · rename_i hOpen
          cases hFold
          rwa [if_pos (Nat.pos_of_ne_zero hOpen)] at hClosed
        · rename_i hShut
          cases hFold
          rw [if_neg (fun hOpen => hShut (Nat.ne_of_gt hOpen))] at hClosed
          rwa [not_not.mp hShut]
  have hRuns : missingRuns bitmap limit =
      flushRun ((List.range limit).foldl step ([], 0, 0)).1
        ((List.range limit).foldl step ([], 0, 0)).2.1
        ((List.range limit).foldl step ([], 0, 0)).2.2 := by
    unfold missingRuns flushRun
    simp only [Nat.pos_iff_ne_zero]
    rfl
  rw [hRuns]
  exact (hScanned limit _ _ _ rfl).listsRuns

theorem grantedChunkLimit_le (cfg : CbConfig) (q : RxQueuePair) :
    grantedChunkLimit cfg q ≤ q.expectedChunks := Nat.min_le_right _ _

/-- The timer of an incomplete message asks for all runs. -/
theorem handleResendTimeout_resends (s : CbReceiver) (k : RxKey) {q : RxQueuePair}
    (hSized : q.Sized cfg) (hOpen : q.completionNotified = false) :
    (s.handleResendTimeout cfg k q).2 =
      (missingRuns q.receivedChunkBitmap (grantedChunkLimit cfg q)).map (resendPacket k q) := by
  have hNone (hLimit : grantedChunkLimit cfg q = 0) :
      missingRuns q.receivedChunkBitmap (grantedChunkLimit cfg q) = [] := by
    rw [hLimit]
    rfl
  have hLimit := grantedChunkLimit_le cfg q
  unfold handleResendTimeout
  simp only [hOpen, Bool.false_eq_true, false_or]
  split
  · rename_i hEmpty
    rw [hNone (by omega)]
    rfl
  · split
    · rename_i hMtu
      rw [hNone]
      · rfl
      · unfold grantedChunkLimit
        simp [hMtu]
    · show (if grantedChunkLimit cfg q > 0 ∧ q.receivedChunkBitmap ≠ [] then
        missingRuns q.receivedChunkBitmap (grantedChunkLimit cfg q) else []).map (resendPacket k q) = _
      split
      · rfl
      · rename_i hNothing
        rw [hNone]
        by_contra hSome
        apply hNothing
        refine ⟨Nat.pos_of_ne_zero hSome, fun hBitmap => ?_⟩
        have hLength := hSized.length
        rw [hBitmap, List.length_nil] at hLength
        omega

end CbReceiver

/-! ## The sender -/

/-- The payload of chunk `i` of a message. -/
def QueuePair.chunkPayload (cfg : CbConfig) (tx : QueuePair) (i : Nat) : Nat :=
  cbNextChunkPayloadBytes (i * cfg.mtu) tx.size cfg.mtu

/-- Chunk `i` is one of the message, and lies wholly below `snd_nxt`. -/
def QueuePair.Sent (cfg : CbConfig) (tx : QueuePair) (i : Nat) : Prop :=
  i * cfg.mtu < tx.size ∧ i * cfg.mtu + tx.chunkPayload cfg i ≤ tx.sndNxt

instance (cfg : CbConfig) (tx : QueuePair) (i : Nat) : Decidable (tx.Sent cfg i) :=
  inferInstanceAs (Decidable (_ ∧ _))

/-- The loop stops at the first chunk that is out of range, and so are all chunks after it. -/
theorem takeWhile_range' {p : Nat → Bool} (hDown : ∀ i, p (i + 1) = true → p i = true)
    (start count : Nat) :
    (List.range' start count).takeWhile p = (List.range' start count).filter p := by
  have hAfter {i : Nat} (hi : p i = false) (count : Nat) :
      (List.range' (i + 1) count).filter p = [] := by
    induction count generalizing i with
    | zero => rfl
    | succ count ih =>
      have hNext : p (i + 1) = false := by
        apply Bool.eq_false_iff.mpr
        exact fun h => absurd (hDown i h) (Bool.eq_false_iff.mp hi)
      rw [List.range'_succ, List.filter_cons_of_neg (by rw [hNext]; decide)]
      exact ih hNext
  induction count generalizing start with
  | zero => rfl
  | succ count ih =>
    rw [List.range'_succ]
    cases hp : p start with
    | true => rw [List.takeWhile_cons_of_pos hp, List.filter_cons_of_pos hp, ih]
    | false =>
      rw [List.takeWhile_cons_of_neg (by rw [hp]; decide), List.filter_cons_of_neg (by rw [hp]; decide),
        hAfter hp]

/-- The answer to a RESEND whose chunks start within 32 bits. -/
theorem receiveResend_spec {sender : CbSender} {tx : QueuePair} {p : CbPacket}
    (hMtu : 0 < cfg.mtu) (hTx : sender.qpMap ⟨p.ch.dport, p.ch.pg⟩ = some tx)
    (hFits : ∀ i < p.tag.resendStartIdx + p.tag.resendNumChunks, i < 2 ^ 32 ∧ i * cfg.mtu < 2 ^ 32) :
    (sender.receiveResend cfg p).map (fun d => (d.ch.seq, d.payloadSize)) =
      ((List.range' p.tag.resendStartIdx p.tag.resendNumChunks).filter (tx.Sent cfg)).map
        fun i => (i * cfg.mtu, tx.chunkPayload cfg i) := by
  let inMessage (i : Nat) : Bool := i < 2 ^ 32 ∧ i * cfg.mtu < tx.size
  let chunks := List.range' p.tag.resendStartIdx p.tag.resendNumChunks
  have hRange : (List.range p.tag.resendNumChunks).map (p.tag.resendStartIdx + ·) = chunks := by
    rw [List.range_eq_range', List.map_add_range']
    rfl
  have hDown (i : Nat) (hi : inMessage (i + 1) = true) : inMessage i = true := by
    obtain ⟨hWord, hSize⟩ := of_decide_eq_true hi
    rw [Nat.succ_mul] at hSize
    exact decide_eq_true ⟨by omega, by omega⟩
  have hFilter : (chunks.takeWhile inMessage).filter
      (fun i => i * cfg.mtu + tx.chunkPayload cfg i ≤ tx.sndNxt) = chunks.filter (tx.Sent cfg) := by
    rw [takeWhile_range' hDown, List.filter_filter]
    apply List.filter_congr
    intro i hi
    obtain ⟨-, hLess⟩ := List.mem_range'_1.mp hi
    rw [Bool.eq_iff_iff, Bool.and_eq_true, decide_eq_true_iff, decide_eq_true_iff,
      decide_eq_true_iff]
    constructor
    · rintro ⟨hEnd, -, hSize⟩
      exact ⟨hSize, hEnd⟩
    · rintro ⟨hSize, hEnd⟩
      exact ⟨hEnd, (hFits i hLess).1, hSize⟩
  have hAnswer : sender.receiveResend cfg p = (chunks.filter (tx.Sent cfg)).map fun i =>
      resendDataPacket ⟨p.ch.dport, p.ch.pg⟩ tx (i * cfg.mtu) (tx.chunkPayload cfg i) := by
    unfold CbSender.receiveResend
    simp only [hTx]
    rw [if_neg (Nat.ne_of_gt hMtu), hRange, ← hFilter]
    rfl
  rw [hAnswer, List.map_map]
  apply List.map_congr_left
  intro i hi
  obtain ⟨-, hLess⟩ := List.mem_range'_1.mp (List.mem_of_mem_filter hi)
  show (i * cfg.mtu % 2 ^ 32, tx.chunkPayload cfg i) = _
  rw [Nat.mod_eq_of_lt (hFits i hLess).2]

/-! ## Both sides -/

/-- When the resend timer of a message fires, its receiver asks for exactly the maximal runs of
missing chunks below the granted limit, which is within the bitmap; and a sender that knows the
message answers each of them with exactly the chunks that lie wholly below its `snd_nxt`. -/
theorem resend_recovery (cfg : CbConfig) {es : List CbReceiver.Event} {s : CbReceiver}
    (hFits : (cbReceiver cfg).Guarded CbReceiver.FitsSize {} es)
    (hRun : (cbReceiver cfg).run {} es = some s) {k : RxKey} {q : RxQueuePair}
    (hq : s.rxQpMap k = some q) (hRunning : q.resendRunning = true) :
    CbReceiver.grantedChunkLimit cfg q ≤ q.receivedChunkBitmap.length ∧
      ∃ runs, (s.handleResendTimeout cfg k q).2 = runs.map (CbReceiver.resendPacket k q) ∧
        ListsRuns q.Missing (CbReceiver.grantedChunkLimit cfg q) runs ∧
        ∀ r ∈ runs, ∀ (sender : CbSender) (tx : QueuePair),
          sender.qpMap ⟨k.dport, k.pg⟩ = some tx →
            (sender.receiveResend cfg (CbReceiver.resendPacket k q r)).map
                (fun d => (d.ch.seq, d.payloadSize)) =
              ((List.range' r.1 r.2).filter (tx.Sent cfg)).map
                fun i => (i * cfg.mtu, tx.chunkPayload cfg i) := by
  have hSized := CbReceiver.sized_of_run hFits hRun hq
  have hOpen := ((listed_of_reachable ⟨es, hRun⟩).flags k q hq).resend hRunning
  have hLimit := CbReceiver.grantedChunkLimit_le cfg q
  have hRuns := CbReceiver.listsRuns_missingRuns q.receivedChunkBitmap
    (CbReceiver.grantedChunkLimit cfg q)
  refine ⟨hSized.length ▸ hLimit, _, s.handleResendTimeout_resends k hSized hOpen, hRuns, ?_⟩
  intro r hr sender tx hTx
  have hRun := (hRuns.mem r).mp hr
  have hWithin := hRun.within
  have hPos := hRun.pos
  have hMtu : 0 < cfg.mtu := by
    by_contra hZero
    have hNone : CbReceiver.grantedChunkLimit cfg q = 0 := by
      unfold CbReceiver.grantedChunkLimit
      simp [Nat.eq_zero_of_not_pos hZero]
    omega
  apply receiveResend_spec hMtu hTx
  intro i hi
  have hChunk : i < q.expectedChunks := by
    change i < r.1 + r.2 at hi
    omega
  exact ⟨hChunk.trans hSized.chunks, hSized.offset i hChunk⟩

/-- A message of three chunks of which the second one arrives, until its resend timer fires. -/
def resendSampleRun : List CbReceiver.Event :=
  [.grantReq 7 1000 4000, .grantTick [7], .grantTick [7], .grantTick [7],
    .scheduledData 7 1000 1466 1466]

theorem resend_recovery_sample :
    ∃ s q, (cbReceiver {}).run {} resendSampleRun = some s ∧ s.rxQpMap ⟨7, 3, 1000⟩ = some q ∧
      ∃ runs, (s.handleResendTimeout {} ⟨7, 3, 1000⟩ q).2 =
        runs.map (CbReceiver.resendPacket ⟨7, 3, 1000⟩ q) ∧ ListsRuns q.Missing 3 runs := by
  have hRun : ((cbReceiver {}).run {} resendSampleRun).map (fun s => (s.rxQpMap ⟨7, 3, 1000⟩).map
      fun q => (q.resendRunning, CbReceiver.grantedChunkLimit {} q)) = some (some (true, 3)) := by
    decide +kernel
  obtain ⟨s, hs, hKnown⟩ := Option.map_eq_some_iff.mp hRun
  obtain ⟨q, hq, hState⟩ := Option.map_eq_some_iff.mp hKnown
  obtain ⟨hRunning, hLimit⟩ := Prod.mk.inj hState
  obtain ⟨-, runs, hResends, hRuns, -⟩ :=
    resend_recovery {} (by decide +kernel) hs hq hRunning
  exact ⟨s, q, hs, hq, runs, hResends, hLimit ▸ hRuns⟩

end Dpdq.Ns3
