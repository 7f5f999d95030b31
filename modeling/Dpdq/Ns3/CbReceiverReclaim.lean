import Dpdq.Ns3.CbReceiverLedger
import Dpdq.Ns3.CbReceiverMessage

/-!
# The credit that a message pays back

A first-seen chunk pays back the wire credit of its payload. From the announcement on, the bitmap
makes every chunk first-seen once, and the credit paid back is covered by the marked chunks. Before
the announcement there is no bitmap, and every packet of a chunk pays again.
-/

namespace Dpdq.Ns3

open Dpdq.Lib

variable {cfg : CbConfig}

/-- The wire bytes of a chunk of a message. -/
def chunkWire (cfg : CbConfig) (messageBytes chunk : Nat) : Nat :=
  cbAddHeaderOverhead (chunkSize cfg messageBytes chunk) cfg.mtu true

namespace Account

/-- No more than the wire bytes of its chunk. -/
theorem reclaimedWire_le_chunkWire {messageBytes : Nat} {a : Account} {p : CbPacket}
    (hSize : p.payloadSize = chunkSize cfg messageBytes (p.ch.seq / cfg.mtu)) :
    a.reclaimedWire cfg p ≤ chunkWire cfg messageBytes (p.ch.seq / cfg.mtu) := by
  unfold reclaimedWire
  split
  · apply cbAddHeaderOverhead_mono
    · rw [hSize]
      exact Nat.min_le_left _ _
    · exact Nat.min_le_left _ _
  · exact Nat.zero_le _

/-- Without outstanding data there is nothing to pay back. -/
theorem reclaimedWire_of_no_data {a : Account} {p : CbPacket} (h : a.sender.outstandingDataBytes = 0) :
    a.reclaimedWire cfg p = 0 := by
  unfold reclaimedWire
  split
  · show cbAddHeaderOverhead (min p.payloadSize a.sender.outstandingDataBytes) cfg.mtu true = 0
    rw [h, Nat.min_zero, cbAddHeaderOverhead_zero]
  · rfl

theorem outstandingDataBytes_updateAimd (a : Account) (p : CbPacket) (priorityFlow : Bool) :
    (a.updateAimd cfg p priorityFlow).sender.outstandingDataBytes =
      a.sender.outstandingDataBytes := by
  show (a.sender.updateAimdOnData cfg _ _ _).outstandingDataBytes = _
  unfold SenderState.updateAimdOnData
  split
  · rfl
  · rfl

theorem countArrival_outstandingDataBytes (cfg : CbConfig) {a : Account} {p : CbPacket}
    (hOld : a.isNewAnnouncement p.tag = false) :
    (a.countArrival cfg p).sender.outstandingDataBytes = a.sender.outstandingDataBytes := by
  have hMarked (b : Account) (hb : b.isNewAnnouncement p.tag = false) :
      b.applyNewAnnouncement cfg p.tag = b := by
    unfold applyNewAnnouncement
    rw [if_neg (by rw [hb]; decide)]
  unfold countArrival
  simp only
  split
  · rw [hMarked (a.updateAimd cfg p p.tag.priorityFlow) hOld, outstandingDataBytes_updateAimd]
  · rw [hMarked a hOld]

end Account

/-! ## Steps -/

namespace CbReceiver

/-- The wire credit that a step reclaims on behalf of a message. -/
def reclaimedFor (cfg : CbConfig) (k : RxKey) (s : CbReceiver) : Event → Nat
  | .arrive p =>
    if p.tag.type = .request ∧ p.ch.l3Prot = 0x11 ∧ p.rxKey = k then
      ((s.accountOf cfg p).countArrival cfg p).reclaimedWire cfg p
    else 0
  | _ => 0

/-- Data of the message come after its announcement or with it, or when the sender has no data
outstanding. -/
def ComesAnnounced (cfg : CbConfig) (k : RxKey) (s : CbReceiver) : Event → Prop
  | .arrive p => p.tag.type = .request → p.ch.l3Prot = 0x11 → p.rxKey = k →
    (s.rxQpMap k).any RxQueuePair.announcementAccounted = true ∨ 0 < p.tag.creditReqBytes ∨
      (s.accountOf cfg p).sender.outstandingDataBytes = 0
  | _ => True

instance (cfg : CbConfig) (k : RxKey) (s : CbReceiver) (e : Event) :
    Decidable (s.ComesAnnounced cfg k e) :=
  match e with
  | .arrive p => inferInstanceAs (Decidable (p.tag.type = .request → p.ch.l3Prot = 0x11 →
    p.rxKey = k → _ ∨ _ ∨ _))
  | .grantTick _ => isTrue trivial
  | .resendTimeout _ => isTrue trivial

/-- The wire bytes of the marked chunks of a message. -/
def paidFor (cfg : CbConfig) (k : RxKey) (messageBytes : Nat) (s : CbReceiver) : Nat :=
  (s.rxQpMap k).elim 0 fun q => markedSum (chunkWire cfg messageBytes) q.receivedChunkBitmap

theorem paidFor_eq {k : RxKey} {messageBytes : Nat} {s : CbReceiver} {q : RxQueuePair}
    (hq : s.rxQpMap k = some q) : s.paidFor cfg k messageBytes =
      markedSum (chunkWire cfg messageBytes) q.receivedChunkBitmap := by
  unfold paidFor
  rw [hq, Option.elim_some]

theorem RxSound.paidFor_le {messageBytes : Nat} {s : CbReceiver} {k : RxKey} (hMtu : 0 < cfg.mtu)
    (h : s.RxSound cfg messageBytes k) :
    s.paidFor cfg k messageBytes ≤ totalSum (chunkWire cfg messageBytes)
      (chunkCount cfg messageBytes) := by
  unfold paidFor
  cases hq : s.rxQpMap k with
  | none => exact Nat.zero_le _
  | some q =>
    obtain ⟨hTracked, -, hReceives⟩ := h q hq
    have hLe := markedSum_le (chunkWire cfg messageBytes) q.receivedChunkBitmap
    cases hAnnounced : q.announcementAccounted with
    | false =>
      rw [Option.elim_some, hTracked.bitmap_eq_nil hMtu hAnnounced]
      exact Nat.zero_le _
    | true =>
      rw [hTracked.length, hTracked.chunks, hReceives.expected hAnnounced] at hLe
      exact hLe

/-- The announcement of a packet leaves the marks of its message alone. -/
theorem RxSound.paidFor_countArrival {messageBytes : Nat} {s : CbReceiver} {p : CbPacket}
    (hMtu : 0 < cfg.mtu) (h : s.RxSound cfg messageBytes p.rxKey) :
    s.paidFor cfg p.rxKey messageBytes ≤ markedSum (chunkWire cfg messageBytes)
      ((s.accountOf cfg p).countArrival cfg p).msg.receivedChunkBitmap := by
  unfold paidFor
  cases hq : s.rxQpMap p.rxKey with
  | none => exact Nat.zero_le _
  | some q =>
    have hFound : (s.accountOf cfg p).msg = q := by
      rw [accountOf_of_known hq]
      rfl
    rcases Account.countArrival_msg_cases cfg (s.accountOf cfg p) p with
      ⟨-, hOld⟩ | ⟨hNew, -⟩
    · rw [hOld, hFound]
      exact le_refl _
    · have hQuiet := (Account.isNewAnnouncement_eq_true.mp hNew).2
      rw [hFound] at hQuiet
      rw [Option.elim_some, (h q hq).1.bitmap_eq_nil hMtu hQuiet]
      exact Nat.zero_le _

/-- The marked chunks cover what a data packet of the message pays back. -/
theorem RxSound.pays_data {messageBytes : Nat} (hMtu : 0 < cfg.mtu) (hBytes : messageBytes < 2 ^ 32)
    {s : CbReceiver} {p : CbPacket} (h : s.RxSound cfg messageBytes p.rxKey)
    (hOf : p.OfMessage cfg messageBytes) (hData : IsData p)
    (hAnnounced : s.ComesAnnounced cfg p.rxKey (.arrive p)) :
    ((s.accountOf cfg p).countArrival cfg p).reclaimedWire cfg p + s.paidFor cfg p.rxKey messageBytes ≤
      (s.receive cfg p).1.paidFor cfg p.rxKey messageBytes := by
  obtain ⟨hTracked, hReceives⟩ := h.countArrival hMtu hBytes hOf
  obtain ⟨-, hSeq, hSize⟩ := hOf.2 hData.1 hData.2
  have hBefore := h.paidFor_countArrival hMtu
  have hAfter : (s.receive cfg p).1.paidFor cfg p.rxKey messageBytes =
      markedSum (chunkWire cfg messageBytes)
        ((s.accountOf cfg p).receiveData cfg p).msg.receivedChunkBitmap := by
    rw [paidFor_eq (rxQpMap_receive_of_data hData)]
    split
    · rfl
    · rw [(RxQueuePair.sameChunks_scheduleResend _).receivedChunkBitmap]
  rw [hAfter]
  obtain ⟨-, ⟨hQuiet, hSame⟩ | ⟨-, hSeen, -, hSame⟩ | ⟨-, hFirst, hMissing, hSame⟩⟩ :=
    Account.receiveChunk_spec hMtu hTracked hReceives hSeq hSize
  · -- Without an announcement there is no data to pay for.
    have hNone : ((s.accountOf cfg p).countArrival cfg p).reclaimedWire cfg p = 0 := by
      apply Account.reclaimedWire_of_no_data
      have hStill := (Account.countArrival_announced_iff cfg (s.accountOf cfg p) p).not.mp
        (by rw [hQuiet]; decide)
      rw [not_or] at hStill
      rcases hAnnounced hData.1 hData.2 rfl with hKnown | hRequests | hNoData
      · obtain ⟨q, hq, hOn⟩ := (Option.any_eq_true _ _).mp hKnown
        rw [accountOf_of_known hq] at hStill
        exact absurd hOn hStill.1
      · exact absurd hRequests hStill.2
      · rw [Account.countArrival_outstandingDataBytes cfg, hNoData]
        rw [Bool.eq_false_iff]
        intro hNew
        exact hStill.2 (Account.pos_of_isNewAnnouncement hNew)
    have hBitmap := hSame.receivedChunkBitmap
    unfold Account.receiveData
    rw [hNone, hBitmap, Nat.zero_add]
    exact hBefore
  · have hNone : ((s.accountOf cfg p).countArrival cfg p).reclaimedWire cfg p = 0 := by
      unfold Account.reclaimedWire
      rw [hSeen, if_neg (by decide)]
    have hBitmap := hSame.receivedChunkBitmap
    unfold Account.receiveData
    rw [hNone, hBitmap, Nat.zero_add]
    exact hBefore
  · have hPays := Account.reclaimedWire_le_chunkWire (a := (s.accountOf cfg p).countArrival cfg p) hSize
    have hBitmap := hSame.receivedChunkBitmap
    have hMarked := markedSum_set (chunkWire cfg messageBytes) hMissing
    unfold Account.receiveData
    rw [hBitmap]
    unfold RxQueuePair.addChunk
    simp only
    omega

/-- Any other step keeps the marks of a message. -/
theorem RxSound.paidFor_le_step {messageBytes : Nat} (hMtu : 0 < cfg.mtu) {s t : CbReceiver}
    {k : RxKey} (h : s.RxSound cfg messageBytes k) {e : Event} (hStep : s.step cfg e = some t)
    (hOther : ∀ p, e = .arrive p → IsData p → p.rxKey ≠ k) :
    s.paidFor cfg k messageBytes ≤ t.paidFor cfg k messageBytes := by
  cases hOld : s.rxQpMap k with
  | none =>
    unfold paidFor
    rw [hOld]
    exact Nat.zero_le _
  | some q =>
    obtain ⟨q', hq'⟩ := Option.ne_none_iff_exists'.mp
      (known_step (k := k) (by rw [hOld]; exact nofun) hStep)
    rw [paidFor_eq hOld, paidFor_eq hq']
    have hSame (r : RxQueuePair) (hr : s.rxQpMap k = some r) : r = q :=
      Option.some.inj (hr.symm.trans hOld)
    cases msgAfter_step hStep hq' with
    | kept _ _ hr => rw [hSame q' hr]
    | completed p hData hKey hDone => exact absurd hKey (hOther p rfl hData)
    | data p hData hKey hOpen => exact absurd hKey (hOther p rfl hData)
    | request p hRequest hKey =>
      subst hKey
      have hFound : (s.accountOf cfg p).msg = q := by
        rw [accountOf_of_known hOld]
        rfl
      rcases Account.countRequest_msg_cases cfg (s.accountOf cfg p) p with ⟨-, hEq⟩ | ⟨hNew, -⟩
      · rw [hEq, hFound]
      · have hQuiet := (Account.isNewAnnouncement_eq_true.mp hNew).2
        rw [hFound] at hQuiet
        rw [(h q hOld).1.bitmap_eq_nil hMtu hQuiet]
        exact Nat.zero_le _
    | bounced p r hBounced hKey hr =>
      rw [hSame r hr, (RxQueuePair.sameChunks_scheduleResend _).receivedChunkBitmap]
      exact le_refl _
    | granted order c r data wire hc hTry hKey hr => rw [hSame r hr]
    | fired r hr hRunning =>
      obtain ⟨limit, running, hEq⟩ := resendMsg_eq cfg (s.getOrCreateSenderState k) r
      rw [hEq, hSame r hr]

/-- Every step of a message that comes announced pays for itself. -/
theorem RxSound.pays {messageBytes : Nat} (hMtu : 0 < cfg.mtu) (hBytes : messageBytes < 2 ^ 32)
    {s t : CbReceiver} {k : RxKey} (h : s.RxSound cfg messageBytes k) {e : Event}
    (hOf : e.OfMessage cfg k messageBytes) (hAnnounced : s.ComesAnnounced cfg k e)
    (hStep : s.step cfg e = some t) :
    s.reclaimedFor cfg k e + s.paidFor cfg k messageBytes ≤ t.paidFor cfg k messageBytes := by
  by_cases hOwn : ∃ p, e = .arrive p ∧ IsData p ∧ p.rxKey = k
  · obtain ⟨p, rfl, hData, rfl⟩ := hOwn
    obtain rfl := Option.some.inj hStep
    have hEq : s.reclaimedFor cfg p.rxKey (.arrive p) =
        ((s.accountOf cfg p).countArrival cfg p).reclaimedWire cfg p := if_pos ⟨hData.1, hData.2, rfl⟩
    rw [hEq]
    exact h.pays_data hMtu hBytes (hOf rfl) hData hAnnounced
  · have hNone : s.reclaimedFor cfg k e = 0 := by
      unfold reclaimedFor
      split
      · rename_i p
        apply if_neg
        rintro ⟨hType, hUdp, hKey⟩
        exact hOwn ⟨p, rfl, ⟨hType, hUdp⟩, hKey⟩
      · rfl
    rw [hNone, Nat.zero_add]
    apply h.paidFor_le_step hMtu hStep
    intro p hp hData hKey
    exact hOwn ⟨p, hp, hData, hKey⟩

end CbReceiver

/-- The wire credit reclaimed on behalf of a message over a run is at most the wire bytes of its
chunks, if its data come announced. -/
theorem reclaimed_le_chunks (cfg : CbConfig) (hMtu : 0 < cfg.mtu) (k : RxKey) (messageBytes : Nat)
    (hBytes : messageBytes < 2 ^ 32) (es : List CbReceiver.Event)
    (hRun : ((cbReceiver cfg).run {} es).isSome)
    (hOf : (cbReceiver cfg).Guarded (fun _ e => e.OfMessage cfg k messageBytes) {} es)
    (hAnnounced : (cbReceiver cfg).Guarded (CbReceiver.ComesAnnounced cfg k) {} es) :
    (cbReceiver cfg).cost (CbReceiver.reclaimedFor cfg k) {} es ≤
      totalSum (chunkWire cfg messageBytes) (chunkCount cfg messageBytes) := by
  obtain ⟨t, hRun⟩ := Option.isSome_iff_exists.mp hRun
  have hPaid := Machine.cost_add_le (M := cbReceiver cfg)
    (I := fun s => s.RxSound cfg messageBytes k) (f := CbReceiver.reclaimedFor cfg k)
    (P := CbReceiver.paidFor cfg k messageBytes)
    (fun s e t hs hSide hStep => hs.step hMtu hBytes hSide.1 hStep)
    (fun s e t hs hSide hStep => hs.pays hMtu hBytes hSide.1 hSide.2 hStep)
    (CbReceiver.rxSound_init messageBytes k) (hOf.and hAnnounced) hRun
  have hSound : t.RxSound cfg messageBytes k :=
    Machine.guarded_induction (M := cbReceiver cfg) (I := fun s => s.RxSound cfg messageBytes k)
      (CbReceiver.rxSound_init messageBytes k)
      (fun s e t hs hSide hStep => hs.step hMtu hBytes hSide hStep) hOf hRun
  exact (Nat.le_add_right _ _).trans (hPaid.trans (hSound.paidFor_le hMtu))

/-- A message of two chunks is announced, granted and received. -/
def twoChunks : List CbReceiver.Event :=
  [.grantReq 11 8 2000, .grantTick [11], .grantTick [11], .scheduledData 11 8 1000 1000,
    .scheduledData 11 8 0 1000]

theorem reclaimed_le_chunks_twoChunks :
    (cbReceiver { mtu := 1000 }).cost (CbReceiver.reclaimedFor { mtu := 1000 } ⟨11, 3, 8⟩) {}
        twoChunks ≤
      totalSum (chunkWire { mtu := 1000 } 2000) (chunkCount { mtu := 1000 } 2000) :=
  reclaimed_le_chunks { mtu := 1000 } (by decide) ⟨11, 3, 8⟩ 2000 (by decide) twoChunks
    (by decide +kernel) (by decide +kernel) (by decide +kernel)

/-- Data of a message of one chunk come before its announcement, paid with the credit of another
message, and come again after it. -/
def earlyChunk : List CbReceiver.Event :=
  [.grantReq 11 7 3000, .grantTick [11], .grantTick [11], .grantTick [11],
    .scheduledData 11 8 0 1000, .grantReq 11 8 1000, .scheduledData 11 8 0 1000]

/-- The chunk of 1068 wire bytes pays back 2136, of the 3204 that were granted. -/
theorem chunk_reclaimed_twice :
    (cbReceiver { mtu := 1000, grantGranularityBytes := 1000 }).Guarded
        (fun _ e => e.OfMessage { mtu := 1000, grantGranularityBytes := 1000 } ⟨11, 3, 8⟩ 1000) {}
        earlyChunk ∧
      ((cbReceiver { mtu := 1000, grantGranularityBytes := 1000 }).run {} earlyChunk).map
        CbReceiver.globalOutstandingBytes = some 1068 ∧
      (cbReceiver { mtu := 1000, grantGranularityBytes := 1000 }).cost
        (CbReceiver.reclaimedFor { mtu := 1000, grantGranularityBytes := 1000 } ⟨11, 3, 8⟩) {}
        earlyChunk = 2136 ∧
      totalSum (chunkWire { mtu := 1000, grantGranularityBytes := 1000 } 1000)
        (chunkCount { mtu := 1000, grantGranularityBytes := 1000 } 1000) = 1068 := by
  refine ⟨by decide +kernel, by decide +kernel, by decide +kernel, by decide +kernel⟩

end Dpdq.Ns3
