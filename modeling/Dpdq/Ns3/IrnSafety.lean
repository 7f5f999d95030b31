import Dpdq.Ns3.Irn

/-!
# IRN acknowledges only what has arrived

The invariant says of each place that holds acknowledgement state (the sender, the receiver, every
NACK ever sent) that it speaks of received bytes only. The set of received bytes grows, so stale,
reordered and duplicated packets cannot break it.
-/

namespace Dpdq.Ns3

open Dpdq.Lib IrnSackManager

variable {cfg : IrnConfig} {bound : Nat} {R : Set Nat}

/-! ## Sender -/

/-- The sender counts only bytes of `R` as acknowledged. -/
structure SenderSound (bound : Nat) (R : Set Nat) (qp : IrnQueuePair) : Prop where
  una : ∀ x < qp.sndUna, x ∈ R
  sack : covered qp.sack ⊆ R
  within : Within bound qp.sack

/-- A NACK speaks only of bytes of `R`. -/
structure AckSound (bound : Nat) (R : Set Nat) (a : IrnAck) : Prop where
  seq : ∀ x < a.seq, x ∈ R
  block : Block.cells (a.irnNack, a.irnNackSize) ⊆ R
  within : a.irnNackSize ≠ 0 → a.irnNack + a.irnNackSize ≤ bound

theorem SenderSound.mono {qp : IrnQueuePair} {S : Set Nat} (h : SenderSound bound R qp)
    (hRS : R ⊆ S) : SenderSound bound S qp :=
  ⟨fun x hx => hRS (h.una x hx), h.sack.trans hRS, h.within⟩

theorem AckSound.mono {a : IrnAck} {S : Set Nat} (h : AckSound bound R a) (hRS : R ⊆ S) :
    AckSound bound S a :=
  ⟨fun x hx => hRS (h.seq x hx), h.block.trans hRS, h.within⟩

/-- Only the cumulative pointer and the blocks matter. -/
theorem SenderSound.congr {qp qp' : IrnQueuePair} (h : SenderSound bound R qp)
    (hUna : qp'.sndUna = qp.sndUna) (hSack : qp'.sack = qp.sack) : SenderSound bound R qp' where
  una := by rw [hUna]; exact h.una
  sack := by rw [hSack]; exact h.sack
  within := by rw [hSack]; exact h.within

theorem SenderSound.discard (hBound : bound < 2 ^ 32) {qp qp' : IrnQueuePair}
    (h : SenderSound bound R qp) (cumAck : Nat) (hUna : qp'.sndUna = qp.sndUna)
    (hSack : qp'.sack = (discardUpTo qp.sack cumAck).1) : SenderSound bound R qp' := by
  obtain ⟨hCover, hWithin⟩ := discardUpTo_spec hBound qp.sack cumAck h.within
  exact ⟨by rw [hUna]; exact h.una, by rw [hSack]; exact hCover.trans h.sack,
    by rw [hSack]; exact hWithin⟩

theorem SenderSound.skipFrontBlock (hBound : bound < 2 ^ 32) {qp : IrnQueuePair}
    (h : SenderSound bound R qp) : SenderSound bound R qp.skipFrontBlock := by
  unfold IrnQueuePair.skipFrontBlock
  split
  · exact h
  · split
    · exact h.discard hBound _ rfl rfl
    · exact h

theorem SenderSound.getNxtPacket (hBound : bound < 2 ^ 32) {qp : IrnQueuePair}
    (h : SenderSound bound R qp) : SenderSound bound R (qp.getNxtPacket cfg).2 :=
  (h.skipFrontBlock hBound).congr rfl rfl

/-- A cumulative number rounded down to a chunk still speaks only of received bytes. -/
theorem SenderSound.acknowledge {qp : IrnQueuePair} (h : SenderSound bound R qp) {ack : Nat}
    (hAck : ∀ x < ack, x ∈ R) : SenderSound bound R (qp.acknowledge ack) := by
  unfold IrnQueuePair.acknowledge
  split
  · exact ⟨hAck, h.sack, h.within⟩
  · exact h

theorem SenderSound.takeFrontBlock {qp : IrnQueuePair} (h : SenderSound bound R qp) :
    SenderSound bound R qp.takeFrontBlock := by
  unfold IrnQueuePair.takeFrontBlock
  split
  · exact h
  rename_i b hFront
  split
  · rename_i hTouch
    refine ⟨?_, h.sack, h.within⟩
    intro x hx
    simp only at hx
    by_cases hOld : x < qp.sndUna
    · exact h.una x hOld
    · apply h.sack
      apply (covered_of_peekFrontBlock hFront).2
      rw [mem_cells]
      omega
  · exact h

theorem SenderSound.addBlock (hBound : bound < 2 ^ 32) {qp : IrnQueuePair} {a : IrnAck}
    (h : SenderSound bound R qp) (ha : AckSound bound R a) :
    SenderSound bound R (qp.addBlock a) := by
  unfold IrnQueuePair.addBlock
  split
  · obtain ⟨hCover, hWithin⟩ := sack_spec hBound _ a.irnNack a.irnNackSize h.within ha.within
    exact ⟨h.una, hCover.trans (Set.union_subset h.sack ha.block), hWithin⟩
  · exact h

theorem SenderSound.discardAcked (hBound : bound < 2 ^ 32) {qp : IrnQueuePair}
    (h : SenderSound bound R qp) : SenderSound bound R qp.discardAcked :=
  h.discard hBound _ rfl rfl

theorem SenderSound.skipAcked {qp : IrnQueuePair} (h : SenderSound bound R qp) :
    SenderSound bound R qp.skipAcked := by
  unfold IrnQueuePair.skipAcked
  split
  · exact h.congr rfl rfl
  · exact h

theorem SenderSound.leaveRecovery {qp : IrnQueuePair} (h : SenderSound bound R qp) :
    SenderSound bound R qp.leaveRecovery := by
  unfold IrnQueuePair.leaveRecovery
  split
  · exact h.congr rfl rfl
  · exact h

theorem SenderSound.processAck (hBound : bound < 2 ^ 32) {qp : IrnQueuePair} {a : IrnAck}
    (h : SenderSound bound R qp) (ha : AckSound bound R a) :
    SenderSound bound R (qp.processAck cfg a) := by
  have hCumulative : ∀ x < (if cfg.backto0 then a.seq / cfg.chunk * cfg.chunk else a.seq),
      x ∈ R := by
    intro x hx
    apply ha.seq
    split at hx
    · exact Nat.lt_of_lt_of_le hx (Nat.div_mul_le_self _ _)
    · exact hx
  have hMerged := ((h.acknowledge hCumulative).addBlock hBound ha).takeFrontBlock
  exact ((hMerged.discardAcked hBound).skipAcked.leaveRecovery).skipFrontBlock hBound

theorem SenderSound.updateRecovery {qp : IrnQueuePair} (h : SenderSound bound R qp) (a : IrnAck) :
    SenderSound bound R (qp.updateRecovery a) := by
  unfold IrnQueuePair.updateRecovery
  split_ifs
  · exact h
  · exact h.congr rfl rfl
  · exact h.congr rfl rfl
  · exact h

theorem SenderSound.receiveAck (hBound : bound < 2 ^ 32) {qp : IrnQueuePair} {a : IrnAck}
    (h : SenderSound bound R qp) (ha : AckSound bound R a) :
    SenderSound bound R (qp.receiveAck cfg a) := by
  have hProcessed : SenderSound bound R
      (if cfg.ackInterval = 0 then qp else qp.processAck cfg a) := by
    split
    · exact h
    · exact h.processAck hBound ha
  exact (hProcessed.skipFrontBlock hBound).updateRecovery a

theorem SenderSound.handleTimeout (hBound : bound < 2 ^ 32) {qp : IrnQueuePair}
    (h : SenderSound bound R qp) : SenderSound bound R (qp.handleTimeout cfg) := by
  have hSkip := h.skipFrontBlock hBound
  unfold IrnQueuePair.handleTimeout
  simp only [IrnQueuePair.isFinished, decide_eq_true_eq]
  split_ifs
  · exact hSkip
  · exact hSkip.congr rfl rfl

/-- Skipping the first block does not leave the message. -/
theorem skipFrontBlock_sndNxt_le {qp : IrnQueuePair} (hWithin : Within bound qp.sack)
    (hNxt : qp.sndNxt ≤ bound) : qp.skipFrontBlock.sndNxt ≤ bound := by
  unfold IrnQueuePair.skipFrontBlock
  split
  · exact hNxt
  rename_i b hFront
  split
  · rename_i hTouch
    have hEnd := hWithin b (covered_of_peekFrontBlock hFront).1
    simp only
    omega
  · exact hNxt

/-- A packet taken while bytes are left lies within the message. -/
theorem getNxtPacket_within (hSize : cfg.size < 2 ^ 32) {qp : IrnQueuePair}
    (h : SenderSound cfg.size R qp) (hLeft : (qp.getBytesLeft cfg).1 ≠ 0) :
    ((qp.getBytesLeft cfg).2.getNxtPacket cfg).1.seq +
      ((qp.getBytesLeft cfg).2.getNxtPacket cfg).1.payloadSize ≤ cfg.size := by
  have hNxt : qp.skipFrontBlock.sndNxt ≤ cfg.size := by
    by_contra hBeyond
    exact hLeft (if_neg hBeyond)
  have hNxt' : qp.skipFrontBlock.skipFrontBlock.sndNxt ≤ cfg.size :=
    skipFrontBlock_sndNxt_le (h.skipFrontBlock hSize).within hNxt
  have hPayload := cbNextChunkPayloadBytes_le qp.skipFrontBlock.skipFrontBlock.sndNxt cfg.size
    cfg.mtu
  simp only [IrnQueuePair.getNxtPacket, IrnQueuePair.getBytesLeft]
  rw [Nat.mod_eq_of_lt (Nat.lt_of_le_of_lt hNxt' hSize)]
  omega

/-! ## Receiver -/

/-- The receiver's number and blocks speak of bytes of `R` only. -/
structure ReceiverSound (bound : Nat) (R : Set Nat) (q : IrnRxQueuePair) : Prop where
  expected : ∀ x < q.receiverNextExpectedSeq, x ∈ R
  expected_le : q.receiverNextExpectedSeq ≤ bound
  sack : covered q.irnSack ⊆ R
  within : Within bound q.irnSack

theorem ReceiverSound.mono {q : IrnRxQueuePair} {S : Set Nat} (h : ReceiverSound bound R q)
    (hRS : R ⊆ S) : ReceiverSound bound S q :=
  ⟨fun x hx => hRS (h.expected x hx), h.expected_le, h.sack.trans hRS, h.within⟩

/-- The next number is the end of the packet, or the end of the first block if that is reached. -/
theorem advance_eq (hBound : bound < 2 ^ 32) {q : IrnRxQueuePair} (h : ReceiverSound bound R q)
    {seq size : Nat} (hSeg : seq + size ≤ bound) (hReach : seq ≤ q.receiverNextExpectedSeq)
    (hEnd : q.receiverNextExpectedSeq ≤ seq + size) :
    q.advance seq size = seq + size ∨
      ∃ b, peekFrontBlock q.irnSack = some b ∧ b.1 ≤ seq + size ∧
        q.advance seq size = b.1 + b.2 := by
  have hNext : addU32 q.receiverNextExpectedSeq (size - (q.receiverNextExpectedSeq - seq)) =
      seq + size := by
    rw [addU32_of_lt (by omega)]
    omega
  unfold IrnRxQueuePair.advance
  simp only [hNext]
  split
  · exact Or.inl rfl
  rename_i b hFront
  split
  · rename_i hTouch
    right
    have hb := h.within b (covered_of_peekFrontBlock hFront).1
    refine ⟨b, hFront, hTouch, ?_⟩
    rw [addU32_wrapSubU32 (by omega) (by omega) (by omega)]
    omega
  · exact Or.inl rfl

/-- The invariant after a packet, with its bytes among the received ones. -/
theorem ReceiverSound.receiverCheckSeq (hBound : bound < 2 ^ 32) {q : IrnRxQueuePair}
    (h : ReceiverSound bound R q) {d : IrnData} (hSeg : d.seq + d.payloadSize ≤ bound)
    (hArrived : Block.cells (d.seq, d.payloadSize) ⊆ R) (now : Nat) :
    ReceiverSound bound R (q.receiverCheckSeq cfg d.seq d.payloadSize now).2 := by
  have hEnd : addU32 d.seq d.payloadSize = d.seq + d.payloadSize := addU32_of_lt (by omega)
  unfold IrnRxQueuePair.receiverCheckSeq
  simp only [hEnd]
  split
  · rename_i hReach
    have hReach' : d.seq ≤ q.receiverNextExpectedSeq ∧
        q.receiverNextExpectedSeq ≤ d.seq + d.payloadSize := by omega
    obtain ⟨hCover, hWithin⟩ :=
      discardUpTo_spec hBound q.irnSack (q.advance d.seq d.payloadSize) h.within
    -- All bytes below the end of the packet have arrived.
    have hPrefix : ∀ x < d.seq + d.payloadSize, x ∈ R := by
      intro x hx
      by_cases hOld : x < q.receiverNextExpectedSeq
      · exact h.expected x hOld
      · apply hArrived
        rw [mem_cells]
        omega
    refine ⟨?_, ?_, hCover.trans h.sack, hWithin⟩
    · intro x hx
      simp only at hx
      rcases advance_eq hBound h hSeg hReach'.1 hReach'.2 with hNext | ⟨b, hFront, hTouch, hNext⟩
      · exact hPrefix x (hNext ▸ hx)
      · rw [hNext] at hx
        by_cases hBelow : x < b.1
        · exact hPrefix x (Nat.lt_of_lt_of_le hBelow hTouch)
        · apply h.sack
          apply (covered_of_peekFrontBlock hFront).2
          rw [mem_cells]
          omega
    · show q.advance d.seq d.payloadSize ≤ bound
      rcases advance_eq hBound h hSeg hReach'.1 hReach'.2 with hNext | ⟨b, hFront, _, hNext⟩
      · rw [hNext]
        exact hSeg
      · rw [hNext]
        exact h.within b (covered_of_peekFrontBlock hFront).1
  · split
    · split
      · exact h
      · obtain ⟨hCover, hWithin⟩ := sack_spec hBound q.irnSack d.seq d.payloadSize h.within
          fun _ => hSeg
        exact ⟨h.expected, h.expected_le, hCover.trans (Set.union_subset h.sack hArrived), hWithin⟩
    · exact h

variable (cfg) in
/-- The receiver's answer speaks of received bytes only. -/
theorem receiveUdp_sound (hBound : bound < 2 ^ 32) {q : IrnRxQueuePair}
    (h : ReceiverSound bound R q) {d : IrnData} (hSeg : d.seq + d.payloadSize ≤ bound)
    (hArrived : Block.cells (d.seq, d.payloadSize) ⊆ R) (now : Nat) :
    ReceiverSound bound R (q.receiveUdp cfg d now).2 ∧
      ∀ a ∈ (q.receiveUdp cfg d now).1, AckSound bound R a := by
  have hNext : ReceiverSound bound R (q.receiverCheckSeq cfg d.seq d.payloadSize now).2 :=
    h.receiverCheckSeq hBound hSeg hArrived now
  have hTruncated : d.payloadSize % 2 ^ 16 ≤ d.payloadSize := Nat.mod_le _ _
  unfold IrnRxQueuePair.receiveUdp
  simp only
  split
  · refine ⟨hNext, ?_⟩
    intro a ha
    obtain rfl := Option.some.inj ha
    refine ⟨hNext.expected, ?_, ?_⟩
    · intro x hx
      simp only [mem_cells] at hx
      split at hx
      · apply hArrived
        rw [mem_cells]
        omega
      · omega
    · intro hSize
      simp only at hSize ⊢
      split_ifs at hSize ⊢
      · omega
      · exact absurd rfl hSize
  · refine ⟨hNext, ?_⟩
    intro a ha
    cases ha

/-! ## The joint invariant -/

/-- Every place that holds acknowledgement state speaks of received bytes, and every packet lies
within the message. -/
structure IrnInv (cfg : IrnConfig) (r : IrnRun) : Prop where
  sender : SenderSound cfg.size r.received r.sender
  receiver : ReceiverSound cfg.size r.received r.receiver
  data : ∀ d ∈ r.data, d.seq + d.payloadSize ≤ cfg.size
  acks : ∀ a ∈ r.acks, AckSound cfg.size r.received a

theorem irnInv_init (cfg : IrnConfig) : IrnInv cfg (irn cfg).init where
  sender := ⟨fun _ hx => absurd hx (Nat.not_lt_zero _), by simp [irn], within_nil _⟩
  receiver :=
    ⟨fun _ hx => absurd hx (Nat.not_lt_zero _), Nat.zero_le _, by simp [irn], within_nil _⟩
  data := by simp [irn]
  acks := by simp [irn]

theorem IrnInv.step (hSize : cfg.size < 2 ^ 32) {r t : IrnRun} {e : IrnEvent} (h : IrnInv cfg r)
    (hStep : r.step cfg e = some t) : IrnInv cfg t := by
  cases e with
  | send =>
    simp only [IrnRun.step] at hStep
    split at hStep
    · cases hStep
    · rename_i hLeft
      obtain rfl := Option.some.inj hStep
      have hPolled := h.sender.skipFrontBlock hSize
      refine ⟨hPolled.getNxtPacket hSize, h.receiver, ?_, h.acks⟩
      intro d hd
      rcases List.mem_append.mp hd with hd | hd
      · exact h.data d hd
      · rw [List.mem_singleton.mp hd]
        exact getNxtPacket_within hSize h.sender hLeft
  | poll =>
    obtain rfl := Option.some.inj hStep
    exact ⟨h.sender.skipFrontBlock hSize, h.receiver, h.data, h.acks⟩
  | timeout =>
    obtain rfl := Option.some.inj hStep
    exact ⟨h.sender.handleTimeout hSize, h.receiver, h.data, h.acks⟩
  | deliverData i now =>
    simp only [IrnRun.step, Option.bind_eq_bind, Option.bind_eq_some_iff] at hStep
    obtain ⟨d, hd, hStep⟩ := hStep
    obtain rfl := Option.some.inj hStep
    have hSeg := h.data d (List.mem_of_getElem? hd)
    -- The received set grows by the packet, which keeps everything said about it so far.
    have hGrow : r.received ⊆ covered ((d.seq, d.payloadSize) :: r.arrived) := by
      rw [covered_cons]
      exact Set.subset_union_right
    have hArrived : Block.cells (d.seq, d.payloadSize) ⊆
        covered ((d.seq, d.payloadSize) :: r.arrived) := by
      rw [covered_cons]
      exact Set.subset_union_left
    obtain ⟨hReceiver, hAck⟩ :=
      receiveUdp_sound cfg hSize (h.receiver.mono hGrow) hSeg hArrived now
    refine ⟨h.sender.mono hGrow, hReceiver, h.data, ?_⟩
    intro a ha
    rcases List.mem_append.mp ha with ha | ha
    · exact (h.acks a ha).mono hGrow
    · exact hAck a (Option.mem_toList.mp ha)
  | deliverAck i =>
    simp only [IrnRun.step, Option.bind_eq_bind, Option.bind_eq_some_iff] at hStep
    obtain ⟨a, ha, hStep⟩ := hStep
    obtain rfl := Option.some.inj hStep
    have hAck := h.acks a (List.mem_of_getElem? ha)
    exact ⟨h.sender.receiveAck hSize hAck, h.receiver, h.data, h.acks⟩

theorem irnInv_of_reachable (hSize : cfg.size < 2 ^ 32) {r : IrnRun}
    (h : (irn cfg).Reachable r) : IrnInv cfg r :=
  Machine.reachable_induction (irnInv_init cfg) (fun _ _ _ hr hStep => hr.step hSize hStep) h

/-- IRN two-party safety: every byte that the sender counts as acknowledged has been received, and
when `IsFinished` holds, so has the whole message. -/
theorem irn_two_party_safety {cfg : IrnConfig} (hSize : cfg.size < 2 ^ 32) {r : IrnRun}
    (h : (irn cfg).Reachable r) :
    (∀ x, x < r.sender.sndUna ∨ x ∈ covered r.sender.sack → x ∈ r.received) ∧
      ((r.sender.isFinished cfg).1 → ∀ x < cfg.size, x ∈ r.received) := by
  have hInv := irnInv_of_reachable hSize h
  constructor
  · rintro x (hx | hx)
    · exact hInv.sender.una x hx
    · exact hInv.sender.sack hx
  · intro hFinished x hx
    have hUna : cfg.size ≤ r.sender.skipFrontBlock.sndUna := of_decide_eq_true hFinished
    exact (hInv.sender.skipFrontBlock hSize).una x (Nat.lt_of_lt_of_le hx hUna)

/-- Three packets of a 2500-byte message; the second one is lost once, the NACK for the third
arrives twice, and after the retransmission the sender is finished. -/
def irnSampleConfig : IrnConfig where
  size := 2500
  mtu := 1000
  chunk := 4000
  backto0 := false
  ackInterval := 1
  nackInterval := 500

def irnSampleRun : List IrnEvent :=
  [.send, .send, .send, .deliverData 0 0, .deliverData 2 10, .deliverAck 1, .deliverAck 0,
    .deliverAck 1, .send, .deliverData 3 20, .deliverAck 2]

theorem irn_two_party_safety_sample :
    ∃ r, (irn irnSampleConfig).run (irn irnSampleConfig).init irnSampleRun = some r ∧
      ∀ x < 2500, x ∈ r.received := by
  have hRun : ((irn irnSampleConfig).run (irn irnSampleConfig).init irnSampleRun).map
      (fun r => (r.sender.isFinished irnSampleConfig).1) = some true := by
    decide +kernel
  obtain ⟨r, hr, hFinished⟩ := Option.map_eq_some_iff.mp hRun
  exact ⟨r, hr, (irn_two_party_safety (by decide) ⟨irnSampleRun, hr⟩).2 hFinished⟩

end Dpdq.Ns3
