import Dpdq.Ns3.GoBackN
import Mathlib.Tactic.SplitIfs

/-!
# Safety of go-back-N

What a sender without IRN counts as acknowledged has arrived, whatever the network does to the
packets and whatever the receiver takes back under `m_backto0`.

* `receiverCheckSeq_cases`: the three things that `ReceiverCheckSeq` can do.
* `GoBackNInv.step`: one step keeps the invariant of both parties.
* `go_back_n_safety`: the result for every run.
-/

namespace Dpdq.Ns3

open Dpdq.Lib

variable {cfg : GoBackNConfig}

/-! ## Sender -/

namespace GoBackNSender

@[simp] theorem getBytesLeft_eq (cfg : GoBackNConfig) (q : RdmaQueuePair) :
    q.getBytesLeft cfg.toAckConfig = (q.size - q.tx.sndNxt, q) := by
  have hLeft : (if q.size ≥ q.tx.sndNxt then q.size - q.tx.sndNxt else 0) =
      q.size - q.tx.sndNxt := by
    split
    · rfl
    · omega
  exact congrArg (·, q) hLeft

/-- The payload of the next packet. -/
def nextPayload (cfg : GoBackNConfig) (s : GoBackNSender) : Nat :=
  min cfg.mtu (s.qp.size - s.qp.tx.sndNxt)

theorem payload_eq (cfg : GoBackNConfig) (s : GoBackNSender) :
    min (cbNextChunkPayloadBytes s.qp.tx.sndNxt s.qp.size cfg.mtu) (s.qp.size - s.qp.tx.sndNxt) =
      s.nextPayload cfg := by
  unfold cbNextChunkPayloadBytes nextPayload
  split
  · omega
  · omega

theorem getNxtPacket_data (cfg : GoBackNConfig) (s : GoBackNSender) :
    (s.getNxtPacket cfg).1 = ⟨s.qp.tx.sndNxt % 2 ^ 32, s.nextPayload cfg⟩ := by
  unfold getNxtPacket
  rw [getBytesLeft_eq]
  dsimp only
  rw [payload_eq]

theorem getNxtPacket_sender (cfg : GoBackNConfig) (s : GoBackNSender) :
    (s.getNxtPacket cfg).2 = { qp := { s.qp with tx := { s.qp.tx with
      sndNxt := s.qp.tx.sndNxt + s.nextPayload cfg } }, retransmit := true } := by
  have hQp : s.qp.getNxtPacket cfg.toAckConfig = { s.qp with tx := { s.qp.tx with
      sndNxt := s.qp.tx.sndNxt + s.nextPayload cfg } } := by
    unfold RdmaQueuePair.getNxtPacket
    rw [getBytesLeft_eq, ← payload_eq]
    rfl
  show ({ qp := s.qp.getNxtPacket cfg.toAckConfig, retransmit := true } : GoBackNSender) = _
  rw [hQp]

/-- A QP that may send has bytes left, and room in its window. -/
theorem maySend_iff {rate : Nat} {s : GoBackNSender} :
    s.maySend cfg rate = true ↔ s.qp.tx.sndNxt < s.qp.size ∧
      (cfg.rateBased = true ∨ getWin cfg rate = 0 ∨ s.getOnTheFly < getWin cfg rate) := by
  unfold maySend isWinBound
  rw [getBytesLeft_eq]
  simp only [gt_iff_lt, Nat.sub_pos_iff_lt, ne_eq, ge_iff_le, Bool.decide_and, Bool.not_eq_true',
    Bool.and_eq_true, decide_eq_true_eq, Bool.and_eq_false_imp, decide_eq_false_iff_not,
    Bool.decide_or, Bool.or_eq_true, not_le]
  refine and_congr_right fun _ => or_congr_right ?_
  constructor
  · intro h
    by_cases hZero : getWin cfg rate = 0
    · exact Or.inl hZero
    · exact Or.inr (h hZero)
  · rintro (hZero | hRoom) hSome
    · exact absurd hZero hSome
    · exact hRoom

/-! ### Acknowledgements -/

/-- The bytes that `a` acknowledges. -/
def acked (cfg : GoBackNConfig) (a : AckPacket) : Nat :=
  if cfg.backto0 then a.seq / cfg.chunk * cfg.chunk else a.seq

theorem acked_le (cfg : GoBackNConfig) (a : AckPacket) : acked cfg a ≤ a.seq := by
  unfold acked
  split
  · exact Nat.div_mul_le_self _ _
  · exact Nat.le_refl _

/-- `snd_una` after an ACK or NACK. -/
def unaAfter (cfg : GoBackNConfig) (s : GoBackNSender) (a : AckPacket) : Nat :=
  if cfg.ackInterval = 0 then s.qp.tx.sndUna else max s.qp.tx.sndUna (acked cfg a)

/-- `snd_nxt` before a NACK takes it back. -/
def nxtAfter (cfg : GoBackNConfig) (s : GoBackNSender) (a : AckPacket) : Nat :=
  if cfg.ackInterval = 0 then s.qp.tx.sndNxt else max s.qp.tx.sndNxt (s.unaAfter cfg a)

theorem acknowledge_sndUna (tx : IrnQueuePair) (ack : Nat) :
    (tx.acknowledge ack).sndUna = max tx.sndUna ack := by
  unfold IrnQueuePair.acknowledge
  split
  · rename_i hMore
    exact (max_eq_right hMore.le).symm
  · rename_i hLess
    exact (max_eq_left (not_lt.mp hLess)).symm

theorem acknowledge_sndNxt (tx : IrnQueuePair) (ack : Nat) :
    (tx.acknowledge ack).sndNxt = tx.sndNxt := by
  unfold IrnQueuePair.acknowledge
  split
  · rfl
  · rfl

theorem skipAcked_sndNxt (tx : IrnQueuePair) : tx.skipAcked.sndNxt = max tx.sndNxt tx.sndUna := by
  unfold IrnQueuePair.skipAcked
  split
  · rename_i hMore
    exact (max_eq_right hMore.le).symm
  · rename_i hLess
    exact (max_eq_left (not_lt.mp hLess)).symm

theorem processAck_tx (cfg : GoBackNConfig) (q : RdmaQueuePair) (a : AckPacket) :
    (q.processAck cfg.toAckConfig a).tx.sndUna = max q.tx.sndUna (acked cfg a) ∧
      (q.processAck cfg.toAckConfig a).tx.sndNxt =
        max q.tx.sndNxt (max q.tx.sndUna (acked cfg a)) := by
  have hTx : (q.processAck cfg.toAckConfig a).tx = (q.tx.acknowledge (acked cfg a)).skipAcked := rfl
  rw [hTx, IrnQueuePair.skipAcked_sndUna, skipAcked_sndNxt, acknowledge_sndUna, acknowledge_sndNxt]
  exact ⟨rfl, rfl⟩

/-- The part of `ReceiveAck` before a NACK counts. -/
def acknowledged (cfg : GoBackNConfig) (q : RdmaQueuePair) (a : AckPacket) : RdmaQueuePair :=
  let p := q.processAck cfg.toAckConfig a
  if cfg.ackInterval = 0 then q
  else if (p.isFinished cfg.toAckConfig).1 then p.qpComplete else p

theorem receiveAck_eq (cfg : GoBackNConfig) (q : RdmaQueuePair) (a : AckPacket) :
    q.receiveAck cfg.toAckConfig a =
      if a.nack then (acknowledged cfg q a).recoverQueue else acknowledged cfg q a := rfl

theorem acknowledged_numbers (cfg : GoBackNConfig) (s : GoBackNSender) (a : AckPacket) :
    (acknowledged cfg s.qp a).size = s.qp.size ∧
      (acknowledged cfg s.qp a).tx.sndUna = s.unaAfter cfg a ∧
      (acknowledged cfg s.qp a).tx.sndNxt = s.nxtAfter cfg a := by
  unfold acknowledged nxtAfter unaAfter
  split
  · exact ⟨rfl, rfl, rfl⟩
  · have hTx := processAck_tx cfg s.qp a
    dsimp only
    split
    · exact ⟨rfl, hTx⟩
    · exact ⟨rfl, hTx⟩

/-- What `ReceiveAck` does to the numbers of the QP. -/
theorem receiveAck_numbers (cfg : GoBackNConfig) (s : GoBackNSender) (a : AckPacket) :
    (s.receiveAck cfg a).qp.size = s.qp.size ∧
      (s.receiveAck cfg a).qp.tx.sndUna = s.unaAfter cfg a ∧
      (s.receiveAck cfg a).qp.tx.sndNxt =
        if a.nack then s.unaAfter cfg a else s.nxtAfter cfg a := by
  have hNumbers := acknowledged_numbers cfg s a
  have hQp : (s.receiveAck cfg a).qp = s.qp.receiveAck cfg.toAckConfig a := rfl
  rw [hQp, receiveAck_eq]
  split
  · exact ⟨hNumbers.1, hNumbers.2.1, hNumbers.2.1⟩
  · exact hNumbers

/-- The timer is left running only for bytes in flight. -/
theorem rearm_of_lt {s : GoBackNSender} {a : AckPacket} (hOpen : s.unaAfter cfg a < s.qp.size)
    (hFly : s.unaAfter cfg a < s.nxtAfter cfg a) : s.rearm cfg a = true := by
  unfold rearm
  unfold unaAfter at hOpen
  unfold nxtAfter unaAfter at hFly
  by_cases hInterval : cfg.ackInterval = 0
  · rw [if_pos hInterval] at hOpen
    rw [if_pos hInterval, if_pos hInterval] at hFly
    have hUnfinished : ¬ (s.qp.isFinished cfg.toAckConfig).1 = true := by
      rw [RdmaQueuePair.isFinished_iff]
      omega
    dsimp only
    rw [if_pos hInterval, if_neg hUnfinished]
    exact decide_eq_true (Or.inr (by omega))
  · rw [if_neg hInterval] at hOpen
    rw [if_neg hInterval, if_neg hInterval] at hFly
    have hTx := processAck_tx cfg s.qp a
    have hUnfinished : ¬ ((s.qp.processAck cfg.toAckConfig a).isFinished cfg.toAckConfig).1 =
        true := by
      rw [RdmaQueuePair.isFinished_iff, hTx.1]
      exact not_le.mpr hOpen
    dsimp only
    rw [if_neg hInterval, if_neg hUnfinished, hTx.1, hTx.2]
    exact decide_eq_true (Or.inr (by omega))

theorem receiveAck_counted {s : GoBackNSender} (h : s.qp.Counted) (a : AckPacket) :
    (s.receiveAck cfg a).qp.Counted := by
  obtain ⟨-, hSame⟩ | ⟨-, -, hAcked⟩ := s.qp.receiveAck_cases cfg.toAckConfig a
  · exact h.congr hSame
  · exact hAcked.counted h

/-- A timeout forgets what is in flight. -/
theorem handleTimeout_qp (cfg : GoBackNConfig) (s : GoBackNSender) :
    (s.handleTimeout cfg).qp =
      if s.qp.size ≤ s.qp.tx.sndUna then s.qp else s.qp.recoverQueue := by
  show s.qp.handleTimeout cfg.toAckConfig = _
  show (if (s.qp.isFinished cfg.toAckConfig).1 = true ∨ (false = true ∧ true = true) then s.qp
    else s.qp.recoverQueue) = _
  refine if_congr ?_ rfl rfl
  rw [RdmaQueuePair.isFinished_iff]
  exact or_iff_left (by decide)

end GoBackNSender

/-! ## Receiver -/

namespace RdmaRxQueuePair

/-- What `ReceiverCheckSeq` does: it takes the packet, finds a gap before it, or has it already. -/
inductive Checked (cfg : GoBackNConfig) (q : RdmaRxQueuePair) (seq size : Nat) :
    Nat → RdmaRxQueuePair → Prop
  | accepted {x : Nat} {q' : RdmaRxQueuePair}
      (reaches : seq = q.receiverNextExpectedSeq ∨
        seq < q.receiverNextExpectedSeq ∧ q.receiverNextExpectedSeq ≤ addU32 seq size)
      (expected : q'.receiverNextExpectedSeq = addU32 q.receiverNextExpectedSeq
        (size - (q.receiverNextExpectedSeq - seq)))
      (answer : x = if q.milestoneRx ≤ q'.receiverNextExpectedSeq ∨
        q'.receiverNextExpectedSeq % cfg.chunk = 0 then 1 else 5) : Checked cfg q seq size x q'
  | gap {x : Nat} {q' : RdmaRxQueuePair} (ahead : q.receiverNextExpectedSeq < seq)
      (expected : q'.receiverNextExpectedSeq = q.receiverNextExpectedSeq ∨
        cfg.backto0 = true ∧ q'.receiverNextExpectedSeq =
          q.receiverNextExpectedSeq / cfg.chunk * cfg.chunk)
      (answer : x = 2 ∨ x = 4) : Checked cfg q seq size x q'
  | duplicate (below : seq < q.receiverNextExpectedSeq)
      (short : addU32 seq size < q.receiverNextExpectedSeq) : Checked cfg q seq size 1 q

theorem receiverCheckSeq_cases {q q' : RdmaRxQueuePair} {seq size now x : Nat}
    (h : q.receiverCheckSeq cfg seq size now = some (x, q')) : Checked cfg q seq size x q' := by
  unfold receiverCheckSeq at h
  dsimp only at h
  split at h
  · rename_i hReach
    split at h
    · rename_i hMilestone
      cases h
      exact .accepted hReach rfl (if_pos (Or.inl hMilestone)).symm
    · rename_i hBefore
      split at h
      · cases h
      · cases h
        exact .accepted hReach rfl (if_congr (or_iff_right hBefore).symm rfl rfl)
  · rename_i hPast
    split at h
    · rename_i hAhead
      split at h
      · split at h
        · cases h
          exact .gap hAhead (Or.inl rfl) (Or.inl rfl)
        · rename_i hBack
          split at h
          · cases h
          · cases h
            exact .gap hAhead (Or.inr ⟨by simpa using hBack, rfl⟩) (Or.inl rfl)
      · cases h
        exact .gap hAhead (Or.inl rfl) (Or.inr rfl)
    · rename_i hBehind
      cases h
      exact .duplicate (by omega) (by omega)

/-- Where no number wraps around, a packet that is taken moves the expected number to its end. -/
theorem expected_after {seq size expected bound : Nat} (hBound : bound < 2 ^ 32)
    (hEnd : seq + size ≤ bound) (hReach : seq = expected ∨
      seq < expected ∧ expected ≤ addU32 seq size) :
    addU32 expected (size - (expected - seq)) = seq + size := by
  unfold addU32 at hReach ⊢
  rw [Nat.mod_eq_of_lt (by omega)] at hReach
  rw [Nat.mod_eq_of_lt (by omega)]
  omega

/-- `ReceiveUdp` sends the new expected number, for the answers 1 and 2. -/
theorem receiveUdp_cases {q q' : RdmaRxQueuePair} {d : IrnData} {now : Nat} {a : Option AckPacket}
    (h : q.receiveUdp cfg d now = some (a, q')) : ∃ x,
      Checked cfg { q with milestoneRx := cfg.ackInterval } d.seq d.payloadSize x q' ∧
        (a = if x = 1 ∨ x = 2 ∨ x = 6 then some {
          seq := q'.receiverNextExpectedSeq, irnNack := 0, irnNackSize := 0, nack := x ≠ 1
          dport := cfg.sport, pg := cfg.pg } else none) := by
  obtain ⟨p, hCheck, hAnswer⟩ := Option.bind_eq_some_iff.mp h
  refine ⟨p.1, ?_⟩
  dsimp only at hAnswer
  split at hAnswer
  · rename_i hSend
    cases hAnswer
    exact ⟨receiverCheckSeq_cases hCheck, (if_pos hSend).symm⟩
  · rename_i hSilent
    cases hAnswer
    exact ⟨receiverCheckSeq_cases hCheck, (if_neg hSilent).symm⟩

end RdmaRxQueuePair

/-! ## The invariant -/

variable {R S : Set Nat} {bound : Nat}

/-- The numbers of a sender, of which everything below `snd_una` is in `R`. -/
structure GoBackNSender.Sound (bound : Nat) (R : Set Nat) (s : GoBackNSender) : Prop where
  size : s.qp.size = bound
  ordered : s.qp.tx.sndUna ≤ s.qp.tx.sndNxt
  within : s.qp.tx.sndNxt ≤ bound
  una : ∀ x < s.qp.tx.sndUna, x ∈ R
  /-- Bytes in flight keep the timer running. -/
  timer : s.qp.tx.sndUna < s.qp.tx.sndNxt → s.retransmit = true
  counted : s.qp.Counted

/-- A number up to which everything is in `R`. -/
structure PrefixSound (bound : Nat) (R : Set Nat) (n : Nat) : Prop where
  within : n ≤ bound
  below : ∀ x < n, x ∈ R

theorem PrefixSound.mono {n : Nat} (h : PrefixSound bound R n) (hRS : R ⊆ S) :
    PrefixSound bound S n := ⟨h.within, fun x hx => hRS (h.below x hx)⟩

theorem PrefixSound.of_le {m n : Nat} (h : PrefixSound bound R n) (hLe : m ≤ n) :
    PrefixSound bound R m :=
  ⟨hLe.trans h.within, fun x hx => h.below x (Nat.lt_of_lt_of_le hx hLe)⟩

namespace GoBackNSender

theorem Sound.mono {s : GoBackNSender} (h : s.Sound bound R) (hRS : R ⊆ S) : s.Sound bound S :=
  { h with una := fun x hx => hRS (h.una x hx) }

theorem Sound.getNxtPacket {s : GoBackNSender} (h : s.Sound bound R) :
    (s.getNxtPacket cfg).2.Sound bound R := by
  have hPayload : s.nextPayload cfg ≤ bound - s.qp.tx.sndNxt := by
    rw [← h.size]
    exact min_le_right _ _
  have hWithin := h.within
  rw [getNxtPacket_sender]
  exact {
    size := h.size
    ordered := h.ordered.trans (Nat.le_add_right _ _)
    within := by
      show s.qp.tx.sndNxt + s.nextPayload cfg ≤ bound
      omega
    una := h.una
    timer := fun _ => rfl
    counted := h.counted.congr ⟨rfl, rfl, rfl, rfl⟩ }

theorem Sound.receiveAck {s : GoBackNSender} (h : s.Sound bound R) {a : AckPacket}
    (ha : PrefixSound bound R a.seq) : (s.receiveAck cfg a).Sound bound R := by
  have hNumbers := receiveAck_numbers cfg s a
  have hAcked := ha.of_le (acked_le cfg a)
  have hOrdered := h.ordered
  have hWithin := h.within
  -- What is acknowledged lies between the old number and the end of the message.
  have hUna : s.qp.tx.sndUna ≤ s.unaAfter cfg a ∧ PrefixSound bound R (s.unaAfter cfg a) := by
    have hOld : PrefixSound bound R s.qp.tx.sndUna := ⟨hOrdered.trans hWithin, h.una⟩
    unfold unaAfter
    split
    · exact ⟨Nat.le_refl _, hOld⟩
    · refine ⟨le_max_left _ _, ?_⟩
      rcases max_choice s.qp.tx.sndUna (acked cfg a) with hMax | hMax
      · rw [hMax]
        exact hOld
      · rw [hMax]
        exact hAcked
  have hNxt : s.unaAfter cfg a ≤ s.nxtAfter cfg a ∧ s.nxtAfter cfg a ≤ bound := by
    unfold nxtAfter
    split
    · rename_i hInterval
      have hSame : s.unaAfter cfg a = s.qp.tx.sndUna := if_pos hInterval
      rw [hSame]
      exact ⟨hOrdered, hWithin⟩
    · exact ⟨le_max_right _ _, max_le hWithin hUna.2.within⟩
  constructor
  · exact hNumbers.1.trans h.size
  · rw [hNumbers.2.1, hNumbers.2.2]
    split
    · exact Nat.le_refl _
    · exact hNxt.1
  · rw [hNumbers.2.2]
    split
    · exact hUna.2.within
    · exact hNxt.2
  · rw [hNumbers.2.1]
    exact hUna.2.below
  · rw [hNumbers.2.1, hNumbers.2.2]
    split
    · exact fun hLt => absurd hLt (lt_irrefl _)
    · intro hFly
      exact rearm_of_lt (by rw [h.size]; omega) hFly
  · exact receiveAck_counted h.counted a

theorem Sound.handleTimeout {s : GoBackNSender} (h : s.Sound bound R) :
    (s.handleTimeout cfg).Sound bound R := by
  have hQp := handleTimeout_qp cfg s
  have hOrdered := h.ordered
  have hWithin := h.within
  have hSize := h.size
  split at hQp
  · -- A finished QP has nothing in flight.
    constructor
    · rw [hQp]
      exact h.size
    · rw [hQp]
      exact h.ordered
    · rw [hQp]
      exact h.within
    · rw [hQp]
      exact h.una
    · rw [hQp]
      omega
    · rw [hQp]
      exact h.counted
  · constructor
    · rw [hQp]
      exact h.size
    · rw [hQp]
      exact Nat.le_refl _
    · rw [hQp]
      exact hOrdered.trans hWithin
    · rw [hQp]
      exact h.una
    · rw [hQp]
      exact fun hLt => absurd hLt (lt_irrefl _)
    · rw [hQp]
      exact h.counted.congr ⟨rfl, rfl, rfl, rfl⟩

end GoBackNSender

/-- A packet that is within the message and in `R` keeps the expected number sound. -/
theorem RdmaRxQueuePair.Checked.sound (hBound : bound < 2 ^ 32) {q q' : RdmaRxQueuePair}
    {seq size x : Nat} (h : Checked cfg q seq size x q') (hEnd : seq + size ≤ bound)
    (hIn : ∀ y, seq ≤ y → y < seq + size → y ∈ R)
    (hq : PrefixSound bound R q.receiverNextExpectedSeq) :
    PrefixSound bound R q'.receiverNextExpectedSeq := by
  cases h with
  | accepted reaches expected answer =>
    rw [expected, expected_after hBound hEnd reaches]
    refine ⟨hEnd, ?_⟩
    intro y hy
    rcases Nat.lt_or_ge y seq with hBelow | hAbove
    · exact hq.below y (by omega)
    · exact hIn y hAbove hy
  | gap ahead expected answer =>
    rcases expected with hSame | ⟨-, hBack⟩
    · rw [hSame]
      exact hq
    · rw [hBack]
      exact hq.of_le (Nat.div_mul_le_self _ _)
  | duplicate below short => exact hq

/-- Both parties and the packets between them. -/
structure GoBackNInv (cfg : GoBackNConfig) (r : GoBackNRun) : Prop where
  sender : r.sender.Sound cfg.size r.received
  receiver : PrefixSound cfg.size r.received r.receiver.receiverNextExpectedSeq
  data : Within cfg.size (r.data.map fun d => (d.seq, d.payloadSize))
  acks : ∀ a ∈ r.acks, PrefixSound cfg.size r.received a.seq

theorem goBackNInv_init (cfg : GoBackNConfig) : GoBackNInv cfg (goBackN cfg).init where
  sender := {
    size := rfl
    ordered := Nat.le_refl 0
    within := Nat.zero_le _
    una := fun _ hx => absurd hx (Nat.not_lt_zero _)
    timer := fun hLt => absurd hLt (lt_irrefl _)
    counted := RdmaQueuePair.counted_new cfg.size cfg.flowId }
  receiver := ⟨Nat.zero_le _, fun _ hx => absurd hx (Nat.not_lt_zero _)⟩
  data := fun _ hIn => absurd hIn List.not_mem_nil
  acks := fun _ hIn => absurd hIn List.not_mem_nil

/-- What `arrive` does, through the answer of `ReceiverCheckSeq`. -/
theorem GoBackNRun.arrive_cases {r t : GoBackNRun} {d : IrnData} {now : Nat}
    (h : r.arrive cfg d now = some t) : ∃ x q,
      RdmaRxQueuePair.Checked cfg { r.receiver with milestoneRx := cfg.ackInterval } d.seq
        d.payloadSize x q ∧
      t = { r with
        receiver := q
        acks := r.acks ++ (if x = 1 ∨ x = 2 ∨ x = 6 then some {
          seq := q.receiverNextExpectedSeq, irnNack := 0, irnNackSize := 0, nack := x ≠ 1
          dport := cfg.sport, pg := cfg.pg } else none : Option AckPacket).toList
        arrived := (d.seq, d.payloadSize) :: r.arrived } := by
  obtain ⟨p, hReceive, hResult⟩ := Option.bind_eq_some_iff.mp h
  obtain ⟨x, hChecked, hAnswer⟩ := RdmaRxQueuePair.receiveUdp_cases hReceive
  cases hResult
  refine ⟨x, p.2, hChecked, ?_⟩
  rw [← hAnswer]

theorem GoBackNRun.acknowledge_eq {r t : GoBackNRun} {a : AckPacket}
    (h : r.acknowledge cfg a = some t) : t = { r with sender := r.sender.receiveAck cfg a } := by
  unfold acknowledge at h
  split at h
  · cases h
  · exact (Option.some.inj h).symm

theorem GoBackNInv.step (hSize : cfg.size < 2 ^ 32) {r t : GoBackNRun} {e : GoBackNEvent}
    (h : GoBackNInv cfg r) (hStep : (goBackN cfg).step r e = some t) : GoBackNInv cfg t := by
  cases e with
  | send rate =>
    obtain ⟨hMay, rfl⟩ := Machine.of_guarded hStep
    refine ⟨h.sender.getNxtPacket, h.receiver, ?_, h.acks⟩
    have hSender := h.sender
    have hLeft := (GoBackNSender.maySend_iff.mp hMay).1
    have hPayload : r.sender.nextPayload cfg ≤ r.sender.qp.size - r.sender.qp.tx.sndNxt :=
      min_le_right _ _
    intro b hb
    rw [List.map_append, List.mem_append] at hb
    rcases hb with hOld | hNew
    · exact h.data b hOld
    · rw [GoBackNSender.getNxtPacket_data] at hNew
      rw [List.mem_singleton.mp hNew]
      show r.sender.qp.tx.sndNxt % 2 ^ 32 + r.sender.nextPayload cfg ≤ cfg.size
      rw [hSender.size] at hPayload hLeft
      rw [Nat.mod_eq_of_lt (by omega)]
      omega
  | timeout =>
    obtain ⟨-, rfl⟩ := Machine.of_guarded hStep
    exact ⟨h.sender.handleTimeout, h.receiver, h.data, h.acks⟩
  | deliverData i now =>
    obtain ⟨d, hd, hArrive⟩ := Option.bind_eq_some_iff.mp hStep
    obtain ⟨x, q, hChecked, rfl⟩ := GoBackNRun.arrive_cases hArrive
    have hMore : r.received ⊆ covered ((d.seq, d.payloadSize) :: r.arrived) := by
      rintro y ⟨b, hb, hy⟩
      exact ⟨b, List.mem_cons_of_mem _ hb, hy⟩
    have hEnd : d.seq + d.payloadSize ≤ cfg.size :=
      h.data _ (List.mem_map_of_mem (List.mem_of_getElem? hd))
    have hIn (y : Nat) (hLow : d.seq ≤ y) (hHigh : y < d.seq + d.payloadSize) :
        y ∈ covered ((d.seq, d.payloadSize) :: r.arrived) :=
      ⟨_, List.mem_cons_self, hLow, hHigh⟩
    have hReceiver := hChecked.sound hSize hEnd hIn (h.receiver.mono hMore)
    refine ⟨h.sender.mono hMore, hReceiver, h.data, ?_⟩
    intro a ha
    rcases List.mem_append.mp ha with hOld | hNew
    · exact (h.acks a hOld).mono hMore
    · split at hNew
      · rw [List.mem_singleton.mp hNew]
        exact hReceiver
      · exact absurd hNew List.not_mem_nil
  | deliverAck i =>
    obtain ⟨a, ha, hAcknowledge⟩ := Option.bind_eq_some_iff.mp hStep
    rw [GoBackNRun.acknowledge_eq hAcknowledge]
    exact ⟨h.sender.receiveAck (h.acks a (List.mem_of_getElem? ha)), h.receiver, h.data, h.acks⟩

theorem goBackNInv_of_reachable (hSize : cfg.size < 2 ^ 32) {r : GoBackNRun}
    (h : (goBackN cfg).Reachable r) : GoBackNInv cfg r :=
  Machine.reachable_induction (goBackNInv_init cfg) (fun _ _ _ hInv hNext => hInv.step hSize hNext)
    h

/-- Go-back-N safety: what the sender counts as acknowledged and what the receiver expects next has
a complete prefix before it, a QP completes only when the whole message has arrived, the assertion
of `GetOnTheFly` holds, and bytes in flight keep the timer running. -/
theorem go_back_n_safety {cfg : GoBackNConfig} (hSize : cfg.size < 2 ^ 32) {r : GoBackNRun}
    (h : (goBackN cfg).Reachable r) :
    (∀ x, x < r.sender.qp.tx.sndUna ∨ x < r.receiver.receiverNextExpectedSeq → x ∈ r.received) ∧
      (0 < r.sender.qp.completions → ∀ x < cfg.size, x ∈ r.received) ∧
      r.sender.qp.tx.sndUna ≤ r.sender.qp.tx.sndNxt ∧ r.sender.qp.tx.sndNxt ≤ cfg.size ∧
      (r.sender.getOnTheFly > 0 → r.sender.retransmit = true) := by
  have hInv := goBackNInv_of_reachable hSize h
  refine ⟨?_, ?_, hInv.sender.ordered, hInv.sender.within, ?_⟩
  · rintro x (hx | hx)
    · exact hInv.sender.una x hx
    · exact hInv.receiver.below x hx
  · intro hDone x hx
    by_cases hSettled : r.sender.qp.Settled
    · refine hInv.sender.una x (Nat.lt_of_lt_of_le hx ?_)
      rw [← hInv.sender.size]
      exact hSettled.1
    · rw [hInv.sender.counted.unsettled hSettled] at hDone
      exact absurd hDone (lt_irrefl 0)
  · intro hFly
    exact hInv.sender.timer (Nat.lt_of_sub_pos hFly)

/-- A message of three packets in a window of two. The first packet is lost, the NACK for the second
makes the sender start again, and the last packet is lost once. -/
def goBackNSampleConfig : GoBackNConfig where
  size := 2500
  flowId := 1
  sport := 10000
  pg := 3
  mtu := 1000
  chunk := 4000
  backto0 := false
  ackInterval := 1
  nackInterval := 500
  win := 2000
  varWin := true
  maxRate := 100
  rateBased := false

def goBackNSampleRun : List GoBackNEvent :=
  [.send 100, .send 100, .deliverData 1 5, .deliverAck 0, .send 50, .deliverData 2 10,
    .deliverAck 1, .send 50, .deliverData 3 20, .deliverAck 2, .send 50, .timeout, .send 1,
    .deliverData 5 30, .deliverAck 3]

theorem go_back_n_safety_sample :
    ∃ r, (goBackN goBackNSampleConfig).run (goBackN goBackNSampleConfig).init goBackNSampleRun =
        some r ∧ 0 < r.sender.qp.completions ∧ ∀ x < 2500, x ∈ r.received := by
  have hRun : ((goBackN goBackNSampleConfig).run (goBackN goBackNSampleConfig).init
      goBackNSampleRun).map (fun r => decide (0 < r.sender.qp.completions)) = some true := by
    decide +kernel
  obtain ⟨r, hr, hDone⟩ := Option.map_eq_some_iff.mp hRun
  have hSafe := go_back_n_safety (by decide : goBackNSampleConfig.size < 2 ^ 32)
    ⟨goBackNSampleRun, hr⟩
  exact ⟨r, hr, of_decide_eq_true hDone, hSafe.2.1 (of_decide_eq_true hDone)⟩

end Dpdq.Ns3
