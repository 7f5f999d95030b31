import Dpdq.Ns3.GoBackNSafety

/-!
# Windows and progress of go-back-N

* `go_back_n_in_flight`: a fixed or rate-scaled window bounds the bytes in flight in every run.
* `go_back_n_no_dead_end`: where the first packet reaches `m_ack_interval`, every state leads to the
  completion, also if everything in flight is lost.
* `go_back_n_never_acked`: where it does not, and is all that may be in flight, nothing is ever
  acknowledged.
* `go_back_n_long_message`: a message of 4 GiB or more never completes.
-/

namespace Dpdq.Ns3

open Dpdq.Lib

variable {cfg : GoBackNConfig}

/-! ## Bytes in flight -/

/-- The rate of a QP stays within the rate of its link. -/
def GoBackNRun.RateAtMost (cfg : GoBackNConfig) (_ : GoBackNRun) (e : GoBackNEvent) : Prop :=
  ∀ rate, e = .send rate → rate ≤ cfg.maxRate

theorem GoBackNSender.getWin_le {rate : Nat} (hWin : cfg.win ≠ 0) (hRate : rate ≤ cfg.maxRate) :
    getWin cfg rate ≤ cfg.win := by
  unfold getWin
  rw [if_neg hWin]
  split
  · refine max_le ?_ (Nat.one_le_iff_ne_zero.mpr hWin)
    calc cfg.win * rate % 2 ^ 64 / cfg.maxRate
        ≤ cfg.win * cfg.maxRate / cfg.maxRate :=
          Nat.div_le_div_right ((Nat.mod_le _ _).trans (Nat.mul_le_mul_left _ hRate))
      _ ≤ cfg.win := Nat.div_le_of_le_mul (Nat.le_of_eq (Nat.mul_comm _ _))
  · exact Nat.le_refl _

theorem GoBackNSender.getWin_pos (hWin : cfg.win ≠ 0) (rate : Nat) : 0 < getWin cfg rate := by
  unfold getWin
  rw [if_neg hWin]
  split
  · exact Nat.lt_of_lt_of_le Nat.zero_lt_one (le_max_right _ _)
  · exact Nat.pos_of_ne_zero hWin

/-- The bytes in flight stay below one window and one packet. -/
def GoBackNRun.WithinWindow (cfg : GoBackNConfig) (r : GoBackNRun) : Prop :=
  r.sender.qp.tx.sndNxt ≤ r.sender.qp.tx.sndUna + (cfg.win - 1 + cfg.mtu)

theorem GoBackNRun.WithinWindow.step (hWin : cfg.win ≠ 0) (hBased : cfg.rateBased = false)
    {r t : GoBackNRun} {e : GoBackNEvent} (h : r.WithinWindow cfg) (hRate : r.RateAtMost cfg e)
    (hStep : (goBackN cfg).step r e = some t) : t.WithinWindow cfg := by
  unfold WithinWindow at h ⊢
  cases e with
  | send rate =>
    obtain ⟨hMay, rfl⟩ := Machine.of_guarded hStep
    have hBound := GoBackNSender.getWin_le hWin (hRate rate rfl)
    have hPayload : r.sender.nextPayload cfg ≤ cfg.mtu := min_le_left _ _
    have hRoom : r.sender.getOnTheFly < GoBackNSender.getWin cfg rate := by
      rcases (GoBackNSender.maySend_iff.mp hMay).2 with hRated | hNone | hRoom
      · rw [hBased] at hRated
        cases hRated
      · exact absurd hNone (GoBackNSender.getWin_pos hWin rate).ne'
      · exact hRoom
    unfold GoBackNSender.getOnTheFly at hRoom
    dsimp only
    rw [GoBackNSender.getNxtPacket_sender]
    dsimp only
    omega
  | timeout =>
    obtain ⟨-, rfl⟩ := Machine.of_guarded hStep
    have hQp := GoBackNSender.handleTimeout_qp cfg r.sender
    dsimp only
    rw [hQp]
    split
    · exact h
    · exact Nat.le_add_right _ _
  | deliverData i now =>
    obtain ⟨d, -, hArrive⟩ := Option.bind_eq_some_iff.mp hStep
    obtain ⟨x, q, -, rfl⟩ := arrive_cases hArrive
    exact h
  | deliverAck i =>
    obtain ⟨a, -, hAcknowledge⟩ := Option.bind_eq_some_iff.mp hStep
    have hNumbers := GoBackNSender.receiveAck_numbers cfg r.sender a
    have hUna : r.sender.qp.tx.sndUna ≤ r.sender.unaAfter cfg a := by
      unfold GoBackNSender.unaAfter
      split
      · exact Nat.le_refl _
      · exact le_max_left _ _
    rw [acknowledge_eq hAcknowledge]
    dsimp only
    rw [hNumbers.2.1, hNumbers.2.2]
    split
    · exact Nat.le_add_right _ _
    · unfold GoBackNSender.nxtAfter
      split
      · omega
      · exact max_le (by omega) (Nat.le_add_right _ _)

/-- In every run in which the rate stays within the link's, a QP with a window has at most one byte
less than the window and one packet in flight. -/
theorem go_back_n_in_flight {cfg : GoBackNConfig} (hWin : cfg.win ≠ 0)
    (hBased : cfg.rateBased = false) {r : GoBackNRun} {es : List GoBackNEvent}
    (hRates : (goBackN cfg).Guarded (GoBackNRun.RateAtMost cfg) (goBackN cfg).init es)
    (hRun : (goBackN cfg).run (goBackN cfg).init es = some r) :
    r.sender.getOnTheFly ≤ cfg.win - 1 + cfg.mtu := by
  have hWithin : r.WithinWindow cfg :=
    Machine.guarded_induction (I := GoBackNRun.WithinWindow cfg) (Nat.zero_le _)
      (fun _ _ _ h hRate hNext => h.step hWin hBased hRate hNext) hRates hRun
  exact Nat.sub_le_iff_le_add'.mpr hWithin

theorem go_back_n_in_flight_sample :
    ∃ r, (goBackN goBackNSampleConfig).run (goBackN goBackNSampleConfig).init
        [.send 100, .send 60] = some r ∧ r.sender.getOnTheFly ≤ 2999 := by
  have hRun : ((goBackN goBackNSampleConfig).run (goBackN goBackNSampleConfig).init
      [.send 100, .send 60]).isSome = true := by
    decide +kernel
  obtain ⟨r, hr⟩ := Option.isSome_iff_exists.mp hRun
  have hRate (rate : Nat) (hLe : rate ≤ 100) (s : GoBackNRun) :
      s.RateAtMost goBackNSampleConfig (.send rate) := by
    intro other hOther
    cases hOther
    exact hLe
  have hRates : (goBackN goBackNSampleConfig).Guarded (GoBackNRun.RateAtMost goBackNSampleConfig)
      (goBackN goBackNSampleConfig).init [.send 100, .send 60] :=
    ⟨hRate 100 (by decide) _, fun s _ => ⟨hRate 60 (by decide) s, fun _ _ => trivial⟩⟩
  exact ⟨r, hr, go_back_n_in_flight (by decide) rfl hRates hr⟩

/-! ## Progress -/

/-- The sender and the ACKs do not run ahead of the receiver, and a sender with everything
acknowledged has completed. -/
structure GoBackNRun.Following (cfg : GoBackNConfig) (r : GoBackNRun) : Prop where
  acks : ∀ a ∈ r.acks, a.seq ≤ r.receiver.receiverNextExpectedSeq
  una : r.sender.qp.tx.sndUna ≤ r.receiver.receiverNextExpectedSeq

/-- Without `m_backto0` the expected number never goes back. -/
theorem RdmaRxQueuePair.Checked.expected_le (hBack : cfg.backto0 = false) {bound : Nat}
    (hBound : bound < 2 ^ 32) {q q' : RdmaRxQueuePair} {seq size x : Nat}
    (h : Checked cfg q seq size x q') (hEnd : seq + size ≤ bound) :
    q.receiverNextExpectedSeq ≤ q'.receiverNextExpectedSeq := by
  cases h with
  | accepted reaches expected answer =>
    rw [expected, expected_after hBound hEnd reaches]
    rcases reaches with hNext | ⟨-, hReach⟩
    · exact hNext ▸ Nat.le_add_right _ _
    · exact hReach.trans (Nat.mod_le _ _)
  | gap ahead expected answer =>
    rcases expected with hSame | ⟨hBackto, -⟩
    · exact hSame.ge
    · rw [hBack] at hBackto
      cases hBackto
  | duplicate below short => exact Nat.le_refl _

theorem GoBackNRun.Following.step (hSize : cfg.size < 2 ^ 32) (hBack : cfg.backto0 = false)
    {r t : GoBackNRun} {e : GoBackNEvent} (hInv : GoBackNInv cfg r) (h : r.Following cfg)
    (hStep : (goBackN cfg).step r e = some t) : t.Following cfg := by
  cases e with
  | send rate =>
    obtain ⟨-, rfl⟩ := Machine.of_guarded hStep
    refine ⟨h.acks, ?_⟩
    dsimp only
    rw [GoBackNSender.getNxtPacket_sender]
    exact h.una
  | timeout =>
    obtain ⟨-, rfl⟩ := Machine.of_guarded hStep
    refine ⟨h.acks, ?_⟩
    have hQp := GoBackNSender.handleTimeout_qp cfg r.sender
    dsimp only
    rw [hQp]
    split
    · exact h.una
    · exact h.una
  | deliverData i now =>
    obtain ⟨d, hd, hArrive⟩ := Option.bind_eq_some_iff.mp hStep
    obtain ⟨x, q, hChecked, rfl⟩ := arrive_cases hArrive
    have hLe := hChecked.expected_le hBack hSize
      (hInv.data _ (List.mem_map_of_mem (List.mem_of_getElem? hd)))
    refine ⟨?_, h.una.trans hLe⟩
    intro a ha
    rcases List.mem_append.mp ha with hOld | hNew
    · exact (h.acks a hOld).trans hLe
    · split at hNew
      · rw [List.mem_singleton.mp hNew]
      · exact absurd hNew List.not_mem_nil
  | deliverAck i =>
    obtain ⟨a, ha, hAcknowledge⟩ := Option.bind_eq_some_iff.mp hStep
    have hNumbers := GoBackNSender.receiveAck_numbers cfg r.sender a
    have hAck := h.acks a (List.mem_of_getElem? ha)
    rw [acknowledge_eq hAcknowledge]
    refine ⟨h.acks, ?_⟩
    dsimp only
    rw [hNumbers.2.1]
    unfold GoBackNSender.unaAfter
    split
    · exact h.una
    · exact max_le h.una ((GoBackNSender.acked_le cfg a).trans hAck)

theorem following_of_reachable (hSize : cfg.size < 2 ^ 32) (hBack : cfg.backto0 = false)
    {r : GoBackNRun} (h : (goBackN cfg).Reachable r) : r.Following cfg := by
  have hBoth : GoBackNInv cfg r ∧ r.Following cfg :=
    Machine.reachable_induction (I := fun r => GoBackNInv cfg r ∧ r.Following cfg)
      ⟨goBackNInv_init cfg, fun _ hIn => absurd hIn List.not_mem_nil, Nat.le_refl 0⟩
      (fun _ _ _ hs hNext => ⟨hs.1.step hSize hNext, hs.2.step hSize hBack hs.1 hNext⟩) h
  exact hBoth.2

/-- A packet at or below the expected number that reaches the milestone is answered by an ACK. -/
theorem RdmaRxQueuePair.receiverCheckSeq_ack {bound seq size : Nat} (hBound : bound < 2 ^ 32)
    {q : RdmaRxQueuePair} (hEnd : seq + size ≤ bound) (hSeq : seq ≤ q.receiverNextExpectedSeq)
    (hMilestone : q.milestoneRx ≤ seq + size) (now : Nat) : ∃ q',
      q.receiverCheckSeq cfg seq size now = some (1, q') ∧
        seq + size ≤ q'.receiverNextExpectedSeq := by
  unfold receiverCheckSeq
  dsimp only
  by_cases hReach : seq = q.receiverNextExpectedSeq ∨
      seq < q.receiverNextExpectedSeq ∧ addU32 seq size ≥ q.receiverNextExpectedSeq
  · have hNext := expected_after hBound hEnd hReach
    rw [if_pos hReach, hNext, if_pos hMilestone]
    exact ⟨_, rfl, Nat.le_refl _⟩
  · rw [if_neg hReach, if_neg (by omega)]
    refine ⟨q, rfl, ?_⟩
    have hSum : addU32 seq size = seq + size := Nat.mod_eq_of_lt (by omega)
    rw [hSum] at hReach
    omega

namespace GoBackNRun

/-- The event takes no packet that is in flight at `r`. -/
def Fresh (r : GoBackNRun) : GoBackNEvent → Prop
  | .deliverData i _ => r.data.length ≤ i
  | .deliverAck i => r.acks.length ≤ i
  | _ => True

/-- `t` is reached from `r` by fresh packets alone. -/
structure Leads (cfg : GoBackNConfig) (r t : GoBackNRun) : Prop where
  data : r.data.length ≤ t.data.length
  acks : r.acks.length ≤ t.acks.length
  run : ∃ es, (∀ e ∈ es, r.Fresh e) ∧ (goBackN cfg).run r es = some t

theorem Leads.refl (cfg : GoBackNConfig) (r : GoBackNRun) : r.Leads cfg r :=
  ⟨Nat.le_refl _, Nat.le_refl _, [], fun _ hIn => absurd hIn List.not_mem_nil, rfl⟩

theorem Fresh.of_le {r t : GoBackNRun} (hData : r.data.length ≤ t.data.length)
    (hAcks : r.acks.length ≤ t.acks.length) {e : GoBackNEvent} (h : t.Fresh e) : r.Fresh e := by
  cases e with
  | send rate => trivial
  | timeout => trivial
  | deliverData i now => exact hData.trans h
  | deliverAck i => exact hAcks.trans h

theorem Leads.trans {r t u : GoBackNRun} (hrt : r.Leads cfg t) (htu : t.Leads cfg u) :
    r.Leads cfg u := by
  obtain ⟨es, hes, hFirst⟩ := hrt.run
  obtain ⟨fs, hfs, hSecond⟩ := htu.run
  refine ⟨hrt.data.trans htu.data, hrt.acks.trans htu.acks, es ++ fs, ?_, ?_⟩
  · intro e he
    rcases List.mem_append.mp he with hOld | hNew
    · exact hes e hOld
    · exact (hfs e hNew).of_le hrt.data hrt.acks
  · rw [Machine.run_append, hFirst]
    exact hSecond

theorem Leads.of_step {r t : GoBackNRun} {e : GoBackNEvent} (hFresh : r.Fresh e)
    (hData : r.data.length ≤ t.data.length) (hAcks : r.acks.length ≤ t.acks.length)
    (hStep : (goBackN cfg).step r e = some t) : r.Leads cfg t := by
  refine ⟨hData, hAcks, [e], ?_, Machine.run_cons_eq_some.mpr ⟨t, hStep, rfl⟩⟩
  intro f hf
  rw [List.mem_singleton.mp hf]
  exact hFresh

theorem Leads.reachable {r t : GoBackNRun} (h : r.Leads cfg t) (hr : (goBackN cfg).Reachable r) :
    (goBackN cfg).Reachable t := by
  obtain ⟨es, -, hRun⟩ := h.run
  obtain ⟨fs, hfs⟩ := hr
  exact ⟨fs ++ es, by rw [Machine.run_append, hfs]; exact hRun⟩

/-- The timer brings an unfinished sender back to what is acknowledged. -/
theorem exists_recovered {r : GoBackNRun} (h : GoBackNInv cfg r)
    (hOpen : r.sender.qp.tx.sndUna < cfg.size) : ∃ t, r.Leads cfg t ∧
      t.sender.qp.tx.sndNxt = r.sender.qp.tx.sndUna ∧
      t.sender.qp.tx.sndUna = r.sender.qp.tx.sndUna := by
  rcases Nat.lt_or_ge r.sender.qp.tx.sndUna r.sender.qp.tx.sndNxt with hFly | hIdle
  · have hQp := GoBackNSender.handleTimeout_qp cfg r.sender
    rw [if_neg (by rw [h.sender.size]; omega)] at hQp
    let t := { r with sender := r.sender.handleTimeout cfg }
    have hNumbers : t.sender.qp.tx.sndNxt = r.sender.qp.tx.sndUna ∧
        t.sender.qp.tx.sndUna = r.sender.qp.tx.sndUna := by
      rw [show t.sender.qp = _ from hQp]
      exact ⟨rfl, rfl⟩
    refine ⟨t, Leads.of_step (e := .timeout) trivial (Nat.le_refl _) (Nat.le_refl _) ?_, hNumbers⟩
    exact if_pos (h.sender.timer hFly)
  · exact ⟨r, Leads.refl cfg r, Nat.le_antisymm hIdle h.sender.ordered, rfl⟩

/-- An idle sender sends its next packet. -/
theorem exists_sent {r : GoBackNRun} (h : GoBackNInv cfg r)
    (hIdle : r.sender.qp.tx.sndNxt = r.sender.qp.tx.sndUna)
    (hOpen : r.sender.qp.tx.sndUna < cfg.size) : ∃ t,
      (goBackN cfg).step r (.send cfg.maxRate) = some t ∧
      t.data = r.data ++ [⟨r.sender.qp.tx.sndUna % 2 ^ 32,
        min cfg.mtu (cfg.size - r.sender.qp.tx.sndUna)⟩] ∧
      t.sender.qp.tx.sndUna = r.sender.qp.tx.sndUna ∧ t.acks = r.acks ∧
      t.receiver = r.receiver := by
  have hMay : r.sender.maySend cfg cfg.maxRate = true := by
    rw [GoBackNSender.maySend_iff, h.sender.size, hIdle]
    refine ⟨hOpen, Or.inr ?_⟩
    unfold GoBackNSender.getOnTheFly
    omega
  refine ⟨{ r with
      sender := (r.sender.getNxtPacket cfg).2
      data := r.data ++ [(r.sender.getNxtPacket cfg).1] }, if_pos hMay, ?_, ?_, rfl, rfl⟩
  · dsimp only
    rw [GoBackNSender.getNxtPacket_data]
    unfold GoBackNSender.nextPayload
    rw [h.sender.size, hIdle]
  · dsimp only
    rw [GoBackNSender.getNxtPacket_sender]

/-- The receiver answers a packet that it can take by an ACK for it. -/
theorem exists_answered {r : GoBackNRun} (hSize : cfg.size < 2 ^ 32) {i : Nat} {d : IrnData}
    (hd : r.data[i]? = some d) (hEnd : d.seq + d.payloadSize ≤ cfg.size)
    (hSeq : d.seq ≤ r.receiver.receiverNextExpectedSeq)
    (hInterval : cfg.ackInterval ≤ d.seq + d.payloadSize) : ∃ t a,
      (goBackN cfg).step r (.deliverData i 0) = some t ∧ t.acks = r.acks ++ [a] ∧
        t.data = r.data ∧ t.sender = r.sender ∧ d.seq + d.payloadSize ≤ a.seq := by
  let p := { r.receiver with milestoneRx := cfg.ackInterval }
  obtain ⟨q, hCheck, hNext⟩ : ∃ q, p.receiverCheckSeq cfg d.seq d.payloadSize 0 = some (1, q) ∧
      d.seq + d.payloadSize ≤ q.receiverNextExpectedSeq :=
    RdmaRxQueuePair.receiverCheckSeq_ack (q := p) hSize hEnd hSeq hInterval 0
  let a : AckPacket := {
    seq := q.receiverNextExpectedSeq, irnNack := 0, irnNackSize := 0, nack := false
    dport := cfg.sport, pg := cfg.pg }
  have hReceive : r.receiver.receiveUdp cfg d 0 = some (some a, q) :=
    (congrArg (Option.bind · _) hCheck).trans rfl
  have hArrive : r.arrive cfg d 0 = some { r with
      receiver := q
      acks := r.acks ++ [a]
      arrived := (d.seq, d.payloadSize) :: r.arrived } :=
    (congrArg (Option.bind · _) hReceive).trans rfl
  have hStep : (goBackN cfg).step r (.deliverData i 0) = r.arrive cfg d 0 :=
    congrArg (Option.bind · _) hd
  exact ⟨_, a, hStep.trans hArrive, rfl, rfl, rfl, hNext⟩

/-- The sender takes an ACK in. -/
theorem exists_acked {r : GoBackNRun} (hBack : cfg.backto0 = false) (hInterval : cfg.ackInterval ≠ 0)
    {i : Nat} {a : AckPacket} (ha : r.acks[i]? = some a) : ∃ t,
      (goBackN cfg).step r (.deliverAck i) = some t ∧ t.acks = r.acks ∧ t.data = r.data ∧
        a.seq ≤ t.sender.qp.tx.sndUna := by
  have hAcknowledge : (goBackN cfg).step r (.deliverAck i) = r.acknowledge cfg a :=
    congrArg (Option.bind · _) ha
  refine ⟨{ r with sender := r.sender.receiveAck cfg a }, hAcknowledge.trans ?_, rfl, rfl, ?_⟩
  · unfold acknowledge
    rw [if_neg (by rw [hBack]; exact fun hAnd => Bool.false_ne_true hAnd.1)]
  · dsimp only
    rw [(GoBackNSender.receiveAck_numbers cfg r.sender a).2.1]
    unfold GoBackNSender.unaAfter GoBackNSender.acked
    rw [if_neg hInterval, hBack]
    exact le_max_right _ _

/-- One round: the next packet and its ACK get through. -/
theorem exists_round (hSize : cfg.size < 2 ^ 32) (hBack : cfg.backto0 = false)
    (hInterval : 0 < cfg.ackInterval) (hFirst : cfg.ackInterval ≤ min cfg.mtu cfg.size)
    {r : GoBackNRun} (h : (goBackN cfg).Reachable r) (hOpen : r.sender.qp.tx.sndUna < cfg.size) :
    ∃ t, r.Leads cfg t ∧ r.sender.qp.tx.sndUna < t.sender.qp.tx.sndUna := by
  obtain ⟨idle, hIdle, hNxt, hUna⟩ := exists_recovered (goBackNInv_of_reachable hSize h) hOpen
  have hIdleReach := hIdle.reachable h
  obtain ⟨sent, hSent, hData, hSentUna, hAcks, hReceiver⟩ :=
    exists_sent (goBackNInv_of_reachable hSize hIdleReach) (hNxt.trans hUna.symm) (hUna ▸ hOpen)
  rw [hUna, Nat.mod_eq_of_lt (by omega)] at hData
  have hUnaLe := (following_of_reachable hSize hBack hIdleReach).una
  rw [hUna] at hUnaLe
  have hMin : cfg.ackInterval ≤ cfg.mtu ∧ cfg.ackInterval ≤ cfg.size := le_min_iff.mp hFirst
  -- The packet and its ACK are the newest ones.
  obtain ⟨answered, a, hAnswered, hAnsweredAcks, hAnsweredData, -, hSeq⟩ :=
    exists_answered (r := sent) (i := idle.data.length) hSize
      (by rw [hData, List.getElem?_concat_length]) (by dsimp only; omega)
      (by rw [hReceiver]; exact hUnaLe) (by dsimp only; omega)
  obtain ⟨acked, hAcked, hAckedAcks, hAckedData, hAckedUna⟩ :=
    exists_acked (r := answered) (a := a) (i := idle.acks.length) hBack (by omega)
      (by rw [hAnsweredAcks, hAcks, List.getElem?_concat_length])
  refine ⟨acked, hIdle.trans ⟨?_, ?_,
    [.send cfg.maxRate, .deliverData idle.data.length 0, .deliverAck idle.acks.length], ?_, ?_⟩, ?_⟩
  · rw [hAckedData, hAnsweredData, hData, List.length_append]
    exact Nat.le_add_right _ _
  · rw [hAckedAcks, hAnsweredAcks, hAcks, List.length_append]
    exact Nat.le_add_right _ _
  · intro e he
    simp only [List.mem_cons, List.not_mem_nil, or_false] at he
    rcases he with rfl | rfl | rfl
    · trivial
    · exact Nat.le_refl _
    · exact Nat.le_refl _
  · refine Machine.run_cons_eq_some.mpr ⟨sent, hSent, ?_⟩
    refine Machine.run_cons_eq_some.mpr ⟨answered, hAnswered, ?_⟩
    exact Machine.run_cons_eq_some.mpr ⟨acked, hAcked, rfl⟩
  · dsimp only at hSeq
    omega

end GoBackNRun

/-- Go-back-N has no dead end: where the first packet reaches `m_ack_interval`, every reachable
state leads to the completion by packets that are not in flight yet. -/
theorem go_back_n_no_dead_end {cfg : GoBackNConfig} (hSize : cfg.size < 2 ^ 32)
    (hBack : cfg.backto0 = false) (hInterval : 0 < cfg.ackInterval)
    (hFirst : cfg.ackInterval ≤ min cfg.mtu cfg.size) {r : GoBackNRun}
    (h : (goBackN cfg).Reachable r) : ∃ es t, (∀ e ∈ es, r.Fresh e) ∧
      (goBackN cfg).run r es = some t ∧ 0 < t.sender.qp.completions := by
  -- The induction is on the bytes that are not acknowledged.
  have hAll (n : Nat) : ∀ r, (goBackN cfg).Reachable r → cfg.size - r.sender.qp.tx.sndUna ≤ n →
      ∃ t, r.Leads cfg t ∧ cfg.size ≤ t.sender.qp.tx.sndUna := by
    induction n with
    | zero =>
      intro r _ hLeft
      exact ⟨r, GoBackNRun.Leads.refl cfg r, by omega⟩
    | succ n ih =>
      intro r h hLeft
      rcases Nat.lt_or_ge r.sender.qp.tx.sndUna cfg.size with hOpen | hDone
      · obtain ⟨t, hLeads, hMore⟩ :=
          GoBackNRun.exists_round hSize hBack hInterval hFirst h hOpen
        obtain ⟨u, hRest, hDone⟩ := ih t (hLeads.reachable h) (by omega)
        exact ⟨u, hLeads.trans hRest, hDone⟩
      · exact ⟨r, GoBackNRun.Leads.refl cfg r, hDone⟩
  obtain ⟨t, hLeads, hDone⟩ := hAll _ r h (Nat.le_refl _)
  obtain ⟨es, hFresh, hRun⟩ := hLeads.run
  refine ⟨es, t, hFresh, hRun, ?_⟩
  have hSender := (goBackNInv_of_reachable hSize (hLeads.reachable h)).sender
  refine hSender.counted.settled ⟨hSender.size.symm ▸ hDone, Or.inl ?_⟩
  rw [hSender.size]
  exact Nat.lt_of_lt_of_le hInterval (hFirst.trans (min_le_right _ _))

theorem go_back_n_no_dead_end_sample :
    ∃ r es t, (goBackN goBackNSampleConfig).run (goBackN goBackNSampleConfig).init
        [.send 100, .send 100, .deliverData 1 5] = some r ∧ (∀ e ∈ es, r.Fresh e) ∧
      (goBackN goBackNSampleConfig).run r es = some t ∧ 0 < t.sender.qp.completions := by
  have hRun : ((goBackN goBackNSampleConfig).run (goBackN goBackNSampleConfig).init
      [.send 100, .send 100, .deliverData 1 5]).isSome = true := by
    decide +kernel
  obtain ⟨r, hr⟩ := Option.isSome_iff_exists.mp hRun
  exact ⟨r, (go_back_n_no_dead_end (by decide : goBackNSampleConfig.size < 2 ^ 32) rfl (by decide)
    (by decide) ⟨_, hr⟩).imp fun es h => h.imp fun _ h => ⟨hr, h⟩⟩

/-! ## Where go-back-N is stuck -/

/-- The packet at the start of the message is all that may be in flight. -/
def GoBackNRun.Alone (cfg : GoBackNConfig) (r : GoBackNRun) (e : GoBackNEvent) : Prop :=
  cfg.size ≤ cfg.mtu ∨
    cfg.win ≠ 0 ∧ cfg.win ≤ cfg.mtu ∧ cfg.rateBased = false ∧ r.RateAtMost cfg e

/-- Only the first packet has been sent, and nothing has been answered. -/
structure GoBackNRun.Stuck (cfg : GoBackNConfig) (r : GoBackNRun) : Prop where
  size : r.sender.qp.size = cfg.size
  una : r.sender.qp.tx.sndUna = 0
  nxt : r.sender.qp.tx.sndNxt = 0 ∨ r.sender.qp.tx.sndNxt = min cfg.mtu cfg.size
  expected : r.receiver.receiverNextExpectedSeq = 0 ∨
    r.receiver.receiverNextExpectedSeq = min cfg.mtu cfg.size
  data : ∀ d ∈ r.data, d = ⟨0, min cfg.mtu cfg.size⟩
  acks : r.acks = []
  completions : r.sender.qp.completions = 0

theorem GoBackNRun.Stuck.send {r : GoBackNRun} {rate : Nat} (h : r.Stuck cfg)
    (hAlone : r.Alone cfg (.send rate)) (hMay : r.sender.maySend cfg rate = true) :
    r.sender.qp.tx.sndNxt = 0 := by
  have hLeft := GoBackNSender.maySend_iff.mp hMay
  rw [h.size] at hLeft
  refine h.nxt.resolve_right fun hSent => ?_
  rcases hAlone with hSmall | ⟨hWin, hTight, hBased, hRate⟩
  · omega
  · have hBound := GoBackNSender.getWin_le hWin (hRate rate rfl)
    have hPos := GoBackNSender.getWin_pos hWin rate
    unfold GoBackNSender.getOnTheFly at hLeft
    rw [hBased, h.una] at hLeft
    rcases hLeft.2 with hRated | hNone | hRoom
    · cases hRated
    · omega
    · omega

theorem GoBackNRun.Stuck.step (hFirst : min cfg.mtu cfg.size < cfg.ackInterval)
    (hWord : cfg.ackInterval < 2 ^ 32) (hChunk : min cfg.mtu cfg.size % cfg.chunk ≠ 0)
    {r t : GoBackNRun} {e : GoBackNEvent} (h : r.Stuck cfg) (hAlone : r.Alone cfg e)
    (hStep : (goBackN cfg).step r e = some t) : t.Stuck cfg := by
  cases e with
  | send rate =>
    obtain ⟨hMay, rfl⟩ := Machine.of_guarded hStep
    have hStart := h.send hAlone hMay
    have hPayload : r.sender.nextPayload cfg = min cfg.mtu cfg.size := by
      unfold GoBackNSender.nextPayload
      rw [hStart, h.size, Nat.sub_zero]
    have hSender := GoBackNSender.getNxtPacket_sender cfg r.sender
    rw [hStart, hPayload, Nat.zero_add] at hSender
    refine ⟨?_, ?_, Or.inr ?_, h.expected, ?_, h.acks, ?_⟩
    · dsimp only
      rw [hSender]
      exact h.size
    · dsimp only
      rw [hSender]
      exact h.una
    · dsimp only
      rw [hSender]
    · intro d hd
      rcases List.mem_append.mp hd with hOld | hNew
      · exact h.data d hOld
      · rw [List.mem_singleton.mp hNew, GoBackNSender.getNxtPacket_data, hStart, hPayload]
        rfl
    · dsimp only
      rw [hSender]
      exact h.completions
  | timeout =>
    obtain ⟨-, rfl⟩ := Machine.of_guarded hStep
    have hQp := GoBackNSender.handleTimeout_qp cfg r.sender
    split at hQp
    · refine ⟨?_, ?_, ?_, h.expected, h.data, h.acks, ?_⟩
      · exact hQp ▸ h.size
      · exact hQp ▸ h.una
      · exact hQp ▸ h.nxt
      · exact hQp ▸ h.completions
    · refine ⟨?_, ?_, Or.inl ?_, h.expected, h.data, h.acks, ?_⟩
      · exact hQp ▸ h.size
      · exact hQp ▸ h.una
      · exact hQp ▸ h.una
      · exact hQp ▸ h.completions
  | deliverData i now =>
    obtain ⟨d, hd, hArrive⟩ := Option.bind_eq_some_iff.mp hStep
    obtain ⟨x, q, hChecked, rfl⟩ := arrive_cases hArrive
    rw [h.data d (List.mem_of_getElem? hd)] at hChecked
    have hExpected := h.expected
    -- The packet starts at 0 and ends at or after the expected number.
    have hTaken : q.receiverNextExpectedSeq = min cfg.mtu cfg.size ∧ x = 5 := by
      cases hChecked with
      | accepted reaches expected answer =>
        have hNext : q.receiverNextExpectedSeq = min cfg.mtu cfg.size := by
          rw [expected]
          unfold addU32
          dsimp only
          rw [Nat.mod_eq_of_lt (by omega)]
          omega
        refine ⟨hNext, ?_⟩
        rw [answer, hNext, if_neg]
        exact not_or.mpr ⟨not_le.mpr hFirst, hChunk⟩
      | gap ahead expected answer => exact absurd ahead (Nat.not_lt_zero _)
      | duplicate below short =>
        have hSum : addU32 0 (min cfg.mtu cfg.size) = min cfg.mtu cfg.size := by
          unfold addU32
          rw [Nat.mod_eq_of_lt (by omega), Nat.zero_add]
        dsimp only at below short
        rw [hSum] at short
        omega
    refine ⟨h.size, h.una, h.nxt, Or.inr hTaken.1, h.data, ?_, h.completions⟩
    rw [hTaken.2, h.acks]
    rfl
  | deliverAck i =>
    obtain ⟨a, ha, -⟩ := Option.bind_eq_some_iff.mp hStep
    rw [h.acks] at ha
    cases ha

/-- Where the first packet does not reach `m_ack_interval`, ends at no multiple of `m_chunk` and is
all that may be in flight, no run sends an ACK or a NACK, and none completes the QP. -/
theorem go_back_n_never_acked {cfg : GoBackNConfig}
    (hFirst : min cfg.mtu cfg.size < cfg.ackInterval) (hWord : cfg.ackInterval < 2 ^ 32)
    (hChunk : min cfg.mtu cfg.size % cfg.chunk ≠ 0) {r : GoBackNRun} {es : List GoBackNEvent}
    (hAlone : (goBackN cfg).Guarded (GoBackNRun.Alone cfg) (goBackN cfg).init es)
    (hRun : (goBackN cfg).run (goBackN cfg).init es = some r) :
    r.acks = [] ∧ r.sender.qp.tx.sndUna = 0 ∧ r.sender.qp.completions = 0 := by
  have hInit : GoBackNRun.Stuck cfg (goBackN cfg).init := {
    size := rfl
    una := rfl
    nxt := Or.inl rfl
    expected := Or.inl rfl
    data := fun _ hIn => absurd hIn List.not_mem_nil
    acks := rfl
    completions := rfl }
  have hStuck : r.Stuck cfg :=
    Machine.guarded_induction (I := GoBackNRun.Stuck cfg) hInit
      (fun _ _ _ h hOne hNext => h.step hFirst hWord hChunk hOne hNext) hAlone hRun
  exact ⟨hStuck.acks, hStuck.una, hStuck.completions⟩

/-- A message of one packet below the interval, retransmitted once. -/
def goBackNShortConfig : GoBackNConfig where
  size := 700
  flowId := 1
  sport := 10000
  pg := 3
  mtu := 1000
  chunk := 4000
  backto0 := false
  ackInterval := 1000
  nackInterval := 500
  win := 2000
  varWin := false
  maxRate := 100
  rateBased := false

theorem go_back_n_never_acked_short :
    ∃ r, (goBackN goBackNShortConfig).run (goBackN goBackNShortConfig).init
        [.send 100, .deliverData 0 5, .timeout, .send 100, .deliverData 1 9] = some r ∧
      r.sender.qp.completions = 0 := by
  have hRun : ((goBackN goBackNShortConfig).run (goBackN goBackNShortConfig).init
      [.send 100, .deliverData 0 5, .timeout, .send 100, .deliverData 1 9]).isSome = true := by
    decide +kernel
  obtain ⟨r, hr⟩ := Option.isSome_iff_exists.mp hRun
  have hAlone (s : GoBackNRun) (e : GoBackNEvent) : s.Alone goBackNShortConfig e :=
    Or.inl (by decide)
  have hStuck := go_back_n_never_acked (by decide) (by decide)
    (by decide) ((Machine.guarded_true _ _ _).mono fun s e _ => hAlone s e) hr
  exact ⟨r, hr, hStuck.2.2⟩

/-- Numbers that fit 32 bits, with a message that does not. -/
structure GoBackNRun.Wrapped (cfg : GoBackNConfig) (r : GoBackNRun) : Prop where
  size : r.sender.qp.size = cfg.size
  una : r.sender.qp.tx.sndUna < 2 ^ 32
  expected : r.receiver.receiverNextExpectedSeq < 2 ^ 32
  acks : ∀ a ∈ r.acks, a.seq < 2 ^ 32
  counted : r.sender.qp.Counted

theorem GoBackNRun.Wrapped.step {r t : GoBackNRun} {e : GoBackNEvent} (h : r.Wrapped cfg)
    (hStep : (goBackN cfg).step r e = some t) : t.Wrapped cfg := by
  cases e with
  | send rate =>
    obtain ⟨-, rfl⟩ := Machine.of_guarded hStep
    have hSender := GoBackNSender.getNxtPacket_sender cfg r.sender
    refine ⟨?_, ?_, h.expected, h.acks, ?_⟩
    · dsimp only
      rw [hSender]
      exact h.size
    · dsimp only
      rw [hSender]
      exact h.una
    · dsimp only
      rw [hSender]
      exact h.counted.congr ⟨rfl, rfl, rfl, rfl⟩
  | timeout =>
    obtain ⟨-, rfl⟩ := Machine.of_guarded hStep
    have hSame := r.sender.qp.sameAcked_handle cfg.toAckConfig .timeout
    refine ⟨hSame.size.trans h.size, ?_, h.expected, h.acks, h.counted.congr hSame⟩
    exact hSame.sndUna ▸ h.una
  | deliverData i now =>
    obtain ⟨d, -, hArrive⟩ := Option.bind_eq_some_iff.mp hStep
    obtain ⟨x, q, hChecked, rfl⟩ := arrive_cases hArrive
    have hNext : q.receiverNextExpectedSeq < 2 ^ 32 := by
      cases hChecked with
      | accepted reaches expected answer =>
        rw [expected]
        exact Nat.mod_lt _ (Nat.two_pow_pos 32)
      | gap ahead expected answer =>
        rcases expected with hSame | ⟨-, hBack⟩
        · exact hSame ▸ h.expected
        · rw [hBack]
          exact Nat.lt_of_le_of_lt (Nat.div_mul_le_self _ _) h.expected
      | duplicate below short => exact h.expected
    refine ⟨h.size, h.una, hNext, ?_, h.counted⟩
    intro a ha
    rcases List.mem_append.mp ha with hOld | hNew
    · exact h.acks a hOld
    · split at hNew
      · rw [List.mem_singleton.mp hNew]
        exact hNext
      · exact absurd hNew List.not_mem_nil
  | deliverAck i =>
    obtain ⟨a, ha, hAcknowledge⟩ := Option.bind_eq_some_iff.mp hStep
    have hNumbers := GoBackNSender.receiveAck_numbers cfg r.sender a
    have hAck := h.acks a (List.mem_of_getElem? ha)
    rw [acknowledge_eq hAcknowledge]
    refine ⟨hNumbers.1.trans h.size, ?_, h.expected, h.acks,
      GoBackNSender.receiveAck_counted h.counted a⟩
    dsimp only
    rw [hNumbers.2.1]
    unfold GoBackNSender.unaAfter
    split
    · exact h.una
    · exact max_lt h.una (Nat.lt_of_le_of_lt (GoBackNSender.acked_le cfg a) hAck)

/-- The acknowledged number comes from 32-bit fields: a message of 4 GiB or more never completes. -/
theorem go_back_n_long_message {cfg : GoBackNConfig} (hLong : 2 ^ 32 ≤ cfg.size) {r : GoBackNRun}
    (h : (goBackN cfg).Reachable r) :
    r.sender.qp.tx.sndUna < 2 ^ 32 ∧ r.sender.qp.completions = 0 := by
  have hInit : GoBackNRun.Wrapped cfg (goBackN cfg).init := {
    size := rfl
    una := Nat.two_pow_pos 32
    expected := Nat.two_pow_pos 32
    acks := fun _ hIn => absurd hIn List.not_mem_nil
    counted := RdmaQueuePair.counted_new cfg.size cfg.flowId }
  have hWrapped : r.Wrapped cfg :=
    Machine.reachable_induction (I := GoBackNRun.Wrapped cfg) hInit
      (fun _ _ _ hs hNext => hs.step hNext) h
  refine ⟨hWrapped.una, hWrapped.counted.unsettled fun hSettled => ?_⟩
  have hAll := hSettled.1
  rw [hWrapped.size] at hAll
  exact absurd (hLong.trans hAll) (not_le.mpr hWrapped.una)

/-- A message of three packets that ends 500 bytes beyond 4 GiB. -/
def goBackNLongConfig : GoBackNConfig :=
  { goBackNSampleConfig with size := 2 ^ 32 + 500, mtu := 2 ^ 31, win := 0 }

/-- All packets arrive and all ACKs come back. The number of the second one is 0 again. -/
def goBackNLongRun : List GoBackNEvent :=
  [.send 100, .send 100, .send 100, .deliverData 0 5, .deliverData 1 6, .deliverData 2 7,
    .deliverAck 0, .deliverAck 1, .deliverAck 2]

theorem go_back_n_long_message_sample :
    ∃ r, (goBackN goBackNLongConfig).run (goBackN goBackNLongConfig).init goBackNLongRun = some r ∧
      r.sender.qp.tx.sndNxt = 2 ^ 32 + 500 ∧ r.acks.map (·.seq) = [2 ^ 31, 0, 500] ∧
      r.sender.qp.tx.sndUna < 2 ^ 32 ∧ r.sender.qp.completions = 0 := by
  have hRun : ((goBackN goBackNLongConfig).run (goBackN goBackNLongConfig).init
      goBackNLongRun).map (fun r => decide (r.sender.qp.tx.sndNxt = 2 ^ 32 + 500 ∧
        r.acks.map (·.seq) = [2 ^ 31, 0, 500])) = some true := by
    decide +kernel
  obtain ⟨r, hr, hFacts⟩ := Option.map_eq_some_iff.mp hRun
  obtain ⟨hSent, hAcks⟩ := of_decide_eq_true hFacts
  have hReach : (goBackN goBackNLongConfig).Reachable r := ⟨goBackNLongRun, hr⟩
  exact ⟨r, hr, hSent, hAcks, go_back_n_long_message (by decide) hReach⟩

end Dpdq.Ns3
