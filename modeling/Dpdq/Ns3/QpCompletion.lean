import Dpdq.Ns3.AckSender

/-!
# How often a QP completes

`ReceiveAck` calls `QpComplete` for every ACK or NACK that leaves the QP finished, and the QP stays
where `GetQp` finds it. So a duplicate of the last acknowledgement completes the QP again.
`CompleteCreditBouncerSenderQp` asks first whether the QP was finished before.

`completes_at_most_once_iff`: the runs in which no QP completes twice.
-/

namespace Dpdq.Ns3

open Dpdq.Lib

variable {cfg : AckConfig}

/-! ## The acknowledged bytes -/

namespace IrnQueuePair

theorem skipFrontBlock_sndUna (qp : IrnQueuePair) : qp.skipFrontBlock.sndUna = qp.sndUna := by
  unfold skipFrontBlock
  split
  · rfl
  · dsimp only
    split
    · rfl
    · rfl

theorem skipAcked_sndUna (qp : IrnQueuePair) : qp.skipAcked.sndUna = qp.sndUna := by
  unfold skipAcked
  split
  · rfl
  · rfl

theorem leaveRecovery_sndUna (qp : IrnQueuePair) : qp.leaveRecovery.sndUna = qp.sndUna := by
  unfold leaveRecovery
  split
  · rfl
  · rfl

theorem updateRecovery_sndUna (qp : IrnQueuePair) (a : IrnAck) :
    (qp.updateRecovery a).sndUna = qp.sndUna := by
  unfold updateRecovery
  split_ifs
  · rfl
  · rfl
  · rfl
  · rfl

theorem addBlock_sndUna (qp : IrnQueuePair) (a : IrnAck) : (qp.addBlock a).sndUna = qp.sndUna := by
  unfold addBlock
  split
  · rfl
  · rfl

/-- Nothing takes an acknowledgement back. -/
theorem le_acknowledge_sndUna (qp : IrnQueuePair) (ack : Nat) :
    qp.sndUna ≤ (qp.acknowledge ack).sndUna := by
  unfold acknowledge
  split
  · rename_i hMore
    exact Nat.le_of_lt hMore
  · exact Nat.le_refl _

theorem le_takeFrontBlock_sndUna (qp : IrnQueuePair) : qp.sndUna ≤ qp.takeFrontBlock.sndUna := by
  unfold takeFrontBlock
  split
  · exact Nat.le_refl _
  · split
    · exact Nat.le_add_right _ _
    · exact Nat.le_refl _

end IrnQueuePair

/-! ## One QP -/

namespace RdmaQueuePair

/-- All bytes of the QP are acknowledged. An empty QP counts only after its first ACK or NACK. -/
def Settled (q : RdmaQueuePair) : Prop := q.size ≤ q.tx.sndUna ∧ (0 < q.size ∨ q.heard ≠ [])

instance (q : RdmaQueuePair) : Decidable q.Settled := inferInstanceAs (Decidable (_ ∧ _))

/-- A QP has completed exactly if it is settled. -/
structure Counted (q : RdmaQueuePair) : Prop where
  settled : q.Settled → 1 ≤ q.completions
  unsettled : ¬ q.Settled → q.completions = 0

/-- `r` has acknowledged and completed what `q` has. -/
structure SameAcked (q r : RdmaQueuePair) : Prop where
  size : r.size = q.size
  sndUna : r.tx.sndUna = q.tx.sndUna
  heard : r.heard = q.heard
  completions : r.completions = q.completions

theorem SameAcked.refl (q : RdmaQueuePair) : q.SameAcked q := ⟨rfl, rfl, rfl, rfl⟩

theorem SameAcked.settled_iff {q r : RdmaQueuePair} (h : q.SameAcked r) : r.Settled ↔ q.Settled := by
  unfold Settled
  rw [h.size, h.sndUna, h.heard]

theorem Counted.congr {q r : RdmaQueuePair} (hq : q.Counted) (h : q.SameAcked r) : r.Counted := by
  constructor
  · rw [h.settled_iff, h.completions]
    exact hq.settled
  · rw [h.settled_iff, h.completions]
    exact hq.unsettled

theorem counted_new (size : Nat) (flowId : Int) :
    ({ size := size, flowId := flowId } : RdmaQueuePair).Counted where
  settled := by
    rintro ⟨hAll, hSome | hHeard⟩
    · exact absurd hAll (Nat.not_le_of_lt hSome)
    · exact absurd rfl hHeard
  unsettled _ := rfl

/-- The front block that `GetBytesLeft` and `IsFinished` skip. -/
theorem sameAcked_skip (cfg : AckConfig) (q : RdmaQueuePair) :
    q.SameAcked (if cfg.irn then { q with tx := q.tx.skipFrontBlock } else q) := by
  split
  · exact ⟨rfl, q.tx.skipFrontBlock_sndUna, rfl, rfl⟩
  · exact SameAcked.refl q

theorem sameAcked_isFinished (cfg : AckConfig) (q : RdmaQueuePair) :
    q.SameAcked (q.isFinished cfg).2 := sameAcked_skip cfg q

theorem isFinished_iff (cfg : AckConfig) (q : RdmaQueuePair) :
    (q.isFinished cfg).1 = true ↔ q.size ≤ q.tx.sndUna := by
  have hSame := sameAcked_skip cfg q
  unfold isFinished
  rw [decide_eq_true_iff, hSame.sndUna, hSame.size]

/-- What a device or a timer does leaves the acknowledged bytes alone. -/
theorem sameAcked_handle (cfg : AckConfig) (q : RdmaQueuePair) (e : QpEvent) :
    q.SameAcked (q.handle cfg e) := by
  have hSkip := sameAcked_skip cfg q
  have hFinished := sameAcked_isFinished cfg q
  cases e with
  | send => exact ⟨hSkip.size, hSkip.sndUna, hSkip.heard, hSkip.completions⟩
  | poll => exact hSkip
  | recover => exact ⟨rfl, rfl, rfl, rfl⟩
  | timeout =>
    unfold handle handleTimeout
    dsimp only
    split_ifs
    · exact SameAcked.refl q
    · exact hFinished
    · exact ⟨hFinished.size, hFinished.sndUna, hFinished.heard, hFinished.completions⟩
    · exact ⟨hFinished.size, hFinished.sndUna, hFinished.heard, hFinished.completions⟩

/-- `r` is `q` after an acknowledgement, which counts as a completion if it leaves `q` finished. -/
structure Acknowledged (q r : RdmaQueuePair) : Prop where
  size : r.size = q.size
  sndUna : q.tx.sndUna ≤ r.tx.sndUna
  heard : r.heard ≠ []
  completions : r.completions = q.completions + if q.size ≤ r.tx.sndUna then 1 else 0

theorem Acknowledged.trans_same {q r t : RdmaQueuePair} (h : q.Acknowledged r)
    (hSame : r.SameAcked t) : q.Acknowledged t := by
  constructor
  · exact hSame.size.trans h.size
  · rw [hSame.sndUna]
    exact h.sndUna
  · rw [hSame.heard]
    exact h.heard
  · rw [hSame.completions, hSame.sndUna]
    exact h.completions

theorem le_processAck_sndUna (cfg : AckConfig) (q : RdmaQueuePair) (a : AckPacket) :
    q.tx.sndUna ≤ (q.processAck cfg a).tx.sndUna := by
  let acked := q.tx.acknowledge (if cfg.backto0 then a.seq / cfg.chunk * cfg.chunk else a.seq)
  have hAcked : q.tx.sndUna ≤ acked.sndUna := q.tx.le_acknowledge_sndUna _
  have hFront : acked.sndUna ≤ (acked.addBlock a.toIrnAck).takeFrontBlock.sndUna := by
    have hLe := (acked.addBlock a.toIrnAck).le_takeFrontBlock_sndUna
    rwa [IrnQueuePair.addBlock_sndUna] at hLe
  show q.tx.sndUna ≤ (if cfg.irn then
    ((acked.addBlock a.toIrnAck).takeFrontBlock.discardAcked).skipAcked.leaveRecovery
    else acked.skipAcked).sndUna
  split
  · rw [IrnQueuePair.leaveRecovery_sndUna, IrnQueuePair.skipAcked_sndUna]
    exact hAcked.trans hFront
  · rw [IrnQueuePair.skipAcked_sndUna]
    exact hAcked

/-- The test for the completion. -/
theorem acknowledged_complete (cfg : AckConfig) (q : RdmaQueuePair) (a : AckPacket) :
    q.Acknowledged (if ((q.processAck cfg a).isFinished cfg).1 then
      ((q.processAck cfg a).isFinished cfg).2.qpComplete
      else ((q.processAck cfg a).isFinished cfg).2) := by
  have hSame := sameAcked_isFinished cfg (q.processAck cfg a)
  have hTest : ((q.processAck cfg a).isFinished cfg).1 = true ↔
      q.size ≤ (q.processAck cfg a).tx.sndUna := isFinished_iff cfg (q.processAck cfg a)
  have hUna := le_processAck_sndUna cfg q a
  have hHeard : ((q.processAck cfg a).isFinished cfg).2.heard ≠ [] := by
    rw [hSame.heard]
    exact List.append_ne_nil_of_right_ne_nil _ (List.cons_ne_nil _ _)
  rw [← hSame.sndUna] at hTest hUna
  by_cases hDone : ((q.processAck cfg a).isFinished cfg).1 = true
  · rw [if_pos hDone]
    refine ⟨hSame.size, hUna, hHeard, ?_⟩
    refine (congrArg (· + 1) hSame.completions).trans ?_
    exact congrArg (q.completions + ·) (if_pos (hTest.mp hDone)).symm
  · rw [if_neg hDone]
    refine ⟨hSame.size, hUna, hHeard, hSame.completions.trans ?_⟩
    rw [if_neg fun hAll => hDone (hTest.mpr hAll)]
    rfl

/-- The QP takes no notice of an ACK or NACK, or is acknowledged. -/
theorem receiveAck_cases (cfg : AckConfig) (a : AckPacket) (q : RdmaQueuePair) :
    (cfg.creditbouncer = true ∨ cfg.ackInterval = 0) ∧ q.SameAcked (q.receiveAck cfg a) ∨
      cfg.creditbouncer = false ∧ cfg.ackInterval ≠ 0 ∧ q.Acknowledged (q.receiveAck cfg a) := by
  -- What follows the test for the completion.
  have hEnd (r : RdmaQueuePair) : r.SameAcked (if cfg.irn then
      { (r.isFinished cfg).2 with tx := (r.isFinished cfg).2.tx.updateRecovery a.toIrnAck }
      else if a.nack then (r.isFinished cfg).2.recoverQueue else (r.isFinished cfg).2) := by
    have hSame := sameAcked_isFinished cfg r
    split_ifs
    · exact ⟨hSame.size, (IrnQueuePair.updateRecovery_sndUna _ _).trans hSame.sndUna, hSame.heard,
        hSame.completions⟩
    · exact ⟨hSame.size, hSame.sndUna, hSame.heard, hSame.completions⟩
    · exact hSame
  cases hBouncer : cfg.creditbouncer with
  | true =>
    left
    have hIgnored : q.receiveAck cfg a = q := if_pos hBouncer
    rw [hIgnored]
    exact ⟨Or.inl rfl, SameAcked.refl q⟩
  | false =>
    have hEq : q.receiveAck cfg a = _ := if_neg (by rw [hBouncer]; nofun)
    by_cases hInterval : cfg.ackInterval = 0
    · left
      rw [hEq, if_pos hInterval]
      exact ⟨Or.inr hInterval, hEnd q⟩
    · right
      rw [hEq, if_neg hInterval]
      exact ⟨rfl, hInterval, (acknowledged_complete cfg q a).trans_same (hEnd _)⟩

/-- Acknowledged bytes stay acknowledged. -/
theorem Acknowledged.settled {q r : RdmaQueuePair} (h : q.Acknowledged r) :
    r.Settled ↔ q.size ≤ r.tx.sndUna := by
  unfold Settled
  rw [h.size]
  exact and_iff_left (Or.inr h.heard)

theorem Acknowledged.counted {q r : RdmaQueuePair} (h : q.Acknowledged r) (hq : q.Counted) :
    r.Counted := by
  constructor
  · intro hSettled
    rw [h.completions, if_pos (h.settled.mp hSettled)]
    exact Nat.le_add_left _ _
  · intro hUnsettled
    have hOpen : ¬ q.Settled := by
      intro hOld
      exact hUnsettled (h.settled.mpr (Nat.le_trans hOld.1 h.sndUna))
    rw [h.completions, hq.unsettled hOpen, if_neg (fun hAll => hUnsettled (h.settled.mpr hAll))]

/-- An acknowledgement completes the QP for the first time unless it was settled before. -/
theorem Acknowledged.completions_le_one_iff {q r : RdmaQueuePair} (h : q.Acknowledged r)
    (hq : q.Counted) (hOnce : q.completions ≤ 1) : r.completions ≤ 1 ↔ ¬ q.Settled := by
  rw [h.completions]
  constructor
  · intro hStill hSettled
    have hDone := hq.settled hSettled
    rw [if_pos (Nat.le_trans hSettled.1 h.sndUna)] at hStill
    omega
  · intro hOpen
    rw [hq.unsettled hOpen]
    split
    · exact Nat.le_refl _
    · exact Nat.zero_le _

/-- The completion by the receiver. -/
theorem completeSenderQp_spec (cfg : AckConfig) (expectedFlowId : Int) {q : RdmaQueuePair}
    (hq : q.Counted) (hHeard : cfg.creditbouncer = true → q.heard = []) :
    (q.completeSenderQp cfg expectedFlowId).Counted ∧
      (q.completions ≤ 1 → (q.completeSenderQp cfg expectedFlowId).completions ≤ 1) ∧
      (q.completeSenderQp cfg expectedFlowId).heard = q.heard := by
  have hFinished : q.isFinishedConst = true ↔ q.size ≤ q.tx.sndUna := decide_eq_true_iff
  unfold completeSenderQp
  dsimp only
  split_ifs with hOff hFlow hDone
  · exact ⟨hq, id, rfl⟩
  · exact ⟨hq, id, rfl⟩
  · have hOpen : ¬ q.size ≤ q.tx.sndUna := by
      rw [← hFinished]
      simpa using hDone
    have hNone := hq.unsettled fun hSettled => hOpen hSettled.1
    refine ⟨⟨fun _ => Nat.le_add_left _ _, fun hUnsettled => ?_⟩, fun _ => ?_, rfl⟩
    · exact absurd ⟨Nat.le_refl _, Or.inl (Nat.zero_lt_of_lt (Nat.lt_of_not_le hOpen))⟩ hUnsettled
    · exact Nat.le_of_eq (congrArg (· + 1) hNone)
  · have hAll : q.size ≤ q.tx.sndUna := by
      rw [← hFinished]
      simpa using hDone
    have hNothing := hHeard (by simpa using hOff)
    have hIff : q.Settled ↔ 0 < q.size ∨ q.heard ≠ [] := and_iff_right hAll
    refine ⟨⟨fun hSettled => hq.settled (hIff.mpr hSettled.2), fun hUnsettled => ?_⟩, id, rfl⟩
    exact hq.unsettled fun hSettled => hUnsettled ⟨Nat.le_refl _, hIff.mp hSettled⟩

end RdmaQueuePair

/-! ## All QPs -/

namespace RdmaSender

/-- An ACK or NACK that is taken does not find its QP settled. -/
def MeetsOpenQp (cfg : AckConfig) (s : RdmaSender) : SenderEvent → Prop
  | .receiveAck a => cfg.creditbouncer = false → cfg.ackInterval ≠ 0 →
    ∀ i q, s.qpMap ⟨a.dport, a.pg⟩ = some i → s.qps[i]? = some q → ¬ q.Settled
  | _ => True

/-- Every QP has completed exactly if it is settled. With the credit bouncer, none has been
acknowledged. -/
structure AllCounted (cfg : AckConfig) (s : RdmaSender) : Prop where
  counted : ∀ q ∈ s.qps, q.Counted
  heard : cfg.creditbouncer = true → ∀ q ∈ s.qps, q.heard = []

/-- A QP after a change to one of them. -/
theorem of_mem_onQp {s : RdmaSender} {i : Nat} {f : RdmaQueuePair → RdmaQueuePair}
    {r : RdmaQueuePair} (hr : r ∈ (s.onQp i f).qps) :
    r ∈ s.qps ∨ ∃ q, s.qps[i]? = some q ∧ r = f q := by
  obtain ⟨j, hj⟩ := List.mem_iff_getElem?.mp hr
  unfold onQp at hj
  by_cases hSame : i = j
  · subst hSame
    rw [List.getElem?_modify_eq] at hj
    obtain ⟨q, hq, rfl⟩ := Option.map_eq_some_iff.mp hj
    exact Or.inr ⟨q, hq, rfl⟩
  · rw [List.getElem?_modify_ne f s.qps hSame] at hj
    exact Or.inl (List.mem_of_getElem? hj)

/-- The changed QP is one of them. -/
theorem mem_onQp {s : RdmaSender} {i : Nat} {f : RdmaQueuePair → RdmaQueuePair} {q : RdmaQueuePair}
    (hq : s.qps[i]? = some q) : f q ∈ (s.onQp i f).qps := by
  apply List.mem_of_getElem? (i := i)
  unfold onQp
  rw [List.getElem?_modify_eq, hq]
  rfl

theorem of_mem_onKey {s : RdmaSender} {key : TxKey} {f : RdmaQueuePair → RdmaQueuePair}
    {r : RdmaQueuePair} (hr : r ∈ (s.onKey key f).qps) :
    r ∈ s.qps ∨ ∃ i q, s.qpMap key = some i ∧ s.qps[i]? = some q ∧ r = f q := by
  unfold onKey at hr
  split at hr
  · exact Or.inl hr
  · rename_i i hKey
    rcases of_mem_onQp hr with hOld | ⟨q, hq, hEq⟩
    · exact Or.inl hOld
    · exact Or.inr ⟨i, q, hKey, hq, hEq⟩

/-- What a step can leave as a QP. -/
inductive QpAfter (cfg : AckConfig) (s : RdmaSender) : SenderEvent → RdmaQueuePair → Prop
  | kept (e : SenderEvent) (q : RdmaQueuePair) : q ∈ s.qps → QpAfter cfg s e q
  | added (key : TxKey) (size : Nat) (flowId : Int) :
      QpAfter cfg s (.addQueuePair key size flowId) { size := size, flowId := flowId }
  | handled (i : Nat) (e : QpEvent) (q : RdmaQueuePair) : q ∈ s.qps →
      QpAfter cfg s (.onQp i e) (q.handle cfg e)
  | acked (a : AckPacket) (i : Nat) (q : RdmaQueuePair) : s.qpMap ⟨a.dport, a.pg⟩ = some i →
      s.qps[i]? = some q → QpAfter cfg s (.receiveAck a) (q.receiveAck cfg a)
  | completed (key : TxKey) (expectedFlowId : Int) (q : RdmaQueuePair) : q ∈ s.qps →
      QpAfter cfg s (.completeSenderQp key expectedFlowId) (q.completeSenderQp cfg expectedFlowId)

theorem qpAfter_step {s t : RdmaSender} {e : SenderEvent} (hStep : s.step cfg e = some t)
    {r : RdmaQueuePair} (hr : r ∈ t.qps) : QpAfter cfg s e r := by
  cases e with
  | addQueuePair key size flowId =>
    obtain rfl := Option.some.inj hStep
    rcases List.mem_append.mp hr with hOld | hNew
    · exact .kept _ r hOld
    · obtain rfl := List.mem_singleton.mp hNew
      exact .added key size flowId
  | onQp i e =>
    obtain rfl := Option.some.inj hStep
    rcases of_mem_onQp hr with hOld | ⟨q, hq, rfl⟩
    · exact .kept _ r hOld
    · exact .handled i e q (List.mem_of_getElem? hq)
  | receiveAck a =>
    obtain rfl := Option.some.inj hStep
    rcases of_mem_onKey hr with hOld | ⟨i, q, hKey, hq, rfl⟩
    · exact .kept _ r hOld
    · exact .acked a i q hKey hq
  | completeSenderQp key expectedFlowId =>
    obtain rfl := Option.some.inj hStep
    rcases of_mem_onKey hr with hOld | ⟨i, q, -, hq, rfl⟩
    · exact .kept _ r hOld
    · exact .completed key expectedFlowId q (List.mem_of_getElem? hq)

theorem allCounted_init (cfg : AckConfig) : AllCounted cfg {} := ⟨nofun, nofun⟩

theorem AllCounted.step {s t : RdmaSender} {e : SenderEvent} (h : s.AllCounted cfg)
    (hStep : s.step cfg e = some t) : t.AllCounted cfg := by
  constructor
  · intro r hr
    cases qpAfter_step hStep hr with
    | kept _ _ hOld => exact h.counted r hOld
    | added key size flowId => exact RdmaQueuePair.counted_new size flowId
    | handled i e q hq => exact (h.counted q hq).congr (q.sameAcked_handle cfg e)
    | acked a i q hKey hq =>
      have hCounted := h.counted q (List.mem_of_getElem? hq)
      rcases RdmaQueuePair.receiveAck_cases cfg a q with ⟨-, hSame⟩ | ⟨-, -, hAcked⟩
      · exact hCounted.congr hSame
      · exact hAcked.counted hCounted
    | completed key expectedFlowId q hq =>
      exact (RdmaQueuePair.completeSenderQp_spec cfg expectedFlowId (h.counted q hq)
        fun hOn => h.heard hOn q hq).1
  · intro hOn r hr
    cases qpAfter_step hStep hr with
    | kept _ _ hOld => exact h.heard hOn r hOld
    | added key size flowId => rfl
    | handled i e q hq => exact (q.sameAcked_handle cfg e).heard.trans (h.heard hOn q hq)
    | acked a i q hKey hq =>
      have hHeard := h.heard hOn q (List.mem_of_getElem? hq)
      rcases RdmaQueuePair.receiveAck_cases cfg a q with ⟨-, hSame⟩ | ⟨hOff, -⟩
      · exact hSame.heard.trans hHeard
      · exact absurd (hOn.symm.trans hOff) nofun
    | completed key expectedFlowId q hq =>
      exact (RdmaQueuePair.completeSenderQp_spec cfg expectedFlowId (h.counted q hq)
        fun hOn => h.heard hOn q hq).2.2.trans (h.heard hOn q hq)

/-- No QP has completed twice. -/
def CompletesOnce (s : RdmaSender) : Prop := ∀ q ∈ s.qps, q.completions ≤ 1

theorem CompletesOnce.step_iff {s t : RdmaSender} {e : SenderEvent} (hCounted : s.AllCounted cfg)
    (h : s.CompletesOnce) (hStep : s.step cfg e = some t) :
    t.CompletesOnce ↔ s.MeetsOpenQp cfg e := by
  constructor
  · intro ht
    cases e with
    | receiveAck a =>
      intro hOff hInterval i q hKey hq
      obtain rfl := Option.some.inj hStep
      rcases RdmaQueuePair.receiveAck_cases cfg a q with ⟨hIgnored, -⟩ | ⟨-, -, hAcked⟩
      · rcases hIgnored with hOn | hZero
        · exact absurd (hOn.symm.trans hOff) nofun
        · exact absurd hZero hInterval
      · have hMem := List.mem_of_getElem? hq
        rw [← hAcked.completions_le_one_iff (hCounted.counted q hMem) (h q hMem)]
        apply ht
        unfold onKey
        rw [hKey]
        exact mem_onQp hq
    | _ => trivial
  · intro hMeets r hr
    cases qpAfter_step hStep hr with
    | kept _ _ hOld => exact h r hOld
    | added key size flowId => exact Nat.zero_le 1
    | handled i e q hq =>
      rw [(q.sameAcked_handle cfg e).completions]
      exact h q hq
    | acked a i q hKey hq =>
      have hMem := List.mem_of_getElem? hq
      rcases RdmaQueuePair.receiveAck_cases cfg a q with ⟨-, hSame⟩ | ⟨hOff, hInterval, hAcked⟩
      · rw [hSame.completions]
        exact h q hMem
      · rw [hAcked.completions_le_one_iff (hCounted.counted q hMem) (h q hMem)]
        exact hMeets hOff hInterval i q hKey hq
    | completed key expectedFlowId q hq =>
      exact (RdmaQueuePair.completeSenderQp_spec cfg expectedFlowId (hCounted.counted q hq)
        fun hOn => hCounted.heard hOn q hq).2.1 (h q hq)

theorem run_isSome (cfg : AckConfig) (s : RdmaSender) (es : List SenderEvent) :
    ((rdmaSender cfg).run s es).isSome = true := by
  induction es generalizing s with
  | nil => rfl
  | cons e es ih =>
    cases e with
    | addQueuePair key size flowId => exact ih _
    | onQp i e => exact ih _
    | receiveAck a => exact ih _
    | completeSenderQp key expectedFlowId => exact ih _

end RdmaSender

/-- No QP completes twice in a run, exactly if no ACK or NACK that is taken arrives for a QP whose
bytes have all been acknowledged before. With the credit bouncer none is taken. -/
theorem completes_at_most_once_iff (cfg : AckConfig) (es : List SenderEvent) :
    (rdmaSender cfg).Throughout RdmaSender.CompletesOnce {} es ↔
      (rdmaSender cfg).Guarded (RdmaSender.MeetsOpenQp cfg) {} es := by
  apply Machine.throughout_iff_guarded (C := fun _ _ => True) (J := RdmaSender.AllCounted cfg)
    _ _ (RdmaSender.allCounted_init cfg) nofun (Machine.guarded_true _ _ _)
    (RdmaSender.run_isSome cfg {} es)
  · intro s e t hCounted _ hStep
    exact hCounted.step hStep
  · intro s e t hCounted hOnce _ hStep
    exact hOnce.step_iff hCounted hStep

/-- The last acknowledgement of a QP arrives twice. -/
theorem duplicate_ack_completes_again :
    ¬ (rdmaSender ⟨1000, 4000, false, 1, false, false, true⟩).Throughout RdmaSender.CompletesOnce {}
      [.addQueuePair ⟨100, 3⟩ 1000 0, .onQp 0 .send,
        .receiveAck ⟨⟨1000, 0, 0⟩, false, 100, 3⟩, .receiveAck ⟨⟨1000, 0, 0⟩, false, 100, 3⟩] := by
  intro h
  have hLast := (((h.2 _ rfl).2 _ rfl).2 _ rfl).2 _ rfl
  have hTwice := hLast ⟨1000, 0, ⟨1000, 1000, [], false, 0⟩,
    [⟨⟨1000, 0, 0⟩, false, 100, 3⟩, ⟨⟨1000, 0, 0⟩, false, 100, 3⟩], 2⟩ (by decide)
  exact absurd hTwice (by decide)

end Dpdq.Ns3
