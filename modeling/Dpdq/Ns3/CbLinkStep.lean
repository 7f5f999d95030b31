import Dpdq.Ns3.CbLastChunk
import Dpdq.Ns3.CbLink
import Dpdq.Ns3.CbSenderStep

/-!
# What a step of the link can do

`CbLink.Moves` says, for one step, what the receiver does, where the packets in flight come from,
what becomes of the QPs of the sender, and which of them complete. The invariants of the link are
derived from it (`moves_step`).
-/

namespace Dpdq.Ns3

open Dpdq.Lib

variable {hosts : CbHosts}

/-- `r` is a later state of the QP `q`. -/
structure QueuePair.Continues (cfg : CbConfig) (q r : QueuePair) : Prop where
  sip : r.sip = q.sip
  dip : r.dip = q.dip
  size : r.size = q.size
  aligned : q.Aligned cfg → r.Aligned cfg
  finished : q.isFinished = true → r.isFinished = true

theorem QueuePair.Continues.refl {cfg : CbConfig} (q : QueuePair) : q.Continues cfg q :=
  ⟨rfl, rfl, rfl, id, id⟩

/-- The packets of a step of the receiver answer known messages, and announce nothing. -/
theorem CbReceiver.mem_emitted {cfg : CbConfig} {s : CbReceiver} {e : CbReceiver.Event}
    {g : CbPacket} (hg : g ∈ s.emitted cfg e) :
    g.tag.creditReqBytes = 0 ∧ s.rxQpMap g.txKey ≠ none := by
  unfold emitted at hg
  split at hg
  · exact absurd hg List.not_mem_nil
  · rename_i order
    have hSome := Option.mem_toList.mp hg
    unfold creditGrantTick at hSome
    simp only at hSome
    rcases tryIssueCreditGrant_spec cfg { s with grantTickRunning := false } order with
      ⟨cursor, hEq⟩ | ⟨c, hc, data, wire, st, q, cursor, -, -, hq, hEq⟩
    · rw [hEq] at hSome
      cases hSome
    · rw [hEq] at hSome
      obtain rfl := Option.some.inj hSome
      refine ⟨rfl, ?_⟩
      change s.rxQpMap c.key ≠ none
      rw [show s.rxQpMap c.key = some q from hq]
      exact nofun
  · rename_i k
    split at hg
    · exact absurd hg List.not_mem_nil
    rename_i q hq
    split at hg
    · refine ⟨?_, ?_⟩
      · unfold handleResendTimeout at hg
        simp only at hg
        split at hg
        · exact absurd hg List.not_mem_nil
        · split at hg
          · exact absurd hg List.not_mem_nil
          · obtain ⟨run, -, rfl⟩ := List.mem_map.mp hg
            rfl
      · rw [handleResendTimeout_packets s k q g hg, hq]
        exact nofun
    · exact absurd hg List.not_mem_nil

/-- The receiver knows a message as complete when it tells the sender. -/
theorem CbReceiver.notified_of_completion {cfg : CbConfig} {s : CbReceiver} {p : CbPacket}
    {c : Completion} (h : (s.receive cfg p).2 = some c) :
    IsData p ∧ (s.receive cfg p).1.Notified p.rxKey ∧
      c.owner = p.ch.sip ∧ c.sport = p.ch.sport ∧ c.pg = p.ch.pg := by
  obtain ⟨hData, hDone, hKey⟩ := receive_completion h
  refine ⟨hData, ⟨_, rxQpMap_receive_of_data hData, ?_⟩, hKey⟩
  rw [if_pos hDone]
  rfl

namespace CbLink

/-- What the receiver sees of an event. -/
def rxEvent : LinkEvent → Option CbReceiver.Event
  | .deliver p ecnBits => some (.arrive (p.withEcn ecnBits))
  | .grantTick order => some (.grantTick order)
  | .resendTimeout k => some (.resendTimeout k)
  | .fromOther p => some (.arrive p)
  | _ => none

/-- `p` was in flight, is made by a QP for the receiver, or is a grant that bounces. -/
inductive Supplies (hosts : CbHosts) (l : CbLink) (p : CbPacket) : Prop
  | inFlight : p ∈ l.toRx → Supplies hosts l p
  | made (k : TxKey) (q : QueuePair) : l.tx.qpMap k = some q → q.Makes hosts.toCbConfig k p →
      p.ch.dip = hosts.rxAddr → Supplies hosts l p
  | bounced (g : CbPacket) : g ∈ l.toTx → p = g.bounced → Supplies hosts l p

/-- One QP is new, or has gone on. -/
inductive QpMoves (hosts : CbHosts) (l t : CbLink) : Prop
  | kept : t.tx.qpMap = l.tx.qpMap → QpMoves hosts l t
  | continued (k : TxKey) (q r : QueuePair) : l.tx.qpMap k = some q →
      q.Continues hosts.toCbConfig r → t.tx.qpMap = Function.update l.tx.qpMap k (some r) →
      QpMoves hosts l t
  | added (k : TxKey) (r : QueuePair) : l.tx.qpMap k = none → r.sip = hosts.txAddr →
      r.Aligned hosts.toCbConfig → t.tx.qpMap = Function.update l.tx.qpMap k (some r) →
      QpMoves hosts l t

/-- `QpComplete` is called for a QP that was not finished, and that the receiver has whole if it
is a QP for this receiver. -/
inductive Completes (hosts : CbHosts) (l t : CbLink) : Prop
  | kept : t.completed = l.completed → Completes hosts l t
  | called (k : TxKey) (q r : QueuePair) : l.tx.qpMap k = some q → q.isFinished = false →
      t.tx.qpMap k = some r → r.isFinished = true → t.completed = k :: l.completed →
      (q.dip = hosts.rxAddr → t.rx.Notified (rxKey hosts k)) → Completes hosts l t

structure Moves (hosts : CbHosts) (l : CbLink) (e : LinkEvent) (t : CbLink) : Prop where
  rx : (rxEvent e).elim (t.rx = l.rx) fun e' => l.rx.step hosts.toCbConfig e' = some t.rx
  toRx : ∀ p ∈ t.toRx, l.Supplies hosts p
  toTx : ∀ p ∈ t.toTx, p ∈ l.toTx ∨ p.tag.creditReqBytes = 0 ∧ l.rx.rxQpMap p.txKey ≠ none
  arrived : ∀ p ∈ l.arrived, p ∈ t.arrived
  arrives : ∀ p, rxEvent e = some (.arrive p) → p.ch.sip = hosts.txAddr →
    p ∈ t.arrived ∧ ∃ p' ∈ l.toRx, ∃ ecnBits, p = p'.withEcn ecnBits
  qps : QpMoves hosts l t
  completed : Completes hosts l t

/-! ## Parts of a step -/

theorem mem_forRx {ps : List CbPacket} {p : CbPacket} :
    p ∈ forRx hosts ps ↔ p ∈ ps ∧ p.ch.dip = hosts.rxAddr := by
  unfold forRx
  simp

theorem mem_forTx {ps : List CbPacket} {p : CbPacket} (h : p ∈ forTx hosts ps) : p ∈ ps := by
  unfold forTx at h
  rw [Multiset.mem_coe] at h
  exact List.mem_of_mem_filter h

theorem ne_arrive_of_none {e : LinkEvent} {p : CbPacket} (h : rxEvent e = none) :
    rxEvent e ≠ some (.arrive p) := by
  rw [h]
  nofun

/-- The network takes packets away or moves them; the hosts do nothing. -/
theorem moves_network {l t : CbLink} {e : LinkEvent} (hEvent : rxEvent e = none)
    (hTx : t.tx = l.tx) (hRx : t.rx = l.rx) (hArrived : t.arrived = l.arrived)
    (hCompleted : t.completed = l.completed) (hToRx : ∀ p ∈ t.toRx, l.Supplies hosts p)
    (hToTx : ∀ p ∈ t.toTx, p ∈ l.toTx) : Moves hosts l e t where
  rx := by
    rw [hEvent]
    exact hRx
  toRx := hToRx
  toTx := fun p hp => Or.inl (hToTx p hp)
  arrived := fun p hp => hArrived ▸ hp
  arrives := fun p hp => by
    rw [hEvent] at hp
    cases hp
  qps := .kept (by rw [hTx])
  completed := .kept hCompleted

/-- The sender completes a QP, or leaves all as it is. -/
theorem complete_spec (cfg : CbConfig) (l : CbLink) (k : TxKey) (flowId : Int) :
    (l.complete k flowId).tx.qpMap = l.tx.qpMap ∧ (l.complete k flowId).completed = l.completed ∨
      ∃ q r, l.tx.qpMap k = some q ∧ q.Continues cfg r ∧ r.isFinished = true ∧
        (l.complete k flowId).tx.qpMap = Function.update l.tx.qpMap k (some r) ∧
        (l.complete k flowId).completed =
          if q.isFinished then l.completed else k :: l.completed := by
  unfold complete
  rcases l.tx.completeSenderQp_spec k flowId with hEq | ⟨q, hq, hMap, hFirst⟩
  · left
    rw [hEq]
    exact ⟨rfl, rfl⟩
  · right
    have hFinished : ({ q with
        sndUna := q.size
        sndNxt := max q.sndNxt q.size } : QueuePair).isFinished = true :=
      decide_eq_true (Nat.le_refl q.size)
    refine ⟨q, { q with sndUna := q.size, sndNxt := max q.sndNxt q.size }, hq,
      ⟨rfl, rfl, rfl, fun _ => Or.inr (Nat.le_max_right _ _), fun _ => hFinished⟩, hFinished, hMap, ?_⟩
    simp only [hFirst]
    cases q.isFinished with
    | true => rfl
    | false => rfl

theorem qpMoves_complete (hosts : CbHosts) (l : CbLink) (k : TxKey) (flowId : Int) :
    QpMoves hosts l (l.complete k flowId) := by
  rcases complete_spec hosts.toCbConfig l k flowId with
    ⟨hMap, -⟩ | ⟨q, r, hq, hContinues, -, hMap, -⟩
  · exact .kept hMap
  · exact .continued k q r hq hContinues hMap

theorem completes_complete (hosts : CbHosts) {l : CbLink} {k : TxKey} (flowId : Int)
    (hWhole : ∀ q, l.tx.qpMap k = some q → q.dip = hosts.rxAddr →
      l.rx.Notified (rxKey hosts k)) : Completes hosts l (l.complete k flowId) := by
  rcases complete_spec hosts.toCbConfig l k flowId with
    ⟨-, hSame⟩ | ⟨q, r, hq, -, hDone, hMap, hCalled⟩
  · exact .kept hSame
  · cases hFinished : q.isFinished with
    | true => exact .kept (by rw [hCalled, hFinished]; rfl)
    | false =>
      refine .called k q r hq hFinished ?_ hDone (by rw [hCalled, hFinished]; rfl) (hWhole q hq)
      rw [hMap, Function.update_self]

/-- The receiver has taken a packet, and may have completed the message of it. -/
theorem afterReceive_spec (hosts : CbHosts) (l : CbLink) (p : CbPacket) :
    (afterReceive hosts l (l.rx.receive hosts.toCbConfig p)).rx =
        (l.rx.receive hosts.toCbConfig p).1 ∧
      (afterReceive hosts l (l.rx.receive hosts.toCbConfig p)).toRx = l.toRx ∧
      (afterReceive hosts l (l.rx.receive hosts.toCbConfig p)).toTx = l.toTx ∧
      (afterReceive hosts l (l.rx.receive hosts.toCbConfig p)).arrived = l.arrived ∧
      QpMoves hosts l (afterReceive hosts l (l.rx.receive hosts.toCbConfig p)) ∧
      Completes hosts l (afterReceive hosts l (l.rx.receive hosts.toCbConfig p)) := by
  unfold afterReceive
  simp only
  cases hc : (l.rx.receive hosts.toCbConfig p).2 with
  | none => exact ⟨rfl, rfl, rfl, rfl, .kept rfl, .kept rfl⟩
  | some c =>
    simp only
    split
    · rename_i hOwner
      obtain ⟨-, hNotified, hSip, hSport, hPg⟩ := CbReceiver.notified_of_completion hc
      have hKey : rxKey hosts ⟨c.sport, c.pg⟩ = p.rxKey := by
        unfold rxKey CbPacket.rxKey
        rw [← hOwner, hSip, hSport, hPg]
      refine ⟨rfl, rfl, rfl, rfl, ?_, ?_⟩
      · rcases qpMoves_complete hosts { l with rx := (l.rx.receive hosts.toCbConfig p).1 }
          ⟨c.sport, c.pg⟩ c.flowId with
          hKept | ⟨k, q, r, hq, hContinues, hMap⟩ | ⟨k, r, hNone, hSip', hAligned, hMap⟩
        · exact .kept hKept
        · exact .continued k q r hq hContinues hMap
        · exact .added k r hNone hSip' hAligned hMap
      · have hWhole := completes_complete hosts (k := ⟨c.sport, c.pg⟩) c.flowId
          (l := { l with rx := (l.rx.receive hosts.toCbConfig p).1 })
          fun q _ _ => hKey ▸ hNotified
        rcases hWhole with hKept | ⟨k, q, r, hq, hOpen, hr, hDone, hCalled, hHas⟩
        · exact .kept hKept
        · exact .called k q r hq hOpen hr hDone hCalled hHas
    · exact ⟨rfl, rfl, rfl, rfl, .kept rfl, .kept rfl⟩

/-- A packet at the sender may make it send chunks again. -/
theorem backAtTx_spec (hosts : CbHosts) (l : CbLink) (g : CbPacket) :
    (backAtTx hosts l g).rx = l.rx ∧ (backAtTx hosts l g).tx.qpMap = l.tx.qpMap ∧
      (backAtTx hosts l g).toTx = l.toTx ∧ (backAtTx hosts l g).arrived = l.arrived ∧
      (backAtTx hosts l g).completed = l.completed ∧
      ∀ p ∈ (backAtTx hosts l g).toRx, l.Supplies hosts p := by
  unfold backAtTx
  split
  · exact ⟨rfl, l.tx.receiveGrant_qpMap g, rfl, rfl, rfl, fun p hp => .inFlight hp⟩
  · split
    · refine ⟨rfl, rfl, rfl, rfl, rfl, ?_⟩
      intro p hp
      rcases Multiset.mem_add.mp hp with hNew | hOld
      · obtain ⟨hMade, hDip⟩ := mem_forRx.mp hNew
        obtain ⟨q, hq, hMakes⟩ := CbSender.mem_receiveResend hMade
        exact .made _ q hq hMakes hDip
      · exact .inFlight hOld
    · exact ⟨rfl, rfl, rfl, rfl, rfl, fun p hp => .inFlight hp⟩
  · exact ⟨rfl, rfl, rfl, rfl, rfl, fun p hp => .inFlight hp⟩

/-! ## Steps -/

theorem moves_receive {l l' : CbLink} {e : LinkEvent} {p : CbPacket}
    (hEvent : rxEvent e = some (.arrive p)) (hTx : l'.tx = l.tx) (hRx : l'.rx = l.rx)
    (hToRx : ∀ p ∈ l'.toRx, p ∈ l.toRx) (hToTx : l'.toTx = l.toTx)
    (hCompleted : l'.completed = l.completed) (hArrived : ∀ p ∈ l.arrived, p ∈ l'.arrived)
    (hArrives : p.ch.sip = hosts.txAddr →
      p ∈ l'.arrived ∧ ∃ p' ∈ l.toRx, ∃ ecnBits, p = p'.withEcn ecnBits) :
    Moves hosts l e (afterReceive hosts l' (l.rx.receive hosts.toCbConfig p)) := by
  rw [← hRx]
  obtain ⟨hRx', hToRx', hToTx', hArrived', hQps, hDone⟩ := afterReceive_spec hosts l' p
  refine ⟨?_, ?_, ?_, ?_, ?_, ?_, ?_⟩
  · rw [hEvent, hRx', ← hRx]
    rfl
  · intro p' hp'
    rw [hToRx'] at hp'
    exact .inFlight (hToRx p' hp')
  · intro p' hp'
    rw [hToTx', hToTx] at hp'
    exact Or.inl hp'
  · intro p' hp'
    rw [hArrived']
    exact hArrived p' hp'
  · intro p' hp' hSip
    rw [hEvent] at hp'
    obtain rfl := CbReceiver.Event.arrive.inj (Option.some.inj hp')
    rw [hArrived']
    exact hArrives hSip
  · rcases hQps with hKept | ⟨k, q, r, hq, hContinues, hMap⟩ | ⟨k, r, hNone, hSip, hAligned, hMap⟩
    · exact .kept (hKept.trans (by rw [hTx]))
    · exact .continued k q r (hTx ▸ hq) hContinues (hTx ▸ hMap)
    · exact .added k r (hTx ▸ hNone) hSip hAligned (hTx ▸ hMap)
  · rcases hDone with hKept | ⟨k, q, r, hq, hOpen, hr, hFinished, hCalled, hHas⟩
    · exact .kept (hKept.trans hCompleted)
    · exact .called k q r (hTx ▸ hq) hOpen hr hFinished (hCompleted ▸ hCalled) hHas

theorem moves_timer {l t : CbLink} {e : LinkEvent} {e' : CbReceiver.Event}
    (hEvent : rxEvent e = some e') (hTimer : ∀ p, e' ≠ .arrive p)
    (hStep : l.timer hosts e' = some t) : Moves hosts l e t := by
  unfold timer at hStep
  simp only [Option.bind_eq_bind, Option.pure_def, Option.bind_eq_some_iff, Option.some.injEq] at hStep
  obtain ⟨rx, hRx, rfl⟩ := hStep
  refine ⟨?_, fun p hp => .inFlight hp, ?_, fun p hp => hp, ?_, .kept rfl, .kept rfl⟩
  · rw [hEvent]
    exact hRx
  · intro p hp
    rcases Multiset.mem_add.mp hp with hNew | hOld
    · exact Or.inr (CbReceiver.mem_emitted (mem_forTx hNew))
    · exact Or.inl hOld
  · intro p hp
    rw [hEvent] at hp
    exact absurd (Option.some.inj hp) (hTimer p)

theorem moves_backAtTx {l l' : CbLink} {e : LinkEvent} (g : CbPacket) (hEvent : rxEvent e = none)
    (hTx : l'.tx = l.tx) (hRx : l'.rx = l.rx) (hToRx : l'.toRx = l.toRx)
    (hToTx : ∀ p ∈ l'.toTx, p ∈ l.toTx) (hArrived : l'.arrived = l.arrived)
    (hCompleted : l'.completed = l.completed) : Moves hosts l e (backAtTx hosts l' g) := by
  obtain ⟨hRx', hMap, hToTx', hArrived', hCompleted', hToRx'⟩ := backAtTx_spec hosts l' g
  refine ⟨?_, ?_, ?_, ?_, ?_, .kept (hMap.trans (by rw [hTx])), .kept (hCompleted'.trans hCompleted)⟩
  · rw [hEvent]
    exact hRx'.trans hRx
  · intro p hp
    rcases hToRx' p hp with hOld | ⟨k, q, hq, hMakes, hDip⟩ | ⟨g', hg', hEq⟩
    · exact .inFlight (hToRx ▸ hOld)
    · exact .made k q (hTx ▸ hq) hMakes hDip
    · exact .bounced g' (hToTx g' hg') hEq
  · intro p hp
    rw [hToTx'] at hp
    exact Or.inl (hToTx p hp)
  · intro p hp
    rw [hArrived', hArrived]
    exact hp
  · intro p hp
    rw [hEvent] at hp
    cases hp

theorem moves_addQueuePair {l t : CbLink} {k : TxKey} {dip dport size : Nat} {flowId : Int}
    (hStep : step hosts l (.addQueuePair k dip dport size flowId) = some t) :
    Moves hosts l (.addQueuePair k dip dport size flowId) t := by
  obtain ⟨hNew, rfl⟩ := Machine.of_guarded hStep
  refine ⟨rfl, fun p hp => .inFlight hp, fun p hp => Or.inl hp, fun p hp => hp,
    fun p hp => absurd hp (ne_arrive_of_none rfl), ?_, .kept rfl⟩
  exact .added k _ hNew rfl (Or.inl (Nat.zero_mod _)) rfl

theorem moves_transmit {l t : CbLink} {k : TxKey} {priorityFlow : Bool}
    (hStep : step hosts l (.transmit k priorityFlow) = some t) :
    Moves hosts l (.transmit k priorityFlow) t := by
  unfold step at hStep
  simp only [Option.bind_eq_bind, Option.pure_def, Option.bind_eq_some_iff, Option.some.injEq] at hStep
  obtain ⟨q, hq, rfl⟩ := hStep
  have hSelected : q.SameMessage { q with priorityFlowPending := priorityFlow } :=
    ⟨rfl, rfl, rfl, rfl⟩
  obtain ⟨r, hMap, hSame, hMade, hNxt⟩ := CbSender.getNxtPacket_spec hosts.toCbSenderConfig l.tx k
    { q with priorityFlowPending := priorityFlow }
  refine ⟨rfl, ?_, fun p hp => Or.inl hp, fun p hp => hp,
    fun p hp => absurd hp (ne_arrive_of_none rfl), ?_, .kept rfl⟩
  · intro p hp
    rcases Multiset.mem_add.mp hp with hNew | hOld
    · obtain ⟨hp, hDip⟩ := mem_forRx.mp hNew
      exact .made k q hq ((hMade p (Option.mem_toList.mp hp)).congr hSelected rfl) hDip
    · exact .inFlight hOld
  · refine .continued k q r hq ⟨hSame.sip, hSame.dip, hSame.size, ?_, ?_⟩ hMap
    · exact fun hAligned => CbSender.aligned_next hAligned hSame.size hNxt
    · intro hFinished
      rw [(hSelected.trans hSame).isFinished]
      exact hFinished

theorem moves_step {l t : CbLink} {e : LinkEvent} (hStep : step hosts l e = some t) :
    Moves hosts l e t := by
  cases e with
  | addQueuePair k dip dport size flowId => exact moves_addQueuePair hStep
  | transmit k priorityFlow => exact moves_transmit hStep
  | deliver p ecnBits =>
    obtain ⟨hIn, rfl⟩ := Machine.of_guarded hStep
    exact moves_receive rfl rfl rfl (fun p hp => Multiset.mem_of_mem_erase hp) rfl rfl
      (fun p hp => List.mem_cons_of_mem _ hp)
      fun _ => ⟨List.mem_cons_self, p, hIn, ecnBits, rfl⟩
  | deliverBack g =>
    obtain ⟨-, rfl⟩ := Machine.of_guarded hStep
    exact moves_backAtTx g rfl rfl rfl rfl (fun p hp => Multiset.mem_of_mem_erase hp) rfl rfl
  | bounce g =>
    obtain ⟨hIn, rfl⟩ := Machine.of_guarded hStep
    refine moves_network rfl rfl rfl rfl rfl ?_ fun p hp => Multiset.mem_of_mem_erase hp
    intro p hp
    rcases Multiset.mem_cons.mp hp with hNew | hOld
    · exact .bounced g hIn.1 hNew
    · exact .inFlight hOld
  | drop p =>
    obtain ⟨-, rfl⟩ := Machine.of_guarded hStep
    exact moves_network rfl rfl rfl rfl rfl
      (fun p hp => .inFlight (Multiset.mem_of_mem_erase hp)) fun p hp => hp
  | dropBack p =>
    obtain ⟨-, rfl⟩ := Machine.of_guarded hStep
    exact moves_network rfl rfl rfl rfl rfl (fun p hp => .inFlight hp)
      fun p hp => Multiset.mem_of_mem_erase hp
  | duplicate p =>
    obtain ⟨hIn, rfl⟩ := Machine.of_guarded hStep
    refine moves_network rfl rfl rfl rfl rfl ?_ fun p hp => hp
    intro p' hp'
    rcases Multiset.mem_cons.mp hp' with hNew | hOld
    · exact .inFlight (hNew ▸ hIn)
    · exact .inFlight hOld
  | duplicateBack p =>
    obtain ⟨hIn, rfl⟩ := Machine.of_guarded hStep
    refine moves_network rfl rfl rfl rfl rfl (fun p hp => .inFlight hp) ?_
    intro p' hp'
    rcases Multiset.mem_cons.mp hp' with hNew | hOld
    · exact hNew ▸ hIn
    · exact hOld
  | grantTick order =>
    refine moves_timer rfl (fun p hEq => ?_) hStep
    cases hEq
  | resendTimeout k =>
    refine moves_timer rfl (fun p hEq => ?_) hStep
    cases hEq
  | fromOther p =>
    obtain ⟨hSip, rfl⟩ := Machine.of_guarded hStep
    exact moves_receive rfl rfl rfl (fun p hp => hp) rfl rfl (fun p hp => hp)
      fun hOwn => absurd hOwn hSip
  | fromOtherBack g =>
    obtain ⟨-, rfl⟩ := Machine.of_guarded hStep
    exact moves_backAtTx g rfl rfl rfl rfl (fun p hp => hp) rfl rfl
  | completedByOther k flowId =>
    obtain ⟨hOther, rfl⟩ := Machine.of_guarded hStep
    refine ⟨rfl, fun p hp => .inFlight hp, fun p hp => Or.inl hp, fun p hp => hp,
      fun p hp => absurd hp (ne_arrive_of_none rfl),
      qpMoves_complete hosts l k flowId, completes_complete hosts flowId ?_⟩
    intro q hq hDip
    rw [hq] at hOther
    exact absurd hDip (of_decide_eq_true hOther)

end CbLink

end Dpdq.Ns3
