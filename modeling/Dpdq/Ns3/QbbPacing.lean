import Dpdq.Lib.Machine
import Dpdq.Ns3.QbbNetDevice

/-!
# The timer of the paced QPs

One timer serves all QPs of a device. A scan that finds nothing to send sets it to the earliest
`m_nextAvail`, but only if it is expired, and `UpdateNextAvail` moves it forward for the QP whose rate
changes. Nothing moves it for a QP that sends a packet while it is pending.

`device_wakes_in_time`: after every call of a run the transmitter is busy, or nothing can be sent and
the timer covers all QPs that only their pace holds back, as long as the timer is not overtaken by
QPs that have sent, been reassigned or got bytes to send again since it was set.
-/

namespace Dpdq.Ns3

open Dpdq.Lib

/-- A device, and the QPs that have sent a packet, been reassigned or got bytes to send again since a
scan has set the timer. -/
structure PacedNic where
  dev : QbbNetDevice
  called : Bool := false
  moved : List Nat := []

namespace QbbNetDevice

variable (cfg : QbbConfig)

/-! ## What is claimed -/

/-- Only `m_nextAvail` keeps the QP from sending. -/
structure HeldBack (d : QbbNetDevice) (qp : Nat) : Prop where
  unfinished : d.finished qp = false
  unpaused : d.cond1 qp = true
  ready : (d.qps qp).cond2 = true ∨ (d.qps qp).cbReady = true
  late : d.now < (d.qps qp).nextAvail

/-- The QP can be sent now. -/
structure CanSend (d : QbbNetDevice) (qp : Nat) : Prop where
  unfinished : d.finished qp = false
  unpaused : d.cond1 qp = true
  ready : (d.qps qp).cond2 = true ∨ (d.qps qp).cbReady = true
  due : (d.qps qp).nextAvail ≤ d.now

/-- Nothing can be sent, and `m_nextSend` fires in time for every QP that is held back. -/
structure Sleeps (d : QbbNetDevice) : Prop where
  control : d.controlReady = false
  none_sends : ∀ qp ∈ d.qpGrp.qps, ¬d.CanSend qp
  covered : ∀ qp ∈ d.qpGrp.qps, d.HeldBack qp →
    ∃ ts, d.nextSend = some ts ∧ d.now ≤ ts ∧ ts ≤ (d.qps qp).nextAvail

/-! ## Where it holds -/

/-- The QPs that an action adds to those that can overtake the timer. -/
def movedBy (d : QbbNetDevice) (moved : List Nat) : Action → List Nat
  | .reassignedQp qp => qp :: moved
  | .update qp status => if (d.qps qp).bytesLeft = 0 ∧ status.bytesLeft ≠ 0 then qp :: moved else moved
  | _ => moved

/-- A device that is ready to send: the credit scheduler misses no QP, the QP selected yields a
packet, and the bitmap marks only finished QPs. Where there is nothing to send, no QP in `moved` has
overtaken a pending timer, and a QP that is held back has bytes left and is due some time. -/
structure Timely (d : QbbNetDevice) (moved : List Nat) (c : Callbacks) : Prop where
  scheduler : c.cbQindex = none → ∀ qp ∈ d.qpGrp.qps, d.CanSend qp → (d.qps qp).cbReady = false
  packet : c.packet ≠ none
  marks : d.qpGrp.Truthful d.finished
  overtaken : (d.getNextQindex c).1 = none → ∀ ts ∈ d.nextSend, ∀ qp ∈ d.qpGrp.qps, qp ∈ moved →
    d.HeldBack qp → ts ≤ (d.qps qp).nextAvail
  bytesLeft : (d.getNextQindex c).1 = none → ∀ qp ∈ d.qpGrp.qps, d.HeldBack qp →
    (d.qps qp).bytesLeft ≠ 0
  horizon : (d.getNextQindex c).1 = none → ∀ qp ∈ d.qpGrp.qps, d.HeldBack qp →
    (d.qps qp).nextAvail < maximumSimulationTime

/-- The timer lies ahead, in time for every QP with bytes left that is not in `moved`. -/
structure Armed (d : QbbNetDevice) (moved : List Nat) : Prop where
  pending : ∀ ts ∈ d.nextSend, d.now ≤ ts
  covered : ∀ ts ∈ d.nextSend, ∀ qp ∈ d.qpGrp.qps, qp ∉ moved → (d.qps qp).bytesLeft ≠ 0 →
    d.now < (d.qps qp).nextAvail → ts ≤ (d.qps qp).nextAvail

/-! ## The scan of an idle device -/

section Scan

variable {d : QbbNetDevice}

theorem mem_deadlines {t : Int} : t ∈ d.deadlines ↔
    ∃ qp ∈ d.qpGrp.qps, (d.qps qp).bytesLeft ≠ 0 ∧ d.now < (d.qps qp).nextAvail ∧
      (d.qps qp).nextAvail = t := by
  simp only [deadlines, List.mem_map, List.mem_filter, Bool.not_eq_true', Bool.or_eq_false_iff,
    beq_eq_false_iff_ne, decide_eq_false_iff_not, Int.not_le]
  constructor
  · rintro ⟨qp, ⟨hMem, hLeft, hLate⟩, hEq⟩
    exact ⟨qp, hMem, hLeft, hLate, hEq⟩
  · rintro ⟨qp, hMem, hLeft, hLate, hEq⟩
    exact ⟨qp, ⟨hMem, hLeft, hLate⟩, hEq⟩

/-- A fold with `min` finds a least element. -/
theorem foldl_min_spec (l : List Int) (a : Int) :
    (∀ x ∈ l, l.foldl min a ≤ x) ∧ l.foldl min a ≤ a ∧ (l.foldl min a = a ∨ l.foldl min a ∈ l) := by
  induction l generalizing a with
  | nil => exact ⟨fun x hx => absurd hx List.not_mem_nil, le_refl a, Or.inl rfl⟩
  | cons b l ih =>
    obtain ⟨hAll, hFirst, hFound⟩ := ih (min a b)
    refine ⟨?_, hFirst.trans (min_le_left a b), ?_⟩
    · intro x hx
      rcases List.mem_cons.mp hx with rfl | hx
      · exact hFirst.trans (min_le_right a x)
      · exact hAll x hx
    · rcases hFound with hEq | hMem
      · rcases min_choice a b with hLeft | hRight
        · exact Or.inl (hEq.trans hLeft)
        · exact Or.inr (List.mem_cons.mpr (Or.inl (hEq.trans hRight)))
      · exact Or.inr (List.mem_cons_of_mem b hMem)

/-- An idle device without a timer sets it to a time ahead that is in time for all deadlines. -/
theorem waitForNextAvail_cases (d : QbbNetDevice) :
    d.waitForNextAvail = d ∧ (d.nextSend = none → ∀ t ∈ d.deadlines, maximumSimulationTime ≤ t) ∨
      ∃ ts, d.nextSend = none ∧ d.waitForNextAvail = { d with nextSend := some ts } ∧ d.now < ts ∧
        ∀ t ∈ d.deadlines, ts ≤ t := by
  obtain ⟨hAll, hMost, hFound⟩ := foldl_min_spec d.deadlines maximumSimulationTime
  unfold waitForNextAvail
  dsimp only
  split
  · rename_i hSet
    exact Or.inr ⟨_, hSet.2.1, rfl, hSet.2.2.2, hAll⟩
  · rename_i hKept
    refine Or.inl ⟨rfl, fun hNone t ht => ?_⟩
    by_contra hEarly
    have hLess := (hAll t ht).trans_lt (not_le.mp hEarly)
    obtain ⟨qp, -, -, hLate, hEq⟩ := mem_deadlines.mp (hFound.resolve_left hLess.ne)
    exact hKept ⟨List.ne_nil_of_mem ht, hNone, hLess, hEq ▸ hLate⟩

end Scan

theorem qps_getNextQindex (d : QbbNetDevice) (c : Callbacks) :
    (d.getNextQindex c).2.qps = d.qpGrp.qps := by
  unfold getNextQindex
  split
  · rfl
  · exact (RdmaQueuePairGroup.scan_extends _ _ _).2

/-! ## Calls -/

/-- What a call does. -/
theorem dequeueAndTransmit_cases {d d' : QbbNetDevice} {c : Callbacks} {r : CallResult}
    (h : d.dequeueAndTransmit cfg c = some (d', r)) :
    (d.txMachineState = .busy ∧ d' = d ∧ r = .busy) ∨
    (d'.txMachineState = .busy ∧ d' = { d with ackQ := d.ackQ - 1, txMachineState := .busy } ∧
      r = .control) ∨
    (d.txMachineState = .ready ∧ d.controlReady = false ∧ ∃ qp q, r = .dequeued qp ∧
      d'.now = d.now ∧ d'.nextSend = d.nextSend ∧ d'.qpGrp.qps = d.qpGrp.qps ∧
      d'.qps = Function.update d.qps qp q ∧ (c.packet ≠ none → d'.txMachineState = .busy)) ∨
    (d.txMachineState = .ready ∧ d.controlReady = false ∧ (d.getNextQindex c).1 = none ∧
      r = .idle ∧ d' = { d with qpGrp := (d.getNextQindex c).2 }.waitForNextAvail) := by
  unfold dequeueAndTransmit at h
  split at h
  · rename_i hBusy
    cases h
    exact Or.inl ⟨hBusy, rfl, rfl⟩
  · rename_i hReady
    have hTx : d.txMachineState = .ready := by
      cases hState : d.txMachineState with
      | ready => rfl
      | busy => exact absurd hState hReady
    split at h
    · cases h
      exact Or.inr (Or.inl ⟨rfl, rfl, rfl⟩)
    · rename_i hControl
      have hQps := qps_getNextQindex d c
      refine Or.inr (Or.inr ?_)
      dsimp only at h
      split at h
      · rename_i hNone
        cases h
        exact Or.inr ⟨hTx, Bool.not_eq_true _ ▸ hControl, hNone, rfl, rfl⟩
      · obtain ⟨qp, -, h⟩ := Option.bind_eq_some_iff.mp h
        refine Or.inl ⟨hTx, Bool.not_eq_true _ ▸ hControl, qp, ?_⟩
        cases hPacket : c.packet with
        | none =>
          rw [hPacket] at h
          cases h
          exact ⟨_, rfl, rfl, rfl, hQps, rfl, fun hSome => absurd rfl hSome⟩
        | some size =>
          rw [hPacket] at h
          cases h
          exact ⟨_, rfl, rfl, rfl, hQps, rfl, fun _ => rfl⟩

variable {cfg} {d d' : QbbNetDevice} {moved : List Nat}

/-- The QPs that may have overtaken the timer after a call. -/
def movedAfter (d : QbbNetDevice) (moved : List Nat) : CallResult → List Nat
  | .dequeued qp => qp :: moved
  | .idle => if d.nextSend = none then [] else moved
  | _ => moved

/-- Nothing that the timer depends on has changed. -/
theorem Armed.congr (h : d.Armed moved) (hNow : d'.now = d.now) (hSend : d'.nextSend = d.nextSend)
    (hGroup : d'.qpGrp.qps = d.qpGrp.qps) (hQps : d'.qps = d.qps) : d'.Armed moved := by
  constructor
  · rw [hSend, hNow]
    exact h.pending
  · rw [hSend, hNow, hGroup, hQps]
    exact h.covered

/-- A QP in `moved` may have any pace. -/
theorem Armed.move (h : d.Armed moved) {qp : Nat} {q : PacedQp} (hNow : d'.now = d.now)
    (hSend : d'.nextSend = d.nextSend) (hGroup : d'.qpGrp.qps = d.qpGrp.qps)
    (hQps : d'.qps = Function.update d.qps qp q) : d'.Armed (qp :: moved) := by
  constructor
  · rw [hSend, hNow]
    exact h.pending
  · rw [hSend, hNow, hGroup, hQps]
    intro ts hts p hp hMoved
    obtain ⟨hNe, hOld⟩ := not_or.mp (List.mem_cons.not.mp hMoved)
    rw [Function.update_of_ne hNe]
    exact h.covered ts hts p hp hOld

/-- A call keeps the timer in time. -/
theorem Armed.call (h : d.Armed moved) {c : Callbacks} {r : CallResult}
    (hCall : d.dequeueAndTransmit cfg c = some (d', r)) : d'.Armed (d.movedAfter moved r) := by
  obtain ⟨-, rfl, rfl⟩ | ⟨-, rfl, rfl⟩ | ⟨-, -, qp, q, rfl, hNow, hSend, hGroup, hQps, -⟩ |
    ⟨-, -, -, rfl, rfl⟩ := dequeueAndTransmit_cases cfg hCall
  · exact h
  · exact h.congr rfl rfl rfl rfl
  · exact h.move hNow hSend hGroup hQps
  · have hMarked : Armed { d with qpGrp := (d.getNextQindex c).2 } moved :=
      h.congr rfl rfl (qps_getNextQindex d c) rfl
    obtain ⟨hSame, -⟩ | ⟨ts, hNone, hSet, hAhead, hAll⟩ :=
      waitForNextAvail_cases { d with qpGrp := (d.getNextQindex c).2 }
    · rw [hSame, movedAfter]
      split
      · rename_i hNone
        constructor
        · intro ts hts
          rw [show ({ d with qpGrp := (d.getNextQindex c).2 } : QbbNetDevice).nextSend = none
            from hNone] at hts
          cases hts
        · intro ts hts
          rw [show ({ d with qpGrp := (d.getNextQindex c).2 } : QbbNetDevice).nextSend = none
            from hNone] at hts
          cases hts
      · exact hMarked
    · rw [hSet]
      constructor
      · intro ts' hts'
        obtain rfl := Option.some.inj hts'
        exact hAhead.le
      · intro ts' hts' qp hqp _ hLeft hLate
        obtain rfl := Option.some.inj hts'
        exact hAll _ (mem_deadlines.mpr ⟨qp, hqp, hLeft, hLate, rfl⟩)

/-- `UpdateNextAvail` for a time that is moved into the past fires at once. -/
theorem updateNextAvail_eq (d : QbbNetDevice) (t : Int) :
    d.updateNextAvail t = { d with
      nextSend := d.nextSend.map fun ts => if t < ts then max t d.now else ts } := by
  rcases d with ⟨now, txMachineState, paused, _ | ts, ackQ, qpGrp, rrlast, qps⟩
  · rfl
  · have hLatest : (if t < now then now else t) = max t now := by
      split
      · rename_i hPast
        exact (max_eq_right hPast.le).symm
      · rename_i hAhead
        exact (max_eq_left (not_lt.mp hAhead)).symm
    unfold updateNextAvail
    dsimp only [Option.map_some]
    rw [hLatest]
    by_cases hEarlier : t < ts
    · rw [if_pos hEarlier, if_pos hEarlier]
    · rw [if_neg hEarlier, if_neg hEarlier]

/-- A rate changes together with the timer. -/
theorem Armed.changeRate (h : d.Armed moved) (qp rate : Nat) :
    (d.changeRate cfg qp rate).Armed moved := by
  unfold QbbNetDevice.changeRate
  dsimp only
  rw [updateNextAvail_eq]
  constructor
  · intro ts' hts'
    obtain ⟨ts, hts, rfl⟩ := Option.map_eq_some_iff.mp hts'
    have hOld := h.pending ts hts
    dsimp only
    split
    · exact le_max_right _ _
    · exact hOld
  · intro ts' hts' p hp hMoved hLeft hLate
    obtain ⟨ts, hts, rfl⟩ := Option.map_eq_some_iff.mp hts'
    have hOld := h.pending ts hts
    dsimp only at hp hLeft hLate ⊢
    by_cases hSame : p = qp
    · subst hSame
      simp only [Function.update_self] at hLate ⊢
      split
      · exact max_le (le_refl _) hLate.le
      · rename_i hLater
        exact not_lt.mp hLater
    · simp only [Function.update_of_ne hSame] at hLeft hLate ⊢
      have hCovered := h.covered ts hts p hp hMoved hLeft hLate
      split
      · rename_i hEarlier
        exact (max_le hEarlier.le hOld).trans hCovered
      · exact hCovered

/-- An action keeps the timer in time. -/
theorem Armed.act (h : d.Armed moved) {a : Action} (hAct : d.act cfg a = some d') :
    d'.Armed (d.movedBy moved a) := by
  cases a with
  | advance t =>
    obtain ⟨⟨hNow, hTimer⟩, rfl⟩ := Machine.of_guarded hAct
    exact ⟨hTimer, fun ts hts qp hqp hMoved hLeft hLate =>
      h.covered ts hts qp hqp hMoved hLeft (hNow.trans_lt hLate)⟩
  | nextSend =>
    obtain ⟨-, rfl⟩ := Machine.of_guarded hAct
    exact ⟨fun ts hts => absurd hts nofun, fun ts hts => absurd hts nofun⟩
  | transmitComplete =>
    obtain ⟨-, rfl⟩ := Machine.of_guarded hAct
    exact h.congr rfl rfl rfl rfl
  | newQp qp q =>
    obtain ⟨hNew, rfl⟩ := Machine.of_guarded hAct
    refine ⟨h.pending, fun ts hts p hp hMoved hLeft hLate => ?_⟩
    by_cases hSame : p = qp
    · subst hSame
      simp at hLate
    · dsimp only at hLeft hLate ⊢
      rw [Function.update_of_ne hSame] at hLeft hLate ⊢
      have hOld : p ∈ d.qpGrp.qps := by
        rcases List.mem_append.mp hp with hOld | hLast
        · exact hOld
        · exact absurd (List.mem_singleton.mp hLast) hSame
      exact h.covered ts hts p hOld hMoved hLeft hLate
  | reassignedQp qp =>
    cases hAct
    refine ⟨h.pending, fun ts hts p hp hMoved hLeft hLate => ?_⟩
    obtain ⟨hNe, hNotMoved⟩ := not_or.mp (List.mem_cons.not.mp hMoved)
    have hOld : p ∈ d.qpGrp.qps := by
      rcases List.mem_append.mp hp with hOld | hLast
      · exact hOld
      · exact absurd (List.mem_singleton.mp hLast) hNe
    exact h.covered ts hts p hOld hNotMoved hLeft hLate
  | triggerTransmit =>
    cases hAct
    exact h
  | enqueueHighPrioQ =>
    cases hAct
    exact h.congr rfl rfl rfl rfl
  | clear =>
    cases hAct
    exact ⟨h.pending, fun ts hts p hp => absurd hp List.not_mem_nil⟩
  | pause qIndex =>
    cases hAct
    exact h.congr rfl rfl rfl rfl
  | resume qIndex =>
    obtain ⟨-, rfl⟩ := Machine.of_guarded hAct
    exact h.congr rfl rfl rfl rfl
  | changeRate qp rate =>
    cases hAct
    exact h.changeRate qp rate
  | update qp status =>
    cases hAct
    dsimp only [movedBy]
    split
    · exact h.move rfl rfl rfl rfl
    · rename_i hSame
      refine ⟨h.pending, fun ts hts p hp hMoved hLeft hLate => ?_⟩
      dsimp only at hLeft hLate ⊢
      by_cases hEq : p = qp
      · subst hEq
        rw [Function.update_self] at hLeft hLate ⊢
        have hOld : (d.qps p).bytesLeft ≠ 0 := fun hZero => hSame ⟨hZero, hLeft⟩
        exact h.covered ts hts p hp hMoved hOld hLate
      · rw [Function.update_of_ne hEq] at hLeft hLate ⊢
        exact h.covered ts hts p hp hMoved hLeft hLate

/-- Where the scheduler finds nothing, no unfinished QP can be sent. -/
theorem Timely.none_sends {c : Callbacks} (h : d.Timely moved c)
    (hNone : (d.getNextQindex c).1 = none) {qp : Nat} (hMem : qp ∈ d.qpGrp.qps) :
    ¬d.CanSend qp := by
  intro hSends
  unfold getNextQindex at hNone
  cases hScheduler : c.cbQindex with
  | some idx =>
    rw [hScheduler] at hNone
    cases hNone
  | none =>
    rw [hScheduler] at hNone
    have hLive := RdmaQueuePairGroup.skipsNoLive_of_truthful h.marks d.rrlast d.checks hNone qp hMem
      hSends.unfinished
    have hDue : d.late qp = false := decide_eq_false (not_lt.mpr hSends.due)
    rcases hSends.ready with hReady | hReady
    · have hSendable : d.checks.sendable qp = true := by
        simp only [QpChecks.sendable, checks, hSends.unpaused, hReady, hDue, Bool.not_false,
          Bool.and_self]
      rw [hSendable] at hLive
      cases hLive
    · have hMissed := h.scheduler hScheduler qp hMem hSends
      rw [hReady] at hMissed
      cases hMissed

/-- A call that meets the condition leaves the device busy or asleep with the timer in time. -/
theorem Armed.awake (h : d.Armed moved) {c : Callbacks} {r : CallResult}
    (hTimely : d.txMachineState = .ready → d.controlReady = false → d.Timely moved c)
    (hCall : d.dequeueAndTransmit cfg c = some (d', r)) :
    d'.txMachineState = .busy ∨ d'.Sleeps := by
  obtain ⟨hBusy, rfl, -⟩ | ⟨hBusy, -, -⟩ | ⟨hReady, hControl, qp, q, -, -, -, -, -, hSent⟩ |
    ⟨hReady, hControl, hNone, -, rfl⟩ := dequeueAndTransmit_cases cfg hCall
  · exact Or.inl hBusy
  · exact Or.inl hBusy
  · exact Or.inl (hSent (hTimely hReady hControl).packet)
  · right
    have hIdle := hTimely hReady hControl
    have hQps := qps_getNextQindex d c
    have hDeadline (qp : Nat) (hMem : qp ∈ d.qpGrp.qps) (hHeld : d.HeldBack qp) :
        (d.qps qp).nextAvail ∈ ({ d with qpGrp := (d.getNextQindex c).2 } : QbbNetDevice).deadlines :=
      mem_deadlines.mpr ⟨qp, hQps.symm ▸ hMem, hIdle.bytesLeft hNone qp hMem hHeld, hHeld.late, rfl⟩
    obtain ⟨hSame, hFar⟩ | ⟨ts, -, hSet, hAhead, hAll⟩ :=
      waitForNextAvail_cases { d with qpGrp := (d.getNextQindex c).2 }
    · rw [hSame]
      refine ⟨hControl, fun qp hMem hSends => ?_, fun qp hMem hHeld => ?_⟩
      · exact hIdle.none_sends hNone (hQps ▸ hMem) ⟨hSends.1, hSends.2, hSends.3, hSends.4⟩
      · have hOld : qp ∈ d.qpGrp.qps := hQps ▸ hMem
        have hWaits : d.HeldBack qp := ⟨hHeld.1, hHeld.2, hHeld.3, hHeld.4⟩
        cases hTimer : d.nextSend with
        | none =>
          have hMost := hFar hTimer _ (hDeadline qp hOld hWaits)
          exact absurd (hIdle.horizon hNone qp hOld hWaits) (not_lt.mpr hMost)
        | some ts =>
          refine ⟨ts, rfl, h.pending ts hTimer, ?_⟩
          by_cases hMoved : qp ∈ moved
          · exact hIdle.overtaken hNone ts hTimer qp hOld hMoved hWaits
          · exact h.covered ts hTimer qp hOld hMoved (hIdle.bytesLeft hNone qp hOld hWaits)
              hWaits.late
    · rw [hSet]
      refine ⟨hControl, fun qp hMem hSends => ?_, fun qp hMem hHeld => ?_⟩
      · exact hIdle.none_sends hNone (hQps ▸ hMem) ⟨hSends.1, hSends.2, hSends.3, hSends.4⟩
      · have hWaits : d.HeldBack qp := ⟨hHeld.1, hHeld.2, hHeld.3, hHeld.4⟩
        exact ⟨ts, rfl, hAhead.le, hAll _ (hDeadline qp (hQps ▸ hMem) hWaits)⟩

end QbbNetDevice

namespace PacedNic

variable (cfg : QbbConfig)

def step (w : PacedNic) (e : QbbNetDevice.Action × Callbacks) : Option PacedNic := do
  let d ← w.dev.act cfg e.1
  let moved := w.dev.movedBy w.moved e.1
  if e.1.calls then do
    let (dev, r) ← d.dequeueAndTransmit cfg e.2
    some { dev, called := true, moved := d.movedAfter moved r }
  else some { dev := d, called := false, moved }

/-- A call that finds the device ready, with no control packet to send, is timely. -/
def Follows (w : PacedNic) (e : QbbNetDevice.Action × Callbacks) : Prop :=
  e.1.calls = true → ∀ d ∈ w.dev.act cfg e.1, d.txMachineState = .ready → d.controlReady = false →
    d.Timely (w.dev.movedBy w.moved e.1) e.2

/-- The timer is in time, and after a call the device is busy or asleep. -/
structure Wakes (w : PacedNic) : Prop where
  armed : w.dev.Armed w.moved
  awake : w.called = true → w.dev.txMachineState = .busy ∨ w.dev.Sleeps

theorem Wakes.step {w w' : PacedNic} {e : QbbNetDevice.Action × Callbacks} (h : w.Wakes)
    (hFollows : w.Follows cfg e) (hStep : w.step cfg e = some w') : w'.Wakes := by
  obtain ⟨d, hAct, hStep⟩ := Option.bind_eq_some_iff.mp hStep
  have hArmed := h.armed.act hAct
  dsimp only at hStep
  split at hStep
  · rename_i hCalls
    obtain ⟨⟨dev, r⟩, hCall, hStep⟩ := Option.bind_eq_some_iff.mp hStep
    cases hStep
    exact ⟨hArmed.call hCall, fun _ => hArmed.awake (hFollows hCalls d hAct) hCall⟩
  · cases hStep
    exact ⟨hArmed, fun hCalled => absurd hCalled nofun⟩

end PacedNic

/-- A host device before its first QP, where `qps` are the objects to come. -/
def pacedNic (cfg : QbbConfig) (qps : Nat → PacedQp) :
    Machine PacedNic (QbbNetDevice.Action × Callbacks) where
  init := { dev := { qps } }
  step := PacedNic.step cfg

/-- Along every run whose calls are timely, the transmitter is busy after a call, or nothing can be
sent and `m_nextSend` fires in time for every QP that only `m_nextAvail` holds back. -/
theorem device_wakes_in_time (cfg : QbbConfig) (qps : Nat → PacedQp)
    {es : List (QbbNetDevice.Action × Callbacks)} {w : PacedNic}
    (hGuard : (pacedNic cfg qps).Guarded (PacedNic.Follows cfg) (pacedNic cfg qps).init es)
    (hRun : (pacedNic cfg qps).run (pacedNic cfg qps).init es = some w) (hCalled : w.called = true) :
    w.dev.txMachineState = .busy ∨ w.dev.Sleeps := by
  have hWakes : w.Wakes := by
    refine Machine.guarded_induction (I := PacedNic.Wakes) ⟨⟨?_, ?_⟩, ?_⟩ ?_ hGuard hRun
    · intro ts hts
      cases hts
    · intro ts hts
      cases hts
    · intro hCalled
      cases hCalled
    · intro u e v hWakes hFollows hStep
      exact hWakes.step cfg hFollows hStep
  exact hWakes.awake hCalled

/-! ## A slow and a fast QP -/

/-- A packet takes 100 at rate 1, and 20 at any other rate. -/
def slowFast : QbbConfig where
  interframeGap := 0
  rateBound := true
  txTime rate _ := if rate = 1 then 100 else 20

/-- A QP without TLT, IRN and credit, with bytes left. -/
def plainStatus : QpStatus where
  pg := 0
  bytesLeft := 5000
  isFinishedConst := false
  ccTypeRate := true
  isWinBound := false
  irnEnabled := false
  canIrnTransmit := false
  tltEnabled := false
  tltForceTxReady := false
  tltImportant := false
  cbEnabled := false
  cbCanSend := false

def qpOfRate (rate : Nat) : PacedQp := { plainStatus with rate, maxRate := rate }

def plainCall : Callbacks where
  cbQindex := none
  packet := some 1000
  status := plainStatus

/-- The slow QP sends a packet, and the device sets its timer. -/
def slowSends : List (QbbNetDevice.Action × Callbacks) :=
  [(.newQp 1 (qpOfRate 1), plainCall), (.advance 10, plainCall), (.transmitComplete, plainCall)]

/-- Then the fast one comes and sends a packet, too. -/
def fastSends : List (QbbNetDevice.Action × Callbacks) :=
  [(.advance 20, plainCall), (.newQp 2 (qpOfRate 2), plainCall), (.advance 30, plainCall),
    (.transmitComplete, plainCall)]

/-- A call without a timer and without credit QPs is timely while all QPs have bytes left. -/
theorem timely_plainCall {d : QbbNetDevice} (moved : List Nat) (hTimer : d.nextSend = none)
    (hMarks : d.qpGrp.qpFinished = fun _ => 0)
    (hPlain : ∀ qp ∈ d.qpGrp.qps, (d.qps qp).cbReady = false ∧ (d.qps qp).bytesLeft ≠ 0 ∧
      (d.qps qp).nextAvail < maximumSimulationTime) : d.Timely moved plainCall := by
  constructor
  · exact fun _ qp hMem _ => (hPlain qp hMem).1
  · exact Option.some_ne_none 1000
  · intro i hi
    unfold RdmaQueuePairGroup.isQpFinished bittest at hi
    rw [hMarks] at hi
    simp at hi
  · intro _ ts hts
    rw [hTimer] at hts
    cases hts
  · exact fun _ qp hMem _ => (hPlain qp hMem).2.1
  · exact fun _ qp hMem _ => (hPlain qp hMem).2.2

theorem device_wakes_in_time_slowSends : ∃ w,
    (pacedNic slowFast fun _ => qpOfRate 1).run (pacedNic slowFast fun _ => qpOfRate 1).init
      slowSends = some w ∧ w.dev.nextSend = some 100 ∧
      (w.dev.txMachineState = .busy ∨ w.dev.Sleeps) := by
  have hGuard : (pacedNic slowFast fun _ => qpOfRate 1).Guarded (PacedNic.Follows slowFast)
      (pacedNic slowFast fun _ => qpOfRate 1).init slowSends := by
    refine ⟨?_, fun u hu => ⟨fun hCalls => absurd hCalls nofun, fun v hv => ⟨?_, fun _ _ => trivial⟩⟩⟩
    · intro _ d hd _ _
      obtain rfl := Option.some.inj hd
      exact timely_plainCall _ rfl rfl (by decide +kernel)
    · obtain rfl := Option.some.inj hu
      obtain rfl := Option.some.inj hv
      intro _ d hd _ _
      obtain rfl := Option.some.inj hd
      exact timely_plainCall _ rfl rfl (by decide +kernel)
  obtain ⟨w, hRun⟩ : ∃ w, (pacedNic slowFast fun _ => qpOfRate 1).run
      (pacedNic slowFast fun _ => qpOfRate 1).init slowSends = some w := ⟨_, rfl⟩
  have hState : w.called = true ∧ w.dev.nextSend = some 100 := by
    obtain rfl := Option.some.inj hRun
    exact ⟨rfl, by decide +kernel⟩
  exact ⟨w, hRun, hState.2, device_wakes_in_time slowFast _ hGuard hRun hState.1⟩

/-- The fast QP could send again at 40, and the device sleeps until 100. -/
theorem fast_sleeps_for_slow : ∃ w,
    (pacedNic slowFast fun _ => qpOfRate 1).run (pacedNic slowFast fun _ => qpOfRate 1).init
      (slowSends ++ fastSends) = some w ∧ w.called = true ∧
      ¬(w.dev.txMachineState = .busy ∨ w.dev.Sleeps) := by
  refine ⟨_, rfl, rfl, ?_⟩
  rintro (hBusy | hSleeps)
  · cases hBusy
  · obtain ⟨ts, hTimer, -, hCovered⟩ := hSleeps.covered 2 (by decide +kernel)
      ⟨by decide +kernel, by decide +kernel, by decide +kernel, by decide +kernel⟩
    obtain rfl := Option.some.inj hTimer
    exact absurd hCovered (by decide +kernel)

end Dpdq.Ns3
