import Mathlib.Algebra.BigOperators.Group.List.Basic
import Mathlib.Algebra.Order.Field.Rat
import Dpdq.Lib.Checked
import Dpdq.Lib.Machine
import Dpdq.Ns2.R2p2Hdr

/-!
# The queue of `dpdq-queue.cc`

`DPDQQueue` keeps the packets of the credit protocol apart from all others and serves them first.
From the time 10.0 on it takes the gap and the preamble off the size of a packet that enters and
adds them to the size of a packet that leaves. Both tests read the clock, so that a packet that is
inside at 10.0 leaves with a size of its own.
-/

namespace Dpdq.Ns2

open Dpdq.Lib

/-! ## Packets and packet queues -/

/-- What the queue reads of a packet; `uid` tells packets apart. -/
@[ext]
structure QueuedPkt where
  uid : Nat
  isUdp : Bool
  msgType : MsgType
  size : Int
deriving DecidableEq, Repr

def QueuedPkt.isControlPacket (p : QueuedPkt) : Bool :=
  p.isUdp ∧ (p.msgType = .grant ∨ p.msgType = .grantReq ∨ p.msgType = .resend)

structure PacketQueue where
  pkts : List QueuedPkt := []
  bytes : Int := 0
deriving DecidableEq, Repr

namespace PacketQueue

def length (q : PacketQueue) : Int := q.pkts.length

def enque (q : PacketQueue) (p : QueuedPkt) : PacketQueue := ⟨q.pkts ++ [p], q.bytes + p.size⟩

def deque (q : PacketQueue) : PacketQueue × Option QueuedPkt :=
  match q.pkts with
  | [] => (q, none)
  | p :: rest => (⟨rest, q.bytes - p.size⟩, some p)

end PacketQueue

/-! ## The queue -/

structure QueueConfig where
  qib : Bool
  meanPktsize : Int
  creditLimit : Int
  dataLimit : Int
  switchSharedBuffer : Int

/-- What `Node::should_drop` adds up over the queues of a node, and its limit. -/
structure NodeQueues where
  qlenPkts : Int
  qlenBytes : Int
  sharedQueueLenPkts : Int
deriving DecidableEq, Repr

def NodeQueues.shouldDrop (n : NodeQueues) (pktSize meanPktSize : Int) (qInBytes : Bool) : Bool :=
  if qInBytes then meanPktSize * n.sharedQueueLenPkts ≤ n.qlenBytes + pktSize
  else n.sharedQueueLenPkts ≤ n.qlenPkts + 1

inductive QueueFailure where
  | frameSize
  | noNode
  | switchSharedBuffer
deriving DecidableEq, Repr

structure DPDQQueue where
  creditQ : PacketQueue := {}
  dataQ : PacketQueue := {}
deriving DecidableEq, Repr

/-- What a frame takes on the wire besides its own bytes. -/
def gapAndPreamble : Int := interPktGapSize + ethernetPreambleSize

namespace DPDQQueue

def normalizeEnqueSize (p : QueuedPkt) (now : Rat) : Except QueueFailure QueuedPkt := do
  if 10 ≤ now then
    check (now ≤ 10 ∨ (minEthernetFrameOnWire : Int) ≤ p.size ∧
      p.size ≤ (maxEthernetFrameOnWire : Int)) .frameSize
    let p := { p with size := p.size - gapAndPreamble }
    check (now ≤ 10 ∨ (minEthernetFrame : Int) ≤ p.size ∧
      p.size ≤ (maxEthernetFrame : Int)) .frameSize
    return p
  else return p

def restoreDequeSize (p : QueuedPkt) (now : Rat) : Except QueueFailure QueuedPkt := do
  if 10 ≤ now then
    check (now ≤ 10 ∨ p.size ≤ (maxEthernetFrame : Int)) .frameSize
    let p := { p with size := p.size + gapAndPreamble }
    check (now ≤ 10 ∨ p.size ≤ (maxEthernetFrameOnWire : Int)) .frameSize
    return p
  else return p

/-- The packets of one class. -/
def classQ (q : DPDQQueue) (control : Bool) : PacketQueue := if control then q.creditQ else q.dataQ

def setClassQ (q : DPDQQueue) (control : Bool) (target : PacketQueue) : DPDQQueue :=
  if control then { q with creditQ := target } else { q with dataQ := target }

def targetLimit (cfg : QueueConfig) (control : Bool) : Int :=
  if control then cfg.creditLimit else cfg.dataLimit

def shouldDrop (cfg : QueueConfig) (p : QueuedPkt) (target : PacketQueue) (limit : Int)
    (node : Option NodeQueues) : Except QueueFailure Bool :=
  if 0 < limit ∧ (cfg.qib = false ∧ limit ≤ target.length + 1 ∨
      cfg.qib = true ∧ limit ≤ target.bytes + p.size) then .ok true
  else if cfg.switchSharedBuffer = 1 then
    match node with
    | none => .error .noNode
    | some n => .ok (n.shouldDrop p.size cfg.meanPktsize cfg.qib)
  else if cfg.switchSharedBuffer ≠ 0 then .error .switchSharedBuffer
  else .ok false

/-- `enque`, with whether the packet was admitted. -/
def enque (cfg : QueueConfig) (q : DPDQQueue) (p : QueuedPkt) (now : Rat)
    (node : Option NodeQueues) : Except QueueFailure (DPDQQueue × Bool) := do
  let p ← normalizeEnqueSize p now
  let target := q.classQ p.isControlPacket
  let dropped ← shouldDrop cfg p target (targetLimit cfg p.isControlPacket) node
  if dropped then return (q, false)
  else return (q.setClassQ p.isControlPacket (target.enque p), true)

def deque (q : DPDQQueue) (now : Rat) :
    Except QueueFailure (DPDQQueue × Option QueuedPkt) := do
  let control : Bool := 0 < q.creditQ.length
  let (target, p) := (q.classQ control).deque
  match p with
  | none => return (q.setClassQ control target, none)
  | some p =>
    let p ← restoreDequeSize p now
    return (q.setClassQ control target, some p)

end DPDQQueue

/-! ## Runs -/

/-- A queue with the packets that it admitted, as they arrived, and those that left it. -/
structure QueueRun where
  queue : DPDQQueue := {}
  entered : List (Rat × QueuedPkt) := []
  left : List QueuedPkt := []
deriving DecidableEq, Repr

inductive QueueEvent where
  | enque (p : QueuedPkt) (now : Rat) (node : Option NodeQueues)
  | deque (now : Rat)

namespace QueueRun

def step (cfg : QueueConfig) (s : QueueRun) : QueueEvent → Option QueueRun
  | .enque p now node => (s.queue.enque cfg p now node).toOption.map fun r =>
      { s with
        queue := r.1
        entered := if r.2 then s.entered ++ [(now, p)] else s.entered }
  | .deque now => (s.queue.deque now).toOption.map fun r =>
      { s with
        queue := r.1
        left := s.left ++ r.2.toList }

def machine (cfg : QueueConfig) : Machine QueueRun QueueEvent where
  init := {}
  step := step cfg

def enteredOf (s : QueueRun) (control : Bool) : List (Rat × QueuedPkt) :=
  s.entered.filter fun a => a.2.isControlPacket = control

def leftOf (s : QueueRun) (control : Bool) : List QueuedPkt :=
  s.left.filter fun p => p.isControlPacket = control

/-- The arrival of the packet that is the next one to leave. -/
def nextToLeave (s : QueueRun) : Option (Rat × QueuedPkt) :=
  let control : Bool := 0 < s.queue.creditQ.length
  (s.enteredOf control)[(s.leftOf control).length]?

/-- The size with which a packet that arrives is kept. -/
def stored (a : Rat × QueuedPkt) : QueuedPkt :=
  if 10 ≤ a.1 then { a.2 with size := a.2.size - gapAndPreamble } else a.2

/-- A packet leaves on the side of the time 10.0 that it entered on, and none enters that is shorter
than what is taken off its size. -/
def KeepsSide (s : QueueRun) : QueueEvent → Prop
  | .enque p now _ => 0 ≤ (stored (now, p)).size
  | .deque now => ∀ a ∈ s.nextToLeave, 10 ≤ a.1 ↔ 10 ≤ now

instance (s : QueueRun) : ∀ e, Decidable (s.KeepsSide e)
  | .enque _ _ _ => Int.decLe _ _
  | .deque _ => inferInstanceAs (Decidable (∀ a ∈ s.nextToLeave, _))

/-- The queue serves its packets as it is meant to. -/
structure Served (cfg : QueueConfig) (s : QueueRun) : Prop where
  order : ∀ control, ∃ gone inside, s.enteredOf control = gone ++ inside ∧
    s.leftOf control = gone.map Prod.snd ∧
    (s.queue.classQ control).pkts = inside.map stored
  counter : ∀ control, (s.queue.classQ control).bytes =
    ((s.queue.classQ control).pkts.map QueuedPkt.size).sum
  limit : ∀ control, 0 < DPDQQueue.targetLimit cfg control →
    if cfg.qib then (s.queue.classQ control).bytes < DPDQQueue.targetLimit cfg control
    else (s.queue.classQ control).length < DPDQQueue.targetLimit cfg control
  priority : ∀ now q p, s.queue.deque now = .ok (q, some p) → s.queue.creditQ.pkts ≠ [] →
    p.isControlPacket = true

end QueueRun

/-! ## What the operations do -/

namespace DPDQQueue

variable {cfg : QueueConfig} {q q' : DPDQQueue} {p p' : QueuedPkt} {now : Rat}

@[simp] theorem classQ_setClassQ_self (control : Bool) (target : PacketQueue) :
    (q.setClassQ control target).classQ control = target := by
  cases control <;> rfl

@[simp] theorem classQ_setClassQ_not (control : Bool) (target : PacketQueue) :
    (q.setClassQ control target).classQ (!control) = q.classQ (!control) := by
  cases control <;> rfl

theorem normalizeEnqueSize_eq_ok (h : normalizeEnqueSize p now = .ok p') :
    p' = QueueRun.stored (now, p) := by
  unfold normalizeEnqueSize at h
  unfold QueueRun.stored
  split at h
  · rename_i hLate
    simp only [check_bind_eq_ok] at h
    rw [if_pos hLate]
    exact (Except.ok.inj h.2.2).symm
  · rename_i hEarly
    rw [if_neg hEarly]
    exact (Except.ok.inj h).symm

theorem restoreDequeSize_eq_ok (h : restoreDequeSize p now = .ok p') :
    p' = if 10 ≤ now then { p with size := p.size + gapAndPreamble } else p := by
  unfold restoreDequeSize at h
  split at h
  · rename_i hLate
    simp only [check_bind_eq_ok] at h
    rw [if_pos hLate]
    exact (Except.ok.inj h.2.2).symm
  · rename_i hEarly
    rw [if_neg hEarly]
    exact (Except.ok.inj h).symm

theorem shouldDrop_eq_false {target : PacketQueue} {limit : Int} {node : Option NodeQueues}
    (h : shouldDrop cfg p target limit node = .ok false) (hLimit : 0 < limit) :
    if cfg.qib then target.bytes + p.size < limit else target.length + 1 < limit := by
  unfold shouldDrop at h
  split at h
  · cases h
  · cases hQib : cfg.qib <;> simp_all

/-- A packet that is admitted is put behind the others of its class. -/
theorem enque_cases {node : Option NodeQueues} {admitted : Bool}
    (h : q.enque cfg p now node = .ok (q', admitted)) :
    admitted = false ∧ q' = q ∨
    admitted = true ∧ ∃ target, target = q.classQ p.isControlPacket ∧
      q' = q.setClassQ p.isControlPacket (target.enque (QueueRun.stored (now, p))) ∧
      (0 < targetLimit cfg p.isControlPacket → if cfg.qib then
        target.bytes + (QueueRun.stored (now, p)).size < targetLimit cfg p.isControlPacket
      else target.length + 1 < targetLimit cfg p.isControlPacket) := by
  unfold enque at h
  obtain ⟨p', hNormal, h⟩ := bind_eq_ok.mp h
  obtain ⟨dropped, hDrop, h⟩ := bind_eq_ok.mp h
  obtain rfl := normalizeEnqueSize_eq_ok hNormal
  have hClass : (QueueRun.stored (now, p)).isControlPacket = p.isControlPacket := by
    unfold QueueRun.stored
    split <;> rfl
  rw [hClass] at h hDrop
  cases dropped with
  | true =>
    cases h
    exact .inl ⟨rfl, rfl⟩
  | false =>
    cases h
    exact .inr ⟨rfl, _, rfl, rfl, shouldDrop_eq_false hDrop⟩

/-- The class that is served is that of the credit protocol, unless it has no packets. -/
theorem deque_cases {o : Option QueuedPkt} (h : q.deque now = .ok (q', o)) :
    ∃ control : Bool, (control = false → q.creditQ.pkts = []) ∧
      control = decide (0 < q.creditQ.length) ∧
      (o = none ∧ q' = q ∧ (q.classQ control).pkts = [] ∨
        ∃ p rest, (q.classQ control).pkts = p :: rest ∧
          q' = q.setClassQ control ⟨rest, (q.classQ control).bytes - p.size⟩ ∧
          o = some (if 10 ≤ now then { p with size := p.size + gapAndPreamble } else p)) := by
  refine ⟨decide (0 < q.creditQ.length), ?_, rfl, ?_⟩
  · intro hNone
    simpa [PacketQueue.length] using hNone
  unfold deque at h
  dsimp only at h
  generalize decide (0 < q.creditQ.length) = control at h ⊢
  unfold PacketQueue.deque at h
  cases hPkts : (q.classQ control).pkts with
  | nil =>
    rw [hPkts] at h
    cases h
    left
    refine ⟨rfl, ?_, rfl⟩
    cases control <;> rfl
  | cons p rest =>
    rw [hPkts] at h
    obtain ⟨p', hRestore, h⟩ := bind_eq_ok.mp h
    obtain rfl := restoreDequeSize_eq_ok hRestore
    cases h
    exact .inr ⟨p, rest, rfl, rfl, rfl⟩

end DPDQQueue

/-! ## What holds of each class -/

namespace QueueRun

/-- `Served` for one class, with what makes the limit hold when packets leave. -/
structure ClassSound (cfg : QueueConfig) (s : QueueRun) (control : Bool) : Prop where
  order : ∃ gone inside, s.enteredOf control = gone ++ inside ∧
    s.leftOf control = gone.map Prod.snd ∧
    (s.queue.classQ control).pkts = inside.map stored
  counter : (s.queue.classQ control).bytes =
    ((s.queue.classQ control).pkts.map QueuedPkt.size).sum
  nonneg : ∀ p ∈ (s.queue.classQ control).pkts, 0 ≤ p.size
  limit : 0 < DPDQQueue.targetLimit cfg control →
    if cfg.qib then (s.queue.classQ control).bytes < DPDQQueue.targetLimit cfg control
    else (s.queue.classQ control).length < DPDQQueue.targetLimit cfg control

variable {cfg : QueueConfig} {s t : QueueRun} {control : Bool} {now : Rat} {p : QueuedPkt}

theorem ClassSound.frame (h : s.ClassSound cfg control)
    (hEntered : t.enteredOf control = s.enteredOf control)
    (hLeft : t.leftOf control = s.leftOf control)
    (hQueue : t.queue.classQ control = s.queue.classQ control) : t.ClassSound cfg control where
  order := by
    rw [hEntered, hLeft, hQueue]
    exact h.order
  counter := hQueue ▸ h.counter
  nonneg := hQueue ▸ h.nonneg
  limit := hQueue ▸ h.limit

theorem classSound_init (cfg : QueueConfig) (control : Bool) :
    ({} : QueueRun).ClassSound cfg control where
  order := ⟨[], [], rfl, rfl, by cases control <;> rfl⟩
  counter := by cases control <;> rfl
  nonneg := by cases control <;> nofun
  limit := by
    intro hLimit
    have hEmpty : ({} : QueueRun).queue.classQ control = {} := by cases control <;> rfl
    rw [hEmpty]
    split <;> exact hLimit

theorem stored_isControlPacket (a : Rat × QueuedPkt) :
    (stored a).isControlPacket = a.2.isControlPacket := by
  unfold stored
  split <;> rfl

theorem ClassSound.enque {node : Option NodeQueues} (h : s.ClassSound cfg control)
    (hSize : 0 ≤ (stored (now, p)).size) (hStep : s.step cfg (.enque p now node) = some t) :
    t.ClassSound cfg control := by
  obtain ⟨⟨q, admitted⟩, hOk, rfl⟩ := Option.map_eq_some_iff.mp hStep
  rcases DPDQQueue.enque_cases (toOption_eq_some.mp hOk) with
    ⟨rfl, rfl⟩ | ⟨rfl, target, rfl, rfl, hLimit⟩
  · exact h
  by_cases hControl : p.isControlPacket = control
  · subst hControl
    obtain ⟨gone, inside, hEntered, hLeft, hPkts⟩ := h.order
    have hClass := s.queue.classQ_setClassQ_self p.isControlPacket
      ((s.queue.classQ p.isControlPacket).enque (stored (now, p)))
    refine ⟨⟨gone, inside ++ [(now, p)], ?_, hLeft, ?_⟩, ?_, ?_, ?_⟩
    · rw [← List.append_assoc, ← hEntered]
      simp [enteredOf]
    · rw [hClass, List.map_append, ← hPkts]
      rfl
    · rw [hClass]
      simp [PacketQueue.enque, h.counter]
    · rw [hClass]
      intro r hr
      rcases List.mem_append.mp hr with hOld | hNew
      · exact h.nonneg r hOld
      · exact List.mem_singleton.mp hNew ▸ hSize
    · rw [hClass]
      intro hPos
      have hAdmitted := hLimit hPos
      simp only [PacketQueue.enque, PacketQueue.length] at hAdmitted ⊢
      simpa using hAdmitted
  · obtain rfl : control = !p.isControlPacket := by cases control <;> simp_all
    refine h.frame ?_ rfl (s.queue.classQ_setClassQ_not _ _)
    simp [enteredOf]

/-- What leaves has the size that it arrived with, if both happen on the same side of 10.0. -/
theorem restored_stored (a : Rat × QueuedPkt) :
    (if 10 ≤ now then { stored a with size := (stored a).size + gapAndPreamble } else stored a) =
      a.2 ↔ (10 ≤ a.1 ↔ 10 ≤ now) := by
  have hGap : gapAndPreamble = 20 := rfl
  unfold stored
  by_cases hIn : 10 ≤ a.1 <;> by_cases hOut : 10 ≤ now
  · simp [hIn, hOut]
  · simp [hIn, hOut, QueuedPkt.ext_iff, hGap]
  · simp [hIn, hOut, QueuedPkt.ext_iff, hGap]
  · simp [hIn, hOut]

theorem nextToLeave_eq {gone inside : List (Rat × QueuedPkt)}
    (hControl : control = decide (0 < s.queue.creditQ.length))
    (hEntered : s.enteredOf control = gone ++ inside)
    (hLeft : s.leftOf control = gone.map Prod.snd) : s.nextToLeave = inside.head? := by
  unfold nextToLeave
  dsimp only
  rw [← hControl, hEntered, hLeft, List.length_map,
    List.getElem?_append_right (Nat.le_refl _), Nat.sub_self, List.head?_eq_getElem?]

theorem ClassSound.deque (h : ∀ control, s.ClassSound cfg control)
    (hSide : ∀ a ∈ s.nextToLeave, 10 ≤ a.1 ↔ 10 ≤ now)
    (hStep : s.step cfg (.deque now) = some t) (control : Bool) : t.ClassSound cfg control := by
  obtain ⟨⟨q, o⟩, hOk, rfl⟩ := Option.map_eq_some_iff.mp hStep
  obtain ⟨served, -, hServed, ⟨rfl, rfl, -⟩ | ⟨p, rest, hPkts, rfl, rfl⟩⟩ :=
    DPDQQueue.deque_cases (toOption_eq_some.mp hOk)
  · exact (h control).frame rfl (by simp [leftOf]) rfl
  obtain ⟨gone, inside, hEntered, hLeft, hHeld⟩ := (h served).order
  rw [hPkts] at hHeld
  obtain ⟨a, inside, rfl⟩ : ∃ a rest, inside = a :: rest :=
    List.exists_cons_of_ne_nil (by rintro rfl; cases hHeld)
  obtain ⟨rfl, rfl⟩ := List.cons.inj hHeld
  rw [nextToLeave_eq hServed hEntered hLeft] at hSide
  rw [(restored_stored a).mpr (hSide a rfl)] at hStep ⊢
  have hClass : a.2.isControlPacket = served := by
    have hMem : a ∈ s.enteredOf served := hEntered ▸ List.mem_append_right _ List.mem_cons_self
    simpa [enteredOf] using (List.mem_filter.mp hMem).2
  by_cases hControl : served = control
  · subst hControl
    have hQueue := s.queue.classQ_setClassQ_self served
      ⟨inside.map stored, (s.queue.classQ served).bytes - (stored a).size⟩
    have hNonneg := (h served).nonneg
    rw [hPkts] at hNonneg
    refine ⟨⟨gone ++ [a], inside, ?_, ?_, ?_⟩, ?_, ?_, ?_⟩
    · rw [List.append_assoc]
      exact hEntered
    · rw [List.map_append, ← hLeft]
      simp [leftOf, hClass]
    · rw [hQueue]
    · rw [hQueue]
      have hCounter := (h served).counter
      rw [hPkts, List.map_cons, List.sum_cons] at hCounter
      dsimp only
      omega
    · rw [hQueue]
      exact fun r hr => hNonneg r (List.mem_cons_of_mem _ hr)
    · rw [hQueue]
      intro hPos
      have hLimit := (h served).limit hPos
      have hSize := hNonneg _ List.mem_cons_self
      simp only [PacketQueue.length, hPkts, List.length_cons] at hLimit ⊢
      cases hQib : cfg.qib with
      | true =>
        rw [hQib, if_pos rfl] at hLimit
        rw [if_pos rfl]
        omega
      | false =>
        rw [hQib, if_neg nofun] at hLimit
        rw [if_neg nofun]
        omega
  · obtain rfl : control = !served := by cases control <;> cases served <;> simp_all
    refine (h _).frame rfl ?_ (s.queue.classQ_setClassQ_not _ _)
    simp [leftOf, hClass]

theorem classSound_of_guarded {es : List QueueEvent}
    (hGuard : (machine cfg).Guarded KeepsSide (machine cfg).init es)
    (hRun : (machine cfg).run (machine cfg).init es = some s) (control : Bool) :
    s.ClassSound cfg control := by
  refine Machine.run_induction (C := KeepsSide) (I := fun s => ∀ control, s.ClassSound cfg control)
    ?_ (classSound_init cfg) hGuard hRun control
  intro s e t hSound hSide hStep
  cases e with
  | enque p now node => exact fun control => (hSound control).enque hSide hStep
  | deque now => exact ClassSound.deque hSound hSide hStep

theorem ClassSound.isControlPacket (h : s.ClassSound cfg control)
    (hHeld : p ∈ (s.queue.classQ control).pkts) : p.isControlPacket = control := by
  obtain ⟨gone, inside, hEntered, -, hPkts⟩ := h.order
  rw [hPkts] at hHeld
  obtain ⟨a, hInside, rfl⟩ := List.mem_map.mp hHeld
  have hMem : a ∈ s.enteredOf control := hEntered ▸ List.mem_append_right _ hInside
  rw [stored_isControlPacket]
  simpa using (List.mem_filter.mp hMem).2

theorem ClassSound.priority (h : s.ClassSound cfg true) {q : DPDQQueue}
    (hOk : s.queue.deque now = .ok (q, some p)) (hCredit : s.queue.creditQ.pkts ≠ []) :
    p.isControlPacket = true := by
  obtain ⟨control, hNone, -, ⟨hEmpty, -⟩ | ⟨r, rest, hPkts, -, hLeaves⟩⟩ :=
    DPDQQueue.deque_cases hOk
  · cases hEmpty
  cases control with
  | false => exact absurd (hNone rfl) hCredit
  | true =>
    have hClass := h.isControlPacket (hPkts ▸ List.mem_cons_self)
    rw [Option.some.inj hLeaves]
    split <;> exact hClass

theorem served (h : ∀ control, s.ClassSound cfg control) : s.Served cfg where
  order control := (h control).order
  counter control := (h control).counter
  limit control := (h control).limit
  priority _ _ _ := (h true).priority

/-- The packet that leaves is the one that arrived, with its size or with another one. -/
theorem leaves_as_arrived_iff (h : ∀ control, s.ClassSound cfg control) {q : DPDQQueue}
    {a : Rat × QueuedPkt} (hOk : s.queue.deque now = .ok (q, some p))
    (hNext : s.nextToLeave = some a) : p = a.2 ↔ (10 ≤ a.1 ↔ 10 ≤ now) := by
  obtain ⟨control, -, hControl, ⟨hEmpty, -⟩ | ⟨r, rest, hPkts, -, hLeaves⟩⟩ :=
    DPDQQueue.deque_cases hOk
  · cases hEmpty
  obtain ⟨gone, inside, hEntered, hLeft, hHeld⟩ := (h control).order
  rw [nextToLeave_eq hControl hEntered hLeft] at hNext
  obtain ⟨inside, rfl⟩ : ∃ rest, inside = a :: rest := List.head?_eq_some_iff.mp hNext
  rw [hPkts] at hHeld
  obtain ⟨rfl, -⟩ := List.cons.inj hHeld
  rw [Option.some.inj hLeaves, restored_stored]

end QueueRun

/-! ## The result -/

/-- In a run whose packets leave on the side of the time 10.0 that they entered on, the queue serves
its packets as it is meant to. The next packet to leave then has the size that it arrived with
exactly if it keeps its side too. -/
theorem queue_serves {cfg : QueueConfig} {s : QueueRun} {es : List QueueEvent}
    (hGuard : (QueueRun.machine cfg).Guarded QueueRun.KeepsSide (QueueRun.machine cfg).init es)
    (hRun : (QueueRun.machine cfg).run (QueueRun.machine cfg).init es = some s) :
    s.Served cfg ∧ ∀ now q p a, s.queue.deque now = .ok (q, some p) →
      s.nextToLeave = some a → (p = a.2 ↔ (10 ≤ a.1 ↔ 10 ≤ now)) :=
  ⟨QueueRun.served (QueueRun.classSound_of_guarded hGuard hRun),
    fun _ _ _ _ => QueueRun.leaves_as_arrived_iff (QueueRun.classSound_of_guarded hGuard hRun)⟩

def queueConfig : QueueConfig := ⟨true, 1500, 0, 100000, 0⟩

def dataPkt : QueuedPkt := ⟨0, true, .reply, 1500⟩

def grantPkt : QueuedPkt := ⟨1, true, .grant, 84⟩

theorem queue_serves_grantFirst :
    QueueRun.Served queueConfig ⟨⟨{}, ⟨[dataPkt], 1500⟩⟩, [(1, dataPkt), (2, grantPkt)],
      [grantPkt]⟩ :=
  (@queue_serves queueConfig ⟨⟨{}, ⟨[dataPkt], 1500⟩⟩, [(1, dataPkt), (2, grantPkt)], [grantPkt]⟩
    [.enque dataPkt 1 none, .enque grantPkt 2 none, .deque 3] (by decide +kernel)
    (by decide +kernel)).1

/-- A packet that is inside at 10.0 leaves 20 bytes longer. -/
def lengthened : QueueRun := ⟨{}, [(9, dataPkt)], [⟨0, true, .reply, 1520⟩]⟩

theorem queue_lengthens : ¬ ∀ es s, (QueueRun.machine queueConfig).run
    (QueueRun.machine queueConfig).init es = some s → s.Served queueConfig := by
  intro hAll
  have hServed := hAll [.enque dataPkt 9 none, .deque 11] lengthened (by decide +kernel)
  obtain ⟨gone, inside, hEntered, hLeft, -⟩ := hServed.order false
  have hMem : ⟨0, true, .reply, 1520⟩ ∈ gone.map Prod.snd := hLeft ▸ by decide
  obtain ⟨a, hGone, hSize⟩ := List.mem_map.mp hMem
  have hArrival : a ∈ lengthened.enteredOf false := hEntered ▸ List.mem_append_left inside hGone
  obtain rfl : a = (9, dataPkt) := List.mem_singleton.mp hArrival
  exact absurd (congrArg QueuedPkt.size hSize) (by decide)

end Dpdq.Ns2
