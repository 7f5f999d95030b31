import Mathlib.Algebra.BigOperators.Group.Finset.Piecewise
import Mathlib.Algebra.Order.BigOperators.Group.Finset
import Mathlib.Data.Rat.Defs
import Mathlib.Tactic.Linarith
import Dpdq.Lib.Machine
import Dpdq.Lib.Rotation
import Dpdq.Ns3.Word

/-!
# The egress queue of a switch port

`BEgressQueue` of `broadcom-egress-queue.cc`: a queue of highest priority and a round robin over the
others, on top of one `DropTailQueue` for each, with counters of bytes of its own. The trace sources,
the statistics of `Queue` and the times that flows are paused are left out. The limit of bytes is a
double, here a rational.

* `BeqRun.Sound.roundRobin`: no queue is served twice while another one waits.
* `beq_scheduler`: the counters are exact and no packet is lost exactly if the inner queues take what
  is accepted and no counter wraps around; then packets with bytes are served whenever they may be.
-/

namespace Dpdq.Ns3

open Function
open Dpdq.Lib

/-! ## `DropTailQueue` -/

inductive QueueMode where
  | bytes
  | packets
deriving DecidableEq, Repr

structure DropTailConfig where
  mode : QueueMode := .bytes
  maxPackets : Nat := 100
  maxBytes : Nat := 30000 * 65535

structure DropTailQueue (α : Type) where
  packets : List α := []
  bytesInQueue : Nat := 0
  /-- `m_nPackets` of `Queue`. -/
  nPackets : Nat := 0

/-- The attributes, and the size of a packet. -/
structure BEgressConfig (α : Type) where
  size : α → UInt32
  maxBytes : ℚ := 1000 * 1024 * 1024
  inner : DropTailConfig := {}

variable {α : Type} (cfg : BEgressConfig α)

namespace DropTailQueue

def doEnqueue (d : DropTailQueue α) (p : α) : Bool × DropTailQueue α :=
  if cfg.inner.mode = .packets ∧ d.packets.length ≥ cfg.inner.maxPackets then (false, d)
  else if cfg.inner.mode = .bytes ∧
      addU32 d.bytesInQueue (cfg.size p).toNat ≥ cfg.inner.maxBytes then (false, d)
  else (true, { d with
    packets := d.packets ++ [p]
    bytesInQueue := addU32 d.bytesInQueue (cfg.size p).toNat })

/-- `Queue::Enqueue`. -/
def enqueue (d : DropTailQueue α) (p : α) : Bool × DropTailQueue α :=
  let (retval, d) := d.doEnqueue cfg p
  (retval, if retval then { d with nPackets := addU32 d.nPackets 1 } else d)

/-- `Queue::Dequeue`. -/
def dequeue (d : DropTailQueue α) : Option (α × DropTailQueue α) :=
  match d.packets with
  | [] => none
  | p :: packets => some (p, {
      packets := packets
      bytesInQueue := wrapSubU32 d.bytesInQueue (cfg.size p).toNat
      nPackets := wrapSubU32 d.nPackets 1 })

end DropTailQueue

/-! ## `BEgressQueue` -/

structure BEgressQueue (α : Type) where
  queues : Nat → DropTailQueue α := fun _ => {}
  bytesInQueue : Nat → Nat := fun _ => 0
  bytesInQueueTotal : Nat := 0
  rrlast : Nat := 0
  qlast : Nat := 0

namespace BEgressQueue

def fCnt : Nat := 128

def qCnt : Nat := 8

/-- `Enqueue`; the answer of the inner queue is not looked at. -/
def enqueue (b : BEgressQueue α) (p : α) (qIndex : Nat) : Bool × BEgressQueue α :=
  if (addU32 b.bytesInQueueTotal (cfg.size p).toNat : ℚ) < cfg.maxBytes then
    (true, { b with
      queues := update b.queues qIndex ((b.queues qIndex).enqueue cfg p).2
      bytesInQueueTotal := addU32 b.bytesInQueueTotal (cfg.size p).toNat
      bytesInQueue := update b.bytesInQueue qIndex
        (addU32 (b.bytesInQueue qIndex) (cfg.size p).toNat) })
  else (false, b)

/-- The queue that `DoDequeueRR` chooses. -/
def choose (b : BEgressQueue α) (paused : Nat → Bool) : Option Nat :=
  if b.bytesInQueueTotal = 0 then none
  else if (b.queues 0).nPackets > 0 then some 0
  else (rotation qCnt b.rrlast).find? fun i => !paused i && (b.queues i).nPackets > 0

/-- `DequeueRR`: the packet, its queue and the state behind it. -/
def dequeueRR (b : BEgressQueue α) (paused : Nat → Bool) : Option (α × Nat × BEgressQueue α) := do
  let qIndex ← b.choose paused
  let (p, d) ← (b.queues qIndex).dequeue cfg
  return (p, qIndex, {
    queues := update b.queues qIndex d
    bytesInQueueTotal := wrapSubU32 b.bytesInQueueTotal (cfg.size p).toNat
    bytesInQueue := update b.bytesInQueue qIndex
      (wrapSubU32 (b.bytesInQueue qIndex) (cfg.size p).toNat)
    rrlast := if qIndex ≠ 0 then qIndex else b.rrlast
    qlast := qIndex })

end BEgressQueue

/-! ## Runs -/

def packetBytes (packets : List α) : Nat := (packets.map fun p => (cfg.size p).toNat).sum

/-- The queue, with the packets that were accepted for each of its queues and that were served. -/
structure BeqRun (α : Type) where
  beq : BEgressQueue α := {}
  accepted : Nat → List α := fun _ => []
  served : Nat → List α := fun _ => []

inductive BeqEvent (α : Type) where
  | enqueue (p : α) (qIndex : Nat)
  | dequeueRR (paused : Nat → Bool)

namespace BeqRun

def enqueue (s : BeqRun α) (p : α) (qIndex : Nat) : BeqRun α :=
  let (retval, beq) := s.beq.enqueue cfg p qIndex
  { s with
    beq
    accepted := if retval then update s.accepted qIndex (s.accepted qIndex ++ [p])
      else s.accepted }

def dequeueRR (s : BeqRun α) (paused : Nat → Bool) : BeqRun α :=
  match s.beq.dequeueRR cfg paused with
  | none => s
  | some (p, qIndex, beq) =>
    { s with beq, served := update s.served qIndex (s.served qIndex ++ [p]) }

def step (s : BeqRun α) : BeqEvent α → Option (BeqRun α)
  | .enqueue p qIndex => if qIndex < BEgressQueue.qCnt then some (s.enqueue cfg p qIndex) else none
  | .dequeueRR paused => some (s.dequeueRR cfg paused)

/-- The packets that a queue holds. -/
def held (s : BeqRun α) (i : Nat) : List α := (s.beq.queues i).packets

def heldBytes (s : BeqRun α) (i : Nat) : Nat := packetBytes cfg (s.held i)

/-- The counters are exact and no accepted packet is lost, duplicated or overtaken in its queue. -/
structure Exact (s : BeqRun α) : Prop where
  total : s.beq.bytesInQueueTotal = ∑ i ∈ Finset.range BEgressQueue.fCnt, s.beq.bytesInQueue i
  bytes : ∀ i, s.beq.bytesInQueue i = s.heldBytes cfg i
  fifo : ∀ i, s.accepted i = s.served i ++ s.held i

/-- Queue 0 has a packet, or a queue that is not paused has. -/
def MaySend (s : BeqRun α) (paused : Nat → Bool) : Prop :=
  s.held 0 ≠ [] ∨ ∃ i < BEgressQueue.qCnt, paused i = false ∧ s.held i ≠ []

/-- What is accepted is taken by the inner queue and fits the counter of all bytes. -/
def Fits (s : BeqRun α) : BeqEvent α → Prop
  | .enqueue p qIndex => (s.beq.enqueue cfg p qIndex).1 = true →
      ((s.beq.queues qIndex).enqueue cfg p).1 = true ∧
        s.beq.bytesInQueueTotal + (cfg.size p).toNat < 2 ^ 32
  | .dequeueRR _ => True

/-- What is accepted has bytes. -/
def HasBytes (s : BeqRun α) : BeqEvent α → Prop
  | .enqueue p qIndex => (s.beq.enqueue cfg p qIndex).1 = true → 0 < (cfg.size p).toNat
  | .dequeueRR _ => True

instance decidableFits (s : BeqRun α) (e : BeqEvent α) : Decidable (s.Fits cfg e) :=
  match e with
  | .enqueue _ _ => inferInstanceAs (Decidable (_ → _ ∧ _))
  | .dequeueRR _ => isTrue trivial

instance decidableHasBytes (s : BeqRun α) (e : BeqEvent α) : Decidable (s.HasBytes cfg e) :=
  match e with
  | .enqueue _ _ => inferInstanceAs (Decidable (_ → _))
  | .dequeueRR _ => isTrue trivial

/-- A queue waits, not paused, at every call. -/
def Waits (j : Nat) (s : BeqRun α) : BeqEvent α → Prop
  | .enqueue _ _ => True
  | .dequeueRR paused => s.held j ≠ [] ∧ paused j = false

end BeqRun

def beqMachine : Machine (BeqRun α) (BeqEvent α) where
  init := {}
  step := BeqRun.step cfg

/-- From a state on: between two packets of a queue other than 0, every other such queue that waits
at all calls has its turn. -/
def BeqRun.RoundRobin (s : BeqRun α) : Prop :=
  ∀ ⦃i j : Nat⦄, 1 ≤ i → 1 ≤ j → j < BEgressQueue.qCnt → i ≠ j →
  ∀ ⦃paused paused' : Nat → Bool⦄ ⦃fs : List (BeqEvent α)⦄ ⦃t u : BeqRun α⦄,
    s.dequeueRR cfg paused = t → t.served i ≠ s.served i →
    (beqMachine cfg).run t fs = some u → (beqMachine cfg).Guarded (BeqRun.Fits cfg) t fs →
    (beqMachine cfg).Guarded (BeqRun.HasBytes cfg) t fs →
    (beqMachine cfg).Guarded (BeqRun.Waits j) t fs → u.Waits j (.dequeueRR paused') →
    (u.dequeueRR cfg paused').served i ≠ u.served i → u.served j ≠ t.served j

/-! ## What the operations do -/

namespace BeqRun

variable {cfg}

/-- The counters of an inner queue, as numbers of 32 bits. -/
structure Counted (cfg : BEgressConfig α) (d : DropTailQueue α) : Prop where
  bytes : d.bytesInQueue = packetBytes cfg d.packets % 2 ^ 32
  count : d.nPackets = d.packets.length % 2 ^ 32

theorem addU32_mod (a b : Nat) : addU32 (a % 2 ^ 32) b = (a + b) % 2 ^ 32 := by
  unfold addU32
  rw [Nat.mod_add_mod]

theorem wrapSubU32_add_mod (a b : Nat) : wrapSubU32 ((b + a) % 2 ^ 32) b = a % 2 ^ 32 := by
  unfold wrapSubU32
  omega

theorem wrapSubU32_of_le {a b : Nat} (hLe : b ≤ a) (ha : a < 2 ^ 32) : wrapSubU32 a b = a - b := by
  unfold wrapSubU32
  omega

theorem packetBytes_append (packets : List α) (p : α) :
    packetBytes cfg (packets ++ [p]) = packetBytes cfg packets + (cfg.size p).toNat := by
  simp [packetBytes]

theorem packetBytes_cons (p : α) (packets : List α) :
    packetBytes cfg (p :: packets) = (cfg.size p).toNat + packetBytes cfg packets := by
  simp [packetBytes]

/-- The inner queue takes the packet or stays as it is. -/
theorem innerEnqueue_cases (d : DropTailQueue α) (p : α) :
    d.enqueue cfg p = (false, d) ∨
      d.enqueue cfg p = (true, {
        packets := d.packets ++ [p]
        bytesInQueue := addU32 d.bytesInQueue (cfg.size p).toNat
        nPackets := addU32 d.nPackets 1 }) := by
  have hCases : d.doEnqueue cfg p = (false, d) ∨ d.doEnqueue cfg p = (true, { d with
      packets := d.packets ++ [p]
      bytesInQueue := addU32 d.bytesInQueue (cfg.size p).toNat }) := by
    unfold DropTailQueue.doEnqueue
    split
    · exact Or.inl rfl
    · split
      · exact Or.inl rfl
      · exact Or.inr rfl
  unfold DropTailQueue.enqueue
  rcases hCases with hFull | hTaken
  · rw [hFull]
    exact Or.inl rfl
  · rw [hTaken]
    exact Or.inr rfl

theorem Counted.enqueue {d : DropTailQueue α} (h : Counted cfg d) (p : α) :
    Counted cfg (d.enqueue cfg p).2 := by
  rcases @innerEnqueue_cases α cfg d p with hFull | hTaken
  · rw [hFull]
    exact h
  · rw [hTaken]
    refine ⟨?_, ?_⟩
    · dsimp only
      rw [h.bytes, addU32_mod, packetBytes_append]
    · dsimp only
      rw [h.count, addU32_mod, List.length_append, List.length_singleton]

/-- The packet at the front leaves. -/
theorem Counted.dequeue {d d' : DropTailQueue α} {p : α} (h : Counted cfg d)
    (hDequeue : d.dequeue cfg = some (p, d')) :
    d.packets = p :: d'.packets ∧ Counted cfg d' := by
  unfold DropTailQueue.dequeue at hDequeue
  split at hDequeue
  · cases hDequeue
  · rename_i first rest hPackets
    obtain ⟨rfl, rfl⟩ := Prod.mk.inj (Option.some.inj hDequeue)
    refine ⟨hPackets, ?_, ?_⟩
    · dsimp only
      rw [h.bytes, hPackets, packetBytes_cons, wrapSubU32_add_mod]
    · dsimp only
      rw [h.count, hPackets, List.length_cons, Nat.add_comm, wrapSubU32_add_mod]

/-- The facts that no operation can falsify. -/
structure Consistent (cfg : BEgressConfig α) (s : BeqRun α) : Prop where
  inner : ∀ i, Counted cfg (s.beq.queues i)
  beyond : ∀ i, BEgressQueue.qCnt ≤ i → s.held i = []
  total : s.beq.bytesInQueueTotal < 2 ^ 32
  rrlast : s.beq.rrlast < BEgressQueue.qCnt

theorem consistent_init : Consistent cfg ({} : BeqRun α) where
  inner _ := ⟨rfl, rfl⟩
  beyond _ _ := rfl
  total := Nat.two_pow_pos 32
  rrlast := Nat.succ_pos 7

section Enqueue

variable {s : BeqRun α} {p : α} {qIndex : Nat}

theorem enqueue_rejected (h : (s.beq.enqueue cfg p qIndex).1 = false) :
    s.enqueue cfg p qIndex = s := by
  unfold BEgressQueue.enqueue at h
  split at h
  · cases h
  · rename_i hFull
    unfold BeqRun.enqueue BEgressQueue.enqueue
    rw [if_neg hFull]
    rfl

/-- What the queue counts and the inner queues hold behind an accepted packet. -/
theorem enqueue_accepted (h : (s.beq.enqueue cfg p qIndex).1 = true) :
    s.enqueue cfg p qIndex = {
      beq := { s.beq with
        queues := update s.beq.queues qIndex ((s.beq.queues qIndex).enqueue cfg p).2
        bytesInQueueTotal := addU32 s.beq.bytesInQueueTotal (cfg.size p).toNat
        bytesInQueue := update s.beq.bytesInQueue qIndex
          (addU32 (s.beq.bytesInQueue qIndex) (cfg.size p).toNat) }
      accepted := update s.accepted qIndex (s.accepted qIndex ++ [p])
      served := s.served } := by
  unfold BEgressQueue.enqueue at h
  split at h
  · rename_i hRoom
    unfold BeqRun.enqueue BEgressQueue.enqueue
    rw [if_pos hRoom]
    rfl
  · cases h

theorem Consistent.enqueue (hs : s.Consistent cfg) (hIndex : qIndex < BEgressQueue.qCnt) :
    (s.enqueue cfg p qIndex).Consistent cfg := by
  cases hAccept : (s.beq.enqueue cfg p qIndex).1 with
  | false =>
    rw [enqueue_rejected hAccept]
    exact hs
  | true =>
    rw [enqueue_accepted hAccept]
    refine ⟨?_, ?_, Nat.mod_lt _ (Nat.two_pow_pos 32), hs.rrlast⟩
    · intro i
      dsimp only
      by_cases hi : i = qIndex
      · subst hi
        rw [update_self]
        exact (hs.inner i).enqueue p
      · rw [update_of_ne hi]
        exact hs.inner i
    · intro i hi
      have hNe : i ≠ qIndex := by omega
      unfold held
      dsimp only
      rw [update_of_ne hNe]
      exact hs.beyond i hi

end Enqueue

section Dequeue

variable {s : BeqRun α} {paused : Nat → Bool}

/-- A call serves the first packet of the queue that it chooses, or changes nothing. -/
theorem dequeueRR_cases (hs : s.Consistent cfg) (paused : Nat → Bool) :
    (s.beq.dequeueRR cfg paused = none ∧ s.dequeueRR cfg paused = s) ∨
      ∃ p qIndex d, s.beq.choose paused = some qIndex ∧ s.held qIndex = p :: d.packets ∧
        Counted cfg d ∧ (s.beq.dequeueRR cfg paused).isSome ∧
        s.dequeueRR cfg paused = {
          beq := {
            queues := update s.beq.queues qIndex d
            bytesInQueueTotal := wrapSubU32 s.beq.bytesInQueueTotal (cfg.size p).toNat
            bytesInQueue := update s.beq.bytesInQueue qIndex
              (wrapSubU32 (s.beq.bytesInQueue qIndex) (cfg.size p).toNat)
            rrlast := if qIndex ≠ 0 then qIndex else s.beq.rrlast
            qlast := qIndex }
          accepted := s.accepted
          served := update s.served qIndex (s.served qIndex ++ [p]) } := by
  cases hCall : s.beq.dequeueRR cfg paused with
  | none =>
    refine Or.inl ⟨rfl, ?_⟩
    unfold BeqRun.dequeueRR
    rw [hCall]
  | some r =>
    right
    have hServed := hCall
    unfold BEgressQueue.dequeueRR at hServed
    obtain ⟨qIndex, hChoose, hServed⟩ := Option.bind_eq_some_iff.mp hServed
    obtain ⟨⟨p, d⟩, hDequeue, hServed⟩ := Option.bind_eq_some_iff.mp hServed
    obtain ⟨hPackets, hCounted⟩ := (hs.inner qIndex).dequeue hDequeue
    refine ⟨p, qIndex, d, hChoose, hPackets, hCounted, rfl, ?_⟩
    unfold BeqRun.dequeueRR
    rw [hCall, ← Option.some.inj hServed]

theorem choose_cases {b : BEgressQueue α} {qIndex : Nat} (h : b.choose paused = some qIndex) :
    b.bytesInQueueTotal ≠ 0 ∧ ((qIndex = 0 ∧ (b.queues 0).nPackets > 0) ∨
      ((b.queues 0).nPackets = 0 ∧ (rotation BEgressQueue.qCnt b.rrlast).find?
        (fun i => !paused i && (b.queues i).nPackets > 0) = some qIndex)) := by
  unfold BEgressQueue.choose at h
  split at h
  · cases h
  · rename_i hSome
    refine ⟨hSome, ?_⟩
    split at h
    · rename_i hFirst
      exact Or.inl ⟨(Option.some.inj h).symm, hFirst⟩
    · rename_i hEmpty
      exact Or.inr ⟨by omega, h⟩

theorem choose_lt {b : BEgressQueue α} {qIndex : Nat} (h : b.choose paused = some qIndex) :
    qIndex < BEgressQueue.qCnt := by
  rcases (choose_cases h).2 with ⟨rfl, -⟩ | ⟨-, hFind⟩
  · exact Nat.succ_pos 7
  · exact mem_rotation.mp (List.mem_of_find?_eq_some hFind)

theorem Consistent.dequeueRR (hs : s.Consistent cfg) (paused : Nat → Bool) :
    (s.dequeueRR cfg paused).Consistent cfg := by
  rcases dequeueRR_cases hs paused with ⟨-, hSame⟩ | ⟨p, qIndex, d, hChoose, -, hCounted, -, hNext⟩
  · rw [hSame]
    exact hs
  · have hIndex := choose_lt hChoose
    rw [hNext]
    refine ⟨?_, ?_, Nat.mod_lt _ (Nat.two_pow_pos 32), ?_⟩
    · intro i
      dsimp only
      by_cases hi : i = qIndex
      · subst hi
        rw [update_self]
        exact hCounted
      · rw [update_of_ne hi]
        exact hs.inner i
    · intro i hi
      have hNe : i ≠ qIndex := by omega
      unfold held
      dsimp only
      rw [update_of_ne hNe]
      exact hs.beyond i hi
    · dsimp only
      split
      · exact hIndex
      · exact hs.rrlast

end Dequeue

theorem Consistent.step {s t : BeqRun α} {e : BeqEvent α} (hs : s.Consistent cfg)
    (h : s.step cfg e = some t) : t.Consistent cfg := by
  cases e with
  | enqueue p qIndex =>
    obtain ⟨hIndex, rfl⟩ := Machine.of_guarded h
    exact hs.enqueue hIndex
  | dequeueRR paused =>
    obtain rfl := Option.some.inj h
    exact hs.dequeueRR paused

/-! ## Exact counters -/

section Exact

variable {s : BeqRun α}

theorem Exact.total_eq (h : s.Exact cfg) :
    s.beq.bytesInQueueTotal = ∑ i ∈ Finset.range BEgressQueue.fCnt, s.heldBytes cfg i := by
  rw [h.total]
  exact Finset.sum_congr rfl fun i _ => h.bytes i

theorem Exact.heldBytes_le (h : s.Exact cfg) {i : Nat} (hi : i < BEgressQueue.fCnt) :
    s.heldBytes cfg i ≤ s.beq.bytesInQueueTotal := by
  rw [h.total_eq]
  exact Finset.single_le_sum (f := fun j => s.heldBytes cfg j) (fun _ _ => Nat.zero_le _)
    (Finset.mem_range.mpr hi)

/-- One counter changes, and the sum with it. -/
theorem sum_update (f : Nat → Nat) {i : Nat} (hi : i < BEgressQueue.fCnt) (v : Nat) :
    ∑ j ∈ Finset.range BEgressQueue.fCnt, update f i v j + f i =
      ∑ j ∈ Finset.range BEgressQueue.fCnt, f j + v := by
  have hMem := Finset.mem_range.mpr hi
  rw [Finset.sum_update_of_mem hMem, ← Finset.add_sum_erase _ f hMem, Finset.sdiff_singleton_eq_erase]
  omega

theorem heldBytes_update {t : BeqRun α} {i : Nat} {packets : List α}
    (hHeld : t.held = update s.held i packets) :
    (fun j => t.heldBytes cfg j) =
      update (fun j => s.heldBytes cfg j) i (packetBytes cfg packets) := by
  funext j
  unfold heldBytes
  rw [hHeld]
  by_cases hj : j = i
  · rw [hj, update_self, update_self]
  · rw [update_of_ne hj, update_of_ne hj]

section Enqueue

variable {p : α} {qIndex : Nat}

theorem held_taken (hAccept : (s.beq.enqueue cfg p qIndex).1 = true)
    (hTaken : ((s.beq.queues qIndex).enqueue cfg p).1 = true) :
    (s.enqueue cfg p qIndex).held = update s.held qIndex (s.held qIndex ++ [p]) := by
  rw [enqueue_accepted hAccept]
  rcases @innerEnqueue_cases α cfg (s.beq.queues qIndex) p with hFull | hInner
  · rw [hFull] at hTaken
    cases hTaken
  · funext i
    unfold held
    rw [hInner]
    dsimp only
    by_cases hi : i = qIndex
    · rw [hi, update_self, update_self]
    · rw [update_of_ne hi, update_of_ne hi]

theorem held_refused (hAccept : (s.beq.enqueue cfg p qIndex).1 = true)
    (hRefused : ((s.beq.queues qIndex).enqueue cfg p).1 = false) :
    (s.enqueue cfg p qIndex).held = s.held := by
  rw [enqueue_accepted hAccept]
  rcases @innerEnqueue_cases α cfg (s.beq.queues qIndex) p with hFull | hInner
  · funext i
    unfold held
    rw [hFull]
    dsimp only
    rw [update_eq_self]
  · rw [hInner] at hRefused
    cases hRefused

/-- A packet that the inner queue takes adds its bytes. -/
theorem sum_heldBytes_taken (hBound : qIndex < BEgressQueue.fCnt)
    (hAccept : (s.beq.enqueue cfg p qIndex).1 = true)
    (hTaken : ((s.beq.queues qIndex).enqueue cfg p).1 = true) :
    ∑ i ∈ Finset.range BEgressQueue.fCnt, (s.enqueue cfg p qIndex).heldBytes cfg i =
      ∑ i ∈ Finset.range BEgressQueue.fCnt, s.heldBytes cfg i + (cfg.size p).toNat := by
  have hHeld := congrArg (fun f : Nat → Nat => ∑ i ∈ Finset.range BEgressQueue.fCnt, f i)
    (@heldBytes_update α cfg _ _ _ _ (held_taken hAccept hTaken))
  have hSum := sum_update (fun i => s.heldBytes cfg i) hBound
    (packetBytes cfg (s.held qIndex ++ [p]))
  have hOwn : packetBytes cfg (s.held qIndex) = s.heldBytes cfg qIndex := rfl
  rw [packetBytes_append] at hSum hHeld
  omega

theorem exact_of_fits (hExact : s.Exact cfg) (hBound : qIndex < BEgressQueue.fCnt)
    (hAccept : (s.beq.enqueue cfg p qIndex).1 = true)
    (hTaken : ((s.beq.queues qIndex).enqueue cfg p).1 = true)
    (hRoom : s.beq.bytesInQueueTotal + (cfg.size p).toNat < 2 ^ 32) :
    (s.enqueue cfg p qIndex).Exact cfg := by
  have hHeld := held_taken hAccept hTaken
  have hOwn := hExact.heldBytes_le hBound
  have hBytes := hExact.bytes qIndex
  have hCount : addU32 (s.beq.bytesInQueue qIndex) (cfg.size p).toNat =
      s.beq.bytesInQueue qIndex + (cfg.size p).toNat := addU32_of_lt (by omega)
  have hNext := enqueue_accepted hAccept
  refine ⟨?_, ?_, ?_⟩
  · have hSum := sum_update s.beq.bytesInQueue hBound
      (s.beq.bytesInQueue qIndex + (cfg.size p).toNat)
    rw [hNext]
    dsimp only
    rw [hCount, addU32_of_lt hRoom, hExact.total]
    omega
  · intro i
    have hAfter := congrFun (@heldBytes_update α cfg _ _ _ _ hHeld) i
    rw [hAfter, hNext]
    dsimp only
    by_cases hi : i = qIndex
    · rw [hi, update_self, update_self, hCount, packetBytes_append, hBytes]
      rfl
    · rw [update_of_ne hi, update_of_ne hi]
      exact hExact.bytes i
  · intro i
    rw [hHeld, hNext]
    dsimp only
    by_cases hi : i = qIndex
    · rw [hi, update_self, update_self, hExact.fifo, List.append_assoc]
    · rw [update_of_ne hi, update_of_ne hi]
      exact hExact.fifo i

/-- A packet that the queue accepts falsifies its counters unless it fits. -/
theorem exact_enqueue_iff (hExact : s.Exact cfg) (hIndex : qIndex < BEgressQueue.qCnt) :
    (s.enqueue cfg p qIndex).Exact cfg ↔ s.Fits cfg (.enqueue p qIndex) := by
  have hBound : qIndex < BEgressQueue.fCnt := hIndex.trans (by decide)
  cases hAccept : (s.beq.enqueue cfg p qIndex).1 with
  | false =>
    rw [enqueue_rejected hAccept]
    refine iff_of_true hExact fun hTrue => ?_
    rw [hAccept] at hTrue
    cases hTrue
  | true =>
    constructor
    · intro hAfter _
      have hNext := enqueue_accepted hAccept
      have hTaken : ((s.beq.queues qIndex).enqueue cfg p).1 = true := by
        by_contra hRefused
        -- the packet is accepted and not held
        have hFifo := hAfter.fifo qIndex
        rw [held_refused hAccept (Bool.eq_false_iff.mpr hRefused), hNext] at hFifo
        dsimp only at hFifo
        rw [update_self, ← hExact.fifo qIndex] at hFifo
        have hLength := congrArg List.length hFifo
        simp at hLength
      refine ⟨hTaken, ?_⟩
      have hTotal := hExact.total_eq
      have hTotalAfter := hAfter.total_eq
      have hWrapped : (s.enqueue cfg p qIndex).beq.bytesInQueueTotal < 2 ^ 32 := by
        rw [hNext]
        exact Nat.mod_lt _ (Nat.two_pow_pos 32)
      rw [sum_heldBytes_taken hBound hAccept hTaken] at hTotalAfter
      omega
    · intro hFits
      obtain ⟨hTaken, hRoom⟩ := hFits hAccept
      exact exact_of_fits hExact hBound hAccept hTaken hRoom

end Enqueue

theorem Exact.dequeueRR (hExact : s.Exact cfg) (hs : s.Consistent cfg) (paused : Nat → Bool) :
    (s.dequeueRR cfg paused).Exact cfg := by
  rcases dequeueRR_cases hs paused with
    ⟨-, hSame⟩ | ⟨p, qIndex, d, hChoose, hHeld, -, -, hNext⟩
  · rw [hSame]
    exact hExact
  · have hBound : qIndex < BEgressQueue.fCnt := (choose_lt hChoose).trans (by decide)
    have hOwn := hExact.heldBytes_le hBound
    have hBytes := hExact.bytes qIndex
    have hSplit : s.heldBytes cfg qIndex = (cfg.size p).toNat + packetBytes cfg d.packets := by
      unfold heldBytes
      rw [hHeld, packetBytes_cons]
    have hTotal := hs.total
    have hCount : wrapSubU32 (s.beq.bytesInQueue qIndex) (cfg.size p).toNat =
        packetBytes cfg d.packets := by
      rw [wrapSubU32_of_le (by omega) (by omega)]
      omega
    have hHeldAfter : (s.dequeueRR cfg paused).held = update s.held qIndex d.packets := by
      rw [hNext]
      funext i
      unfold held
      dsimp only
      by_cases hi : i = qIndex
      · rw [hi, update_self, update_self]
      · rw [update_of_ne hi, update_of_ne hi]
    refine ⟨?_, ?_, ?_⟩
    · have hSum := sum_update s.beq.bytesInQueue hBound (packetBytes cfg d.packets)
      rw [hNext]
      dsimp only
      rw [hCount, wrapSubU32_of_le (by omega) hTotal]
      have hSumAll := hExact.total
      omega
    · intro i
      have hAfter := congrFun (@heldBytes_update α cfg _ _ _ _ hHeldAfter) i
      rw [hAfter, hNext]
      dsimp only
      by_cases hi : i = qIndex
      · rw [hi, update_self, update_self, hCount]
      · rw [update_of_ne hi, update_of_ne hi]
        exact hExact.bytes i
    · intro i
      rw [hHeldAfter, hNext]
      dsimp only
      by_cases hi : i = qIndex
      · rw [hi, update_self, update_self, hExact.fifo, hHeld]
        simp
      · rw [update_of_ne hi, update_of_ne hi]
        exact hExact.fifo i

end Exact

/-! ## Packets with bytes -/

/-- Exact counters of packets that all have bytes. -/
structure Sound (cfg : BEgressConfig α) (s : BeqRun α) : Prop where
  consistent : s.Consistent cfg
  counters : s.Exact cfg
  positive : ∀ i, ∀ p ∈ s.held i, 0 < (cfg.size p).toNat

theorem length_le_packetBytes {packets : List α} (h : ∀ p ∈ packets, 0 < (cfg.size p).toNat) :
    packets.length ≤ packetBytes cfg packets := by
  induction packets with
  | nil => exact Nat.le_refl 0
  | cons p packets ih =>
    have hHead := h p List.mem_cons_self
    have hTail := ih fun q hq => h q (List.mem_cons_of_mem p hq)
    rw [packetBytes_cons, List.length_cons]
    omega

section Sound

variable {s : BeqRun α} {paused : Nat → Bool}

theorem Sound.length_le (hs : s.Sound cfg) (i : Nat) :
    (s.held i).length ≤ s.beq.bytesInQueueTotal := by
  have hLength := length_le_packetBytes (hs.positive i)
  rcases Nat.lt_or_ge i BEgressQueue.qCnt with hi | hi
  · have hBytes := hs.counters.heldBytes_le (hi.trans (by decide) : i < BEgressQueue.fCnt)
    unfold heldBytes at hBytes
    omega
  · rw [hs.consistent.beyond i hi]
    exact Nat.zero_le _

/-- `GetNPackets` tells whether a queue holds packets. -/
theorem Sound.nPackets_pos_iff (hs : s.Sound cfg) (i : Nat) :
    0 < (s.beq.queues i).nPackets ↔ s.held i ≠ [] := by
  have hLength := hs.length_le i
  have hTotal := hs.consistent.total
  rw [(hs.consistent.inner i).count, ← List.length_pos_iff]
  unfold held at *
  rw [Nat.mod_eq_of_lt (by omega)]

theorem Sound.total_ne_zero (hs : s.Sound cfg) {i : Nat} (hi : s.held i ≠ []) :
    s.beq.bytesInQueueTotal ≠ 0 := by
  have hLength := hs.length_le i
  have hPos := List.length_pos_iff.mpr hi
  omega

/-- The chosen queue holds a packet. -/
theorem Sound.held_of_choose (hs : s.Sound cfg) {i : Nat} (h : s.beq.choose paused = some i) :
    s.held i ≠ [] := by
  rw [← hs.nPackets_pos_iff]
  rcases (choose_cases h).2 with ⟨rfl, hFirst⟩ | ⟨-, hFind⟩
  · exact hFirst
  · have hChosen := List.find?_some hFind
    simp only [Bool.and_eq_true, decide_eq_true_eq] at hChosen
    exact hChosen.2

theorem Sound.choose_isSome_iff (hs : s.Sound cfg) (paused : Nat → Bool) :
    (s.beq.choose paused).isSome ↔ s.MaySend paused := by
  constructor
  · intro hSome
    obtain ⟨i, hChoose⟩ := Option.isSome_iff_exists.mp hSome
    have hHeld := hs.held_of_choose hChoose
    rcases (choose_cases hChoose).2 with ⟨rfl, -⟩ | ⟨-, hFind⟩
    · exact Or.inl hHeld
    · have hChosen := List.find?_some hFind
      simp only [Bool.and_eq_true, Bool.not_eq_true'] at hChosen
      exact Or.inr ⟨i, choose_lt hChoose, hChosen.1, hHeld⟩
  · intro hSend
    have hTotal : s.beq.bytesInQueueTotal ≠ 0 := by
      rcases hSend with hFirst | ⟨i, -, -, hHeld⟩
      · exact hs.total_ne_zero hFirst
      · exact hs.total_ne_zero hHeld
    unfold BEgressQueue.choose
    rw [if_neg hTotal]
    split
    · rfl
    · rename_i hEmpty
      rcases hSend with hFirst | ⟨i, hi, hFree, hHeld⟩
      · exact absurd ((hs.nPackets_pos_iff 0).mpr hFirst) hEmpty
      · rw [List.find?_isSome]
        have hPackets := (hs.nPackets_pos_iff i).mpr hHeld
        exact ⟨i, mem_rotation.mpr hi, by simp [hFree, hPackets]⟩

/-- A call returns a packet exactly if one may be sent. -/
theorem Sound.dequeueRR_isSome_iff (hs : s.Sound cfg) (paused : Nat → Bool) :
    (s.beq.dequeueRR cfg paused).isSome ↔ s.MaySend paused := by
  rw [← hs.choose_isSome_iff]
  unfold BEgressQueue.dequeueRR
  cases hChoose : s.beq.choose paused with
  | none => rfl
  | some i =>
    have hHeld := hs.held_of_choose hChoose
    obtain ⟨p, rest, hPackets⟩ := List.exists_cons_of_ne_nil hHeld
    unfold held at hPackets
    simp [DropTailQueue.dequeue, hPackets]

theorem sound_init : Sound cfg ({} : BeqRun α) where
  consistent := consistent_init
  counters := ⟨(Finset.sum_const_zero).symm, fun _ => rfl, fun _ => rfl⟩
  positive _ _ hp := by cases hp

theorem Sound.enqueue (hs : s.Sound cfg) {p : α} {qIndex : Nat}
    (hIndex : qIndex < BEgressQueue.qCnt) (hFits : s.Fits cfg (.enqueue p qIndex))
    (hBytes : s.HasBytes cfg (.enqueue p qIndex)) : (s.enqueue cfg p qIndex).Sound cfg := by
  refine ⟨hs.consistent.enqueue hIndex, (exact_enqueue_iff hs.counters hIndex).mpr hFits, ?_⟩
  cases hAccept : (s.beq.enqueue cfg p qIndex).1 with
  | false =>
    rw [enqueue_rejected hAccept]
    exact hs.positive
  | true =>
    intro i q hq
    rw [held_taken hAccept (hFits hAccept).1] at hq
    by_cases hi : i = qIndex
    · rw [hi, update_self, List.mem_append, List.mem_singleton] at hq
      rcases hq with hOld | rfl
      · exact hs.positive qIndex q hOld
      · exact hBytes hAccept
    · rw [update_of_ne hi] at hq
      exact hs.positive i q hq

/-- What a queue holds behind a call it held before. -/
theorem mem_held_dequeueRR (hs : s.Consistent cfg) {i : Nat} {q : α}
    (hq : q ∈ (s.dequeueRR cfg paused).held i) : q ∈ s.held i := by
  rcases dequeueRR_cases hs paused with ⟨-, hSame⟩ | ⟨p, qIndex, d, -, hHeld, -, -, hNext⟩
  · rwa [hSame] at hq
  · rw [hNext] at hq
    unfold held at hq hHeld ⊢
    dsimp only at hq
    by_cases hi : i = qIndex
    · rw [hi, update_self] at hq
      rw [hi, hHeld]
      exact List.mem_cons_of_mem p hq
    · rwa [update_of_ne hi] at hq

theorem Sound.dequeueRR (hs : s.Sound cfg) (paused : Nat → Bool) :
    (s.dequeueRR cfg paused).Sound cfg where
  consistent := hs.consistent.dequeueRR paused
  counters := hs.counters.dequeueRR hs.consistent paused
  positive i q hq := hs.positive i q (mem_held_dequeueRR hs.consistent hq)

theorem Sound.step {t : BeqRun α} {e : BeqEvent α} (hs : s.Sound cfg) (hFits : s.Fits cfg e)
    (hBytes : s.HasBytes cfg e) (h : s.step cfg e = some t) : t.Sound cfg := by
  cases e with
  | enqueue p qIndex =>
    obtain ⟨hIndex, rfl⟩ := Machine.of_guarded h
    exact hs.enqueue hIndex hFits hBytes
  | dequeueRR paused =>
    obtain rfl := Option.some.inj h
    exact hs.dequeueRR paused

end Sound

/-! ## The round robin -/

section RoundRobin

variable {s : BeqRun α} {paused : Nat → Bool} {i j : Nat}

/-- A call serves the queue that it chooses, or changes nothing. -/
theorem dequeueRR_turn (hs : s.Consistent cfg) (paused : Nat → Bool) :
    s.dequeueRR cfg paused = s ∨ ∃ q p, s.beq.choose paused = some q ∧
      (s.dequeueRR cfg paused).served = update s.served q (s.served q ++ [p]) ∧
      (s.dequeueRR cfg paused).beq.rrlast = if q ≠ 0 then q else s.beq.rrlast := by
  rcases dequeueRR_cases hs paused with ⟨-, hSame⟩ | ⟨p, q, d, hChoose, -, -, -, hNext⟩
  · exact Or.inl hSame
  · exact Or.inr ⟨q, p, hChoose, by rw [hNext], by rw [hNext]⟩

theorem choose_of_served (hs : s.Consistent cfg)
    (hServed : (s.dequeueRR cfg paused).served i ≠ s.served i) :
    s.beq.choose paused = some i ∧
      (s.dequeueRR cfg paused).beq.rrlast = if i ≠ 0 then i else s.beq.rrlast := by
  rcases dequeueRR_turn hs paused with hSame | ⟨q, p, hChoose, hNext, hLast⟩
  · rw [hSame] at hServed
    exact absurd rfl hServed
  · have hTurn : i = q := by
      by_contra hOther
      rw [hNext, update_of_ne hOther] at hServed
      exact hServed rfl
    rw [hTurn]
    exact ⟨hChoose, hLast⟩

theorem served_cases (hs : s.Consistent cfg) (paused : Nat → Bool) (j : Nat) :
    (s.dequeueRR cfg paused).served j = s.served j ∨
      (s.served j).length < ((s.dequeueRR cfg paused).served j).length := by
  rcases dequeueRR_turn hs paused with hSame | ⟨q, p, -, hNext, -⟩
  · rw [hSame]
    exact Or.inl rfl
  · rw [hNext]
    by_cases hj : j = q
    · rw [hj, update_self, List.length_append, List.length_singleton]
      exact Or.inr (Nat.lt_succ_self _)
    · rw [update_of_ne hj]
      exact Or.inl rfl

/-- The next turn of `j` comes before that of `i`. -/
def Before (s : BeqRun α) (j i : Nat) : Prop :=
  ahead BEgressQueue.qCnt s.beq.rrlast j < ahead BEgressQueue.qCnt s.beq.rrlast i

/-- A call that does not serve the waiting queue `j` keeps it before `i`, and does not serve `i`. -/
theorem Before.choose_ne (hs : s.Sound cfg) (hBefore : s.Before j i) (hj : j < BEgressQueue.qCnt)
    (hPos : 1 ≤ i) (hWaits : s.Waits j (.dequeueRR paused)) : s.beq.choose paused ≠ some i := by
  intro hChoose
  rcases (choose_cases hChoose).2 with ⟨rfl, -⟩ | ⟨-, hFind⟩
  · omega
  · have hPackets := (hs.nPackets_pos_iff j).mpr hWaits.1
    have hNearest := ahead_le_of_find? hFind hj (by simp [hWaits.2, hPackets])
    unfold Before at hBefore
    omega

/-- Where a call serves another queue, `j` comes nearer by as much as `i` does. -/
theorem Before.dequeueRR (hs : s.Sound cfg) (hBefore : s.Before j i)
    (hi : i < BEgressQueue.qCnt) (hj : j < BEgressQueue.qCnt)
    (hWaits : s.Waits j (.dequeueRR paused))
    (hUnserved : (s.dequeueRR cfg paused).served j = s.served j) :
    (s.dequeueRR cfg paused).Before j i := by
  rcases dequeueRR_turn hs.consistent paused with hSame | ⟨q, p, hChoose, hNext, hLast⟩
  · rw [hSame]
    exact hBefore
  · have hq := choose_lt hChoose
    have hOther : q ≠ j := by
      rintro rfl
      rw [hNext, update_self] at hUnserved
      simp at hUnserved
    unfold Before at hBefore ⊢
    rw [hLast]
    rcases (choose_cases hChoose).2 with ⟨rfl, -⟩ | ⟨-, hFind⟩
    · rw [if_neg (by decide)]
      exact hBefore
    · split
      · have hPackets := (hs.nPackets_pos_iff j).mpr hWaits.1
        have hNearest := ahead_le_of_find? hFind hj (by simp [hWaits.2, hPackets])
        have hNe : ahead BEgressQueue.qCnt s.beq.rrlast q ≠ ahead BEgressQueue.qCnt s.beq.rrlast j :=
          fun hEq => hOther ((ahead_inj hq hj).mp hEq)
        have hNearerJ := @ahead_of_ahead_lt _ s.beq.rrlast _ _ hq hj (by omega)
        have hNearerI := @ahead_of_ahead_lt _ s.beq.rrlast _ _ hq hi (by omega)
        omega
      · exact hBefore

/-- Since the last packet of `i`, the queue `j` was served, or comes first. -/
def TurnKept (n i j : Nat) (s : BeqRun α) : Prop :=
  n < (s.served j).length ∨ ((s.served j).length = n ∧ s.Before j i)

theorem TurnKept.step {n : Nat} {t : BeqRun α} {e : BeqEvent α} (hs : s.Sound cfg)
    (hTurn : TurnKept n i j s) (hi : i < BEgressQueue.qCnt) (hj : j < BEgressQueue.qCnt)
    (hWaits : s.Waits j e) (h : s.step cfg e = some t) : TurnKept n i j t := by
  cases e with
  | enqueue p qIndex =>
    obtain ⟨-, rfl⟩ := Machine.of_guarded h
    cases hAccept : (s.beq.enqueue cfg p qIndex).1 with
    | false =>
      rw [enqueue_rejected hAccept]
      exact hTurn
    | true =>
      rw [enqueue_accepted hAccept]
      exact hTurn
  | dequeueRR paused =>
    obtain rfl := Option.some.inj h
    rcases hTurn with hServed | ⟨hSame, hBefore⟩
    · refine Or.inl ?_
      rcases served_cases hs.consistent paused j with hUnserved | hGrows
      · rwa [hUnserved]
      · exact hServed.trans hGrows
    · rcases served_cases hs.consistent paused j with hUnserved | hGrows
      · refine Or.inr ⟨by rw [hUnserved, hSame], ?_⟩
        exact hBefore.dequeueRR hs hi hj hWaits hUnserved
      · exact Or.inl (by omega)

/-- Between two packets of `i`, the waiting queue `j` has its turn. -/
theorem Sound.roundRobin (hs : s.Sound cfg) : s.RoundRobin cfg := by
  intro i j hi hj hIndex hNe paused paused' fs t u hFirst hServed hRun hFits hBytes hWaits hLast
    hAgain
  subst hFirst
  obtain ⟨hChoose, hStart⟩ := choose_of_served hs.consistent hServed
  have hBound := choose_lt hChoose
  rw [if_pos (by omega)] at hStart
  -- behind its own packet, `i` comes last
  have hBefore : (s.dequeueRR cfg paused).Before j i := by
    have hFar := @ahead_lt _ i _ hIndex
    have hOther : ahead BEgressQueue.qCnt i j ≠ ahead BEgressQueue.qCnt i i :=
      fun hEq => hNe ((ahead_inj hIndex hBound).mp hEq).symm
    have hSelf := ahead_self hBound
    unfold Before
    rw [hStart]
    omega
  have hKept : u.Sound cfg ∧ TurnKept ((s.dequeueRR cfg paused).served j).length i j u := by
    refine Machine.run_induction (M := beqMachine cfg)
      (I := fun v => v.Sound cfg ∧ TurnKept ((s.dequeueRR cfg paused).served j).length i j v) ?_
      ⟨hs.dequeueRR paused, Or.inr ⟨rfl, hBefore⟩⟩ ((hFits.and hBytes).and hWaits) hRun
    rintro v e w ⟨hv, hTurn⟩ ⟨⟨hFit, hByte⟩, hWait⟩ hStep
    exact ⟨hv.step hFit hByte hStep, hTurn.step hv hBound hIndex hWait hStep⟩
  obtain ⟨hu, hTurn⟩ := hKept
  rcases hTurn with hMore | ⟨-, hStill⟩
  · intro hEq
    rw [hEq] at hMore
    exact absurd hMore (Nat.lt_irrefl _)
  · exact absurd (choose_of_served hu.consistent hAgain).1
      (hStill.choose_ne hu hIndex hi hLast)

end RoundRobin

end BeqRun

section Scheduler

variable {cfg} {es : List (BeqEvent α)} {s : BeqRun α}

/-- The counters are exact in every state of a run, and no packet is lost, exactly if what the queue
accepts always fits. -/
theorem beq_exact_iff (hRun : (beqMachine cfg).run (beqMachine cfg).init es = some s) :
    (beqMachine cfg).Throughout (BeqRun.Exact cfg) (beqMachine cfg).init es ↔
      (beqMachine cfg).Guarded (BeqRun.Fits cfg) (beqMachine cfg).init es := by
  refine Machine.throughout_iff_guarded (C := fun _ _ => True) (J := BeqRun.Consistent cfg)
    (fun _ _ _ hs _ hStep => hs.step hStep) ?_ BeqRun.consistent_init BeqRun.sound_init.counters
    (Machine.guarded_true _ _ _) (by rw [hRun]; rfl)
  intro s e t hs hExact _ hStep
  cases e with
  | enqueue p qIndex =>
    obtain ⟨hIndex, rfl⟩ := Machine.of_guarded hStep
    exact BeqRun.exact_enqueue_iff hExact hIndex
  | dequeueRR paused =>
    obtain rfl := Option.some.inj hStep
    exact iff_of_true (hExact.dequeueRR hs paused) trivial

theorem beq_sound (hFits : (beqMachine cfg).Guarded (BeqRun.Fits cfg) (beqMachine cfg).init es)
    (hBytes : (beqMachine cfg).Guarded (BeqRun.HasBytes cfg) (beqMachine cfg).init es)
    (hRun : (beqMachine cfg).run (beqMachine cfg).init es = some s) : s.Sound cfg :=
  Machine.guarded_induction BeqRun.sound_init
    (fun _ _ _ hs hStep hNext => hs.step hStep.1 hStep.2 hNext) (hFits.and hBytes) hRun

/-- The counters are exact and no packet is lost exactly if what is accepted fits; where it also has
bytes, a call returns a packet whenever one may be sent, and the queues take turns. -/
theorem beq_scheduler (hRun : (beqMachine cfg).run (beqMachine cfg).init es = some s) :
    ((beqMachine cfg).Throughout (BeqRun.Exact cfg) (beqMachine cfg).init es ↔
      (beqMachine cfg).Guarded (BeqRun.Fits cfg) (beqMachine cfg).init es) ∧
    ((beqMachine cfg).Guarded (BeqRun.Fits cfg) (beqMachine cfg).init es →
      (beqMachine cfg).Guarded (BeqRun.HasBytes cfg) (beqMachine cfg).init es →
      (∀ paused, (s.beq.dequeueRR cfg paused).isSome ↔ s.MaySend paused) ∧ s.RoundRobin cfg) := by
  refine ⟨beq_exact_iff hRun, ?_⟩
  intro hFits hBytes
  have hs := beq_sound hFits hBytes hRun
  exact ⟨hs.dequeueRR_isSome_iff, hs.roundRobin⟩

end Scheduler

/-! ## Two limits -/

/-- Packets that are their sizes, and a limit of so many bytes. -/
def sizesConfig (maxBytes : ℚ) : BEgressConfig UInt32 := { size := id, maxBytes }

def threeQueues : List (BeqEvent UInt32) :=
  [.enqueue 1500 1, .enqueue 1500 2, .enqueue 64 0, .enqueue 1000 1, .dequeueRR fun _ => false,
    .dequeueRR fun _ => false, .dequeueRR fun i => i == 2]

theorem beq_scheduler_threeQueues :
    ∃ s, (beqMachine (sizesConfig 1048576000)).run {} threeQueues = some s ∧
      (beqMachine (sizesConfig 1048576000)).Throughout (BeqRun.Exact (sizesConfig 1048576000)) {}
        threeQueues ∧
      (∀ paused, (s.beq.dequeueRR (sizesConfig 1048576000) paused).isSome ↔ s.MaySend paused) ∧
      s.RoundRobin (sizesConfig 1048576000) := by
  have hEnd : ((beqMachine (sizesConfig 1048576000)).run {} threeQueues).isSome = true := by
    decide +kernel
  obtain ⟨s, hRun⟩ := Option.isSome_iff_exists.mp hEnd
  obtain ⟨hExact, hTurns⟩ := beq_scheduler hRun
  have hFits : (beqMachine (sizesConfig 1048576000)).Guarded
      (BeqRun.Fits (sizesConfig 1048576000)) {} threeQueues := by
    decide +kernel
  exact ⟨s, hRun, hExact.mpr hFits, hTurns hFits (by decide +kernel)⟩

/-- With a limit of 2 * 10^9 bytes: a packet that the inner queue drops is accepted and counted, and
there is nothing to serve. -/
theorem beq_accepts_dropped :
    ∃ s, (beqMachine (sizesConfig 2000000000)).run {} [.enqueue 1966050000 1] = some s ∧
      s.accepted 1 = [1966050000] ∧ s.beq.bytesInQueueTotal = 1966050000 ∧ s.held 1 = [] ∧
      (s.beq.dequeueRR (sizesConfig 2000000000) fun _ => false).isNone ∧
      ¬s.Exact (sizesConfig 2000000000) := by
  have hEnd : ((beqMachine (sizesConfig 2000000000)).run {} [.enqueue 1966050000 1]).map
      (fun s => (s.accepted 1, s.beq.bytesInQueueTotal, s.held 1, s.served 1,
        (s.beq.dequeueRR (sizesConfig 2000000000) fun _ => false).isNone)) =
      some ([1966050000], 1966050000, [], [], true) := by
    decide +kernel
  obtain ⟨s, hRun, hFacts⟩ := Option.map_eq_some_iff.mp hEnd
  simp only [Prod.mk.injEq] at hFacts
  obtain ⟨hAccepted, hTotal, hHeld, hServed, hNone⟩ := hFacts
  refine ⟨s, hRun, hAccepted, hTotal, hHeld, hNone, ?_⟩
  intro hExact
  have hFifo := hExact.fifo 1
  rw [hAccepted, hServed, hHeld] at hFifo
  cases hFifo

end Dpdq.Ns3
