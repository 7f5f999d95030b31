import Dpdq.Lib.Machine

/-!
# A replicated bit behind a FIFO channel

A primary keeps one bit for each key, all `false` at first. A write that changes a bit emits a
notification into a lossless FIFO channel; a delivery copies the oldest notification into the
replica. The state also records everything emitted and delivered so far.

* `Inv.replica_eq`: the replica holds the last bit delivered for each key.
* `Inv.alternates`: the notifications emitted for one key alternate, `true` first.
* `Inv.agree`: the two bits of a key are equal when no notification for it is in the channel.
-/

namespace Dpdq.Lib.ReplicaChannel

/-- The bits a log carries for one key, oldest first. -/
def historyOf {κ : Type} [DecidableEq κ] (k : κ) (log : List (κ × Bool)) : List Bool :=
  (log.filter fun n => n.1 = k).map Prod.snd

/-- The last bit a log carries for a key, `false` when there is none. -/
def lastOf {κ : Type} [DecidableEq κ] (k : κ) (log : List (κ × Bool)) : Bool :=
  (historyOf k log).getLastD false

/-- `true, false, true, …` -/
def Alternates (l : List Bool) : Prop := ∀ i (h : i < l.length), l[i] = decide (i % 2 = 0)

structure State (κ : Type) where
  primary : κ → Bool
  replica : κ → Bool
  inFlight : List (κ × Bool)
  emitted : List (κ × Bool)
  delivered : List (κ × Bool)

inductive Event (κ : Type)
  | write (k : κ) (b : Bool)
  | deliver

section

variable {κ : Type} [DecidableEq κ]

def write (s : State κ) (k : κ) (b : Bool) : State κ :=
  if s.primary k = b then s
  else { s with
    primary := fun j => if j = k then b else s.primary j
    inFlight := s.inFlight ++ [(k, b)]
    emitted := s.emitted ++ [(k, b)] }

def deliver (s : State κ) : Option (State κ) :=
  match s.inFlight with
  | [] => none
  | (k, b) :: rest => some { s with
      replica := fun j => if j = k then b else s.replica j
      inFlight := rest
      delivered := s.delivered ++ [(k, b)] }

variable (κ) in
def machine : Machine (State κ) (Event κ) where
  init := ⟨fun _ => false, fun _ => false, [], [], []⟩
  step s
    | .write k b => some (write s k b)
    | .deliver => deliver s

theorem deliver_of_cons {s : State κ} {k : κ} {b : Bool} {rest : List (κ × Bool)}
    (h : s.inFlight = (k, b) :: rest) :
    deliver s = some { s with
      replica := fun j => if j = k then b else s.replica j
      inFlight := rest
      delivered := s.delivered ++ [(k, b)] } := by
  simp [deliver, h]

/-! ## Histories -/

theorem historyOf_append (k : κ) (log log' : List (κ × Bool)) :
    historyOf k (log ++ log') = historyOf k log ++ historyOf k log' := by
  simp [historyOf]

@[simp] theorem historyOf_nil (k : κ) : historyOf k [] = [] := rfl

theorem historyOf_singleton (j k : κ) (b : Bool) :
    historyOf j [(k, b)] = if j = k then [b] else [] := by
  by_cases h : k = j
  · simp [historyOf, h]
  · simp [historyOf, h, Ne.symm h]

theorem lastOf_concat (j k : κ) (b : Bool) (log : List (κ × Bool)) :
    lastOf j (log ++ [(k, b)]) = if j = k then b else lastOf j log := by
  rw [lastOf, historyOf_append, historyOf_singleton]
  split <;> simp [lastOf]

theorem alternates_nil : Alternates [] := fun i h => absurd h (Nat.not_lt_zero i)

theorem alternates_concat {l : List Bool} {b : Bool} (hl : Alternates l)
    (hb : b = decide (l.length % 2 = 0)) : Alternates (l ++ [b]) := by
  intro i hi
  simp only [List.length_append, List.length_singleton] at hi
  rcases Nat.lt_or_ge i l.length with hlt | hge
  · rw [List.getElem_append_left hlt]
    exact hl i hlt
  · obtain rfl : i = l.length := by omega
    simpa using hb

theorem Alternates.getLastD {l : List Bool} (hl : Alternates l) :
    l.getLastD false = decide (l.length % 2 = 1) := by
  rcases List.eq_nil_or_concat l with rfl | ⟨front, b, rfl⟩
  · rfl
  · have hLast := hl front.length (by simp)
    simp only [List.concat_eq_append, List.getLastD_concat, List.length_append,
      List.length_singleton] at hLast ⊢
    simp only [List.getElem_concat_length] at hLast
    rw [hLast]
    exact decide_eq_decide.mpr (by omega)

/-! ## The invariant -/

structure Inv (s : State κ) : Prop where
  primary_eq : ∀ k, s.primary k = lastOf k s.emitted
  replica_eq : ∀ k, s.replica k = lastOf k s.delivered
  emitted_eq : s.emitted = s.delivered ++ s.inFlight
  alternates : ∀ k, Alternates (historyOf k s.emitted)

theorem inv_init : Inv (machine κ).init :=
  ⟨fun _ => rfl, fun _ => rfl, rfl, fun _ => alternates_nil⟩

theorem Inv.write {s : State κ} (h : Inv s) (k : κ) (b : Bool) : Inv (write s k b) := by
  unfold ReplicaChannel.write
  split
  · exact h
  · rename_i hNew
    refine ⟨fun j => ?_, h.replica_eq, ?_, fun j => ?_⟩
    · simp only [lastOf_concat, h.primary_eq j]
    · simp only [h.emitted_eq, List.append_assoc]
    · simp only [historyOf_append, historyOf_singleton]
      split
      · subst j
        have hLast : lastOf k s.emitted ≠ b := h.primary_eq k ▸ hNew
        rw [lastOf, (h.alternates k).getLastD] at hLast
        refine alternates_concat (h.alternates k) ?_
        generalize (historyOf k s.emitted).length = n at hLast ⊢
        rcases Nat.mod_two_eq_zero_or_one n with hn | hn <;> cases b <;> simp_all
      · simpa using h.alternates j

theorem Inv.deliver {s t : State κ} (h : Inv s) (hStep : deliver s = some t) : Inv t := by
  unfold ReplicaChannel.deliver at hStep
  split at hStep
  · cases hStep
  · rename_i k b rest hFlight
    cases hStep
    refine ⟨h.primary_eq, fun j => ?_, ?_, h.alternates⟩
    · simp only [lastOf_concat, h.replica_eq j]
    · rw [h.emitted_eq, hFlight]
      simp

theorem inv_of_reachable {s : State κ} (h : (machine κ).Reachable s) : Inv s := by
  refine Machine.reachable_induction inv_init ?_ h
  rintro s (⟨k, b⟩ | _) t hs hStep
  · cases hStep
    exact hs.write k b
  · exact hs.deliver hStep

/-- With nothing for `k` in the channel, everything emitted for `k` has been delivered. -/
theorem Inv.agree {s : State κ} (h : Inv s) {k : κ} (hIdle : ∀ n ∈ s.inFlight, n.1 ≠ k) :
    s.replica k = s.primary k := by
  have hNone : historyOf k s.inFlight = [] := by
    simpa [historyOf, List.filter_eq_nil_iff] using hIdle
  rw [h.primary_eq, h.replica_eq, lastOf, lastOf, h.emitted_eq, historyOf_append, hNone,
    List.append_nil]

end

end Dpdq.Lib.ReplicaChannel
