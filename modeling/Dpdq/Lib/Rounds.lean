import Mathlib.Data.List.Chain

/-!
# Once per round trip

A sender that reacts once per round trip notes the number it would send next when it reacts, and
reacts again when more than that is acknowledged.

* `OncePerRound last log`: the reactions of `log` kept to this with all that was noted before, and
  `last` is noted now. This takes a sender that never notes less than before.
* `Successive log`: they kept to it with what the reaction before them noted, which is all that can
  be said of a sender that may go back.
* `Successive.pairwise`: it is enough where no reaction was due to more than the next number.
-/

namespace Dpdq.Lib

/-- A reaction: what was acknowledged and which number was the next to be sent. -/
structure Reaction where
  acked : Nat
  next : Nat
deriving DecidableEq

structure OncePerRound (last : Nat) (log : List Reaction) : Prop where
  apart : log.Pairwise fun a b => a.next < b.acked
  noted : ∀ a ∈ log, a.next ≤ last

namespace OncePerRound

variable {last next : Nat} {log : List Reaction}

theorem nil (last : Nat) : OncePerRound last [] where
  apart := List.Pairwise.nil
  noted _ hIn := absurd hIn List.not_mem_nil

theorem mono (h : OncePerRound last log) (hLater : last ≤ next) : OncePerRound next log where
  apart := h.apart
  noted a hIn := Nat.le_trans (h.noted a hIn) hLater

/-- One more reaction. -/
theorem react (h : OncePerRound last log) {r : Reaction} (hAcked : last < r.acked)
    (hLater : last ≤ next) (hNoted : r.next ≤ next) : OncePerRound next (log ++ [r]) where
  apart := by
    refine List.pairwise_append.mpr ⟨h.apart, List.pairwise_singleton _ _, ?_⟩
    intro a ha b hb
    rw [List.mem_singleton.mp hb]
    exact Nat.lt_of_le_of_lt (h.noted a ha) hAcked
  noted a hIn := by
    rcases List.mem_append.mp hIn with hOld | hNew
    · exact Nat.le_trans (h.noted a hOld) hLater
    · rw [List.mem_singleton.mp hNew]
      exact hNoted

end OncePerRound

/-- Each reaction is due to more than what the one before it noted. -/
def Successive (log : List Reaction) : Prop := log.IsChain fun a b => a.next < b.acked

namespace Successive

variable {log : List Reaction}

theorem nil : Successive [] := List.isChain_nil

/-- One more reaction. -/
theorem react (h : Successive log) {r : Reaction}
    (hAcked : ∀ a ∈ log.getLast?, a.next < r.acked) : Successive (log ++ [r]) := by
  refine List.isChain_append.mpr ⟨h, List.isChain_singleton r, ?_⟩
  intro a ha b hb
  cases hb
  exact hAcked a ha

theorem pairwise (h : Successive log) (hSent : ∀ a ∈ log, a.acked ≤ a.next) :
    log.Pairwise fun a b => a.next < b.acked := by
  induction log with
  | nil => exact List.Pairwise.nil
  | cons a log ih =>
    have hRest := ih h.tail fun b hb => hSent b (List.mem_cons_of_mem a hb)
    refine List.pairwise_cons.mpr ⟨?_, hRest⟩
    intro b hb
    cases log with
    | nil => exact absurd hb List.not_mem_nil
    | cons c log =>
      have hFirst : a.next < c.acked := (List.isChain_cons_cons.mp h).1
      rcases List.mem_cons.mp hb with rfl | hLater
      · exact hFirst
      · have hOwn := hSent c (List.mem_cons_of_mem a List.mem_cons_self)
        have hNext := (List.pairwise_cons.mp hRest).1 b hLater
        exact (Nat.lt_of_lt_of_le hFirst hOwn).trans hNext

end Successive

end Dpdq.Lib
