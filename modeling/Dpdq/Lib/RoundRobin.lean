import Mathlib.Data.List.Rotate

/-!
# Rounds over a changing list

In each round those who wait stand in some order, some of them pass a test, and the first one that
passes is served. The next round has the same order from behind the one that was served, unless the
list has changed in between.

* `behind_of_before`: whoever passes and is not served stays ahead of all that it was ahead of.
* `follows_of_behind`: a list that has not changed meets the condition `Follows`.
* `nobodyPassedOver`: along rounds that all meet it, everybody who always passes is served between two
  turns of another one.
-/

namespace Dpdq.Lib

variable {α : Type} [DecidableEq α]

/-- One round. -/
structure Round (α : Type) where
  order : List α
  passes : α → Bool
  served : Option α

namespace Round

/-- The first one that passes is served. -/
def Regular (r : Round α) : Prop := r.served = r.order.find? r.passes

/-- The order from behind the one that was served. -/
def behind (r : Round α) : List α :=
  match r.served with
  | none => r.order
  | some c => r.order.rotate (r.order.idxOf c + 1)

/-- Nobody that has had a turn moves ahead of one that passes: neither of one that was ahead of it
behind the last round, nor of anybody when the last turn was its own. -/
def Follows (prev : Round α) (history : List (Round α)) (r : Round α) : Prop :=
  ∀ x ∈ r.order, r.passes x = true → ∀ y ∈ r.order, x ≠ y →
    (∃ earlier ∈ history, earlier.served = some y) →
    (prev.served = some y ∨ prev.behind.idxOf x < prev.behind.idxOf y) →
    r.order.idxOf x < r.order.idxOf y

instance (prev : Round α) (history : List (Round α)) (r : Round α) :
    Decidable (Follows prev history r) :=
  inferInstanceAs (Decidable (∀ x ∈ r.order, _))

/-- Every round follows the one before it. The last one comes first. -/
def Fair : List (Round α) → Prop
  | [] => True
  | r :: rest => (∀ prev ∈ rest.head?, Follows prev rest r) ∧ Fair rest

/-- Between two turns of `y`, whoever passes in every round from the first of them on is served. -/
def NobodyPassedOver (rounds : List (Round α)) : Prop :=
  ∀ later second between first earlier, ∀ x y,
    rounds = later ++ second :: (between ++ first :: earlier) →
    first.served = some y → second.served = some y →
    (∀ r ∈ between, r.served ≠ some y) → x ≠ y →
    (∀ r ∈ second :: between, x ∈ r.order ∧ r.passes x = true) →
    ∃ r ∈ between, r.served = some x

variable {r prev : Round α} {x y c : α}

/-- The one that is served splits the order: nobody ahead of it passes. -/
theorem split_of_served (hRegular : r.Regular) (hServed : r.served = some c) :
    ∃ front rest, r.order = front ++ c :: rest ∧ r.passes c = true ∧
      (∀ a ∈ front, r.passes a = false) ∧ r.behind = rest ++ (front ++ [c]) := by
  have hFind := hRegular.symm.trans hServed
  obtain ⟨hPasses, front, rest, hOrder, hFront⟩ := List.find?_eq_some_iff_append.mp hFind
  have hNone (a : α) (ha : a ∈ front) : r.passes a = false := by simpa using hFront a ha
  refine ⟨front, rest, hOrder, hPasses, hNone, ?_⟩
  have hNotFront : c ∉ front := by
    intro hMem
    rw [hNone c hMem] at hPasses
    cases hPasses
  have hIdx : r.order.idxOf c = front.length := by
    rw [hOrder, List.idxOf_append_of_notMem hNotFront, List.idxOf_cons_self, Nat.add_zero]
  unfold behind
  rw [hServed]
  dsimp only
  rw [hIdx, hOrder]
  have hSplit : front ++ c :: rest = (front ++ [c]) ++ rest := by simp
  have hLength : (front ++ [c]).length = front.length + 1 := by simp
  rw [hSplit, ← hLength, List.rotate_append_length_eq]

/-- Whoever passes and is not served stays ahead of all that it was ahead of. -/
theorem behind_of_before (hRegular : r.Regular) (hMem : x ∈ r.order) (hPasses : r.passes x = true)
    (hx : r.served ≠ some x) (hy : r.served ≠ some y)
    (hBefore : r.order.idxOf x < r.order.idxOf y) : r.behind.idxOf x < r.behind.idxOf y := by
  cases hServed : r.served with
  | none =>
    unfold behind
    rw [hServed]
    exact hBefore
  | some c =>
    obtain ⟨front, rest, hOrder, -, hFront, hBehind⟩ := split_of_served hRegular hServed
    have hxFront : x ∉ front := fun h => by simp [hFront x h] at hPasses
    have hxc : x ≠ c := fun h => hx (h ▸ hServed)
    have hyc : y ≠ c := fun h => hy (h ▸ hServed)
    have hxRest : x ∈ rest := by
      rw [hOrder] at hMem
      simpa [hxFront, hxc] using hMem
    have hyFront : y ∉ front := by
      intro h
      have hLess := List.idxOf_lt_length_of_mem h
      rw [hOrder, List.idxOf_append_of_notMem hxFront, List.idxOf_append_of_mem h] at hBefore
      omega
    rw [hOrder, List.idxOf_append_of_notMem hxFront, List.idxOf_append_of_notMem hyFront,
      List.idxOf_cons_ne _ (Ne.symm hxc), List.idxOf_cons_ne _ (Ne.symm hyc)] at hBefore
    rw [hBehind, List.idxOf_append_of_mem hxRest]
    by_cases hyRest : y ∈ rest
    · rw [List.idxOf_append_of_mem hyRest]
      omega
    · have hLess := List.idxOf_lt_length_of_mem hxRest
      rw [List.idxOf_append_of_notMem hyRest]
      omega

/-- Nobody that passes is ahead of the one that is served. -/
theorem served_le (hRegular : r.Regular) (hServed : r.served = some y) (hPasses : r.passes x = true) :
    r.order.idxOf y ≤ r.order.idxOf x := by
  obtain ⟨front, rest, hOrder, hy, hFront, -⟩ := split_of_served hRegular hServed
  have hxFront : x ∉ front := fun h => by simp [hFront x h] at hPasses
  have hyFront : y ∉ front := fun h => by simp [hFront y h] at hy
  rw [hOrder, List.idxOf_append_of_notMem hxFront, List.idxOf_append_of_notMem hyFront,
    List.idxOf_cons_self]
  omega

/-- An order that goes on from behind the last one that was served meets the condition. -/
theorem follows_of_behind {history : List (Round α)} (hRegular : prev.Regular)
    (hNodup : prev.order.Nodup) (hSame : r.order = prev.behind) : Follows prev history r := by
  intro x hx _ y hy hNe _ hAhead
  rw [hSame] at hx hy ⊢
  rcases hAhead with hLast | hAhead
  · obtain ⟨front, rest, hOrder, -, -, hBehind⟩ := split_of_served hRegular hLast
    rw [hOrder] at hNodup
    have hyFront : y ∉ rest ++ front := by
      intro hMem
      rcases List.mem_append.mp hMem with h | h
      · exact (List.nodup_cons.mp (List.nodup_append.mp hNodup).2.1).1 h
      · exact (List.nodup_append.mp hNodup).2.2 y h y List.mem_cons_self rfl
    have hxFront : x ∈ rest ++ front := by
      rw [hBehind] at hx
      simpa [hNe, or_assoc] using hx
    have hLess := List.idxOf_lt_length_of_mem hxFront
    rw [hBehind, ← List.append_assoc, List.idxOf_append_of_mem hxFront,
      List.idxOf_append_of_notMem hyFront]
    omega
  · exact hAhead

theorem Follows.before {history : List (Round α)} (h : Follows prev history r) (hMem : x ∈ r.order)
    (hPasses : r.passes x = true) (hNe : x ≠ y)
    (hHad : ∃ earlier ∈ history, earlier.served = some y)
    (hAhead : prev.served = some y ∨ prev.behind.idxOf x < prev.behind.idxOf y) :
    r.order.idxOf x < r.order.idxOf y := by
  by_cases hy : y ∈ r.order
  · exact h x hMem hPasses y hy hNe hHad hAhead
  · rw [List.idxOf_of_notMem hy]
    exact List.idxOf_lt_length_of_mem hMem

/-- Since the turn of `y`, whoever has passed in all rounds and was not served has stayed ahead of
`y`. -/
theorem ahead_of_waiting {first : Round α} {earlier : List (Round α)} (hNe : x ≠ y)
    (hFirst : first.served = some y) (between : List (Round α))
    (hFair : Fair (between ++ first :: earlier)) (hRegular : ∀ r ∈ between, r.Regular)
    (hy : ∀ r ∈ between, r.served ≠ some y) (hx : ∀ r ∈ between, r.served ≠ some x)
    (hPasses : ∀ r ∈ between, x ∈ r.order ∧ r.passes x = true) :
    ∀ prev ∈ (between ++ first :: earlier).head?,
      prev.served = some y ∨ prev.behind.idxOf x < prev.behind.idxOf y := by
  induction between with
  | nil =>
    intro prev hPrev
    obtain rfl := Option.some.inj hPrev
    exact Or.inl hFirst
  | cons r between ih =>
    intro prev hPrev
    obtain rfl := Option.some.inj hPrev
    have hTail := ih hFair.2 (fun q hq => hRegular q (List.mem_cons_of_mem _ hq))
      (fun q hq => hy q (List.mem_cons_of_mem _ hq))
      (fun q hq => hx q (List.mem_cons_of_mem _ hq))
      (fun q hq => hPasses q (List.mem_cons_of_mem _ hq))
    obtain ⟨last, hLast⟩ : ∃ last, last ∈ (between ++ first :: earlier).head? := by
      cases between with
      | nil => exact ⟨first, rfl⟩
      | cons q _ => exact ⟨q, rfl⟩
    have hHad : ∃ q ∈ between ++ first :: earlier, q.served = some y :=
      ⟨first, by simp, hFirst⟩
    obtain ⟨hMem, hPass⟩ := hPasses r List.mem_cons_self
    have hBefore := (hFair.1 last hLast).before hMem hPass hNe hHad (hTail last hLast)
    exact Or.inr (behind_of_before (hRegular r List.mem_cons_self) hMem hPass
      (hx r List.mem_cons_self) (hy r List.mem_cons_self) hBefore)

theorem Fair.of_append {later rounds : List (Round α)} (h : Fair (later ++ rounds)) :
    Fair rounds := by
  induction later with
  | nil => exact h
  | cons r later ih => exact ih h.2

/-- Everybody who always passes is served between two turns of another one. -/
theorem nobodyPassedOver {rounds : List (Round α)} (hFair : Fair rounds)
    (hRegular : ∀ r ∈ rounds, r.Regular) : NobodyPassedOver rounds := by
  intro later second between first earlier x y hRounds hFirst hSecond hBetween hNe hPasses
  by_contra hNever
  rw [hRounds] at hFair hRegular
  have hFair' := hFair.of_append
  have hx (r : Round α) (hr : r ∈ between) : r.served ≠ some x := fun h => hNever ⟨r, hr, h⟩
  obtain ⟨last, hLast⟩ : ∃ last, last ∈ (between ++ first :: earlier).head? := by
    cases between with
    | nil => exact ⟨first, rfl⟩
    | cons q _ => exact ⟨q, rfl⟩
  have hAhead := ahead_of_waiting hNe hFirst between hFair'.2
    (fun r hr => hRegular r (by simp [hr])) hBetween hx
    (fun r hr => hPasses r (List.mem_cons_of_mem _ hr)) last hLast
  obtain ⟨hMem, hPass⟩ := hPasses second List.mem_cons_self
  have hBefore := (hFair'.1 last hLast).before hMem hPass hNe ⟨first, by simp, hFirst⟩ hAhead
  have hServed := served_le (hRegular second (by simp)) hSecond hPass
  omega

end Round

end Dpdq.Lib
