import Mathlib.Data.List.Nodup

/-!
# Lists with a cursor

A vector that is read round and round: the cursor is the position of the next element. What it
stands for is a cyclic sequence, `cycle`, written down from the next element on.

* `InRange`: the cursor is on an element, or the list is empty.
* `next_of_cycle`, `removeAt_cycle`: what the operations do to the cycle.
* `visits_eq_turns`: the results of `next` are those of the cyclic sequence.
* `visits_size`: one time around comes past every element once.
-/

namespace Dpdq.Lib

universe u v

structure CursorList (α : Type u) where
  items : List α := []
  cursor : Nat := 0
deriving DecidableEq, Repr

/-! ## Cyclic sequences -/

/-- The next `n` elements of a cyclic sequence, and the sequence as it is read after them. -/
def turns {α : Type u} : Nat → List α → Option (List α × List α)
  | 0, c => some ([], c)
  | _ + 1, [] => none
  | n + 1, x :: c => (turns n (c ++ [x])).map fun r => (x :: r.1, r.2)

theorem turns_append {α : Type u} (front back : List α) :
    turns front.length (front ++ back) = some (front, back ++ front) := by
  induction front generalizing back with
  | nil => simp [turns]
  | cons x front ih =>
    rw [List.length_cons, List.cons_append, turns, List.append_assoc, ih (back ++ [x])]
    simp

theorem turns_length {α : Type u} (c : List α) : turns c.length c = some (c, c) := by
  simpa using turns_append c []

namespace CursorList

variable {α : Type u} {κ : Type v}

/-! ## Operations -/

def size (l : CursorList α) : Nat := l.items.length

def add (l : CursorList α) (x : α) : CursorList α := { l with items := l.items ++ [x] }

/-- The element at `pos` goes. The cursor stays with its element, and where that one goes it is on
the element behind it. -/
def removeAt (l : CursorList α) (pos : Nat) : CursorList α :=
  let items := l.items.eraseIdx pos
  { items
    cursor :=
      if items.length = 0 then 0
      else if pos < l.cursor then l.cursor - 1
      else if l.cursor = pos then l.cursor % items.length
      else l.cursor }

def peekNext (l : CursorList α) : Option α := l.items[l.cursor]?

def next (l : CursorList α) : Option (α × CursorList α) :=
  l.peekNext.map fun x => (x, { l with cursor := (l.cursor + 1) % l.size })

def reset (l : CursorList α) : CursorList α := { l with cursor := 0 }

/-- The results of `n` calls of `next`, and the list after them. -/
def visits : Nat → CursorList α → Option (List α × CursorList α)
  | 0, l => some ([], l)
  | n + 1, l => l.next.bind fun r => (visits n r.2).map fun s => (r.1 :: s.1, s.2)

section Keyed

variable [DecidableEq κ] (key : α → κ)

def findPos (l : CursorList α) (k : κ) : Option Nat := l.items.findIdx? fun x => key x = k

def find? (l : CursorList α) (k : κ) : Option α := l.items.find? fun x => key x = k

def remove (l : CursorList α) (k : κ) : Option (CursorList α) := (l.findPos key k).map l.removeAt

end Keyed

/-! ## The cycle -/

def InRange (l : CursorList α) : Prop := l.cursor < l.size ∨ l.size = 0 ∧ l.cursor = 0

/-- The elements in the order in which `next` comes past them. -/
def cycle (l : CursorList α) : List α := l.items.drop l.cursor ++ l.items.take l.cursor

variable {l l' : CursorList α} {x : α}

theorem perm_cycle (l : CursorList α) : l.cycle.Perm l.items := by
  unfold cycle
  exact List.perm_append_comm.trans (by rw [List.take_append_drop])

theorem length_cycle (l : CursorList α) : l.cycle.length = l.size := l.perm_cycle.length_eq

@[simp] theorem cycle_mk (before after : List α) :
    cycle ⟨before ++ after, before.length⟩ = after ++ before := by
  simp [cycle]

@[simp] theorem cycle_zero (items : List α) : cycle ⟨items, 0⟩ = items := by simp [cycle]

theorem inRange_zero (items : List α) : InRange ⟨items, 0⟩ := by
  unfold InRange size
  dsimp only
  omega

theorem inRange_mk (before : List α) {after : List α} (h : after ≠ []) :
    InRange ⟨before ++ after, before.length⟩ := by
  left
  show before.length < (before ++ after).length
  rw [List.length_append]
  have := List.length_pos_iff.mpr h
  omega

/-- A list with its cursor in range is what is behind the cursor and what is ahead of it. -/
theorem InRange.split (h : l.InRange) : l = ⟨[], 0⟩ ∨ ∃ before x after,
    l = ⟨before ++ x :: after, before.length⟩ := by
  obtain ⟨items, cursor⟩ := l
  unfold InRange size at h
  dsimp only at h
  rcases h with hLt | ⟨hSize, rfl⟩
  · right
    refine ⟨items.take cursor, items[cursor], items.drop (cursor + 1), ?_⟩
    rw [List.getElem_cons_drop, List.take_append_drop, List.length_take,
      Nat.min_eq_left (Nat.le_of_lt hLt)]
  · left
    rw [List.length_eq_zero_iff.mp hSize]

theorem InRange.reset (l : CursorList α) : l.reset.InRange := inRange_zero _

theorem cycle_reset (l : CursorList α) : l.reset.cycle = l.items := cycle_zero _

/-! ## Adding -/

theorem InRange.add (h : l.InRange) (x : α) : (l.add x).InRange := by
  have hSize : (l.add x).size = l.size + 1 := by simp [CursorList.add, size]
  left
  rw [hSize]
  show l.cursor < l.size + 1
  rcases h with hLt | ⟨hSize, hCursor⟩ <;> omega

/-! ## Next -/

theorem peekNext_eq_head? (h : l.InRange) : l.peekNext = l.cycle.head? := by
  rcases h.split with rfl | ⟨before, x, after, rfl⟩
  · rfl
  · simp [peekNext]

theorem next_last (before : List α) (x : α) :
    next ⟨before ++ [x], before.length⟩ = some (x, ⟨before ++ [x], 0⟩) := by
  simp [next, peekNext, size]

theorem next_inner (before : List α) (x y : α) (after : List α) :
    next ⟨before ++ x :: y :: after, before.length⟩ =
      some (x, ⟨(before ++ [x]) ++ y :: after, (before ++ [x]).length⟩) := by
  have hLt : before.length + 1 < before.length + (after.length + 1 + 1) := by omega
  simp [next, peekNext, size, Nat.mod_eq_of_lt hLt]

/-- `next` turns the cycle by one element. -/
theorem next_of_cycle {c : List α} (h : l.InRange) (hCycle : l.cycle = x :: c) :
    ∃ l', l.next = some (x, l') ∧ l'.InRange ∧ l'.cycle = c ++ [x] ∧ l'.items = l.items := by
  rcases h.split with rfl | ⟨before, y, after, rfl⟩
  · cases hCycle
  rw [cycle_mk, List.cons_append] at hCycle
  obtain ⟨rfl, rfl⟩ := List.cons.inj hCycle
  cases after with
  | nil => exact ⟨_, next_last before y, inRange_zero _, by simp, rfl⟩
  | cons z after =>
    exact ⟨_, next_inner before y z after, inRange_mk _ nofun, by rw [cycle_mk]; simp, by simp⟩

theorem next_eq_none (h : l.InRange) : l.next = none ↔ l.cycle = [] := by
  unfold next
  rw [Option.map_eq_none_iff, peekNext_eq_head? h, List.head?_eq_none_iff]

theorem next_eq_some (h : l.InRange) (hNext : l.next = some (x, l')) :
    ∃ c, l.cycle = x :: c ∧ l'.InRange ∧ l'.cycle = c ++ [x] ∧ l'.items = l.items := by
  cases hCycle : l.cycle with
  | nil => rw [(next_eq_none h).mpr hCycle] at hNext; cases hNext
  | cons y c =>
    obtain ⟨l₁, hSome, hRest⟩ := next_of_cycle h hCycle
    obtain ⟨rfl, rfl⟩ := Prod.mk.inj (Option.some.inj (hSome.symm.trans hNext))
    exact ⟨c, rfl, hRest⟩

/-- The results of `next` are the turns of the cycle. -/
theorem visits_eq_turns (h : l.InRange) (n : Nat) :
    (l.visits n).map (fun r => (r.1, r.2.cycle)) = turns n l.cycle := by
  induction n generalizing l with
  | zero => rfl
  | succ n ih =>
    cases hCycle : l.cycle with
    | nil => simp [visits, turns, (next_eq_none h).mpr hCycle]
    | cons x c =>
      obtain ⟨l₁, hNext, hRange, hTurned, -⟩ := next_of_cycle h hCycle
      rw [visits, hNext, turns, ← hTurned, ← ih hRange]
      simp [Function.comp_def]

theorem visits_size (h : l.InRange) :
    ∃ l', l.visits l.size = some (l.cycle, l') ∧ l'.cycle = l.cycle := by
  have hTurns := visits_eq_turns h l.size
  rw [← length_cycle, turns_length, Option.map_eq_some_iff] at hTurns
  obtain ⟨⟨xs, l₁⟩, hVisits, hEq⟩ := hTurns
  obtain ⟨rfl, hCycle⟩ := Prod.mk.inj hEq
  exact ⟨l₁, by rw [← length_cycle]; exact hVisits, hCycle⟩

/-! ## Removing -/

theorem removeAt_behind (front : List α) (x : α) (back after : List α) (hAfter : after ≠ []) :
    removeAt ⟨(front ++ x :: back) ++ after, (front ++ x :: back).length⟩ front.length =
      ⟨(front ++ back) ++ after, (front ++ back).length⟩ := by
  have hErase : ((front ++ x :: back) ++ after).eraseIdx front.length =
      (front ++ back) ++ after := by
    simp [List.eraseIdx_append_of_length_le]
  have hLength : ((front ++ back) ++ after).length ≠ 0 := by simp [hAfter]
  unfold removeAt
  dsimp only
  rw [hErase, if_neg hLength, if_pos (by simp)]
  simp

theorem removeAt_ahead (before front : List α) (x : α) (back : List α) :
    removeAt ⟨before ++ (front ++ x :: back), before.length⟩ (before.length + front.length) =
      if front ++ back = [] then ⟨before, 0⟩ else ⟨before ++ (front ++ back), before.length⟩ := by
  have hErase : (before ++ (front ++ x :: back)).eraseIdx (before.length + front.length) =
      before ++ (front ++ back) := by
    simp [List.eraseIdx_append_of_length_le]
  unfold removeAt
  dsimp only
  rw [hErase, if_neg (Nat.not_lt.mpr (Nat.le_add_right _ _))]
  cases front with
  | nil =>
    cases back with
    | nil => simp
    | cons z back =>
      have hMod : before.length % (before.length + (back.length + 1)) = before.length :=
        Nat.mod_eq_of_lt (by omega)
      simp [hMod]
  | cons z front => simp

theorem exists_split {items : List α} {i : Nat} (h : items[i]? = some x) :
    ∃ front back, items = front ++ x :: back ∧ front.length = i := by
  obtain ⟨hLt, rfl⟩ := List.getElem?_eq_some_iff.mp h
  refine ⟨items.take i, items.drop (i + 1), ?_, ?_⟩
  · rw [List.getElem_cons_drop, List.take_append_drop]
  · rw [List.length_take, Nat.min_eq_left (Nat.le_of_lt hLt)]

/-- To remove an element is to delete it from the cycle. -/
theorem removeAt_cycle {pos : Nat} (h : l.InRange) (hPos : l.items[pos]? = some x) :
    ∃ front back, l.cycle = front ++ x :: back ∧ (l.removeAt pos).cycle = front ++ back ∧
      (l.removeAt pos).InRange := by
  rcases h.split with rfl | ⟨before, y, after, rfl⟩
  · cases hPos
  rw [cycle_mk]
  by_cases hBehind : pos < before.length
  · rw [List.getElem?_append_left hBehind] at hPos
    obtain ⟨front, back, rfl, rfl⟩ := exists_split hPos
    rw [removeAt_behind front x back _ (List.cons_ne_nil y after)]
    refine ⟨y :: after ++ front, back, by simp, ?_, inRange_mk _ nofun⟩
    rw [cycle_mk, List.append_assoc]
  · obtain ⟨j, rfl⟩ := Nat.exists_eq_add_of_le (Nat.le_of_not_lt hBehind)
    rw [List.getElem?_append_right (Nat.le_add_right _ _), Nat.add_sub_cancel_left] at hPos
    obtain ⟨front, back, hItems, rfl⟩ := exists_split hPos
    rw [hItems, removeAt_ahead]
    refine ⟨front, back ++ before, by simp, ?_, ?_⟩
    · split
      next hNil =>
        obtain ⟨rfl, rfl⟩ := List.append_eq_nil_iff.mp hNil
        rw [cycle_zero, List.nil_append, List.nil_append]
      next => rw [cycle_mk, List.append_assoc]
    · split
      · exact inRange_zero _
      next hNil => exact inRange_mk _ hNil

section Keyed

variable [DecidableEq κ] {key : α → κ} {k : κ}

theorem remove_eq_none : l.remove key k = none ↔ ∀ x ∈ l.items, key x ≠ k := by
  unfold remove findPos
  rw [Option.map_eq_none_iff, List.findIdx?_eq_none_iff]
  simp

/-- The element with the key that `remove` looks for goes from the cycle. -/
theorem remove_cycle (h : l.InRange) (hRemove : l.remove key k = some l') :
    ∃ front x back, key x = k ∧ l.cycle = front ++ x :: back ∧ l'.cycle = front ++ back ∧
      l'.InRange := by
  obtain ⟨pos, hPos, rfl⟩ := Option.map_eq_some_iff.mp hRemove
  obtain ⟨hLt, hKey, -⟩ := List.findIdx?_eq_some_iff_getElem.mp hPos
  obtain ⟨front, back, hCycle, hRemoved, hRange⟩ :=
    removeAt_cycle h (List.getElem?_eq_getElem hLt)
  exact ⟨front, _, back, by simpa using hKey, hCycle, hRemoved, hRange⟩

theorem eraseP_split {front back : List α} (hNodup : ((front ++ x :: back).map key).Nodup) :
    (front ++ x :: back).eraseP (fun y => key y = key x) = front ++ back := by
  rw [List.map_append, List.map_cons] at hNodup
  have hFront : ∀ y ∈ front, ¬ (decide (key y = key x)) = true := by
    intro y hy hSame
    have hMem : key x ∈ front.map key := List.mem_map.mpr ⟨y, hy, of_decide_eq_true hSame⟩
    exact (List.disjoint_of_nodup_append hNodup) hMem List.mem_cons_self
  rw [List.eraseP_append_right _ hFront, List.eraseP_cons_of_pos (by simp)]

/-- Among different keys there is one way to delete an element. -/
theorem remove_of_cycle {front back : List α} (h : l.InRange) (hNodup : (l.items.map key).Nodup)
    (hCycle : l.cycle = front ++ x :: back) :
    ∃ l', l.remove key (key x) = some l' ∧ l'.cycle = front ++ back ∧ l'.InRange := by
  have hNodup : (l.cycle.map key).Nodup := (l.perm_cycle.map key).nodup_iff.mpr hNodup
  cases hRemove : l.remove key (key x) with
  | none =>
    have hMem : x ∈ l.items := l.perm_cycle.mem_iff.mp (by simp [hCycle])
    exact absurd rfl (remove_eq_none.mp hRemove x hMem)
  | some l₁ =>
    obtain ⟨front', x', back', hKey, hCycle', hRemoved, hRange⟩ := remove_cycle h hRemove
    refine ⟨l₁, rfl, ?_, hRange⟩
    have hErase := eraseP_split (hCycle' ▸ hNodup)
    rw [hKey, ← hCycle', hCycle, eraseP_split (hCycle ▸ hNodup)] at hErase
    rw [hRemoved, hErase]

end Keyed

end CursorList

end Dpdq.Lib
