import Mathlib.Data.List.Nodup

/-!
# Loops over independent indices

A loop that treats each index once, and whose body at an index touches only what one can view of
this index.

* `foldl_view_of_notMem`: an index that the loop does not reach.
* `foldl_view`: an index that it reaches, as if it were the only one.
-/

namespace Dpdq.Lib

variable {α β γ : Type} {f : β → α → β} {view : β → γ} {j : α}

theorem foldl_view_of_notMem (hOther : ∀ b i, i ≠ j → view (f b i) = view b) {l : List α}
    (hNotMem : j ∉ l) (b : β) : view (l.foldl f b) = view b := by
  induction l generalizing b with
  | nil => rfl
  | cons i l ih =>
    rw [List.mem_cons, not_or] at hNotMem
    rw [List.foldl_cons, ih hNotMem.2, hOther b i (Ne.symm hNotMem.1)]

/-- The body sees nothing of an index but its view. -/
theorem foldl_view (hOther : ∀ b i, i ≠ j → view (f b i) = view b)
    (hOwn : ∀ b b', view b = view b' → view (f b j) = view (f b' j)) {l : List α}
    (hNodup : l.Nodup) (hMem : j ∈ l) (b : β) : view (l.foldl f b) = view (f b j) := by
  induction l generalizing b with
  | nil => cases hMem
  | cons i l ih =>
    obtain ⟨hFresh, hRest⟩ := List.nodup_cons.mp hNodup
    rw [List.foldl_cons]
    rcases List.mem_cons.mp hMem with rfl | hLater
    · exact foldl_view_of_notMem hOther hFresh (f b j)
    · have hNe : i ≠ j := fun hEq => hFresh (hEq ▸ hLater)
      rw [ih hRest hLater]
      exact hOwn (f b i) b (hOther b i hNe)

end Dpdq.Lib
