import Mathlib.Data.List.Basic

/-!
# Machines driven by events

A `Machine σ ε` has an initial state and a partial step: an event that is not enabled in a
state yields `none`. A run is the list of its events.

* `Machine.reachable_induction`: what holds initially and is kept by every enabled step holds
  in every reachable state.
* `Machine.guarded_induction`: the same for the runs whose steps all meet a side condition.
* `Machine.cost_add_le`: where every step pays for itself, a run pays for all its steps.
* `Machine.throughout_iff_guarded`: where the side condition is exact, it is met by the steps of
  exactly those runs that keep the property in all their states.
* `Machine.exists_run_of_choosing`: a run that makes its own choices is one of the runs to which
  they are given.
* `Machine.indexed_induction`: the rule for any number of machines side by side.
* `Simulation.reachable`: a machine that a simulation relates to another one reaches only
  states related to reachable states of that other machine.
-/

namespace Dpdq.Lib

/-- A machine with states `σ` and events `ε`. -/
structure Machine (σ ε : Type) where
  init : σ
  step : σ → ε → Option σ

namespace Machine

variable {σ ε : Type}

/-- The state after a list of events, `none` when one of them was not enabled. -/
def run (M : Machine σ ε) : σ → List ε → Option σ
  | s, [] => some s
  | s, e :: es => (M.step s e).bind fun next => M.run next es

/-- `s` is the state after some run from the initial state. -/
def Reachable (M : Machine σ ε) (s : σ) : Prop := ∃ es, M.run M.init es = some s

/-- Every step of the run `es` from `s` meets the side condition `C`. -/
def Guarded (M : Machine σ ε) (C : σ → ε → Prop) : σ → List ε → Prop
  | _, [] => True
  | s, e :: es => C s e ∧ ∀ next, M.step s e = some next → M.Guarded C next es

/-- Every state of the run `es` from `s` satisfies `I`. -/
def Throughout (M : Machine σ ε) (I : σ → Prop) : σ → List ε → Prop
  | s, [] => I s
  | s, e :: es => I s ∧ ∀ next, M.step s e = some next → M.Throughout I next es

/-- What the steps of a run cost together. -/
def cost (M : Machine σ ε) (f : σ → ε → Nat) : σ → List ε → Nat
  | _, [] => 0
  | s, e :: es => f s e + (M.step s e).elim 0 fun next => M.cost f next es

instance decidableGuarded (M : Machine σ ε) (C : σ → ε → Prop) [∀ s e, Decidable (C s e)] :
    ∀ s es, Decidable (M.Guarded C s es)
  | _, [] => isTrue trivial
  | s, e :: es =>
    have : Decidable (∀ next, M.step s e = some next → M.Guarded C next es) :=
      match M.step s e with
      | none => isTrue fun _ hNext => absurd hNext nofun
      | some next =>
        have : Decidable (M.Guarded C next es) := decidableGuarded M C next es
        decidable_of_iff (M.Guarded C next es)
          ⟨fun hGuard _ hNext => Option.some.inj hNext ▸ hGuard, fun hAll => hAll next rfl⟩
    inferInstanceAs (Decidable (_ ∧ _))

/-- A step that is enabled under a condition. -/
theorem of_guarded {c : Prop} [Decidable c] {s t : σ} (h : (if c then some s else none) = some t) :
    c ∧ t = s := by
  split at h
  · rename_i hc
    exact ⟨hc, (Option.some.inj h).symm⟩
  · cases h

@[simp] theorem run_nil (M : Machine σ ε) (s : σ) : M.run s [] = some s := rfl

theorem run_cons_eq_some {M : Machine σ ε} {s t : σ} {e : ε} {es : List ε} :
    M.run s (e :: es) = some t ↔ ∃ next, M.step s e = some next ∧ M.run next es = some t := by
  simp [run, Option.bind_eq_some_iff]

theorem run_append (M : Machine σ ε) (s : σ) (es fs : List ε) :
    M.run s (es ++ fs) = (M.run s es).bind fun next => M.run next fs := by
  induction es generalizing s with
  | nil => rfl
  | cons e es ih =>
    simp only [List.cons_append, run]
    cases M.step s e with
    | none => rfl
    | some next => simpa using ih next

theorem reachable_init (M : Machine σ ε) : M.Reachable M.init := ⟨[], rfl⟩

theorem Reachable.step {M : Machine σ ε} {s t : σ} {e : ε} (hs : M.Reachable s)
    (h : M.step s e = some t) : M.Reachable t := by
  obtain ⟨es, hes⟩ := hs
  exact ⟨es ++ [e], by simp [run_append, hes, run, h]⟩

/-- The run lemma behind both induction rules. -/
theorem run_induction {M : Machine σ ε} {C : σ → ε → Prop} {I : σ → Prop}
    (hStep : ∀ s e t, I s → C s e → M.step s e = some t → I t) {s t : σ} {es : List ε}
    (hs : I s) (hGuard : M.Guarded C s es) (hRun : M.run s es = some t) : I t := by
  induction es generalizing s with
  | nil => cases hRun; exact hs
  | cons e es ih =>
    obtain ⟨next, hNext, hRest⟩ := run_cons_eq_some.mp hRun
    exact ih (hStep s e next hs hGuard.1 hNext) (hGuard.2 next hNext) hRest

/-- Where every step pays its cost by what it adds to `P`, a run does. -/
theorem cost_add_le {M : Machine σ ε} {C : σ → ε → Prop} {I : σ → Prop} {f : σ → ε → Nat}
    {P : σ → Nat} (hInv : ∀ s e t, I s → C s e → M.step s e = some t → I t)
    (hPay : ∀ s e t, I s → C s e → M.step s e = some t → f s e + P s ≤ P t) {s t : σ} {es : List ε}
    (hs : I s) (hGuard : M.Guarded C s es) (hRun : M.run s es = some t) :
    M.cost f s es + P s ≤ P t := by
  induction es generalizing s with
  | nil =>
    cases hRun
    simp [cost]
  | cons e es ih =>
    obtain ⟨next, hNext, hRest⟩ := run_cons_eq_some.mp hRun
    have hHead := hPay s e next hs hGuard.1 hNext
    have hTail := ih (hInv s e next hs hGuard.1 hNext) (hGuard.2 next hNext) hRest
    unfold cost
    rw [hNext, Option.elim_some]
    omega

theorem guarded_true (M : Machine σ ε) (s : σ) (es : List ε) :
    M.Guarded (fun _ _ => True) s es := by
  induction es generalizing s with
  | nil => trivial
  | cons e es ih => exact ⟨trivial, fun next _ => ih next⟩

/-- What a side condition promises of every step, it promises along the whole run. -/
theorem Guarded.mono {M : Machine σ ε} {C D : σ → ε → Prop} (hCD : ∀ s e, C s e → D s e)
    {s : σ} {es : List ε} (h : M.Guarded C s es) : M.Guarded D s es := by
  induction es generalizing s with
  | nil => trivial
  | cons e es ih => exact ⟨hCD s e h.1, fun next hNext => ih (h.2 next hNext)⟩

theorem Guarded.and {M : Machine σ ε} {C D : σ → ε → Prop} {s : σ} {es : List ε}
    (hC : M.Guarded C s es) (hD : M.Guarded D s es) : M.Guarded (fun s e => C s e ∧ D s e) s es := by
  induction es generalizing s with
  | nil => trivial
  | cons e es ih =>
    exact ⟨⟨hC.1, hD.1⟩, fun next hNext => ih (hC.2 next hNext) (hD.2 next hNext)⟩

theorem guarded_induction {M : Machine σ ε} {C : σ → ε → Prop} {I : σ → Prop} (hInit : I M.init)
    (hStep : ∀ s e t, I s → C s e → M.step s e = some t → I t) {t : σ} {es : List ε}
    (hGuard : M.Guarded C M.init es) (hRun : M.run M.init es = some t) : I t :=
  run_induction hStep hInit hGuard hRun

/-- Two side conditions that agree under an invariant, which one of them keeps, guard the same
runs. -/
theorem guarded_congr {M : Machine σ ε} {C D : σ → ε → Prop} {J : σ → Prop}
    (hInv : ∀ s e t, J s → D s e → M.step s e = some t → J t)
    (hIff : ∀ s e, J s → (C s e ↔ D s e)) {s : σ} (hs : J s) (es : List ε) :
    M.Guarded C s es ↔ M.Guarded D s es := by
  induction es generalizing s with
  | nil => exact Iff.rfl
  | cons e es ih =>
    constructor
    · intro h
      have hD := (hIff s e hs).mp h.1
      exact ⟨hD, fun next hNext => (ih (hInv s e next hs hD hNext)).mp (h.2 next hNext)⟩
    · intro h
      refine ⟨(hIff s e hs).mpr h.1, ?_⟩
      intro next hNext
      exact (ih (hInv s e next hs h.1 hNext)).mpr (h.2 next hNext)

/-- What holds in every state of a run holds in its last one. -/
theorem Throughout.last {M : Machine σ ε} {I : σ → Prop} {s t : σ} {es : List ε}
    (h : M.Throughout I s es) (hRun : M.run s es = some t) : I t := by
  induction es generalizing s with
  | nil =>
    cases hRun
    exact h
  | cons e es ih =>
    obtain ⟨next, hNext, hRest⟩ := run_cons_eq_some.mp hRun
    exact ih (h.2 next hNext) hRest

/-- When, under an invariant `J`, a step keeps `I` exactly if it meets `D`, a run keeps `I`
throughout exactly if all its steps meet `D`. -/
theorem throughout_iff_guarded {M : Machine σ ε} {C D : σ → ε → Prop} {I J : σ → Prop}
    (hInv : ∀ s e t, J s → C s e → M.step s e = some t → J t)
    (hStep : ∀ s e t, J s → I s → C s e → M.step s e = some t → (I t ↔ D s e)) {s : σ} {es : List ε}
    (hJ : J s) (hs : I s) (hGuard : M.Guarded C s es) (hRun : (M.run s es).isSome) :
    M.Throughout I s es ↔ M.Guarded D s es := by
  induction es generalizing s with
  | nil => exact iff_of_true hs trivial
  | cons e es ih =>
    obtain ⟨t, hRun⟩ := Option.isSome_iff_exists.mp hRun
    obtain ⟨next, hNext, hRest⟩ := run_cons_eq_some.mp hRun
    have hIff := hStep s e next hJ hs hGuard.1 hNext
    have hUnique (other : σ) (h : M.step s e = some other) : other = next :=
      Option.some.inj (h.symm.trans hNext)
    have hTail (hI : I next) : M.Throughout I next es ↔ M.Guarded D next es :=
      ih (hInv s e next hJ hGuard.1 hNext) hI (hGuard.2 next hNext) (by rw [hRest]; rfl)
    have hHead (h : M.Throughout I next es) : I next := by
      cases es with
      | nil => exact h
      | cons _ _ => exact h.1
    constructor
    · intro h
      have hKept := h.2 next hNext
      refine ⟨hIff.mp (hHead hKept), ?_⟩
      intro other hOther
      rw [hUnique other hOther]
      exact (hTail (hHead hKept)).mp hKept
    · intro h
      refine ⟨hs, ?_⟩
      intro other hOther
      rw [hUnique other hOther]
      exact (hTail (hIff.mpr h.1)).mpr (h.2 next hNext)

theorem reachable_induction {M : Machine σ ε} {I : σ → Prop} (hInit : I M.init)
    (hStep : ∀ s e t, I s → M.step s e = some t → I t) {t : σ} (h : M.Reachable t) : I t := by
  obtain ⟨es, hes⟩ := h
  exact run_induction (fun s e t hs _ hNext => hStep s e t hs hNext) hInit
    (guarded_true M M.init es) hes

/-! ## Choices -/

/-- A machine whose events carry a choice, with the choices of `f`. -/
def choosing {δ : Type} (M : Machine σ (ε × δ)) (f : σ → ε → δ) : Machine σ ε where
  init := M.init
  step s e := M.step s (e, f s e)

/-- A run with the choices of `f` is a run with some choices. -/
theorem exists_run_of_choosing {δ : Type} {M : Machine σ (ε × δ)} {f : σ → ε → δ} {es : List ε}
    {s t : σ} (hRun : (M.choosing f).run s es = some t) :
    ∃ ds, ds.map Prod.fst = es ∧ M.run s ds = some t := by
  induction es generalizing s with
  | nil => exact ⟨[], rfl, hRun⟩
  | cons e es ih =>
    obtain ⟨next, hNext, hRest⟩ := run_cons_eq_some.mp hRun
    obtain ⟨ds, hMap, hTail⟩ := ih hRest
    refine ⟨(e, f s e) :: ds, by simp [hMap], ?_⟩
    exact run_cons_eq_some.mpr ⟨next, hNext, hTail⟩

/-! ## Machines side by side -/

/-- One machine for every index. An event is for one of them. -/
def indexed {ι : Type} [DecidableEq ι] (M : ι → Machine σ ε) : Machine (ι → σ) (ι × ε) where
  init i := (M i).init
  step s e := ((M e.1).step (s e.1) e.2).map (Function.update s e.1)

/-- A run in which only the machine `i` moves. -/
theorem indexed_run {ι : Type} [DecidableEq ι] (M : ι → Machine σ ε) (i : ι) (es : List ε)
    (s : ι → σ) : (indexed M).run s (es.map (i, ·)) =
      ((M i).run (s i) es).map (Function.update s i) := by
  induction es generalizing s with
  | nil => simp
  | cons e es ih =>
    have hHead : (indexed M).step s (i, e) =
        ((M i).step (s i) e).map (Function.update s i) := rfl
    rw [List.map_cons, run, run, hHead]
    cases (M i).step (s i) e with
    | none => rfl
    | some next =>
      have hSame : Function.update (Function.update s i next) i = Function.update s i := by
        funext v
        exact Function.update_idem next v s
      have hRest := ih (Function.update s i next)
      rw [Function.update_self, hSame] at hRest
      exact hRest

/-- What every step of a machine keeps, all machines keep side by side. -/
theorem indexed_induction {ι : Type} [DecidableEq ι] {M : ι → Machine σ ε} {C : σ → ε → Prop}
    {I : ι → σ → Prop} (hInit : ∀ i, I i (M i).init)
    (hStep : ∀ i s e t, I i s → C s e → (M i).step s e = some t → I i t) {t : ι → σ}
    {es : List (ι × ε)}
    (hGuard : (indexed M).Guarded (fun s e => C (s e.1) e.2) (indexed M).init es)
    (hRun : (indexed M).run (indexed M).init es = some t) : ∀ i, I i (t i) := by
  refine guarded_induction (M := indexed M) (I := fun s => ∀ i, I i (s i)) hInit ?_ hGuard hRun
  intro s e t hs hC hNext i
  obtain ⟨next, hOne, rfl⟩ := Option.map_eq_some_iff.mp hNext
  by_cases hi : i = e.1
  · subst hi
    rw [Function.update_self]
    exact hStep _ _ _ _ (hs _) hC hOne
  · rw [Function.update_of_ne hi]
    exact hs i

end Machine

/-- A relation that lets an abstract machine answer every step of a concrete one. -/
structure Simulation {σ ε τ φ : Type} (M : Machine σ ε) (A : Machine τ φ) where
  rel : σ → τ → Prop
  init : rel M.init A.init
  step : ∀ s a e s', rel s a → M.step s e = some s' → ∃ fs a', A.run a fs = some a' ∧ rel s' a'

theorem Simulation.reachable {σ ε τ φ : Type} {M : Machine σ ε} {A : Machine τ φ}
    (R : Simulation M A) {s : σ} (h : M.Reachable s) : ∃ a, A.Reachable a ∧ R.rel s a := by
  refine Machine.reachable_induction (I := fun s => ∃ a, A.Reachable a ∧ R.rel s a)
    ⟨A.init, A.reachable_init, R.init⟩ ?_ h
  rintro s e s' ⟨a, ⟨es, hes⟩, hRel⟩ hStep
  obtain ⟨fs, a', hRun, hRel'⟩ := R.step s a e s' hRel hStep
  exact ⟨a', ⟨es ++ fs, by simp [Machine.run_append, hes, hRun]⟩, hRel'⟩

end Dpdq.Lib
