import Mathlib.Data.List.FinRange
import Dpdq.Lib.Loop
import Dpdq.Ns3.SwitchPfc

/-!
# PFC decisions class by class

The two loops of `CheckAndSendPfc` treat each class once, so that what a call sends for a class is
a function of the two tests for it (`framesOf_eq`). The test for a RESUME reads the counters of the
class. With dynamic thresholds the test for a PAUSE reads the headroom and the service pool of the
triggering queue, whatever the class.

* `perClass_iff`: the states in which the decisions are those of the classes themselves, and no
  class is sent a PAUSE and a RESUME at once.
-/

namespace Dpdq.Ns3

open Function
open Dpdq.Lib

/-! ## The tests -/

namespace PfcConfig

variable (cfg : PfcConfig) (m : MmuCounters)

/-- What a class has beyond its guarantees. -/
def sharedUse (c : Cell) : ℚ := m.usedIngressPGBytes c - cfg.pgMinCell - cfg.portMinCell

def pauseThreshold (sp : Fin 4) : ℚ :=
  cfg.pgSharedAlphaCell * ((cfg.bufferCellLimitSp : ℚ) - m.usedIngressSPBytes sp)

def resumeThreshold (sp : Fin 4) : ℚ :=
  cfg.pgSharedAlphaCell *
    ((cfg.bufferCellLimitSp : ℚ) - m.usedIngressSPBytes sp - cfg.pgSharedAlphaCellOffDiff)

/-- What `GetResumeClasses` asks of a paused class. -/
def resumeTest (c : Cell) : Prop :=
  if cfg.dynamicth then
    cfg.sharedUse m c < cfg.resumeThreshold m (getIngressSP c) ∧
      m.usedIngressPGHeadroomBytes c = 0
  else m.usedIngressPGBytes c < cfg.pgSharedLimitCellOff ∧
    m.usedIngressPortBytes c.1 < cfg.portMinCellOff

instance (c : Cell) : Decidable (cfg.resumeTest m c) := inferInstanceAs (Decidable (ite _ _ _))

variable {cfg m}

theorem getResumeClasses_iff {st : PfcState} {c : Cell} :
    cfg.getResumeClasses m st c = true ↔ st.paused c = true ∧ cfg.resumeTest m c := by
  unfold getResumeClasses resumeTest sharedUse resumeThreshold
  cases st.paused c with
  | false => simp
  | true => cases cfg.dynamicth <;> simp

theorem getPauseClasses_dynamic_iff (hMode : cfg.dynamicth = true) {port : PortIdx}
    {qIndex j : QueueIdx} :
    cfg.getPauseClasses m port qIndex j = true ↔
      addU32 cfg.pgMinCell cfg.portMinCell < m.usedIngressPGBytes (port, j) ∧
        (cfg.pauseThreshold m (getIngressSP (port, qIndex)) < cfg.sharedUse m (port, j) ∨
          m.usedIngressPGHeadroomBytes (port, qIndex) ≠ 0) := by
  unfold getPauseClasses pauseThreshold sharedUse
  rw [if_pos hMode]
  by_cases hUsed : m.usedIngressPGBytes (port, j) ≤ addU32 cfg.pgMinCell cfg.portMinCell
  · simp [hUsed]
  · simp [hUsed, not_le.mp hUsed]

theorem getPauseClasses_static_iff (hMode : cfg.dynamicth = false) {port : PortIdx}
    {qIndex j : QueueIdx} :
    cfg.getPauseClasses m port qIndex j = true ↔
      cfg.portMaxSharedCell < m.usedIngressPortBytes port ∨
        (j = qIndex ∧ cfg.pgSharedLimitCell < m.usedIngressPGBytes (port, j)) := by
  unfold getPauseClasses
  rw [if_neg (by simp [hMode])]
  by_cases hPort : m.usedIngressPortBytes port > cfg.portMaxSharedCell
  · simp [hPort]
  · rw [if_neg hPort]
    simp only [decide_eq_true_eq]
    constructor
    · rintro ⟨rfl, hUsed⟩
      exact .inr ⟨rfl, hUsed⟩
    · rintro (hOver | ⟨rfl, hUsed⟩)
      · exact absurd hOver hPort
      · exact ⟨rfl, hUsed⟩

/-- The conditions on the counters. With dynamic thresholds each class above its guarantees, but
for the triggering one, is above the threshold of the pool of the triggering queue (so that its
PAUSE does not depend on the headroom of that queue), and no class without headroom lies above that
threshold and below its own threshold for a RESUME. With fixed thresholds no class meets both. -/
def DecidesAlone (cfg : PfcConfig) (m : MmuCounters) (port : PortIdx) (qIndex : QueueIdx) : Prop :=
  if cfg.dynamicth then ∀ j,
    addU32 cfg.pgMinCell cfg.portMinCell < m.usedIngressPGBytes (port, j) →
      (j ≠ qIndex →
        cfg.pauseThreshold m (getIngressSP (port, qIndex)) < cfg.sharedUse m (port, j)) ∧
      (m.usedIngressPGHeadroomBytes (port, j) = 0 →
        cfg.pauseThreshold m (getIngressSP (port, qIndex)) < cfg.sharedUse m (port, j) →
        cfg.resumeThreshold m (getIngressSP (port, j)) ≤ cfg.sharedUse m (port, j))
  else ∀ j, m.usedIngressPGBytes (port, j) < cfg.pgSharedLimitCellOff →
    m.usedIngressPortBytes port < cfg.portMinCellOff →
      m.usedIngressPortBytes port ≤ cfg.portMaxSharedCell ∧
        (j = qIndex → m.usedIngressPGBytes (port, j) ≤ cfg.pgSharedLimitCell)

end PfcConfig

/-! ## What a call sends for a class -/

namespace PfcState

variable {cfg : PfcConfig} {m : MmuCounters} {st : PfcState} {inDev : PortIdx}
  {qIndex j : QueueIdx}

/-- The frames of a list for a class. -/
def framesFor (j : QueueIdx) (frames : List (QueueIdx × PfcType)) : List PfcType :=
  (frames.filter fun frame => frame.1 = j).map Prod.snd

/-- The frames that `CheckAndSendPfc` sends for a class. -/
def framesOf (cfg : PfcConfig) (m : MmuCounters) (st : PfcState) (inDev : PortIdx)
    (qIndex j : QueueIdx) : List PfcType :=
  framesFor j (st.checkAndSendPfc cfg m inDev qIndex).2

/-- All that the loops keep of a class: its flags and what it was sent. -/
structure ClassView where
  paused : Bool
  pauseRemote : Bool
  frames : List PfcType

def classView (inDev : PortIdx) (j : QueueIdx) (acc : PfcState × List (QueueIdx × PfcType)) :
    ClassView where
  paused := acc.1.paused (inDev, j)
  pauseRemote := acc.1.pauseRemote (inDev, j)
  frames := framesFor j acc.2

theorem framesFor_append_self (frames : List (QueueIdx × PfcType)) (j : QueueIdx) (type : PfcType) :
    framesFor j (frames ++ [(j, type)]) = framesFor j frames ++ [type] := by
  simp [framesFor]

theorem framesFor_append_of_ne (frames : List (QueueIdx × PfcType)) {i j : QueueIdx}
    (hNe : i ≠ j) (type : PfcType) :
    framesFor j (frames ++ [(i, type)]) = framesFor j frames := by
  simp [framesFor, hNe]

/-! ### The bodies of the loops -/

section Bodies

variable (acc : PfcState × List (QueueIdx × PfcType))

theorem classView_pauseClass_of_ne {pClasses : QueueIdx → Bool} {i : QueueIdx} (hNe : i ≠ j) :
    classView inDev j (pauseClass pClasses inDev acc i) = classView inDev j acc := by
  have hCell : (inDev, j) ≠ (inDev, i) := fun hEq => hNe (Prod.mk.inj hEq).2.symm
  unfold pauseClass
  split
  · simp [classView, setPause, update_of_ne hCell, framesFor_append_of_ne _ hNe]
  · rfl

theorem classView_pauseClass {pClasses : QueueIdx → Bool} :
    classView inDev j (pauseClass pClasses inDev acc j) =
      if pClasses j then ⟨true, true, framesFor j acc.2 ++ [.pause]⟩
      else classView inDev j acc := by
  unfold pauseClass
  split
  · simp [classView, setPause, framesFor_append_self]
  · rfl

theorem classView_resumeClass_of_ne {i : QueueIdx} (hNe : i ≠ j) :
    classView inDev j (resumeClass cfg m inDev acc i) = classView inDev j acc := by
  have hCell : (inDev, j) ≠ (inDev, i) := fun hEq => hNe (Prod.mk.inj hEq).2.symm
  unfold resumeClass
  split
  · rfl
  split
  · simp [classView, setResume, update_of_ne hCell, framesFor_append_of_ne _ hNe]
  · rfl

theorem classView_resumeClass :
    classView inDev j (resumeClass cfg m inDev acc j) =
      if acc.1.pauseRemote (inDev, j) ∧ acc.1.paused (inDev, j) ∧ cfg.resumeTest m (inDev, j) then
        ⟨false, false, framesFor j acc.2 ++ [.resume]⟩
      else classView inDev j acc := by
  unfold resumeClass
  cases hRemote : acc.1.pauseRemote (inDev, j) with
  | false => simp
  | true =>
    by_cases hResume : cfg.getResumeClasses m acc.1 (inDev, j) = true
    · rw [if_neg (by simp), if_pos hResume,
        if_pos ⟨rfl, PfcConfig.getResumeClasses_iff.mp hResume⟩]
      simp [classView, setResume, framesFor_append_self]
    · rw [if_neg (by simp), if_neg hResume,
        if_neg fun h => hResume (PfcConfig.getResumeClasses_iff.mpr h.2)]

end Bodies

/-! ### The loops -/

theorem classView_pauseLoop {pClasses : QueueIdx → Bool}
    (acc : PfcState × List (QueueIdx × PfcType)) :
    classView inDev j ((List.finRange qCnt).foldl (pauseClass pClasses inDev) acc) =
      classView inDev j (pauseClass pClasses inDev acc j) := by
  refine foldl_view (fun b i hNe => classView_pauseClass_of_ne b hNe) (fun b b' hView => ?_)
    (List.nodup_finRange qCnt) (List.mem_finRange j) acc
  rw [classView_pauseClass, classView_pauseClass, hView,
    show framesFor j b.2 = framesFor j b'.2 from congrArg ClassView.frames hView]

theorem classView_resumeLoop (acc : PfcState × List (QueueIdx × PfcType)) :
    classView inDev j ((List.finRange qCnt).foldl (resumeClass cfg m inDev) acc) =
      classView inDev j (resumeClass cfg m inDev acc j) := by
  refine foldl_view (fun b i hNe => classView_resumeClass_of_ne b hNe) (fun b b' hView => ?_)
    (List.nodup_finRange qCnt) (List.mem_finRange j) acc
  have hPaused : b.1.paused (inDev, j) = b'.1.paused (inDev, j) :=
    congrArg ClassView.paused hView
  have hRemote : b.1.pauseRemote (inDev, j) = b'.1.pauseRemote (inDev, j) :=
    congrArg ClassView.pauseRemote hView
  have hFrames : framesFor j b.2 = framesFor j b'.2 := congrArg ClassView.frames hView
  rw [classView_resumeClass, classView_resumeClass, hView, hPaused, hRemote, hFrames]

/-- The RESUME comes after the PAUSE, which sets the flags that it asks for. -/
theorem framesOf_eq : framesOf cfg m st inDev qIndex j =
    (if cfg.getPauseClasses m inDev qIndex j then [.pause] else []) ++
      (if (cfg.getPauseClasses m inDev qIndex j ∨
          (st.pauseRemote (inDev, j) ∧ st.paused (inDev, j))) ∧ cfg.resumeTest m (inDev, j) then
        [.resume]
      else []) := by
  have hView := @classView_pauseLoop inDev j (cfg.getPauseClasses m inDev qIndex) (st, [])
  rw [classView_pauseClass] at hView
  have hFrames : framesOf cfg m st inDev qIndex j = (classView inDev j
      ((List.finRange qCnt).foldl (resumeClass cfg m inDev)
        ((List.finRange qCnt).foldl (pauseClass (cfg.getPauseClasses m inDev qIndex) inDev)
          (st, [])))).frames := rfl
  rw [hFrames, classView_resumeLoop, classView_resumeClass]
  generalize (List.finRange qCnt).foldl (pauseClass (cfg.getPauseClasses m inDev qIndex) inDev)
    (st, []) = acc at hView ⊢
  by_cases hPause : cfg.getPauseClasses m inDev qIndex j = true
  · rw [if_pos hPause] at hView
    have hPaused : acc.1.paused (inDev, j) = true := congrArg ClassView.paused hView
    have hRemote : acc.1.pauseRemote (inDev, j) = true := congrArg ClassView.pauseRemote hView
    have hSent : framesFor j acc.2 = [.pause] := congrArg ClassView.frames hView
    rw [hView, hPaused, hRemote, hSent, if_pos hPause]
    by_cases hTest : cfg.resumeTest m (inDev, j)
    · rw [if_pos ⟨rfl, rfl, hTest⟩, if_pos ⟨.inl hPause, hTest⟩]
    · rw [if_neg fun h => hTest h.2.2, if_neg fun h => hTest h.2]
      rfl
  · rw [if_neg hPause] at hView
    have hPaused : acc.1.paused (inDev, j) = st.paused (inDev, j) :=
      congrArg ClassView.paused hView
    have hRemote : acc.1.pauseRemote (inDev, j) = st.pauseRemote (inDev, j) :=
      congrArg ClassView.pauseRemote hView
    have hSent : framesFor j acc.2 = [] := congrArg ClassView.frames hView
    rw [hView, hPaused, hRemote, hSent, if_neg hPause]
    by_cases hResume : st.pauseRemote (inDev, j) = true ∧ st.paused (inDev, j) = true ∧
        cfg.resumeTest m (inDev, j)
    · rw [if_pos hResume, if_pos ⟨.inr ⟨hResume.1, hResume.2.1⟩, hResume.2.2⟩]
    · rw [if_neg hResume, if_neg]
      · rfl
      · rintro ⟨hEither, hTest⟩
        rcases hEither with hNow | hBefore
        · exact hPause hNow
        · exact hResume ⟨hBefore.1, hBefore.2, hTest⟩

theorem pause_mem_framesOf_iff :
    .pause ∈ framesOf cfg m st inDev qIndex j ↔
      cfg.getPauseClasses m inDev qIndex j = true := by
  rw [framesOf_eq, List.mem_append]
  constructor
  · rintro (hPause | hResume)
    · by_contra hNot
      rw [if_neg hNot] at hPause
      cases hPause
    · split at hResume <;> simp at hResume
  · intro hPause
    rw [if_pos hPause]
    exact .inl List.mem_cons_self

theorem resume_mem_framesOf_iff :
    .resume ∈ framesOf cfg m st inDev qIndex j ↔
      (cfg.getPauseClasses m inDev qIndex j = true ∨
        (st.pauseRemote (inDev, j) = true ∧ st.paused (inDev, j) = true)) ∧
        cfg.resumeTest m (inDev, j) := by
  rw [framesOf_eq, List.mem_append]
  constructor
  · rintro (hPause | hResume)
    · split at hPause <;> simp at hPause
    · by_contra hNot
      rw [if_neg hNot] at hResume
      cases hResume
  · intro hResume
    rw [if_pos hResume]
    exact .inr List.mem_cons_self

/-! ## Decisions of a class -/

/-- Two states that are the same for a class: its counters and flags, and the counters that are not
those of a class. -/
structure SameClass (inDev : PortIdx) (j : QueueIdx) (m m' : MmuCounters) (st st' : PfcState) :
    Prop where
  pg : m'.usedIngressPGBytes (inDev, j) = m.usedIngressPGBytes (inDev, j)
  headroom : m'.usedIngressPGHeadroomBytes (inDev, j) = m.usedIngressPGHeadroomBytes (inDev, j)
  pools : m'.usedIngressSPBytes = m.usedIngressSPBytes
  port : m'.usedIngressPortBytes = m.usedIngressPortBytes
  total : m'.usedTotalBytes = m.usedTotalBytes
  paused : st'.paused (inDev, j) = st.paused (inDev, j)
  pauseRemote : st'.pauseRemote (inDev, j) = st.pauseRemote (inDev, j)

/-- What a call sends for a class does not change with the counters of the other classes. -/
def PerClass (cfg : PfcConfig) (m : MmuCounters) (st : PfcState) (inDev : PortIdx)
    (qIndex : QueueIdx) : Prop :=
  ∀ j m' st', SameClass inDev j m m' st st' →
    framesOf cfg m' st' inDev qIndex j = framesOf cfg m st inDev qIndex j

/-- No class is sent a PAUSE and a RESUME. -/
def NeverBoth (cfg : PfcConfig) (m : MmuCounters) (st : PfcState) (inDev : PortIdx)
    (qIndex : QueueIdx) : Prop :=
  ∀ j, ¬(.pause ∈ framesOf cfg m st inDev qIndex j ∧ .resume ∈ framesOf cfg m st inDev qIndex j)

theorem neverBoth_iff : NeverBoth cfg m st inDev qIndex ↔
    ∀ j, cfg.getPauseClasses m inDev qIndex j = true → ¬cfg.resumeTest m (inDev, j) := by
  unfold NeverBoth
  refine forall_congr' fun j => ?_
  rw [pause_mem_framesOf_iff, resume_mem_framesOf_iff]
  constructor
  · intro hNot hPause hTest
    exact hNot ⟨hPause, .inl hPause, hTest⟩
  · rintro hNot ⟨hPause, -, hTest⟩
    exact hNot hPause hTest

theorem SameClass.sharedUse {m' : MmuCounters} {st' : PfcState}
    (hSame : SameClass inDev j m m' st st') :
    cfg.sharedUse m' (inDev, j) = cfg.sharedUse m (inDev, j) := by
  unfold PfcConfig.sharedUse
  rw [hSame.pg]

theorem SameClass.pauseThreshold {m' : MmuCounters} {st' : PfcState}
    (hSame : SameClass inDev j m m' st st') (sp : Fin 4) :
    cfg.pauseThreshold m' sp = cfg.pauseThreshold m sp := by
  unfold PfcConfig.pauseThreshold
  rw [hSame.pools]

theorem SameClass.resumeTest_iff {m' : MmuCounters} {st' : PfcState}
    (hSame : SameClass inDev j m m' st st') :
    cfg.resumeTest m' (inDev, j) ↔ cfg.resumeTest m (inDev, j) := by
  unfold PfcConfig.resumeTest
  rw [hSame.sharedUse, hSame.pg, hSame.headroom, hSame.port]
  unfold PfcConfig.resumeThreshold
  rw [hSame.pools]

/-- The decision to send a RESUME is always that of the class. -/
theorem framesOf_congr {m' : MmuCounters} {st' : PfcState}
    (hSame : SameClass inDev j m m' st st')
    (hPause : cfg.getPauseClasses m' inDev qIndex j = true ↔
      cfg.getPauseClasses m inDev qIndex j = true) :
    framesOf cfg m' st' inDev qIndex j = framesOf cfg m st inDev qIndex j := by
  rw [framesOf_eq, framesOf_eq, hSame.paused, hSame.pauseRemote]
  congr 1
  · exact if_congr hPause rfl rfl
  · exact if_congr (and_congr (or_congr hPause Iff.rfl) hSame.resumeTest_iff) rfl rfl

/-- The counters with another headroom for one class. -/
def withHeadroom (m : MmuCounters) (c : Cell) (bytes : Nat) : MmuCounters :=
  { m with usedIngressPGHeadroomBytes := update m.usedIngressPGHeadroomBytes c bytes }

theorem sameClass_withHeadroom (m : MmuCounters) (st : PfcState) (inDev : PortIdx)
    {qIndex j : QueueIdx} (hNe : j ≠ qIndex) (bytes : Nat) :
    SameClass inDev j m (withHeadroom m (inDev, qIndex) bytes) st st where
  pg := rfl
  headroom := update_of_ne (fun hEq => hNe (Prod.mk.inj hEq).2) _ _
  pools := rfl
  port := rfl
  total := rfl
  paused := rfl
  pauseRemote := rfl

/-- With dynamic thresholds the headroom of the triggering queue decides for every class between
its guarantees and the threshold. -/
theorem perClass_dynamic_iff (hMode : cfg.dynamicth = true) :
    PerClass cfg m st inDev qIndex ↔ ∀ j, j ≠ qIndex →
      addU32 cfg.pgMinCell cfg.portMinCell < m.usedIngressPGBytes (inDev, j) →
      cfg.pauseThreshold m (getIngressSP (inDev, qIndex)) < cfg.sharedUse m (inDev, j) := by
  constructor
  · intro hPerClass j hNe hAbove
    have hZero := hPerClass j _ _ (sameClass_withHeadroom m st inDev hNe 0)
    have hOne := hPerClass j _ _ (sameClass_withHeadroom m st inDev hNe 1)
    have hPause : .pause ∈ framesOf cfg (withHeadroom m (inDev, qIndex) 1) st inDev qIndex j := by
      rw [pause_mem_framesOf_iff, PfcConfig.getPauseClasses_dynamic_iff hMode]
      refine ⟨hAbove, .inr ?_⟩
      show update m.usedIngressPGHeadroomBytes (inDev, qIndex) 1 (inDev, qIndex) ≠ 0
      rw [update_self]
      exact one_ne_zero
    rw [hOne, ← hZero, pause_mem_framesOf_iff, PfcConfig.getPauseClasses_dynamic_iff hMode]
      at hPause
    rcases hPause.2 with hOver | hHeadroom
    · exact hOver
    · exact absurd (update_self (inDev, qIndex) 0 m.usedIngressPGHeadroomBytes) hHeadroom
  · intro hOver j m' st' hSame
    refine framesOf_congr hSame ?_
    rw [PfcConfig.getPauseClasses_dynamic_iff hMode, PfcConfig.getPauseClasses_dynamic_iff hMode,
      hSame.pg, hSame.pauseThreshold, hSame.sharedUse]
    refine and_congr_right fun hAbove => ?_
    by_cases hNe : j = qIndex
    · subst hNe
      rw [hSame.headroom]
    · have hUse := hOver j hNe hAbove
      exact ⟨fun _ => .inl hUse, fun _ => .inl hUse⟩

/-- With fixed thresholds the triggering queue alone is asked, and for its own bytes. -/
theorem perClass_static (hMode : cfg.dynamicth = false) : PerClass cfg m st inDev qIndex := by
  intro j m' st' hSame
  refine framesOf_congr hSame ?_
  rw [PfcConfig.getPauseClasses_static_iff hMode, PfcConfig.getPauseClasses_static_iff hMode,
    hSame.pg, hSame.port]

/-- The decisions of a call are those of the classes, and no class is sent both frames, in exactly
the states where the counters decide alone. -/
theorem perClass_iff :
    PerClass cfg m st inDev qIndex ∧ NeverBoth cfg m st inDev qIndex ↔
      cfg.DecidesAlone m inDev qIndex := by
  rw [neverBoth_iff]
  unfold PfcConfig.DecidesAlone
  cases hMode : cfg.dynamicth with
  | true =>
    rw [perClass_dynamic_iff hMode, if_pos rfl]
    unfold PfcConfig.resumeTest
    simp only [hMode, if_true]
    constructor
    · rintro ⟨hOver, hNever⟩ j hAbove
      refine ⟨fun hNe => hOver j hNe hAbove, fun hHeadroom hUse => ?_⟩
      refine not_lt.mp fun hResume => hNever j ?_ ⟨hResume, hHeadroom⟩
      exact (PfcConfig.getPauseClasses_dynamic_iff hMode).mpr ⟨hAbove, .inl hUse⟩
    · intro hAlone
      refine ⟨fun j hNe hAbove => (hAlone j hAbove).1 hNe, ?_⟩
      rintro j hPause ⟨hResume, hHeadroom⟩
      obtain ⟨hAbove, hEither⟩ := (PfcConfig.getPauseClasses_dynamic_iff hMode).mp hPause
      have hUse : cfg.pauseThreshold m (getIngressSP (inDev, qIndex)) <
          cfg.sharedUse m (inDev, j) := by
        rcases hEither with hOver | hTrigger
        · exact hOver
        · refine (hAlone j hAbove).1 fun hEq => hTrigger ?_
          rw [← hEq, hHeadroom]
      exact absurd hResume (not_lt.mpr ((hAlone j hAbove).2 hHeadroom hUse))
  | false =>
    rw [if_neg Bool.false_ne_true]
    unfold PfcConfig.resumeTest
    simp only [hMode, Bool.false_eq_true, if_false]
    constructor
    · rintro ⟨-, hNever⟩ j hClass hPort
      constructor
      · refine not_lt.mp fun hOver => hNever j ?_ ⟨hClass, hPort⟩
        exact (PfcConfig.getPauseClasses_static_iff hMode).mpr (.inl hOver)
      · refine fun hEq => not_lt.mp fun hOver => hNever j ?_ ⟨hClass, hPort⟩
        exact (PfcConfig.getPauseClasses_static_iff hMode).mpr (.inr ⟨hEq, hOver⟩)
    · intro hAlone
      refine ⟨perClass_static hMode, ?_⟩
      rintro j hPause ⟨hClass, hPort⟩
      obtain ⟨hMax, hLimit⟩ := hAlone j hClass hPort
      rcases (PfcConfig.getPauseClasses_static_iff hMode).mp hPause with hOver | ⟨hEq, hOver⟩
      · exact absurd hOver (not_lt.mpr hMax)
      · exact absurd hOver (not_lt.mpr (hLimit hEq))

/-! ## A class between two decisions -/

/-- The thresholds of a 12-port switch with dynamic thresholds. -/
def dynamicConfig : PfcConfig where
  maxBufferBytes := 12 * 200 * 1000
  pgMinCell := 1048
  portMinCell := 1048
  bufferCellLimitSp := 12 * 200 * 1000 - 12 * 14596 - 12 * (8 * 1048)
  pgHdrmLimit := fun _ => 14596
  opBufferSharedLimitCell := 12 * 200 * 1000 - 12 * (8 * 1048)
  opUcPortConfigCell := 12 * 200 * 1000
  opUcPortConfig1Cell := 12 * 200 * 1000
  qMinCell := 1049
  pgSharedAlphaCellEgress := 1
  tlt := false
  maxBytesTltUip := 0
  tltUimpDropRate := 0
  dynamicth := true
  pgSharedAlphaCell := 1 / 16
  pgSharedAlphaCellOffDiff := 16
  pgSharedLimitCell := 12 * 200 * 1000
  portMaxSharedCell := 12 * 200 * 1000
  pgSharedLimitCellOff := 12 * 200 * 1000 - 2 * 1048
  portMinCellOff := 4700 * 1048

/-- Class 3 of port 1 still has bytes in its headroom, class 4 has a few packets. -/
def oneHeadroom : MmuCounters where
  usedTotalBytes := 1000000
  usedIngressSPBytes := fun _ => 1000000
  usedIngressPortBytes := fun i => if i = 1 then 203000 else 0
  usedIngressPGBytes := fun c => if c = (1, 3) then 200000 else if c = (1, 4) then 3000 else 0
  usedIngressPGHeadroomBytes := fun c => if c = (1, 3) then 1000 else 0

/-- A packet of class 3 sends class 4 a PAUSE and a RESUME, for the headroom of class 3: without it
class 4 is sent nothing. -/
theorem class_paused_and_resumed :
    framesOf dynamicConfig oneHeadroom {} 1 3 4 = [.pause, .resume] ∧
      framesOf dynamicConfig (withHeadroom oneHeadroom (1, 3) 0) {} 1 3 4 = [] ∧
      ¬PerClass dynamicConfig oneHeadroom {} 1 3 ∧ ¬NeverBoth dynamicConfig oneHeadroom {} 1 3 := by
  have hBoth : framesOf dynamicConfig oneHeadroom {} 1 3 4 = [.pause, .resume] := by
    decide +kernel
  have hNone : framesOf dynamicConfig (withHeadroom oneHeadroom (1, 3) 0) {} 1 3 4 = [] := by
    decide +kernel
  refine ⟨hBoth, hNone, fun hPerClass => ?_, fun hNever => ?_⟩
  · have hNe : (4 : QueueIdx) ≠ 3 := by decide
    have hSame := hPerClass 4 _ _ (sameClass_withHeadroom oneHeadroom {} 1 hNe 0)
    rw [hBoth, hNone] at hSame
    cases hSame
  · have hNot := hNever 4
    rw [hBoth] at hNot
    exact hNot ⟨by decide, by decide⟩

end PfcState

end Dpdq.Ns3
