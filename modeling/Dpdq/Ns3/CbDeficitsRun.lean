import Dpdq.Ns3.CbDeficits
import Dpdq.Ns3.CbSchedulerRun

/-!
# Fairness of the deficit scheduler

The host of `CbNode` with the deficits of its receivers. For every receiver it counts the rounds that
the receiver has been a candidate in since it was last selected.

* `deficit_scheduler_fair`: while one candidate of each round has the fewest bytes left, quanta sum to
  1, deficits stay below the number of candidates and nobody waits for long.
* `tied_quanta_exceed_one`: two candidates with equally many bytes left get an SRPT share each.
-/

namespace Dpdq.Ns3

open Function
open Dpdq.Lib

namespace CbSender

/-- The deficits by receiver address. A receiver without a state has none. -/
def Deficits : Type := { d : Nat → ℚ // ∀ addr, 0 ≤ d addr }

/-- The order in which `m_receiverStates` is iterated over. -/
structure IterationOrder where
  arrange : List ReceiverCandidate → List ReceiverCandidate
  perm : ∀ cs, (arrange cs).Perm cs

theorem IterationOrder.arrange_eq_nil (o : IterationOrder) {cs : List ReceiverCandidate} :
    o.arrange cs = [] ↔ cs = [] := by
  constructor
  · intro hNone
    exact List.nil_perm.mp (hNone ▸ o.perm cs)
  · intro hNone
    exact List.perm_nil.mp (hNone ▸ o.perm cs)

/-- A round, on the candidates in their order. -/
def Deficits.round (ratio : ℚ) (d : Deficits) (cs : List ReceiverCandidate) :
    Option ReceiverCandidate × Deficits :=
  ((deficitRound ratio cs d.val).1,
    ⟨(deficitRound ratio cs d.val).2, deficitRound_nonneg d.property⟩)

theorem Deficits.round_selected (ratio : ℚ) (d : Deficits) {cs : List ReceiverCandidate}
    (hSome : cs ≠ []) : ∃ best ∈ cs, (d.round ratio cs).1 = some best := by
  obtain ⟨best, hMem, hPick, -⟩ :=
    pickDeficit_spec (@topDeficits_nonneg ratio cs d.val d.property) hSome
  refine ⟨best, hMem, ?_⟩
  unfold Deficits.round deficitRound
  dsimp only
  rw [hPick]

/-- The choices of the scheduler: the sort is given, the deficits decide about the receivers. -/
def deficitChoice (ratio : ℚ) (d : Deficits) (o : IterationOrder) (choice : SchedulerChoice) :
    SchedulerChoice where
  sortMsgs := choice.sortMsgs
  sortMsgs_perm := choice.sortMsgs_perm
  sortMsgs_sorted := choice.sortMsgs_sorted
  bestDeficit cs := (d.round ratio (o.arrange cs)).1
  bestDeficit_mem cs c h := by
    by_cases hNone : o.arrange cs = []
    · rw [hNone] at h
      have hRound := congrArg Prod.fst (deficitRound_nil ratio d.val)
      exact absurd (hRound.symm.trans h) nofun
    · obtain ⟨best, hMem, hBest⟩ := d.round_selected ratio hNone
      obtain rfl := Option.some.inj (hBest.symm.trans h)
      exact (o.perm cs).subset hMem
  bestDeficit_isSome cs h := by
    obtain ⟨best, -, hBest⟩ :=
      d.round_selected ratio (fun hNone => h (o.arrange_eq_nil.mp hNone))
    rw [hBest]
    rfl

end CbSender

/-! ## The host -/

/-- A call outside the round-robin policy. -/
structure SchedRound where
  candidates : List CbSender.ReceiverCandidate
  quanta : List ℚ
  selected : Option CbSender.ReceiverCandidate
deriving DecidableEq, Repr

/-- A host with its deficits and its calls so far, the last one first. -/
structure DeficitNode where
  node : CbNode
  deficits : CbSender.Deficits := ⟨fun _ => 0, fun _ => le_refl 0⟩
  waited : Nat → Nat := fun _ => 0
  rounds : List SchedRound := []

namespace DeficitNode

variable (cfg : CbNodeConfig) (ratio : ℚ)

/-- A receiver that has lost its state has no deficit. -/
def settle (w : DeficitNode) : DeficitNode :=
  { w with
    deficits := ⟨fun addr => if addr ∈ w.node.tx.receiverStates.keys then w.deficits.val addr else 0,
      fun addr => by
        dsimp only
        split
        · exact w.deficits.property addr
        · exact le_refl 0⟩
    waited := fun addr => if addr ∈ w.node.tx.receiverStates.keys then w.waited addr else 0 }

/-- The rounds that a receiver has waited for, behind another one. -/
def waitedBehind (w : DeficitNode) (cs : List CbSender.ReceiverCandidate)
    (selected : Option CbSender.ReceiverCandidate) (addr : Nat) : Nat :=
  if addr ∈ CbSender.addrs cs ∧ selected.map CbSender.ReceiverCandidate.receiverAddr ≠ some addr then
    w.waited addr + 1
  else 0

/-- The bookkeeping of a call. -/
def count (w : DeficitNode) (cs : List CbSender.ReceiverCandidate) : DeficitNode :=
  let (selected, deficits) := w.deficits.round ratio cs
  { w with
    deficits
    waited := w.waitedBehind cs selected
    rounds := {
      candidates := cs
      quanta := cs.map (CbSender.schedQuantum ratio cs)
      selected } :: w.rounds }

/-- The candidates of a call. A call that finds no QPs in the group, or is under the round-robin policy,
does not come to them. -/
def roundOf (w : DeficitNode) (n : Nic) (c : NicClock) (choice : CbSender.SchedulerChoice)
    (o : CbSender.IterationOrder) : Option (List CbSender.ReceiverCandidate) :=
  if cfg.senderSchedPolicy = .srpt ∧ n.qps ≠ [] then
    some (o.arrange (w.node.tx.candidates n c choice))
  else none

def step (w : DeficitNode) : CbNodeEvent × CbSender.IterationOrder → Option DeficitNode
  | (.dequeue nic c choice, o) => do
    let n ← w.node.nics[nic]?
    let node ← w.node.step cfg
      (.dequeue nic c (CbSender.deficitChoice ratio w.deficits o choice))
    let counted := (w.roundOf cfg n c choice o).elim w (w.count ratio)
    return { counted with node }.settle
  | (e, _) => do
    let node ← w.node.step cfg e
    return { w with node }.settle

/-- The condition on a call. -/
def Follows (w : DeficitNode) : CbNodeEvent × CbSender.IterationOrder → Prop
  | (.dequeue nic c choice, o) =>
    ∀ n ∈ w.node.nics[nic]?, ∀ cs ∈ w.roundOf cfg n c choice o, CbSender.OneHighPrio ratio cs
  | _ => True

instance (w : DeficitNode) (e : CbNodeEvent × CbSender.IterationOrder) :
    Decidable (w.Follows cfg ratio e) :=
  match e with
  | (.dequeue nic _ _, _) => inferInstanceAs (Decidable (∀ n ∈ w.node.nics[nic]?, _))
  | (.addQueuePair _ _ _ _ _ _, _) => inferInstanceAs (Decidable True)
  | (.receiveGrant _, _) => inferInstanceAs (Decidable True)
  | (.complete _ _, _) => inferInstanceAs (Decidable True)
  | (.redistribute _ _, _) => inferInstanceAs (Decidable True)

end DeficitNode

/-- A sending host after `Setup`, with a number of NICs and the ratio of its policy. -/
def deficitNode (cfg : CbNodeConfig) (ratio : ℚ) (nicCount : Nat) :
    Machine DeficitNode (CbNodeEvent × CbSender.IterationOrder) where
  init := { node := (cbNode cfg nicCount).init }
  step := DeficitNode.step cfg ratio

/-! ## The candidates of a call -/

namespace CbSender

variable {s : CbSender} {n : Nic} {c : NicClock} {choice : SchedulerChoice}

/-- A candidate stands for its receiver, and its index is that of a message to it. -/
theorem mem_candidates_spec (hEnrolled : s.Enrolled) {a : ReceiverCandidate}
    (ha : a ∈ s.candidates n c choice) : n.qps[a.qindex]? = some a.key ∧
      ∃ q, s.qpMap a.key = some q ∧ q.dip = a.receiverAddr := by
  obtain ⟨addr, hAddr, hCandidate⟩ := List.mem_filterMap.mp ha
  have hState : s.receiverStates.get? addr = some (s.receiverStates.val addr) :=
    Table.get?_eq_some.mpr ⟨(Finset.mem_sort _).mp hAddr, rfl⟩
  unfold candidateOf at hCandidate
  split at hCandidate
  · cases hCandidate
  obtain ⟨m, hSelect, hCandidate⟩ := Option.bind_eq_some_iff.mp hCandidate
  obtain ⟨idx, hIdx, rfl⟩ := Option.map_eq_some_iff.mp hCandidate
  obtain ⟨hIn, -⟩ := ((selectLocal_spec n.mtu _ _ none).1 m hSelect).resolve_left nofun
  obtain ⟨hListed, -, -, -⟩ := mem_localMsgs.mp ((choice.sortMsgs_perm _).mem_iff.mp hIn)
  exact ⟨(Nic.qindexOf_eq_some hIdx).2, hEnrolled.owned addr _ m.key hState hListed⟩

theorem candidateOf_receiverAddr {addr : Nat} {r : ReceiverState} {a : ReceiverCandidate}
    (h : s.candidateOf n c choice addr r = some a) : a.receiverAddr = addr := by
  unfold candidateOf at h
  split at h
  · cases h
  obtain ⟨m, -, h⟩ := Option.bind_eq_some_iff.mp h
  obtain ⟨idx, -, rfl⟩ := Option.map_eq_some_iff.mp h
  rfl

/-- Every receiver and every index has one candidate. -/
theorem candidates_distinct (hEnrolled : s.Enrolled) : Distinct (s.candidates n c choice) := by
  have hSublist (l : List Nat) : ((l.filterMap fun addr =>
      s.candidateOf n c choice addr (s.receiverStates.val addr)).map
        ReceiverCandidate.receiverAddr).Sublist l := by
    induction l with
    | nil => exact List.Sublist.refl _
    | cons addr l ih =>
      rw [List.filterMap_cons]
      split
      · exact ih.cons addr
      · rename_i a ha
        rw [List.map_cons, candidateOf_receiverAddr ha]
        exact ih.cons_cons addr
  have hAddrs : ((s.candidates n c choice).map ReceiverCandidate.receiverAddr).Nodup :=
    (Finset.sort_nodup _ _).sublist (hSublist _)
  refine ⟨hAddrs, ?_⟩
  intro a ha b hb hIndex
  obtain ⟨haKey, q, hq, haAddr⟩ := mem_candidates_spec hEnrolled ha
  obtain ⟨hbKey, r, hr, hbAddr⟩ := mem_candidates_spec hEnrolled hb
  have hKey : a.key = b.key := by
    rw [hIndex, hbKey] at haKey
    exact (Option.some.inj haKey).symm
  have hAddr : a.receiverAddr = b.receiverAddr := by
    rw [hKey, hr] at hq
    rw [← haAddr, ← hbAddr, Option.some.inj hq]
  exact List.inj_on_of_nodup_map hAddrs ha hb hAddr

end CbSender

/-! ## Runs -/

namespace DeficitNode

open CbSender

variable {cfg : CbNodeConfig} {ratio : ℚ} {w v : DeficitNode}

/-- The rounds so far had at most `most` candidates. -/
def AtMost (most : Nat) (w : DeficitNode) : Prop :=
  ∀ r ∈ w.rounds, r.candidates.length ≤ most

/-- Deficits are bounded, and who waits has gathered quanta. -/
structure FairUpTo (ratio : ℚ) (most : Nat) (w : DeficitNode) : Prop where
  bounded : DeficitScheduler.Bounded (most : ℚ) w.deficits.val
  gathered : ∀ addr, (w.waited addr : ℚ) * (1 - ratio) ≤ most * w.deficits.val addr

structure Fair (ratio : ℚ) (w : DeficitNode) : Prop where
  quanta : ∀ r ∈ w.rounds, r.candidates ≠ [] → r.quanta.sum = 1
  upTo : ∀ most, w.AtMost most → w.FairUpTo ratio most

theorem FairUpTo.settle {most : Nat} (h : w.FairUpTo ratio most) :
    w.settle.FairUpTo ratio most where
  bounded := by
    refine h.bounded.mono ?_
    intro addr
    unfold DeficitNode.settle
    dsimp only
    split
    · exact le_refl _
    · exact w.deficits.property addr
  gathered := by
    intro addr
    unfold DeficitNode.settle
    dsimp only
    split
    · exact h.gathered addr
    · simp

theorem Fair.settle (h : w.Fair ratio) : w.settle.Fair ratio where
  quanta := h.quanta
  upTo most hMost := (h.upTo most hMost).settle

/-- Nobody waits in a round without candidates. -/
theorem FairUpTo.count_nil {most : Nat} (ratio' : ℚ) :
    (w.count ratio' []).FairUpTo ratio most := by
  have hNone (addr : Nat) : (w.count ratio' []).deficits.val addr = 0 :=
    congrFun (congrArg Prod.snd (deficitRound_nil ratio' w.deficits.val)) addr
  refine ⟨?_, ?_⟩
  · intro F
    rw [Finset.sum_eq_zero fun addr _ => hNone addr]
    exact Nat.cast_nonneg most
  · intro addr
    rw [hNone]
    unfold DeficitNode.count waitedBehind
    simp [addrs]

/-- A round with candidates. -/
theorem FairUpTo.count (hRatio : 0 ≤ ratio ∧ ratio < 1) {most : Nat} (h : w.FairUpTo ratio most)
    {cs : List ReceiverCandidate} (hDistinct : Distinct cs) (hSome : cs ≠ [])
    (hLength : cs.length ≤ most) (hOne : OneHighPrio ratio cs) :
    (w.count ratio cs).FairUpTo ratio most := by
  obtain ⟨best, hMem, hRound, hBest⟩ :=
    @deficitRound_spec ratio cs w.deficits.val hDistinct w.deficits.property hSome
  have hSum : ∑ addr ∈ addrs cs, quantumOf ratio cs addr = 1 := by
    rw [sum_quantumOf hDistinct.addrs]
    exact (sum_schedQuantum_eq_one_iff ratio hSome).mpr hOne
  have hDeficits : (w.count ratio cs).deficits.val = DeficitScheduler.charge
      (DeficitScheduler.topped (addrs cs) (quantumOf ratio cs) 8 w.deficits.val)
        best.receiverAddr := congrArg Prod.snd hRound
  have hSelected : (w.deficits.round ratio cs).1 = some best := congrArg Prod.fst hRound
  have hCard : (((addrs cs).card : Nat) : ℚ) ≤ most := by
    have hLe : (addrs cs).card ≤ cs.length :=
      (List.toFinset_card_le _).trans (by rw [List.length_map])
    exact_mod_cast hLe.trans hLength
  have hNonneg := quantumOf_nonneg ratio cs
  refine ⟨?_, ?_⟩
  · rw [hDeficits]
    exact h.bounded.round hCard hSum hNonneg w.deficits.property
      (mem_addrs.mpr ⟨best, hMem, rfl⟩) hBest
  · intro addr
    have hWaited : (w.count ratio cs).waited addr = w.waitedBehind cs (some best) addr := by
      rw [← hSelected]
      rfl
    rw [hWaited]
    unfold waitedBehind
    split
    · rename_i hWaits
      obtain ⟨hAddr, hOther⟩ := hWaits
      have hNe : addr ≠ best.receiverAddr := fun hSame => hOther (by rw [hSame]; rfl)
      have hKept := @DeficitScheduler.le_of_waiting Nat ℚ _ _ _ _ (addrs cs) (quantumOf ratio cs)
        w.deficits.val 8 addr best.receiverAddr hNonneg hAddr hNe
      obtain ⟨c, hc, rfl⟩ := mem_addrs.mp hAddr
      have hShare := le_schedQuantum ratio cs c
      rw [policyRatio_eq hRatio.1 hRatio.2, ← quantumOf_receiverAddr hDistinct.addrs hc] at hShare
      have hLength' : (cs.length : ℚ) ≤ most := by exact_mod_cast hLength
      have hPositive : (0 : ℚ) < cs.length := by
        exact_mod_cast List.length_pos_iff.mpr hSome
      have hWhole : 1 - ratio ≤ most * (1 / (cs.length : ℚ) * (1 - ratio)) := by
        have hOnce : 1 ≤ (most : ℚ) * (1 / cs.length) := by
          rw [mul_one_div, le_div_iff₀ hPositive, one_mul]
          exact hLength'
        have hProduct := mul_le_mul_of_nonneg_right hOnce (by linarith : 0 ≤ 1 - ratio)
        linarith
      have hGathered := h.gathered c.receiverAddr
      rw [hDeficits]
      calc ((w.waited c.receiverAddr + 1 : Nat) : ℚ) * (1 - ratio)
          = w.waited c.receiverAddr * (1 - ratio) + (1 - ratio) := by
            push_cast
            ring
        _ ≤ most * w.deficits.val c.receiverAddr + most * (1 / (cs.length : ℚ) * (1 - ratio)) :=
            add_le_add hGathered hWhole
        _ ≤ most * (w.deficits.val c.receiverAddr + quantumOf ratio cs c.receiverAddr) := by
            rw [mul_add]
            exact add_le_add_right (mul_le_mul_of_nonneg_left hShare (Nat.cast_nonneg most)) _
        _ ≤ _ := mul_le_mul_of_nonneg_left hKept (Nat.cast_nonneg most)
    · have hNonneg' := (w.count ratio cs).deficits.property addr
      simp only [Nat.cast_zero, zero_mul]
      positivity

/-- A call. -/
theorem Fair.count (hRatio : 0 ≤ ratio ∧ ratio < 1) (h : w.Fair ratio)
    {cs : List ReceiverCandidate} (hDistinct : Distinct cs) (hOne : OneHighPrio ratio cs) :
    (w.count ratio cs).Fair ratio where
  quanta := by
    intro r hr hSome
    rcases List.mem_cons.mp hr with rfl | hOld
    · exact (sum_schedQuantum_eq_one_iff ratio hSome).mpr hOne
    · exact h.quanta r hOld hSome
  upTo := by
    intro most hMost
    have hBefore : w.AtMost most := fun r hr => hMost r (List.mem_cons_of_mem _ hr)
    have hLength : cs.length ≤ most := hMost _ List.mem_cons_self
    by_cases hSome : cs = []
    · rw [hSome]
      exact FairUpTo.count_nil ratio
    · exact (h.upTo most hBefore).count hRatio hDistinct hSome hLength hOne

theorem Fair.withNode (h : w.Fair ratio) (node : CbNode) : Fair ratio { w with node } :=
  ⟨h.quanta, fun most hMost => ⟨(h.upTo most hMost).bounded, (h.upTo most hMost).gathered⟩⟩

theorem Fair.step (hRatio : 0 ≤ ratio ∧ ratio < 1) (h : w.Fair ratio)
    (hEnrolled : w.node.tx.Enrolled) {e : CbNodeEvent × IterationOrder}
    (hFollows : w.Follows cfg ratio e) (hStep : w.step cfg ratio e = some v) :
    v.Fair ratio ∧ v.node.tx.Enrolled := by
  obtain ⟨e, o⟩ := e
  cases e with
  | dequeue nic c choice =>
    obtain ⟨n, hn, hStep⟩ := Option.bind_eq_some_iff.mp hStep
    obtain ⟨node, hNode, hStep⟩ := Option.bind_eq_some_iff.mp hStep
    obtain rfl := Option.some.inj hStep
    refine ⟨Fair.settle (Fair.withNode ?_ node), enrolled_step hEnrolled hNode⟩
    cases hRound : w.roundOf cfg n c choice o with
    | none => exact h
    | some cs =>
      have hDistinct : Distinct cs := by
        obtain ⟨-, rfl⟩ := Machine.of_guarded hRound
        exact (candidates_distinct hEnrolled).perm (o.perm _)
      exact h.count hRatio hDistinct (hFollows n hn cs hRound)
  | addQueuePair k dip dport size flowId nic =>
    obtain ⟨node, hNode, hStep⟩ := Option.bind_eq_some_iff.mp hStep
    obtain rfl := Option.some.inj hStep
    exact ⟨(h.withNode node).settle, enrolled_step hEnrolled hNode⟩
  | receiveGrant p =>
    obtain rfl := Option.some.inj hStep
    exact ⟨(h.withNode _).settle, (hEnrolled.receiveGrant p).1⟩
  | complete k flowId =>
    obtain rfl := Option.some.inj hStep
    exact ⟨(h.withNode _).settle, (hEnrolled.completeSenderQp k flowId).1⟩
  | redistribute order place =>
    obtain ⟨node, hNode, hStep⟩ := Option.bind_eq_some_iff.mp hStep
    obtain rfl := Option.some.inj hStep
    exact ⟨(h.withNode node).settle, enrolled_step hEnrolled hNode⟩

end DeficitNode

/-- Along every run in whose rounds one candidate has the fewest bytes left (or there is no SRPT
share), the quanta of a round sum to 1, the deficits lie between 0 and the largest number of
candidates, and a receiver that stays a candidate waits for no more rounds than the square of this
number over what the policy shares out evenly. -/
theorem deficit_scheduler_fair (cfg : CbNodeConfig) (nicCount : Nat) (ratio : ℚ)
    (hRatio : 0 ≤ ratio ∧ ratio < 1) {es : List (CbNodeEvent × CbSender.IterationOrder)}
    {w : DeficitNode}
    (hGuard : (deficitNode cfg ratio nicCount).Guarded (DeficitNode.Follows cfg ratio)
      (deficitNode cfg ratio nicCount).init es)
    (hRun : (deficitNode cfg ratio nicCount).run (deficitNode cfg ratio nicCount).init es =
      some w) :
    (∀ r ∈ w.rounds, r.candidates ≠ [] → r.quanta.sum = 1) ∧
      ∀ most, w.AtMost most → ∀ addr,
        0 ≤ w.deficits.val addr ∧ w.deficits.val addr ≤ most ∧
          (w.waited addr : ℚ) * (1 - ratio) ≤ most ^ 2 := by
  have hInv : w.Fair ratio ∧ w.node.tx.Enrolled := by
    refine Machine.guarded_induction (I := fun w => DeficitNode.Fair ratio w ∧ w.node.tx.Enrolled)
      ⟨⟨fun r hr => absurd hr List.not_mem_nil, fun most _ => ⟨?_, ?_⟩⟩,
        (enrolled_housed_init cfg nicCount).1⟩ ?_ hGuard hRun
    · intro F
      exact (Finset.sum_const_zero).trans_le (Nat.cast_nonneg most)
    · intro addr
      simp [deficitNode]
    · rintro u e v ⟨hFair, hEnrolled⟩ hFollows hStep
      exact hFair.step hRatio hEnrolled hFollows hStep
  refine ⟨hInv.1.quanta, ?_⟩
  intro most hMost addr
  obtain ⟨hBounded, hGathered⟩ := hInv.1.upTo most hMost
  refine ⟨w.deficits.property addr, hBounded.le addr, ?_⟩
  calc (w.waited addr : ℚ) * (1 - ratio) ≤ most * w.deficits.val addr := hGathered addr
    _ ≤ most * most := mul_le_mul_of_nonneg_left (hBounded.le addr) (Nat.cast_nonneg most)
    _ = most ^ 2 := (sq _).symm

/-! ## Two receivers -/

/-- The receivers in the order of their addresses. -/
def addressOrder : CbSender.IterationOrder := ⟨id, fun cs => List.Perm.refl cs⟩

/-- A message of `size` bytes to host 20, one of `size'` bytes to host 21, and a call. -/
def twoReceivers (size size' : Nat) : List (CbNodeEvent × CbSender.IterationOrder) :=
  [(.addQueuePair ⟨5001, 3⟩ 20 100 size 1 0, addressOrder),
    (.addQueuePair ⟨5002, 3⟩ 21 100 size' 2 0, addressOrder),
    (.dequeue 0 openClock stableChoice, addressOrder)]

/-- The sender with the two messages. -/
def tiedSender (size size' : Nat) : CbSender :=
  CbSender.addQueuePair srptHost.toCbSenderConfig
    (CbSender.addQueuePair srptHost.toCbSenderConfig {} ⟨5001, 3⟩
      { sip := 10, dip := 20, dport := 100, size, flowId := 1 })
    ⟨5002, 3⟩ { sip := 10, dip := 21, dport := 100, size := size', flowId := 2 }

/-- Both receivers are candidates. -/
theorem candidates_tiedSender {size size' : Nat} (cs : List CbSender.ReceiverCandidate)
    (h : [20, 21].filterMap (fun addr =>
      (tiedSender size size').candidateOf { qps := [⟨5001, 3⟩, ⟨5002, 3⟩], mtu := 1000 } openClock
        stableChoice addr ((tiedSender size size').receiverStates.val addr)) = cs) :
    (tiedSender size size').candidates { qps := [⟨5001, 3⟩, ⟨5002, 3⟩], mtu := 1000 } openClock
      stableChoice = cs := by
  have hKeys : (tiedSender size size').receiverStates.keys.sort (· ≤ ·) = [20, 21] := by
    show (({21, 20} : Finset Nat)).sort (· ≤ ·) = [20, 21]
    rw [Finset.pair_comm, Finset.sort_insert (· ≤ ·) (by decide) (by decide),
      Finset.sort_singleton]
  unfold CbSender.candidates
  rw [hKeys, h]

theorem deficit_scheduler_fair_twoReceivers : ∃ w,
    (deficitNode srptHost (1 / 2) 1).run (deficitNode srptHost (1 / 2) 1).init
      (twoReceivers 3000 5000) = some w ∧
      w.rounds.map (fun r => r.candidates.length) = [2] ∧
      ∀ addr, w.deficits.val addr ≤ 2 ∧ (w.waited addr : ℚ) * (1 - 1 / 2) ≤ 2 ^ 2 := by
  have hCandidates := @candidates_tiedSender 3000 5000
    [⟨20, ⟨5001, 3⟩, 0, 3000⟩, ⟨21, ⟨5002, 3⟩, 1, 5000⟩] (by decide +kernel)
  have hGuard : (deficitNode srptHost (1 / 2) 1).Guarded (DeficitNode.Follows srptHost (1 / 2))
      (deficitNode srptHost (1 / 2) 1).init (twoReceivers 3000 5000) := by
    refine ⟨trivial, fun next hNext => ⟨trivial, fun last hLast => ⟨?_, fun _ _ => trivial⟩⟩⟩
    obtain rfl := Option.some.inj hNext
    obtain rfl := Option.some.inj hLast
    intro n hn cs hcs
    obtain rfl := Option.some.inj hn
    have hSame : cs = [⟨20, ⟨5001, 3⟩, 0, 3000⟩, ⟨21, ⟨5002, 3⟩, 1, 5000⟩] :=
      (Option.some.inj hcs).symm.trans hCandidates
    rw [hSame]
    decide +kernel
  obtain ⟨w, hRun⟩ : ∃ w, (deficitNode srptHost (1 / 2) 1).run
      (deficitNode srptHost (1 / 2) 1).init (twoReceivers 3000 5000) = some w := ⟨_, rfl⟩
  have hLengths : w.rounds.map (fun r => r.candidates.length) = [2] := by
    obtain rfl := Option.some.inj hRun
    exact congrArg (fun cs => [List.length cs]) hCandidates
  have hMost : w.AtMost 2 := by
    intro r hr
    have hMem : r.candidates.length ∈ w.rounds.map fun r => r.candidates.length :=
      List.mem_map_of_mem hr
    rw [hLengths] at hMem
    exact (List.mem_singleton.mp hMem).le
  refine ⟨w, hRun, hLengths, ?_⟩
  intro addr
  have hFair := (deficit_scheduler_fair srptHost 1 (1 / 2) (by norm_num) hGuard hRun).2 2 hMost addr
  exact ⟨by exact_mod_cast hFair.2.1, by exact_mod_cast hFair.2.2⟩

/-- Two messages of the same size: each receiver gets the SRPT share, and the quanta sum to more
than 1. -/
theorem tied_quanta_exceed_one : ∃ w,
    (deficitNode srptHost (1 / 2) 1).run (deficitNode srptHost (1 / 2) 1).init
      (twoReceivers 3000 3000) = some w ∧
      ∃ r ∈ w.rounds, r.candidates ≠ [] ∧ r.quanta.sum = 3 / 2 := by
  have hCandidates := @candidates_tiedSender 3000 3000
    [⟨20, ⟨5001, 3⟩, 0, 3000⟩, ⟨21, ⟨5002, 3⟩, 1, 3000⟩] (by decide +kernel)
  refine ⟨_, rfl, _, List.mem_cons_self, ?_, ?_⟩
  · exact fun hNone => absurd (hCandidates.symm.trans hNone) nofun
  · have hQuanta : ([⟨20, ⟨5001, 3⟩, 0, 3000⟩, ⟨21, ⟨5002, 3⟩, 1, 3000⟩].map
        (CbSender.schedQuantum (1 / 2) [⟨20, ⟨5001, 3⟩, 0, 3000⟩, ⟨21, ⟨5002, 3⟩, 1, 3000⟩])).sum =
          3 / 2 := by
      decide +kernel
    rw [← hCandidates] at hQuanta
    exact hQuanta

end Dpdq.Ns3
