import Dpdq.Ns3.CbSchedulerAgree

/-!
# The scheduler along a run

* `enrolled_step`, `housed_step`: what a step of the host keeps.
* `scheduler_agrees`: in every state of a run the scheduler and the sender agree, when every step
  places the messages so that the unfinished ones stand at unmarked indices and, for the policy that
  picks one message for each receiver, on one NIC for each receiver.
-/

namespace Dpdq.Ns3

open Dpdq.Lib

namespace CbSender

/-! ## The sender -/

/-- Every operation on one message stores its QP and a state of its receiver that lists it. -/
theorem Enrolled.post {s : CbSender} (h : s.Enrolled) {k : TxKey} {r : ReceiverState}
    {q : QueuePair} (hDip : ∀ old, s.qpMap k = some old → old.dip = q.dip)
    (hEnabled : r.enabled = true)
    (hList : r.msgStates = (s.getOrCreateReceiverState q.dip k).msgStates)
    (hFinished : q.isFinished = true → q.bytesLeft = 0)
    (hFresh : q.usnsolCheckDone = false → q.bytesLeft ≠ 0 → q.Fresh) : (s.post k r q).Enrolled := by
  have hHere : k ∈ r.msgStates := by
    rw [hList, getOrCreateReceiverState]
    split
    · assumption
    · simp
  have hOld (old : ReceiverState) (hOld : s.receiverStates.get? q.dip = some old) (l : TxKey)
      (hl : l ∈ old.msgStates) : l ∈ r.msgStates := by
    rw [hList, getOrCreateReceiverState, hOld]
    simp only [Option.getD_some]
    split
    · exact hl
    · exact List.mem_append_left _ hl
  have hKnown (l : TxKey) (hl : l ∈ r.msgStates) (hNe : l ≠ k) :
      ∃ old, s.receiverStates.get? q.dip = some old ∧ l ∈ old.msgStates := by
    rw [hList, getOrCreateReceiverState] at hl
    cases hr : s.receiverStates.get? q.dip with
    | none =>
      rw [hr] at hl
      simp [hNe] at hl
    | some old =>
      refine ⟨old, rfl, ?_⟩
      rw [hr, Option.getD_some] at hl
      split at hl
      · exact hl
      · simpa [hNe] using hl
  have hLookup (l : TxKey) (q' : QueuePair) (hq' : (s.post k r q).qpMap l = some q') :
      (l = k ∧ q' = q) ∨ (l ≠ k ∧ s.qpMap l = some q') := by
    by_cases hl : l = k
    · subst hl
      left
      refine ⟨rfl, ?_⟩
      simpa [CbSender.post] using hq'.symm
    · right
      refine ⟨hl, ?_⟩
      simpa [CbSender.post, hl] using hq'
  refine ⟨fun l q' hq' => ?_, fun l q' hq' => ?_, fun l q' hq' hLeft => ?_, fun dip r' l hr' hl => ?_⟩
  · rcases hLookup l q' hq' with ⟨-, rfl⟩ | ⟨-, hs⟩
    · exact hFinished
    · exact h.finished l q' hs
  · rcases hLookup l q' hq' with ⟨-, rfl⟩ | ⟨-, hs⟩
    · exact hFresh
    · exact h.fresh l q' hs
  · rcases hLookup l q' hq' with ⟨rfl, rfl⟩ | ⟨-, hs⟩
    · exact ⟨r, Table.get?_set_self _ _ _, hEnabled, hHere⟩
    · obtain ⟨old, hr, hOldEnabled, hl⟩ := h.listed l q' hs hLeft
      by_cases hSame : q'.dip = q.dip
      · rw [hSame] at hr ⊢
        exact ⟨r, Table.get?_set_self _ _ _, hEnabled, hOld old hr l hl⟩
      · exact ⟨old, (Table.get?_set_of_ne _ _ hSame).trans hr, hOldEnabled, hl⟩
  · have hKept (l : TxKey) (hNe : l ≠ k) : (s.post k r q).qpMap l = s.qpMap l := by
      simp [CbSender.post, hNe]
    have hPut : (s.post k r q).qpMap k = some q := by simp [CbSender.post]
    by_cases hSame : dip = q.dip
    · subst hSame
      obtain rfl := Option.some.inj ((Table.get?_set_self _ _ _).symm.trans hr')
      by_cases hl' : l = k
      · rw [hl']
        exact ⟨q, hPut, rfl⟩
      · obtain ⟨old, hr, hOldL⟩ := hKnown l hl hl'
        obtain ⟨q', hq', hDip'⟩ := h.owned _ old l hr hOldL
        exact ⟨q', (hKept l hl').trans hq', hDip'⟩
    · have hr := (Table.get?_set_of_ne s.receiverStates r hSame).symm.trans hr'
      obtain ⟨q', hq', hDip'⟩ := h.owned dip r' l hr hl
      by_cases hl' : l = k
      · rw [hl'] at hq'
        exact absurd (hDip'.symm.trans (hDip q' hq')) hSame
      · exact ⟨q', (hKept l hl').trans hq', hDip'⟩

theorem classify_post (cfg : CbConfig) (r : ReceiverState) (q : QueuePair) :
    (classify cfg r q).1.enabled = r.enabled ∧ (classify cfg r q).1.msgStates = r.msgStates ∧
      (classify cfg r q).2.usnsolCheckDone = true := by
  unfold classify
  dsimp only
  split
  · split
    · exact ⟨rfl, rfl, rfl⟩
    · exact ⟨rfl, rfl, rfl⟩
  · exact ⟨rfl, rfl, rfl⟩

/-- What `GetNxtPacket` stores. -/
theorem getNxtPacket_post (cfg : CbSenderConfig) (s : CbSender) (k : TxKey) (q : QueuePair) :
    ∃ r q', (s.getNxtPacket cfg k q).1 = s.post k r q' ∧ r.enabled = true ∧
      r.msgStates = (s.getOrCreateReceiverState q.dip k).msgStates ∧ q.SameMessage q' ∧
      q'.usnsolCheckDone = true ∧ q.sndNxt ≤ q'.sndNxt := by
  unfold getNxtPacket
  dsimp only
  generalize hChecked : (if (!q.usnsolCheckDone) = true then
    classify cfg.toCbConfig { s.getOrCreateReceiverState q.dip k with enabled := true } q
    else ({ s.getOrCreateReceiverState q.dip k with enabled := true }, q)) = checked
  obtain ⟨hEnabled, hList, hDone, hSame, hNxt⟩ : checked.1.enabled = true ∧
      checked.1.msgStates = (s.getOrCreateReceiverState q.dip k).msgStates ∧
      checked.2.usnsolCheckDone = true ∧ q.SameMessage checked.2 ∧
      checked.2.sndNxt = q.sndNxt := by
    rw [← hChecked]
    split
    · obtain ⟨hEnabled, hList, hDone⟩ := classify_post cfg.toCbConfig
        { s.getOrCreateReceiverState q.dip k with enabled := true } q
      exact ⟨hEnabled, hList, hDone, (classify_spec _ q).1, (classify_spec _ q).2⟩
    · rename_i hDone
      exact ⟨rfl, rfl, by simpa using hDone, QueuePair.SameMessage.refl q, rfl⟩
  have hKeeps (r : QueuePair) (h : checked.2.SameMessage r) : q.SameMessage r := hSame.trans h
  split
  · split
    · exact ⟨_, _, rfl, hEnabled, hList, hKeeps _ ⟨rfl, rfl, rfl, rfl⟩, hDone, hNxt.ge⟩
    · exact ⟨_, _, rfl, hEnabled, hList, hKeeps _ ⟨rfl, rfl, rfl, rfl⟩, hDone, hNxt.ge⟩
  · split
    · exact ⟨_, _, rfl, hEnabled, hList, hKeeps _ ⟨rfl, rfl, rfl, rfl⟩, hDone, hNxt.ge⟩
    · refine ⟨_, _, rfl, hEnabled, hList, hKeeps _ ⟨rfl, rfl, rfl, rfl⟩, hDone, ?_⟩
      rw [← hNxt]
      exact Nat.le_add_right _ _

/-- `t` has the QPs of `s`, each no less finished and with no more bytes left. -/
structure Continues (s t : CbSender) : Prop where
  kept : ∀ k q, s.qpMap k = some q → ∃ q', t.qpMap k = some q' ∧
    (q.isFinished = true → q'.isFinished = true)
  back : ∀ k q', t.qpMap k = some q' → ∃ q, s.qpMap k = some q ∧ q'.dip = q.dip ∧
    q'.bytesLeft ≤ q.bytesLeft

theorem SameFlows.continues {s t : CbSender} (h : s.SameFlows t) : s.Continues t where
  kept k q hq := by
    obtain ⟨b, ht⟩ := h.qpMap hq
    exact ⟨_, ht, id⟩
  back k q' hq' := by
    obtain ⟨b, hs⟩ := h.symm.qpMap hq'
    exact ⟨_, hs, rfl, Nat.le_refl _⟩

theorem Continues.trans {s t u : CbSender} (h : s.Continues t) (h' : t.Continues u) :
    s.Continues u where
  kept k q hq := by
    obtain ⟨q', hq', hFinished⟩ := h.kept k q hq
    obtain ⟨q'', hq'', hFinished'⟩ := h'.kept k q' hq'
    exact ⟨q'', hq'', fun hq => hFinished' (hFinished hq)⟩
  back k q'' hq'' := by
    obtain ⟨q', hq', hDip, hLeft⟩ := h'.back k q'' hq''
    obtain ⟨q, hq, hDip', hLeft'⟩ := h.back k q' hq'
    exact ⟨q, hq, hDip.trans hDip', hLeft.trans hLeft'⟩

theorem continues_update {s t : CbSender} {k : TxKey} {q q' : QueuePair} (hq : s.qpMap k = some q)
    (ht : t.qpMap = Function.update s.qpMap k (some q')) (hDip : q'.dip = q.dip)
    (hFinished : q.isFinished = true → q'.isFinished = true)
    (hLeft : q'.bytesLeft ≤ q.bytesLeft) : s.Continues t where
  kept l r hr := by
    rw [ht]
    by_cases hl : l = k
    · subst hl
      obtain rfl := Option.some.inj (hq.symm.trans hr)
      exact ⟨q', Function.update_self _ _ _, hFinished⟩
    · exact ⟨r, (Function.update_of_ne hl _ _).trans hr, id⟩
  back l r hr := by
    rw [ht] at hr
    by_cases hl : l = k
    · subst hl
      rw [Function.update_self] at hr
      obtain rfl := Option.some.inj hr
      exact ⟨q, hq, hDip, hLeft⟩
    · exact ⟨r, (Function.update_of_ne hl _ _).symm.trans hr, rfl, Nat.le_refl _⟩

theorem SameFlows.enrolled_continues {s t : CbSender} (h : s.Enrolled) (hSame : s.SameFlows t) :
    t.Enrolled ∧ s.Continues t := ⟨h.sameFlows hSame, hSame.continues⟩

theorem Enrolled.getNxtPacket {s : CbSender} (h : s.Enrolled) (cfg : CbSenderConfig) {k : TxKey}
    {q : QueuePair} (hq : s.qpMap k = some q) :
    (s.getNxtPacket cfg k q).1.Enrolled ∧ s.Continues (s.getNxtPacket cfg k q).1 := by
  obtain ⟨r, q', hPost, hEnabled, hList, hSame, hDone, hNxt⟩ := getNxtPacket_post cfg s k q
  have hLeft : q'.bytesLeft ≤ q.bytesLeft := by
    unfold QueuePair.bytesLeft
    rw [hSame.size]
    omega
  rw [hPost]
  constructor
  · refine h.post (fun old hOld => ?_) hEnabled (hSame.dip ▸ hList) (fun hFinished => ?_)
      (fun hNot => absurd (hDone.symm.trans hNot) nofun)
    · obtain rfl := Option.some.inj (hq.symm.trans hOld)
      exact hSame.dip.symm
    · have := h.finished k q hq (hSame.isFinished ▸ hFinished)
      omega
  · exact continues_update hq rfl hSame.dip (fun hFinished => hSame.isFinished.trans hFinished) hLeft

theorem Enrolled.receiveGrant {s : CbSender} (h : s.Enrolled) (p : CbPacket) :
    (s.receiveGrant p).Enrolled ∧ s.Continues (s.receiveGrant p) := by
  refine ⟨?_, ?_⟩
  · unfold CbSender.receiveGrant
    dsimp only
    split
    · exact h
    · rename_i q hq
      have hUpdate : Function.update s.qpMap ⟨p.ch.dport, p.ch.pg⟩ (some q) = s.qpMap := by
        rw [← hq, Function.update_eq_self]
      refine (congrArg (fun m => CbSender.Enrolled ⟨_, m⟩) hUpdate).mp (h.post (q := q) ?_ ?_ ?_ ?_ ?_)
      · intro old hOld
        exact congrArg QueuePair.dip (Option.some.inj (hOld.symm.trans hq))
      · rfl
      · rfl
      · exact h.finished _ q hq
      · exact h.fresh _ q hq
  · have hMap := receiveGrant_qpMap s p
    refine ⟨fun k q hq => ⟨q, ?_, id⟩, fun k q hq => ⟨q, ?_, rfl, Nat.le_refl _⟩⟩
    · rw [hMap]
      exact hq
    · rw [hMap] at hq
      exact hq

/-- The receiver states once a message has left them. -/
theorem get?_cleanupReceiverState {s : CbSender} {k : TxKey} {dip addr : Nat} {r : ReceiverState}
    (h : (s.cleanupReceiverState k dip).receiverStates.get? addr = some r) :
    ∃ old, s.receiverStates.get? addr = some old ∧ r.enabled = old.enabled ∧
      ∀ l, l ∈ r.msgStates → l ∈ old.msgStates := by
  unfold cleanupReceiverState at h
  split at h
  · exact ⟨r, h, rfl, fun _ => id⟩
  · rename_i old hOld
    by_cases hSame : addr = dip
    · subst hSame
      dsimp only at h
      split at h
      · rw [Table.get?_erase_self] at h
        cases h
      · obtain rfl := Option.some.inj ((Table.get?_set_self _ _ _).symm.trans h)
        exact ⟨old, hOld, rfl, fun l hl => (List.mem_filter.mp hl).1⟩
    · refine ⟨r, ?_, rfl, fun _ => id⟩
      dsimp only at h
      split at h
      · exact (Table.get?_erase_of_ne _ hSame).symm.trans h
      · exact (Table.get?_set_of_ne _ _ hSame).symm.trans h

/-- The other messages stay listed. -/
theorem get?_cleanupReceiverState_of_mem {s : CbSender} {k l : TxKey} (dip : Nat) {addr : Nat}
    {r : ReceiverState} (hr : s.receiverStates.get? addr = some r) (hl : l ∈ r.msgStates)
    (hNe : l ≠ k) : ∃ r', (s.cleanupReceiverState k dip).receiverStates.get? addr = some r' ∧
      r'.enabled = r.enabled ∧ l ∈ r'.msgStates := by
  unfold cleanupReceiverState
  split
  · exact ⟨r, hr, rfl, hl⟩
  · rename_i old hOld
    dsimp only
    by_cases hSame : addr = dip
    · subst hSame
      obtain rfl := Option.some.inj (hr.symm.trans hOld)
      have hStays : l ∈ r.msgStates.filter (· ≠ k) := List.mem_filter.mpr ⟨hl, by simpa using hNe⟩
      rw [if_neg (List.ne_nil_of_mem hStays)]
      exact ⟨_, Table.get?_set_self _ _ _, rfl, hStays⟩
    · split
      · exact ⟨r, (Table.get?_erase_of_ne _ hSame).trans hr, rfl, hl⟩
      · exact ⟨r, (Table.get?_set_of_ne _ _ hSame).trans hr, rfl, hl⟩

theorem Enrolled.completeSenderQp {s : CbSender} (h : s.Enrolled) (k : TxKey) (flowId : Int) :
    (s.completeSenderQp k flowId).1.Enrolled ∧ s.Continues (s.completeSenderQp k flowId).1 := by
  unfold CbSender.completeSenderQp
  split
  · exact ⟨h, (SameFlows.refl s).continues⟩
  · rename_i q hq
    split
    · exact ⟨h, (SameFlows.refl s).continues⟩
    · dsimp only
      generalize hDone : ({ q with sndUna := q.size, sndNxt := max q.sndNxt q.size } : QueuePair) =
        done
      have hFinished : done.isFinished = true := by simp [← hDone, QueuePair.isFinished]
      have hNone : done.bytesLeft = 0 := by simp [← hDone, QueuePair.bytesLeft]
      have hDip : done.dip = q.dip := by rw [← hDone]
      constructor
      · have hLookup (l : TxKey) (r : QueuePair)
            (hr : (Function.update s.qpMap k (some done)) l = some r) :
            r = done ∨ (l ≠ k ∧ s.qpMap l = some r) := by
          by_cases hl : l = k
          · subst hl
            rw [Function.update_self] at hr
            exact Or.inl (Option.some.inj hr).symm
          · exact Or.inr ⟨hl, (Function.update_of_ne hl _ _).symm.trans hr⟩
        refine ⟨fun l r hr => ?_, fun l r hr => ?_, fun l r hr hLeft => ?_, fun dip r l hr hl => ?_⟩
        · rw [cleanupReceiverState_qpMap] at hr
          rcases hLookup l r hr with rfl | ⟨-, hs⟩
          · exact fun _ => hNone
          · exact h.finished l r hs
        · rw [cleanupReceiverState_qpMap] at hr
          rcases hLookup l r hr with rfl | ⟨-, hs⟩
          · exact fun _ hLeft => absurd hNone hLeft
          · exact h.fresh l r hs
        · rw [cleanupReceiverState_qpMap] at hr
          rcases hLookup l r hr with rfl | ⟨hNe, hs⟩
          · exact absurd hNone hLeft
          · obtain ⟨old, hOld, hEnabled, hl⟩ := h.listed l r hs hLeft
            obtain ⟨r', hr', hEnabled', hl'⟩ := get?_cleanupReceiverState_of_mem q.dip
              (s := { s with qpMap := Function.update s.qpMap k (some done) }) hOld hl hNe
            exact ⟨r', hr', hEnabled'.trans hEnabled, hl'⟩
        · obtain ⟨old, hOld, -, hList⟩ := get?_cleanupReceiverState hr
          obtain ⟨q', hq', hDip'⟩ := h.owned dip old l hOld (hList l hl)
          rw [cleanupReceiverState_qpMap]
          dsimp only
          by_cases hl' : l = k
          · subst hl'
            obtain rfl := Option.some.inj (hq.symm.trans hq')
            exact ⟨done, Function.update_self _ _ _, hDip.trans hDip'⟩
          · exact ⟨q', (Function.update_of_ne hl' _ _).trans hq', hDip'⟩
      · refine continues_update hq (cleanupReceiverState_qpMap _ k q.dip) hDip (fun _ => hFinished) ?_
        rw [hNone]
        exact Nat.zero_le _

end CbSender

/-! ## The NICs -/

namespace CbNode

variable {cfg : CbNodeConfig}

theorem Housed.continues {s : CbNode} (h : s.Housed cfg) {tx : CbSender}
    (hTx : s.tx.Continues tx) : ({ s with tx := tx } : CbNode).Housed cfg where
  mtu := h.mtu
  placed k q hq := by
    obtain ⟨old, hOld, -⟩ := hTx.back k q hq
    exact h.placed k old hOld
  known n hn k hk := by
    obtain ⟨q, hq⟩ := h.known n hn k hk
    obtain ⟨q', hq', -⟩ := hTx.kept k q hq
    exact ⟨q', hq'⟩
  marks n hn idx k q hMarked hk hq := by
    obtain ⟨old, hOld, -⟩ := hTx.back k q hq
    obtain ⟨q', hq', hFinished⟩ := hTx.kept k old hOld
    obtain rfl := Option.some.inj (hq.symm.trans hq')
    exact hFinished (h.marks n hn idx k old hMarked hk hOld)
  oneNic hPolicy i j n n' k k' q q' hi hj hk hk' hq hq' hLeft hLeft' hDip := by
    obtain ⟨old, hOld, hOldDip, hOldLeft⟩ := hTx.back k q hq
    obtain ⟨old', hOld', hOldDip', hOldLeft'⟩ := hTx.back k' q' hq'
    exact h.oneNic hPolicy i j n n' k k' old old' hi hj hk hk' hOld hOld' (by omega) (by omega)
      (hOldDip.symm.trans (hDip.trans hOldDip'))

theorem getElem?_set_cases {α : Type} {l : List α} {i j : Nat} {a b : α}
    (h : (l.set j b)[i]? = some a) : (i = j ∧ a = b) ∨ (i ≠ j ∧ l[i]? = some a) := by
  rw [List.getElem?_set] at h
  split at h
  · rename_i hSame
    split at h
    · exact Or.inl ⟨hSame.symm, (Option.some.inj h).symm⟩
    · cases h
  · rename_i hOther
    exact Or.inr ⟨Ne.symm hOther, h⟩

/-- A NIC may move on, and mark indices of finished messages. -/
theorem Housed.setNic {s : CbNode} (h : s.Housed cfg) {j : Nat} {n n' : Nic}
    (hn : s.nics[j]? = some n) (hQps : n'.qps = n.qps) (hMtu : n'.mtu = n.mtu)
    (hMarks : ∀ idx k q, n'.isQpFinished idx = true → n'.qps[idx]? = some k →
      s.tx.qpMap k = some q → q.isFinished = true) :
    ({ s with nics := s.nics.set j n' } : CbNode).Housed cfg := by
  have hIn : n ∈ s.nics := List.mem_of_getElem? hn
  have hOld (m : Nic) (hm : m ∈ s.nics.set j n') : ∃ m' ∈ s.nics, m.qps = m'.qps ∧ m.mtu = m'.mtu := by
    rcases List.mem_or_eq_of_mem_set hm with hm | rfl
    · exact ⟨m, hm, rfl, rfl⟩
    · exact ⟨n, hIn, hQps, hMtu⟩
  have hAt (i : Nat) (m : Nic) (hm : (s.nics.set j n')[i]? = some m) :
      ∃ m', s.nics[i]? = some m' ∧ m.qps = m'.qps := by
    rcases getElem?_set_cases hm with ⟨rfl, rfl⟩ | ⟨-, hm⟩
    · exact ⟨n, hn, hQps⟩
    · exact ⟨m, hm, rfl⟩
  refine ⟨fun m hm => ?_, fun k q hq => ?_, fun m hm k hk => ?_, fun m hm => ?_, ?_⟩
  · obtain ⟨m', hm', -, hSame⟩ := hOld m hm
    exact hSame.trans (h.mtu m' hm')
  · obtain ⟨m, hm, hk⟩ := h.placed k q hq
    obtain ⟨i, hi⟩ := List.mem_iff_getElem?.mp hm
    by_cases hSame : i = j
    · subst hSame
      obtain rfl := Option.some.inj (hi.symm.trans hn)
      exact ⟨n', List.mem_set (List.getElem?_eq_some_iff.mp hn).1 n', hQps ▸ hk⟩
    · refine ⟨m, List.mem_of_getElem? (i := i) ?_, hk⟩
      rw [List.getElem?_set_ne (Ne.symm hSame)]
      exact hi
  · obtain ⟨m', hm', hSame, -⟩ := hOld m hm
    exact h.known m' hm' k (hSame ▸ hk)
  · rcases List.mem_or_eq_of_mem_set hm with hm | rfl
    · exact h.marks m hm
    · exact hMarks
  · intro hPolicy i i' m m' k k' q q' hi hi' hk hk'
    obtain ⟨o, ho, hSame⟩ := hAt i m hi
    obtain ⟨o', ho', hSame'⟩ := hAt i' m' hi'
    exact h.oneNic hPolicy i i' o o' k k' q q' ho ho' (hSame ▸ hk) (hSame' ▸ hk')

/-! ## Placement -/

/-- New and redistributed messages come to stand at indices without a mark, and with the policy that
picks one message for each receiver, the unfinished messages to a receiver on one NIC. -/
def Placed (cfg : CbNodeConfig) (s : CbNode) : CbNodeEvent → Prop
  | .addQueuePair _ dip _ _ _ nic =>
    (∀ n, s.nics[nic]? = some n → n.isQpFinished n.qps.length = false) ∧
    (cfg.senderSchedPolicy = .srpt → ∀ (i : Nat) (n : Nic) k q, s.nics[i]? = some n → k ∈ n.qps →
      s.tx.qpMap k = some q → q.bytesLeft ≠ 0 → q.dip = dip → i = nic)
  | .redistribute order place =>
    (∀ (i : Nat) (n : Nic), s.nics[i]? = some n → ∀ idx k q, n.isQpFinished idx = true →
      (order.filter fun k => place k = i)[idx]? = some k → s.tx.qpMap k = some q →
      q.isFinished = true) ∧
    (cfg.senderSchedPolicy = .srpt → ∀ k k' q q', s.tx.qpMap k = some q →
      s.tx.qpMap k' = some q' → q.bytesLeft ≠ 0 → q'.bytesLeft ≠ 0 → q.dip = q'.dip →
      place k = place k')
  | _ => True

theorem Housed.add {s : CbNode} (h : s.Housed cfg) {k : TxKey} {r : ReceiverState}
    {q : QueuePair} {nic : Nat} {n : Nic} (hn : s.nics[nic]? = some n) (hNew : s.tx.qpMap k = none)
    (hMark : n.isQpFinished n.qps.length = false)
    (hNic : cfg.senderSchedPolicy = .srpt → ∀ (i : Nat) (n : Nic) l q', s.nics[i]? = some n →
      l ∈ n.qps → s.tx.qpMap l = some q' → q'.bytesLeft ≠ 0 → q'.dip = q.dip → i = nic) :
    ({ tx := s.tx.post k r q, nics := s.nics.set nic { n with qps := n.qps ++ [k] } } :
      CbNode).Housed cfg := by
  have hIn : n ∈ s.nics := List.mem_of_getElem? hn
  have hLength : nic < s.nics.length := (List.getElem?_eq_some_iff.mp hn).1
  have hAbsent (m : Nic) (hm : m ∈ s.nics) : k ∉ m.qps := by
    intro hk
    obtain ⟨q', hq'⟩ := h.known m hm k hk
    rw [hNew] at hq'
    cases hq'
  have hOther (l : TxKey) (hl : l ≠ k) : (s.tx.post k r q).qpMap l = s.tx.qpMap l := by
    simp [CbSender.post, hl]
  have hHere : (s.tx.post k r q).qpMap k = some q := by simp [CbSender.post]
  -- where a key of the new groups stands
  have hAt (i : Nat) (m : Nic) (l : TxKey) (hm : (s.nics.set nic { n with qps := n.qps ++ [k] })[i]? =
      some m) (hl : l ∈ m.qps) :
      (l = k ∧ i = nic) ∨ (l ≠ k ∧ ∃ m', s.nics[i]? = some m' ∧ l ∈ m'.qps) := by
    rcases getElem?_set_cases hm with ⟨rfl, rfl⟩ | ⟨-, hm⟩
    · rcases List.mem_append.mp hl with hl | hl
      · exact Or.inr ⟨fun hSame => hAbsent n hIn (hSame ▸ hl), n, hn, hl⟩
      · exact Or.inl ⟨List.mem_singleton.mp hl, rfl⟩
    · exact Or.inr ⟨fun hSame => hAbsent m (List.mem_of_getElem? hm) (hSame ▸ hl), m, hm, hl⟩
  refine ⟨fun m hm => ?_, fun l q' hq' => ?_, fun m hm l hl => ?_,
    fun m hm idx l q' hMarked hl hq' => ?_, ?_⟩
  · rcases List.mem_or_eq_of_mem_set hm with hm | rfl
    · exact h.mtu m hm
    · exact h.mtu n hIn
  · by_cases hl : l = k
    · subst hl
      exact ⟨_, List.mem_set hLength _, by simp⟩
    · obtain ⟨m, hm, hMem⟩ := h.placed l q' ((hOther l hl).symm.trans hq')
      obtain ⟨i, hi⟩ := List.mem_iff_getElem?.mp hm
      by_cases hSame : i = nic
      · subst hSame
        obtain rfl := Option.some.inj (hi.symm.trans hn)
        exact ⟨_, List.mem_set hLength _, List.mem_append_left _ hMem⟩
      · refine ⟨m, List.mem_of_getElem? (i := i) ?_, hMem⟩
        rw [List.getElem?_set_ne (Ne.symm hSame)]
        exact hi
  · by_cases hlk : l = k
    · subst hlk
      exact ⟨q, hHere⟩
    · obtain ⟨i, hi⟩ := List.mem_iff_getElem?.mp hm
      obtain ⟨-, m', hm', hl'⟩ := (hAt i m l hi hl).resolve_left fun hSame => hlk hSame.1
      obtain ⟨q', hq'⟩ := h.known m' (List.mem_of_getElem? hm') l hl'
      exact ⟨q', (hOther l hlk).trans hq'⟩
  · rcases List.mem_or_eq_of_mem_set hm with hm | rfl
    · have hlk : l ≠ k := fun hSame => hAbsent m hm (hSame ▸ List.mem_of_getElem? hl)
      exact h.marks m hm idx l q' hMarked hl ((hOther l hlk).symm.trans hq')
    · rcases Nat.lt_or_ge idx n.qps.length with hOld | hNewIdx
      · rw [List.getElem?_append_left hOld] at hl
        have hlk : l ≠ k := fun hSame => hAbsent n hIn (hSame ▸ List.mem_of_getElem? hl)
        exact h.marks n hIn idx l q' hMarked hl ((hOther l hlk).symm.trans hq')
      · have hBound := (List.getElem?_eq_some_iff.mp hl).1
        simp only [List.length_append, List.length_singleton] at hBound
        obtain rfl : idx = n.qps.length := by omega
        exact absurd (hMarked.symm.trans hMark) nofun
  · intro hPolicy i j m m' l l' p p' hi hj hl hl' hp hp' hLeft hLeft' hDip
    have hQ (hlk : l = k) : p = q := by
      subst hlk
      exact Option.some.inj (hp.symm.trans hHere)
    have hQ' (hlk : l' = k) : p' = q := by
      subst hlk
      exact Option.some.inj (hp'.symm.trans hHere)
    rcases hAt i m l hi hl with ⟨hlk, rfl⟩ | ⟨hlk, o, ho, hlo⟩
    · rcases hAt j m' l' hj hl' with ⟨-, rfl⟩ | ⟨hlk', o', ho', hlo'⟩
      · rfl
      · rw [hQ hlk] at hDip
        exact (hNic hPolicy j o' l' p' ho' hlo' ((hOther l' hlk').symm.trans hp') hLeft'
          hDip.symm).symm
    · rcases hAt j m' l' hj hl' with ⟨hlk', rfl⟩ | ⟨hlk', o', ho', hlo'⟩
      · rw [hQ' hlk'] at hDip
        exact hNic hPolicy i o l p ho hlo ((hOther l hlk).symm.trans hp) hLeft hDip
      · exact h.oneNic hPolicy i j o o' l l' p p' ho ho' hlo hlo' ((hOther l hlk).symm.trans hp)
          ((hOther l' hlk').symm.trans hp') hLeft hLeft' hDip

theorem Housed.redistribute {s : CbNode} (h : s.Housed cfg) {order : List TxKey}
    {place : TxKey → Nat} (hPlaced : s.Placed cfg (.redistribute order place))
    (hOrder : order.Perm (s.nics.flatMap fun n => n.qps))
    (hBound : ∀ k ∈ order, place k < s.nics.length) :
    ({ s with nics := s.nics.mapIdx fun i n =>
      { n with qps := order.filter fun k => place k = i } } : CbNode).Housed cfg := by
  obtain ⟨hMarks, hNic⟩ := hPlaced
  have hMem (m : Nic) (hm : m ∈ s.nics.mapIdx fun i n =>
      { n with qps := order.filter fun k => place k = i }) : ∃ (i : Nat) (n : Nic),
      s.nics[i]? = some n ∧ m = { n with qps := order.filter fun k => place k = i } := by
    obtain ⟨i, hi, rfl⟩ := List.mem_mapIdx.mp hm
    exact ⟨i, s.nics[i], List.getElem?_eq_getElem hi, rfl⟩
  have hKey (i : Nat) (m : Nic) (l : TxKey) (hm : (s.nics.mapIdx fun i n =>
      { n with qps := order.filter fun k => place k = i })[i]? = some m) (hl : l ∈ m.qps) :
      place l = i := by
    rw [List.getElem?_mapIdx] at hm
    obtain ⟨n, -, rfl⟩ := Option.map_eq_some_iff.mp hm
    simpa using (List.mem_filter.mp hl).2
  refine ⟨fun m hm => ?_, fun l q hq => ?_, fun m hm l hl => ?_, fun m hm idx l q hMarked hl hq => ?_,
    ?_⟩
  · obtain ⟨i, n, hn, rfl⟩ := hMem m hm
    exact h.mtu n (List.mem_of_getElem? hn)
  · obtain ⟨n, hn, hl⟩ := h.placed l q hq
    have hlo : l ∈ order := hOrder.mem_iff.mpr (List.mem_flatMap.mpr ⟨n, hn, hl⟩)
    refine ⟨_, List.mem_mapIdx.mpr ⟨place l, hBound l hlo, rfl⟩, ?_⟩
    exact List.mem_filter.mpr ⟨hlo, by simp⟩
  · obtain ⟨i, n, hn, rfl⟩ := hMem m hm
    have hlo := hOrder.mem_iff.mp (List.mem_filter.mp hl).1
    obtain ⟨n', hn', hl'⟩ := List.mem_flatMap.mp hlo
    exact h.known n' hn' l hl'
  · obtain ⟨i, n, hn, rfl⟩ := hMem m hm
    exact hMarks i n hn idx l q hMarked hl hq
  · intro hPolicy i j m m' l l' p p' hi hj hl hl' hp hp' hLeft hLeft' hDip
    rw [← hKey i m l hi hl, ← hKey j m' l' hj hl']
    exact hNic hPolicy l l' p p' hp hp' hLeft hLeft' hDip

end CbNode

/-! ## Steps -/

/-- The scheduler changes nothing but the flags of prioritised flows. -/
theorem CbSender.Enrolled.getNextCreditBouncerQindex {s : CbSender} (h : s.Enrolled)
    (cfg : CbNodeConfig) (n : Nic) (c : NicClock) (choice : SchedulerChoice) :
    s.SameFlows (s.getNextCreditBouncerQindex cfg n c choice).1 := by
  unfold CbSender.getNextCreditBouncerQindex
  split
  · exact SameFlows.refl s
  · split
    · have hFlows := sameFlows_clearPriority s n.unmarked
      rw [(rrScan_spec (h.sameFlows hFlows) n c n.rrOrder).1]
      exact hFlows
    · unfold srptSelect
      dsimp only
      split
      · exact SameFlows.refl s
      · exact (sameFlows_clearPriority s _).trans (sameFlows_setPriority _ _ _)

/-- Every step keeps the messages with their receivers. -/
theorem enrolled_step {cfg : CbNodeConfig} {s t : CbNode} {e : CbNodeEvent}
    (hTx : s.tx.Enrolled) (hStep : s.step cfg e = some t) : t.tx.Enrolled := by
  cases e with
  | addQueuePair k dip dport size flowId nic =>
    simp only [CbNode.step, Option.bind_eq_bind, Option.bind_eq_some_iff] at hStep
    obtain ⟨n, hn, hStep⟩ := hStep
    obtain ⟨hNew, rfl⟩ := Machine.of_guarded hStep
    unfold CbSender.addQueuePair
    dsimp only
    refine hTx.post (fun old hOld => absurd (hNew.symm.trans hOld) (Option.some_ne_none _).symm)
      ?_ ?_ ?_ (fun _ _ => ⟨rfl, rfl, rfl⟩)
    · split
      · assumption
      · rfl
    · split
      · rfl
      · rfl
    · simp [QueuePair.isFinished, QueuePair.bytesLeft]
  | dequeue nic c choice =>
    simp only [CbNode.step, Option.bind_eq_bind, Option.bind_eq_some_iff, Option.pure_def] at hStep
    obtain ⟨n, hn, hStep⟩ := hStep
    obtain rfl := Option.some.inj hStep
    have hFlows := hTx.getNextCreditBouncerQindex cfg n c choice
    unfold CbNode.dequeue
    generalize s.tx.getNextCreditBouncerQindex cfg n c choice = call at hFlows ⊢
    obtain ⟨tx, qindex⟩ := call
    obtain ⟨hTx', -⟩ := CbSender.SameFlows.enrolled_continues hTx hFlows
    dsimp only
    split
    · exact hTx'
    · split
      · exact hTx'
      · rename_i k q hFound
        obtain ⟨k', hk, hq⟩ := Option.bind_eq_some_iff.mp hFound
        obtain ⟨q', hq, hPair⟩ := Option.map_eq_some_iff.mp hq
        cases hPair
        exact (hTx'.getNxtPacket cfg.toCbSenderConfig hq).1
  | receiveGrant p =>
    cases hStep
    exact (hTx.receiveGrant p).1
  | complete k flowId =>
    cases hStep
    exact (hTx.completeSenderQp k flowId).1
  | redistribute order place =>
    obtain ⟨-, rfl⟩ := Machine.of_guarded hStep
    exact hTx

/-- A step of a host that places its messages well. -/
theorem enrolled_housed_step {cfg : CbNodeConfig} {s t : CbNode} {e : CbNodeEvent}
    (hTx : s.tx.Enrolled) (hNode : s.Housed cfg) (hPlaced : s.Placed cfg e)
    (hStep : s.step cfg e = some t) : t.tx.Enrolled ∧ t.Housed cfg := by
  refine ⟨enrolled_step hTx hStep, ?_⟩
  cases e with
  | addQueuePair k dip dport size flowId nic =>
    simp only [CbNode.step, Option.bind_eq_bind, Option.bind_eq_some_iff] at hStep
    obtain ⟨n, hn, hStep⟩ := hStep
    obtain ⟨hNew, rfl⟩ := Machine.of_guarded hStep
    exact hNode.add hn hNew (hPlaced.1 n hn) hPlaced.2
  | dequeue nic c choice =>
    simp only [CbNode.step, Option.bind_eq_bind, Option.bind_eq_some_iff, Option.pure_def] at hStep
    obtain ⟨n, hn, hStep⟩ := hStep
    obtain rfl := Option.some.inj hStep
    have hFlows := hTx.getNextCreditBouncerQindex cfg n c choice
    unfold CbNode.dequeue
    generalize s.tx.getNextCreditBouncerQindex cfg n c choice = call at hFlows ⊢
    obtain ⟨tx, qindex⟩ := call
    obtain ⟨hTx', hContinues⟩ := CbSender.SameFlows.enrolled_continues hTx hFlows
    have hNode' := hNode.continues hContinues
    dsimp only
    split
    · have hQps : (CbNode.markFinished tx n c).qps = n.qps :=
        (RdmaQueuePairGroup.scan_extends _ _ _).2
      refine hNode'.setNic hn hQps rfl ?_
      intro idx k q hMarked hk hq
      have hExtends : RdmaQueuePairGroup.Extends (CbNode.finished tx) n.toRdmaQueuePairGroup _ :=
        RdmaQueuePairGroup.getNextQindex_extends _ n.rrlast (CbNode.checks c)
      rcases hExtends.marks idx hMarked with hOld | ⟨k', hk', hNow⟩
      · exact hNode'.marks n (List.mem_of_getElem? hn) idx k q hOld (hQps ▸ hk) hq
      · obtain rfl := Option.some.inj (hk.symm.trans hk')
        have hHere : tx.qpMap k = some q := hq
        unfold CbNode.finished at hNow
        rw [hHere] at hNow
        exact hNow
    · split
      · exact hNode'
      · rename_i k q hFound
        obtain ⟨k', hk, hq⟩ := Option.bind_eq_some_iff.mp hFound
        obtain ⟨q', hq, hPair⟩ := Option.map_eq_some_iff.mp hq
        cases hPair
        obtain ⟨-, hContinues'⟩ := hTx'.getNxtPacket cfg.toCbSenderConfig hq
        refine (hNode'.continues hContinues').setNic hn rfl rfl ?_
        exact (hNode'.continues hContinues').marks n (List.mem_of_getElem? hn)
  | receiveGrant p =>
    cases hStep
    exact hNode.continues (hTx.receiveGrant p).2
  | complete k flowId =>
    cases hStep
    exact hNode.continues (hTx.completeSenderQp k flowId).2
  | redistribute order place =>
    obtain ⟨hOrder, rfl⟩ := Machine.of_guarded hStep
    exact hNode.redistribute hPlaced hOrder.1 hOrder.2

theorem enrolled_housed_init (cfg : CbNodeConfig) (nicCount : Nat) :
    (cbNode cfg nicCount).init.tx.Enrolled ∧ (cbNode cfg nicCount).init.Housed cfg := by
  constructor
  · exact ⟨nofun, nofun, nofun, nofun⟩
  · have hNic (n : Nic) (hn : n ∈ (cbNode cfg nicCount).init.nics) : n = { mtu := cfg.mtu } :=
      List.eq_of_mem_replicate hn
    refine ⟨fun n hn => ?_, nofun, fun n hn k hk => ?_, fun n hn idx k q _ hk => ?_, ?_⟩
    · rw [hNic n hn]
    · rw [hNic n hn] at hk
      cases hk
    · rw [hNic n hn] at hk
      cases hk
    · intro _ i j n n' k k' q q' _ _ _ _ hq
      cases hq

/-- **The scheduler and the sender agree**, in every state of a run that places its messages well,
while the credit counters have room: the index returned is that of a QP that sends, and none is
returned only when no ready QP of the NIC would send. -/
theorem scheduler_agrees {cfg : CbNodeConfig} {nicCount : Nat} {s : CbNode}
    {es : List CbNodeEvent} (hPlaced : (cbNode cfg nicCount).Guarded (CbNode.Placed cfg)
      (cbNode cfg nicCount).init es)
    (hRun : (cbNode cfg nicCount).run (cbNode cfg nicCount).init es = some s)
    (hRoom : s.HasRoom cfg.toCbConfig) {j : Nat} {n : Nic} (hn : s.nics[j]? = some n)
    (c : NicClock) (choice : CbSender.SchedulerChoice) : s.Agrees cfg n c choice := by
  have hInv : s.tx.Enrolled ∧ s.Housed cfg := by
    refine Machine.guarded_induction (I := fun s => s.tx.Enrolled ∧ s.Housed cfg)
      (enrolled_housed_init cfg nicCount) ?_ hPlaced hRun
    rintro s e t ⟨hTx, hNode⟩ hStep hNext
    exact enrolled_housed_step hTx hNode hStep hNext
  exact agrees_of_housed c choice hInv.1 hInv.2 hRoom hn

/-! ## Two messages to one receiver -/

def unsentOrder (a b : CbSender.LocalMsg) : Prop := a.unsent ≤ b.unsent

instance : DecidableRel unsentOrder := fun a b => inferInstanceAs (Decidable (a.unsent ≤ b.unsent))
instance : Std.Total unsentOrder := ⟨fun a b => Nat.le_total a.unsent b.unsent⟩
instance : IsTrans CbSender.LocalMsg unsentOrder := ⟨fun _ _ _ => Nat.le_trans⟩

/-- A stable sort, and the first receiver. -/
def stableChoice : CbSender.SchedulerChoice where
  sortMsgs := List.insertionSort unsentOrder
  sortMsgs_perm := List.perm_insertionSort unsentOrder
  sortMsgs_sorted := List.pairwise_insertionSort unsentOrder
  bestDeficit := List.head?
  bestDeficit_mem _ _ := List.mem_of_mem_head?
  bestDeficit_isSome l h := by
    cases l with
    | nil => exact absurd rfl h
    | cons c l => rfl

/-- No priority group is paused and every QP may send. -/
def openClock : NicClock := ⟨fun _ => false, fun _ => false⟩

/-- A host that serves the shortest message first. -/
def srptHost : CbNodeConfig where
  mtu := 1000
  maxSrpbBytes := 100000
  globalBucketBytes := 100000
  senderSchedPolicy := .srpt
  addr := 10

/-- Two messages to host 20, on the given NICs. -/
def pairOfMessages (nic nic' : Nat) : List CbNodeEvent :=
  [.addQueuePair ⟨5001, 3⟩ 20 100 1000 1 nic, .addQueuePair ⟨5002, 3⟩ 20 100 3000 2 nic']

theorem placed_pairOfMessages : (cbNode srptHost 1).Guarded (CbNode.Placed srptHost)
    (cbNode srptHost 1).init (pairOfMessages 0 0) := by
  have hOnly {l : List Nic} (hLength : l.length = 1) {i : Nat} {n : Nic} (hn : l[i]? = some n) :
      i = 0 := by
    have := (List.getElem?_eq_some_iff.mp hn).1
    omega
  refine ⟨⟨fun n hn => ?_, fun _ i n k q hn _ _ _ _ => hOnly rfl hn⟩, fun next hNext => ?_⟩
  · obtain rfl := Option.some.inj hn
    rfl
  · obtain rfl := Option.some.inj hNext
    refine ⟨⟨fun n hn => ?_, fun _ i n k q hn _ _ _ _ => hOnly rfl hn⟩, fun _ _ => trivial⟩
    obtain rfl := Option.some.inj hn
    rfl

/-- On one NIC, the scheduler agrees with the sender. -/
theorem scheduler_agrees_one_nic :
    ∃ s n, (cbNode srptHost 1).run (cbNode srptHost 1).init (pairOfMessages 0 0) = some s ∧
      s.nics[0]? = some n ∧ s.Agrees srptHost n openClock stableChoice := by
  refine ⟨_, _, rfl, rfl, scheduler_agrees (j := 0) placed_pairOfMessages rfl ?_ rfl
    openClock stableChoice⟩
  intro k q hq _
  by_cases hSecond : k = ⟨5002, 3⟩
  · subst hSecond
    obtain rfl := Option.some.inj hq
    decide +kernel
  · by_cases hFirst : k = ⟨5001, 3⟩
    · subst hFirst
      obtain rfl := Option.some.inj hq
      decide +kernel
    · simp [CbSender.addQueuePair, CbSender.post, cbNode, hSecond, hFirst] at hq

/-- Two messages to one receiver stand on two NICs: the second NIC is told that it has nothing to
send, although the sender would announce its message. -/
theorem scheduler_idles_second_nic :
    ∃ s n, (cbNode srptHost 2).run (cbNode srptHost 2).init (pairOfMessages 0 1) = some s ∧
      s.nics[1]? = some n ∧ ¬ s.Agrees srptHost n openClock stableChoice := by
  refine ⟨_, _, rfl, rfl, fun h => ?_⟩
  have hIdle := h.none (by decide +kernel) ⟨5002, 3⟩ (by decide) _ rfl rfl
  revert hIdle
  decide +kernel

end Dpdq.Ns3
