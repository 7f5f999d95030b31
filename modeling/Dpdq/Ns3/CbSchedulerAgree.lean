import Dpdq.Lib.Rotation
import Dpdq.Ns3.CbScheduler

/-!
# The scheduler and the sender agree

`GetNextCreditBouncerQindex` decides with `canSend` whether a QP can send, `GetNxtPacket` decides it
again.

* `getNxtPacket_isSome`: the two decisions are the same.
* `scheduler_agrees`: an index is returned for a QP that sends, and none only when no ready QP of
  the NIC would, provided that the QPs to one receiver share a NIC and no unfinished QP stands at an
  index that is marked finished.
-/

namespace Dpdq.Ns3

open Dpdq.Lib

/-! ## The two decisions -/

/-- The check of a message has not been made, and nothing of the message has been sent. -/
def QueuePair.Fresh (q : QueuePair) : Prop :=
  q.isScheduled = true ∧ q.sentAnnouncement = false ∧ q.sndNxt = 0

/-- The credit pool has room for the credit that the message would give itself. -/
def ReceiverState.Room (cfg : CbConfig) (r : ReceiverState) (q : QueuePair) : Prop :=
  r.availCreditBytes + (selfAllocation cfg r.availCreditBytes q.size).2 < 2 ^ 64

instance (cfg : CbConfig) (r : ReceiverState) (q : QueuePair) : Decidable (r.Room cfg q) :=
  inferInstanceAs (Decidable (_ < _))

/-- Self-allocated credit pays for the first chunk. -/
theorem selfAllocation_covers (cfg : CbConfig) (availOnWire msgBytes : Nat)
    (hData : (selfAllocation cfg availOnWire msgBytes).1 > 0) :
    cbNextChunkPayloadBytes 0 msgBytes cfg.mtu ≠ 0 ∧
      cbNextChunkOnWireBytes 0 msgBytes cfg.mtu ≤
        (selfAllocation cfg availOnWire msgBytes).2 := by
  have hWire : (selfAllocation cfg availOnWire msgBytes).2 =
      cbAddHeaderOverhead (selfAllocation cfg availOnWire msgBytes).1 cfg.mtu true := by
    unfold selfAllocation
    simp only
  obtain ⟨candidate, hAlign⟩ : ∃ candidate, (selfAllocation cfg availOnWire msgBytes).1 =
      cbAlignChunkPrefixBytes candidate msgBytes cfg.mtu := ⟨_, rfl⟩
  rw [hWire]
  rw [hAlign] at hData ⊢
  have hChunk : cbNextChunkPayloadBytes 0 msgBytes cfg.mtu = min cfg.mtu msgBytes ∧ 0 < cfg.mtu ∧
      0 < msgBytes ∧ min cfg.mtu msgBytes ≤ cbAlignChunkPrefixBytes candidate msgBytes cfg.mtu := by
    unfold cbAlignChunkPrefixBytes at hData ⊢
    split at hData
    · omega
    · rename_i hSizes
      refine ⟨by simp [cbNextChunkPayloadBytes]; omega, by omega, by omega, ?_⟩
      rw [if_neg hSizes]
      split
      · omega
      · rename_i hPart
        rw [if_neg hPart] at hData
        have hPkts : 0 < candidate / cfg.mtu := Nat.pos_of_mul_pos_right hData
        have := Nat.le_mul_of_pos_left cfg.mtu hPkts
        omega
  obtain ⟨hPayload, hMtu, hSize, hLe⟩ := hChunk
  unfold cbNextChunkOnWireBytes
  rw [hPayload]
  exact ⟨by omega, cbAddHeaderOverhead_packet_le hLe (Nat.min_le_left _ _)⟩

/-- The check of a message leaves it to be announced, or gives it the credit for its first chunk. -/
theorem classify_cases {cfg : CbConfig} {r : ReceiverState} {q : QueuePair}
    (hRoom : r.Room cfg q) :
    ((classify cfg r q).2.isScheduled = true ∧ (classify cfg r q).2.sentAnnouncement = false) ∨
      ((classify cfg r q).2.isScheduled = false ∧
        cbNextChunkPayloadBytes 0 q.size cfg.mtu ≠ 0 ∧
        cbNextChunkOnWireBytes 0 q.size cfg.mtu ≤ (classify cfg r q).1.availCreditBytes) := by
  unfold classify
  dsimp only
  split
  · split
    · rename_i hGrant
      obtain ⟨hPayload, hWire⟩ := selfAllocation_covers cfg r.availCreditBytes q.size hGrant.2
      refine Or.inr ⟨rfl, hPayload, ?_⟩
      have hSum : addU64 r.availCreditBytes (selfAllocation cfg r.availCreditBytes q.size).2 =
          r.availCreditBytes + (selfAllocation cfg r.availCreditBytes q.size).2 :=
        Nat.mod_eq_of_lt hRoom
      dsimp only
      omega
    · exact Or.inl ⟨rfl, rfl⟩
  · exact Or.inl ⟨rfl, rfl⟩

theorem cbNextChunkOnWireBytes_pos_iff (nextOffset messageBytes chunkBytes : Nat) :
    0 < cbNextChunkOnWireBytes nextOffset messageBytes chunkBytes ↔
      cbNextChunkPayloadBytes nextOffset messageBytes chunkBytes ≠ 0 := by
  unfold cbNextChunkOnWireBytes
  constructor
  · intro hPos hNone
    rw [hNone, cbAddHeaderOverhead_zero] at hPos
    exact Nat.lt_irrefl 0 hPos
  · intro hSome
    have hLe : cbNextChunkPayloadBytes nextOffset messageBytes chunkBytes ≤ chunkBytes := by
      unfold cbNextChunkPayloadBytes
      split
      · exact Nat.zero_le _
      · exact Nat.min_le_left _ _
    rw [cbAddHeaderOverhead_of_le (Nat.pos_of_ne_zero hSome) hLe]
    omega

/-- `GetNxtPacket` sends for a QP exactly when `canSend` says so. -/
theorem getNxtPacket_isSome {cfg : CbSenderConfig} {s : CbSender} {k : TxKey} {q : QueuePair}
    (hLeft : q.bytesLeft ≠ 0) (hFresh : q.usnsolCheckDone = false → q.Fresh)
    (hRoom : q.usnsolCheckDone = false →
      (s.getOrCreateReceiverState q.dip k).Room cfg.toCbConfig q) :
    (s.getNxtPacket cfg k q).2.isSome =
      (s.getOrCreateReceiverState q.dip k).canSend cfg.mtu q := by
  have hPayload : min (cbNextChunkPayloadBytes q.sndNxt q.size cfg.mtu) q.bytesLeft =
      cbNextChunkPayloadBytes q.sndNxt q.size cfg.mtu :=
    Nat.min_eq_left (cbNextChunkPayloadBytes_le q.sndNxt q.size cfg.mtu)
  have hSize : ¬ clampU32 q.size = 0 := by
    unfold QueuePair.bytesLeft at hLeft
    unfold clampU32
    omega
  have hWire := cbNextChunkOnWireBytes_pos_iff q.sndNxt q.size cfg.mtu
  unfold CbSender.getNxtPacket ReceiverState.canSend
  simp only [hPayload]
  cases hDone : q.usnsolCheckDone with
  | true =>
    simp only [Bool.not_true, if_false, Bool.false_eq_true]
    by_cases hAnnounce : q.isScheduled = true ∧ q.sentAnnouncement = false
    · simp [hAnnounce, hSize]
    · have hNot : ¬ (q.isScheduled = true ∧ (!q.sentAnnouncement) = true) := by
        simpa using hAnnounce
      have hAnnounced : (q.isScheduled && !q.sentAnnouncement) = false := by
        simpa using hNot
      rw [if_neg hNot, hAnnounced, Bool.or_false]
      unfold cbNextChunkOnWireBytes at hWire ⊢
      split
      · rename_i hIdle
        symm
        simp only [Option.isSome_none, Bool.and_eq_false_iff, decide_eq_false_iff_not]
        omega
      · rename_i hSends
        symm
        simp only [Option.isSome_some, Bool.and_eq_true, decide_eq_true_eq]
        omega
  | false =>
    obtain ⟨hScheduled, hUnsent, hStart⟩ := hFresh hDone
    have hChecked := classify_cases
      (r := { s.getOrCreateReceiverState q.dip k with enabled := true }) (hRoom hDone)
    have hSame : q.SameMessage (classify cfg.toCbConfig
        { s.getOrCreateReceiverState q.dip k with enabled := true } q).2 := (classify_spec _ q).1
    simp only [Bool.not_false, if_true, hScheduled, hUnsent, Bool.and_self, Bool.or_true, hStart]
    generalize classify cfg.toCbConfig
      { s.getOrCreateReceiverState q.dip k with enabled := true } q = checked at hChecked hSame
    rcases hChecked with ⟨hScheduled', hUnsent'⟩ | ⟨hScheduled', hSome, hCredit⟩
    · simp [hScheduled', hUnsent', hSame.size, hSize]
    · have hPositive := (cbNextChunkOnWireBytes_pos_iff 0 q.size cfg.mtu).mpr hSome
      unfold cbNextChunkOnWireBytes at hCredit hPositive
      rw [if_neg (by simp [hScheduled']), if_neg (by omega)]
      rfl

/-! ## The QPs of a sender -/

/-- Every message with bytes left is listed with its receiver, and the lists hold messages to this
receiver only. -/
structure CbSender.Enrolled (s : CbSender) : Prop where
  finished : ∀ k q, s.qpMap k = some q → q.isFinished = true → q.bytesLeft = 0
  fresh : ∀ k q, s.qpMap k = some q → q.usnsolCheckDone = false → q.bytesLeft ≠ 0 → q.Fresh
  listed : ∀ k q, s.qpMap k = some q → q.bytesLeft ≠ 0 →
    ∃ r, s.receiverStates.get? q.dip = some r ∧ r.enabled = true ∧ k ∈ r.msgStates
  owned : ∀ dip r k, s.receiverStates.get? dip = some r → k ∈ r.msgStates →
    ∃ q, s.qpMap k = some q ∧ q.dip = dip

namespace CbSender

theorem getOrCreateReceiverState_of_mem {s : CbSender} {dip : Nat} {k : TxKey} {r : ReceiverState}
    (hr : s.receiverStates.get? dip = some r) (hk : k ∈ r.msgStates) :
    s.getOrCreateReceiverState dip k = r := by
  simp [getOrCreateReceiverState, hr, hk]

theorem Enrolled.enterReceiver {s : CbSender} (h : s.Enrolled) {k : TxKey} {q : QueuePair}
    (hq : s.qpMap k = some q) (hLeft : q.bytesLeft ≠ 0) : s.enterReceiver k q = s := by
  obtain ⟨r, hr, hEnabled, hk⟩ := h.listed k q hq hLeft
  have hSame : { s.getOrCreateReceiverState q.dip k with enabled := true } = r := by
    rw [getOrCreateReceiverState_of_mem hr hk, ← hEnabled]
  simp only [CbSender.enterReceiver, hSame, Table.set_eq_self hr]

end CbSender

theorem NicClock.ready_iff {c : NicClock} {k : TxKey} {q : QueuePair} :
    c.ready k q = true ↔ q.bytesLeft ≠ 0 ∧ c.paused k.pg = false ∧ c.late k = false := by
  simp [NicClock.ready, and_assoc]

/-! ## Round robin -/

theorem Nic.mem_rrOrder {n : Nic} {idx : Nat} : idx ∈ n.rrOrder ↔ idx < n.qps.length :=
  mem_rotation

namespace CbSender

/-- The loop leaves the sender as it is, and returns the first index that can send. -/
theorem rrScan_spec {s : CbSender} (h : s.Enrolled) (n : Nic) (c : NicClock) (idxs : List Nat) :
    (rrScan n c idxs s).1 = s ∧
      (∀ i, (rrScan n c idxs s).2 = some i → ∃ k q, n.qps[i]? = some k ∧ s.qpMap k = some q ∧
        c.ready k q = true ∧ (s.getOrCreateReceiverState q.dip k).canSend n.mtu q = true) ∧
      ((rrScan n c idxs s).2 = none → ∀ i ∈ idxs, n.isQpFinished i = false →
        ∀ k q, n.qps[i]? = some k → s.qpMap k = some q → c.ready k q = true →
          (s.getOrCreateReceiverState q.dip k).canSend n.mtu q = false) := by
  induction idxs with
  | nil => exact ⟨rfl, nofun, fun _ => nofun⟩
  | cons idx idxs ih =>
    obtain ⟨hSame, hSome, hNone⟩ := ih
    unfold rrScan
    split
    · rename_i hMarked
      refine ⟨hSame, hSome, fun hRest i hi hUnmarked => ?_⟩
      rcases List.mem_cons.mp hi with rfl | hi
      · exact absurd (hMarked.symm.trans hUnmarked) nofun
      · exact hNone hRest i hi hUnmarked
    · split
      · rename_i hAbsent
        refine ⟨hSame, hSome, fun hRest i hi hUnmarked k q hk hq => ?_⟩
        rcases List.mem_cons.mp hi with rfl | hi
        · simp [hk, hq] at hAbsent
        · exact hNone hRest i hi hUnmarked k q hk hq
      · rename_i k q hFound
        obtain ⟨k', hk, hq⟩ := Option.bind_eq_some_iff.mp hFound
        obtain ⟨q', hq, hPair⟩ := Option.map_eq_some_iff.mp hq
        cases hPair
        split
        · rename_i hNotReady
          refine ⟨hSame, hSome, fun hRest i hi hUnmarked k' q' hk' hq' hReady => ?_⟩
          rcases List.mem_cons.mp hi with rfl | hi
          · obtain rfl := Option.some.inj (hk.symm.trans hk')
            obtain rfl := Option.some.inj (hq.symm.trans hq')
            simp [hReady] at hNotReady
          · exact hNone hRest i hi hUnmarked k' q' hk' hq' hReady
        · rename_i hReady
          have hReady : c.ready k q = true := by simpa using hReady
          rw [h.enterReceiver hq (NicClock.ready_iff.mp hReady).1]
          dsimp only
          split
          · rename_i hSend
            refine ⟨rfl, fun i hi => ?_, nofun⟩
            cases hi
            exact ⟨k, q, hk, hq, hReady, hSend⟩
          · rename_i hSend
            refine ⟨hSame, hSome, fun hRest i hi hUnmarked k' q' hk' hq' hReady' => ?_⟩
            rcases List.mem_cons.mp hi with rfl | hi
            · obtain rfl := Option.some.inj (hk.symm.trans hk')
              obtain rfl := Option.some.inj (hq.symm.trans hq')
              exact Bool.eq_false_iff.mpr hSend
            · exact hNone hRest i hi hUnmarked k' q' hk' hq' hReady'

/-! ## Priority flags -/

/-- Two senders that differ in the flags of the prioritised flows only. -/
structure SameFlows (s t : CbSender) : Prop where
  receiverStates : t.receiverStates = s.receiverStates
  flows : ∀ k, (t.qpMap k).map (fun q => { q with priorityFlowPending := false }) =
    (s.qpMap k).map (fun q => { q with priorityFlowPending := false })

theorem SameFlows.refl (s : CbSender) : s.SameFlows s := ⟨rfl, fun _ => rfl⟩

theorem SameFlows.symm {s t : CbSender} (h : s.SameFlows t) : t.SameFlows s :=
  ⟨h.receiverStates.symm, fun k => (h.flows k).symm⟩

theorem SameFlows.trans {s t u : CbSender} (h : s.SameFlows t) (h' : t.SameFlows u) :
    s.SameFlows u :=
  ⟨h'.receiverStates.trans h.receiverStates, fun k => (h'.flows k).trans (h.flows k)⟩

theorem SameFlows.qpMap {s t : CbSender} (h : s.SameFlows t) {k : TxKey} {q : QueuePair}
    (hq : s.qpMap k = some q) : ∃ b, t.qpMap k = some { q with priorityFlowPending := b } := by
  have hFlow := h.flows k
  rw [hq, Option.map_some, Option.map_eq_some_iff] at hFlow
  obtain ⟨r, hr, hSame⟩ := hFlow
  refine ⟨r.priorityFlowPending, hr.trans (congrArg some ?_)⟩
  cases r
  cases q
  simp only [QueuePair.mk.injEq] at hSame ⊢
  tauto

theorem sameFlows_clearPriority (s : CbSender) (ks : List TxKey) :
    s.SameFlows (s.clearPriority ks) := by
  refine ⟨rfl, fun k => ?_⟩
  simp only [clearPriority]
  split
  · rw [Option.map_map]
    rfl
  · rfl

theorem sameFlows_setPriority (s : CbSender) (k : TxKey) (priorityFlow : Bool) :
    s.SameFlows (s.setPriority k priorityFlow) := by
  refine ⟨rfl, fun l => ?_⟩
  simp only [setPriority]
  by_cases hl : l = k
  · subst hl
    rw [Function.update_self, Option.map_map]
    rfl
  · rw [Function.update_of_ne hl]

theorem Enrolled.sameFlows {s t : CbSender} (h : s.Enrolled) (hSame : s.SameFlows t) :
    t.Enrolled where
  finished k q hq := by
    obtain ⟨b, hs⟩ := hSame.symm.qpMap hq
    exact h.finished k { q with priorityFlowPending := b } hs
  fresh k q hq := by
    obtain ⟨b, hs⟩ := hSame.symm.qpMap hq
    exact h.fresh k { q with priorityFlowPending := b } hs
  listed k q hq := by
    obtain ⟨b, hs⟩ := hSame.symm.qpMap hq
    rw [hSame.receiverStates]
    exact h.listed k { q with priorityFlowPending := b } hs
  owned dip r k hr hk := by
    rw [hSame.receiverStates] at hr
    obtain ⟨q, hq, hDip⟩ := h.owned dip r k hr hk
    obtain ⟨b, ht⟩ := hSame.qpMap hq
    exact ⟨_, ht, hDip⟩

/-! ## Shortest message first -/

theorem mem_localMsgs {s : CbSender} {c : NicClock} {r : ReceiverState} {m : LocalMsg} :
    m ∈ s.localMsgs c r ↔ m.key ∈ r.msgStates ∧ s.qpMap m.key = some m.qp ∧
      c.ready m.key m.qp = true ∧ m.unsent = m.qp.bytesLeft := by
  simp only [localMsgs, List.mem_filterMap, Option.bind_eq_some_iff]
  constructor
  · rintro ⟨k, hk, q, hq, hm⟩
    split at hm
    · rename_i hReady
      cases hm
      exact ⟨hk, hq, hReady, rfl⟩
    · cases hm
  · rintro ⟨hk, hq, hReady, hUnsent⟩
    refine ⟨m.key, hk, m.qp, hq, ?_⟩
    rw [if_pos hReady, ← hUnsent]

/-- The message selected can send, and one is selected if any can. -/
theorem selectLocal_spec (mtu : Nat) (r : ReceiverState) (ms : List LocalMsg)
    (selected : Option LocalMsg) :
    (∀ m, selectLocal mtu r ms selected = some m →
      selected = some m ∨ (m ∈ ms ∧ r.canSend mtu m.qp = true)) ∧
    (selectLocal mtu r ms selected = none →
      selected = none ∧ ∀ m ∈ ms, r.canSend mtu m.qp = false) := by
  induction ms generalizing selected with
  | nil => exact ⟨fun m hm => Or.inl hm, fun hNone => ⟨hNone, fun _ => nofun⟩⟩
  | cons m ms ih =>
    unfold selectLocal
    split
    · rename_i hCannot
      have hCannot : r.canSend mtu m.qp = false := by simpa using hCannot
      obtain ⟨hSome, hNone⟩ := ih selected
      refine ⟨fun m' hm' => ?_, fun h => ?_⟩
      · rcases hSome m' hm' with hOld | ⟨hMem, hSend⟩
        · exact Or.inl hOld
        · exact Or.inr ⟨List.mem_cons_of_mem m hMem, hSend⟩
      · obtain ⟨hOld, hRest⟩ := hNone h
        exact ⟨hOld, List.forall_mem_cons.mpr ⟨hCannot, hRest⟩⟩
    · rename_i hCan
      have hCan : r.canSend mtu m.qp = true := by simpa using hCan
      split
      · refine ⟨fun m' hm' => ?_, nofun⟩
        cases hm'
        exact Or.inr ⟨List.mem_cons_self, hCan⟩
      · obtain ⟨hSome, hNone⟩ := ih (selected.or (some m))
        refine ⟨fun m' hm' => ?_, fun h => ?_⟩
        · rcases hSome m' hm' with hOld | ⟨hMem, hSend⟩
          · cases selected with
            | none =>
              cases hOld
              exact Or.inr ⟨List.mem_cons_self, hCan⟩
            | some old => exact Or.inl hOld
          · exact Or.inr ⟨List.mem_cons_of_mem m hMem, hSend⟩
        · cases selected with
          | none => exact absurd (hNone h).1 nofun
          | some old => exact absurd (hNone h).1 nofun

end CbSender

theorem Nic.qindexOf_eq_some {n : Nic} {k : TxKey} {idx : Nat} (h : n.qindexOf k = some idx) :
    n.isQpFinished idx = false ∧ n.qps[idx]? = some k := by
  have hFound := List.find?_some h
  simpa using hFound

theorem Nic.qindexOf_ne_none {n : Nic} {k : TxKey} {idx : Nat} (hk : n.qps[idx]? = some k)
    (hUnmarked : n.isQpFinished idx = false) : n.qindexOf k ≠ none := by
  intro hNone
  have hMem : idx ∈ n.rrOrder := Nic.mem_rrOrder.mpr (List.getElem?_eq_some_iff.mp hk).1
  have hNot := List.find?_eq_none.mp hNone idx hMem
  simp [hk, hUnmarked] at hNot

/-! ## One call -/

/-- Every message has its NIC, marks stand at finished messages only, and with the policy that picks
one message for each receiver, the unfinished messages to a receiver share a NIC. -/
structure CbNode.Housed (cfg : CbNodeConfig) (s : CbNode) : Prop where
  mtu : ∀ n ∈ s.nics, n.mtu = cfg.mtu
  placed : ∀ k q, s.tx.qpMap k = some q → ∃ n ∈ s.nics, k ∈ n.qps
  known : ∀ n ∈ s.nics, ∀ k ∈ n.qps, ∃ q, s.tx.qpMap k = some q
  marks : ∀ n ∈ s.nics, ∀ idx k q, n.isQpFinished idx = true → n.qps[idx]? = some k →
    s.tx.qpMap k = some q → q.isFinished = true
  oneNic : cfg.senderSchedPolicy = .srpt → ∀ (i j : Nat) (n n' : Nic) k k' q q', s.nics[i]? = some n →
    s.nics[j]? = some n' → k ∈ n.qps → k' ∈ n'.qps → s.tx.qpMap k = some q →
    s.tx.qpMap k' = some q' → q.bytesLeft ≠ 0 → q'.bytesLeft ≠ 0 → q.dip = q'.dip → i = j

/-- The credit counters have room for what messages that have not been checked give themselves. -/
def CbNode.HasRoom (cfg : CbConfig) (s : CbNode) : Prop :=
  ∀ k q, s.tx.qpMap k = some q → q.usnsolCheckDone = false →
    (s.tx.getOrCreateReceiverState q.dip k).Room cfg q

/-- The index of a QP that sends is returned, or none when no ready QP of the NIC would send. -/
structure CbNode.Agrees (cfg : CbNodeConfig) (s : CbNode) (n : Nic) (c : NicClock)
    (choice : CbSender.SchedulerChoice) : Prop where
  index : ∀ idx, (s.tx.getNextCreditBouncerQindex cfg n c choice).2 = some idx →
    ∃ k q, n.qps[idx]? = some k ∧ s.tx.qpMap k = some q ∧
      (s.tx.getNxtPacket cfg.toCbSenderConfig k q).2.isSome = true
  none : (s.tx.getNextCreditBouncerQindex cfg n c choice).2 = none →
    ∀ k ∈ n.qps, ∀ q, s.tx.qpMap k = some q → c.ready k q = true →
      (s.tx.getNxtPacket cfg.toCbSenderConfig k q).2 = none

section Call

variable {cfg : CbNodeConfig} {s : CbNode} {n : Nic} (c : NicClock)
  (choice : CbSender.SchedulerChoice)

theorem sends_iff (hTx : s.tx.Enrolled) (hRoom : s.HasRoom cfg.toCbConfig) {k : TxKey}
    {q : QueuePair} (hq : s.tx.qpMap k = some q) (hLeft : q.bytesLeft ≠ 0) :
    (s.tx.getNxtPacket cfg.toCbSenderConfig k q).2.isSome =
      (s.tx.getOrCreateReceiverState q.dip k).canSend cfg.mtu q :=
  getNxtPacket_isSome hLeft (fun hDone => hTx.fresh k q hq hDone hLeft) (hRoom k q hq)

/-- A message that is not finished stands at an index without a mark. -/
theorem unmarked_of_bytesLeft (hTx : s.tx.Enrolled) (hNode : s.Housed cfg) (hn : n ∈ s.nics)
    {k : TxKey} {q : QueuePair} (hk : k ∈ n.qps) (hq : s.tx.qpMap k = some q)
    (hLeft : q.bytesLeft ≠ 0) : ∃ idx : Nat, n.qps[idx]? = some k ∧ n.isQpFinished idx = false := by
  obtain ⟨idx, hIdx⟩ := List.mem_iff_getElem?.mp hk
  refine ⟨idx, hIdx, Bool.eq_false_iff.mpr fun hMarked => ?_⟩
  exact hLeft (hTx.finished k q hq (hNode.marks n hn idx k q hMarked hIdx hq))

theorem agrees_rr (hPolicy : cfg.senderSchedPolicy = .rr) (hTx : s.tx.Enrolled)
    (hNode : s.Housed cfg) (hRoom : s.HasRoom cfg.toCbConfig) (hn : n ∈ s.nics)
    (hSome : n.qps ≠ []) : s.Agrees cfg n c choice := by
  have hFlows := CbSender.sameFlows_clearPriority s.tx n.unmarked
  obtain ⟨-, hIndex, hNone⟩ :=
    CbSender.rrScan_spec (hTx.sameFlows hFlows) n c n.rrOrder
  have hCall : (s.tx.getNextCreditBouncerQindex cfg n c choice).2 =
      (CbSender.rrScan n c n.rrOrder (s.tx.clearPriority n.unmarked)).2 := by
    simp [CbSender.getNextCreditBouncerQindex, hSome, hPolicy]
  constructor
  · intro idx hIdx
    obtain ⟨k, q, hk, hq, hReady, hSend⟩ := hIndex idx (hCall.symm.trans hIdx)
    obtain ⟨b, hs⟩ := hFlows.symm.qpMap hq
    refine ⟨k, _, hk, hs, ?_⟩
    rw [sends_iff hTx hRoom hs (NicClock.ready_iff.mp hReady).1, ← hNode.mtu n hn]
    exact hSend
  · intro hIdx k hk q hq hReady
    obtain ⟨b, ht⟩ := hFlows.qpMap hq
    have hLeft := (NicClock.ready_iff.mp hReady).1
    obtain ⟨idx, hAt, hUnmarked⟩ := unmarked_of_bytesLeft hTx hNode hn hk hq hLeft
    have hIn : idx ∈ n.rrOrder := Nic.mem_rrOrder.mpr (List.getElem?_eq_some_iff.mp hAt).1
    have hCannot := hNone (hCall.symm.trans hIdx) idx hIn hUnmarked k _ hAt ht hReady
    rw [← Option.not_isSome_iff_eq_none, Bool.not_eq_true,
      sends_iff hTx hRoom hq hLeft, ← hNode.mtu n hn]
    exact hCannot

theorem agrees_srpt (hPolicy : cfg.senderSchedPolicy = .srpt) (hTx : s.tx.Enrolled)
    (hNode : s.Housed cfg) (hRoom : s.HasRoom cfg.toCbConfig) {j : Nat} (hn : s.nics[j]? = some n)
    (hSome : n.qps ≠ []) : s.Agrees cfg n c choice := by
  have hMem : n ∈ s.nics := List.mem_of_getElem? hn
  have hCall : (s.tx.getNextCreditBouncerQindex cfg n c choice).2 =
      (choice.bestDeficit (s.tx.candidates n c choice)).map
        CbSender.ReceiverCandidate.qindex := by
    simp only [CbSender.getNextCreditBouncerQindex, if_neg hSome, hPolicy, CbSender.srptSelect]
    cases choice.bestDeficit (s.tx.candidates n c choice) with
    | none => rfl
    | some best => rfl
  constructor
  · intro idx hIdx
    obtain ⟨best, hBest, rfl⟩ := Option.map_eq_some_iff.mp (hCall.symm.trans hIdx)
    obtain ⟨addr, hAddr, hCandidate⟩ := List.mem_filterMap.mp (choice.bestDeficit_mem _ _ hBest)
    have hState : s.tx.receiverStates.get? addr = some (s.tx.receiverStates.val addr) :=
      Table.get?_eq_some.mpr ⟨(Finset.mem_sort _).mp hAddr, rfl⟩
    generalize s.tx.receiverStates.val addr = r at hState hCandidate
    unfold CbSender.candidateOf at hCandidate
    split at hCandidate
    · cases hCandidate
    · obtain ⟨m, hSelect, hFound⟩ := Option.bind_eq_some_iff.mp hCandidate
      obtain ⟨idx, hIndex, rfl⟩ := Option.map_eq_some_iff.mp hFound
      obtain ⟨hIn, hSend⟩ :=
        ((CbSender.selectLocal_spec n.mtu r _ none).1 m hSelect).resolve_left nofun
      obtain ⟨hListed, hq, hReady, -⟩ :=
        CbSender.mem_localMsgs.mp ((choice.sortMsgs_perm _).mem_iff.mp hIn)
      obtain ⟨q, hq', hDip⟩ := hTx.owned addr r m.key hState hListed
      obtain rfl := Option.some.inj (hq.symm.trans hq')
      refine ⟨m.key, m.qp, (Nic.qindexOf_eq_some hIndex).2, hq, ?_⟩
      rw [sends_iff hTx hRoom hq (NicClock.ready_iff.mp hReady).1, hDip,
        CbSender.getOrCreateReceiverState_of_mem hState hListed, ← hNode.mtu n hMem]
      exact hSend
  · intro hIdx k hk q hq hReady
    have hLeft := (NicClock.ready_iff.mp hReady).1
    have hEmpty : s.tx.candidates n c choice = [] := by
      by_contra hCandidates
      have hBest := choice.bestDeficit_isSome _ hCandidates
      rw [Option.map_eq_none_iff.mp (hCall.symm.trans hIdx)] at hBest
      cases hBest
    rw [← Option.not_isSome_iff_eq_none, sends_iff hTx hRoom hq hLeft]
    intro hSend
    obtain ⟨r, hr, hEnabled, hListed⟩ := hTx.listed k q hq hLeft
    rw [CbSender.getOrCreateReceiverState_of_mem hr hListed, ← hNode.mtu n hMem] at hSend
    obtain ⟨hKey, hVal⟩ := Table.get?_eq_some.mp hr
    have hNoCandidate : s.tx.candidateOf n c choice q.dip r = none := by
      rw [← hVal]
      exact List.filterMap_eq_nil_iff.mp hEmpty q.dip ((Finset.mem_sort _).mpr hKey)
    have hNonempty : ¬ (!r.enabled || r.msgStates.isEmpty) = true := by
      have hList : r.msgStates ≠ [] := List.ne_nil_of_mem hListed
      simp [hEnabled, hList]
    rw [CbSender.candidateOf, if_neg hNonempty] at hNoCandidate
    -- this message could be selected, so some message of the receiver is
    have hHere : CbSender.LocalMsg.mk q.bytesLeft k q ∈ choice.sortMsgs (s.tx.localMsgs c r) :=
      (choice.sortMsgs_perm _).mem_iff.mpr
        (CbSender.mem_localMsgs.mpr ⟨hListed, hq, hReady, rfl⟩)
    obtain ⟨hFound, hNotFound⟩ :=
      CbSender.selectLocal_spec n.mtu r (choice.sortMsgs (s.tx.localMsgs c r)) none
    cases hSelect : CbSender.selectLocal n.mtu r (choice.sortMsgs (s.tx.localMsgs c r)) none with
    | none =>
      have hCannot := (hNotFound hSelect).2 _ hHere
      exact absurd (hSend.symm.trans hCannot) nofun
    | some m =>
      obtain ⟨hIn, -⟩ := (hFound m hSelect).resolve_left nofun
      obtain ⟨hListed', hq', hReady', -⟩ :=
        CbSender.mem_localMsgs.mp ((choice.sortMsgs_perm _).mem_iff.mp hIn)
      obtain ⟨q', hOwned, hDip⟩ := hTx.owned q.dip r m.key hr hListed'
      obtain rfl := Option.some.inj (hq'.symm.trans hOwned)
      have hLeft' := (NicClock.ready_iff.mp hReady').1
      obtain ⟨n', hn', hk'⟩ := hNode.placed m.key m.qp hq'
      obtain ⟨i, hi⟩ := List.mem_iff_getElem?.mp hn'
      obtain rfl := hNode.oneNic hPolicy i j n' n m.key k m.qp q hi hn hk' hk hq' hq hLeft' hLeft hDip
      obtain rfl := Option.some.inj (hi.symm.trans hn)
      obtain ⟨idx, hAt, hUnmarked⟩ := unmarked_of_bytesLeft hTx hNode hMem hk' hq' hLeft'
      rw [hSelect, Option.bind_some, Option.map_eq_none_iff] at hNoCandidate
      exact Nic.qindexOf_ne_none hAt hUnmarked hNoCandidate

theorem agrees_of_housed (hTx : s.tx.Enrolled) (hNode : s.Housed cfg)
    (hRoom : s.HasRoom cfg.toCbConfig) {j : Nat} (hn : s.nics[j]? = some n) :
    s.Agrees cfg n c choice := by
  by_cases hSome : n.qps = []
  · refine ⟨fun idx hIdx => ?_, fun _ k hk => ?_⟩
    · simp [CbSender.getNextCreditBouncerQindex, hSome] at hIdx
    · simp [hSome] at hk
  · cases hPolicy : cfg.senderSchedPolicy with
    | rr => exact agrees_rr c choice hPolicy hTx hNode hRoom (List.mem_of_getElem? hn) hSome
    | srpt => exact agrees_srpt c choice hPolicy hTx hNode hRoom hn hSome

end Call

end Dpdq.Ns3
