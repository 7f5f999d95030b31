import Mathlib.Data.Multiset.Filter
import Dpdq.Ns3.CbGrantBooks

/-!
# Grants on their way

The receiver and the network between it and the sender. Grants reach the sender in any order, or a
switch bounces them, and a bounced credit takes its demand back to the receiver. A grant carries the
granted bytes of its message as sequence number. After a bounce these are no longer the offset of
the chunk that the grant is for (`reissued_grant_repeats`), unless all later grants of the message
came back as well (`path_pairing`).
-/

namespace Dpdq.Ns3

open Dpdq.Lib

variable {cfg : CbConfig}

/-! ## The network -/

structure GrantNet where
  rx : CbReceiver := {}
  /-- Grants that were issued and have neither reached the sender nor been bounced. -/
  toSender : Multiset CbPacket := 0
  reached : Multiset CbPacket := 0
  /-- Grants that a switch has bounced, as they were issued. -/
  bounced : Multiset CbPacket := 0

inductive GrantEvent where
  | receiver (e : CbReceiver.Event)
  | reach (g : CbPacket)
  | bounce (g : CbPacket)
  | bounceBack (g : CbPacket)
  | lose (g : CbPacket)
  | loseBounced (g : CbPacket)

namespace CbReceiver

/-- The grant of an event. -/
def issues (cfg : CbConfig) (s : CbReceiver) : Event → Option CbPacket
  | .grantTick order => (s.creditGrantTick cfg order).2
  | _ => none

end CbReceiver

namespace GrantNet

/-- Bounced credits come from the network only. -/
def step (cfg : CbConfig) (n : GrantNet) : GrantEvent → Option GrantNet
  | .receiver e =>
    if e.isBouncedCredit then none
    else (n.rx.step cfg e).map fun rx =>
      { n with rx := rx, toSender := (n.rx.issues cfg e).elim 0 ({·}) + n.toSender }
  | .reach g =>
    if g ∈ n.toSender then
      some { n with toSender := n.toSender.erase g, reached := g ::ₘ n.reached }
    else none
  | .bounce g =>
    if g ∈ n.toSender then
      some { n with toSender := n.toSender.erase g, bounced := g ::ₘ n.bounced }
    else none
  | .bounceBack g =>
    if g ∈ n.bounced then
      some { n with rx := (n.rx.receive cfg g.bounced).1, bounced := n.bounced.erase g }
    else none
  | .lose g => if g ∈ n.toSender then some { n with toSender := n.toSender.erase g } else none
  | .loseBounced g => if g ∈ n.bounced then some { n with bounced := n.bounced.erase g } else none

/-- The grants of a message that have not come back. -/
def out (n : GrantNet) (k : RxKey) : Multiset CbPacket :=
  (n.toSender + n.reached + n.bounced).filter fun g => g.txKey = k

/-- The grants of a message that the sender has. -/
def reachedOf (n : GrantNet) (k : RxKey) : Multiset CbPacket :=
  n.reached.filter fun g => g.txKey = k

end GrantNet

/-- The receiver of a host with the network to its senders. -/
def grantNet (cfg : CbConfig) : Machine GrantNet GrantEvent where
  init := {}
  step := GrantNet.step cfg

/-! ## Chunks and grants -/

namespace GrantNet

/-- The grants that are out are those of some chunks, and the receiver has them on its books. -/
structure Sound (m : CbMessage cfg) (n : GrantNet) : Prop where
  grained : n.rx.Grained cfg
  paired : ∃ chunks ⊆ m.scheduledChunks, n.out m.key = chunks.val.map m.grantOf ∧
    n.rx.Books m (∑ i ∈ chunks, chunkSize cfg m.size i)

theorem sound_init (m : CbMessage cfg) : ({} : GrantNet).Sound m where
  grained := CbReceiver.grained_init
  paired := ⟨∅, Finset.empty_subset _, rfl, ⟨fun _ => rfl, nofun⟩⟩

/-- A step that keeps the grants of a message and its books. -/
theorem Sound.congr {m : CbMessage cfg} {n n' : GrantNet} (h : n.Sound m) (hRx : n'.rx = n.rx)
    (hOut : n'.out m.key = n.out m.key) : n'.Sound m := by
  constructor
  · rw [hRx]
    exact h.grained
  · rw [hRx, hOut]
    exact h.paired

/-- A grant of a message is on its way to the sender. -/
theorem out_cons {n t : GrantNet} {g : CbPacket} {k : RxKey}
    (hAll : t.toSender + t.reached + t.bounced = g ::ₘ (n.toSender + n.reached + n.bounced)) :
    t.out k = if g.txKey = k then g ::ₘ n.out k else n.out k := by
  unfold out
  rw [hAll]
  split
  · rename_i hKey
    exact Multiset.filter_cons_of_pos _ hKey
  · rename_i hKey
    exact Multiset.filter_cons_of_neg _ hKey

theorem all_erase_toSender {n : GrantNet} {g : CbPacket} (hg : g ∈ n.toSender) :
    n.toSender + n.reached + n.bounced =
      g ::ₘ (n.toSender.erase g + n.reached + n.bounced) := by
  rw [← Multiset.cons_add, ← Multiset.cons_add, Multiset.cons_erase hg]

theorem all_erase_bounced {n : GrantNet} {g : CbPacket} (hg : g ∈ n.bounced) :
    n.toSender + n.reached + n.bounced =
      g ::ₘ (n.toSender + n.reached + n.bounced.erase g) := by
  rw [← Multiset.add_cons, Multiset.cons_erase hg]

theorem Sound.reach {m : CbMessage cfg} {n : GrantNet} (h : n.Sound m) {g : CbPacket}
    (hg : g ∈ n.toSender) :
    ({ n with toSender := n.toSender.erase g, reached := g ::ₘ n.reached } : GrantNet).Sound m := by
  refine h.congr ?_ ?_
  · rfl
  unfold out
  rw [all_erase_toSender hg, Multiset.add_cons, Multiset.cons_add]

theorem Sound.bounce {m : CbMessage cfg} {n : GrantNet} (h : n.Sound m) {g : CbPacket}
    (hg : g ∈ n.toSender) :
    ({ n with toSender := n.toSender.erase g, bounced := g ::ₘ n.bounced } : GrantNet).Sound m := by
  refine h.congr ?_ ?_
  · rfl
  unfold out
  rw [all_erase_toSender hg, Multiset.add_cons]

/-- Losses of other grants do not matter. -/
theorem Sound.lose {m : CbMessage cfg} {n n' : GrantNet} (h : n.Sound m) {g : CbPacket}
    (hRx : n'.rx = n.rx)
    (hAll : n.toSender + n.reached + n.bounced = g ::ₘ (n'.toSender + n'.reached + n'.bounced))
    (hOther : g.txKey ≠ m.key) : n'.Sound m := by
  apply h.congr hRx
  rw [out_cons hAll, if_neg hOther]

/-- The grants of a message that are out lie before its next one. -/
def InOrder (n : GrantNet) (k : RxKey) : Prop :=
  match n.rx.rxQpMap k with
  | none => True
  | some q => ∀ g ∈ n.out k, g.ch.seq < q.announcementExpectedBytes - q.pendingDemandBytes

/-- The next grant is for the first chunk that has no grant. -/
theorem Sound.grantTick (hMtu : 0 < cfg.mtu) (hWire : cfg.mtu + 68 < 2 ^ 32)
    {m : CbMessage cfg} {n : GrantNet} (h : n.Sound m) {order : List Nat} {rx : CbReceiver}
    (hGrained : rx.Grained cfg) (hRx : rx.rxQpMap = (n.rx.creditGrantTick cfg order).1.rxQpMap)
    (hOrder : ∀ g, (n.rx.creditGrantTick cfg order).2 = some g → g.txKey = m.key →
      n.InOrder m.key) :
    ({ n with
      rx := rx
      toSender := (n.rx.creditGrantTick cfg order).2.elim 0 ({·}) + n.toSender } :
        GrantNet).Sound m := by
  refine ⟨hGrained, ?_⟩
  obtain ⟨chunks, hSub, hOut, hBooks⟩ := h.paired
  rcases CbReceiver.creditGrantTick_spec hMtu h.grained order with
    ⟨hNone, hMap⟩ | ⟨k, q, hq, hPending, hGrant, hMap⟩
  · refine ⟨chunks, hSub, ?_, hBooks.congr (by rw [hRx, hMap])⟩
    unfold out at hOut ⊢
    rw [hNone, Option.elim_none, Multiset.zero_add, hOut]
  · have hCons := out_cons (n := n) (t := { n with
      rx := rx
      toSender := (n.rx.creditGrantTick cfg order).2.elim 0 ({·}) + n.toSender }) (k := m.key)
      (g := CbReceiver.grantPacket k q (min q.pendingDemandBytes cfg.mtu)
        (cbAddHeaderOverhead (min q.pendingDemandBytes cfg.mtu) cfg.mtu true)) (by
        simp only [hGrant, Option.elim_some, Multiset.singleton_add, Multiset.cons_add])
    rw [CbReceiver.txKey_grantPacket] at hCons
    by_cases hKey : k = m.key
    · subst hKey
      have hOwn := hBooks.known q hq
      have hAnnounced : q.announcementAccounted = true := by
        by_contra hQuiet
        exact hPending (hOwn.quiet (Bool.eq_false_iff.mpr hQuiet)).1
      obtain ⟨hBytes, hSum⟩ := hOwn.announced hAnnounced
      have hBefore := hOrder _ hGrant rfl
      unfold InOrder at hBefore
      simp only [hq] at hBefore
      obtain ⟨hNext, hChunks⟩ := m.prefix_of_ordered hMtu hSub rfl (by omega) (by
        intro i hi
        have hMem : m.grantOf i ∈ n.out m.key := by
          rw [hOut]
          exact Multiset.mem_map_of_mem _ hi
        have hLess : i * cfg.mtu < q.announcementExpectedBytes - q.pendingDemandBytes :=
          hBefore _ hMem
        omega)
      generalize hLast : chunkCount cfg (m.selfAllocCreditDataBytes +
        ∑ i ∈ chunks, chunkSize cfg m.size i) = last at hNext hChunks
      have hFresh : last ∉ chunks := by
        rw [hChunks]
        exact Finset.right_notMem_Ico
      have hScheduled : last ∈ m.scheduledChunks := by
        rw [CbMessage.mem_scheduledChunks hMtu, ← hNext, ← hLast]
        exact ⟨CbMessage.chunkCount_le_of_le (Nat.le_add_right _ _), by omega⟩
      refine ⟨insert last chunks, Finset.insert_subset hScheduled hSub, ?_, ?_⟩
      · rw [hCons, if_pos rfl, m.grantPacket_eq hMtu hWire hOwn hAnnounced hNext hPending, hOut,
          Finset.insert_val_of_notMem hFresh, Multiset.map_cons]
      · refine CbReceiver.Books.store (hRx.trans hMap) ?_
        rw [Finset.sum_insert hFresh]
        refine ⟨hOwn.sip, hOwn.sport, fun _ => ⟨hBytes, ?_⟩, fun hQuiet => ?_⟩
        · have hSize : chunkSize cfg m.size last = min cfg.mtu (m.size - last * cfg.mtu) := rfl
          simp only
          omega
        · rw [hAnnounced] at hQuiet
          cases hQuiet
    · refine ⟨chunks, hSub, ?_, hBooks.congr ?_⟩
      · rw [hCons, if_neg hKey, hOut]
      · rw [hRx, hMap, Function.update_of_ne (Ne.symm hKey)]

/-- The demand of a bounced grant is not cut by the ledger of its sender. -/
def Refunds (n : GrantNet) (g : CbPacket) : Prop :=
  Account.bouncedData g.bounced.tag ≤
    (n.rx.getOrCreateSenderState g.txKey).outstandingDataBytes

/-- A bounced grant gives its chunk back. -/
theorem Sound.bounceBack (hMtu : 0 < cfg.mtu) {m : CbMessage cfg} {n : GrantNet} (h : n.Sound m)
    {g : CbPacket} (hg : g ∈ n.bounced)
    (hGrained : (n.rx.receive cfg g.bounced).1.Grained cfg)
    (hRefunds : g.txKey = m.key → n.Refunds g) :
    ({ n with
      rx := (n.rx.receive cfg g.bounced).1
      bounced := n.bounced.erase g } : GrantNet).Sound m := by
  refine ⟨hGrained, ?_⟩
  obtain ⟨chunks, hSub, hOut, hBooks⟩ := h.paired
  have hCons := out_cons (k := m.key) (n := { n with
    rx := (n.rx.receive cfg g.bounced).1
    bounced := n.bounced.erase g }) (all_erase_bounced hg)
  by_cases hKey : g.txKey = m.key
  · rw [if_pos hKey, hOut] at hCons
    obtain ⟨i, hi, rfl⟩ := Multiset.mem_map.mp (hCons ▸ Multiset.mem_cons_self g _)
    have hMem : i ∈ chunks := hi
    have hChunk := hSub hMem
    have hPos := CbMessage.chunkSize_pos_of_mem hMtu hChunk
    have hSum := Finset.sum_erase_add chunks (chunkSize cfg m.size) hMem
    refine ⟨chunks.erase i, (Finset.erase_subset _ _).trans hSub, ?_, ?_⟩
    · have hVal : chunks.val = i ::ₘ (chunks.erase i).val := by
        rw [Finset.erase_val, Multiset.cons_erase hi]
      rw [hVal, Multiset.map_cons] at hCons
      exact ((Multiset.cons_inj_right _).mp hCons).symm
    · rcases CbReceiver.rxQpMap_receive_of_bounced cfg n.rx (p := (m.grantOf i).bounced) rfl with
        ⟨hNone, -⟩ | ⟨q, hq, hMap⟩
      · have hZero := hBooks.unknown hNone
        omega
      · have hOwn := hBooks.known q hq
        have hAnnounced : q.announcementAccounted = true := by
          by_contra hQuiet
          have hZero := (hOwn.quiet (Bool.eq_false_iff.mpr hQuiet)).2
          omega
        obtain ⟨hBytes, hTotal⟩ := hOwn.announced hAnnounced
        have hSize := m.size_lt
        have hData := CbMessage.bouncedData_grantOf hMtu hChunk
        have hRefund : Account.bouncedData (m.grantOf i).bounced.tag ≤
            (n.rx.openAccount m.key q).sender.outstandingDataBytes := hRefunds hKey
        have hReturned : ((n.rx.openAccount m.key q).bounce (m.grantOf i).bounced.tag).msg =
            { q with pendingDemandBytes := q.pendingDemandBytes + chunkSize cfg m.size i } := by
          rw [Account.bounce_msg, Nat.min_eq_left hRefund, hData]
          show { q with pendingDemandBytes := saturatingAdd q.pendingDemandBytes _ } = _
          rw [saturatingAdd_of_lt (by omega)]
        refine CbReceiver.Books.store hMap
          (RxQueuePair.Books.congr ?_ (RxQueuePair.sameBooks_scheduleResend _))
        rw [CbPacket.rxKey_bounced, hKey, hReturned]
        refine ⟨hOwn.sip, hOwn.sport, fun _ => ⟨hBytes, ?_⟩, fun hQuiet => ?_⟩
        · dsimp only
          omega
        · exact absurd (hAnnounced.symm.trans hQuiet) nofun
  · rw [if_neg hKey] at hCons
    refine ⟨chunks, hSub, hCons ▸ hOut, hBooks.congr ?_⟩
    rcases CbReceiver.rxQpMap_receive_of_bounced cfg n.rx (p := g.bounced) rfl with
      ⟨-, hMap⟩ | ⟨q, -, hMap⟩
    · exact congrFun hMap m.key
    · rw [hMap, CbPacket.rxKey_bounced, Function.update_of_ne (Ne.symm hKey)]

/-! ## Runs -/

/-- The packets of a message are its own, and none of its grants is lost. -/
def Promised (m : CbMessage cfg) : GrantEvent → Prop
  | .receiver e => e.Announces m
  | .lose g => g.txKey ≠ m.key
  | .loseBounced g => g.txKey ≠ m.key
  | _ => True

instance (m : CbMessage cfg) (e : GrantEvent) : Decidable (Promised m e) :=
  match e with
  | .receiver e => inferInstanceAs (Decidable (e.Announces m))
  | .lose g => inferInstanceAs (Decidable (g.txKey ≠ m.key))
  | .loseBounced g => inferInstanceAs (Decidable (g.txKey ≠ m.key))
  | .reach _ => isTrue trivial
  | .bounce _ => isTrue trivial
  | .bounceBack _ => isTrue trivial

/-- A grant of the message is issued when no later one is out, and bounced credit of it comes back
to a ledger that holds it. -/
def ReturnsInOrder (m : CbMessage cfg) (n : GrantNet) : GrantEvent → Prop
  | .receiver e => ((n.rx.issues cfg e).elim False fun g => g.txKey = m.key) → n.InOrder m.key
  | .bounceBack g => g.txKey = m.key → n.Refunds g
  | _ => True

instance (n : GrantNet) (k : RxKey) : Decidable (n.InOrder k) :=
  match h : n.rx.rxQpMap k with
  | none => isTrue (by unfold InOrder; rw [h]; trivial)
  | some q =>
    decidable_of_iff
      (∀ g ∈ n.out k, g.ch.seq < q.announcementExpectedBytes - q.pendingDemandBytes)
      (by unfold InOrder; rw [h])

instance (m : CbMessage cfg) (n : GrantNet) (e : GrantEvent) : Decidable (ReturnsInOrder m n e) :=
  match e with
  | .receiver e =>
    have : Decidable ((n.rx.issues cfg e).elim False fun g => g.txKey = m.key) :=
      match n.rx.issues cfg e with
      | none => isFalse not_false
      | some g => inferInstanceAs (Decidable (g.txKey = m.key))
    inferInstanceAs (Decidable (_ → _))
  | .bounceBack g =>
    have : Decidable (n.Refunds g) := inferInstanceAs (Decidable (_ ≤ _))
    inferInstanceAs (Decidable (_ → _))
  | .reach _ => isTrue trivial
  | .bounce _ => isTrue trivial
  | .lose _ => isTrue trivial
  | .loseBounced _ => isTrue trivial

theorem Sound.step (hMtu : 0 < cfg.mtu) (hWire : cfg.mtu + 68 < 2 ^ 32)
    (hGrain : cfg.grantGranularityBytes ≤ cfg.mtu) {m : CbMessage cfg} {n n' : GrantNet}
    (h : n.Sound m) {e : GrantEvent} (hPromised : Promised m e) (hOrder : ReturnsInOrder m n e)
    (hStep : n.step cfg e = some n') : n'.Sound m := by
  cases e with
  | receiver e =>
    unfold GrantNet.step at hStep
    simp only at hStep
    split at hStep
    · cases hStep
    · rename_i hOwn
      obtain ⟨rx, hRx, rfl⟩ := Option.map_eq_some_iff.mp hStep
      have hGrained := h.grained.step hGrain hRx
      by_cases hTick : ∃ order, e = .grantTick order
      · obtain ⟨order, rfl⟩ := hTick
        apply h.grantTick hMtu hWire hGrained
        · unfold CbReceiver.step at hRx
          simp only at hRx
          split at hRx
          · obtain rfl := Option.some.inj hRx
            rfl
          · cases hRx
        · intro g hg hKey
          apply hOrder
          show Option.elim (n.rx.creditGrantTick cfg order).2 _ _
          rw [hg]
          exact hKey
      · obtain ⟨chunks, hSub, hOut, hBooks⟩ := h.paired
        have hOther : ∀ order, e ≠ .grantTick order := fun order hEq => hTick ⟨order, hEq⟩
        have hNone : n.rx.issues cfg e = none := by
          cases e with
          | grantTick order => exact absurd rfl (hOther order)
          | arrive p => rfl
          | resendTimeout k => rfl
        refine ⟨hGrained, chunks, hSub, ?_, hBooks.step (Bool.eq_false_iff.mpr hOwn) hOther
          hPromised hRx⟩
        unfold out at hOut ⊢
        rw [hNone, Option.elim_none, Multiset.zero_add, hOut]
  | reach g =>
    obtain ⟨hg, rfl⟩ := Machine.of_guarded hStep
    exact h.reach hg
  | bounce g =>
    obtain ⟨hg, rfl⟩ := Machine.of_guarded hStep
    exact h.bounce hg
  | bounceBack g =>
    obtain ⟨hg, rfl⟩ := Machine.of_guarded hStep
    exact h.bounceBack hMtu hg (h.grained.step hGrain (e := .arrive g.bounced) rfl) hOrder
  | lose g =>
    obtain ⟨hg, rfl⟩ := Machine.of_guarded hStep
    exact h.lose rfl (all_erase_toSender hg) hPromised
  | loseBounced g =>
    obtain ⟨hg, rfl⟩ := Machine.of_guarded hStep
    exact h.lose rfl (all_erase_bounced hg) hPromised

/-! ## Paths -/

/-- The message is granted, and none of its grants is on its way. -/
structure Settled (n : GrantNet) (k : RxKey) : Prop where
  granted : ∃ q, n.rx.rxQpMap k = some q ∧ q.announcementAccounted = true ∧ q.pendingDemandBytes = 0
  arrived : ∀ g ∈ n.toSender + n.bounced, g.txKey ≠ k

/-- Every grant that the sender has is for a scheduled chunk of its own, with the wire bytes of this
chunk and on its links, and in the end every scheduled chunk has one. -/
structure PathPaired (m : CbMessage cfg) (n : GrantNet) : Prop where
  chunk : ∀ g ∈ n.reachedOf m.key, ∃ i ∈ m.scheduledChunks,
    g.ch.seq = (m.dataOf i).ch.seq ∧
    g.tag.creditBytes = cbAddHeaderOverhead (m.dataOf i).payloadSize cfg.mtu true ∧
    ∀ grantSize dataSize, SameLink (g.toPacket grantSize) ((m.dataOf i).toPacket dataSize)
  once : ((n.reachedOf m.key).map fun g => g.ch.seq).Nodup
  all : n.Settled m.key → ∀ i ∈ m.scheduledChunks,
    ∃ g ∈ n.reachedOf m.key, g.ch.seq = (m.dataOf i).ch.seq

theorem reachedOf_le (n : GrantNet) (k : RxKey) : n.reachedOf k ≤ n.out k := by
  apply Multiset.filter_le_filter
  exact (Multiset.le_add_left _ _).trans (Multiset.le_add_right _ _)

/-- When none of its grants is on its way, the sender has all grants of a message that are out. -/
theorem Settled.reachedOf_eq {n : GrantNet} {k : RxKey} (h : n.Settled k) :
    n.reachedOf k = n.out k := by
  have hNone : (n.toSender + n.bounced).filter (fun g => g.txKey = k) = 0 :=
    Multiset.filter_eq_nil.mpr h.arrived
  rw [Multiset.filter_add] at hNone
  unfold out reachedOf
  rw [Multiset.filter_add, Multiset.filter_add, (add_eq_zero.mp hNone).1,
    (add_eq_zero.mp hNone).2, Multiset.zero_add, Multiset.add_zero]

theorem Sound.pathPaired (hMtu : 0 < cfg.mtu) {m : CbMessage cfg} {n : GrantNet}
    (h : n.Sound m) : n.PathPaired m := by
  obtain ⟨chunks, hSub, hOut, hBooks⟩ := h.paired
  have hReached := n.reachedOf_le m.key
  have hSeq : (fun g : CbPacket => g.ch.seq) ∘ m.grantOf = fun i => i * cfg.mtu := rfl
  constructor
  · intro g hg
    have hMem := Multiset.mem_of_le hReached hg
    rw [hOut] at hMem
    obtain ⟨i, hi, rfl⟩ := Multiset.mem_map.mp hMem
    exact ⟨i, hSub hi, rfl, rfl, m.grantOf_sameLink i⟩
  · have hAll : ((n.out m.key).map fun g => g.ch.seq).Nodup := by
      rw [hOut, Multiset.map_map, hSeq]
      exact chunks.nodup.map fun i j hEq => Nat.eq_of_mul_eq_mul_right hMtu hEq
    exact Multiset.nodup_of_le (Multiset.map_le_map hReached) hAll
  · intro hSettled i hi
    obtain ⟨q, hq, hAnnounced, hNone⟩ := hSettled.granted
    obtain ⟨-, hSum⟩ := (hBooks.known q hq).announced hAnnounced
    rw [hNone, Nat.add_zero] at hSum
    rw [← m.eq_scheduledChunks_of_sum hMtu hSub hSum] at hi
    refine ⟨m.grantOf i, ?_, rfl⟩
    rw [hSettled.reachedOf_eq, hOut]
    exact Multiset.mem_map_of_mem _ hi

end GrantNet

/-- Grants are paired with the scheduled data of their message in every state of a run in which the
message is not granted before the later grants of a bounced one have come back. -/
theorem path_pairing (hMtu : 0 < cfg.mtu) (hWire : cfg.mtu + 68 < 2 ^ 32)
    (hGrain : cfg.grantGranularityBytes ≤ cfg.mtu) (m : CbMessage cfg) (es : List GrantEvent)
    (n : GrantNet) (hRun : (grantNet cfg).run {} es = some n)
    (hGuard : (grantNet cfg).Guarded
      (fun n e => GrantNet.Promised m e ∧ GrantNet.ReturnsInOrder m n e) {} es) :
    n.PathPaired m := by
  have hSound : n.Sound m :=
    Machine.guarded_induction (M := grantNet cfg) (I := GrantNet.Sound m) (GrantNet.sound_init m)
      (fun _ _ _ h hSide hStep => h.step hMtu hWire hGrain hSide.1 hSide.2 hStep) hGuard hRun
  exact hSound.pathPaired hMtu

/-- A message of two chunks, from address 11 to address 1, all of it scheduled. -/
def smallMessage : CbMessage {} :=
  .selfAllocate {} ⟨11, 3, 7⟩ 1 100 0 (show 2932 < 2 ^ 32 by decide)

/-- Both grants are out. The second one is at the sender when the first one comes back bounced. -/
def bounceFirst : List GrantEvent :=
  [.receiver (.grantReq 11 7 2932), .receiver (.grantTick [11]), .receiver (.grantTick [11]),
    .bounce (smallMessage.grantOf 0), .reach (smallMessage.grantOf 1),
    .bounceBack (smallMessage.grantOf 0)]

/-- The second grant comes back instead, and is issued again. -/
def bounceSecond : List GrantEvent :=
  [.receiver (.grantReq 11 7 2932), .receiver (.grantTick [11]), .receiver (.grantTick [11]),
    .bounce (smallMessage.grantOf 1), .reach (smallMessage.grantOf 0),
    .bounceBack (smallMessage.grantOf 1),
    .receiver (.grantTick [11]), .reach (smallMessage.grantOf 1)]

theorem path_pairing_bounceSecond :
    ∃ n, (grantNet {}).run {} bounceSecond = some n ∧ n.PathPaired smallMessage := by
  have hRuns : ((grantNet {}).run {} bounceSecond).isSome := by decide +kernel
  obtain ⟨n, hRun⟩ := Option.isSome_iff_exists.mp hRuns
  exact ⟨n, hRun, path_pairing (by decide) (by decide) (by decide) smallMessage bounceSecond n hRun
    (by decide +kernel)⟩

/-- The grant that replaces a bounced one repeats the offset of a later grant. The sender has two
grants for the second chunk, and none for the first. -/
theorem reissued_grant_repeats :
    ∃ n, (grantNet {}).run {}
        (bounceFirst ++ [.receiver (.grantTick [11]), .reach (smallMessage.grantOf 1)]) = some n ∧
      (grantNet {}).Guarded (fun _ e => GrantNet.Promised smallMessage e) {}
        (bounceFirst ++ [.receiver (.grantTick [11]), .reach (smallMessage.grantOf 1)]) ∧
      n.Settled smallMessage.key ∧
      (n.reachedOf smallMessage.key).map (fun g => g.ch.seq) = {1466, 1466} ∧
      ¬ n.PathPaired smallMessage := by
  have hStates : ((grantNet {}).run {}
      (bounceFirst ++ [.receiver (.grantTick [11]), .reach (smallMessage.grantOf 1)])).map
        (fun n => ((n.rx.rxQpMap smallMessage.key).map fun q =>
          (q.announcementAccounted, q.pendingDemandBytes),
          n.toSender, n.bounced, (n.reachedOf smallMessage.key).map fun g => g.ch.seq)) =
      some (some (true, 0), 0, 0, {1466, 1466}) := by
    decide +kernel
  obtain ⟨n, hRun, hState⟩ := Option.map_eq_some_iff.mp hStates
  obtain ⟨hMsg, hState⟩ := Prod.mk.inj hState
  obtain ⟨hToSender, hState⟩ := Prod.mk.inj hState
  obtain ⟨hBounced, hReached⟩ := Prod.mk.inj hState
  obtain ⟨q, hq, hBooks⟩ := Option.map_eq_some_iff.mp hMsg
  obtain ⟨hAnnounced, hNone⟩ := Prod.mk.inj hBooks
  refine ⟨n, hRun, by decide +kernel, ⟨⟨q, hq, hAnnounced, hNone⟩, ?_⟩, hReached, ?_⟩
  · rw [hToSender, hBounced]
    exact fun g hg => absurd hg (Multiset.notMem_zero g)
  · intro hPaired
    have hOnce := hPaired.once
    rw [hReached] at hOnce
    revert hOnce
    decide

end Dpdq.Ns3
