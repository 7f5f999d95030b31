import Dpdq.Ns3.CbLinkStep

/-!
# Exact completion

A message from the sender to the receiver, over any network. The receiver counts exactly the chunks
that it has marked, it marks only chunks that arrived, and the arrival that marks the last one
completes the message; the sender's QP completes at most once and only when all bytes have arrived
(`exact_completion`).

The packets of a message are those that its QP makes, and bounced grants. A receive QP exists only
for a QP of the sender (`Unheard`).
-/

namespace Dpdq.Ns3

open Dpdq.Lib

variable {hosts : CbHosts}

/-! ## Without chunks -/

namespace RxQueuePair

/-- Nothing has been counted. With an MTU of 0 a message has no chunks, and nothing ever is. -/
structure Blank (q : RxQueuePair) : Prop where
  receivedChunkBitmap : q.receivedChunkBitmap = []
  receivedChunks : q.receivedChunks = 0
  receivedDataBytes : q.receivedDataBytes = 0
  completionNotified : q.completionNotified = false

theorem Blank.scheduleResend {q : RxQueuePair} (h : q.Blank) : q.scheduleResend.Blank := by
  obtain ⟨running, hEq⟩ := q.scheduleResend_eq
  rw [hEq]
  exact ⟨h.1, h.2, h.3, h.4⟩

end RxQueuePair

namespace CbReceiver

variable {cfg : CbConfig}

theorem MsgAfter.blank (hMtu : cfg.mtu = 0) {s : CbReceiver} {k : RxKey} {e : Event}
    {q : RxQueuePair} (hAfter : MsgAfter cfg s k e q)
    (h : ∀ q, s.rxQpMap k = some q → q.Blank)
    (hNoData : ∀ p, e = .arrive p → p.rxKey = k → ¬ IsData p) : q.Blank := by
  cases hAfter with
  | kept _ _ hOld => exact h q hOld
  | completed p hData hKey hDone => exact absurd hData (hNoData p rfl hKey)
  | data p hData hKey hOpen => exact absurd hData (hNoData p rfl hKey)
  | request p hRequest hKey =>
    subst hKey
    have hFound : (s.accountOf cfg p).msg.Blank := by
      rcases accountOf_msg_cases cfg s p with hKnown | ⟨-, hNew⟩
      · exact h _ hKnown
      · rw [hNew]
        exact ⟨rfl, rfl, rfl, rfl⟩
    rcases Account.countRequest_msg_cases cfg (s.accountOf cfg p) p with
      ⟨-, hOld⟩ | ⟨-, pending, hNew⟩
    · rw [hOld]
      exact hFound
    · rw [hNew]
      apply RxQueuePair.Blank.scheduleResend
      refine ⟨?_, rfl, rfl, rfl⟩
      unfold RxQueuePair.announce
      simp only
      rw [if_pos hMtu]
      rfl
  | bounced p q' hBounced hKey hOld =>
    apply RxQueuePair.Blank.scheduleResend
    have hBlank := h q' hOld
    exact ⟨hBlank.1, hBlank.2, hBlank.3, hBlank.4⟩
  | granted order c q' data wire hc hTry hKey hOld =>
    have hBlank := h q' hOld
    exact ⟨hBlank.1, hBlank.2, hBlank.3, hBlank.4⟩
  | fired q' hOld hRunning =>
    have hBlank := h q' hOld
    obtain ⟨limit, running, hEq⟩ := resendMsg_eq cfg (s.getOrCreateSenderState k) q'
    rw [hEq]
    exact ⟨hBlank.1, hBlank.2, hBlank.3, hBlank.4⟩

/-- A step knows a message that was known, or whose packet it is. -/
theorem MsgAfter.known {s : CbReceiver} {k : RxKey} {e : Event} {q : RxQueuePair}
    (hAfter : MsgAfter cfg s k e q) :
    s.rxQpMap k ≠ none ∨ ∃ p, e = .arrive p ∧ p.rxKey = k := by
  cases hAfter with
  | kept _ _ hOld => exact Or.inl (by rw [hOld]; exact nofun)
  | completed p hData hKey hDone => exact Or.inr ⟨p, rfl, hKey⟩
  | data p hData hKey hOpen => exact Or.inr ⟨p, rfl, hKey⟩
  | request p hRequest hKey => exact Or.inr ⟨p, rfl, hKey⟩
  | bounced p q' hBounced hKey hOld => exact Or.inr ⟨p, rfl, hKey⟩
  | granted order c q' data wire hc hTry hKey hOld => exact Or.inl (by rw [hOld]; exact nofun)
  | fired q' hOld hRunning => exact Or.inl (by rw [hOld]; exact nofun)

/-- What holds of the receive QP of a message of a given size, for any MTU. -/
def Holds (cfg : CbConfig) (messageBytes : Nat) (s : CbReceiver) (k : RxKey) : Prop :=
  (0 < cfg.mtu ∧ s.RxSound cfg messageBytes k) ∨
    (cfg.mtu = 0 ∧ ∀ q, s.rxQpMap k = some q → q.Blank)

variable {messageBytes : Nat}

theorem holds_of_unknown {s : CbReceiver} {k : RxKey} (h : s.rxQpMap k = none) :
    s.Holds cfg messageBytes k := by
  have hNone (q : RxQueuePair) (hq : s.rxQpMap k = some q) : False := by
    rw [h] at hq
    cases hq
  rcases Nat.eq_zero_or_pos cfg.mtu with hMtu | hMtu
  · exact Or.inr ⟨hMtu, fun q hq => (hNone q hq).elim⟩
  · exact Or.inl ⟨hMtu, fun q hq => (hNone q hq).elim⟩

theorem Holds.step (hBytes : messageBytes < 2 ^ 32) {s t : CbReceiver} {k : RxKey} {e : Event}
    (h : s.Holds cfg messageBytes k) (hOf : e.OfMessage cfg k messageBytes)
    (hChunks : ∀ p, e = .arrive p → p.rxKey = k → IsData p → 0 < cfg.mtu)
    (hStep : s.step cfg e = some t) : t.Holds cfg messageBytes k := by
  rcases h with ⟨hMtu, hSound⟩ | ⟨hMtu, hBlank⟩
  · exact Or.inl ⟨hMtu, hSound.step hMtu hBytes hOf hStep⟩
  · refine Or.inr ⟨hMtu, fun q hq => (msgAfter_step hStep hq).blank hMtu hBlank ?_⟩
    intro p hp hKey hData
    have hPos := hChunks p hp hKey hData
    omega

/-- The counters of the receive QP. -/
theorem Holds.counters {s : CbReceiver} {k : RxKey} (h : s.Holds cfg messageBytes k)
    {q : RxQueuePair} (hq : s.rxQpMap k = some q) :
    q.receivedDataBytes = markedSum (chunkSize cfg messageBytes) q.receivedChunkBitmap ∧
      q.receivedChunks = q.receivedChunkBitmap.count true := by
  rcases h with ⟨-, hSound⟩ | ⟨-, hBlank⟩
  · obtain ⟨hTracked, -, hReceives⟩ := hSound q hq
    exact ⟨hReceives.data, hTracked.received.trans (markedSum_one _)⟩
  · have hq := hBlank q hq
    rw [hq.receivedChunkBitmap, hq.receivedDataBytes, hq.receivedChunks]
    exact ⟨rfl, rfl⟩

/-- A complete message has bytes, and all its chunks are marked. -/
theorem Holds.of_notified {s : CbReceiver} {k : RxKey} (h : s.Holds cfg messageBytes k)
    (hDone : s.Notified k) :
    0 < cfg.mtu ∧ 0 < messageBytes ∧ ∀ i < chunkCount cfg messageBytes, s.Marked k i := by
  obtain ⟨q, hq, hNotified⟩ := hDone
  rcases h with ⟨hMtu, hSound⟩ | ⟨-, hBlank⟩
  · obtain ⟨hTracked, -, hReceives⟩ := hSound q hq
    have hAnnounced := (hReceives.complete hNotified).1
    have hPos := hTracked.expected_pos hAnnounced
    rw [hReceives.expected hAnnounced] at hPos
    exact ⟨hMtu, hPos, (hSound.notified_iff hMtu hPos).mp ⟨q, hq, hNotified⟩⟩
  · rw [(hBlank q hq).completionNotified] at hNotified
    cases hNotified

/-- A step completes a message exactly if it is the arrival that marks its last chunk. -/
theorem Holds.completes_step_iff (hBytes : messageBytes < 2 ^ 32) {s t : CbReceiver} {k : RxKey}
    {e : Event} (h : s.Holds cfg messageBytes k) (ht : t.Holds cfg messageBytes k)
    (hOf : e.OfMessage cfg k messageBytes) (hStep : s.step cfg e = some t) :
    ¬ s.Notified k ∧ t.Notified k ↔ MarksLast cfg messageBytes s t k e := by
  by_cases hChunks : 0 < cfg.mtu ∧ 0 < messageBytes
  · obtain ⟨hMtu, hPos⟩ := hChunks
    have hSound := (h.resolve_right fun hBlank => absurd hBlank.1 (by omega)).2
    exact hSound.completes_step_iff hMtu hBytes hPos hOf hStep
  · -- A message without chunks does not complete, and no arrival is of its last chunk.
    constructor
    · rintro ⟨-, hDone⟩
      obtain ⟨hMtu, hPos, -⟩ := ht.of_notified hDone
      exact absurd ⟨hMtu, hPos⟩ hChunks
    · rintro ⟨p, -, -, -, -, -, hLast, -⟩
      rcases Nat.eq_zero_or_pos cfg.mtu with hMtu | hMtu
      · have hNone : chunkCount cfg messageBytes = 0 := by
          unfold chunkCount
          rw [hMtu, Nat.div_zero]
        rw [hNone] at hLast
        exact absurd hLast (Nat.not_lt_zero _)
      · have hEmpty : messageBytes = 0 := by omega
        rw [hEmpty, chunkCount_zero hMtu] at hLast
        exact absurd hLast (Nat.not_lt_zero _)

end CbReceiver

/-! ## Invariants -/

namespace CbLink

/-- The sender has no message for the receiver under this key. -/
def Unused (hosts : CbHosts) (l : CbLink) (k : TxKey) : Prop :=
  ∀ q, l.tx.qpMap k = some q → q.dip ≠ hosts.rxAddr

/-- The receiver does not know the message, and no packet is about it. -/
structure Unheard (hosts : CbHosts) (l : CbLink) (k : TxKey) : Prop where
  rx : l.rx.rxQpMap (rxKey hosts k) = none
  toRx : ∀ p ∈ l.toRx, p.rxKey ≠ rxKey hosts k
  toTx : ∀ p ∈ l.toTx, p.txKey ≠ rxKey hosts k

/-- A packet of this chunk of the message has arrived. -/
def ChunkArrived (hosts : CbHosts) (l : CbLink) (k : TxKey) (messageBytes i : Nat) : Prop :=
  ∃ p ∈ l.arrived, CbReceiver.IsData p ∧ p.rxKey = rxKey hosts k ∧ p.ch.seq = i * hosts.mtu ∧
    p.payloadSize = chunkSize hosts.toCbConfig messageBytes i

/-- A message of the sender to the receiver: the packets are of the message, the receiver is sound,
and what it has marked has arrived. -/
structure Carries (hosts : CbHosts) (l : CbLink) (k : TxKey) (messageBytes : Nat) : Prop where
  packets : ∀ p ∈ l.toRx, p.rxKey = rxKey hosts k →
    p.OfMessage hosts.toCbConfig messageBytes ∧ (CbReceiver.IsData p → 0 < hosts.mtu)
  rx : l.rx.Holds hosts.toCbConfig messageBytes (rxKey hosts k)
  marked : ∀ i, l.rx.Marked (rxKey hosts k) i → ChunkArrived hosts l k messageBytes i
  completed : k ∈ l.completed → l.rx.Notified (rxKey hosts k)

structure LinkSound (hosts : CbHosts) (l : CbLink) : Prop where
  listed : l.rx.Listed
  quiet : ∀ p ∈ l.toTx, p.tag.creditReqBytes = 0
  qps : ∀ k q, l.tx.qpMap k = some q → q.sip = hosts.txAddr ∧ q.Aligned hosts.toCbConfig
  once : l.completed.Nodup
  finished : ∀ k ∈ l.completed, ∃ q, l.tx.qpMap k = some q ∧ q.isFinished = true
  unheard : ∀ k, l.Unused hosts k → Unheard hosts l k
  carries : ∀ k q, l.tx.qpMap k = some q → q.dip = hosts.rxAddr → q.size < 2 ^ 32 →
    Carries hosts l k q.size

theorem linkSound_init : LinkSound hosts {} := by
  have hNoQp {k : TxKey} {q : QueuePair} : ({} : CbLink).tx.qpMap k ≠ some q := by
    show none ≠ some q
    nofun
  constructor
  case listed => exact CbReceiver.listed_init
  case quiet => exact fun p hp => absurd hp (Multiset.notMem_zero p)
  case qps => exact fun k q hq => absurd hq hNoQp
  case once => exact List.nodup_nil
  case finished => exact fun k hk => absurd hk List.not_mem_nil
  case unheard =>
    exact fun k _ => ⟨rfl, fun p hp => absurd hp (Multiset.notMem_zero p),
      fun p hp => absurd hp (Multiset.notMem_zero p)⟩
  case carries => exact fun k q hq => absurd hq hNoQp

/-! ## Steps -/

theorem rxKey_injective (hosts : CbHosts) {k k' : TxKey} (h : rxKey hosts k = rxKey hosts k') :
    k = k' := by
  unfold rxKey at h
  rw [RxKey.mk.injEq] at h
  obtain ⟨-, hPg, hSport⟩ := h
  cases k
  cases k'
  simp only at hPg hSport
  rw [hPg, hSport]

/-- A QP is there after a step if it was there before. -/
theorem QpMoves.known {l t : CbLink} (h : QpMoves hosts l t) {k : TxKey} {q : QueuePair}
    (hq : l.tx.qpMap k = some q) :
    ∃ r, t.tx.qpMap k = some r ∧ q.Continues hosts.toCbConfig r := by
  cases h with
  | kept hMap => exact ⟨q, hMap ▸ hq, .refl q⟩
  | continued k' q' r hq' hContinues hMap =>
    by_cases hKey : k = k'
    · subst hKey
      obtain rfl := Option.some.inj (hq.symm.trans hq')
      exact ⟨r, by rw [hMap, Function.update_self], hContinues⟩
    · exact ⟨q, by rw [hMap, Function.update_of_ne hKey]; exact hq, .refl q⟩
  | added k' r hNone hSip hAligned hMap =>
    have hKey : k ≠ k' := by
      rintro rfl
      rw [hNone] at hq
      cases hq
    exact ⟨q, by rw [hMap, Function.update_of_ne hKey]; exact hq, .refl q⟩

/-- A QP after a step was there before, or is a new one. -/
theorem QpMoves.origin {l t : CbLink} (h : QpMoves hosts l t) {k : TxKey} {r : QueuePair}
    (hr : t.tx.qpMap k = some r) :
    (∃ q, l.tx.qpMap k = some q ∧ q.Continues hosts.toCbConfig r) ∨
      l.tx.qpMap k = none ∧ r.sip = hosts.txAddr ∧ r.Aligned hosts.toCbConfig := by
  cases h with
  | kept hMap => exact Or.inl ⟨r, hMap ▸ hr, .refl r⟩
  | continued k' q r' hq hContinues hMap =>
    left
    rw [hMap] at hr
    by_cases hKey : k = k'
    · subst hKey
      rw [Function.update_self] at hr
      obtain rfl := Option.some.inj hr
      exact ⟨q, hq, hContinues⟩
    · rw [Function.update_of_ne hKey] at hr
      exact ⟨r, hr, .refl r⟩
  | added k' r' hNone hSip hAligned hMap =>
    rw [hMap] at hr
    by_cases hKey : k = k'
    · subst hKey
      rw [Function.update_self] at hr
      obtain rfl := Option.some.inj hr
      exact Or.inr ⟨hNone, hSip, hAligned⟩
    · rw [Function.update_of_ne hKey] at hr
      exact Or.inl ⟨r, hr, .refl r⟩

/-- A packet that arrives for a message of the sender was in flight, up to its ECN bits. -/
theorem Moves.arrival {l t : CbLink} {e : LinkEvent} (h : Moves hosts l e t) {p : CbPacket}
    (hp : rxEvent e = some (.arrive p)) {k : TxKey} (hKey : p.rxKey = rxKey hosts k) :
    p ∈ t.arrived ∧ ∃ p' ∈ l.toRx, ∃ ecnBits, p = p'.withEcn ecnBits :=
  h.arrives p hp (congrArg RxKey.dip hKey)

/-- The receiver after a step of the link. -/
theorem Moves.rx_cases {l t : CbLink} {e : LinkEvent} (h : Moves hosts l e t) :
    t.rx = l.rx ∧ rxEvent e = none ∨
      ∃ e', rxEvent e = some e' ∧ l.rx.step hosts.toCbConfig e' = some t.rx := by
  have hRx := h.rx
  cases he : rxEvent e with
  | none =>
    rw [he] at hRx
    exact Or.inl ⟨hRx, rfl⟩
  | some e' =>
    rw [he] at hRx
    exact Or.inr ⟨e', rfl, hRx⟩

theorem Unheard.step {l t : CbLink} {e : LinkEvent} (h : Moves hosts l e t) {k : TxKey}
    (hUnused : l.Unused hosts k) (hSip : ∀ k q, l.tx.qpMap k = some q → q.sip = hosts.txAddr)
    (hUnheard : Unheard hosts l k) : Unheard hosts t k := by
  constructor
  · rcases h.rx_cases with ⟨hRx, -⟩ | ⟨e', he, hStep⟩
    · rw [hRx]
      exact hUnheard.rx
    · rw [Option.eq_none_iff_forall_ne_some]
      intro q hq
      rcases (CbReceiver.msgAfter_step hStep hq).known with hKnown | ⟨p, rfl, hKey⟩
      · exact hKnown hUnheard.rx
      · obtain ⟨-, p', hIn, ecnBits, rfl⟩ := h.arrival he hKey
        exact hUnheard.toRx p' hIn hKey
  · intro p hp
    rcases h.toRx p hp with hIn | ⟨k', q, hq, hMakes, hDip⟩ | ⟨g, hg, rfl⟩
    · exact hUnheard.toRx p hIn
    · intro hKey
      obtain ⟨hTo, hFrom⟩ := hMakes.header
      rw [hFrom, hSip k' q hq] at hKey
      obtain rfl := rxKey_injective hosts hKey
      exact hUnused q hq (hTo.symm.trans hDip)
    · exact hUnheard.toTx g hg
  · intro p hp
    rcases h.toTx p hp with hIn | ⟨-, hKnown⟩
    · exact hUnheard.toTx p hIn
    · intro hKey
      rw [hKey] at hKnown
      exact hKnown hUnheard.rx

theorem carries_of_unheard {l : CbLink} {k : TxKey} (h : Unheard hosts l k)
    (hOpen : k ∉ l.completed) (messageBytes : Nat) : Carries hosts l k messageBytes where
  packets := fun p hp hKey => absurd hKey (h.toRx p hp)
  rx := CbReceiver.holds_of_unknown h.rx
  marked := fun i hMarked => by
    obtain ⟨q, hq, -⟩ := hMarked
    rw [h.rx] at hq
    cases hq
  completed := fun hIn => absurd hIn hOpen

/-- What the receiver sees of an event belongs to the message. -/
theorem Carries.ofMessage {l t : CbLink} {e : LinkEvent} (h : Moves hosts l e t) {k : TxKey}
    {messageBytes : Nat} (hCarries : Carries hosts l k messageBytes) {e' : CbReceiver.Event}
    (he : rxEvent e = some e') : e'.OfMessage hosts.toCbConfig (rxKey hosts k) messageBytes ∧
      ∀ p, e' = .arrive p → p.rxKey = rxKey hosts k → CbReceiver.IsData p → 0 < hosts.mtu := by
  have hOf (p : CbPacket) (hp : e' = .arrive p) (hKey : p.rxKey = rxKey hosts k) :
      p.OfMessage hosts.toCbConfig messageBytes ∧ (CbReceiver.IsData p → 0 < hosts.mtu) := by
    subst hp
    obtain ⟨-, p', hIn, ecnBits, rfl⟩ := h.arrival he hKey
    exact hCarries.packets p' hIn hKey
  refine ⟨?_, fun p hp hKey => (hOf p hp hKey).2⟩
  cases e' with
  | arrive p => exact fun hKey => (hOf p rfl hKey).1
  | grantTick order => trivial
  | resendTimeout k' => trivial

/-- A completion is not forgotten. -/
theorem notified_mono {l t : CbLink} {e : LinkEvent} (h : Moves hosts l e t)
    (hListed : l.rx.Listed) {k : RxKey} (hDone : l.rx.Notified k) : t.rx.Notified k := by
  rcases h.rx_cases with ⟨hRx, -⟩ | ⟨e', -, hStep⟩
  · rw [hRx]
    exact hDone
  · exact hDone.step hListed hStep

theorem Carries.step {l t : CbLink} {e : LinkEvent} (h : Moves hosts l e t)
    (hSound : LinkSound hosts l) {k : TxKey} {q : QueuePair} (hq : l.tx.qpMap k = some q)
    (hDip : q.dip = hosts.rxAddr) (hSize : q.size < 2 ^ 32)
    (hCarries : Carries hosts l k q.size) : Carries hosts t k q.size := by
  refine ⟨?_, ?_, ?_, ?_⟩
  · intro p hp hKey
    rcases h.toRx p hp with hIn | ⟨k', q', hq', hMakes, -⟩ | ⟨g, hg, rfl⟩
    · exact hCarries.packets p hIn hKey
    · rw [hMakes.header.2, (hSound.qps k' q' hq').1] at hKey
      obtain rfl := rxKey_injective hosts hKey
      obtain rfl := Option.some.inj (hq.symm.trans hq')
      exact ⟨hMakes.ofMessage (hSound.qps _ _ hq).2 hSize, hMakes.mtu_pos⟩
    · exact ⟨⟨Or.inl (hSound.quiet g hg), nofun⟩, fun hData => by cases hData.1⟩
  · rcases h.rx_cases with ⟨hRx, -⟩ | ⟨e', he, hStep⟩
    · rw [hRx]
      exact hCarries.rx
    · obtain ⟨hOf, hChunks⟩ := hCarries.ofMessage h he
      exact hCarries.rx.step hSize hOf hChunks hStep
  · intro i hMarked
    have hKept (hOld : l.rx.Marked (rxKey hosts k) i) : ChunkArrived hosts t k q.size i := by
      obtain ⟨p, hp, hChunk⟩ := hCarries.marked i hOld
      exact ⟨p, h.arrived p hp, hChunk⟩
    rcases h.rx_cases with ⟨hRx, -⟩ | ⟨e', he, hStep⟩
    · exact hKept (hRx ▸ hMarked)
    · obtain ⟨r, hr, hBit⟩ := hMarked
      rcases (CbReceiver.msgAfter_step hStep hr).marked hBit with hOld | ⟨p, rfl, hData, hKey, rfl⟩
      · exact hKept hOld
      · obtain ⟨hArrived, p', hIn, ecnBits, rfl⟩ := h.arrival he hKey
        obtain ⟨hStart, -, hPayload⟩ := (hCarries.packets p' hIn hKey).1.2 hData.1 hData.2
        refine ⟨_, hArrived, hData, hKey, ?_, hPayload⟩
        have hSplit := Nat.div_add_mod' p'.ch.seq hosts.mtu
        rw [hStart, Nat.add_zero] at hSplit
        exact hSplit.symm
  · intro hIn
    cases h.completed with
    | kept hSame => exact notified_mono h hSound.listed (hCarries.completed (hSame ▸ hIn))
    | called k' q' r hq' hOpen hr hDone hCalled hHas =>
      rw [hCalled] at hIn
      rcases List.mem_cons.mp hIn with rfl | hOld
      · obtain rfl := Option.some.inj (hq.symm.trans hq')
        exact hHas hDip
      · exact notified_mono h hSound.listed (hCarries.completed hOld)

theorem LinkSound.step {l t : CbLink} {e : LinkEvent} (h : LinkSound hosts l)
    (hStep : CbLink.step hosts l e = some t) : LinkSound hosts t := by
  have hMoves := moves_step hStep
  have hQps := hMoves.qps
  have hSip (k : TxKey) (q : QueuePair) (hq : l.tx.qpMap k = some q) : q.sip = hosts.txAddr :=
    (h.qps k q hq).1
  have hUnheard (k : TxKey) (hUnused : l.Unused hosts k) : Unheard hosts t k :=
    Unheard.step hMoves hUnused hSip (h.unheard k hUnused)
  have hFinished (k : TxKey) (hk : k ∈ l.completed) :
      ∃ q, t.tx.qpMap k = some q ∧ q.isFinished = true := by
    obtain ⟨q, hq, hDone⟩ := h.finished k hk
    obtain ⟨r, hr, hContinues⟩ := hQps.known hq
    exact ⟨r, hr, hContinues.finished hDone⟩
  refine ⟨?_, ?_, ?_, ?_, ?_, ?_, ?_⟩
  · rcases hMoves.rx_cases with ⟨hRx, -⟩ | ⟨e', -, hRx⟩
    · rw [hRx]
      exact h.listed
    · exact h.listed.step hRx
  · intro p hp
    rcases hMoves.toTx p hp with hOld | ⟨hQuiet, -⟩
    · exact h.quiet p hOld
    · exact hQuiet
  · intro k r hr
    rcases hQps.origin hr with ⟨q, hq, hContinues⟩ | ⟨-, hNew⟩
    · obtain ⟨hFrom, hAligned⟩ := h.qps k q hq
      exact ⟨hContinues.sip.trans hFrom, hContinues.aligned hAligned⟩
    · exact hNew
  · cases hMoves.completed with
    | kept hSame => exact hSame ▸ h.once
    | called k q r hq hOpen hr hDone hCalled hHas =>
      rw [hCalled, List.nodup_cons]
      refine ⟨fun hIn => ?_, h.once⟩
      obtain ⟨q', hq', hBefore⟩ := h.finished k hIn
      obtain rfl := Option.some.inj (hq.symm.trans hq')
      rw [hOpen] at hBefore
      cases hBefore
  · intro k hk
    cases hMoves.completed with
    | kept hSame => exact hFinished k (hSame ▸ hk)
    | called k' q r hq hOpen hr hDone hCalled hHas =>
      rw [hCalled] at hk
      rcases List.mem_cons.mp hk with rfl | hOld
      · exact ⟨r, hr, hDone⟩
      · exact hFinished k hOld
  · intro k hUnused
    apply hUnheard k
    intro q hq hDip
    obtain ⟨r, hr, hContinues⟩ := hQps.known hq
    exact hUnused r hr (hContinues.dip.trans hDip)
  · intro k r hr hDip hSize
    rcases hQps.origin hr with ⟨q, hq, hContinues⟩ | ⟨hNone, -⟩
    · rw [hContinues.dip] at hDip
      rw [hContinues.size] at hSize ⊢
      exact Carries.step hMoves h hq hDip hSize (h.carries k q hq hDip hSize)
    · have hNew : l.Unused hosts k := by
        intro q hq
        rw [hNone] at hq
        cases hq
      apply carries_of_unheard (hUnheard k hNew)
      intro hIn
      cases hMoves.completed with
      | kept hSame =>
        obtain ⟨q, hq, -⟩ := h.finished k (hSame ▸ hIn)
        rw [hNone] at hq
        cases hq
      | called k' q r' hq hOpen hr' hDone hCalled hHas =>
        rw [hCalled] at hIn
        rcases List.mem_cons.mp hIn with rfl | hOld
        · rw [hNone] at hq
          cases hq
        · obtain ⟨q', hq', -⟩ := h.finished k hOld
          rw [hNone] at hq'
          cases hq'

theorem linkSound_of_reachable {l : CbLink} (h : (cbLink hosts).Reachable l) : LinkSound hosts l :=
  Machine.reachable_induction linkSound_init (fun _ _ _ hSound hStep => hSound.step hStep) h

/-! ## Completion -/

/-- The step is the arrival that marks the last chunk of the message. -/
def SetsLastBit (hosts : CbHosts) (l : CbLink) (e : LinkEvent) (t : CbLink) (k : TxKey)
    (messageBytes : Nat) : Prop :=
  ∃ e', rxEvent e = some e' ∧
    CbReceiver.MarksLast hosts.toCbConfig messageBytes l.rx t.rx (rxKey hosts k) e'

/-- All bytes of a complete message have arrived. -/
theorem Carries.bytes_arrived {l : CbLink} {k : TxKey} {messageBytes : Nat}
    (h : Carries hosts l k messageBytes) (hDone : l.rx.Notified (rxKey hosts k)) {b : Nat}
    (hb : b < messageBytes) : ∃ p ∈ l.arrived, CbReceiver.IsData p ∧ p.rxKey = rxKey hosts k ∧
      p.ch.seq ≤ b ∧ b < p.ch.seq + p.payloadSize := by
  obtain ⟨hMtu, -, hAll⟩ := h.rx.of_notified hDone
  have hStart := Nat.div_mul_le_self b hosts.mtu
  have hChunk : b / hosts.mtu < chunkCount hosts.toCbConfig messageBytes := by
    rw [div_lt_chunkCount_iff hMtu]
    exact lt_of_le_of_lt hStart hb
  obtain ⟨p, hp, hData, hKey, hSeq, hPayload⟩ := h.marked _ (hAll _ hChunk)
  refine ⟨p, hp, hData, hKey, hSeq ▸ hStart, ?_⟩
  have hSplit := Nat.div_add_mod' b hosts.mtu
  have hRest := Nat.mod_lt b hMtu
  rw [hSeq, hPayload]
  unfold chunkSize
  omega

/-- A message from the sender to the receiver, in any reachable state: the receiver counts the
chunks it has marked, and they have arrived; it completes the message once, with the arrival of
the last missing chunk; and the sender's QP completes at most once, when all bytes have arrived. -/
theorem exact_completion {l : CbLink} (hReach : (cbLink hosts).Reachable l) {k : TxKey}
    {q : QueuePair} (hq : l.tx.qpMap k = some q) (hDip : q.dip = hosts.rxAddr)
    (hSize : q.size < 2 ^ 32) :
    (∀ r, l.rx.rxQpMap (rxKey hosts k) = some r →
      r.receivedDataBytes =
          markedSum (chunkSize hosts.toCbConfig q.size) r.receivedChunkBitmap ∧
        r.receivedChunks = r.receivedChunkBitmap.count true ∧
        ∀ i, r.receivedChunkBitmap[i]? = some true → ChunkArrived hosts l k q.size i) ∧
      (∀ e t, (cbLink hosts).step l e = some t →
        (l.rx.Notified (rxKey hosts k) → t.rx.Notified (rxKey hosts k)) ∧
          (¬ l.rx.Notified (rxKey hosts k) ∧ t.rx.Notified (rxKey hosts k) ↔
            SetsLastBit hosts l e t k q.size)) ∧
      l.completed.count k ≤ 1 ∧
      (k ∈ l.completed → ∀ b < q.size, ∃ p ∈ l.arrived, CbReceiver.IsData p ∧
        p.rxKey = rxKey hosts k ∧ p.ch.seq ≤ b ∧ b < p.ch.seq + p.payloadSize) := by
  have hSound := linkSound_of_reachable hReach
  have hCarries := hSound.carries k q hq hDip hSize
  refine ⟨?_, ?_, ?_, ?_⟩
  · intro r hr
    obtain ⟨hData, hChunks⟩ := hCarries.rx.counters hr
    exact ⟨hData, hChunks, fun i hBit => hCarries.marked i ⟨r, hr, hBit⟩⟩
  · intro e t hStep
    have hMoves := moves_step hStep
    refine ⟨notified_mono hMoves hSound.listed, ?_⟩
    have ht := Carries.step hMoves hSound hq hDip hSize hCarries
    rcases hMoves.rx_cases with ⟨hRx, hNone⟩ | ⟨e', he, hRx⟩
    · constructor
      · rintro ⟨hOpen, hDone⟩
        rw [hRx] at hDone
        exact absurd hDone hOpen
      · rintro ⟨e', he, -⟩
        rw [hNone] at he
        cases he
    · rw [hCarries.rx.completes_step_iff hSize ht.rx (hCarries.ofMessage hMoves he).1 hRx]
      constructor
      · exact fun hLast => ⟨e', he, hLast⟩
      · rintro ⟨e'', he'', hLast⟩
        obtain rfl := Option.some.inj (he.symm.trans he'')
        exact hLast
  · exact List.nodup_iff_count_le_one.mp hSound.once k
  · exact fun hIn b hb => hCarries.bytes_arrived (hCarries.completed hIn) hb

end CbLink

/-- The data packet of a message of 1500 bytes in chunks of 1000. -/
def CbPacket.chunkOf1500 (seq size : Nat) : CbPacket :=
  nextDataPacket ⟨7, 3⟩ {
    sip := 11, dip := 1, dport := 100, size := 1500, flowId := 5, sndNxt := seq
    isScheduled := false, selfAllocCreditBytes := 1636, selfAllocCreditDataBytes := 1500
    remainingSelfAllocCreditDataBytes := 1500 - seq } size false

/-- The last chunk arrives first, and twice. -/
theorem exact_completion_reordered : ∃ l q,
    (cbLink { mtu := 1000, txAddr := 11, rxAddr := 1 }).run {} [
      .addQueuePair ⟨7, 3⟩ 1 100 1500 5, .transmit ⟨7, 3⟩ false, .transmit ⟨7, 3⟩ false,
      .duplicate (CbPacket.chunkOf1500 1000 500), .deliver (CbPacket.chunkOf1500 1000 500) 0,
      .deliver (CbPacket.chunkOf1500 1000 500) 1, .deliver (CbPacket.chunkOf1500 0 1000) 0] = some l ∧
      l.tx.qpMap ⟨7, 3⟩ = some q ∧ q.size = 1500 ∧ l.completed.count ⟨7, 3⟩ = 1 ∧
      ∀ b < 1500, ∃ p ∈ l.arrived, CbReceiver.IsData p ∧ p.rxKey = ⟨11, 3, 7⟩ ∧
        p.ch.seq ≤ b ∧ b < p.ch.seq + p.payloadSize := by
  have hRun : ((cbLink { mtu := 1000, txAddr := 11, rxAddr := 1 }).run {} [
      .addQueuePair ⟨7, 3⟩ 1 100 1500 5, .transmit ⟨7, 3⟩ false, .transmit ⟨7, 3⟩ false,
      .duplicate (CbPacket.chunkOf1500 1000 500), .deliver (CbPacket.chunkOf1500 1000 500) 0,
      .deliver (CbPacket.chunkOf1500 1000 500) 1, .deliver (CbPacket.chunkOf1500 0 1000) 0]).map
      (fun l => (l.completed, (l.tx.qpMap ⟨7, 3⟩).map fun q => (q.dip, q.size))) =
      some ([⟨7, 3⟩], some (1, 1500)) := by decide +kernel
  obtain ⟨l, hl, hEnd⟩ := Option.map_eq_some_iff.mp hRun
  obtain ⟨hCompleted, hQp⟩ := Prod.mk.inj hEnd
  obtain ⟨q, hq, hFields⟩ := Option.map_eq_some_iff.mp hQp
  obtain ⟨hDip, hSize⟩ := Prod.mk.inj hFields
  have hExact := CbLink.exact_completion ⟨_, hl⟩ hq hDip (by rw [hSize]; decide)
  rw [hSize] at hExact
  refine ⟨l, q, hl, hq, hSize, by rw [hCompleted]; decide, hExact.2.2.2 ?_⟩
  rw [hCompleted]
  decide

end Dpdq.Ns3
