import Dpdq.Ns3.CbMessage

/-!
# The books of a message at its receiver

The receive QP of a message counts its bytes as granted or pending. Announcements and data keep the
sum, a grant moves the next packet to the granted bytes (`creditGrantTick_spec`), and a bounced
credit takes one back. The grant is the one for the chunk that the granted bytes end at
(`CbMessage.grantPacket_eq`).
-/

namespace Dpdq.Ns3

open Dpdq.Lib

variable {cfg : CbConfig}

/-! ## The books of a message -/

namespace RxQueuePair

/-- The receive QP of a message of which `granted` scheduled bytes are out. -/
structure Books (m : CbMessage cfg) (granted : Nat) (q : RxQueuePair) : Prop where
  sip : q.sip = m.dip
  sport : q.sport = m.dport
  announced : q.announcementAccounted = true → q.announcementExpectedBytes = m.size ∧
    m.selfAllocCreditDataBytes + granted + q.pendingDemandBytes = m.size
  quiet : q.announcementAccounted = false → q.pendingDemandBytes = 0 ∧ granted = 0

/-- `r` has the tuple, the announcement and the demand of `q`. -/
structure SameBooks (q r : RxQueuePair) : Prop where
  sip : r.sip = q.sip
  sport : r.sport = q.sport
  announcementAccounted : r.announcementAccounted = q.announcementAccounted
  announcementExpectedBytes : r.announcementExpectedBytes = q.announcementExpectedBytes
  pendingDemandBytes : r.pendingDemandBytes = q.pendingDemandBytes

theorem SameBooks.refl (q : RxQueuePair) : q.SameBooks q := ⟨rfl, rfl, rfl, rfl, rfl⟩

theorem SameBooks.trans {q r t : RxQueuePair} (h : q.SameBooks r) (h' : r.SameBooks t) :
    q.SameBooks t :=
  ⟨h'.1.trans h.1, h'.2.trans h.2, h'.3.trans h.3, h'.4.trans h.4, h'.5.trans h.5⟩

theorem Books.congr {m : CbMessage cfg} {granted : Nat} {q r : RxQueuePair} (h : q.Books m granted)
    (hSame : q.SameBooks r) : r.Books m granted := by
  constructor
  · rw [hSame.sip]
    exact h.sip
  · rw [hSame.sport]
    exact h.sport
  · rw [hSame.announcementAccounted, hSame.announcementExpectedBytes, hSame.pendingDemandBytes]
    exact h.announced
  · rw [hSame.announcementAccounted, hSame.pendingDemandBytes]
    exact h.quiet

theorem sameBooks_scheduleResend (q : RxQueuePair) : q.SameBooks q.scheduleResend := by
  obtain ⟨running, hEq⟩ := q.scheduleResend_eq
  rw [hEq]
  exact ⟨rfl, rfl, rfl, rfl, rfl⟩

theorem sameBooks_markChunk (cfg : CbConfig) (q : RxQueuePair) (seq : Nat) :
    q.SameBooks (q.markChunk cfg seq) := by
  rcases markChunk_cases cfg q seq with ⟨hEq, -⟩ | ⟨i, -, -, -, hEq⟩
  · rw [hEq]
    exact SameBooks.refl q
  · rw [hEq]
    exact ⟨rfl, rfl, rfl, rfl, rfl⟩

theorem sameBooks_learnFlowId (q : RxQueuePair) (flowId : Option Int) :
    q.SameBooks (q.learnFlowId flowId) := by
  unfold learnFlowId
  split
  · exact ⟨rfl, rfl, rfl, rfl, rfl⟩
  · exact SameBooks.refl q

theorem sameBooks_countPayload (q : RxQueuePair) (seq payloadSize : Nat) :
    q.SameBooks (q.countPayload cfg seq payloadSize) := by
  unfold countPayload
  split
  · exact ⟨rfl, rfl, rfl, rfl, rfl⟩
  · exact SameBooks.refl q

end RxQueuePair

/-- The packets of a message come from its tuple, and they announce it or nothing. -/
def CbPacket.Announces (m : CbMessage cfg) (p : CbPacket) : Prop :=
  p.ch.dip = m.dip ∧ p.ch.dport = m.dport ∧
    (p.tag.creditReqBytes = 0 ∨ p.tag.creditReqBytes = m.size ∧
      p.tag.unsolCreditDataBytes = m.selfAllocCreditDataBytes)

instance (m : CbMessage cfg) (p : CbPacket) : Decidable (p.Announces m) :=
  inferInstanceAs (Decidable (_ ∧ _))

namespace Account

/-- Of the message, a bounced grant changes the demand only. -/
theorem bounce_msg (a : Account) (tag : CreditBouncerTag) : (a.bounce tag).msg =
    { a.msg with
      pendingDemandBytes := saturatingAdd a.msg.pendingDemandBytes
        (min (bouncedData tag) a.sender.outstandingDataBytes) } := rfl

/-- The demand that a new announcement leaves to its message. -/
theorem applyNewAnnouncement_pending (cfg : CbConfig) {a : Account} {tag : CreditBouncerTag}
    (hNew : a.isNewAnnouncement tag = true) :
    (a.applyNewAnnouncement cfg tag).msg.pendingDemandBytes =
      saturatingAdd a.msg.pendingDemandBytes tag.creditReqBytes -
        min tag.unsolCreditDataBytes
          (saturatingAdd a.sender.pendingDemandDataBytes tag.creditReqBytes) := by
  unfold applyNewAnnouncement
  rw [if_pos hNew]
  simp only
  split
  · rw [(RxQueuePair.sameBooks_scheduleResend _).pendingDemandBytes]
    rfl
  · rename_i hNone
    have hZero : tag.unsolCreditDataBytes = 0 := by omega
    rw [(RxQueuePair.sameBooks_scheduleResend _).pendingDemandBytes, hZero, Nat.zero_min,
      Nat.sub_zero]
    rfl

theorem le_saturatingAdd {a b : Nat} (hb : b < 2 ^ 64) : b ≤ saturatingAdd a b := by
  unfold saturatingAdd
  split
  · omega
  · omega

theorem books_applyNewAnnouncement {m : CbMessage cfg} {granted : Nat} {a : Account} {p : CbPacket}
    (h : a.msg.Books m granted) (hp : p.Announces m) :
    (a.applyNewAnnouncement cfg p.tag).msg.Books m granted := by
  have hSize := m.size_lt
  have hSelf := m.selfAlloc_le
  rcases applyNewAnnouncement_msg_cases cfg a p.tag with ⟨-, hOld⟩ | ⟨hNew, pending, hMsg⟩
  · rw [hOld]
    exact h
  · obtain ⟨hPos, hQuiet⟩ := isNewAnnouncement_eq_true.mp hNew
    obtain ⟨hPending, hGranted⟩ := h.quiet hQuiet
    obtain ⟨-, -, hNone | ⟨hBytes, hUnsol⟩⟩ := hp
    · omega
    · have hLeft := applyNewAnnouncement_pending cfg hNew
      have hCover := le_saturatingAdd (a := a.sender.pendingDemandDataBytes) (b := m.size)
        (by omega)
      rw [hPending, hBytes, hUnsol, saturatingAdd_of_lt (by omega)] at hLeft
      rw [hMsg] at hLeft ⊢
      have hSame := RxQueuePair.sameBooks_scheduleResend
        { a.msg.announce cfg p.tag.creditReqBytes with pendingDemandBytes := pending }
      rw [hSame.pendingDemandBytes] at hLeft
      refine RxQueuePair.Books.congr (q := { a.msg.announce cfg p.tag.creditReqBytes with
        pendingDemandBytes := pending }) ⟨h.sip, h.sport, fun _ => ⟨hBytes, ?_⟩, nofun⟩ hSame
      simp only at hLeft ⊢
      omega

theorem books_countArrival {m : CbMessage cfg} {granted : Nat} {a : Account} {p : CbPacket}
    (h : a.msg.Books m granted) (hp : p.Announces m) :
    (a.countArrival cfg p).msg.Books m granted := by
  unfold countArrival
  simp only
  split
  · exact books_applyNewAnnouncement (a := a.updateAimd cfg p p.tag.priorityFlow) h hp
  · exact books_applyNewAnnouncement h hp

theorem books_countRequest {m : CbMessage cfg} {granted : Nat} {a : Account} {p : CbPacket}
    (h : a.msg.Books m granted) (hp : p.Announces m) :
    (a.countRequest cfg p).msg.Books m granted := by
  unfold countRequest
  simp only
  split
  · exact books_applyNewAnnouncement (a := a.updateAimd cfg p false) h hp
  · exact books_applyNewAnnouncement h hp

theorem books_receiveData {m : CbMessage cfg} {granted : Nat} {a : Account} {p : CbPacket}
    (h : a.msg.Books m granted) (hp : p.Announces m) :
    (a.receiveData cfg p).msg.Books m granted := by
  have hArrival := books_countArrival h hp
  have hLearn := (RxQueuePair.sameBooks_markChunk cfg (a.countArrival cfg p).msg
    p.ch.seq).trans (RxQueuePair.sameBooks_learnFlowId _ p.flowId)
  unfold receiveData
  rw [receiveChunk_msg]
  split
  · exact hArrival.congr (hLearn.trans (RxQueuePair.sameBooks_countPayload _ _ _))
  · exact hArrival.congr hLearn

end Account

namespace CbReceiver

/-- The books of a message at the receiver. -/
structure Books (m : CbMessage cfg) (granted : Nat) (s : CbReceiver) : Prop where
  unknown : s.rxQpMap m.key = none → granted = 0
  known : ∀ q, s.rxQpMap m.key = some q → q.Books m granted

theorem books_accountOf {m : CbMessage cfg} {granted : Nat} {s : CbReceiver}
    (h : s.Books m granted) {p : CbPacket} (hKey : p.rxKey = m.key) (hp : p.Announces m) :
    (s.accountOf cfg p).msg.Books m granted := by
  rcases accountOf_msg_cases cfg s p with hKnown | ⟨hNone, hNew⟩
  · exact h.known _ (hKey ▸ hKnown)
  · have hZero := h.unknown (hKey ▸ hNone)
    rw [hNew]
    exact ⟨hp.1, hp.2.1, nofun, fun _ => ⟨rfl, hZero⟩⟩

def Event.isBouncedCredit : Event → Bool
  | .arrive p => p.tag.type = .bouncedCredit
  | _ => false

/-- The arrivals of the message are packets of its sender. -/
def Event.Announces (m : CbMessage cfg) : Event → Prop
  | .arrive p => p.rxKey = m.key → p.Announces m
  | _ => True

instance (m : CbMessage cfg) (e : Event) : Decidable (e.Announces m) :=
  match e with
  | .arrive p => inferInstanceAs (Decidable (p.rxKey = m.key → p.Announces m))
  | .grantTick _ => isTrue trivial
  | .resendTimeout _ => isTrue trivial

/-- Outside grants and bounces, a step leaves the books of a message alone. -/
theorem Books.step {m : CbMessage cfg} {granted : Nat} {s t : CbReceiver} (h : s.Books m granted)
    {e : Event} (hBounced : e.isBouncedCredit = false) (hTick : ∀ order, e ≠ .grantTick order)
    (he : e.Announces m) (hStep : s.step cfg e = some t) : t.Books m granted := by
  constructor
  · intro hNone
    apply h.unknown
    by_contra hKnown
    exact known_step hKnown hStep hNone
  · intro q hq
    cases msgAfter_step hStep hq with
    | kept _ _ hOld => exact h.known q hOld
    | completed p hData hKey hDone =>
      have hBooks := Account.books_receiveData (books_accountOf h hKey (he hKey)) (he hKey)
      exact hBooks.congr ⟨rfl, rfl, rfl, rfl, rfl⟩
    | data p hData hKey hOpen =>
      have hBooks := Account.books_receiveData (books_accountOf h hKey (he hKey)) (he hKey)
      exact hBooks.congr (RxQueuePair.sameBooks_scheduleResend _)
    | request p hRequest hKey =>
      exact Account.books_countRequest (books_accountOf h hKey (he hKey)) (he hKey)
    | bounced p q' hType hKey hOld =>
      rw [Event.isBouncedCredit, decide_eq_false_iff_not] at hBounced
      exact absurd hType hBounced
    | granted order c q' data wire hc hTry hKey hOld => exact absurd rfl (hTick order)
    | fired q' hOld hRunning =>
      obtain ⟨limit, running, hEq⟩ := resendMsg_eq cfg (s.getOrCreateSenderState m.key) q'
      rw [hEq]
      exact (h.known q' hOld).congr ⟨rfl, rfl, rfl, rfl, rfl⟩

/-! ## Grants of one chunk -/

/-- Grants are cut to one packet. -/
def Grained (cfg : CbConfig) (s : CbReceiver) : Prop :=
  ∀ addr st, s.senderStates.get? addr = some st → st.grantGranularityDataBytes ≤ cfg.mtu

theorem grained_init : ({} : CbReceiver).Grained cfg :=
  fun _ _ hst => absurd hst (Table.get?_empty_ne _ _)

theorem Grained.getOrCreateSenderState {s : CbReceiver} (h : s.Grained cfg) (k : RxKey) :
    (s.getOrCreateSenderState k).grantGranularityDataBytes ≤ cfg.mtu := by
  unfold CbReceiver.getOrCreateSenderState
  obtain ⟨l, hl⟩ := listMessage_eq ((s.senderStates.get? k.dip).getD {}) k
  rw [hl]
  cases hst : s.senderStates.get? k.dip with
  | none => exact Nat.zero_le _
  | some st => exact h k.dip st hst

/-- The sender of an arriving packet is found or initialised. -/
theorem Grained.accountOf (hGrain : cfg.grantGranularityBytes ≤ cfg.mtu) {s : CbReceiver}
    (h : s.Grained cfg) (p : CbPacket) :
    (s.accountOf cfg p).sender.grantGranularityDataBytes ≤ cfg.mtu := by
  have hRx : (s.getRxQp cfg p).1.Grained cfg := by
    unfold CbReceiver.getRxQp
    cases hq : s.rxQpMap p.rxKey with
    | some q =>
      simp only [hq]
      exact h
    | none =>
      intro addr st hst
      simp only [hq] at hst
      by_cases hAddr : addr = p.rxKey.dip
      · rw [hAddr, Table.get?_set_self] at hst
        obtain rfl := Option.some.inj hst
        split
        · exact hGrain
        · exact h.getOrCreateSenderState p.rxKey
      · rw [Table.get?_set_of_ne _ _ hAddr] at hst
        exact h addr st hst
  exact hRx.getOrCreateSenderState p.rxKey

theorem updateAimd_granularity (a : Account) (p : CbPacket) (priorityFlow : Bool) :
    (a.updateAimd cfg p priorityFlow).sender.grantGranularityDataBytes =
      a.sender.grantGranularityDataBytes := by
  unfold Account.updateAimd SenderState.updateAimdOnData
  simp only
  split
  · rfl
  · rfl

theorem Grained.step (hGrain : cfg.grantGranularityBytes ≤ cfg.mtu) {s t : CbReceiver}
    (h : s.Grained cfg) {e : Event} (hStep : s.step cfg e = some t) : t.Grained cfg := by
  intro addr st hst
  cases senderAfter_step hStep hst with
  | kept _ _ hOld => exact h addr st hOld
  | data p l hData hAddr =>
    have hFound := h.accountOf hGrain p
    rcases Account.receiveData_settings cfg (s.accountOf cfg p) p with hSame | hSame
    · exact hSame.grantGranularityDataBytes.trans_le hFound
    · rw [← updateAimd_granularity _ p p.tag.priorityFlow] at hFound
      exact hSame.grantGranularityDataBytes.trans_le hFound
  | request p hRequest hAddr =>
    have hFound := h.accountOf hGrain p
    rcases Account.countRequest_settings cfg (s.accountOf cfg p) p with hSame | hSame
    · exact hSame.grantGranularityDataBytes.trans_le hFound
    · rw [← updateAimd_granularity _ p false] at hFound
      exact hSame.grantGranularityDataBytes.trans_le hFound
  | bounced p q hBounced hq hAddr => exact h.getOrCreateSenderState p.rxKey
  | granted order c data wire st' q hTry hAddr hOld => exact h addr st' hOld
  | touched k q hq hRunning hAddr => exact h.getOrCreateSenderState k

/-- A grant that passes is for one chunk. -/
theorem askData_eq {st : SenderState} (hMtu : 0 < cfg.mtu)
    (hGrain : st.grantGranularityDataBytes ≤ cfg.mtu) {pending : Nat}
    (hSome : askData cfg st pending ≠ 0) : askData cfg st pending = min pending cfg.mtu := by
  have hUnit (unit : Nat) (hLe : unit ≤ cfg.mtu)
      (hSome : cbAlignChunkPrefixBytes
        (min (min pending (max unit (min pending cfg.mtu))) st.pendingDemandDataBytes)
        pending cfg.mtu ≠ 0) :
      cbAlignChunkPrefixBytes
        (min (min pending (max unit (min pending cfg.mtu))) st.pendingDemandDataBytes)
        pending cfg.mtu = min pending cfg.mtu := by
    generalize hAsk :
      min (min pending (max unit (min pending cfg.mtu))) st.pendingDemandDataBytes = ask at hSome ⊢
    have hFits : ask ≤ cfg.mtu := by omega
    unfold cbAlignChunkPrefixBytes at hSome ⊢
    split at hSome
    · exact absurd rfl hSome
    · rename_i hNone
      rw [if_neg hNone]
      split at hSome
      · rename_i hAll
        rw [if_pos hAll]
        omega
      · rename_i hPart
        rw [if_neg hPart]
        rcases Nat.lt_or_eq_of_le hFits with hLess | hFull
        · rw [Nat.div_eq_of_lt hLess, Nat.zero_mul] at hSome
          exact absurd rfl hSome
        · rw [hFull, Nat.div_self hMtu, Nat.one_mul]
          omega
  unfold askData at hSome ⊢
  simp only at hSome ⊢
  split at hSome
  · rename_i hUsed
    rw [if_pos hUsed]
    exact hUnit _ hGrain hSome
  · rename_i hUnused
    rw [if_neg hUnused]
    exact hUnit _ (le_refl _) hSome

theorem trySelectCandidate_data_ne_zero {s : CbReceiver} {c d : GrantCandidate} {data wire : Nat}
    (h : s.trySelectCandidate cfg c = some (d, data, wire)) : data ≠ 0 := by
  obtain ⟨-, st, -, rfl, -, hPasses⟩ := trySelectCandidate_eq_some_iff.mp h
  exact hPasses.demand

/-- A tick issues no grant and leaves all messages alone, or it grants a message its next packet. -/
theorem creditGrantTick_spec (hMtu : 0 < cfg.mtu) {s : CbReceiver} (h : s.Grained cfg)
    (order : List Nat) :
    (s.creditGrantTick cfg order).2 = none ∧ (s.creditGrantTick cfg order).1.rxQpMap = s.rxQpMap ∨
      ∃ k q, s.rxQpMap k = some q ∧ q.pendingDemandBytes ≠ 0 ∧
        (s.creditGrantTick cfg order).2 = some (grantPacket k q (min q.pendingDemandBytes cfg.mtu)
          (cbAddHeaderOverhead (min q.pendingDemandBytes cfg.mtu) cfg.mtu true)) ∧
        (s.creditGrantTick cfg order).1.rxQpMap = Function.update s.rxQpMap k (some { q with
          pendingDemandBytes := q.pendingDemandBytes - min q.pendingDemandBytes cfg.mtu }) := by
  obtain ⟨running, hTick⟩ := scheduleGrantTick_eq
    (({ s with grantTickRunning := false } : CbReceiver).tryIssueCreditGrant cfg order).1
  unfold creditGrantTick
  simp only [hTick]
  rcases tryIssueCreditGrant_spec cfg { s with grantTickRunning := false } order with
    ⟨cursor, hEq⟩ | ⟨c, hc, data, wire, st, q, cursor, hTry, hst, hq, hEq⟩
  · left
    rw [hEq]
    exact ⟨rfl, rfl⟩
  · right
    obtain ⟨-, q', -, -, hq', hPending, hNe⟩ := mem_candidates hc
    obtain rfl := Option.some.inj (hq.symm.trans hq')
    obtain ⟨-, st', hst', hData, hWire, -⟩ := trySelectCandidate_spec hTry
    have hSome := trySelectCandidate_data_ne_zero hTry
    obtain rfl : data = min q.pendingDemandBytes cfg.mtu := by
      rw [hData] at hSome ⊢
      rw [askData_eq hMtu (h _ _ hst') hSome, hPending]
    rw [hEq, hWire]
    exact ⟨c.key, q, hq, hNe, rfl, rfl⟩

theorem txKey_grantPacket (k : RxKey) (q : RxQueuePair) (data wire : Nat) :
    (grantPacket k q data wire).txKey = k := rfl

/-- A bounced credit changes the message that it is for. -/
theorem rxQpMap_receive_of_bounced (cfg : CbConfig) (s : CbReceiver) {p : CbPacket}
    (h : p.tag.type = .bouncedCredit) :
    s.rxQpMap p.rxKey = none ∧ (s.receive cfg p).1.rxQpMap = s.rxQpMap ∨
      ∃ q, s.rxQpMap p.rxKey = some q ∧ (s.receive cfg p).1.rxQpMap =
        Function.update s.rxQpMap p.rxKey
          (some ((s.openAccount p.rxKey q).bounce p.tag).msg.scheduleResend) := by
  rw [receive_of_bounced cfg s h]
  unfold receiveBouncedCredit
  cases hq : s.rxQpMap p.rxKey with
  | none =>
    left
    simp only [hq]
    exact ⟨trivial, trivial⟩
  | some q =>
    right
    simp only [hq, rxQpMap_scheduleGrantTickFor]
    exact ⟨q, rfl, rfl⟩

/-- The books depend on the receive QP of their message alone. -/
theorem Books.congr {m : CbMessage cfg} {granted : Nat} {s t : CbReceiver} (h : s.Books m granted)
    (hSame : t.rxQpMap m.key = s.rxQpMap m.key) : t.Books m granted := by
  constructor
  · rw [hSame]
    exact h.unknown
  · rw [hSame]
    exact h.known

theorem Books.store {m : CbMessage cfg} {granted : Nat} {s t : CbReceiver} {q : RxQueuePair}
    (hMap : t.rxQpMap = Function.update s.rxQpMap m.key (some q)) (hq : q.Books m granted) :
    t.Books m granted := by
  constructor
  · rw [hMap, Function.update_self]
    exact nofun
  · rw [hMap, Function.update_self]
    intro r hr
    obtain rfl := Option.some.inj hr
    exact hq

end CbReceiver

namespace CbMessage

/-! ## The packets of a chunk -/

/-- The sizes of a chunk and its packet. -/
theorem chunkWire_eq (hMtu : 0 < cfg.mtu) {m : CbMessage cfg} {chunk : Nat}
    (hChunk : chunk ∈ m.scheduledChunks) :
    m.chunkWire chunk = max (chunkSize cfg m.size chunk + 68) 84 :=
  cbAddHeaderOverhead_of_le (chunkSize_pos_of_mem hMtu hChunk) (Nat.min_le_left _ _)

/-- The receiver takes back for a bounced grant what its chunk holds. -/
theorem bouncedData_grantOf (hMtu : 0 < cfg.mtu) {m : CbMessage cfg} {chunk : Nat}
    (hChunk : chunk ∈ m.scheduledChunks) :
    Account.bouncedData (m.grantOf chunk).bounced.tag = chunkSize cfg m.size chunk := by
  have hWire := chunkWire_eq hMtu hChunk
  show m.chunkWire chunk -
    (48 + 20 + (m.chunkWire chunk - (chunkSize cfg m.size chunk + 48 + 20))) =
    chunkSize cfg m.size chunk
  omega

/-- The grant of a message with granted bytes up to a chunk is the one for this chunk. -/
theorem grantPacket_eq (hMtu : 0 < cfg.mtu) (hWire : cfg.mtu + 68 < 2 ^ 32) {m : CbMessage cfg}
    {granted chunk : Nat} {q : RxQueuePair} (h : q.Books m granted)
    (hAnnounced : q.announcementAccounted = true)
    (hNext : m.selfAllocCreditDataBytes + granted = chunk * cfg.mtu)
    (hPending : q.pendingDemandBytes ≠ 0) :
    CbReceiver.grantPacket m.key q (min q.pendingDemandBytes cfg.mtu)
        (cbAddHeaderOverhead (min q.pendingDemandBytes cfg.mtu) cfg.mtu true) =
      m.grantOf chunk := by
  obtain ⟨hBytes, hSum⟩ := h.announced hAnnounced
  have hSize := m.size_lt
  have hData : min q.pendingDemandBytes cfg.mtu = chunkSize cfg m.size chunk := by
    unfold chunkSize
    omega
  have hPos : 0 < chunkSize cfg m.size chunk := by omega
  have hLe : chunkSize cfg m.size chunk ≤ cfg.mtu := Nat.min_le_left _ _
  have hOnWire : m.chunkWire chunk = max (chunkSize cfg m.size chunk + 68) 84 :=
    cbAddHeaderOverhead_of_le hPos hLe
  have hSeq : min (q.announcementExpectedBytes - q.pendingDemandBytes) (2 ^ 32 - 1) =
      chunk * cfg.mtu := by
    rw [hBytes]
    omega
  have hCredit : m.chunkWire chunk % 2 ^ 32 = m.chunkWire chunk := Nat.mod_eq_of_lt (by omega)
  have hPad : (m.chunkWire chunk -
        (chunkSize cfg m.size chunk + cbDataHeadersOnWire + cbLinkOverheadOnWire)) % 2 ^ 16 =
      m.chunkWire chunk -
        (chunkSize cfg m.size chunk + cbDataHeadersOnWire + cbLinkOverheadOnWire) := by
    apply Nat.mod_eq_of_lt
    unfold cbDataHeadersOnWire cbLinkOverheadOnWire
    omega
  rw [hData]
  change CbReceiver.grantPacket m.key q (chunkSize cfg m.size chunk) (m.chunkWire chunk) =
    m.grantOf chunk
  unfold CbReceiver.grantPacket grantOf
  rw [h.sip, h.sport, hSeq, hCredit, hPad]

end CbMessage

end Dpdq.Ns3
