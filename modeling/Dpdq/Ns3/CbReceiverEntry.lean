import Dpdq.Ns3.CbReceiverListed

/-!
# The entries after a step

`SenderAfter` lists the forms that a step can give to the entry of a sender, and `MsgAfter` those
of a receive QP. An invariant about single entries is proved by cases on them.
-/

namespace Dpdq.Ns3

open Dpdq.Lib

variable {cfg : CbConfig}

namespace CbReceiver

/-- The branches of `receive` for packets without data. -/
def IsRequest (p : CbPacket) : Prop :=
  p.tag.type = .grantReq ∨ p.tag.type = .request ∧ p.ch.l3Prot = 0xFB

/-- The branch of `receive` for packets with data. -/
def IsData (p : CbPacket) : Prop := p.tag.type = .request ∧ p.ch.l3Prot = 0x11

instance (p : CbPacket) : Decidable (IsRequest p) := inferInstanceAs (Decidable (_ ∨ _ ∧ _))

instance (p : CbPacket) : Decidable (IsData p) := inferInstanceAs (Decidable (_ ∧ _))

theorem receive_of_data (cfg : CbConfig) (s : CbReceiver) {p : CbPacket} (h : IsData p) :
    s.receive cfg p = s.receiveRequestData cfg p := by
  unfold receive
  rw [h.1]
  exact if_pos h.2

theorem receive_of_request (cfg : CbConfig) (s : CbReceiver) {p : CbPacket} (h : IsRequest p) :
    s.receive cfg p = (s.receiveRequest cfg p, none) := by
  unfold receive
  rcases h with hType | ⟨hType, hCb⟩
  · rw [hType]
  · rw [hType]
    have hUdp : p.ch.l3Prot ≠ 0x11 := by
      rw [hCb]
      decide
    exact (if_neg hUdp).trans (if_pos hCb)

theorem receive_of_bounced (cfg : CbConfig) (s : CbReceiver) {p : CbPacket}
    (h : p.tag.type = .bouncedCredit) : s.receive cfg p = (s.receiveBouncedCredit p, none) := by
  unfold receive
  rw [h]

theorem receive_cases (cfg : CbConfig) (s : CbReceiver) (p : CbPacket) :
    (s.receive cfg p).1 = s ∨
      IsData p ∧ (s.receive cfg p).1 = (s.receiveRequestData cfg p).1 ∨
      IsRequest p ∧ (s.receive cfg p).1 = s.receiveRequest cfg p ∨
      p.tag.type = .bouncedCredit ∧ ∃ q, s.rxQpMap p.rxKey = some q ∧
        (s.receive cfg p).1 = s.receiveBouncedCredit p := by
  unfold receive
  cases hType : p.tag.type with
  | request =>
    by_cases hUdp : p.ch.l3Prot = 0x11
    · right
      left
      exact ⟨⟨hType, hUdp⟩, congrArg Prod.fst (if_pos hUdp)⟩
    · by_cases hCb : p.ch.l3Prot = 0xFB
      · right
        right
        left
        exact ⟨Or.inr ⟨hType, hCb⟩, congrArg Prod.fst ((if_neg hUdp).trans (if_pos hCb))⟩
      · left
        exact congrArg Prod.fst ((if_neg hUdp).trans (if_neg hCb))
  | grantReq =>
    right
    right
    left
    exact ⟨Or.inl hType, rfl⟩
  | bouncedCredit =>
    cases hq : s.rxQpMap p.rxKey with
    | none =>
      left
      show s.receiveBouncedCredit p = s
      unfold receiveBouncedCredit
      simp only [hq]
    | some q =>
      right
      right
      right
      exact ⟨rfl, q, rfl, rfl⟩
  | none => exact Or.inl rfl
  | grant => exact Or.inl rfl
  | resend => exact Or.inl rfl

/-! ## Senders -/

/-- What a step may leave as the entry of an address. -/
inductive SenderAfter (cfg : CbConfig) (s : CbReceiver) (addr : Nat) : Event → SenderState → Prop
  | kept (e : Event) (st : SenderState) :
      s.senderStates.get? addr = some st → SenderAfter cfg s addr e st
  | data (p : CbPacket) (l : List RxKey) : IsData p → p.rxKey.dip = addr →
      SenderAfter cfg s addr (.arrive p)
        { ((s.accountOf cfg p).receiveData cfg p).sender with msgStates := l }
  | request (p : CbPacket) : IsRequest p → p.rxKey.dip = addr →
      SenderAfter cfg s addr (.arrive p) ((s.accountOf cfg p).countRequest cfg p).sender
  | bounced (p : CbPacket) (q : RxQueuePair) : p.tag.type = .bouncedCredit →
      s.rxQpMap p.rxKey = some q → p.rxKey.dip = addr →
      SenderAfter cfg s addr (.arrive p) ((s.openAccount p.rxKey q).bounce p.tag).sender
  | granted (order : List Nat) (c : GrantCandidate) (data wire : Nat) (st : SenderState)
      (q : RxQueuePair) :
      s.trySelectCandidate cfg c = some (c, data, wire) → c.senderAddr = addr →
      s.senderStates.get? addr = some st →
      SenderAfter cfg s addr (.grantTick order)
        (Account.grant ⟨st, q, s.globalOutstandingBytes⟩ data wire).sender
  | touched (k : RxKey) (q : RxQueuePair) : s.rxQpMap k = some q → q.resendRunning = true →
      k.dip = addr → SenderAfter cfg s addr (.resendTimeout k) (s.getOrCreateSenderState k)

theorem get?_getRxQp_of_ne (s : CbReceiver) (p : CbPacket) {addr : Nat} (h : addr ≠ p.rxKey.dip) :
    (s.getRxQp cfg p).1.senderStates.get? addr = s.senderStates.get? addr := by
  rcases getRxQp_cases cfg s p with ⟨q, -, hEq⟩ | ⟨-, st, -, -, -, hEq⟩
  · rw [hEq]
  · rw [hEq]
    exact Table.get?_set_of_ne _ _ h

theorem get?_scheduleGrantTickFor (s : CbReceiver) (st : SenderState) (addr : Nat) :
    (s.scheduleGrantTickFor st).senderStates.get? addr = s.senderStates.get? addr := by
  obtain ⟨running, hEq⟩ := s.scheduleGrantTickFor_eq st
  rw [hEq]

theorem get?_cleanupSenderState (s : CbReceiver) (k : RxKey) {addr : Nat} {st : SenderState}
    (h : (s.cleanupSenderState k).senderStates.get? addr = some st) :
    ∃ st', s.senderStates.get? addr = some st' ∧ ∃ l, st = { st' with msgStates := l } ∧
      (addr ≠ k.dip → l = st'.msgStates) := by
  unfold cleanupSenderState at h
  cases hOld : s.senderStates.get? k.dip with
  | none =>
    simp only [hOld] at h
    exact ⟨st, h, st.msgStates, rfl, fun _ => rfl⟩
  | some st' =>
    simp only [hOld] at h
    split at h
    · by_cases hAddr : addr = k.dip
      · rw [hAddr] at h
        simp at h
      · simp only [Table.get?_erase_of_ne _ hAddr] at h
        exact ⟨st, h, st.msgStates, rfl, fun _ => rfl⟩
    · by_cases hAddr : addr = k.dip
      · rw [hAddr] at h ⊢
        simp only [Table.get?_set_self, Option.some.injEq] at h
        exact ⟨st', hOld, _, h.symm, fun hNe => absurd rfl hNe⟩
      · simp only [Table.get?_set_of_ne _ _ hAddr] at h
        exact ⟨st, h, st.msgStates, rfl, fun _ => rfl⟩

/-- Outside the address of the packet, an arrival keeps the senders. -/
theorem get?_post_of_ne (s : CbReceiver) (k : RxKey) (a : Account) {addr : Nat}
    (h : addr ≠ k.dip) : (s.post k a).senderStates.get? addr = s.senderStates.get? addr :=
  Table.get?_set_of_ne _ _ h

theorem get?_post_self (s : CbReceiver) (k : RxKey) (a : Account) :
    (s.post k a).senderStates.get? k.dip = some a.sender := Table.get?_set_self _ _ _

/-- After a data packet its sender has the entry of the account, if it has one. -/
theorem get?_postData {s : CbReceiver} {k : RxKey} {a : Account} {addr : Nat} {st : SenderState}
    (h : (s.postData k a).senderStates.get? addr = some st) :
    addr = k.dip ∧ (∃ l, st = { a.sender with msgStates := l }) ∨
      addr ≠ k.dip ∧ s.senderStates.get? addr = some st := by
  unfold postData at h
  by_cases hAddr : addr = k.dip
  · subst hAddr
    left
    refine ⟨rfl, ?_⟩
    split at h
    · obtain ⟨st', hPosted, l, rfl, -⟩ := get?_cleanupSenderState _ _ h
      rw [get?_post_self] at hPosted
      obtain rfl := Option.some.inj hPosted
      exact ⟨l, rfl⟩
    · rw [get?_post_self] at h
      obtain rfl := Option.some.inj h
      exact ⟨a.sender.msgStates, rfl⟩
  · right
    refine ⟨hAddr, ?_⟩
    split at h
    · obtain ⟨st', hPosted, l, rfl, hList⟩ := get?_cleanupSenderState _ _ h
      rw [get?_post_of_ne _ _ _ hAddr] at hPosted
      rw [hPosted, hList hAddr]
    · rw [get?_post_of_ne _ _ _ hAddr] at h
      exact h

/-- The entry of the sender after a data packet that does not complete its message. -/
theorem get?_receive_of_data (cfg : CbConfig) {s : CbReceiver} {p : CbPacket} (h : IsData p)
    (hOpen : ¬ ((s.accountOf cfg p).receiveData cfg p).msg.completes) :
    (s.receive cfg p).1.senderStates.get? p.rxKey.dip =
      some ((s.accountOf cfg p).receiveData cfg p).sender := by
  rw [receive_of_data cfg s h]
  unfold receiveRequestData
  simp only [get?_scheduleGrantTickFor]
  unfold postData
  split
  · rename_i hDone
    exact absurd hDone hOpen
  · exact get?_post_self _ _ _

theorem get?_receive_of_request (cfg : CbConfig) {s : CbReceiver} {p : CbPacket} (h : IsRequest p) :
    (s.receive cfg p).1.senderStates.get? p.rxKey.dip =
      some ((s.accountOf cfg p).countRequest cfg p).sender := by
  rw [receive_of_request cfg s h]
  unfold receiveRequest
  simp only [get?_scheduleGrantTickFor]
  exact get?_post_self _ _ _

theorem get?_receive_of_bounced (cfg : CbConfig) {s : CbReceiver} {p : CbPacket} {q : RxQueuePair}
    (h : p.tag.type = .bouncedCredit) (hq : s.rxQpMap p.rxKey = some q) :
    (s.receive cfg p).1.senderStates.get? p.rxKey.dip =
      some ((s.openAccount p.rxKey q).bounce p.tag).sender := by
  rw [receive_of_bounced cfg s h]
  unfold receiveBouncedCredit
  simp only [hq, get?_scheduleGrantTickFor]
  exact get?_post_self _ _ _

theorem senderAfter_receive (s : CbReceiver) (p : CbPacket) {addr : Nat} {st : SenderState}
    (hst : (s.receive cfg p).1.senderStates.get? addr = some st) :
    SenderAfter cfg s addr (.arrive p) st := by
  rcases receive_cases cfg s p with
    hEq | ⟨hData, hEq⟩ | ⟨hRequest, hEq⟩ | ⟨hBounced, q, hq, hEq⟩
  · rw [hEq] at hst
    exact .kept _ st hst
  · rw [hEq] at hst
    unfold receiveRequestData at hst
    simp only [get?_scheduleGrantTickFor] at hst
    rcases get?_postData hst with ⟨rfl, l, rfl⟩ | ⟨hAddr, hOld⟩
    · exact .data p l hData rfl
    · rw [get?_getRxQp_of_ne _ _ hAddr] at hOld
      exact .kept _ st hOld
  · rw [hEq] at hst
    unfold receiveRequest at hst
    simp only [get?_scheduleGrantTickFor] at hst
    by_cases hAddr : addr = p.rxKey.dip
    · subst hAddr
      rw [get?_post_self] at hst
      obtain rfl := Option.some.inj hst
      exact .request p hRequest rfl
    · rw [get?_post_of_ne _ _ _ hAddr, get?_getRxQp_of_ne _ _ hAddr] at hst
      exact .kept _ st hst
  · rw [hEq] at hst
    unfold receiveBouncedCredit at hst
    simp only [hq, get?_scheduleGrantTickFor] at hst
    by_cases hAddr : addr = p.rxKey.dip
    · subst hAddr
      rw [get?_post_self] at hst
      obtain rfl := Option.some.inj hst
      exact .bounced p q hBounced hq rfl
    · rw [get?_post_of_ne _ _ _ hAddr] at hst
      exact .kept _ st hst

theorem senderAfter_step {s t : CbReceiver} {e : Event} (hStep : s.step cfg e = some t) {addr : Nat}
    {st : SenderState} (hst : t.senderStates.get? addr = some st) :
    SenderAfter cfg s addr e st := by
  cases e with
  | arrive p =>
    obtain rfl := Option.some.inj hStep
    exact senderAfter_receive s p hst
  | grantTick order =>
    obtain ⟨-, rfl⟩ := Machine.of_guarded hStep
    unfold creditGrantTick at hst
    obtain ⟨running, hTick⟩ := scheduleGrantTick_eq
      (({ s with grantTickRunning := false } : CbReceiver).tryIssueCreditGrant cfg order).1
    simp only [hTick] at hst
    rcases tryIssueCreditGrant_cases cfg { s with grantTickRunning := false } order with
      ⟨cursor, hEq⟩ | ⟨c, -, data, wire, st', q, cursor, hTry, hst', -, hEq⟩
    · rw [hEq] at hst
      exact .kept _ st hst
    · rw [hEq] at hst
      by_cases hAddr : addr = c.senderAddr
      · subst hAddr
        have hGranted : some (Account.grant ⟨st', q, s.globalOutstandingBytes⟩ data wire).sender =
            some st := (Table.get?_set_self _ _ _).symm.trans hst
        obtain rfl := Option.some.inj hGranted
        exact .granted order c data wire st' q hTry rfl hst'
      · exact .kept _ st ((Table.get?_set_of_ne _ _ hAddr).symm.trans hst)
  | resendTimeout k =>
    obtain ⟨q, hq, hRunning, rfl⟩ := resendTimeout_eq_some hStep
    obtain ⟨q', -, hEq | hEq⟩ := handleResendTimeout_cases cfg s k q
    · rw [hEq] at hst
      exact .kept _ st hst
    · rw [hEq] at hst
      by_cases hAddr : addr = k.dip
      · subst hAddr
        obtain rfl := Option.some.inj ((Table.get?_set_self _ _ _).symm.trans hst)
        exact .touched k q hq hRunning rfl
      · exact .kept _ st ((Table.get?_set_of_ne _ _ hAddr).symm.trans hst)

/-! ## Messages -/

/-- The message whose resend timer has fired. -/
def resendMsg (cfg : CbConfig) (st : SenderState) (q : RxQueuePair) : RxQueuePair :=
  let q := { q with resendRunning := false }
  if q.completionNotified ∨ q.expectedChunks = 0 then q
  else if cfg.mtu = 0 then q
  else
    let limit := grantedChunkLimit cfg q
    let q := { q with grantedChunkLimit := limit }
    if q.receivedChunks < q.expectedChunks ∧
        (st.pendingDemandDataBytes > 0 ∨ limit > q.receivedChunks) then q.scheduleResend
    else q

theorem handleResendTimeout_rxQpMap (s : CbReceiver) (k : RxKey) (q : RxQueuePair) :
    (s.handleResendTimeout cfg k q).1.rxQpMap =
      Function.update s.rxQpMap k (some (resendMsg cfg (s.getOrCreateSenderState k) q)) := by
  unfold handleResendTimeout resendMsg
  simp only
  split
  · rfl
  · split
    · rfl
    · rfl

/-- What a step may leave as the receive QP of a key. -/
inductive MsgAfter (cfg : CbConfig) (s : CbReceiver) (k : RxKey) : Event → RxQueuePair → Prop
  | kept (e : Event) (q : RxQueuePair) : s.rxQpMap k = some q → MsgAfter cfg s k e q
  | completed (p : CbPacket) : IsData p → p.rxKey = k →
      ((s.accountOf cfg p).receiveData cfg p).msg.completes →
      MsgAfter cfg s k (.arrive p) ((s.accountOf cfg p).receiveData cfg p).msg.notifyCompletion
  | data (p : CbPacket) : IsData p → p.rxKey = k →
      ¬ ((s.accountOf cfg p).receiveData cfg p).msg.completes →
      MsgAfter cfg s k (.arrive p) ((s.accountOf cfg p).receiveData cfg p).msg.scheduleResend
  | request (p : CbPacket) : IsRequest p → p.rxKey = k →
      MsgAfter cfg s k (.arrive p) ((s.accountOf cfg p).countRequest cfg p).msg
  | bounced (p : CbPacket) (q : RxQueuePair) : p.tag.type = .bouncedCredit → p.rxKey = k →
      s.rxQpMap k = some q →
      MsgAfter cfg s k (.arrive p) ((s.openAccount k q).bounce p.tag).msg.scheduleResend
  | granted (order : List Nat) (c : GrantCandidate) (q : RxQueuePair) (data wire : Nat) :
      c ∈ s.candidates order → s.trySelectCandidate cfg c = some (c, data, wire) → c.key = k →
      s.rxQpMap k = some q →
      MsgAfter cfg s k (.grantTick order)
        { q with pendingDemandBytes := q.pendingDemandBytes - data }
  | fired (q : RxQueuePair) : s.rxQpMap k = some q → q.resendRunning = true →
      MsgAfter cfg s k (.resendTimeout k) (resendMsg cfg (s.getOrCreateSenderState k) q)

theorem rxQpMap_scheduleGrantTickFor (s : CbReceiver) (st : SenderState) :
    (s.scheduleGrantTickFor st).rxQpMap = s.rxQpMap := by
  obtain ⟨running, hEq⟩ := s.scheduleGrantTickFor_eq st
  rw [hEq]

theorem rxQpMap_getRxQp_of_ne (s : CbReceiver) (p : CbPacket) {k : RxKey} (h : k ≠ p.rxKey) :
    (s.getRxQp cfg p).1.rxQpMap k = s.rxQpMap k := by
  rcases getRxQp_cases cfg s p with ⟨q, -, hEq⟩ | ⟨-, st, -, -, -, hEq⟩
  · rw [hEq]
  · rw [hEq]
    exact Function.update_of_ne h _ _

theorem rxQpMap_post_self (s : CbReceiver) (k : RxKey) (a : Account) :
    (s.post k a).rxQpMap k = some a.msg := Function.update_self _ _ _

theorem rxQpMap_post_of_ne (s : CbReceiver) {k l : RxKey} (a : Account) (h : l ≠ k) :
    (s.post k a).rxQpMap l = s.rxQpMap l := Function.update_of_ne h _ _

theorem rxQpMap_granted_self (s : CbReceiver) (addr : Nat) (k : RxKey) (a : Account) :
    (s.granted addr k a).rxQpMap k = some a.msg := Function.update_self _ _ _

theorem rxQpMap_granted_of_ne (s : CbReceiver) (addr : Nat) {k l : RxKey} (a : Account)
    (h : l ≠ k) : (s.granted addr k a).rxQpMap l = s.rxQpMap l := Function.update_of_ne h _ _

/-- The receive QP of a data packet after its arrival. -/
theorem rxQpMap_receive_of_data {s : CbReceiver} {p : CbPacket} (h : IsData p) :
    (s.receive cfg p).1.rxQpMap p.rxKey =
      some (if ((s.accountOf cfg p).receiveData cfg p).msg.completes then
        ((s.accountOf cfg p).receiveData cfg p).msg.notifyCompletion
      else ((s.accountOf cfg p).receiveData cfg p).msg.scheduleResend) := by
  rw [receive_of_data cfg s h]
  unfold receiveRequestData
  simp only [rxQpMap_scheduleGrantTickFor]
  unfold postData
  split
  · rename_i hDone
    rw [cleanupSenderState_rxQpMap, rxQpMap_post_self]
    exact congrArg some (if_pos hDone).symm
  · rename_i hOpen
    rw [rxQpMap_post_self]
    exact congrArg some (if_neg hOpen).symm

/-- A known message stays known. -/
theorem known_receive {s : CbReceiver} {k : RxKey} (p : CbPacket) (h : s.rxQpMap k ≠ none) :
    (s.receive cfg p).1.rxQpMap k ≠ none := by
  rcases receive_cases cfg s p with hEq | ⟨-, hEq⟩ | ⟨-, hEq⟩ | ⟨-, q, hq, hEq⟩
  · rw [hEq]
    exact h
  · rw [hEq]
    unfold receiveRequestData
    simp only [rxQpMap_scheduleGrantTickFor]
    unfold postData
    by_cases hKey : k = p.rxKey
    · subst hKey
      split
      · rw [cleanupSenderState_rxQpMap, rxQpMap_post_self]
        exact nofun
      · rw [rxQpMap_post_self]
        exact nofun
    · split
      · rw [cleanupSenderState_rxQpMap, rxQpMap_post_of_ne _ _ hKey, rxQpMap_getRxQp_of_ne _ _ hKey]
        exact h
      · rw [rxQpMap_post_of_ne _ _ hKey, rxQpMap_getRxQp_of_ne _ _ hKey]
        exact h
  · rw [hEq]
    unfold receiveRequest
    simp only [rxQpMap_scheduleGrantTickFor]
    by_cases hKey : k = p.rxKey
    · subst hKey
      rw [rxQpMap_post_self]
      exact nofun
    · rw [rxQpMap_post_of_ne _ _ hKey, rxQpMap_getRxQp_of_ne _ _ hKey]
      exact h
  · rw [hEq]
    unfold receiveBouncedCredit
    simp only [hq, rxQpMap_scheduleGrantTickFor]
    by_cases hKey : k = p.rxKey
    · subst hKey
      rw [rxQpMap_post_self]
      exact nofun
    · rw [rxQpMap_post_of_ne _ _ hKey]
      exact h

theorem known_step {s t : CbReceiver} {e : Event} {k : RxKey} (h : s.rxQpMap k ≠ none)
    (hStep : s.step cfg e = some t) : t.rxQpMap k ≠ none := by
  cases e with
  | arrive p =>
    obtain rfl := Option.some.inj hStep
    exact known_receive p h
  | grantTick order =>
    obtain ⟨-, rfl⟩ := Machine.of_guarded hStep
    unfold creditGrantTick
    obtain ⟨running, hTick⟩ := scheduleGrantTick_eq
      (({ s with grantTickRunning := false } : CbReceiver).tryIssueCreditGrant cfg order).1
    simp only [hTick]
    rcases tryIssueCreditGrant_cases cfg { s with grantTickRunning := false } order with
      ⟨cursor, hEq⟩ | ⟨c, -, data, wire, st, q, cursor, -, -, -, hEq⟩
    · rw [hEq]
      exact h
    · rw [hEq]
      by_cases hKey : k = c.key
      · subst hKey
        rw [rxQpMap_granted_self]
        exact nofun
      · rw [rxQpMap_granted_of_ne _ _ _ hKey]
        exact h
  | resendTimeout l =>
    obtain ⟨q, -, -, rfl⟩ := resendTimeout_eq_some hStep
    rw [handleResendTimeout_rxQpMap]
    by_cases hKey : k = l
    · subst hKey
      rw [Function.update_self]
      exact nofun
    · rw [Function.update_of_ne hKey]
      exact h

theorem msgAfter_receive (s : CbReceiver) (p : CbPacket) {k : RxKey} {q : RxQueuePair}
    (hq : (s.receive cfg p).1.rxQpMap k = some q) : MsgAfter cfg s k (.arrive p) q := by
  rcases receive_cases cfg s p with
    hEq | ⟨hData, hEq⟩ | ⟨hRequest, hEq⟩ | ⟨hBounced, q', hq', hEq⟩
  · rw [hEq] at hq
    exact .kept _ q hq
  · rw [hEq] at hq
    unfold receiveRequestData at hq
    simp only [rxQpMap_scheduleGrantTickFor] at hq
    unfold postData at hq
    by_cases hKey : k = p.rxKey
    · subst hKey
      split at hq
      · rename_i hCompletes
        rw [cleanupSenderState_rxQpMap, rxQpMap_post_self] at hq
        obtain rfl := Option.some.inj hq
        exact .completed p hData rfl hCompletes
      · rename_i hCompletes
        rw [rxQpMap_post_self] at hq
        obtain rfl := Option.some.inj hq
        exact .data p hData rfl hCompletes
    · apply MsgAfter.kept
      split at hq
      · rw [cleanupSenderState_rxQpMap, rxQpMap_post_of_ne _ _ hKey,
          rxQpMap_getRxQp_of_ne _ _ hKey] at hq
        exact hq
      · rw [rxQpMap_post_of_ne _ _ hKey, rxQpMap_getRxQp_of_ne _ _ hKey] at hq
        exact hq
  · rw [hEq] at hq
    unfold receiveRequest at hq
    simp only [rxQpMap_scheduleGrantTickFor] at hq
    by_cases hKey : k = p.rxKey
    · subst hKey
      rw [rxQpMap_post_self] at hq
      obtain rfl := Option.some.inj hq
      exact .request p hRequest rfl
    · rw [rxQpMap_post_of_ne _ _ hKey, rxQpMap_getRxQp_of_ne _ _ hKey] at hq
      exact .kept _ q hq
  · rw [hEq] at hq
    unfold receiveBouncedCredit at hq
    simp only [hq', rxQpMap_scheduleGrantTickFor] at hq
    by_cases hKey : k = p.rxKey
    · subst hKey
      rw [rxQpMap_post_self] at hq
      obtain rfl := Option.some.inj hq
      exact .bounced p q' hBounced rfl hq'
    · rw [rxQpMap_post_of_ne _ _ hKey] at hq
      exact .kept _ q hq

theorem msgAfter_step {s t : CbReceiver} {e : Event} (hStep : s.step cfg e = some t) {k : RxKey}
    {q : RxQueuePair} (hq : t.rxQpMap k = some q) : MsgAfter cfg s k e q := by
  cases e with
  | arrive p =>
    obtain rfl := Option.some.inj hStep
    exact msgAfter_receive s p hq
  | grantTick order =>
    obtain ⟨-, rfl⟩ := Machine.of_guarded hStep
    unfold creditGrantTick at hq
    obtain ⟨running, hTick⟩ := scheduleGrantTick_eq
      (({ s with grantTickRunning := false } : CbReceiver).tryIssueCreditGrant cfg order).1
    simp only [hTick] at hq
    rcases tryIssueCreditGrant_cases cfg { s with grantTickRunning := false } order with
      ⟨cursor, hEq⟩ | ⟨c, hc, data, wire, st, q', cursor, hTry, -, hq', hEq⟩
    · rw [hEq] at hq
      exact .kept _ q hq
    · rw [hEq] at hq
      by_cases hKey : k = c.key
      · subst hKey
        rw [rxQpMap_granted_self] at hq
        obtain rfl := Option.some.inj hq
        exact .granted order c q' data wire hc hTry rfl hq'
      · rw [rxQpMap_granted_of_ne _ _ _ hKey] at hq
        exact .kept _ q hq
  | resendTimeout l =>
    obtain ⟨q', hq', hRunning, rfl⟩ := resendTimeout_eq_some hStep
    rw [handleResendTimeout_rxQpMap] at hq
    by_cases hKey : k = l
    · subst hKey
      rw [Function.update_self] at hq
      obtain rfl := Option.some.inj hq
      exact .fired q' hq' hRunning
    · rw [Function.update_of_ne hKey] at hq
      exact .kept _ q hq

/-! ## Settings of a sender -/

end CbReceiver

namespace SenderState

/-- `st'` has the settings of `st`: what no announcement, grant, reclaim or bounce changes. -/
structure SameSettings (st st' : SenderState) : Prop where
  enabled : st'.enabled = st.enabled
  grantGranularityDataBytes : st'.grantGranularityDataBytes = st.grantGranularityDataBytes
  aimd : st'.aimd = st.aimd

theorem SameSettings.refl (st : SenderState) : st.SameSettings st := ⟨rfl, rfl, rfl⟩

theorem SameSettings.trans {st st' st'' : SenderState} (h : st.SameSettings st')
    (h' : st'.SameSettings st'') : st.SameSettings st'' :=
  ⟨h'.1.trans h.1, h'.2.trans h.2, h'.3.trans h.3⟩

theorem updateAimdOnData_enabled (st : SenderState) (csnMarked ecnMarked priorityFlow : Bool) :
    (st.updateAimdOnData cfg csnMarked ecnMarked priorityFlow).enabled = st.enabled := by
  unfold updateAimdOnData
  split
  · rfl
  · rfl

end SenderState

namespace Account

theorem sameSettings_applyNewAnnouncement (cfg : CbConfig) (a : Account) (tag : CreditBouncerTag) :
    a.sender.SameSettings (a.applyNewAnnouncement cfg tag).sender := by
  unfold applyNewAnnouncement
  split
  · simp only
    split
    · exact ⟨rfl, rfl, rfl⟩
    · exact ⟨rfl, rfl, rfl⟩
  · exact SenderState.SameSettings.refl _

theorem sameSettings_receiveChunk (cfg : CbConfig) (a : Account) (p : CbPacket) :
    a.sender.SameSettings (a.receiveChunk cfg p).sender := by
  unfold receiveChunk
  simp only
  split
  · exact ⟨rfl, rfl, rfl⟩
  · exact ⟨rfl, rfl, rfl⟩

theorem sameSettings_bounce (a : Account) (tag : CreditBouncerTag) :
    a.sender.SameSettings (a.bounce tag).sender := ⟨rfl, rfl, rfl⟩

theorem sameSettings_grant (a : Account) (askData askWire : Nat) :
    a.sender.SameSettings (a.grant askData askWire).sender := ⟨rfl, rfl, rfl⟩

/-- A packet leaves the settings as its marks have left them. -/
theorem countArrival_settings (cfg : CbConfig) (a : Account) (p : CbPacket) :
    a.sender.SameSettings (a.countArrival cfg p).sender ∨
      (a.updateAimd cfg p p.tag.priorityFlow).sender.SameSettings
        (a.countArrival cfg p).sender := by
  unfold countArrival
  simp only
  split
  · right
    exact sameSettings_applyNewAnnouncement cfg _ _
  · left
    exact sameSettings_applyNewAnnouncement cfg _ _

theorem receiveData_settings (cfg : CbConfig) (a : Account) (p : CbPacket) :
    a.sender.SameSettings (a.receiveData cfg p).sender ∨
      (a.updateAimd cfg p p.tag.priorityFlow).sender.SameSettings
        (a.receiveData cfg p).sender := by
  have hChunk := sameSettings_receiveChunk cfg (a.countArrival cfg p) p
  rcases countArrival_settings cfg a p with hSame | hSame
  · exact Or.inl (hSame.trans hChunk)
  · exact Or.inr (hSame.trans hChunk)

theorem countRequest_settings (cfg : CbConfig) (a : Account) (p : CbPacket) :
    a.sender.SameSettings (a.countRequest cfg p).sender ∨
      (a.updateAimd cfg p false).sender.SameSettings (a.countRequest cfg p).sender := by
  unfold countRequest
  simp only
  split
  · right
    exact sameSettings_applyNewAnnouncement cfg _ _
  · left
    exact sameSettings_applyNewAnnouncement cfg _ _

end Account

namespace CbReceiver

/-! ## The account that a packet finds -/

/-- The message of the account is the known one or a new one. -/
theorem accountOf_msg_cases (cfg : CbConfig) (s : CbReceiver) (p : CbPacket) :
    s.rxQpMap p.rxKey = some (s.accountOf cfg p).msg ∨
      s.rxQpMap p.rxKey = none ∧ (s.accountOf cfg p).msg = p.newRxQp := by
  unfold accountOf openAccount
  rcases getRxQp_cases cfg s p with ⟨q, hq, hEq⟩ | ⟨hNone, st, -, -, -, hEq⟩
  · rw [hEq]
    exact Or.inl hq
  · rw [hEq]
    exact Or.inr ⟨hNone, rfl⟩

theorem listMessage_eq (st : SenderState) (k : RxKey) :
    ∃ l, st.listMessage k = { st with msgStates := l } := by
  unfold SenderState.listMessage
  split
  · exact ⟨st.msgStates, rfl⟩
  · exact ⟨st.msgStates ++ [k], rfl⟩

/-- A listed message has an entry of its sender. -/
theorem entry_of_mem {s : CbReceiver} {k : RxKey} {addr : Nat} (hk : k ∈ s.msgsOf addr) :
    ∃ st, s.senderStates.get? addr = some st := by
  unfold msgsOf at hk
  cases hst : s.senderStates.get? addr with
  | none =>
    rw [hst] at hk
    exact absurd hk List.not_mem_nil
  | some st => exact ⟨st, rfl⟩

theorem Listed.entry_of_running {s : CbReceiver} (h : s.Listed) {k : RxKey} {q : RxQueuePair}
    (hq : s.rxQpMap k = some q) (hRunning : q.resendRunning = true) :
    ∃ st, s.senderStates.get? k.dip = some st :=
  entry_of_mem (h.unfinished k q hq ((h.flags k q hq).resend hRunning))

/-- All senders are enabled. -/
def Enabled (s : CbReceiver) : Prop :=
  ∀ addr st, s.senderStates.get? addr = some st → st.enabled = true

/-- The sender of an account is the entry of its address. If there is none it is initialised for a
message that is new as well, and only switched on for a known one. -/
theorem openAccount_sender_cases {s : CbReceiver} (h : s.Enabled) (k : RxKey) (q : RxQueuePair) :
    ∃ l, (∃ st, s.senderStates.get? k.dip = some st ∧
        (s.openAccount k q).sender = { st with msgStates := l }) ∨
      s.senderStates.get? k.dip = none ∧
        (s.openAccount k q).sender = { ({} : SenderState) with enabled := true, msgStates := l } := by
  unfold openAccount getOrCreateSenderState
  cases hst : s.senderStates.get? k.dip with
  | none =>
    obtain ⟨l, hl⟩ := listMessage_eq ({} : SenderState) k
    exact ⟨l, Or.inr ⟨rfl, by simp only [Option.getD_none, hl]⟩⟩
  | some st =>
    obtain ⟨l, hl⟩ := listMessage_eq st k
    have hOn := h k.dip st hst
    refine ⟨l, Or.inl ⟨st, rfl, ?_⟩⟩
    simp only [Option.getD_some, hl]
    rw [← hOn]

theorem accountOf_of_known {s : CbReceiver} {p : CbPacket} {q : RxQueuePair}
    (hq : s.rxQpMap p.rxKey = some q) : s.accountOf cfg p = s.openAccount p.rxKey q := by
  unfold accountOf getRxQp
  simp only [hq]

theorem accountOf_sender_cases (cfg : CbConfig) {s : CbReceiver} (h : s.Enabled) (p : CbPacket) :
    ∃ l, (∃ st, s.senderStates.get? p.rxKey.dip = some st ∧
        (s.accountOf cfg p).sender = { st with msgStates := l }) ∨
      s.senderStates.get? p.rxKey.dip = none ∧ s.rxQpMap p.rxKey = none ∧
        (s.accountOf cfg p).sender =
          { ({} : SenderState).enable cfg with msgStates := l } ∨
      s.senderStates.get? p.rxKey.dip = none ∧ s.rxQpMap p.rxKey ≠ none ∧
        (s.accountOf cfg p).sender = { ({} : SenderState) with enabled := true, msgStates := l } := by
  cases hq : s.rxQpMap p.rxKey with
  | some q =>
    rw [accountOf_of_known hq]
    obtain ⟨l, ⟨st, hst, hSender⟩ | ⟨hNone, hSender⟩⟩ := openAccount_sender_cases h p.rxKey q
    · exact ⟨l, Or.inl ⟨st, hst, hSender⟩⟩
    · exact ⟨l, Or.inr (Or.inr ⟨hNone, nofun, hSender⟩)⟩
  | none =>
    -- The entry that `GetRxQp` stores is found again, with the message on its list.
    have hAccount : (s.accountOf cfg p).sender =
        { (if !(s.getOrCreateSenderState p.rxKey).enabled then
            (s.getOrCreateSenderState p.rxKey).enable cfg
          else s.getOrCreateSenderState p.rxKey).listMessage p.rxKey with enabled := true } := by
      unfold accountOf getRxQp openAccount
      simp only [hq]
      unfold getOrCreateSenderState
      rw [Table.get?_set_self]
      rfl
    cases hst : s.senderStates.get? p.rxKey.dip with
    | none =>
      obtain ⟨l, hl⟩ := listMessage_eq ({} : SenderState) p.rxKey
      have hNew : s.getOrCreateSenderState p.rxKey = { ({} : SenderState) with msgStates := l } := by
        unfold getOrCreateSenderState
        rw [hst, ← hl]
        rfl
      obtain ⟨l', hl'⟩ := listMessage_eq
        (({ ({} : SenderState) with msgStates := l } : SenderState).enable cfg) p.rxKey
      refine ⟨l', Or.inr (Or.inl ⟨rfl, rfl, ?_⟩)⟩
      rw [hAccount, hNew]
      exact congrArg (fun st : SenderState => { st with enabled := true }) hl'
    | some st =>
      obtain ⟨l, hl⟩ := listMessage_eq st p.rxKey
      have hOn : st.enabled = true := h p.rxKey.dip st hst
      have hOld : s.getOrCreateSenderState p.rxKey = { st with msgStates := l } := by
        unfold getOrCreateSenderState
        rw [hst, ← hl]
        rfl
      obtain ⟨l', hl'⟩ := listMessage_eq { st with msgStates := l } p.rxKey
      refine ⟨l', Or.inl ⟨st, rfl, ?_⟩⟩
      rw [hAccount, hOld, if_neg (by simp [hOn]), hl']
      simp only
      rw [← hOn]

theorem accountOf_enabled (s : CbReceiver) (p : CbPacket) :
    (s.accountOf cfg p).sender.enabled = true := rfl

/-- Every step leaves all senders enabled. -/
theorem Enabled.step {s t : CbReceiver} (h : s.Enabled) (hListed : s.Listed) {e : Event}
    (hStep : s.step cfg e = some t) : t.Enabled := by
  intro addr st hst
  cases senderAfter_step hStep hst with
  | kept _ _ hOld => exact h addr st hOld
  | data p l hData hAddr =>
    rcases Account.receiveData_settings cfg (s.accountOf cfg p) p with hSame | hSame
    · exact hSame.enabled
    · exact hSame.enabled.trans (SenderState.updateAimdOnData_enabled _ _ _ _)
  | request p hRequest hAddr =>
    rcases Account.countRequest_settings cfg (s.accountOf cfg p) p with hSame | hSame
    · exact hSame.enabled
    · exact hSame.enabled.trans (SenderState.updateAimdOnData_enabled _ _ _ _)
  | bounced p q hBounced hq hAddr => rfl
  | granted order c data wire st q hTry hAddr hOld => exact h addr st hOld
  | touched k q hq hRunning hAddr =>
    obtain ⟨st', hst'⟩ := hListed.entry_of_running hq hRunning
    obtain ⟨l, hl⟩ := listMessage_eq st' k
    unfold getOrCreateSenderState
    rw [hst', Option.getD_some, hl]
    exact h k.dip st' hst'

theorem enabled_init : ({} : CbReceiver).Enabled :=
  fun _ _ hst => absurd hst (Table.get?_empty_ne _ _)

end CbReceiver

end Dpdq.Ns3
