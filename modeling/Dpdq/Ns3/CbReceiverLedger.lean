import Dpdq.Ns3.CbReceiverStep

/-!
# The global credit ledger of the receiver

`m_creditbouncer_globalOutstanding_bytes` is meant to be the sum of `m_OutstandingBytes` over the
senders. `step_balanced_iff` says which steps keep the two equal. Announcements, grants and bounced
credits do. A data packet does not when the clamp of its sender's counter cuts something off that
the global counter still has, or when its message is the last of a sender and the sender leaves
with outstanding credit on its account.
-/

namespace Dpdq.Ns3

open Dpdq.Lib

variable {cfg : CbConfig}

/-! ## Accounts -/

namespace Account

/-- The global counter is the sender's counter and the `rest` of the other senders. -/
def Balanced (a : Account) (rest : Nat) : Prop :=
  a.globalOutstandingBytes = a.sender.outstandingBytes + rest

/-- The wire credit that a data packet reclaims. -/
def reclaimedWire (cfg : CbConfig) (a : Account) (p : CbPacket) : Nat :=
  if a.msg.firstSeenChunk cfg p.ch.seq then (a.creditUsed cfg p.payloadSize).2 else 0

theorem Balanced.updateAimd {a : Account} {rest : Nat} (h : a.Balanced rest) (p : CbPacket)
    (priorityFlow : Bool) : (a.updateAimd cfg p priorityFlow).Balanced rest := by
  unfold Balanced Account.updateAimd
  rw [(SenderState.updateAimdOnData_ledger cfg a.sender _ _ _).1]
  exact h

/-- An announcement adds its self-allocated credit to both counters. -/
theorem Balanced.applyNewAnnouncement {a : Account} {rest : Nat} (h : a.Balanced rest)
    {tag : CreditBouncerTag} (hFits : a.globalOutstandingBytes + tag.unsolCreditBytes < 2 ^ 64) :
    (a.applyNewAnnouncement cfg tag).Balanced rest := by
  unfold Balanced at h
  unfold Account.applyNewAnnouncement
  split
  · simp only
    split
    · have hGlobal : saturatingAdd a.globalOutstandingBytes tag.unsolCreditBytes =
          a.globalOutstandingBytes + tag.unsolCreditBytes := saturatingAdd_of_lt hFits
      have hSender : saturatingAdd a.sender.outstandingBytes tag.unsolCreditBytes =
          a.sender.outstandingBytes + tag.unsolCreditBytes := saturatingAdd_of_lt (by omega)
      simp only [Balanced, accountSelfAlloc, accountDemand, hGlobal, hSender]
      omega
    · exact h
  · exact h

theorem Balanced.countArrival {a : Account} {rest : Nat} (h : a.Balanced rest) {p : CbPacket}
    (hFits : a.globalOutstandingBytes + p.tag.unsolCreditBytes < 2 ^ 64) :
    (a.countArrival cfg p).Balanced rest := by
  unfold Account.countArrival
  simp only
  split
  · exact (h.updateAimd p _).applyNewAnnouncement hFits
  · exact h.applyNewAnnouncement hFits

theorem Balanced.countRequest {a : Account} {rest : Nat} (h : a.Balanced rest) {p : CbPacket}
    (hFits : a.globalOutstandingBytes + p.tag.unsolCreditBytes < 2 ^ 64) :
    (a.countRequest cfg p).Balanced rest := by
  unfold Account.countRequest
  simp only
  split
  · exact (h.updateAimd p _).applyNewAnnouncement hFits
  · exact h.applyNewAnnouncement hFits

/-- A chunk takes the reclaimed credit off both counters, as far as each of them goes. -/
theorem receiveData_ledger (cfg : CbConfig) (a : Account) (p : CbPacket) :
    (a.receiveData cfg p).sender.outstandingBytes =
        (a.countArrival cfg p).sender.outstandingBytes -
          (a.countArrival cfg p).reclaimedWire cfg p ∧
      (a.receiveData cfg p).globalOutstandingBytes =
        (a.countArrival cfg p).globalOutstandingBytes -
          (a.countArrival cfg p).reclaimedWire cfg p ∧
      (a.receiveData cfg p).sender.msgStates = (a.countArrival cfg p).sender.msgStates := by
  unfold receiveData receiveChunk reclaimedWire
  simp only
  split
  · exact ⟨rfl, rfl, rfl⟩
  · exact ⟨rfl, rfl, rfl⟩

/-- The two clamps agree unless only the sender's one takes effect. -/
theorem balanced_receiveData_iff (cfg : CbConfig) {a : Account} {p : CbPacket} {rest : Nat}
    (h : (a.countArrival cfg p).Balanced rest) :
    (a.receiveData cfg p).Balanced rest ↔
      (a.countArrival cfg p).reclaimedWire cfg p ≤ (a.countArrival cfg p).sender.outstandingBytes ∨
        rest = 0 := by
  obtain ⟨hSender, hGlobal, -⟩ := receiveData_ledger cfg a p
  unfold Balanced at h ⊢
  omega

theorem Balanced.bounce {a : Account} {rest : Nat} (h : a.Balanced rest) (tag : CreditBouncerTag) :
    (a.bounce tag).Balanced rest := by
  unfold Balanced at h ⊢
  simp only [Account.bounce, SenderState.refundSrpb]
  omega

theorem Balanced.grant {a : Account} {rest : Nat} (h : a.Balanced rest) (askData askWire : Nat)
    (hFits : a.globalOutstandingBytes + askWire < 2 ^ 64) :
    (a.grant askData askWire).Balanced rest := by
  unfold Balanced at h ⊢
  simp only [Account.grant]
  rw [addU64_of_lt hFits, addU64_of_lt (by omega)]
  omega

end Account

/-! ## Steps -/

namespace CbReceiver

/-- The global ledger agrees with the ledgers of the senders. -/
def Balanced (s : CbReceiver) : Prop :=
  s.globalOutstandingBytes = s.senderStates.total SenderState.outstandingBytes

/-- The outstanding credit of the senders other than the one of a message. -/
def othersOutstanding (s : CbReceiver) (k : RxKey) : Nat :=
  s.senderStates.others k.dip SenderState.outstandingBytes

theorem Balanced.openAccount {s : CbReceiver} (h : s.Balanced) (k : RxKey) (q : RxQueuePair) :
    (s.openAccount k q).Balanced (s.othersOutstanding k) := by
  unfold CbReceiver.Balanced at h
  unfold Account.Balanced CbReceiver.openAccount getOrCreateSenderState othersOutstanding
  rw [h, s.senderStates.total_eq k.dip]
  cases s.senderStates.get? k.dip with
  | none => simp
  | some st => simp

theorem balanced_post_iff (s : CbReceiver) (k : RxKey) (a : Account) :
    (s.post k a).Balanced ↔ a.Balanced (s.othersOutstanding k) := by
  unfold CbReceiver.Balanced Account.Balanced post othersOutstanding
  rw [Table.total_set]

theorem balanced_scheduleGrantTickFor_iff (s : CbReceiver) (st : SenderState) :
    (s.scheduleGrantTickFor st).Balanced ↔ s.Balanced := by
  obtain ⟨running, hEq⟩ := s.scheduleGrantTickFor_eq st
  rw [hEq]
  exact Iff.rfl

theorem Balanced.getRxQp {s : CbReceiver} (h : s.Balanced) (p : CbPacket) :
    (s.getRxQp cfg p).1.Balanced := by
  rcases getRxQp_cases cfg s p with ⟨q, -, hEq⟩ | ⟨-, st, hOut, -, -, hEq⟩
  · rw [hEq]
    exact h
  · rw [hEq]
    unfold CbReceiver.Balanced at h ⊢
    simp only
    rw [h]
    symm
    apply Table.total_set_of_eq
    rw [hOut]
    unfold getOrCreateSenderState
    cases s.senderStates.get? p.rxKey.dip <;> simp

/-- Cleaning up after a completion keeps the ledgers equal, unless it erases the sender together
with outstanding credit. -/
theorem balanced_cleanupSenderState_iff (s : CbReceiver) (k : RxKey) (a : Account) :
    ((s.post k a).cleanupSenderState k).Balanced ↔
      if ∀ l ∈ a.sender.msgStates, l = k then
        a.globalOutstandingBytes = s.othersOutstanding k
      else a.Balanced (s.othersOutstanding k) := by
  have hGet : (s.post k a).senderStates.get? k.dip = some a.sender := Table.get?_set_self _ _ _
  have hLast : a.sender.msgStates.filter (· ≠ k) = [] ↔ ∀ l ∈ a.sender.msgStates, l = k := by
    simp [List.filter_eq_nil_iff]
  unfold cleanupSenderState
  simp only [hGet, hLast]
  split
  · unfold CbReceiver.Balanced othersOutstanding post
    rw [Table.total_erase, Table.others_set]
  · unfold CbReceiver.Balanced Account.Balanced othersOutstanding post
    rw [Table.total_set, Table.others_set]

theorem Balanced.accountOf {s : CbReceiver} (h : s.Balanced) (p : CbPacket) :
    (s.accountOf cfg p).Balanced ((s.getRxQp cfg p).1.othersOutstanding p.rxKey) :=
  (h.getRxQp p).openAccount p.rxKey _

theorem othersOutstanding_getRxQp (cfg : CbConfig) (s : CbReceiver) (p : CbPacket) :
    (s.getRxQp cfg p).1.othersOutstanding p.rxKey = s.othersOutstanding p.rxKey := by
  rcases getRxQp_cases cfg s p with ⟨q, -, hEq⟩ | ⟨-, st, -, -, -, hEq⟩
  · rw [hEq]
  · rw [hEq]
    exact Table.others_set _ _ _ _

theorem accountOf_globalOutstandingBytes (s : CbReceiver) (p : CbPacket) :
    (s.accountOf cfg p).globalOutstandingBytes = s.globalOutstandingBytes := by
  unfold accountOf openAccount
  rcases getRxQp_cases cfg s p with ⟨q, -, hEq⟩ | ⟨-, st, -, -, -, hEq⟩
  · rw [hEq]
  · rw [hEq]

/-- What a data packet must meet to keep the ledgers equal. The reclaim is covered by the sender's
counter, or no other sender has outstanding credit; and a completion that erases the sender leaves
no outstanding credit behind. -/
structure DataSettles (cfg : CbConfig) (s : CbReceiver) (p : CbPacket) : Prop where
  covered :
    ((s.accountOf cfg p).countArrival cfg p).reclaimedWire cfg p ≤
        ((s.accountOf cfg p).countArrival cfg p).sender.outstandingBytes ∨
      s.othersOutstanding p.rxKey = 0
  residue :
    ((s.accountOf cfg p).receiveData cfg p).msg.completes →
      (∀ l ∈ ((s.accountOf cfg p).countArrival cfg p).sender.msgStates, l = p.rxKey) →
      ((s.accountOf cfg p).countArrival cfg p).sender.outstandingBytes ≤
        ((s.accountOf cfg p).countArrival cfg p).reclaimedWire cfg p

instance (cfg : CbConfig) (s : CbReceiver) (p : CbPacket) : Decidable (DataSettles cfg s p) :=
  decidable_of_iff (_ ∧ _) ⟨fun h => ⟨h.1, h.2⟩, fun h => ⟨h.covered, h.residue⟩⟩

/-- A data packet keeps the ledgers equal in exactly these cases. -/
theorem Balanced.receiveRequestData_iff {s : CbReceiver} (h : s.Balanced) {p : CbPacket}
    (hFits : s.globalOutstandingBytes + p.tag.unsolCreditBytes < 2 ^ 64) :
    (s.receiveRequestData cfg p).1.Balanced ↔ DataSettles cfg s p := by
  have hOpen : (s.accountOf cfg p).Balanced (s.othersOutstanding p.rxKey) := by
    rw [← othersOutstanding_getRxQp cfg]
    exact h.accountOf p
  have hArrival : ((s.accountOf cfg p).countArrival cfg p).Balanced
      (s.othersOutstanding p.rxKey) := by
    apply hOpen.countArrival
    rw [accountOf_globalOutstandingBytes]
    exact hFits
  have hChunk := Account.balanced_receiveData_iff cfg hArrival
  obtain ⟨-, hGlobal, hMsgStates⟩ := Account.receiveData_ledger cfg (s.accountOf cfg p) p
  have hResult : (s.receiveRequestData cfg p).1.Balanced ↔
      ((s.getRxQp cfg p).1.postData p.rxKey ((s.accountOf cfg p).receiveData cfg p)).Balanced :=
    balanced_scheduleGrantTickFor_iff _ _
  rw [hResult]
  unfold postData
  split
  · rename_i hCompletes
    rw [balanced_cleanupSenderState_iff, othersOutstanding_getRxQp]
    simp only
    split
    · rename_i hLast
      rw [hMsgStates] at hLast
      rw [hGlobal]
      unfold Account.Balanced at hArrival
      constructor
      · intro hErased
        exact ⟨by omega, fun _ _ => by omega⟩
      · intro hSettles
        have hCovered := hSettles.covered
        have hResidue := hSettles.residue hCompletes hLast
        omega
    · rename_i hLast
      rw [hMsgStates] at hLast
      constructor
      · intro hPosted
        exact ⟨hChunk.mp hPosted, fun _ hOnly => absurd hOnly hLast⟩
      · intro hSettles
        exact hChunk.mpr hSettles.covered
  · rename_i hCompletes
    rw [balanced_post_iff, othersOutstanding_getRxQp]
    constructor
    · intro hPosted
      exact ⟨hChunk.mp hPosted, fun hDone => absurd hDone hCompletes⟩
    · intro hSettles
      exact hChunk.mpr hSettles.covered

theorem Balanced.receiveRequest {s : CbReceiver} (h : s.Balanced) {p : CbPacket}
    (hFits : s.globalOutstandingBytes + p.tag.unsolCreditBytes < 2 ^ 64) :
    (s.receiveRequest cfg p).Balanced := by
  have hOpen : (s.accountOf cfg p).Balanced ((s.getRxQp cfg p).1.othersOutstanding p.rxKey) :=
    h.accountOf p
  apply (balanced_scheduleGrantTickFor_iff _ _).mpr
  apply (balanced_post_iff _ _ _).mpr
  apply hOpen.countRequest
  rw [accountOf_globalOutstandingBytes]
  exact hFits

theorem Balanced.receiveBouncedCredit {s : CbReceiver} (h : s.Balanced) (p : CbPacket) :
    (s.receiveBouncedCredit p).Balanced := by
  unfold CbReceiver.receiveBouncedCredit
  cases hq : s.rxQpMap p.rxKey with
  | none =>
    simp only [hq]
    exact h
  | some q =>
    simp only [hq]
    apply (balanced_scheduleGrantTickFor_iff _ _).mpr
    apply (balanced_post_iff _ _ _).mpr
    exact (h.openAccount p.rxKey q).bounce p.tag

/-! ### Timers -/

theorem Balanced.tryIssueCreditGrant {s : CbReceiver} (h : s.Balanced)
    (hFits : ∀ addr ∈ s.senderStates.keys,
      s.globalOutstandingBytes + (s.senderStates.val addr).srpbBytes < 2 ^ 64) (order : List Nat) :
    (s.tryIssueCreditGrant cfg order).1.Balanced := by
  rcases tryIssueCreditGrant_cases cfg s order with
    ⟨cursor, hEq⟩ | ⟨c, -, data, wire, st, q, cursor, hTry, hst, -, hEq⟩
  · rw [hEq]
    exact h
  · rw [hEq]
    obtain ⟨-, st', hst', -, -, -, hSrpb⟩ := trySelectCandidate_spec hTry
    obtain rfl := Option.some.inj (hst.symm.trans hst')
    have hOpen : Account.Balanced ⟨st, q, s.globalOutstandingBytes⟩
        (s.senderStates.others c.senderAddr SenderState.outstandingBytes) := by
      unfold CbReceiver.Balanced at h
      unfold Account.Balanced
      rw [h, s.senderStates.total_eq c.senderAddr, hst]
      rfl
    obtain ⟨hMem, rfl⟩ := Table.get?_eq_some.mp hst
    have hRoom := hFits c.senderAddr hMem
    have hGranted := hOpen.grant data wire (by simp only; omega)
    unfold CbReceiver.Balanced granted
    rw [Table.total_set]
    exact hGranted

theorem Balanced.creditGrantTick {s : CbReceiver} (h : s.Balanced)
    (hFits : ∀ addr ∈ s.senderStates.keys,
      s.globalOutstandingBytes + (s.senderStates.val addr).srpbBytes < 2 ^ 64) (order : List Nat) :
    (s.creditGrantTick cfg order).1.Balanced := by
  unfold CbReceiver.creditGrantTick
  obtain ⟨running, hEq⟩ := scheduleGrantTick_eq
    (({ s with grantTickRunning := false } : CbReceiver).tryIssueCreditGrant cfg order).1
  simp only [hEq]
  exact Balanced.tryIssueCreditGrant (s := { s with grantTickRunning := false }) h hFits order

theorem total_getOrCreateSenderState (s : CbReceiver) (k : RxKey) :
    (s.senderStates.set k.dip (s.getOrCreateSenderState k)).total SenderState.outstandingBytes =
      s.senderStates.total SenderState.outstandingBytes := by
  apply Table.total_set_of_eq
  unfold getOrCreateSenderState
  cases s.senderStates.get? k.dip <;> simp

/-- No counter of the credit outstanding changes when a resend timer fires. -/
theorem outstanding_handleResendTimeout (cfg : CbConfig) (s : CbReceiver) (k : RxKey)
    (q : RxQueuePair) :
    (s.handleResendTimeout cfg k q).1.globalOutstandingBytes = s.globalOutstandingBytes ∧
      (s.handleResendTimeout cfg k q).1.senderStates.total SenderState.outstandingBytes =
        s.senderStates.total SenderState.outstandingBytes := by
  obtain ⟨q', -, hEq | hEq⟩ := handleResendTimeout_cases cfg s k q
  · rw [hEq]
    exact ⟨rfl, rfl⟩
  · rw [hEq]
    exact ⟨rfl, s.total_getOrCreateSenderState k⟩

theorem Balanced.handleResendTimeout {s : CbReceiver} (h : s.Balanced) (k : RxKey)
    (q : RxQueuePair) : (s.handleResendTimeout cfg k q).1.Balanced := by
  obtain ⟨hGlobal, hTotal⟩ := outstanding_handleResendTimeout cfg s k q
  unfold CbReceiver.Balanced
  rw [hGlobal, hTotal]
  exact h

/-! ## Runs -/

/-- No counter leaves the 64 bits: the announced credit fits, and so does any grant, which is never
more than the pair budget. -/
def Fits (s : CbReceiver) : Event → Prop
  | .arrive p => s.globalOutstandingBytes + p.tag.unsolCreditBytes < 2 ^ 64
  | .grantTick _ => ∀ addr ∈ s.senderStates.keys,
    s.globalOutstandingBytes + (s.senderStates.val addr).srpbBytes < 2 ^ 64
  | .resendTimeout _ => True

instance decidableFits (s : CbReceiver) (e : Event) : Decidable (s.Fits e) :=
  match e with
  | .arrive p =>
    inferInstanceAs (Decidable (s.globalOutstandingBytes + p.tag.unsolCreditBytes < 2 ^ 64))
  | .grantTick _ =>
    inferInstanceAs (Decidable (∀ addr ∈ s.senderStates.keys,
      s.globalOutstandingBytes + (s.senderStates.val addr).srpbBytes < 2 ^ 64))
  | .resendTimeout _ => isTrue trivial

/-- The condition on a step: it is about data packets only. -/
def Settles (cfg : CbConfig) (s : CbReceiver) : Event → Prop
  | .arrive p => p.tag.type = .request → p.ch.l3Prot = 0x11 → s.DataSettles cfg p
  | _ => True

instance decidableSettles (cfg : CbConfig) (s : CbReceiver) (e : Event) :
    Decidable (s.Settles cfg e) :=
  match e with
  | .arrive p =>
    inferInstanceAs (Decidable (p.tag.type = .request → p.ch.l3Prot = 0x11 → s.DataSettles cfg p))
  | .grantTick _ => isTrue trivial
  | .resendTimeout _ => isTrue trivial

/-- The steps that keep the ledgers equal are exactly those that settle. -/
theorem Balanced.step_iff {s t : CbReceiver} (h : s.Balanced) {e : Event} (hFits : s.Fits e)
    (hStep : s.step cfg e = some t) : t.Balanced ↔ s.Settles cfg e := by
  cases e with
  | arrive p =>
    obtain rfl := Option.some.inj hStep
    unfold CbReceiver.receive Settles
    split
    · rename_i hType
      split
      · rename_i hUdp
        rw [h.receiveRequestData_iff hFits]
        exact ⟨fun hSettles _ _ => hSettles, fun hSettles => hSettles hType hUdp⟩
      · rename_i hUdp
        have hSettles : p.tag.type = .request → p.ch.l3Prot = 0x11 → s.DataSettles cfg p :=
          fun _ hData => absurd hData hUdp
        split
        · exact iff_of_true (h.receiveRequest hFits) hSettles
        · exact iff_of_true h hSettles
    · rename_i hType
      refine iff_of_true (h.receiveRequest hFits) fun hRequest => ?_
      rw [hType] at hRequest
      cases hRequest
    · rename_i hType
      refine iff_of_true (h.receiveBouncedCredit p) fun hRequest => ?_
      rw [hType] at hRequest
      cases hRequest
    · rename_i hRequest _ _
      exact iff_of_true h fun hType => absurd hType hRequest
  | grantTick order =>
    obtain ⟨-, rfl⟩ := Machine.of_guarded hStep
    exact iff_of_true (h.creditGrantTick hFits order) trivial
  | resendTimeout k =>
    obtain ⟨q, -, -, rfl⟩ := resendTimeout_eq_some hStep
    exact iff_of_true (h.handleResendTimeout k q) trivial

end CbReceiver

/-- The global counter is the sum of the senders' counters in every state of a run exactly if all
its data packets settle; and then it is 0 when no sender has outstanding credit. -/
theorem global_credit_conservation_iff (cfg : CbConfig) (es : List CbReceiver.Event)
    (hRun : ((cbReceiver cfg).run {} es).isSome)
    (hFits : (cbReceiver cfg).Guarded CbReceiver.Fits {} es) :
    (cbReceiver cfg).Throughout (fun s =>
        s.globalOutstandingBytes = s.senderStates.total SenderState.outstandingBytes ∧
          ((∀ addr st, s.senderStates.get? addr = some st → st.outstandingBytes = 0) →
            s.globalOutstandingBytes = 0)) {} es ↔
      (cbReceiver cfg).Guarded (CbReceiver.Settles cfg) {} es := by
  have hEmpty (s : CbReceiver) (hBal : s.Balanced)
      (hNone : ∀ addr st, s.senderStates.get? addr = some st → st.outstandingBytes = 0) :
      s.globalOutstandingBytes = 0 := by
    rw [hBal]
    apply Finset.sum_eq_zero
    intro addr hAddr
    exact hNone addr _ (Table.get?_eq_some.mpr ⟨hAddr, rfl⟩)
  apply Machine.throughout_iff_guarded (J := fun _ => True)
    (fun _ _ _ _ _ _ => trivial) _ trivial
    ⟨rfl, fun _ => rfl⟩ hFits hRun
  intro s e t _ hs hSide hStep
  rw [← CbReceiver.Balanced.step_iff hs.1 hSide hStep]
  exact ⟨fun ht => ht.1, fun ht => ⟨ht, hEmpty t ht⟩⟩

/-- Two messages of 1004 and 1000 bytes from two senders, and one grant for each. -/
def twoSenders : List CbReceiver.Event :=
  [.grantReq 11 7 1004, .grantReq 12 7 1000, .grantTick [11, 12], .grantTick [11, 12]]

/-- The granted chunks arrive, the short one last. -/
theorem global_credit_conservation_iff_twoSenders :
    (cbReceiver { mtu := 1000, grantGranularityBytes := 1000 }).Throughout (fun s =>
        s.globalOutstandingBytes = s.senderStates.total SenderState.outstandingBytes ∧
          ((∀ addr st, s.senderStates.get? addr = some st → st.outstandingBytes = 0) →
            s.globalOutstandingBytes = 0)) {}
      (twoSenders ++ [.scheduledData 11 7 0 1000, .scheduledData 12 7 0 1000,
        .grantTick [11], .scheduledData 11 7 1000 4]) :=
  (global_credit_conservation_iff { mtu := 1000, grantGranularityBytes := 1000 } _
    (by decide +kernel) (by decide +kernel)).mpr (by decide +kernel)

/-- The short second chunk of the first message arrives before the first chunk. The two cost more
wire credit than was granted: the sender's counter ends at 0, the global counter has paid the
difference, and says 988 when 1068 are outstanding. -/
theorem global_credit_not_conserved :
    ∃ s, (cbReceiver { mtu := 1000, grantGranularityBytes := 1000 }).run {}
        (twoSenders ++ [.scheduledData 11 7 1000 4, .scheduledData 11 7 0 1000]) = some s ∧
      s.globalOutstandingBytes = 988 ∧
      s.senderStates.total SenderState.outstandingBytes = 1068 := by
  have hCounters : ((cbReceiver { mtu := 1000, grantGranularityBytes := 1000 }).run {}
      (twoSenders ++ [.scheduledData 11 7 1000 4, .scheduledData 11 7 0 1000])).map
        (fun s => (s.globalOutstandingBytes, s.senderStates.total SenderState.outstandingBytes)) =
      some (988, 1068) := by
    decide +kernel
  obtain ⟨s, hRun, hEq⟩ := Option.map_eq_some_iff.mp hCounters
  obtain ⟨hGlobal, hTotal⟩ := Prod.mk.inj hEq
  exact ⟨s, hRun, hGlobal, hTotal⟩

end Dpdq.Ns3
