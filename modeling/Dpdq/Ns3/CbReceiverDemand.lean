import Mathlib.Algebra.BigOperators.Group.List.Basic
import Dpdq.Ns3.CbReceiverListed

/-!
# The aggregate pending demand of a sender

`m_pendingDemandDataBytes` of a sender is meant to be the sum of `m_pendingDemandBytes` over its
listed messages. Announcements, grants and bounced credits change both sides alike. The sum alone
changes when a message with pending demand enters or leaves the list of a sender that stays:
`Tallied.step_iff` says that no other step breaks the equality, besides an announcement of more
self-allocated data than demand.
-/

namespace Dpdq.Ns3

open Dpdq.Lib

variable {cfg : CbConfig}

/-! ## Accounts -/

namespace Account

/-- The sender's demand is that of the message and the `rest` of its other messages. -/
def Tallied (a : Account) (rest : Nat) : Prop :=
  a.sender.pendingDemandDataBytes = a.msg.pendingDemandBytes + rest

/-- The demand that the announcement of a tag adds. -/
def newDemand (a : Account) (tag : CreditBouncerTag) : Nat :=
  if a.isNewAnnouncement tag then tag.creditReqBytes else 0

/-- The data that its self-allocated credit takes off again. -/
def newSelfAlloc (a : Account) (tag : CreditBouncerTag) : Nat :=
  if a.isNewAnnouncement tag then
    min tag.unsolCreditDataBytes (a.sender.pendingDemandDataBytes + tag.creditReqBytes)
  else 0

/-- No demand counter of the account leaves the 64 bits. -/
def DemandFits (a : Account) (tag : CreditBouncerTag) : Prop :=
  a.sender.pendingDemandDataBytes + tag.creditReqBytes + tag.creditBytes < 2 ^ 64 ∧
    a.msg.pendingDemandBytes + tag.creditReqBytes + tag.creditBytes < 2 ^ 64

/-- `b` has the demand of `a` with the announcement of a tag. -/
structure Announces (a : Account) (tag : CreditBouncerTag) (b : Account) : Prop where
  sender : b.sender.pendingDemandDataBytes =
    a.sender.pendingDemandDataBytes + a.newDemand tag - a.newSelfAlloc tag
  msg : b.msg.pendingDemandBytes = a.msg.pendingDemandBytes + a.newDemand tag - a.newSelfAlloc tag

theorem announces_applyNewAnnouncement (cfg : CbConfig) {a : Account} {tag : CreditBouncerTag}
    (hFits : a.DemandFits tag) : a.Announces tag (a.applyNewAnnouncement cfg tag) := by
  obtain ⟨hSender, hMsg⟩ := hFits
  have hSender' : saturatingAdd a.sender.pendingDemandDataBytes tag.creditReqBytes =
      a.sender.pendingDemandDataBytes + tag.creditReqBytes := saturatingAdd_of_lt (by omega)
  have hMsg' : saturatingAdd a.msg.pendingDemandBytes tag.creditReqBytes =
      a.msg.pendingDemandBytes + tag.creditReqBytes := saturatingAdd_of_lt (by omega)
  unfold applyNewAnnouncement
  by_cases hNew : a.isNewAnnouncement tag
  · rw [if_pos hNew]
    have hDemand : a.newDemand tag = tag.creditReqBytes := if_pos hNew
    have hSelf : a.newSelfAlloc tag =
        min tag.unsolCreditDataBytes (a.sender.pendingDemandDataBytes + tag.creditReqBytes) :=
      if_pos hNew
    simp only
    split
    · obtain ⟨running, hEq⟩ := RxQueuePair.scheduleResend_eq
        ((a.accountDemand cfg tag.creditReqBytes).accountSelfAlloc tag.unsolCreditBytes
          tag.unsolCreditDataBytes).msg
      rw [hEq]
      constructor
      · simp only [accountSelfAlloc, accountDemand, hSender', hDemand, hSelf]
      · simp only [accountSelfAlloc, accountDemand, RxQueuePair.announce, hSender', hMsg', hDemand,
          hSelf]
    · rename_i hNone
      have hZero : tag.unsolCreditDataBytes = 0 := by omega
      obtain ⟨running, hEq⟩ := RxQueuePair.scheduleResend_eq
        (a.accountDemand cfg tag.creditReqBytes).msg
      rw [hEq]
      rw [hZero, Nat.zero_min] at hSelf
      constructor
      · simp only [accountDemand, hSender', hDemand, hSelf, Nat.sub_zero]
      · simp only [accountDemand, RxQueuePair.announce, hMsg', hDemand, hSelf, Nat.sub_zero]
  · rw [if_neg hNew]
    have hDemand : a.newDemand tag = 0 := if_neg hNew
    have hSelf : a.newSelfAlloc tag = 0 := if_neg hNew
    constructor
    · rw [hDemand, hSelf, Nat.add_zero, Nat.sub_zero]
    · rw [hDemand, hSelf, Nat.add_zero, Nat.sub_zero]

/-- The marks of a packet change no demand. -/
theorem announces_updateAimd (cfg : CbConfig) {a : Account} {p : CbPacket} (hFits : a.DemandFits p.tag)
    (priorityFlow : Bool) :
    a.Announces p.tag ((a.updateAimd cfg p priorityFlow).applyNewAnnouncement cfg p.tag) := by
  have hSame : (a.updateAimd cfg p priorityFlow).sender.pendingDemandDataBytes =
      a.sender.pendingDemandDataBytes :=
    (SenderState.updateAimdOnData_ledger cfg a.sender _ _ _).2.1
  have hDemand : (a.updateAimd cfg p priorityFlow).newDemand p.tag = a.newDemand p.tag := rfl
  have hSelf : (a.updateAimd cfg p priorityFlow).newSelfAlloc p.tag = a.newSelfAlloc p.tag := by
    unfold newSelfAlloc
    rw [hSame]
    rfl
  have hMarked : (a.updateAimd cfg p priorityFlow).Announces p.tag
      ((a.updateAimd cfg p priorityFlow).applyNewAnnouncement cfg p.tag) := by
    apply announces_applyNewAnnouncement cfg
    unfold DemandFits
    rw [hSame]
    exact hFits
  constructor
  · rw [hMarked.sender, hSame, hDemand, hSelf]
  · rw [hMarked.msg, hDemand, hSelf]
    rfl

theorem announces_countArrival (cfg : CbConfig) {a : Account} {p : CbPacket}
    (hFits : a.DemandFits p.tag) :
    a.Announces p.tag (a.countArrival cfg p) := by
  unfold countArrival
  simp only
  split
  · exact announces_updateAimd cfg hFits _
  · exact announces_applyNewAnnouncement cfg hFits

theorem announces_countRequest (cfg : CbConfig) {a : Account} {p : CbPacket}
    (hFits : a.DemandFits p.tag) :
    a.Announces p.tag (a.countRequest cfg p) := by
  unfold countRequest
  simp only
  split
  · exact announces_updateAimd cfg hFits _
  · exact announces_applyNewAnnouncement cfg hFits

/-- The self-allocated data of a new announcement is demand of its own message. -/
def SelfAllocCovered (a : Account) (tag : CreditBouncerTag) : Prop :=
  a.newSelfAlloc tag ≤ a.msg.pendingDemandBytes + a.newDemand tag

instance (a : Account) (tag : CreditBouncerTag) : Decidable (a.SelfAllocCovered tag) :=
  inferInstanceAs (Decidable (_ ≤ _))

theorem newSelfAlloc_le (a : Account) (tag : CreditBouncerTag) :
    a.newSelfAlloc tag ≤ a.sender.pendingDemandDataBytes + a.newDemand tag := by
  unfold newSelfAlloc newDemand
  split
  · exact Nat.min_le_right _ _
  · exact Nat.zero_le _

/-- An announcement counts for the sender as it counts for the message if its self-allocated data
is covered. -/
theorem Announces.tallied_iff {a b : Account} {rest : Nat} {tag : CreditBouncerTag}
    (h : a.Announces tag b) (hOpen : a.isNewAnnouncement tag → a.Tallied rest) :
    b.Tallied rest ↔ a.Tallied rest ∧ a.SelfAllocCovered tag := by
  have hLe := a.newSelfAlloc_le tag
  unfold SelfAllocCovered
  by_cases hNew : a.isNewAnnouncement tag
  · have hTallied := hOpen hNew
    unfold Tallied at hTallied ⊢
    rw [h.sender, h.msg]
    omega
  · have hDemand : a.newDemand tag = 0 := if_neg hNew
    have hSelf : a.newSelfAlloc tag = 0 := if_neg hNew
    unfold Tallied
    rw [h.sender, h.msg, hDemand, hSelf]
    omega

/-- The same if the message is to leave the list: nothing of its demand may be left. -/
theorem Announces.left_iff {a b : Account} {rest : Nat} {tag : CreditBouncerTag}
    (h : a.Announces tag b) (hTallied : a.Tallied rest) :
    b.sender.pendingDemandDataBytes = rest ↔
      a.SelfAllocCovered tag ∧ b.msg.pendingDemandBytes = 0 := by
  have hLe := a.newSelfAlloc_le tag
  unfold SelfAllocCovered
  unfold Tallied at hTallied
  rw [h.sender, h.msg]
  omega

/-- A chunk changes no demand. -/
theorem receiveData_demand (cfg : CbConfig) (a : Account) (p : CbPacket) :
    (a.receiveData cfg p).sender.pendingDemandDataBytes =
        (a.countArrival cfg p).sender.pendingDemandDataBytes ∧
      (a.receiveData cfg p).msg.pendingDemandBytes =
        (a.countArrival cfg p).msg.pendingDemandBytes := by
  refine ⟨?_, (alike_receiveChunk cfg (a.countArrival cfg p) p).pendingDemandBytes⟩
  unfold receiveData receiveChunk
  simp only
  split
  · rfl
  · rfl

/-- A bounced credit returns demand to the sender and to the message. -/
theorem tallied_bounce_iff {a : Account} {rest : Nat} {tag : CreditBouncerTag}
    (hFits : a.DemandFits tag) : (a.bounce tag).Tallied rest ↔ a.Tallied rest := by
  obtain ⟨hSender, hMsg⟩ := hFits
  have hData : min (bouncedData tag) a.sender.outstandingDataBytes ≤ tag.creditBytes := by
    unfold bouncedData
    omega
  have hSender' := addU64_of_lt (a := a.sender.pendingDemandDataBytes)
    (b := min (bouncedData tag) a.sender.outstandingDataBytes) (by omega)
  have hMsg' := saturatingAdd_of_lt (a := a.msg.pendingDemandBytes)
    (b := min (bouncedData tag) a.sender.outstandingDataBytes) (by omega)
  simp only [Tallied, bounce, SenderState.refundSrpb, hSender', hMsg']
  omega

theorem Tallied.grant {a : Account} {rest : Nat} (h : a.Tallied rest) {askData : Nat}
    (hAsk : askData ≤ a.msg.pendingDemandBytes) (askWire : Nat) :
    (a.grant askData askWire).Tallied rest := by
  unfold Tallied at h ⊢
  simp only [Account.grant]
  omega

end Account

/-! ## Message lists -/

namespace CbReceiver

/-- The pending demand of the sender with an address. -/
def demandOf (s : CbReceiver) (addr : Nat) : Nat :=
  (s.senderStates.get? addr).elim 0 SenderState.pendingDemandDataBytes

/-- The pending demand of a message. -/
def pendingOf (s : CbReceiver) (k : RxKey) : Nat :=
  (s.rxQpMap k).elim 0 RxQueuePair.pendingDemandBytes

/-- The aggregates agree with the message lists. -/
def Tallied (s : CbReceiver) : Prop :=
  ∀ addr, s.demandOf addr = ((s.msgsOf addr).map s.pendingOf).sum

/-- The pending demand of the messages listed beside `k`. -/
def restDemand (s : CbReceiver) (k : RxKey) : Nat :=
  (((s.msgsOf k.dip).filter (· ≠ k)).map s.pendingOf).sum

theorem sum_filter_ne {l : List RxKey} (hNodup : l.Nodup) {k : RxKey} (hk : k ∈ l)
    (f : RxKey → Nat) : (l.map f).sum = f k + ((l.filter (· ≠ k)).map f).sum := by
  have hErase : l.erase k = l.filter (· ≠ k) := by
    rw [hNodup.erase_eq_filter]
    apply List.filter_congr
    intro l _
    by_cases hEq : l = k
    · simp [hEq]
    · simp [bne, hEq]
  rw [← List.sum_map_erase f hk, hErase]

theorem filter_listedWith (s : CbReceiver) (k : RxKey) :
    (s.listedWith k).filter (· ≠ k) = (s.msgsOf k.dip).filter (· ≠ k) := by
  unfold listedWith
  split
  · rfl
  · simp

/-- The demand of a sender is that of `k` and the others if `k` is listed, else that of the others. -/
theorem Tallied.demandOf_eq {s : CbReceiver} (h : s.Tallied) (hListed : s.Listed) (k : RxKey) :
    s.demandOf k.dip = (if k ∈ s.msgsOf k.dip then s.pendingOf k else 0) + s.restDemand k := by
  rw [h k.dip]
  unfold restDemand
  split
  · rename_i hk
    exact sum_filter_ne (hListed.nodup k.dip) hk s.pendingOf
  · rename_i hk
    have hSelf : (s.msgsOf k.dip).filter (· ≠ k) = s.msgsOf k.dip := by
      rw [List.filter_eq_self]
      intro l hl
      rw [decide_eq_true_eq]
      rintro rfl
      exact hk hl
    rw [hSelf, Nat.zero_add]

/-- After a store of `k`, with the list of its sender, the aggregates agree exactly if they agree
for the stored account. -/
theorem tallied_store_iff {s t : CbReceiver} (h : s.Tallied) (hListed : s.Listed) {k : RxKey}
    {q : RxQueuePair} (hMap : t.rxQpMap = Function.update s.rxQpMap k (some q))
    (hMsgs : ∀ addr, t.msgsOf addr = if addr = k.dip then s.listedWith k else s.msgsOf addr)
    (hOthers : ∀ addr, addr ≠ k.dip → t.demandOf addr = s.demandOf addr) :
    t.Tallied ↔ t.demandOf k.dip = q.pendingDemandBytes + s.restDemand k := by
  have hPending (l : RxKey) (hl : l ≠ k) : t.pendingOf l = s.pendingOf l := by
    unfold pendingOf
    rw [hMap, Function.update_of_ne hl]
  have hSelf : t.pendingOf k = q.pendingDemandBytes := by
    unfold pendingOf
    rw [hMap, Function.update_self]
    rfl
  have hRest : (((s.listedWith k).filter (· ≠ k)).map t.pendingOf).sum = s.restDemand k := by
    rw [filter_listedWith]
    unfold restDemand
    apply congrArg
    apply List.map_congr_left
    intro l hl
    apply hPending
    simpa using (List.mem_filter.mp hl).2
  have hSum : ((t.msgsOf k.dip).map t.pendingOf).sum =
      q.pendingDemandBytes + s.restDemand k := by
    rw [hMsgs, if_pos rfl, sum_filter_ne (hListed.nodup_listedWith k)
      (mem_listedWith.mpr (Or.inr rfl)), hSelf, hRest]
  constructor
  · intro hAll
    rw [hAll k.dip, hSum]
  · intro hOwn addr
    by_cases hAddr : addr = k.dip
    · rw [hAddr, hOwn, hSum]
    · rw [hOthers addr hAddr, h addr, hMsgs, if_neg hAddr]
      apply congrArg
      apply List.map_congr_left
      intro l hl
      symm
      apply hPending
      rintro rfl
      exact hAddr (hListed.known addr l hl).1.symm

theorem demandOf_set (s t : CbReceiver) {addr : Nat} {st : SenderState}
    (ht : t.senderStates = s.senderStates.set addr st) (other : Nat) :
    t.demandOf other = if other = addr then st.pendingDemandDataBytes else s.demandOf other := by
  unfold demandOf
  rw [ht]
  split
  · rename_i hEq
    rw [hEq, Table.get?_set_self]
    rfl
  · rename_i hNe
    rw [Table.get?_set_of_ne _ _ hNe]

theorem getOrCreateSenderState_demand (s : CbReceiver) (k : RxKey) :
    (s.getOrCreateSenderState k).pendingDemandDataBytes = s.demandOf k.dip := by
  unfold getOrCreateSenderState demandOf
  cases s.senderStates.get? k.dip with
  | none => simp
  | some st => simp

theorem Tallied.post_iff {s : CbReceiver} (h : s.Tallied) (hListed : s.Listed) {k : RxKey}
    {a : Account} (hMsgs : a.sender.msgStates = s.listedWith k) :
    (s.post k a).Tallied ↔ a.Tallied (s.restDemand k) := by
  have hDemand := demandOf_set s (s.post k a) rfl
  have hStore := tallied_store_iff (t := s.post k a) h hListed rfl
    (fun addr => by rw [msgsOf_set s (s.post k a) rfl, hMsgs])
    (fun addr hAddr => by rw [hDemand, if_neg hAddr])
  rw [hStore, hDemand, if_pos rfl]
  exact Iff.rfl

/-- The demand of a message that leaves its list has to be 0, unless its sender leaves with it. -/
theorem Tallied.cleanupSenderState_iff {s : CbReceiver} (h : s.Tallied) (hListed : s.Listed)
    {k : RxKey} {a : Account} (hMsgs : a.sender.msgStates = s.listedWith k) :
    ((s.post k a).cleanupSenderState k).Tallied ↔
      (∀ l ∈ s.listedWith k, l = k) ∨ a.sender.pendingDemandDataBytes = s.restDemand k := by
  have hPosted : (s.post k a).msgsOf k.dip = s.listedWith k := by
    rw [msgsOf_set s (s.post k a) rfl, if_pos rfl, hMsgs]
  have hLast : (s.listedWith k).filter (· ≠ k) = [] ↔ ∀ l ∈ s.listedWith k, l = k := by
    simp [List.filter_eq_nil_iff]
  have hPending (l : RxKey) (hl : l ≠ k) :
      ((s.post k a).cleanupSenderState k).pendingOf l = s.pendingOf l := by
    unfold pendingOf
    rw [cleanupSenderState_rxQpMap]
    simp only [post, Function.update_of_ne hl]
  have hGet : (s.post k a).senderStates.get? k.dip = some a.sender := Table.get?_set_self _ _ _
  have hDemand (addr : Nat) : ((s.post k a).cleanupSenderState k).demandOf addr =
      if addr = k.dip then
        if ∀ l ∈ s.listedWith k, l = k then 0 else a.sender.pendingDemandDataBytes
      else s.demandOf addr := by
    have hPost := demandOf_set s (s.post k a) rfl addr
    unfold CbReceiver.cleanupSenderState
    simp only [hGet, hMsgs, hLast]
    by_cases hOnly : ∀ l ∈ s.listedWith k, l = k
    · rw [if_pos hOnly, if_pos hOnly]
      unfold demandOf at hPost ⊢
      split
      · rename_i hEq
        rw [hEq, Table.get?_erase_self]
        rfl
      · rename_i hNe
        rw [if_neg hNe] at hPost
        rw [← hPost, Table.get?_erase_of_ne _ hNe]
    · rw [if_neg hOnly, if_neg hOnly]
      rw [demandOf_set (s.post k a) _ rfl]
      split
      · rfl
      · rename_i hNe
        rw [hPost, if_neg hNe]
  have hSum : ((((s.post k a).cleanupSenderState k).msgsOf k.dip).map
      ((s.post k a).cleanupSenderState k).pendingOf).sum = s.restDemand k := by
    rw [msgsOf_cleanupSenderState, if_pos rfl, hPosted, filter_listedWith]
    unfold restDemand
    apply congrArg
    apply List.map_congr_left
    intro l hl
    apply hPending
    simpa using (List.mem_filter.mp hl).2
  have hRest : (∀ l ∈ s.listedWith k, l = k) → s.restDemand k = 0 := by
    intro hOnly
    unfold restDemand
    rw [← filter_listedWith, hLast.mpr hOnly]
    rfl
  have hOthers (addr : Nat) (hAddr : addr ≠ k.dip) :
      ((s.post k a).cleanupSenderState k).demandOf addr =
        ((((s.post k a).cleanupSenderState k).msgsOf addr).map
          ((s.post k a).cleanupSenderState k).pendingOf).sum := by
    rw [hDemand, if_neg hAddr, msgsOf_cleanupSenderState, if_neg hAddr,
      msgsOf_set s (s.post k a) rfl, if_neg hAddr, h addr]
    apply congrArg
    apply List.map_congr_left
    intro l hl
    symm
    apply hPending
    rintro rfl
    exact hAddr (hListed.known addr l hl).1.symm
  constructor
  · intro hAll
    have hOwn := hAll k.dip
    rw [hDemand, if_pos rfl, hSum] at hOwn
    by_cases hOnly : ∀ l ∈ s.listedWith k, l = k
    · exact Or.inl hOnly
    · rw [if_neg hOnly] at hOwn
      exact Or.inr hOwn
  · intro hSide addr
    by_cases hAddr : addr = k.dip
    · rw [hAddr, hDemand, if_pos rfl, hSum]
      by_cases hOnly : ∀ l ∈ s.listedWith k, l = k
      · rw [if_pos hOnly, hRest hOnly]
      · rw [if_neg hOnly]
        exact hSide.resolve_left hOnly
    · exact hOthers addr hAddr

theorem tallied_scheduleGrantTickFor_iff (s : CbReceiver) (st : SenderState) :
    (s.scheduleGrantTickFor st).Tallied ↔ s.Tallied := by
  obtain ⟨running, hEq⟩ := s.scheduleGrantTickFor_eq st
  rw [hEq]
  exact Iff.rfl

/-! ## Arrivals -/

/-- The message of a packet is on the list of its sender, or no demand of it is pending. -/
def EntersEmpty (s : CbReceiver) (k : RxKey) : Prop := k ∈ s.msgsOf k.dip ∨ s.pendingOf k = 0

instance (s : CbReceiver) (k : RxKey) : Decidable (s.EntersEmpty k) :=
  inferInstanceAs (Decidable (_ ∨ _))

theorem Tallied.openAccount_iff {s : CbReceiver} (h : s.Tallied) (hListed : s.Listed) {k : RxKey}
    {q : RxQueuePair} (hq : s.rxQpMap k = some q) :
    (s.openAccount k q).Tallied (s.restDemand k) ↔ s.EntersEmpty k := by
  have hPending : s.pendingOf k = q.pendingDemandBytes := by
    unfold pendingOf
    rw [hq]
    rfl
  have hSender : (s.openAccount k q).sender.pendingDemandDataBytes = s.demandOf k.dip :=
    s.getOrCreateSenderState_demand k
  have hDemand := h.demandOf_eq hListed k
  unfold Account.Tallied EntersEmpty
  rw [hSender, hDemand, hPending]
  show _ = q.pendingDemandBytes + s.restDemand k ↔ _
  split
  · rename_i hk
    exact iff_of_true rfl (Or.inl hk)
  · rename_i hk
    rw [or_iff_right hk]
    omega

theorem Tallied.getRxQp (cfg : CbConfig) {s : CbReceiver} (h : s.Tallied) (hListed : s.Listed)
    (p : CbPacket) :
    (s.getRxQp cfg p).1.Tallied := by
  rcases getRxQp_cases cfg s p with ⟨q, -, hEq⟩ | ⟨hNone, st, -, hPending, hMsgs, hEq⟩
  · rw [hEq]
    exact h
  · have hNew : p.rxKey ∉ s.msgsOf p.rxKey.dip := by
      intro hMem
      exact (hListed.known p.rxKey.dip p.rxKey hMem).2 hNone
    have hStates : (s.getRxQp cfg p).1.senderStates = s.senderStates.set p.rxKey.dip st := by
      rw [hEq]
    have hDemand := demandOf_set s (s.getRxQp cfg p).1 hStates
    have hOwn := h.demandOf_eq hListed p.rxKey
    rw [if_neg hNew] at hOwn
    refine (tallied_store_iff (q := p.newRxQp) (k := p.rxKey) h hListed (by rw [hEq]) ?_ ?_).mpr ?_
    · intro addr
      rw [msgsOf_set s (s.getRxQp cfg p).1 hStates, hMsgs, getOrCreateSenderState_msgStates]
    · intro addr hAddr
      rw [hDemand, if_neg hAddr]
    · rw [hDemand, if_pos rfl, hPending, getOrCreateSenderState_demand, hOwn]
      rfl

theorem entersEmpty_getRxQp_iff (cfg : CbConfig) (s : CbReceiver) (p : CbPacket) :
    (s.getRxQp cfg p).1.EntersEmpty p.rxKey ↔ s.EntersEmpty p.rxKey := by
  rcases getRxQp_cases cfg s p with ⟨q, -, hEq⟩ | ⟨hNone, st, -, -, -, hEq⟩
  · rw [hEq]
  · have hOld : s.pendingOf p.rxKey = 0 := by
      unfold pendingOf
      rw [hNone]
      rfl
    have hNew : (s.getRxQp cfg p).1.pendingOf p.rxKey = 0 := by
      unfold pendingOf
      rw [hEq]
      simp [CbPacket.newRxQp]
    exact iff_of_true (Or.inr hNew) (Or.inr hOld)

theorem listedWith_getRxQp (cfg : CbConfig) (s : CbReceiver) (p : CbPacket) :
    (s.getRxQp cfg p).1.listedWith p.rxKey = s.listedWith p.rxKey := by
  rcases getRxQp_cases cfg s p with ⟨q, -, hEq⟩ | ⟨-, st, -, -, hMsgs, hEq⟩
  · rw [hEq]
  · have hStates : (s.getRxQp cfg p).1.senderStates = s.senderStates.set p.rxKey.dip st := by
      rw [hEq]
    have hList : (s.getRxQp cfg p).1.msgsOf p.rxKey.dip = s.listedWith p.rxKey := by
      rw [msgsOf_set s (s.getRxQp cfg p).1 hStates, if_pos rfl, hMsgs,
        getOrCreateSenderState_msgStates]
    rw [listedWith_eq, hList]
    rw [hList]
    exact mem_listedWith.mpr (Or.inr rfl)

theorem accountOf_msgStates (cfg : CbConfig) (s : CbReceiver) (p : CbPacket) :
    (s.accountOf cfg p).sender.msgStates = (s.getRxQp cfg p).1.listedWith p.rxKey :=
  openAccount_msgStates _ _ _

theorem Tallied.accountOf_iff (cfg : CbConfig) {s : CbReceiver} (h : s.Tallied)
    (hListed : s.Listed) (p : CbPacket) :
    (s.accountOf cfg p).Tallied ((s.getRxQp cfg p).1.restDemand p.rxKey) ↔
      s.EntersEmpty p.rxKey := by
  rw [← entersEmpty_getRxQp_iff cfg]
  exact (h.getRxQp cfg hListed p).openAccount_iff (hListed.getRxQp cfg p) (getRxQp_lookup s p)

/-- An unfinished message is on its list. -/
theorem Listed.entersEmpty (cfg : CbConfig) {s : CbReceiver} (hListed : s.Listed) {p : CbPacket}
    (hOpen : (s.accountOf cfg p).msg.completionNotified = false) : s.EntersEmpty p.rxKey := by
  rw [← entersEmpty_getRxQp_iff cfg]
  exact Or.inl ((hListed.getRxQp cfg p).unfinished p.rxKey _ (getRxQp_lookup s p) hOpen)

theorem Listed.tallied_of_new (cfg : CbConfig) {s : CbReceiver} (hListed : s.Listed)
    (h : s.Tallied) {p : CbPacket}
    (hNew : (s.accountOf cfg p).isNewAnnouncement p.tag) :
    (s.accountOf cfg p).Tallied ((s.getRxQp cfg p).1.restDemand p.rxKey) := by
  rw [h.accountOf_iff cfg hListed]
  exact hListed.entersEmpty cfg (hListed.unfinished_of_new cfg hNew)

/-- What a data packet must meet to keep the aggregates. A message enters the list of its sender
without pending demand; its self-allocated data is covered; and it leaves the list without pending
demand, unless its sender is erased with it. -/
structure DataTallies (cfg : CbConfig) (s : CbReceiver) (p : CbPacket) : Prop where
  enters : s.EntersEmpty p.rxKey
  stays :
    ((s.accountOf cfg p).receiveData cfg p).msg.completes ∧
        (∀ l ∈ s.listedWith p.rxKey, l = p.rxKey) ∨
      (s.accountOf cfg p).SelfAllocCovered p.tag ∧
        (((s.accountOf cfg p).receiveData cfg p).msg.completes →
          ((s.accountOf cfg p).countArrival cfg p).msg.pendingDemandBytes = 0)

instance (cfg : CbConfig) (s : CbReceiver) (p : CbPacket) : Decidable (DataTallies cfg s p) :=
  decidable_of_iff (_ ∧ _) ⟨fun h => ⟨h.1, h.2⟩, fun h => ⟨h.enters, h.stays⟩⟩

/-- A message that completes was on the list of its sender. -/
theorem Listed.tallied_of_completes (cfg : CbConfig) {s : CbReceiver} (hListed : s.Listed)
    (h : s.Tallied) {p : CbPacket}
    (hCompletes : ((s.accountOf cfg p).receiveData cfg p).msg.completes) :
    (s.accountOf cfg p).Tallied ((s.getRxQp cfg p).1.restDemand p.rxKey) := by
  rw [h.accountOf_iff cfg hListed]
  exact hListed.entersEmpty cfg (hListed.unfinished_of_completes cfg hCompletes)

/-- A data packet keeps the aggregates in exactly these cases. -/
theorem Tallied.receiveRequestData_iff {s : CbReceiver} (h : s.Tallied) (hListed : s.Listed)
    {p : CbPacket} (hFits : (s.accountOf cfg p).DemandFits p.tag) :
    (s.receiveRequestData cfg p).1.Tallied ↔ DataTallies cfg s p := by
  have hRx := h.getRxQp cfg hListed p
  have hRxListed := hListed.getRxQp cfg p
  have hAnnounces := Account.announces_countArrival cfg hFits
  obtain ⟨hSender, hMsg⟩ := Account.receiveData_demand cfg (s.accountOf cfg p) p
  have hMsgs : ((s.accountOf cfg p).receiveData cfg p).sender.msgStates =
      (s.getRxQp cfg p).1.listedWith p.rxKey :=
    (Account.receiveData_msgStates _ p).trans (s.accountOf_msgStates cfg p)
  have hResult : (s.receiveRequestData cfg p).1.Tallied ↔
      ((s.getRxQp cfg p).1.postData p.rxKey ((s.accountOf cfg p).receiveData cfg p)).Tallied :=
    tallied_scheduleGrantTickFor_iff _ _
  rw [hResult]
  unfold postData
  by_cases hCompletes : ((s.accountOf cfg p).receiveData cfg p).msg.completes
  · have hTallied := hListed.tallied_of_completes cfg h hCompletes
    have hCleaned := hRx.cleanupSenderState_iff hRxListed (k := p.rxKey)
      (a := { (s.accountOf cfg p).receiveData cfg p with
        msg := ((s.accountOf cfg p).receiveData cfg p).msg.notifyCompletion }) hMsgs
    rw [if_pos hCompletes, hCleaned, hSender, hAnnounces.left_iff hTallied, listedWith_getRxQp]
    constructor
    · rintro (hLast | ⟨hCovered, hLeft⟩)
      · exact ⟨(h.accountOf_iff cfg hListed p).mp hTallied, Or.inl ⟨hCompletes, hLast⟩⟩
      · exact ⟨(h.accountOf_iff cfg hListed p).mp hTallied, Or.inr ⟨hCovered, fun _ => hLeft⟩⟩
    · rintro ⟨-, ⟨-, hLast⟩ | ⟨hCovered, hLeft⟩⟩
      · exact Or.inl hLast
      · exact Or.inr ⟨hCovered, hLeft hCompletes⟩
  · have hStored := hRx.post_iff hRxListed (k := p.rxKey)
      (a := { (s.accountOf cfg p).receiveData cfg p with
        msg := ((s.accountOf cfg p).receiveData cfg p).msg.scheduleResend }) hMsgs
    obtain ⟨running, hResend⟩ :=
      RxQueuePair.scheduleResend_eq ((s.accountOf cfg p).receiveData cfg p).msg
    have hCounters := hAnnounces.tallied_iff (hListed.tallied_of_new cfg h)
    unfold Account.Tallied at hStored hCounters
    rw [if_neg hCompletes, hStored, hResend]
    simp only
    rw [hSender, hMsg, hCounters]
    constructor
    · rintro ⟨hTallied, hCovered⟩
      exact ⟨(h.accountOf_iff cfg hListed p).mp hTallied,
        Or.inr ⟨hCovered, fun hDone => absurd hDone hCompletes⟩⟩
    · rintro ⟨hEnters, ⟨hDone, -⟩ | ⟨hCovered, -⟩⟩
      · exact absurd hDone hCompletes
      · exact ⟨(h.accountOf_iff cfg hListed p).mpr hEnters, hCovered⟩

theorem Tallied.receiveRequest_iff {s : CbReceiver} (h : s.Tallied) (hListed : s.Listed)
    {p : CbPacket} (hFits : (s.accountOf cfg p).DemandFits p.tag) :
    (s.receiveRequest cfg p).Tallied ↔
      s.EntersEmpty p.rxKey ∧ (s.accountOf cfg p).SelfAllocCovered p.tag := by
  have hMsgs : ((s.accountOf cfg p).countRequest cfg p).sender.msgStates =
      (s.getRxQp cfg p).1.listedWith p.rxKey :=
    (Account.countRequest_msgStates _ p).trans (s.accountOf_msgStates cfg p)
  have hResult : (s.receiveRequest cfg p).Tallied ↔
      ((s.getRxQp cfg p).1.post p.rxKey ((s.accountOf cfg p).countRequest cfg p)).Tallied :=
    tallied_scheduleGrantTickFor_iff _ _
  have hAnnounces := Account.announces_countRequest cfg hFits
  rw [hResult, (h.getRxQp cfg hListed p).post_iff (hListed.getRxQp cfg p) hMsgs,
    hAnnounces.tallied_iff (hListed.tallied_of_new cfg h), h.accountOf_iff cfg hListed]

theorem Tallied.receiveBouncedCredit_iff {s : CbReceiver} (h : s.Tallied) (hListed : s.Listed)
    {p : CbPacket} (hFits : (s.accountOf cfg p).DemandFits p.tag) :
    (s.receiveBouncedCredit p).Tallied ↔ s.EntersEmpty p.rxKey := by
  unfold receiveBouncedCredit
  cases hq : s.rxQpMap p.rxKey with
  | none =>
    simp only [hq]
    refine iff_of_true h (Or.inr ?_)
    unfold pendingOf
    rw [hq]
    rfl
  | some q =>
    have hAccount : s.accountOf cfg p = s.openAccount p.rxKey q := by
      unfold accountOf CbReceiver.getRxQp
      simp only [hq]
    rw [hAccount] at hFits
    obtain ⟨running, hResend⟩ :=
      RxQueuePair.scheduleResend_eq ((s.openAccount p.rxKey q).bounce p.tag).msg
    have hStored := h.post_iff hListed (k := p.rxKey)
      (a := { (s.openAccount p.rxKey q).bounce p.tag with
        msg := ((s.openAccount p.rxKey q).bounce p.tag).msg.scheduleResend })
      (openAccount_msgStates s p.rxKey q)
    simp only [hq]
    rw [tallied_scheduleGrantTickFor_iff, hStored, ← h.openAccount_iff hListed hq,
      ← Account.tallied_bounce_iff hFits, hResend]
    exact Iff.rfl

/-! ## Timers -/

theorem Tallied.tryIssueCreditGrant {s : CbReceiver} (h : s.Tallied) (hListed : s.Listed)
    (order : List Nat) : (s.tryIssueCreditGrant cfg order).1.Tallied := by
  rcases tryIssueCreditGrant_cases cfg s order with
    ⟨cursor, hEq⟩ | ⟨c, hc, data, wire, st, q, cursor, hTry, hst, hq, hEq⟩
  · rw [hEq]
    exact h
  · obtain ⟨hDip, hOnList⟩ := hListed.candidate hc
    obtain ⟨-, q', -, -, hq', hPending, -⟩ := mem_candidates hc
    obtain rfl := Option.some.inj (hq.symm.trans hq')
    obtain ⟨-, st', -, hData, -⟩ := trySelectCandidate_spec hTry
    have hAsk : data ≤ q.pendingDemandBytes := by
      rw [hData, ← hPending]
      exact cbAlignChunkPrefixBytes_le _ _ _
    have hOwn := h.demandOf_eq hListed c.key
    have hSender : s.demandOf c.key.dip = st.pendingDemandDataBytes := by
      unfold demandOf
      rw [hDip, hst]
      rfl
    have hMsg : s.pendingOf c.key = q.pendingDemandBytes := by
      unfold pendingOf
      rw [hq]
      rfl
    have hTallied : Account.Tallied ⟨st, q, s.globalOutstandingBytes⟩ (s.restDemand c.key) := by
      rw [if_pos hOnList, hSender, hMsg] at hOwn
      exact hOwn
    have hMsgs : s.msgsOf c.key.dip = st.msgStates := by
      unfold msgsOf
      rw [hDip, hst]
      rfl
    rw [hEq]
    refine (tallied_store_iff (k := c.key)
      (q := { q with pendingDemandBytes := q.pendingDemandBytes - data }) h hListed rfl ?_ ?_).mpr ?_
    · intro addr
      rw [msgsOf_set s _ rfl, listedWith_eq hOnList, hMsgs, hDip]
      rfl
    · intro addr hAddr
      rw [demandOf_set s _ rfl, if_neg (hDip ▸ hAddr)]
    · rw [demandOf_set s _ rfl, if_pos hDip]
      exact hTallied.grant hAsk wire

theorem Tallied.creditGrantTick {s : CbReceiver} (h : s.Tallied) (hListed : s.Listed)
    (order : List Nat) : (s.creditGrantTick cfg order).1.Tallied := by
  have hIdle : ({ s with grantTickRunning := false } : CbReceiver).Listed := hListed.congr rfl rfl
  obtain ⟨running, hEq⟩ := scheduleGrantTick_eq
    (({ s with grantTickRunning := false } : CbReceiver).tryIssueCreditGrant cfg order).1
  unfold CbReceiver.creditGrantTick
  simp only [hEq]
  exact Tallied.tryIssueCreditGrant (s := { s with grantTickRunning := false }) h hIdle order

theorem Tallied.handleResendTimeout {s : CbReceiver} (h : s.Tallied) (hListed : s.Listed)
    {k : RxKey} {q : RxQueuePair} (hq : s.rxQpMap k = some q) (hRunning : q.resendRunning = true) :
    (s.handleResendTimeout cfg k q).1.Tallied := by
  have hOnList : k ∈ s.msgsOf k.dip :=
    hListed.unfinished k q hq ((hListed.flags k q hq).resend hRunning)
  have hOwn : s.demandOf k.dip = q.pendingDemandBytes + s.restDemand k := by
    have hSum := h.demandOf_eq hListed k
    unfold pendingOf at hSum
    rw [if_pos hOnList, hq] at hSum
    exact hSum
  -- The entry of the sender is as before, whether it was written or not.
  have hStore (t : CbReceiver) (q' : RxQueuePair)
      (hStates : t.senderStates = s.senderStates ∨
        t.senderStates = s.senderStates.set k.dip (s.getOrCreateSenderState k))
      (hMap : t.rxQpMap = Function.update s.rxQpMap k (some q'))
      (hPending : q'.pendingDemandBytes = q.pendingDemandBytes) : t.Tallied := by
    have hDemand (addr : Nat) : t.demandOf addr = s.demandOf addr := by
      rcases hStates with hSame | hSet
      · unfold demandOf
        rw [hSame]
      · rw [demandOf_set s t hSet, getOrCreateSenderState_demand]
        split
        · rename_i hEq
          rw [hEq]
        · rfl
    refine (tallied_store_iff h hListed hMap ?_ fun addr _ => hDemand addr).mpr ?_
    · intro addr
      rcases hStates with hSame | hSet
      · unfold msgsOf
        rw [hSame]
        split
        · rename_i hEq
          rw [hEq]
          exact (listedWith_eq hOnList).symm
        · rfl
      · rw [msgsOf_set s t hSet, getOrCreateSenderState_msgStates]
    · rw [hDemand, hOwn, hPending]
  obtain ⟨q', hPending, hEq | hEq⟩ := handleResendTimeout_cases cfg s k q
  · rw [hEq]
    exact hStore _ q' (Or.inl rfl) rfl hPending
  · rw [hEq]
    exact hStore _ q' (Or.inr rfl) rfl hPending

/-! ## Runs -/

/-- No demand counter leaves the 64 bits. -/
def DemandFits (cfg : CbConfig) (s : CbReceiver) : Event → Prop
  | .arrive p => (s.accountOf cfg p).DemandFits p.tag
  | _ => True

instance decidableDemandFits (cfg : CbConfig) (s : CbReceiver) (e : Event) :
    Decidable (s.DemandFits cfg e) :=
  match e with
  | .arrive p =>
    inferInstanceAs (Decidable (
      (s.accountOf cfg p).sender.pendingDemandDataBytes + p.tag.creditReqBytes +
          p.tag.creditBytes < 2 ^ 64 ∧
        (s.accountOf cfg p).msg.pendingDemandBytes + p.tag.creditReqBytes +
          p.tag.creditBytes < 2 ^ 64))
  | .grantTick _ => isTrue trivial
  | .resendTimeout _ => isTrue trivial

/-- The condition on a step, by the branch of `receive` that takes the packet. -/
def DemandSettles (cfg : CbConfig) (s : CbReceiver) : Event → Prop
  | .arrive p =>
    match p.tag.type with
    | .request =>
      if p.ch.l3Prot = 0x11 then s.DataTallies cfg p
      else if p.ch.l3Prot = 0xFB then
        s.EntersEmpty p.rxKey ∧ (s.accountOf cfg p).SelfAllocCovered p.tag
      else True
    | .grantReq => s.EntersEmpty p.rxKey ∧ (s.accountOf cfg p).SelfAllocCovered p.tag
    | .bouncedCredit => s.EntersEmpty p.rxKey
    | _ => True
  | _ => True

instance decidableDemandSettles (cfg : CbConfig) (s : CbReceiver) (e : Event) :
    Decidable (s.DemandSettles cfg e) := by
  cases e with
  | arrive p =>
    unfold DemandSettles
    dsimp only
    split <;> infer_instance
  | grantTick order => exact isTrue trivial
  | resendTimeout k => exact isTrue trivial

/-- The steps that keep the aggregates are exactly those that settle. -/
theorem Tallied.step_iff {s t : CbReceiver} (h : s.Tallied) (hListed : s.Listed) {e : Event}
    (hFits : s.DemandFits cfg e) (hStep : s.step cfg e = some t) :
    t.Tallied ↔ s.DemandSettles cfg e := by
  cases e with
  | arrive p =>
    obtain rfl := Option.some.inj hStep
    unfold CbReceiver.receive DemandSettles
    cases hType : p.tag.type with
    | request =>
      simp only [hType]
      split
      · exact h.receiveRequestData_iff hListed hFits
      · split
        · exact h.receiveRequest_iff hListed hFits
        · exact iff_of_true h trivial
    | grantReq =>
      simp only [hType]
      exact h.receiveRequest_iff hListed hFits
    | bouncedCredit =>
      simp only [hType]
      exact h.receiveBouncedCredit_iff hListed hFits
    | none =>
      simp only [hType]
      exact iff_of_true h trivial
    | grant =>
      simp only [hType]
      exact iff_of_true h trivial
    | resend =>
      simp only [hType]
      exact iff_of_true h trivial
  | grantTick order =>
    obtain ⟨-, rfl⟩ := Machine.of_guarded hStep
    exact iff_of_true (h.creditGrantTick hListed order) trivial
  | resendTimeout k =>
    obtain ⟨q, hq, hRunning, rfl⟩ := resendTimeout_eq_some hStep
    exact iff_of_true (h.handleResendTimeout hListed hq hRunning) trivial

end CbReceiver

theorem tallied_iff (s : CbReceiver) :
    s.Tallied ↔ ∀ addr st, s.senderStates.get? addr = some st →
      st.pendingDemandDataBytes = (st.msgStates.map s.pendingOf).sum := by
  constructor
  · intro h addr st hst
    have hSum := h addr
    unfold CbReceiver.demandOf CbReceiver.msgsOf at hSum
    rw [hst] at hSum
    exact hSum
  · intro h addr
    unfold CbReceiver.demandOf CbReceiver.msgsOf
    cases hst : s.senderStates.get? addr with
    | none => rfl
    | some st => exact h addr st hst

/-- The pending demand of every sender is the sum over its listed messages in every state of a run,
exactly if all steps of the run settle. -/
theorem aggregate_pending_demand_iff (cfg : CbConfig) (es : List CbReceiver.Event)
    (hRun : ((cbReceiver cfg).run {} es).isSome)
    (hFits : (cbReceiver cfg).Guarded (CbReceiver.DemandFits cfg) {} es) :
    (cbReceiver cfg).Throughout (fun s => ∀ addr st, s.senderStates.get? addr = some st →
        st.pendingDemandDataBytes = (st.msgStates.map s.pendingOf).sum) {} es ↔
      (cbReceiver cfg).Guarded (CbReceiver.DemandSettles cfg) {} es := by
  have hInit : ({} : CbReceiver).Tallied := fun _ => rfl
  apply Machine.throughout_iff_guarded (J := CbReceiver.Listed)
    (fun _ _ _ h _ hStep => h.step hStep) _
    CbReceiver.listed_init ((tallied_iff _).mp hInit) hFits hRun
  intro s e t hListed hs hSide hStep
  rw [← tallied_iff]
  exact ((tallied_iff s).mpr hs).step_iff hListed hSide hStep

/-- Two announced messages of one sender, of one chunk each, and a grant for the first. -/
def twoMessages : List CbReceiver.Event :=
  [.grantReq 11 7 1000, .grantReq 11 8 1000, .grantTick [11]]

/-- The granted chunk arrives. -/
theorem aggregate_pending_demand_iff_twoMessages :
    (cbReceiver { mtu := 1000, grantGranularityBytes := 1000 }).Throughout
      (fun s => ∀ addr st, s.senderStates.get? addr = some st →
        st.pendingDemandDataBytes = (st.msgStates.map s.pendingOf).sum) {}
      (twoMessages ++ [.scheduledData 11 7 0 1000]) :=
  (aggregate_pending_demand_iff { mtu := 1000, grantGranularityBytes := 1000 } _
    (by decide +kernel) (by decide +kernel)).mpr (by decide +kernel)

/-- The grant is spent on the second message. It completes with its whole demand on the books, and
the aggregate keeps 1000 bytes that no listed message waits for. -/
theorem aggregate_pending_demand_kept :
    ∃ s, (cbReceiver { mtu := 1000, grantGranularityBytes := 1000 }).run {}
        (twoMessages ++ [.scheduledData 11 8 0 1000]) = some s ∧
      ∃ st, s.senderStates.get? 11 = some st ∧ st.pendingDemandDataBytes = 1000 ∧
        (st.msgStates.map s.pendingOf).sum = 0 := by
  have hDemand : ((cbReceiver { mtu := 1000, grantGranularityBytes := 1000 }).run {}
      (twoMessages ++ [.scheduledData 11 8 0 1000])).map
        (fun s => (s.senderStates.get? 11).map fun st =>
          (st.pendingDemandDataBytes, (st.msgStates.map s.pendingOf).sum)) =
      some (some (1000, 0)) := by
    decide +kernel
  obtain ⟨s, hRun, hSender⟩ := Option.map_eq_some_iff.mp hDemand
  obtain ⟨st, hst, hEq⟩ := Option.map_eq_some_iff.mp hSender
  obtain ⟨hPending, hSum⟩ := Prod.mk.inj hEq
  exact ⟨s, hRun, st, hst, hPending, hSum⟩

end Dpdq.Ns3
