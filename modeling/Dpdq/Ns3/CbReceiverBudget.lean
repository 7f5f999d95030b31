import Dpdq.Ns3.CbReceiverEntry

/-!
# The budget of a pair

What is left of a pair's budget and what is outstanding cover a given amount, up to the cap of the
pair (`SenderState.Funded`). Where that is the whole cap, the budget is back at the cap when nothing
is outstanding. Every operation keeps the amount covered, a cut of the cap included. A raise of the
cap does not give back what an earlier cut took from the budget: it keeps the cap covered only up to
the budget and the credit that is outstanding at that moment.
-/

namespace Dpdq.Ns3

open Dpdq.Lib

variable {cfg : CbConfig} {n : Nat}

/-! ## Senders -/

namespace SenderState

/-- The budget is within the cap, and the outstanding credit makes up for what it lacks of `n`
bytes or of the cap. The cap is a 64-bit number that a refund does not overflow. -/
structure Funded (n : Nat) (st : SenderState) : Prop where
  srpb_le : st.srpbBytes ≤ st.aimd.maxSrpbBytes
  covered : min n st.aimd.maxSrpbBytes ≤ st.srpbBytes + st.outstandingBytes
  fits : st.aimd.maxSrpbBytes < 2 ^ 63

/-- The ceiling is the configured one, or 0 for a sender that was not initialised. -/
structure Ceiled (cfg : CbConfig) (st : SenderState) : Prop where
  ceiling_le : st.aimd.srpbCeilingBytes ≤ cfg.maxSrpbBytes
  cap_le : st.aimd.maxSrpbBytes ≤ max 1 cfg.maxSrpbBytes

/-- Nothing is missing when nothing is outstanding. -/
theorem Funded.srpb_eq {st : SenderState} (h : st.Funded (2 ^ 63)) (hNone : st.outstandingBytes = 0) :
    st.srpbBytes = st.aimd.maxSrpbBytes := by
  have hCovered := h.covered
  have hLe := h.srpb_le
  have hFits := h.fits
  omega

/-- Only the budget, the outstanding credit and the cap matter. -/
theorem Funded.congr {st st' : SenderState} (h : st.Funded n) (hSrpb : st'.srpbBytes = st.srpbBytes)
    (hOutstanding : st'.outstandingBytes = st.outstandingBytes) (hAimd : st'.aimd = st.aimd) :
    st'.Funded n := by
  constructor
  · rw [hSrpb, hAimd]
    exact h.srpb_le
  · rw [hSrpb, hOutstanding, hAimd]
    exact h.covered
  · rw [hAimd]
    exact h.fits

/-- Credit that comes back moves from the outstanding side to the budget; what the budget cannot
take because of its cap is not needed. -/
theorem Funded.refund {st t : SenderState} {wire : Nat} (h : st.Funded n) (hWire : wire < 2 ^ 63)
    (hSrpb : t.srpbBytes = st.srpbBytes) (hAimd : t.aimd = st.aimd)
    (hOutstanding : t.outstandingBytes = st.outstandingBytes - wire) :
    (t.refundSrpb wire).Funded n := by
  obtain ⟨hLe, hCovered, hFits⟩ := h
  have hAdd : addU64 st.srpbBytes wire = st.srpbBytes + wire := addU64_of_lt (by omega)
  unfold refundSrpb
  rw [hSrpb, hAimd, hAdd]
  split
  · exact ⟨le_refl _, (min_le_right _ _).trans (Nat.le_add_right _ _), hFits⟩
  · rename_i hBelow
    refine ⟨Nat.le_of_not_lt hBelow, ?_, hFits⟩
    simp only
    omega

/-- Credit that is granted moves the other way. -/
theorem Funded.spend {st t : SenderState} (h : st.Funded n) (wire : Nat)
    (hSrpb : t.srpbBytes = st.srpbBytes - wire) (hAimd : t.aimd = st.aimd)
    (hOutstanding : min (st.outstandingBytes + wire) (2 ^ 63) ≤ t.outstandingBytes) :
    t.Funded n := by
  obtain ⟨hLe, hCovered, hFits⟩ := h
  constructor
  · rw [hSrpb, hAimd]
    omega
  · rw [hSrpb, hAimd]
    omega
  · rw [hAimd]
    exact hFits

/-- The controller takes the budget down with the cap. The cap is still covered unless it was
raised above what the pair has. -/
theorem Funded.updateAimdOnData {st : SenderState} (h : st.Funded n)
    {csnMarked ecnMarked priorityFlow : Bool}
    (hCap : min n (st.updateAimdOnData cfg csnMarked ecnMarked priorityFlow).aimd.maxSrpbBytes ≤
      st.srpbBytes + st.outstandingBytes)
    (hFits : (st.updateAimdOnData cfg csnMarked ecnMarked priorityFlow).aimd.maxSrpbBytes < 2 ^ 63) :
    (st.updateAimdOnData cfg csnMarked ecnMarked priorityFlow).Funded n := by
  unfold SenderState.updateAimdOnData at hCap hFits ⊢
  split
  · exact h
  · rename_i hOn
    rw [if_neg hOn] at hCap hFits
    refine ⟨min_le_right _ _, ?_, hFits⟩
    simp only at hCap ⊢
    omega

theorem updateAimdOnData_aimd (cfg : CbConfig) {st : SenderState} (hOn : st.enabled = true)
    (csnMarked ecnMarked priorityFlow : Bool) :
    (st.updateAimdOnData cfg csnMarked ecnMarked priorityFlow).aimd =
      st.aimd.onData cfg.ceNewWeight csnMarked ecnMarked priorityFlow := by
  unfold SenderState.updateAimdOnData
  split
  · rename_i hOff
    simp [hOn] at hOff
  · rfl

theorem Ceiled.congr {st st' : SenderState} (h : st.Ceiled cfg) (hAimd : st'.aimd = st.aimd) :
    st'.Ceiled cfg := by
  constructor
  · rw [hAimd]
    exact h.ceiling_le
  · rw [hAimd]
    exact h.cap_le

theorem Ceiled.updateAimdOnData {st : SenderState} (h : st.Ceiled cfg)
    (csnMarked ecnMarked priorityFlow : Bool) :
    (st.updateAimdOnData cfg csnMarked ecnMarked priorityFlow).Ceiled cfg := by
  obtain ⟨hCeiling, hCap⟩ := h
  unfold SenderState.updateAimdOnData
  split
  · exact ⟨hCeiling, hCap⟩
  · refine ⟨hCeiling, ?_⟩
    have hMin (limit : Nat) : max 1 (min (if st.aimd.srpbCeilingBytes > 0 then
        st.aimd.srpbCeilingBytes else max 1 st.aimd.maxSrpbBytes) limit) ≤
        max 1 cfg.maxSrpbBytes := by
      split
      · omega
      · omega
    exact hMin _

theorem funded_default : ({} : SenderState).Funded n := ⟨le_refl _, min_le_right _ _, by decide⟩

theorem funded_enable (hCfg : cfg.maxSrpbBytes < 2 ^ 63) :
    (({} : SenderState).enable cfg).Funded n :=
  ⟨le_refl _, (min_le_right _ _).trans (Nat.le_add_right _ _), hCfg⟩

theorem ceiled_default : ({} : SenderState).Ceiled cfg := ⟨Nat.zero_le _, Nat.zero_le _⟩

theorem ceiled_enable : (({} : SenderState).enable cfg).Ceiled cfg := ⟨le_refl _, le_max_right _ _⟩

end SenderState

/-! ## Accounts -/

namespace Account

theorem funded_applyNewAnnouncement (cfg : CbConfig) {a : Account} (h : a.sender.Funded n)
    (tag : CreditBouncerTag) : (a.applyNewAnnouncement cfg tag).sender.Funded n := by
  unfold applyNewAnnouncement
  split
  · simp only
    split
    · refine SenderState.Funded.spend (t := (accountSelfAlloc _ _ _).sender) h
        tag.unsolCreditBytes rfl rfl ?_
      show min _ _ ≤ saturatingAdd a.sender.outstandingBytes tag.unsolCreditBytes
      unfold saturatingAdd
      split
      · omega
      · exact min_le_left _ _
    · exact h.congr rfl rfl rfl
  · exact h

theorem funded_receiveChunk (cfg : CbConfig) {a : Account} (h : a.sender.Funded n) {p : CbPacket}
    (hSize : p.payloadSize < 2 ^ 32) : (a.receiveChunk cfg p).sender.Funded n := by
  have hWire : (a.creditUsed cfg p.payloadSize).2 < 2 ^ 63 := by
    have hOverhead := cbAddHeaderOverhead_le (min p.payloadSize a.sender.outstandingDataBytes)
      cfg.mtu true
    show cbAddHeaderOverhead _ _ _ < _
    omega
  unfold receiveChunk
  simp only
  split
  · exact h.refund (t := { a.sender with
      outstandingDataBytes := _, outstandingBytes := _ }) hWire rfl rfl rfl
  · exact h

theorem funded_bounce {a : Account} (h : a.sender.Funded n) {tag : CreditBouncerTag}
    (hCredit : tag.creditBytes < 2 ^ 32) : (a.bounce tag).sender.Funded n := by
  have hWire : min tag.creditBytes a.sender.outstandingBytes < 2 ^ 63 := by omega
  exact h.refund (t := { a.sender with
    outstandingBytes := _, outstandingDataBytes := _, pendingDemandDataBytes := _ })
    hWire rfl rfl rfl

theorem funded_grant {a : Account} (h : a.sender.Funded n) (askData : Nat) {askWire : Nat}
    (hSrpb : askWire ≤ a.sender.srpbBytes)
    (hFits : a.sender.outstandingBytes + a.sender.srpbBytes < 2 ^ 64) :
    (a.grant askData askWire).sender.Funded n := by
  refine SenderState.Funded.spend (t := (Account.grant _ _ _).sender) h askWire rfl rfl ?_
  show min _ _ ≤ addU64 a.sender.outstandingBytes askWire
  rw [addU64_of_lt (by omega)]
  exact min_le_left _ _

/-- The marks of a packet that does not raise the cap too far. -/
theorem funded_updateAimd (hCfg : cfg.maxSrpbBytes < 2 ^ 63) {a : Account} (h : a.sender.Funded n)
    (hCeiled : a.sender.Ceiled cfg) (hOn : a.sender.enabled = true) {p : CbPacket}
    {priorityFlow : Bool}
    (hCap : min n (a.sender.aimd.onData cfg.ceNewWeight (cfg.csnEnable && p.tag.csnMarked)
      (p.ch.ecnBits != 0) priorityFlow).maxSrpbBytes ≤
        a.sender.srpbBytes + a.sender.outstandingBytes) :
    (a.updateAimd cfg p priorityFlow).sender.Funded n := by
  apply h.updateAimdOnData
  · rw [SenderState.updateAimdOnData_aimd cfg hOn]
    exact hCap
  · have hLe := (hCeiled.updateAimdOnData (cfg.csnEnable && p.tag.csnMarked) (p.ch.ecnBits != 0)
      priorityFlow).cap_le
    omega

end Account

/-! ## Steps -/

namespace CbReceiver

/-- The packet makes the controller raise the cap above what the pair has, in budget and in
outstanding credit: an earlier cut took the rest, and this raise does not give it back. -/
def RaisesCap (cfg : CbConfig) (s : CbReceiver) : Event → Prop
  | .arrive p => cfg.ccEnable = true ∧
    (p.tag.type = .grantReq ∨ p.tag.type = .request ∧ p.ch.l3Prot = 0x11) ∧
    (s.accountOf cfg p).sender.srpbBytes + (s.accountOf cfg p).sender.outstandingBytes <
      ((s.accountOf cfg p).sender.aimd.onData cfg.ceNewWeight (cfg.csnEnable && p.tag.csnMarked)
        (p.ch.ecnBits != 0) (decide (p.tag.type = .request) && p.tag.priorityFlow)).maxSrpbBytes
  | _ => False

instance decidableRaisesCap (cfg : CbConfig) (s : CbReceiver) (e : Event) :
    Decidable (s.RaisesCap cfg e) :=
  match e with
  | .arrive _ => inferInstanceAs (Decidable (_ ∧ _ ∧ _))
  | .grantTick _ => isFalse id
  | .resendTimeout _ => isFalse id

/-- The 32-bit fields of a packet, and room for a grant in the 64-bit counter of its sender. -/
def FitsPair (s : CbReceiver) : Event → Prop
  | .arrive p => p.payloadSize < 2 ^ 32 ∧ p.tag.creditBytes < 2 ^ 32
  | .grantTick _ => ∀ addr ∈ s.senderStates.keys,
    (s.senderStates.val addr).outstandingBytes + (s.senderStates.val addr).srpbBytes < 2 ^ 64
  | .resendTimeout _ => True

instance decidableFitsPair (s : CbReceiver) (e : Event) : Decidable (s.FitsPair e) :=
  match e with
  | .arrive _ => inferInstanceAs (Decidable (_ ∧ _))
  | .grantTick _ => inferInstanceAs (Decidable (∀ addr ∈ s.senderStates.keys, _))
  | .resendTimeout _ => isTrue trivial

/-- What the pair has covers `n` bytes of the cap that a packet makes the controller set. -/
def CapCovered (n : Nat) (cfg : CbConfig) (s : CbReceiver) : Event → Prop
  | .arrive p => cfg.ccEnable = true →
    (p.tag.type = .grantReq ∨ p.tag.type = .request ∧ p.ch.l3Prot = 0x11) →
    min n ((s.accountOf cfg p).sender.aimd.onData cfg.ceNewWeight (cfg.csnEnable && p.tag.csnMarked)
      (p.ch.ecnBits != 0) (decide (p.tag.type = .request) && p.tag.priorityFlow)).maxSrpbBytes ≤
      (s.accountOf cfg p).sender.srpbBytes + (s.accountOf cfg p).sender.outstandingBytes
  | _ => True

theorem capCovered_of_not_raisesCap {s : CbReceiver} {e : Event} (h : ¬ s.RaisesCap cfg e) :
    s.CapCovered n cfg e := by
  cases e with
  | grantTick order => trivial
  | resendTimeout k => trivial
  | arrive p =>
    intro hCc hMarks
    apply (min_le_right _ _).trans
    apply Nat.le_of_not_lt
    intro hRaised
    exact h ⟨hCc, hMarks, hRaised⟩

/-- Every pair is funded, within the configured ceiling. -/
def PairsFunded (n : Nat) (cfg : CbConfig) (s : CbReceiver) : Prop :=
  ∀ addr st, s.senderStates.get? addr = some st → st.Funded n ∧ st.Ceiled cfg

theorem pairsFunded_init : ({} : CbReceiver).PairsFunded n cfg :=
  fun _ _ hst => absurd hst (Table.get?_empty_ne _ _)

theorem PairsFunded.openAccount {s : CbReceiver} (h : s.PairsFunded n cfg) (hOn : s.Enabled)
    (k : RxKey) (q : RxQueuePair) :
    (s.openAccount k q).sender.Funded n ∧ (s.openAccount k q).sender.Ceiled cfg := by
  obtain ⟨l, ⟨st, hst, hSender⟩ | ⟨-, hSender⟩⟩ := openAccount_sender_cases hOn k q
  · rw [hSender]
    obtain ⟨hFunded, hCeiled⟩ := h k.dip st hst
    exact ⟨hFunded.congr rfl rfl rfl, hCeiled.congr rfl⟩
  · rw [hSender]
    exact ⟨SenderState.funded_default.congr rfl rfl rfl, SenderState.ceiled_default.congr rfl⟩

theorem PairsFunded.accountOf (hCfg : cfg.maxSrpbBytes < 2 ^ 63) {s : CbReceiver}
    (h : s.PairsFunded n cfg) (hOn : s.Enabled) (p : CbPacket) :
    (s.accountOf cfg p).sender.Funded n ∧ (s.accountOf cfg p).sender.Ceiled cfg := by
  obtain ⟨l, ⟨st, hst, hSender⟩ | ⟨-, -, hSender⟩ | ⟨-, -, hSender⟩⟩ :=
    accountOf_sender_cases cfg hOn p
  · rw [hSender]
    obtain ⟨hFunded, hCeiled⟩ := h p.rxKey.dip st hst
    exact ⟨hFunded.congr rfl rfl rfl, hCeiled.congr rfl⟩
  · rw [hSender]
    exact ⟨(SenderState.funded_enable hCfg).congr rfl rfl rfl, SenderState.ceiled_enable.congr rfl⟩
  · rw [hSender]
    exact ⟨SenderState.funded_default.congr rfl rfl rfl, SenderState.ceiled_default.congr rfl⟩

theorem PairsFunded.receiveData (hCfg : cfg.maxSrpbBytes < 2 ^ 63) {s : CbReceiver}
    (h : s.PairsFunded n cfg) (hOn : s.Enabled) {p : CbPacket} (hData : IsData p)
    (hSize : p.payloadSize < 2 ^ 32) (hCap : s.CapCovered n cfg (.arrive p)) :
    ((s.accountOf cfg p).receiveData cfg p).sender.Funded n := by
  obtain ⟨hFunded, hCeiled⟩ := h.accountOf hCfg hOn p
  apply Account.funded_receiveChunk cfg _ hSize
  unfold Account.countArrival
  simp only
  apply Account.funded_applyNewAnnouncement
  split
  · rename_i hCc
    apply Account.funded_updateAimd hCfg hFunded hCeiled (accountOf_enabled s p)
    have hCovered := hCap hCc (Or.inr hData)
    rw [hData.1] at hCovered
    exact hCovered
  · exact hFunded

theorem PairsFunded.countRequest (hCfg : cfg.maxSrpbBytes < 2 ^ 63) {s : CbReceiver}
    (h : s.PairsFunded n cfg) (hOn : s.Enabled) {p : CbPacket}
    (hCap : s.CapCovered n cfg (.arrive p)) :
    ((s.accountOf cfg p).countRequest cfg p).sender.Funded n := by
  obtain ⟨hFunded, hCeiled⟩ := h.accountOf hCfg hOn p
  unfold Account.countRequest
  simp only
  apply Account.funded_applyNewAnnouncement
  split
  · rename_i hMarks
    apply Account.funded_updateAimd hCfg hFunded hCeiled (accountOf_enabled s p)
    have hCovered := hCap hMarks.2 (Or.inl hMarks.1)
    rw [hMarks.1] at hCovered
    exact hCovered
  · exact hFunded

/-- The ceilings are kept, whatever the marks do. -/
theorem PairsFunded.ceiled_step (hCfg : cfg.maxSrpbBytes < 2 ^ 63) {s t : CbReceiver}
    (h : s.PairsFunded n cfg) (hOn : s.Enabled) {e : Event}
    (hStep : s.step cfg e = some t) {addr : Nat} {st : SenderState}
    (hst : t.senderStates.get? addr = some st) : st.Ceiled cfg := by
  cases senderAfter_step hStep hst with
  | kept _ _ hOld => exact (h addr st hOld).2
  | data p l hData hAddr =>
    have hCeiled := (h.accountOf hCfg hOn p).2
    rcases Account.receiveData_settings cfg (s.accountOf cfg p) p with hSame | hSame
    · exact hCeiled.congr hSame.aimd
    · exact (hCeiled.updateAimdOnData _ _ _).congr hSame.aimd
  | request p hRequest hAddr =>
    have hCeiled := (h.accountOf hCfg hOn p).2
    rcases Account.countRequest_settings cfg (s.accountOf cfg p) p with hSame | hSame
    · exact hCeiled.congr hSame.aimd
    · exact (hCeiled.updateAimdOnData _ _ _).congr hSame.aimd
  | bounced p q hBounced hq hAddr => exact (h.openAccount hOn p.rxKey q).2.congr rfl
  | granted order c data wire st q hTry hAddr hOld => exact (h addr _ hOld).2.congr rfl
  | touched k q hq hRunning hAddr => exact (h.openAccount hOn k q).2.congr rfl

theorem PairsFunded.step (hCfg : cfg.maxSrpbBytes < 2 ^ 63) {s t : CbReceiver}
    (h : s.PairsFunded n cfg) (hOn : s.Enabled) {e : Event}
    (hFits : s.FitsPair e) (hCap : s.CapCovered n cfg e) (hStep : s.step cfg e = some t) :
    t.PairsFunded n cfg := by
  intro addr st hst
  refine ⟨?_, h.ceiled_step hCfg hOn hStep hst⟩
  cases senderAfter_step hStep hst with
  | kept _ _ hOld => exact (h addr st hOld).1
  | data p l hData hAddr => exact (h.receiveData hCfg hOn hData hFits.1 hCap).congr rfl rfl rfl
  | request p hRequest hAddr => exact h.countRequest hCfg hOn hCap
  | bounced p q hBounced hq hAddr =>
    exact Account.funded_bounce (h.openAccount hOn p.rxKey q).1 hFits.2
  | granted order c data wire st q hTry hAddr hOld =>
    obtain ⟨-, st', hst', -, -, -, hSrpb⟩ := trySelectCandidate_spec hTry
    rw [hAddr] at hst'
    obtain rfl := Option.some.inj (hOld.symm.trans hst')
    obtain ⟨hMem, rfl⟩ := Table.get?_eq_some.mp hOld
    exact Account.funded_grant (h addr _ hOld).1 data hSrpb (hFits addr hMem)
  | touched k q hq hRunning hAddr => exact (h.openAccount hOn k q).1.congr rfl rfl rfl

end CbReceiver

/-- In a run in which the controller never raises the cap of a pair above what the pair has, the
budget of a pair without outstanding credit is the cap. -/
theorem pair_budget_at_cap (cfg : CbConfig) (hCfg : cfg.maxSrpbBytes < 2 ^ 63)
    (es : List CbReceiver.Event) (s : CbReceiver) (hRun : (cbReceiver cfg).run {} es = some s)
    (hFits : (cbReceiver cfg).Guarded CbReceiver.FitsPair {} es)
    (hCap : (cbReceiver cfg).Guarded (fun s e => ¬ s.RaisesCap cfg e) {} es) :
    ∀ addr st, s.senderStates.get? addr = some st → st.outstandingBytes = 0 →
      st.srpbBytes = st.aimd.maxSrpbBytes := by
  have hInv : s.Enabled ∧ s.Listed ∧ s.PairsFunded (2 ^ 63) cfg := by
    refine Machine.guarded_induction
      (I := fun s : CbReceiver => s.Enabled ∧ s.Listed ∧ s.PairsFunded (2 ^ 63) cfg)
      ⟨CbReceiver.enabled_init, CbReceiver.listed_init, CbReceiver.pairsFunded_init⟩ ?_
      (hFits.and hCap) hRun
    rintro s e t ⟨hOn, hListed, hFunded⟩ ⟨hFits, hCap⟩ hStep
    exact ⟨hOn.step hListed hStep, hListed.step hStep,
      hFunded.step hCfg hOn hFits (CbReceiver.capCovered_of_not_raisesCap hCap) hStep⟩
  intro addr st hst hNone
  exact (hInv.2.2 addr st hst).1.srpb_eq hNone

/-- A GRANT_REQ for 1000 bytes of sender 11, with congestion marks on it or not. -/
def CbReceiver.Event.markedGrantReq (sport : Nat) (marked : Bool) : CbReceiver.Event := .arrive {
  ch := {
    sip := 11, dip := 1, l3Prot := 0xFB, sport := sport, dport := 100, pg := 3, seq := 0
    ecnBits := if marked then 3 else 0 }
  tag := { type := .grantReq, creditReqBytes := 1000 } }

/-- Five marked announcements: the last one makes the controller cut the cap to 7578. -/
def fiveMarked : List CbReceiver.Event :=
  [.markedGrantReq 1 true, .markedGrantReq 2 true, .markedGrantReq 3 true, .markedGrantReq 4 true,
    .markedGrantReq 5 true]

theorem pair_budget_at_cap_fiveMarked :
    ∃ s, (cbReceiver { mtu := 1000, maxSrpbBytes := 7670 }).run {} fiveMarked = some s ∧
      ∀ addr st, s.senderStates.get? addr = some st → st.outstandingBytes = 0 →
        st.srpbBytes = st.aimd.maxSrpbBytes := by
  have hRun : ((cbReceiver { mtu := 1000, maxSrpbBytes := 7670 }).run {} fiveMarked).isSome := by
    decide +kernel
  obtain ⟨s, hRun⟩ := Option.isSome_iff_exists.mp hRun
  exact ⟨s, hRun, pair_budget_at_cap { mtu := 1000, maxSrpbBytes := 7670 } (by decide) fiveMarked s
    hRun (by decide +kernel) (by decide +kernel)⟩

/-- An announcement without marks lets the cap grow back to 7670, and the budget stays where the
cut has left it, without any credit outstanding. -/
theorem pair_budget_leaked :
    ∃ s, (cbReceiver { mtu := 1000, maxSrpbBytes := 7670 }).run {}
        (fiveMarked ++ [.markedGrantReq 6 false]) = some s ∧
      ∃ st, s.senderStates.get? 11 = some st ∧ st.outstandingBytes = 0 ∧ st.srpbBytes = 7578 ∧
        st.aimd.maxSrpbBytes = 7670 := by
  have hEntry : ((cbReceiver { mtu := 1000, maxSrpbBytes := 7670 }).run {}
      (fiveMarked ++ [.markedGrantReq 6 false])).map
        (fun s => (s.senderStates.get? 11).map fun st =>
          (st.outstandingBytes, st.srpbBytes, st.aimd.maxSrpbBytes)) =
      some (some (0, 7578, 7670)) := by
    decide +kernel
  obtain ⟨s, hRun, hSender⟩ := Option.map_eq_some_iff.mp hEntry
  obtain ⟨st, hst, hEq⟩ := Option.map_eq_some_iff.mp hSender
  simp only [Prod.mk.injEq] at hEq
  exact ⟨s, hRun, st, hst, hEq⟩

end Dpdq.Ns3
