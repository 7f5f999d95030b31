import Dpdq.Ns3.CbReceiverBudget
import Dpdq.Ns3.CbReceiverDemand
import Dpdq.Ns3.CbReceiverLedger
import Dpdq.Ns3.CbReceiverSettings
import Dpdq.Ns3.CbReceiverTick

/-!
# Progress of the grants

When nothing is outstanding and a sender waits for credit, the next attempt grants something, as
long as the books agree: the global counter covers the senders' counters (`Covered`), their pending
demand is that of their messages (`Tallied`), and every sender has its settings (`Initialised`).
-/

namespace Dpdq.Ns3

open Dpdq.Lib

variable {cfg : CbConfig}

/-- The wire bytes of one grant unit. -/
def grantUnitWire (cfg : CbConfig) : Nat :=
  cbAddHeaderOverhead (max cfg.grantGranularityBytes cfg.mtu) cfg.mtu true

/-- A grant unit fits in the global limit and in the smallest caps. -/
structure CbConfig.UnitFits (cfg : CbConfig) : Prop where
  limit : grantUnitWire cfg ≤ CbReceiver.globalLimit cfg
  network : grantUnitWire cfg ≤ minCapBytes cfg cfg.ecnMinMulNw
  host : grantUnitWire cfg ≤ minCapBytes cfg cfg.ecnMinMulHost

/-! ## Coverage of the senders' credit -/

namespace Account

/-- The global counter covers the sender's counter and the `rest` of the other senders. -/
def Covered (a : Account) (rest : Nat) : Prop :=
  a.sender.outstandingBytes + rest ≤ a.globalOutstandingBytes

/-- What the global counter has in excess counts as another sender's credit. -/
theorem covered_iff {a : Account} {rest : Nat} :
    a.Covered rest ↔ ∃ more, rest ≤ more ∧ a.Balanced more := by
  unfold Covered Balanced
  constructor
  · intro h
    exact ⟨a.globalOutstandingBytes - a.sender.outstandingBytes, by omega, by omega⟩
  · rintro ⟨more, hLe, hBal⟩
    omega

/-- A chunk keeps the counters covered if its reclaim is covered by its sender's counter or by the
excess of the global counter. -/
theorem covered_receiveData (cfg : CbConfig) {a : Account} {p : CbPacket} {rest : Nat}
    (h : (a.countArrival cfg p).Covered rest)
    (hReclaim : (a.countArrival cfg p).reclaimedWire cfg p ≤
        (a.countArrival cfg p).sender.outstandingBytes ∨
      (a.countArrival cfg p).reclaimedWire cfg p + rest ≤
        (a.countArrival cfg p).globalOutstandingBytes) :
    (a.receiveData cfg p).Covered rest := by
  obtain ⟨hSender, hGlobal, -⟩ := receiveData_ledger cfg a p
  unfold Covered at h ⊢
  omega

end Account

namespace CbReceiver

/-- The global counter covers the counters of the senders. -/
def Covered (s : CbReceiver) : Prop :=
  s.senderStates.total SenderState.outstandingBytes ≤ s.globalOutstandingBytes

/-- A data packet whose reclaim is not covered: the global counter pays for it with the credit of
other senders. -/
def Undercuts (cfg : CbConfig) (s : CbReceiver) : Event → Prop
  | .arrive p => p.tag.type = .request ∧ p.ch.l3Prot = 0x11 ∧
    ((s.accountOf cfg p).countArrival cfg p).sender.outstandingBytes <
      ((s.accountOf cfg p).countArrival cfg p).reclaimedWire cfg p ∧
    ((s.accountOf cfg p).countArrival cfg p).globalOutstandingBytes <
      ((s.accountOf cfg p).countArrival cfg p).reclaimedWire cfg p + s.othersOutstanding p.rxKey
  | _ => False

instance (cfg : CbConfig) (s : CbReceiver) (e : Event) : Decidable (s.Undercuts cfg e) :=
  match e with
  | .arrive _ => inferInstanceAs (Decidable (_ ∧ _ ∧ _ ∧ _))
  | .grantTick _ => isFalse id
  | .resendTimeout _ => isFalse id

theorem Covered.openAccount {s : CbReceiver} (h : s.Covered) (k : RxKey) (q : RxQueuePair) :
    (s.openAccount k q).Covered (s.othersOutstanding k) := by
  unfold CbReceiver.Covered at h
  rw [s.senderStates.total_eq k.dip] at h
  unfold Account.Covered CbReceiver.openAccount getOrCreateSenderState othersOutstanding
  cases hst : s.senderStates.get? k.dip with
  | none =>
    rw [hst] at h
    simpa using h
  | some st =>
    rw [hst] at h
    simpa using h

theorem covered_post_iff (s : CbReceiver) (k : RxKey) (a : Account) :
    (s.post k a).Covered ↔ a.Covered (s.othersOutstanding k) := by
  unfold CbReceiver.Covered Account.Covered post othersOutstanding
  rw [Table.total_set]

theorem covered_scheduleGrantTickFor_iff (s : CbReceiver) (st : SenderState) :
    (s.scheduleGrantTickFor st).Covered ↔ s.Covered := by
  obtain ⟨running, hEq⟩ := s.scheduleGrantTickFor_eq st
  rw [hEq]
  exact Iff.rfl

theorem Covered.getRxQp (cfg : CbConfig) {s : CbReceiver} (h : s.Covered) (p : CbPacket) :
    (s.getRxQp cfg p).1.Covered := by
  rcases getRxQp_cases cfg s p with ⟨q, -, hEq⟩ | ⟨-, st, hOut, -, -, hEq⟩
  · rw [hEq]
    exact h
  · rw [hEq]
    have hSame : (s.senderStates.set p.rxKey.dip st).total SenderState.outstandingBytes =
        s.senderStates.total SenderState.outstandingBytes := by
      apply Table.total_set_of_eq
      rw [hOut]
      unfold getOrCreateSenderState
      cases s.senderStates.get? p.rxKey.dip <;> simp
    exact hSame.trans_le h

theorem Covered.accountOf (cfg : CbConfig) {s : CbReceiver} (h : s.Covered) (p : CbPacket) :
    (s.accountOf cfg p).Covered (s.othersOutstanding p.rxKey) := by
  rw [← othersOutstanding_getRxQp cfg]
  exact (h.getRxQp cfg p).openAccount p.rxKey _

/-- A cleanup gives credit up, if anything. -/
theorem Covered.cleanupSenderState {s : CbReceiver} (h : s.Covered) (k : RxKey) :
    (s.cleanupSenderState k).Covered := by
  unfold CbReceiver.cleanupSenderState
  cases hst : s.senderStates.get? k.dip with
  | none => exact h
  | some st =>
    unfold CbReceiver.Covered at h
    rw [s.senderStates.total_eq k.dip, hst, Option.elim_some] at h
    simp only
    split
    · unfold CbReceiver.Covered
      rw [Table.total_erase]
      exact (Nat.le_add_left _ _).trans h
    · unfold CbReceiver.Covered
      rw [Table.total_set]
      exact h

theorem Covered.receive {s : CbReceiver} (h : s.Covered) {p : CbPacket}
    (hFits : s.globalOutstandingBytes + p.tag.unsolCreditBytes < 2 ^ 64)
    (hReclaim : ¬ s.Undercuts cfg (.arrive p)) : (s.receive cfg p).1.Covered := by
  obtain ⟨more, hLe, hOpen⟩ := Account.covered_iff.mp (h.accountOf cfg p)
  have hGlobal : (s.accountOf cfg p).globalOutstandingBytes + p.tag.unsolCreditBytes < 2 ^ 64 := by
    rw [accountOf_globalOutstandingBytes]
    exact hFits
  rcases receive_cases cfg s p with hEq | ⟨hData, hEq⟩ | ⟨-, hEq⟩ | ⟨-, q, hq, hEq⟩
  · rw [hEq]
    exact h
  · have hArrival : ((s.accountOf cfg p).countArrival cfg p).Covered (s.othersOutstanding p.rxKey) :=
      Account.covered_iff.mpr ⟨more, hLe, hOpen.countArrival hGlobal⟩
    have hChunk : ((s.accountOf cfg p).receiveData cfg p).Covered (s.othersOutstanding p.rxKey) := by
      apply Account.covered_receiveData cfg hArrival
      by_contra hOver
      rw [not_or, Nat.not_le, Nat.not_le] at hOver
      exact hReclaim ⟨hData.1, hData.2, hOver.1, hOver.2⟩
    rw [← othersOutstanding_getRxQp cfg] at hChunk
    have hPosted : ((s.getRxQp cfg p).1.postData p.rxKey
        ((s.accountOf cfg p).receiveData cfg p)).Covered := by
      unfold postData
      split
      · apply Covered.cleanupSenderState
        exact (covered_post_iff _ _ _).mpr hChunk
      · exact (covered_post_iff _ _ _).mpr hChunk
    rw [hEq]
    exact (covered_scheduleGrantTickFor_iff _ _).mpr hPosted
  · have hRequest : ((s.accountOf cfg p).countRequest cfg p).Covered (s.othersOutstanding p.rxKey) :=
      Account.covered_iff.mpr ⟨more, hLe, hOpen.countRequest hGlobal⟩
    rw [← othersOutstanding_getRxQp cfg] at hRequest
    rw [hEq]
    apply (covered_scheduleGrantTickFor_iff _ _).mpr
    exact (covered_post_iff _ _ _).mpr hRequest
  · obtain ⟨rest, hRest, hAccount⟩ := Account.covered_iff.mp (h.openAccount p.rxKey q)
    rw [hEq]
    unfold receiveBouncedCredit
    simp only [hq]
    apply (covered_scheduleGrantTickFor_iff _ _).mpr
    apply (covered_post_iff _ _ _).mpr
    exact Account.covered_iff.mpr ⟨rest, hRest, hAccount.bounce p.tag⟩

theorem Covered.step {s t : CbReceiver} (h : s.Covered) {e : Event} (hFits : s.Fits e)
    (hReclaim : ¬ s.Undercuts cfg e) (hStep : s.step cfg e = some t) : t.Covered := by
  cases e with
  | arrive p =>
    obtain rfl := Option.some.inj hStep
    exact h.receive hFits hReclaim
  | grantTick order =>
    obtain ⟨-, rfl⟩ := Machine.of_guarded hStep
    unfold creditGrantTick
    obtain ⟨running, hTick⟩ := scheduleGrantTick_eq
      (({ s with grantTickRunning := false } : CbReceiver).tryIssueCreditGrant cfg order).1
    simp only [hTick]
    rcases tryIssueCreditGrant_cases cfg { s with grantTickRunning := false } order with
      ⟨cursor, hEq⟩ | ⟨c, -, data, wire, st, q, cursor, hTry, hst, -, hEq⟩
    · rw [hEq]
      exact h
    · rw [hEq]
      obtain ⟨-, st', hst', -, -, -, hSrpb⟩ := trySelectCandidate_spec hTry
      obtain rfl := Option.some.inj (hst.symm.trans hst')
      have hOpen : Account.Covered ⟨st, q, s.globalOutstandingBytes⟩
          (s.senderStates.others c.senderAddr SenderState.outstandingBytes) := by
        unfold CbReceiver.Covered at h
        rw [s.senderStates.total_eq c.senderAddr, hst, Option.elim_some] at h
        exact h
      obtain ⟨more, hLe, hBal⟩ := Account.covered_iff.mp hOpen
      obtain ⟨hMem, rfl⟩ := Table.get?_eq_some.mp hst
      have hRoom := hFits c.senderAddr hMem
      have hGranted := Account.covered_iff.mpr
        ⟨more, hLe, hBal.grant data wire (by simp only at hSrpb ⊢; omega)⟩
      unfold CbReceiver.Covered granted
      rw [Table.total_set]
      exact hGranted
  | resendTimeout k =>
    obtain ⟨q, -, -, rfl⟩ := resendTimeout_eq_some hStep
    obtain ⟨hGlobal, hTotal⟩ := outstanding_handleResendTimeout cfg s k q
    unfold CbReceiver.Covered
    rw [hGlobal, hTotal]
    exact h

/-! ## A grant is possible -/

/-- A message that waits is offered something, and no more than one grant unit. -/
theorem askData_bounds {st : SenderState} {pending : Nat} (hMtu : 0 < cfg.mtu)
    (hGranularity : st.grantGranularityDataBytes = cfg.grantGranularityBytes)
    (hPos : 0 < pending) (hPending : pending ≤ st.pendingDemandDataBytes) :
    0 < askData cfg st pending ∧
      askData cfg st pending ≤ max cfg.grantGranularityBytes cfg.mtu := by
  unfold askData
  simp only [hGranularity]
  generalize hUnit : (if cfg.grantGranularityBytes > 0 then cfg.grantGranularityBytes
    else cfg.mtu) = unit
  have hUnitPos : 0 < unit := by
    subst hUnit
    split
    · assumption
    · exact hMtu
  have hUnitLe : unit ≤ max cfg.grantGranularityBytes cfg.mtu := by
    subst hUnit
    split
    · exact le_max_left _ _
    · exact le_max_right _ _
  have hAsk : min (min pending (max unit (min pending cfg.mtu))) st.pendingDemandDataBytes =
      min pending (max unit (min pending cfg.mtu)) := by
    omega
  rw [hAsk]
  unfold cbAlignChunkPrefixBytes
  rw [if_neg (by omega)]
  split
  · omega
  · -- The unit is what cuts the ask off, so the ask is at least one chunk.
    have hChunk : cfg.mtu ≤ min pending (max unit (min pending cfg.mtu)) := by omega
    have hFloor := Nat.div_mul_le_self (min pending (max unit (min pending cfg.mtu))) cfg.mtu
    have hChunks : 0 < min pending (max unit (min pending cfg.mtu)) / cfg.mtu :=
      Nat.div_pos hChunk hMtu
    exact ⟨Nat.mul_pos hChunks hMtu, by omega⟩

/-- A configured sender has the budget of a grant unit when nothing is outstanding. -/
theorem srpb_of_funded (hUnit : cfg.UnitFits) {st : SenderState} (hConfigured : st.Configured cfg)
    (hFunded : st.Funded (grantUnitWire cfg)) :
    grantUnitWire cfg ≤ st.srpbBytes + st.outstandingBytes := by
  have hCap : grantUnitWire cfg ≤ st.aimd.maxSrpbBytes :=
    (le_min hUnit.network hUnit.host).trans hConfigured.min_le
  have hCovered := hFunded.covered
  rwa [min_eq_left hCap] at hCovered

/-- The candidate of a configured and funded sender passes when nothing is outstanding. -/
theorem trySelectCandidate_isSome (hPacket : 16 ≤ cfg.mtu) (hUnit : cfg.UnitFits)
    {s : CbReceiver} {c : GrantCandidate} {st : SenderState}
    (hst : s.senderStates.get? c.senderAddr = some st) (hConfigured : st.Configured cfg)
    (hFunded : st.Funded (grantUnitWire cfg)) (hGlobal : s.globalOutstandingBytes = 0)
    (hOutstanding : st.outstandingBytes = 0) (hPos : 0 < c.msgPendingDataBytes)
    (hPending : c.msgPendingDataBytes ≤ st.pendingDemandDataBytes) :
    (s.trySelectCandidate cfg c).isSome := by
  obtain ⟨hData, hLe⟩ := askData_bounds (by omega) hConfigured.granularity hPos hPending
  have hWire : cbAddHeaderOverhead (askData cfg st c.msgPendingDataBytes) cfg.mtu true ≤
      grantUnitWire cfg := cbAddHeaderOverhead_le_of_le hPacket hLe
  have hBudget := srpb_of_funded hUnit hConfigured hFunded
  have hLimit : addU64 s.globalOutstandingBytes
      (cbAddHeaderOverhead (askData cfg st c.msgPendingDataBytes) cfg.mtu true) ≤
        globalLimit cfg := by
    rw [hGlobal]
    unfold addU64
    rw [Nat.zero_add]
    exact (Nat.mod_le _ _).trans (hWire.trans hUnit.limit)
  unfold trySelectCandidate
  simp only [hst, Option.bind_eq_bind, Option.bind_some]
  rw [if_neg (by omega), if_neg (by omega), if_neg (Nat.not_lt.mpr hLimit), if_neg (by omega)]
  rfl

/-! ## Runs -/

/-- What a grant rests on. -/
structure Serviceable (cfg : CbConfig) (s : CbReceiver) : Prop where
  enabled : s.Enabled
  listed : s.Listed
  initialised : s.Initialised cfg
  funded : s.PairsFunded (grantUnitWire cfg) cfg
  covered : s.Covered
  tallied : s.Tallied
  ticking : s.Ticking

theorem serviceable_init (cfg : CbConfig) : ({} : CbReceiver).Serviceable cfg where
  enabled := enabled_init
  listed := listed_init
  initialised := nofun
  funded := pairsFunded_init
  covered := Nat.le_refl 0
  tallied := fun _ => rfl
  ticking := ticking_init

/-- The counters and the packet fields of a step are within their widths. -/
def InWidth (cfg : CbConfig) (s : CbReceiver) (e : Event) : Prop :=
  s.Fits e ∧ s.DemandFits cfg e ∧ s.FitsPair e

/-- The step leaves the books as they should be. -/
def KeepsBooks (cfg : CbConfig) (s : CbReceiver) (e : Event) : Prop :=
  ¬ s.Undercuts cfg e ∧ s.DemandSettles cfg e ∧ ¬ s.Revives e

instance decidableInWidth (cfg : CbConfig) (s : CbReceiver) (e : Event) :
    Decidable (s.InWidth cfg e) := inferInstanceAs (Decidable (_ ∧ _ ∧ _))

instance decidableKeepsBooks (cfg : CbConfig) (s : CbReceiver) (e : Event) :
    Decidable (s.KeepsBooks cfg e) := inferInstanceAs (Decidable (_ ∧ _ ∧ _))

/-- A configured sender covers a grant unit whatever cap the marks lead to. -/
theorem Serviceable.capCovered (hCfg : cfg.Sound) (hLow : cfg.maxSrpbBytes < 2 ^ 63)
    (hUnit : cfg.UnitFits) {s : CbReceiver} (h : s.Serviceable cfg) {e : Event}
    (hKept : ¬ s.Revives e) : s.CapCovered (grantUnitWire cfg) cfg e := by
  cases e with
  | grantTick order => trivial
  | resendTimeout k => trivial
  | arrive p =>
    intro _ hMarks
    have hTaken : IsData p ∨ IsRequest p ∨ p.tag.type = .bouncedCredit := by
      rcases hMarks with hType | hData
      · exact Or.inr (Or.inl (Or.inl hType))
      · exact Or.inl hData
    have hConfigured := h.initialised.accountOf hCfg h.enabled fun hGhost => hKept ⟨hTaken, hGhost⟩
    have hFunded := (h.funded.accountOf hLow h.enabled p).1
    exact (min_le_left _ _).trans (srpb_of_funded hUnit hConfigured hFunded)

theorem Serviceable.step (hCfg : cfg.Sound) (hLow : cfg.maxSrpbBytes < 2 ^ 63)
    (hUnit : cfg.UnitFits) {s t : CbReceiver} (h : s.Serviceable cfg) {e : Event}
    (hWidth : s.InWidth cfg e) (hBooks : s.KeepsBooks cfg e) (hStep : s.step cfg e = some t) :
    t.Serviceable cfg := by
  obtain ⟨hFits, hDemandFits, hPairFits⟩ := hWidth
  obtain ⟨hReclaim, hSettles, hKept⟩ := hBooks
  exact {
    enabled := h.enabled.step h.listed hStep
    listed := h.listed.step hStep
    initialised := h.initialised.step hCfg h.enabled h.listed hKept hStep
    funded := h.funded.step hLow h.enabled hPairFits (h.capCovered hCfg hLow hUnit hKept) hStep
    covered := h.covered.step hFits hReclaim hStep
    tallied := (h.tallied.step_iff h.listed hDemandFits hStep).mpr hSettles
    ticking := h.ticking.step h.listed hStep }

/-- A sender with pending demand lists a message with pending demand, no more than its own. -/
theorem Tallied.exists_pending {s : CbReceiver} (h : s.Tallied) {addr : Nat} {st : SenderState}
    (hst : s.senderStates.get? addr = some st) (hDemand : 0 < st.pendingDemandDataBytes) :
    ∃ k ∈ st.msgStates, ∃ q, s.rxQpMap k = some q ∧ 0 < q.pendingDemandBytes ∧
      q.pendingDemandBytes ≤ st.pendingDemandDataBytes := by
  have hSum := (tallied_iff s).mp h addr st hst
  rw [hSum] at hDemand
  obtain ⟨n, hn, hPos⟩ := List.sum_pos_iff_exists_pos_nat.mp hDemand
  obtain ⟨k, hk, rfl⟩ := List.mem_map.mp hn
  have hLe : s.pendingOf k ≤ st.pendingDemandDataBytes := by
    rw [hSum]
    exact List.le_sum_of_mem hn
  unfold pendingOf at hPos hLe
  cases hq : s.rxQpMap k with
  | none =>
    rw [hq] at hPos
    exact absurd hPos (Nat.lt_irrefl 0)
  | some q =>
    rw [hq, Option.elim_some] at hPos hLe
    exact ⟨k, hk, q, hq, hPos, hLe⟩

theorem Serviceable.issues (hPacket : 16 ≤ cfg.mtu) (hUnit : cfg.UnitFits) {s : CbReceiver}
    (h : s.Serviceable cfg) (hGlobal : s.globalOutstandingBytes = 0) {addr : Nat} {st : SenderState}
    (hst : s.senderStates.get? addr = some st) (hOn : st.enabled = true)
    (hDemand : 0 < st.pendingDemandDataBytes) {order : List Nat} (hOrder : addr ∈ order) :
    (s.tryIssueCreditGrant cfg order).2.isSome := by
  obtain ⟨k, hk, q, hq, hPos, hLe⟩ := h.tallied.exists_pending hst hDemand
  have hOutstanding : st.outstandingBytes = 0 := by
    have hTotal := Table.le_total hst SenderState.outstandingBytes
    have hCovered := h.covered
    unfold CbReceiver.Covered at hCovered
    omega
  apply tryIssueCreditGrant_isSome (mem_candidates_of hOrder hst hOn hDemand hk hq hPos)
  exact trySelectCandidate_isSome hPacket hUnit hst (h.initialised addr st hst hOn)
    (h.funded addr st hst).1 hGlobal hOutstanding hPos hLe

end CbReceiver

/-- In a run whose steps keep the books, a receiver that has nothing outstanding and an enabled
sender with pending demand has its grant timer running, and a grant attempt issues a grant. -/
theorem no_credit_deadlock (cfg : CbConfig) (hPacket : 16 ≤ cfg.mtu) (hCfg : cfg.Sound)
    (hLow : cfg.maxSrpbBytes < 2 ^ 63) (hUnit : cfg.UnitFits) (es : List CbReceiver.Event)
    (s : CbReceiver) (hRun : (cbReceiver cfg).run {} es = some s)
    (hWidth : (cbReceiver cfg).Guarded (CbReceiver.InWidth cfg) {} es)
    (hBooks : (cbReceiver cfg).Guarded (CbReceiver.KeepsBooks cfg) {} es)
    (hGlobal : s.globalOutstandingBytes = 0)
    (hDemand : ∃ addr st, s.senderStates.get? addr = some st ∧ st.enabled = true ∧
      0 < st.pendingDemandDataBytes) :
    s.grantTickRunning = true ∧ ∀ order : List Nat, order.Nodup →
      order.toFinset = s.senderStates.keys → (s.tryIssueCreditGrant cfg order).2.isSome := by
  have hInv : s.Serviceable cfg := Machine.guarded_induction
    (I := CbReceiver.Serviceable cfg) (CbReceiver.serviceable_init cfg)
    (fun _ _ _ h hStep => h.step hCfg hLow hUnit hStep.1 hStep.2) (hWidth.and hBooks) hRun
  refine ⟨hInv.ticking ((CbReceiver.hasPendingDemand_iff s).mpr hDemand), ?_⟩
  intro order _ hOrder
  obtain ⟨addr, st, hst, hOn, hPending⟩ := hDemand
  have hMem : addr ∈ order := by
    rw [← List.mem_toFinset, hOrder]
    exact (Table.get?_eq_some.mp hst).1
  exact hInv.issues hPacket hUnit hGlobal hst hOn hPending hMem

/-- The two messages are granted and their chunks arrive, and sender 11 announces the next one. -/
def nextMessage : List CbReceiver.Event :=
  twoSenders ++ [.scheduledData 11 7 0 1000, .scheduledData 11 7 1000 4, .grantReq 11 8 1000,
    .scheduledData 12 7 0 1000]

theorem no_credit_deadlock_nextMessage :
    ∃ s, (cbReceiver { mtu := 1000 }).run {} nextMessage = some s ∧
      s.grantTickRunning = true ∧ ∀ order : List Nat, order.Nodup →
        order.toFinset = s.senderStates.keys →
        (s.tryIssueCreditGrant { mtu := 1000 } order).2.isSome := by
  have hEntry : ((cbReceiver { mtu := 1000 }).run {} nextMessage).map
      (fun s => (s.globalOutstandingBytes, (s.senderStates.get? 11).map fun st =>
        (st.enabled, st.pendingDemandDataBytes))) = some (0, some (true, 1000)) := by
    decide +kernel
  obtain ⟨s, hRun, hEq⟩ := Option.map_eq_some_iff.mp hEntry
  obtain ⟨hGlobal, hSender⟩ := Prod.mk.inj hEq
  obtain ⟨st, hst, hEq⟩ := Option.map_eq_some_iff.mp hSender
  obtain ⟨hOn, hPending⟩ := Prod.mk.inj hEq
  exact ⟨s, hRun, no_credit_deadlock { mtu := 1000 } (by decide)
    ⟨by decide, by decide +kernel, by decide +kernel⟩ (by decide)
    ⟨by decide +kernel, by decide +kernel, by decide +kernel⟩ _ s hRun (by decide +kernel)
    (by decide +kernel) hGlobal ⟨11, st, hst, hOn, hPending ▸ by decide⟩⟩

/-- The duplicate of a completed message revives its sender without a budget: the demand of the
next message is pending, nothing is outstanding, and no attempt issues a grant. -/
theorem credit_deadlock :
    ∃ s, (cbReceiver { mtu := 1000 }).run {}
        (oneMessage ++ [.scheduledData 11 7 0 1000, .grantReq 11 8 1000]) = some s ∧
      s.globalOutstandingBytes = 0 ∧ s.senderStates.keys = {11} ∧
      (∃ st, s.senderStates.get? 11 = some st ∧ st.enabled = true ∧
        st.pendingDemandDataBytes = 1000) ∧
      (s.tryIssueCreditGrant { mtu := 1000 } [11]).2 = none := by
  have hEntry : ((cbReceiver { mtu := 1000 }).run {}
      (oneMessage ++ [.scheduledData 11 7 0 1000, .grantReq 11 8 1000])).map
        (fun s => (s.globalOutstandingBytes, s.senderStates.keys,
          (s.senderStates.get? 11).map fun st => (st.enabled, st.pendingDemandDataBytes),
          (s.tryIssueCreditGrant { mtu := 1000 } [11]).2)) =
      some (0, {11}, some (true, 1000), none) := by
    decide +kernel
  obtain ⟨s, hRun, hEq⟩ := Option.map_eq_some_iff.mp hEntry
  simp only [Prod.mk.injEq] at hEq
  obtain ⟨hGlobal, hKeys, hSender, hNone⟩ := hEq
  obtain ⟨st, hst, hEq⟩ := Option.map_eq_some_iff.mp hSender
  simp only [Prod.mk.injEq] at hEq
  exact ⟨s, hRun, hGlobal, hKeys, ⟨st, hst, hEq⟩, hNone⟩

end Dpdq.Ns3
