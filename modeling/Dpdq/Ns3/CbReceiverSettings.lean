import Dpdq.Ns3.CbReceiverEntry

/-!
# The settings of the senders

`GetRxQp` initialises the entry of a sender together with a new receive QP. When the entry was
erased and a packet of a known receive QP comes late, the entry is created again without the
initialisation, and its `m_enabled` keeps `GetRxQp` from making up for it. These are the only steps
that put a sender without its settings into the table (`Initialised.step_iff`).
-/

namespace Dpdq.Ns3

open Dpdq.Lib

variable {cfg : CbConfig}

/-- The smallest cap of a control loop. -/
def minCapBytes (cfg : CbConfig) (minMul : ℚ) : Nat := max 1 (truncate (minMul * cfg.maxSrpbBytes))

/-- A ceiling that is positive and not below the smallest caps. -/
structure CbConfig.Sound (cfg : CbConfig) : Prop where
  positive : 1 ≤ cfg.maxSrpbBytes
  network : minCapBytes cfg cfg.ecnMinMulNw ≤ cfg.maxSrpbBytes
  host : minCapBytes cfg cfg.ecnMinMulHost ≤ cfg.maxSrpbBytes

/-- The configured parameters of a sender, and its cap within their bounds. -/
structure SenderState.Configured (cfg : CbConfig) (st : SenderState) : Prop where
  ceiling : st.aimd.srpbCeilingBytes = cfg.maxSrpbBytes
  granularity : st.grantGranularityDataBytes = cfg.grantGranularityBytes
  aiStep : st.aimd.aiStepBytes = cfg.aiStepBytes
  mdFactor : st.aimd.mdFactor = cfg.mdFactor
  networkMin : st.aimd.network.bucketMinBytes = minCapBytes cfg cfg.ecnMinMulNw
  hostMin : st.aimd.host.bucketMinBytes = minCapBytes cfg cfg.ecnMinMulHost
  min_le : min (minCapBytes cfg cfg.ecnMinMulNw) (minCapBytes cfg cfg.ecnMinMulHost) ≤
    st.aimd.maxSrpbBytes
  le_ceiling : st.aimd.maxSrpbBytes ≤ cfg.maxSrpbBytes

/-! ## Control loops -/

namespace AimdLoop

theorem adjust_bucketMinBytes (l : AimdLoop) (marked : Bool) (aiBytes : Nat) (mdCoeff : ℚ)
    (maxSrpbBytes : Nat) :
    (l.adjust marked aiBytes mdCoeff maxSrpbBytes).bucketMinBytes = l.bucketMinBytes := by
  unfold adjust
  simp only
  split
  · split
    · rfl
    · rfl
  · split
    · rfl
    · rfl

/-- The cap of a bounded loop lies between its minimum and the ceiling. -/
theorem bound_maxSrpbBytes {l : AimdLoop} {ceiling : Nat} (h : l.bucketMinBytes ≤ ceiling) :
    l.bucketMinBytes ≤ (l.bound ceiling).maxSrpbBytes ∧ (l.bound ceiling).maxSrpbBytes ≤ ceiling :=
  ⟨le_min (le_max_left _ _) h, min_le_right _ _⟩

end AimdLoop

namespace AimdState

/-- The cap of the pair, from the caps of both loops. -/
theorem pairLimit_bounds {ceiling nwMin hostMin nw host : Nat} (hCeiling : 1 ≤ ceiling)
    (hNw : nwMin ≤ nw ∧ nw ≤ ceiling) (hHost : hostMin ≤ host ∧ host ≤ ceiling)
    (priorityFlow : Bool) :
    min nwMin hostMin ≤ max 1 (min ceiling (if priorityFlow then ceiling else min nw host)) ∧
      max 1 (min ceiling (if priorityFlow then ceiling else min nw host)) ≤ ceiling := by
  cases priorityFlow with
  | false =>
    simp only [Bool.false_eq_true, if_false]
    omega
  | true =>
    simp only [if_true]
    omega

/-- The parameters are constant, and the cap stays within them. -/
theorem onData_settings {a : AimdState} (hCeiling : 1 ≤ a.srpbCeilingBytes)
    (hNetwork : a.network.bucketMinBytes ≤ a.srpbCeilingBytes)
    (hHost : a.host.bucketMinBytes ≤ a.srpbCeilingBytes)
    (ceNewWeight : ℚ) (csnMarked ecnMarked priorityFlow : Bool) :
    (a.onData ceNewWeight csnMarked ecnMarked priorityFlow).network.bucketMinBytes =
        a.network.bucketMinBytes ∧
      (a.onData ceNewWeight csnMarked ecnMarked priorityFlow).host.bucketMinBytes =
        a.host.bucketMinBytes ∧
      min a.network.bucketMinBytes a.host.bucketMinBytes ≤
        (a.onData ceNewWeight csnMarked ecnMarked priorityFlow).maxSrpbBytes ∧
      (a.onData ceNewWeight csnMarked ecnMarked priorityFlow).maxSrpbBytes ≤
        a.srpbCeilingBytes := by
  have hPos : a.srpbCeilingBytes > 0 := hCeiling
  -- A loop comes out with its minimum and within its bounds, whatever happened to its ratio.
  have hLoop (l l' : AimdLoop) (hRatio : l'.bucketMinBytes = l.bucketMinBytes)
      (hLe : l.bucketMinBytes ≤ a.srpbCeilingBytes) (marked : Bool) (aiBytes : Nat) (mdCoeff : ℚ) :
      let l' := (l'.adjust marked aiBytes mdCoeff a.maxSrpbBytes).bound a.srpbCeilingBytes
      l'.bucketMinBytes = l.bucketMinBytes ∧
        l.bucketMinBytes ≤ l'.maxSrpbBytes ∧ l'.maxSrpbBytes ≤ a.srpbCeilingBytes := by
    have hMin : (l'.adjust marked aiBytes mdCoeff a.maxSrpbBytes).bucketMinBytes =
        l.bucketMinBytes := (AimdLoop.adjust_bucketMinBytes _ _ _ _ _).trans hRatio
    have hBound := AimdLoop.bound_maxSrpbBytes (hMin ▸ hLe)
    rw [hMin] at hBound
    exact ⟨hMin, hBound⟩
  unfold onData
  simp only [hPos, if_true]
  refine ⟨(hLoop _ _ ?_ hNetwork _ _ _).1, (hLoop _ _ ?_ hHost _ _ _).1, ?_⟩
  · split
    · rfl
    · rfl
  · split
    · rfl
    · rfl
  · refine pairLimit_bounds hCeiling (hLoop _ _ ?_ hNetwork _ _ _).2 (hLoop _ _ ?_ hHost _ _ _).2
      priorityFlow
    · split
      · rfl
      · rfl
    · split
      · rfl
      · rfl

end AimdState

/-! ## Senders -/

namespace SenderState

theorem updateAimdOnData_ceiling (st : SenderState) (csnMarked ecnMarked priorityFlow : Bool) :
    (st.updateAimdOnData cfg csnMarked ecnMarked priorityFlow).aimd.srpbCeilingBytes =
      st.aimd.srpbCeilingBytes := by
  unfold SenderState.updateAimdOnData
  split
  · rfl
  · rfl

theorem configured_enable (hCfg : cfg.Sound) (l : List RxKey) :
    ({ ({} : SenderState).enable cfg with msgStates := l } : SenderState).Configured cfg where
  ceiling := rfl
  granularity := rfl
  aiStep := rfl
  mdFactor := rfl
  networkMin := rfl
  hostMin := rfl
  min_le := (min_le_left _ _).trans hCfg.network
  le_ceiling := le_refl _

theorem Configured.congr {st st' : SenderState} (h : st.Configured cfg)
    (hSame : st.SameSettings st') : st'.Configured cfg := by
  obtain ⟨-, hGranularity, hAimd⟩ := hSame
  constructor
  · rw [hAimd]
    exact h.ceiling
  · rw [hGranularity]
    exact h.granularity
  · rw [hAimd]
    exact h.aiStep
  · rw [hAimd]
    exact h.mdFactor
  · rw [hAimd]
    exact h.networkMin
  · rw [hAimd]
    exact h.hostMin
  · rw [hAimd]
    exact h.min_le
  · rw [hAimd]
    exact h.le_ceiling

theorem Configured.updateAimdOnData (hCfg : cfg.Sound) {st : SenderState} (h : st.Configured cfg)
    (csnMarked ecnMarked priorityFlow : Bool) :
    (st.updateAimdOnData cfg csnMarked ecnMarked priorityFlow).Configured cfg := by
  have hCeiling : 1 ≤ st.aimd.srpbCeilingBytes := h.ceiling ▸ hCfg.positive
  have hNetwork : st.aimd.network.bucketMinBytes ≤ st.aimd.srpbCeilingBytes := by
    rw [h.networkMin, h.ceiling]
    exact hCfg.network
  have hHost : st.aimd.host.bucketMinBytes ≤ st.aimd.srpbCeilingBytes := by
    rw [h.hostMin, h.ceiling]
    exact hCfg.host
  obtain ⟨hNw, hHt, hMin, hMax⟩ := AimdState.onData_settings hCeiling hNetwork hHost
    cfg.ceNewWeight csnMarked ecnMarked priorityFlow
  unfold SenderState.updateAimdOnData
  split
  · exact h
  · constructor
    · exact h.ceiling
    · exact h.granularity
    · exact h.aiStep
    · exact h.mdFactor
    · exact hNw.trans h.networkMin
    · exact hHt.trans h.hostMin
    · rw [← h.networkMin, ← h.hostMin]
      exact hMin
    · rw [← h.ceiling]
      exact hMax

end SenderState

/-! ## Steps -/

namespace CbReceiver

/-- Every enabled sender has its settings. -/
def Initialised (cfg : CbConfig) (s : CbReceiver) : Prop :=
  ∀ addr st, s.senderStates.get? addr = some st → st.enabled = true → st.Configured cfg

/-- A packet that the receiver takes, of a known receive QP whose sender has no entry. -/
def Revives (s : CbReceiver) : Event → Prop
  | .arrive p => (IsData p ∨ IsRequest p ∨ p.tag.type = .bouncedCredit) ∧
    s.rxQpMap p.rxKey ≠ none ∧ s.senderStates.get? p.rxKey.dip = none
  | _ => False

instance decidableRevives (s : CbReceiver) (e : Event) : Decidable (s.Revives e) :=
  match e with
  | .arrive _ => inferInstanceAs (Decidable ((_ ∨ _ ∨ _) ∧ _ ∧ _))
  | .grantTick _ => isFalse id
  | .resendTimeout _ => isFalse id

theorem Initialised.accountOf (hCfg : cfg.Sound) {s : CbReceiver} (h : s.Initialised cfg)
    (hOn : s.Enabled) {p : CbPacket}
    (hKept : ¬ (s.rxQpMap p.rxKey ≠ none ∧ s.senderStates.get? p.rxKey.dip = none)) :
    (s.accountOf cfg p).sender.Configured cfg := by
  obtain ⟨l, ⟨st, hst, hSender⟩ | ⟨hNone, hNew, hSender⟩ | ⟨hNone, hKnown, -⟩⟩ :=
    accountOf_sender_cases cfg hOn p
  · rw [hSender]
    exact (h p.rxKey.dip st hst (hOn _ st hst)).congr ⟨rfl, rfl, rfl⟩
  · rw [hSender]
    exact SenderState.configured_enable hCfg l
  · exact absurd ⟨hKnown, hNone⟩ hKept

theorem Initialised.step (hCfg : cfg.Sound) {s t : CbReceiver} (h : s.Initialised cfg)
    (hOn : s.Enabled) (hListed : s.Listed) {e : Event} (hKept : ¬ s.Revives e)
    (hStep : s.step cfg e = some t) : t.Initialised cfg := by
  intro addr st hst hEnabled
  cases senderAfter_step hStep hst with
  | kept _ _ hOld => exact h addr st hOld hEnabled
  | data p l hData hAddr =>
    have hOpen := h.accountOf hCfg hOn fun hGhost => hKept ⟨Or.inl hData, hGhost⟩
    have hUpdated : ((s.accountOf cfg p).updateAimd cfg p p.tag.priorityFlow).sender.Configured cfg :=
      hOpen.updateAimdOnData hCfg _ _ _
    rcases Account.receiveData_settings cfg (s.accountOf cfg p) p with hSame | hSame
    · exact (hOpen.congr hSame).congr ⟨rfl, rfl, rfl⟩
    · exact (hUpdated.congr hSame).congr ⟨rfl, rfl, rfl⟩
  | request p hRequest hAddr =>
    have hOpen := h.accountOf hCfg hOn fun hGhost => hKept ⟨Or.inr (Or.inl hRequest), hGhost⟩
    have hUpdated : ((s.accountOf cfg p).updateAimd cfg p false).sender.Configured cfg :=
      hOpen.updateAimdOnData hCfg _ _ _
    rcases Account.countRequest_settings cfg (s.accountOf cfg p) p with hSame | hSame
    · exact hOpen.congr hSame
    · exact hUpdated.congr hSame
  | bounced p q hBounced hq hAddr =>
    have hOpen := h.accountOf hCfg hOn fun hGhost => hKept ⟨Or.inr (Or.inr hBounced), hGhost⟩
    rw [accountOf_of_known hq] at hOpen
    exact hOpen.congr (Account.sameSettings_bounce _ p.tag)
  | granted order c data wire st q hTry hAddr hOld =>
    exact (h addr _ hOld (hOn _ _ hOld)).congr (Account.sameSettings_grant ⟨st, q, _⟩ data wire)
  | touched k q hq hRunning hAddr =>
    obtain ⟨st', hst'⟩ := hListed.entry_of_running hq hRunning
    obtain ⟨l, hl⟩ := listMessage_eq st' k
    unfold getOrCreateSenderState
    rw [hst', Option.getD_some, hl]
    exact (h k.dip st' hst' (hOn _ st' hst')).congr ⟨rfl, rfl, rfl⟩

/-- The ceiling of the account that a revived sender gets. -/
theorem ceiling_of_revives (cfg : CbConfig) {s : CbReceiver} (hOn : s.Enabled) {p : CbPacket}
    (hKnown : s.rxQpMap p.rxKey ≠ none) (hNone : s.senderStates.get? p.rxKey.dip = none) :
    (s.accountOf cfg p).sender.aimd.srpbCeilingBytes = 0 := by
  obtain ⟨l, ⟨st, hst, -⟩ | ⟨-, hNew, -⟩ | ⟨-, -, hSender⟩⟩ :=
    accountOf_sender_cases cfg hOn p
  · rw [hNone] at hst
    cases hst
  · exact absurd hNew hKnown
  · rw [hSender]

/-- A message whose sender has no entry does not complete. -/
theorem not_completes_of_revives (cfg : CbConfig) {s : CbReceiver} (hListed : s.Listed) {p : CbPacket}
    (hKnown : s.rxQpMap p.rxKey ≠ none) (hNone : s.senderStates.get? p.rxKey.dip = none) :
    ¬ ((s.accountOf cfg p).receiveData cfg p).msg.completes := by
  intro hCompletes
  have hOpen := hListed.unfinished_of_completes cfg hCompletes
  obtain ⟨q, hq⟩ := Option.ne_none_iff_exists'.mp hKnown
  rw [accountOf_of_known hq] at hOpen
  obtain ⟨st, hst⟩ := entry_of_mem (hListed.unfinished p.rxKey q hq hOpen)
  rw [hNone] at hst
  cases hst

/-- A revived sender has no ceiling. -/
theorem ceiling_of_step {s t : CbReceiver} (hOn : s.Enabled) (hListed : s.Listed) {e : Event}
    (hRevives : s.Revives e) (hStep : s.step cfg e = some t) :
    ∃ addr st, t.senderStates.get? addr = some st ∧ st.enabled = true ∧
      st.aimd.srpbCeilingBytes = 0 := by
  cases e with
  | grantTick order => exact hRevives.elim
  | resendTimeout k => exact hRevives.elim
  | arrive p =>
    obtain rfl := Option.some.inj hStep
    obtain ⟨hTaken, hKnown, hNone⟩ := hRevives
    have hOpen := ceiling_of_revives cfg hOn hKnown hNone
    have hUpdated (priorityFlow : Bool) :
        ((s.accountOf cfg p).updateAimd cfg p priorityFlow).sender.aimd.srpbCeilingBytes = 0 :=
      (SenderState.updateAimdOnData_ceiling _ _ _ _).trans hOpen
    refine ⟨p.rxKey.dip, ?_⟩
    rcases hTaken with hData | hRequest | hBounced
    · refine ⟨_, get?_receive_of_data cfg hData (not_completes_of_revives cfg hListed hKnown hNone), ?_⟩
      rcases Account.receiveData_settings cfg (s.accountOf cfg p) p with hSame | hSame
      · exact ⟨hSame.enabled, by rw [hSame.aimd, hOpen]⟩
      · rw [hSame.enabled, hSame.aimd]
        exact ⟨SenderState.updateAimdOnData_enabled _ _ _ _, hUpdated _⟩
    · refine ⟨_, get?_receive_of_request cfg hRequest, ?_⟩
      rcases Account.countRequest_settings cfg (s.accountOf cfg p) p with hSame | hSame
      · exact ⟨hSame.enabled, by rw [hSame.aimd, hOpen]⟩
      · rw [hSame.enabled, hSame.aimd]
        exact ⟨SenderState.updateAimdOnData_enabled _ _ _ _, hUpdated _⟩
    · obtain ⟨q, hq⟩ := Option.ne_none_iff_exists'.mp hKnown
      rw [accountOf_of_known hq] at hOpen
      exact ⟨_, get?_receive_of_bounced cfg hBounced hq, rfl, hOpen⟩

/-- The steps that keep the settings are exactly those that revive no sender. -/
theorem Initialised.step_iff (hCfg : cfg.Sound) {s t : CbReceiver} (h : s.Initialised cfg)
    (hOn : s.Enabled) (hListed : s.Listed) {e : Event} (hStep : s.step cfg e = some t) :
    t.Initialised cfg ↔ ¬ s.Revives e := by
  constructor
  · intro ht hRevives
    obtain ⟨addr, st, hst, hEnabled, hCeiling⟩ := ceiling_of_step hOn hListed hRevives hStep
    have hConfigured := (ht addr st hst hEnabled).ceiling
    have hPositive := hCfg.positive
    omega
  · intro hKept
    exact h.step hCfg hOn hListed hKept hStep

end CbReceiver

/-- Every enabled sender has its configured settings in all states of a run, exactly if no packet
of the run revives a sender. -/
theorem enabled_senders_configured_iff (cfg : CbConfig) (hCfg : cfg.Sound)
    (es : List CbReceiver.Event) (hRun : ((cbReceiver cfg).run {} es).isSome) :
    (cbReceiver cfg).Throughout (fun s => ∀ addr st, s.senderStates.get? addr = some st →
        st.enabled = true → st.Configured cfg) {} es ↔
      (cbReceiver cfg).Guarded (fun s e => ¬ s.Revives e) {} es := by
  apply Machine.throughout_iff_guarded (C := fun _ _ => True)
    (J := fun s => s.Enabled ∧ s.Listed) _ _ ⟨CbReceiver.enabled_init, CbReceiver.listed_init⟩ nofun
    (Machine.guarded_true _ _ _) hRun
  · rintro s e t ⟨hOn, hListed⟩ - hStep
    exact ⟨hOn.step hListed hStep, hListed.step hStep⟩
  · rintro s e t ⟨hOn, hListed⟩ hs - hStep
    exact CbReceiver.Initialised.step_iff hCfg hs hOn hListed hStep

/-- A message of one chunk is announced, granted and received. -/
def oneMessage : List CbReceiver.Event :=
  [.grantReq 11 7 1000, .grantTick [11], .scheduledData 11 7 0 1000]

/-- The next message is announced after it. -/
theorem enabled_senders_configured_iff_oneMessage :
    (cbReceiver { mtu := 1000 }).Throughout (fun s => ∀ addr st,
      s.senderStates.get? addr = some st → st.enabled = true → st.Configured { mtu := 1000 }) {}
      (oneMessage ++ [.grantReq 11 8 1000]) :=
  (enabled_senders_configured_iff { mtu := 1000 }
    ⟨by decide, by decide +kernel, by decide +kernel⟩ _ (by decide +kernel)).mpr
      (by decide +kernel)

/-- A duplicate comes after the completion, and then a new message: the sender is enabled, without
a ceiling, and has no pair budget for its new demand. -/
theorem enabled_sender_not_configured :
    ∃ s, (cbReceiver { mtu := 1000 }).run {}
        (oneMessage ++ [.scheduledData 11 7 0 1000, .grantReq 11 8 1000]) = some s ∧
      ∃ st, s.senderStates.get? 11 = some st ∧ st.enabled = true ∧
        st.aimd.srpbCeilingBytes = 0 ∧ st.srpbBytes = 0 ∧ st.pendingDemandDataBytes = 1000 := by
  have hEntry : ((cbReceiver { mtu := 1000 }).run {}
      (oneMessage ++ [.scheduledData 11 7 0 1000, .grantReq 11 8 1000])).map
        (fun s => (s.senderStates.get? 11).map fun st =>
          (st.enabled, st.aimd.srpbCeilingBytes, st.srpbBytes, st.pendingDemandDataBytes)) =
      some (some (true, 0, 0, 1000)) := by
    decide +kernel
  obtain ⟨s, hRun, hSender⟩ := Option.map_eq_some_iff.mp hEntry
  obtain ⟨st, hst, hEq⟩ := Option.map_eq_some_iff.mp hSender
  simp only [Prod.mk.injEq] at hEq
  exact ⟨s, hRun, st, hst, hEq⟩

end Dpdq.Ns3
