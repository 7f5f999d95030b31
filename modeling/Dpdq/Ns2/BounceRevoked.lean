import Dpdq.Ns2.HybridGranted

/-!
# What a bounced grant gives back

A receiver issues grants, and some of them come back bounced. The credit always returns to the
budgets. The data returns to the demand of the sender only as far as its message has more granted
than received: data that the message has sent with the credit of another one counts against the
grant that has not arrived. `bounced_credit_exact_iff` says when all of it returns, for one bounced
grant and for a whole sequence of grants and bounces of them.
-/

namespace Dpdq.Ns2

open Dpdq.Lib

variable {cfg : HybridConfig}

/-! ## The demand of a sender -/

/-- `uncreditd_data`: what was announced for the message and not granted. -/
def InboundMsgState.uncreditedData (m : InboundMsgState) : Int :=
  m.dataBytesExpected - m.dataBytesGranted

/-- The part of a message in the demand of `src`. -/
def InboundMsgState.demandFrom (m : InboundMsgState) (src : Int) : Int :=
  if m.remoteAddr = src then m.uncreditedData else 0

namespace Hybrid

/-- The total demand of a sender that is not granted. -/
def demandFrom (h : Hybrid) (src : Int) : Int := h.inbound.sum fun _ m => m.demandFrom src

variable {h h' : Hybrid} {id : UniqReqId} {m m' : InboundMsgState}

theorem demandFrom_congr (hInbound : h'.inbound = h.inbound) (src : Int) :
    h'.demandFrom src = h.demandFrom src := by
  rw [demandFrom, demandFrom, hInbound]

/-- One message changes. -/
theorem demandFrom_set (hMsg : h.inbound.get? id = some m)
    (hInbound : h'.inbound = h.inbound.set id m') (src : Int) :
    h'.demandFrom src = h.demandFrom src - m.demandFrom src + m'.demandFrom src := by
  have hOthers : ∀ l ≠ id, h'.inbound.get? l = h.inbound.get? l := by
    intro l hl
    rw [hInbound, Table.get?_set_of_ne _ _ hl]
  have hRest : (h'.inbound.erase id).sum (fun _ m => m.demandFrom src) =
      (h.inbound.erase id).sum fun _ m => m.demandFrom src :=
    Table.sum_erase_congr hOthers fun _ _ _ => rfl
  have hOld := h.inbound.sum_eq id fun _ m => m.demandFrom src
  have hNew := h'.inbound.sum_eq id fun _ m => m.demandFrom src
  rw [hMsg, Option.elim_some] at hOld
  rw [hInbound, Table.get?_set_self, Option.elim_some, ← hInbound, hRest] at hNew
  rw [demandFrom, demandFrom, hOld, hNew]
  omega

/-- One message that has no demand is deleted. -/
theorem demandFrom_erase (hMsg : h.inbound.get? id = some m)
    (hInbound : h'.inbound = h.inbound.erase id) (hNone : m.uncreditedData = 0) (src : Int) :
    h'.demandFrom src = h.demandFrom src := by
  have hOld := h.inbound.sum_eq id fun _ m => m.demandFrom src
  have hZero : m.demandFrom src = 0 := by
    unfold InboundMsgState.demandFrom
    rw [hNone, ite_self]
  rw [hMsg, Option.elim_some, hZero, zero_add] at hOld
  rw [demandFrom, demandFrom, hInbound, hOld]

end Hybrid

/-! ## One bounced grant -/

namespace Hybrid

/-- The grant is for some data of one packet, with the credit and the padding of the packet. -/
def Grant.IsFor (g : Grant) (d : Nat) : Prop :=
  0 < d ∧ d ≤ maxR2p2Payload ∧ g.credit = wireBytes d ∧ g.creditPad = framePadding d

/-- The message of the grant is one of its receiver's, and has its data granted and not received. -/
def CanRevoke (h : Hybrid) (g : Grant) : Prop :=
  ∃ m ∈ h.inbound.get? g.reqId, m.remoteAddr = g.dst ∧
    m.dataBytesReceived + g.data ≤ m.dataBytesGranted

instance (h : Hybrid) (g : Grant) : Decidable (h.CanRevoke g) :=
  inferInstanceAs (Decidable (∃ _ ∈ _, _))

/-- From `h` to `h'` the demand of the grant's sender goes up by the data of the grant, and both
budgets by its wire bytes. -/
structure RevokesExactly (cfg : HybridConfig) (h h' : Hybrid) (g : Grant) : Prop where
  demand : h'.demandFrom g.dst = h.demandFrom g.dst + g.data
  srpb : h'.srpbOf cfg g.dst = h.srpbOf cfg g.dst + g.credit
  budget : h'.budgetBytes = h.budgetBytes + g.credit

variable {h h' : Hybrid} {g : Grant} {d : Nat} {window : Int}

theorem Grant.IsFor.data_eq (hg : g.IsFor d) : g.data = d := by
  obtain ⟨-, -, hCredit, hPad⟩ := hg
  rw [Grant.data, hCredit, hPad, wireBytes_sub_framePadding]

theorem Grant.IsFor.credit_pos (hg : g.IsFor d) : 0 < g.credit := by
  rw [hg.2.2.1, wireBytes, minEthernetFrameOnWire]
  omega

/-- No assertion fails for a bounced grant. -/
theorem recv_bounced_isOk (hg : g.IsFor d) (h : Hybrid) (window : Int) :
    ∃ h', h.recv cfg g.bounced window = .ok h' := by
  have hPos := hg.credit_pos
  obtain ⟨-, hMax, hCredit, -⟩ := hg
  have hFrame : g.bounced.frameSize = minEthernetFrame := rfl
  have hRange : g.credit ≤ maxEthernetFrameOnWire ∧ 1 + (wireOverhead : Int) ≤ g.credit := by
    rw [hCredit]
    simp only [maxR2p2Payload] at hMax
    simp only [wireBytes, wireOverhead, r2p2AllHeadersSize, interPktGapSize, ethernetPreambleSize,
      minEthernetFrameOnWire, maxEthernetFrameOnWire]
    omega
  have hSpares : Spares (fun _ => True) (h.recv cfg g.bounced window) := by
    unfold recv
    refine .bind (.check_of_holds (by rw [hFrame]; decide)) fun _ _ => ?_
    refine .ite (fun hSingle => ?_) fun _ => ?_
    · simp [Packet.isSinglePktReply, Grant.bounced] at hSingle
    refine .ite (fun _ => .pure _) fun _ => ?_
    refine .ite (fun _ => ?_) fun hCredit => absurd hPos hCredit
    unfold receivedCredit
    refine .bind (.check_of_holds ⟨rfl, rfl⟩) fun _ _ => ?_
    refine .bind (.check_of_holds hRange) fun _ _ => ?_
    refine .ite (fun _ => ?_) fun _ => .pure _
    dsimp only
    split
    · exact .pure _
    · exact .pure _
  cases hRecv : h.recv cfg g.bounced window with
  | ok h' => exact ⟨h', rfl⟩
  | error e => exact absurd trivial (hSpares e hRecv)

/-- The data that a grant of a known message takes back. -/
theorem Grant.IsFor.revokeData_eq (hg : g.IsFor d) (m : InboundMsgState) :
    m.revokeData g.data = min d (m.dataBytesGranted - m.dataBytesReceived) := by
  have hMod : (g.data % 2 ^ 64).toNat = d := by
    have hMax := hg.2.1
    rw [hg.data_eq]
    simp only [maxR2p2Payload] at hMax
    omega
  rw [InboundMsgState.revokeData, hMod]

/-- The budgets get the whole credit back. -/
theorem charges_recv_bounced (hg : g.IsFor d) (hRecv : h.recv cfg g.bounced window = .ok h') :
    Charges cfg h h' g.dst (-g.credit) := by
  have hKey : g.dst ∈ (h.updateSenderState cfg g.dst window).senderState.keys :=
    Finset.mem_insert_self _ _
  have hBoth := ((h.charges_updateSenderState cfg g.dst window g.dst).trans
    (charges_charge cfg _ hKey (-g.credit))).amount (zero_add _).symm
  rw [recv_bounced hg.credit_pos hRecv]
  split
  · exact hBoth
  · exact hBoth.congr_right (by rfl) (by rfl)

/-- The demand goes up by what is taken back, which is at most the data of the grant. -/
theorem demandFrom_recv_bounced (hg : g.IsFor d) (hRecv : h.recv cfg g.bounced window = .ok h')
    (src : Int) : h'.demandFrom src = h.demandFrom src +
      (h.inbound.get? g.reqId).elim 0 fun m =>
        if m.remoteAddr = src then (m.revokeData g.data : Int) else 0 := by
  have hInbound := recv_bounced_inbound hg.credit_pos hRecv
  cases hMsg : h.inbound.get? g.reqId with
  | none =>
    rw [hMsg] at hInbound
    rw [demandFrom_congr hInbound, Option.elim_none, add_zero]
  | some m =>
    have hSet : h'.inbound = h.inbound.set g.reqId (m.revoke g.data) := by
      rw [hMsg] at hInbound
      exact hInbound
    have hRevoke : (m.revoke g.data).demandFrom src = m.demandFrom src +
        if m.remoteAddr = src then (m.revokeData g.data : Int) else 0 := by
      have hLe := hg.revokeData_eq m
      have hAddr : (m.revoke g.data).remoteAddr = m.remoteAddr := rfl
      simp only [InboundMsgState.demandFrom, InboundMsgState.uncreditedData, hAddr]
      split
      · show (m.dataBytesExpected : Int) - (m.dataBytesGranted - m.revokeData g.data : Nat) = _
        omega
      · rfl
    rw [demandFrom_set hMsg hSet, hRevoke, Option.elim_some]
    omega

/-- All the data returns to the demand exactly if the message has it to give. -/
theorem canRevoke_iff (hg : g.IsFor d) (hRecv : h.recv cfg g.bounced window = .ok h') :
    h'.demandFrom g.dst = h.demandFrom g.dst + g.data ↔ h.CanRevoke g := by
  have hPos := hg.1
  rw [demandFrom_recv_bounced hg hRecv, CanRevoke, hg.data_eq]
  cases hMsg : h.inbound.get? g.reqId with
  | none =>
    rw [Option.elim_none]
    apply iff_of_false
    · omega
    · rintro ⟨m, hm, -⟩
      cases hm
  | some m =>
    rw [Option.elim_some, ← hg.data_eq, hg.revokeData_eq, hg.data_eq]
    constructor
    · intro hAll
      split at hAll
      · rename_i hAddr
        exact ⟨m, rfl, hAddr, by omega⟩
      · omega
    · rintro ⟨m', hm', hAddr, hLe⟩
      obtain rfl := Option.some.inj hm'
      rw [if_pos hAddr]
      omega

/-- A bounced grant is revoked exactly if its message has its data granted and not received. -/
theorem revokesExactly_iff (hg : g.IsFor d) (hRecv : h.recv cfg g.bounced window = .ok h') :
    RevokesExactly cfg h h' g ↔ h.CanRevoke g := by
  rw [← canRevoke_iff hg hRecv]
  have hCharges := charges_recv_bounced hg hRecv
  constructor
  · exact RevokesExactly.demand
  · intro hDemand
    refine ⟨hDemand, ?_, ?_⟩
    · rw [hCharges.srpb, if_pos rfl, sub_neg_eq_add]
    · rw [hCharges.budget, sub_neg_eq_add]

/-! ## One grant -/

/-- What a grant takes out of the demand and the budgets, it carries. -/
theorem sendGrant_carries {id : UniqReqId} {o : Option Grant}
    (hOk : h.sendGrant cfg id = .ok (h', o)) :
    o = none ∧ h'.senderState = h.senderState ∧ h'.budgetBytes = h.budgetBytes ∧
        (∀ src, h'.demandFrom src = h.demandFrom src) ∨
      ∃ g d, o = some g ∧ g.IsFor d ∧ Charges cfg h h' g.dst g.credit ∧
        ∀ src, h'.demandFrom src = h.demandFrom src - if g.dst = src then g.data else 0 := by
  rcases sendGrant_cases hOk with ⟨rfl, rfl⟩ | ⟨m, hMsg, hInfo, hRest⟩
  · exact Or.inl ⟨rfl, rfl, rfl, fun _ => rfl⟩
  rcases hRest with ⟨hComplete, rfl, rfl⟩ | ⟨-, hNeed, -, hFits, rfl, rfl⟩
  · left
    refine ⟨rfl, rfl, rfl, demandFrom_erase hMsg rfl ?_⟩
    simp only [InboundMsgState.isComplete, decide_eq_true_eq] at hComplete
    unfold InboundMsgState.uncreditedData
    omega
  · right
    have hFor : Grant.IsFor ⟨m.remoteAddr, id, (granted m).seq, wireBytes (needData m),
        (minEthernetFrameOnWire - (needData m + wireOverhead) : Nat)⟩ (needData m) := by
      refine ⟨?_, Nat.min_le_left _ _, rfl, rfl⟩
      unfold needData
      simp only [maxR2p2Payload]
      omega
    have hKey : m.remoteAddr ∈ h.senderState.keys := by
      by_contra hUnknown
      rw [Table.get?_eq_none.mpr hUnknown, Option.getD_none] at hFits
      have hLow : 84 ≤ wireBytes (needData m) := Nat.le_max_right _ _
      have hDefault : (default : SenderState).srpbBytes = 0 := rfl
      rw [hDefault] at hFits
      omega
    refine ⟨_, needData m, rfl, hFor, (charges_charge cfg h hKey _).congr_right rfl rfl, ?_⟩
    intro src
    have hGranted : (granted m).demandFrom src =
        m.demandFrom src - if m.remoteAddr = src then (needData m : Int) else 0 := by
      have hAddr : (granted m).remoteAddr = m.remoteAddr := rfl
      simp only [InboundMsgState.demandFrom, InboundMsgState.uncreditedData, hAddr]
      split
      · show (m.dataBytesExpected : Int) - (m.dataBytesGranted + needData m : Nat) = _
        omega
      · rfl
    have hInbound : ((((h.charge m.remoteAddr (wireBytes (needData m))).addCreditGranted
        (wireBytes (needData m))).addDataGranted (needData m)).setMsg id (granted m)).inbound =
        h.inbound.set id (granted m) := by simp
    rw [hFor.data_eq, demandFrom_set hMsg hInbound, hGranted]
    dsimp only
    omega

end Hybrid

/-! ## Grants and bounces of them -/

/-- A receiver, and the grants that it has issued and that have not come back. -/
structure GrantBook where
  rx : Hybrid
  out : Multiset Hybrid.Grant := 0

inductive GrantBookEvent where
  | sendGrant (id : UniqReqId)
  | bounceBack (g : Hybrid.Grant) (window : Int)

/-- The data of grants to `src`. -/
def dataTo (src : Int) (grants : Multiset Hybrid.Grant) : Int :=
  (grants.map fun g => if g.dst = src then g.data else 0).sum

@[simp] theorem dataTo_zero (src : Int) : dataTo src 0 = 0 := rfl

@[simp] theorem dataTo_cons (src : Int) (g : Hybrid.Grant) (grants : Multiset Hybrid.Grant) :
    dataTo src (g ::ₘ grants) = (if g.dst = src then g.data else 0) + dataTo src grants := by
  simp [dataTo]

/-- The credit of grants. -/
def creditOf (grants : Multiset Hybrid.Grant) : Int := (grants.map Hybrid.Grant.credit).sum

@[simp] theorem creditOf_zero : creditOf 0 = 0 := rfl

@[simp] theorem creditOf_cons (g : Hybrid.Grant) (grants : Multiset Hybrid.Grant) :
    creditOf (g ::ₘ grants) = g.credit + creditOf grants := by
  simp [creditOf]

namespace GrantBook

def step (cfg : HybridConfig) (b : GrantBook) : GrantBookEvent → Option GrantBook
  | .sendGrant id =>
    (b.rx.sendGrant cfg id).toOption.map fun r => ⟨r.1, r.2.elim b.out (· ::ₘ b.out)⟩
  | .bounceBack g window =>
    if g ∈ b.out then
      (b.rx.recv cfg g.bounced window).toOption.map fun rx => ⟨rx, b.out.erase g⟩
    else none

end GrantBook

/-- A receiver that issues grants, some of which come back bounced. -/
def grantBook (cfg : HybridConfig) : Machine GrantBook GrantBookEvent where
  init := { rx := Hybrid.new cfg }
  step b e := b.step cfg e

namespace GrantBook

variable {b b' : GrantBook} {h : Hybrid}

/-- The demand and the budgets are what they were in `h`, less the grants that have not come back:
as if those that have had never been issued. -/
structure Undone (cfg : HybridConfig) (h : Hybrid) (b : GrantBook) : Prop where
  demand : ∀ src, b.rx.demandFrom src + dataTo src b.out = h.demandFrom src
  srpb : ∀ src, b.rx.srpbOf cfg src + creditTo src b.out = h.srpbOf cfg src
  budget : b.rx.budgetBytes + creditOf b.out = h.budgetBytes

theorem undone_init (cfg : HybridConfig) (h : Hybrid) : Undone cfg h { rx := h } :=
  ⟨fun _ => add_zero _, fun _ => add_zero _, add_zero _⟩

/-- The grant that comes back can be revoked. -/
def Revokes (b : GrantBook) : GrantBookEvent → Prop
  | .sendGrant _ => True
  | .bounceBack g _ => b.rx.CanRevoke g

instance (b : GrantBook) (e : GrantBookEvent) : Decidable (b.Revokes e) := by
  cases e <;> unfold Revokes <;> infer_instance

/-- The grants are for data. -/
def Carries (b : GrantBook) : Prop := ∀ g ∈ b.out, ∃ d, g.IsFor d

theorem Carries.step {e : GrantBookEvent} (hCarries : b.Carries) (hStep : b.step cfg e = some b') :
    b'.Carries := by
  cases e with
  | sendGrant id =>
    obtain ⟨⟨rx, o⟩, hGrant, rfl⟩ := Option.map_eq_some_iff.mp hStep
    rcases Hybrid.sendGrant_carries (toOption_eq_some.mp hGrant) with ⟨rfl, -⟩ | ⟨g, d, rfl, hFor, -⟩
    · exact hCarries
    · intro l hl
      rcases Multiset.mem_cons.mp hl with rfl | hOld
      · exact ⟨d, hFor⟩
      · exact hCarries l hOld
  | bounceBack g window =>
    rw [GrantBook.step] at hStep
    split at hStep
    · obtain ⟨rx, -, rfl⟩ := Option.map_eq_some_iff.mp hStep
      exact fun l hl => hCarries l (Multiset.mem_of_mem_erase hl)
    · cases hStep

/-- A grant that is issued is among those that have not come back. -/
theorem Undone.sendGrant {id : UniqReqId} (hUndone : b.Undone cfg h)
    (hStep : b.step cfg (.sendGrant id) = some b') : b'.Undone cfg h := by
  obtain ⟨⟨rx, o⟩, hGrant, rfl⟩ := Option.map_eq_some_iff.mp hStep
  obtain ⟨hDemand, hSrpb, hBudget⟩ := hUndone
  rcases Hybrid.sendGrant_carries (toOption_eq_some.mp hGrant) with
    ⟨rfl, hSenders, hSame, hKept⟩ | ⟨g, d, rfl, hFor, hCharges, hTaken⟩
  · refine ⟨fun src => ?_, fun src => ?_, ?_⟩
    · exact (congrArg (· + _) (hKept src)).trans (hDemand src)
    · rw [← hSrpb src, Hybrid.srpbOf, Hybrid.srpbOf, hSenders]
      rfl
    · rw [← hBudget, hSame]
      rfl
  · refine ⟨fun src => ?_, fun src => ?_, ?_⟩
    · rw [← hDemand src, hTaken src, Option.elim_some, dataTo_cons]
      omega
    · rw [← hSrpb src, hCharges.srpb, Option.elim_some, creditTo_cons]
      by_cases hs : src = g.dst
      · rw [if_pos hs, if_pos hs.symm]
        omega
      · rw [if_neg hs, if_neg (Ne.symm hs)]
        omega
    · rw [← hBudget, hCharges.budget, Option.elim_some, creditOf_cons]
      omega

/-- A grant that comes back is undone exactly if it can be revoked. -/
theorem Undone.bounceBack_iff {g : Hybrid.Grant} {window : Int} (hUndone : b.Undone cfg h)
    (hCarries : b.Carries) (hStep : b.step cfg (.bounceBack g window) = some b') :
    b'.Undone cfg h ↔ b.rx.CanRevoke g := by
  rw [GrantBook.step] at hStep
  split at hStep
  · rename_i hg
    obtain ⟨rx, hRecv, rfl⟩ := Option.map_eq_some_iff.mp hStep
    rw [toOption_eq_some] at hRecv
    obtain ⟨d, hFor⟩ := hCarries g hg
    obtain ⟨hDemand, hSrpb, hBudget⟩ := hUndone
    have hOut : g ::ₘ b.out.erase g = b.out := Multiset.cons_erase hg
    have hCharges : Hybrid.Charges cfg b.rx rx g.dst (-g.credit) :=
      Hybrid.charges_recv_bounced hFor hRecv
    rw [← Hybrid.canRevoke_iff hFor hRecv]
    constructor
    · intro hAfter
      have hOld := hDemand g.dst
      have hNew := hAfter.demand g.dst
      rw [← hOut, dataTo_cons, if_pos rfl] at hOld
      dsimp only at hNew
      omega
    · intro hAll
      refine ⟨fun src => ?_, fun src => ?_, ?_⟩
      · have hOld := hDemand src
        rw [← hOut, dataTo_cons] at hOld
        dsimp only
        by_cases hs : g.dst = src
        · subst hs
          rw [if_pos rfl] at hOld
          omega
        · have hOther := Hybrid.demandFrom_recv_bounced hFor hRecv src
          obtain ⟨m, hm, hAddr, -⟩ := (Hybrid.canRevoke_iff hFor hRecv).mp hAll
          rw [hm, Option.elim_some, if_neg (by rw [hAddr]; exact hs), add_zero] at hOther
          rw [if_neg hs] at hOld
          omega
      · have hOld := hSrpb src
        rw [← hOut, creditTo_cons] at hOld
        dsimp only
        rw [hCharges.srpb]
        by_cases hs : src = g.dst
        · rw [if_pos hs.symm] at hOld
          rw [if_pos hs]
          omega
        · rw [if_neg (Ne.symm hs)] at hOld
          rw [if_neg hs]
          omega
      · rw [← hOut, creditOf_cons] at hBudget
        dsimp only
        rw [hCharges.budget]
        omega
  · cases hStep

end GrantBook

/-- A bounced grant is revoked exactly if its message has that much data granted and not received.
In a sequence of grants and bounces of them, the demand and the budgets are always as if the bounced
grants had never been issued, exactly if this holds of every one of them when it comes back. -/
theorem bounced_credit_exact_iff (cfg : HybridConfig) (h : Hybrid) :
    (∀ (g : Hybrid.Grant) (d : Nat) (window : Int), g.IsFor d →
      ∃ h', h.recv cfg g.bounced window = .ok h' ∧
        (Hybrid.RevokesExactly cfg h h' g ↔ h.CanRevoke g)) ∧
      ∀ es : List GrantBookEvent, ((grantBook cfg).run { rx := h } es).isSome →
        ((grantBook cfg).Throughout (fun b => b.Undone cfg h) { rx := h } es ↔
          (grantBook cfg).Guarded GrantBook.Revokes { rx := h } es) := by
  refine ⟨?_, ?_⟩
  · intro g d window hFor
    obtain ⟨h', hRecv⟩ : ∃ h', h.recv cfg g.bounced window = .ok h' :=
      Hybrid.recv_bounced_isOk hFor h window
    exact ⟨h', hRecv, Hybrid.revokesExactly_iff hFor hRecv⟩
  · intro es hRun
    apply Machine.throughout_iff_guarded (C := fun _ _ => True) (J := GrantBook.Carries) _ _ _
      (GrantBook.undone_init cfg h) (Machine.guarded_true _ _ _) hRun
    · intro b e b' hCarries _ hStep
      exact hCarries.step hStep
    · intro b e b' hCarries hUndone _ hStep
      cases e with
      | sendGrant id => exact iff_of_true (hUndone.sendGrant hStep) trivial
      | bounceBack g window => exact hUndone.bounceBack_iff hCarries hStep
    · exact fun g hg => absurd hg (Multiset.notMem_zero g)

/-- Messages start without credit of their own. -/
def noOwnCredit : HybridConfig where
  maxBudgetBytes := 100000
  maxSrpb := 100000
  unsolicitedThreshBytes := 0

def firstMsgId : UniqReqId := ⟨2, 0, 0⟩

def secondMsgId : UniqReqId := ⟨2, 0, 1⟩

/-- A request of one packet from host 2, which has asked for credit. -/
def onePacketRequest : OutboundMsgState :=
  { OutboundMsgState.ofRequest 2 1458 with active := true, sentAnouncement := true }

/-- Host 2 asks for the credit of two such requests. -/
def twoRequests : List HybridNetEvent :=
  [.submitRequest firstMsgId 2 1458, .activate firstMsgId, .submitRequest secondMsgId 2 1458,
    .activate secondMsgId, .deliver (onePacketRequest.grantReq firstMsgId) 100000,
    .deliver (onePacketRequest.grantReq secondMsgId) 100000]

def firstMsgGrant : Hybrid.Grant := ⟨2, firstMsgId, 1458, 1538, 0⟩

def secondMsgGrant : Hybrid.Grant := ⟨2, secondMsgId, 1458, 1538, 0⟩

/-- Both requests are granted, and the first grant bounces. -/
theorem bounced_credit_exact_iff_twoRequests : ∃ n,
    (hybridNet noOwnCredit 1).run (hybridNet noOwnCredit 1).init twoRequests = some n ∧
      (grantBook noOwnCredit).Throughout (fun b => b.Undone noOwnCredit n.rx) { rx := n.rx }
        [.sendGrant firstMsgId, .sendGrant secondMsgId, .bounceBack firstMsgGrant 100000] := by
  have hRuns : ((hybridNet noOwnCredit 1).run (hybridNet noOwnCredit 1).init
      twoRequests).map (fun n =>
        (((grantBook noOwnCredit).run { rx := n.rx } [.sendGrant firstMsgId,
          .sendGrant secondMsgId, .bounceBack firstMsgGrant 100000]).isSome,
          decide ((grantBook noOwnCredit).Guarded GrantBook.Revokes { rx := n.rx }
            [.sendGrant firstMsgId, .sendGrant secondMsgId, .bounceBack firstMsgGrant 100000]))) =
      some (true, true) := by
    decide +kernel
  obtain ⟨n, hRun, hEnd⟩ := Option.map_eq_some_iff.mp hRuns
  obtain ⟨hSome, hRevokes⟩ := Prod.mk.inj hEnd
  exact ⟨n, hRun, ((bounced_credit_exact_iff noOwnCredit n.rx).2 _ hSome).mpr
    (of_decide_eq_true hRevokes)⟩

/-- The first request is sent with the credit of the second one before it is granted. -/
def borrowedCredit : List HybridNetEvent :=
  twoRequests ++ [.sendGrant secondMsgId, .receiveGrant secondMsgGrant, .sendData firstMsgId,
    .deliver (onePacketRequest.dataPacket firstMsgId true 0 1458) 100000, .sendGrant firstMsgId,
    .bounce firstMsgGrant]

/-- The bounced grant of the first request is not revoked: all requests count as granted, but the
second one has not been sent and there is no credit for it. -/
theorem borrowed_credit_not_revoked : ∃ n n',
    (hybridNet noOwnCredit 1).run (hybridNet noOwnCredit 1).init borrowedCredit = some n ∧
      firstMsgGrant ∈ n.bounced ∧
      n.step noOwnCredit 1 (.bounceBack firstMsgGrant 100000) = some n' ∧
      firstMsgGrant.data = 1458 ∧ n.rx.demandFrom 2 = 0 ∧ n'.rx.demandFrom 2 = 0 ∧
      (∃ m ∈ n'.msgs.get? secondMsgId, m.bytesSent = 0) ∧
      n'.availCreditBytes 2 = 0 ∧ n'.toTx = 0 ∧ n'.bounced = 0 ∧
      ¬ Hybrid.RevokesExactly noOwnCredit n.rx n'.rx firstMsgGrant := by
  have hRuns : ((hybridNet noOwnCredit 1).run (hybridNet noOwnCredit 1).init borrowedCredit).bind
      (fun n => (n.step noOwnCredit 1 (.bounceBack firstMsgGrant 100000)).map fun n' =>
        decide (firstMsgGrant ∈ n.bounced ∧ n.rx.demandFrom 2 = 0 ∧ n'.rx.demandFrom 2 = 0 ∧
          (∃ m ∈ n'.msgs.get? secondMsgId, m.bytesSent = 0) ∧ n'.availCreditBytes 2 = 0 ∧
          n'.toTx.card = 0 ∧ n'.bounced.card = 0)) = some true := by
    decide +kernel
  obtain ⟨n, hRun, hEnd⟩ := Option.bind_eq_some_iff.mp hRuns
  obtain ⟨n', hStep, hEnd⟩ := Option.map_eq_some_iff.mp hEnd
  obtain ⟨hBounced, hBefore, hAfter, hUnsent, hAvail, hToTx, hNone⟩ := of_decide_eq_true hEnd
  refine ⟨n, n', hRun, hBounced, hStep, rfl, hBefore, hAfter, hUnsent, hAvail,
    Multiset.card_eq_zero.mp hToTx, Multiset.card_eq_zero.mp hNone, ?_⟩
  intro hExact
  have hDemand := hExact.demand
  rw [show firstMsgGrant.dst = 2 from rfl, hBefore, hAfter] at hDemand
  exact absurd hDemand (by decide)

end Dpdq.Ns2
