import Dpdq.Ns2.HybridSoundStep

/-!
# Credit between a receiver and its senders

Two balances for every sender. The receiver has taken out of the budget of the sender what its
grants carry, and the credit that announced messages have given to themselves, less what arrived
data has used. The sender has what the grants brought that have reached it, and the credit that its
messages have given to themselves, less what its data has used. `Conserved.step` keeps both, as long
as no bounced grant comes back twice.
-/

namespace Dpdq.Ns2

open Dpdq.Lib

/-! ## The ledger of a receiver -/

namespace Hybrid

/-- The budget of a sender. One that the receiver does not know has all of it. -/
def srpbOf (cfg : HybridConfig) (h : Hybrid) (src : Int) : Int :=
  (h.senderState.get? src).elim cfg.maxSrpb SenderState.srpbBytes

/-- What is missing in the budget of the host is missing in the budgets of its senders. -/
def LedgerExact (cfg : HybridConfig) (h : Hybrid) : Prop :=
  h.budgetBytes + h.senderState.sum (fun _ s => cfg.maxSrpb - s.srpbBytes) = cfg.maxBudgetBytes

/-- From `h` to `h'` the receiver takes `credit` out of the budget of `src`. -/
structure Charges (cfg : HybridConfig) (h h' : Hybrid) (src credit : Int) : Prop where
  srpb : ∀ s, h'.srpbOf cfg s = h.srpbOf cfg s - if s = src then credit else 0
  budget : h'.budgetBytes = h.budgetBytes - credit
  exact : h.LedgerExact cfg → h'.LedgerExact cfg

namespace Charges

variable {cfg : HybridConfig} {h h' h'' : Hybrid} {src a b : Int}

theorem trans (hFst : Charges cfg h h' src a) (hSnd : Charges cfg h' h'' src b) :
    Charges cfg h h'' src (a + b) := by
  refine ⟨fun s => ?_, ?_, fun hExact => hSnd.exact (hFst.exact hExact)⟩
  · rw [hSnd.srpb, hFst.srpb]
    split <;> omega
  · rw [hSnd.budget, hFst.budget]
    omega

theorem amount (hCharges : Charges cfg h h' src a) (hEq : b = a) : Charges cfg h h' src b :=
  hEq ▸ hCharges

/-- Nothing of the ledger changes. -/
theorem of_same (hSenders : h'.senderState = h.senderState) (hBudget : h'.budgetBytes = h.budgetBytes)
    (src : Int) : Charges cfg h h' src 0 := by
  refine ⟨fun s => ?_, by omega, fun hExact => ?_⟩
  · rw [srpbOf, srpbOf, hSenders]
    split <;> omega
  · rw [LedgerExact, hSenders, hBudget]
    exact hExact

theorem congr_right (hCharges : Charges cfg h h' src a) (hSenders : h''.senderState = h'.senderState)
    (hBudget : h''.budgetBytes = h'.budgetBytes) : Charges cfg h h'' src a := by
  have hBoth := hCharges.trans (of_same hSenders hBudget src)
  rwa [add_zero] at hBoth

end Charges

variable (cfg : HybridConfig) (h : Hybrid)

/-- A sender is seen, possibly for the first time. -/
theorem charges_updateSenderState (addr window src : Int) :
    Charges cfg h (h.updateSenderState cfg addr window) src 0 := by
  have hGet : ((h.updateSenderState cfg addr window).senderState.get? addr) =
      some ⟨h.srpbOf cfg addr, window⟩ := Table.get?_set_self _ _ _
  have hOthers : ∀ l ≠ addr, (h.updateSenderState cfg addr window).senderState.get? l =
      h.senderState.get? l := fun l hl => Table.get?_set_of_ne _ _ hl
  refine ⟨fun s => ?_, (sub_zero _).symm, fun hExact => ?_⟩
  · rw [ite_self, sub_zero]
    by_cases hs : s = addr
    · rw [hs, srpbOf, hGet, Option.elim_some]
    · rw [srpbOf, srpbOf, hOthers s hs]
  · have hSum := h.senderState.sum_eq addr fun _ s => cfg.maxSrpb - s.srpbBytes
    rw [LedgerExact, hSum] at hExact
    rw [LedgerExact, Table.sum_eq _ addr, hGet, Option.elim_some,
      Table.sum_erase_congr hOthers fun _ _ _ => rfl, ← hExact]
    rw [srpbOf]
    cases h.senderState.get? addr with
    | none => simp [updateSenderState]
    | some s => simp [updateSenderState]

theorem charges_charge {src : Int} (hKey : src ∈ h.senderState.keys) (credit : Int) :
    Charges cfg h (h.charge src credit) src credit := by
  obtain ⟨s, hState⟩ : ∃ s, h.senderState.get? src = some s :=
    ⟨_, Table.get?_eq_some.mpr ⟨hKey, rfl⟩⟩
  have hSenders : (h.charge src credit).senderState =
      h.senderState.set src { s with srpbBytes := s.srpbBytes - credit } := by
    simp only [charge, chargeSender, hState]
  have hOthers : ∀ l ≠ src, (h.charge src credit).senderState.get? l = h.senderState.get? l := by
    intro l hl
    rw [hSenders, Table.get?_set_of_ne _ _ hl]
  have hGet : (h.charge src credit).senderState.get? src =
      some { s with srpbBytes := s.srpbBytes - credit } := by
    rw [hSenders, Table.get?_set_self]
  refine ⟨fun l => ?_, rfl, fun hExact => ?_⟩
  · by_cases hl : l = src
    · rw [hl, srpbOf, srpbOf, hGet, hState, if_pos rfl]
      rfl
    · rw [srpbOf, srpbOf, hOthers l hl, if_neg hl, sub_zero]
  · rw [LedgerExact, Table.sum_eq _ src, hState, Option.elim_some] at hExact
    rw [LedgerExact, Table.sum_eq _ src, hGet, Option.elim_some,
      Table.sum_erase_congr hOthers fun _ _ _ => rfl, ← hExact]
    show h.budgetBytes - credit + (cfg.maxSrpb - (s.srpbBytes - credit) + _) =
      h.budgetBytes + (cfg.maxSrpb - s.srpbBytes + _)
    omega

theorem settleMsg_budget (id : UniqReqId) (m : InboundMsgState) :
    (h.settleMsg id m).budgetBytes = h.budgetBytes := by
  rw [settleMsg]
  split <;> rfl

theorem charges_replenish {src : Int} (hKey : src ∈ h.senderState.keys) (size : Nat) :
    Charges cfg h (h.replenish src size) src (-(wireBytes size : Int)) :=
  (charges_charge cfg h hKey _).congr_right rfl rfl

/-- All senders have their share: so has the host. -/
theorem LedgerExact.budget_eq {cfg : HybridConfig} {h : Hybrid} (hExact : h.LedgerExact cfg)
    (hShare : ∀ src, h.srpbOf cfg src = cfg.maxSrpb) : h.budgetBytes = cfg.maxBudgetBytes := by
  have hZero : h.senderState.sum (fun _ s => cfg.maxSrpb - s.srpbBytes) = 0 := by
    apply Finset.sum_eq_zero
    intro src hSrc
    have hEq := hShare src
    rw [srpbOf, Table.get?_eq_some.mpr ⟨hSrc, rfl⟩, Option.elim_some] at hEq
    exact sub_eq_zero.mpr hEq.symm
  rw [LedgerExact, hZero, add_zero] at hExact
  exact hExact

end Hybrid

/-! ## Credit of a message -/

/-- The credit of its own that the receiver has accounted for, less what arrived data has given
back. -/
def creditAbroad (m : OutboundMsgState) (l : MsgLog) : Int :=
  (if l.announced then (m.selfAllocCredit : Int) else 0) -
    (∑ i ∈ l.arrived, pktWire m.totalBytes i : Nat)

/-- What the data of the message has used, beyond the credit of its own. -/
def creditSpent (m : OutboundMsgState) : Int :=
  addHeaderOverhead m.bytesSent false - m.selfAllocCredit

/-- The credit of grants to `src`. -/
def creditTo (src : Int) (grants : Multiset Hybrid.Grant) : Int :=
  (grants.map fun g => if g.dst = src then g.credit else 0).sum

@[simp] theorem creditTo_zero (src : Int) : creditTo src 0 = 0 := rfl

@[simp] theorem creditTo_cons (src : Int) (g : Hybrid.Grant) (grants : Multiset Hybrid.Grant) :
    creditTo src (g ::ₘ grants) = (if g.dst = src then g.credit else 0) + creditTo src grants := by
  simp [creditTo]

@[simp] theorem creditTo_add (src : Int) (s t : Multiset Hybrid.Grant) :
    creditTo src (s + t) = creditTo src s + creditTo src t := by
  simp [creditTo]

namespace HybridNet

/-- The sum of `f` over the messages of `src`. -/
def sumFrom (n : HybridNet) (src : Int) (f : OutboundMsgState → MsgLog → Int) : Int :=
  n.msgs.sum fun id m => if m.src = src then f m (n.log id) else 0

variable {n n' : HybridNet} {id : UniqReqId} {src : Int} {f : OutboundMsgState → MsgLog → Int}

/-- One message changes. -/
theorem sumFrom_change {m m' : OutboundMsgState} (hMsg : n.msgs.get? id = some m)
    (hMsg' : n'.msgs.get? id = some m') (hMsgs : ∀ l ≠ id, n'.msgs.get? l = n.msgs.get? l)
    (hLog : ∀ l ≠ id, n'.log l = n.log l) (hSrc : m'.src = m.src) (src : Int)
    (f : OutboundMsgState → MsgLog → Int) :
    n'.sumFrom src f =
      n.sumFrom src f + if m.src = src then f m' (n'.log id) - f m (n.log id) else 0 := by
  rw [sumFrom, sumFrom, Table.sum_eq _ id, Table.sum_eq n.msgs id, hMsg, hMsg', Option.elim_some,
    Option.elim_some, Table.sum_erase_congr hMsgs (fun l hl v => by rw [hLog l hl]), hSrc]
  split <;> omega

/-- The log of one message changes. -/
theorem sumFrom_log {m : OutboundMsgState} {l : MsgLog} (hMsg : n.msgs.get? id = some m)
    (hMsgs : n'.msgs = n.msgs) (hLog : n'.log = Function.update n.log id l) (src : Int)
    (f : OutboundMsgState → MsgLog → Int) :
    n'.sumFrom src f =
      n.sumFrom src f + if m.src = src then f m l - f m (n.log id) else 0 := by
  have hMsg' : n'.msgs.get? id = some m := hMsgs ▸ hMsg
  rw [sumFrom_change hMsg hMsg' (fun _ _ => by rw [hMsgs])
    (fun l hl => by rw [hLog, Function.update_of_ne hl]) rfl, hLog, Function.update_self]

/-- A message is new. -/
theorem sumFrom_new {m : OutboundMsgState} (hNew : n.msgs.get? id = none)
    (hZero : f m (n.log id) = 0) : (n.setMsg id m).sumFrom src f = n.sumFrom src f := by
  have hOthers : ∀ l ≠ id, (n.setMsg id m).msgs.get? l = n.msgs.get? l :=
    fun l hl => Table.get?_set_of_ne _ _ hl
  rw [sumFrom, sumFrom, Table.sum_eq _ id, Table.sum_eq n.msgs id, hNew,
    show (n.setMsg id m).msgs.get? id = some m from Table.get?_set_self _ _ _, Option.elim_some,
    Option.elim_none, Table.sum_erase_congr hOthers (fun _ _ _ => rfl)]
  show (if m.src = src then f m (n.log id) else 0) + _ = _
  rw [hZero, ite_self]
  rfl

end HybridNet

/-! ## Packets -/

section Packets

variable {cfg : HybridConfig} {m : OutboundMsgState} {id : UniqReqId} {l : MsgLog} {p : Packet}
  {h h' : Hybrid} {counted : Bool}

theorem creditAbroad_of_scheduled (hm : m.Ok cfg) (hScheduled : m.isScheduled = true) (l : MsgLog) :
    creditAbroad m l = -(∑ i ∈ l.arrived, pktWire m.totalBytes i : Nat) := by
  rw [creditAbroad, (hm.scheduled hScheduled).1]
  split <;> simp

/-- What is not counted tells nothing new. -/
theorem received_ignored (hTracks : Tracks m (h.inbound.get? id) l) :
    (l.received p false (h.inbound.get? id)).announced = l.announced := by
  have hStage := hTracks.stage
  generalize h.inbound.get? id = inb at hStage
  cases hStage with
  | unknown hNew _ _ => simp [MsgLog.received, hNew]
  | early hNew _ _ _ _ _ => simp [MsgLog.received, hNew, unannounced]
  | tracked _ hKnown _ _ _ => simp [MsgLog.received, hKnown]
  | deleted hKnown _ _ _ => simp [MsgLog.received, hKnown]

/-- The receiver knows a message that it has counted data of and that it still has, or not. -/
theorem received_settled (l : MsgLog) (p : Packet) (id : UniqReqId) {im : InboundMsgState}
    (hInfo : im.receivedMsgInfo = true) (t : Hybrid) :
    (l.received p true ((t.settleMsg id im).inbound.get? id)).announced = true ∧
      (l.received p true ((t.settleMsg id im).inbound.get? id)).arrived =
        insert p.pktIndex l.arrived := by
  refine ⟨?_, rfl⟩
  rw [Hybrid.settleMsg_inbound]
  split
  · rw [Table.get?_erase_self]
    simp [MsgLog.received]
  · rw [Table.get?_set_self]
    simp [MsgLog.received, hInfo]

/-- A packet moves credit by what it announces and what it brings. -/
theorem Outcome.charges (hm : m.Ok cfg) (hKey : m.src ∈ h.senderState.keys)
    (hTracks : Tracks m (h.inbound.get? id) l) (hOut : Outcome m id l p h counted h') :
    h.Charges cfg h' m.src (creditAbroad m (l.received p counted (h'.inbound.get? id)) -
      creditAbroad m l) := by
  have hReplenish (h : Hybrid) (hKey : m.src ∈ h.senderState.keys) :
      h.Charges cfg (h.replenish m.src (pktPayload m.totalBytes p.pktIndex)) m.src
        (-(pktWire m.totalBytes p.pktIndex : Int)) := h.charges_replenish cfg hKey _
  have hInsert (hFresh : p.pktIndex ∉ l.arrived) :
      ∑ i ∈ insert p.pktIndex l.arrived, pktWire m.totalBytes i =
        pktWire m.totalBytes p.pktIndex + ∑ i ∈ l.arrived, pktWire m.totalBytes i :=
    Finset.sum_insert hFresh
  cases hOut with
  | ignored =>
    refine (Hybrid.Charges.of_same rfl rfl m.src).amount ?_
    have hArrived : (l.received p false (h.inbound.get? id)).arrived = l.arrived := rfl
    rw [creditAbroad, creditAbroad, received_ignored hTracks, hArrived, sub_self]
  | announced _ hScheduled _ _ _ _ =>
    refine Hybrid.Charges.amount (.of_same ?_ ?_ m.src) ?_
    · rfl
    · rfl
    · rw [creditAbroad_of_scheduled hm hScheduled, creditAbroad_of_scheduled hm hScheduled]
      exact sub_self _
  | early hScheduled _ _ _ hFresh =>
    refine Hybrid.Charges.amount ((hReplenish h hKey).congr_right ?_ ?_) ?_
    · rfl
    · rfl
    · rw [creditAbroad_of_scheduled hm hScheduled, creditAbroad_of_scheduled hm hScheduled]
      show -((∑ i ∈ insert p.pktIndex l.arrived, pktWire m.totalBytes i : Nat) : Int) - _ = _
      rw [hInsert hFresh]
      omega
  | counted im hKnown _ hFresh hTracked =>
    obtain ⟨hInfo, hArrived⟩ := received_settled l p id hTracked.info
      (h.replenish m.src (pktPayload m.totalBytes p.pktIndex))
    refine Hybrid.Charges.amount ((hReplenish h hKey).congr_right ?_ ?_) ?_
    · exact Hybrid.settleMsg_senderState _ _ _
    · exact Hybrid.settleMsg_budget _ _ _
    · rw [creditAbroad, creditAbroad, hInfo, hArrived, hKnown, hInsert hFresh, if_pos rfl]
      omega
  | first im _ hNew _ hNone _ hTracked =>
    obtain ⟨hInfo, hArrived⟩ := received_settled l p id hTracked.info
      ((((h.addRequestRcvd m.totalBytes).charge m.src m.selfAllocCredit).addCreditGranted
        m.selfAllocCredit).replenish m.src (pktPayload m.totalBytes p.pktIndex))
    have hOwn : h.Charges cfg (((h.addRequestRcvd m.totalBytes).charge m.src
        m.selfAllocCredit).addCreditGranted m.selfAllocCredit) m.src m.selfAllocCredit := by
      have hSame : h.Charges cfg (h.addRequestRcvd m.totalBytes) m.src 0 :=
        .of_same (by rfl) (by rfl) m.src
      have hKnown : m.src ∈ (h.addRequestRcvd m.totalBytes).senderState.keys := hKey
      have hCharge := (h.addRequestRcvd m.totalBytes).charges_charge cfg hKnown m.selfAllocCredit
      exact ((hSame.trans hCharge).congr_right (by rfl) (by rfl)).amount (zero_add _).symm
    have hKey' : m.src ∈ (((h.addRequestRcvd m.totalBytes).charge m.src
        m.selfAllocCredit).addCreditGranted m.selfAllocCredit).senderState.keys := by
      show m.src ∈ ((h.addRequestRcvd m.totalBytes).charge m.src m.selfAllocCredit).senderState.keys
      rw [Hybrid.charge_keys]
      exact hKey
    refine Hybrid.Charges.amount ((hOwn.trans (hReplenish _ hKey')).congr_right ?_ ?_) ?_
    · exact Hybrid.settleMsg_senderState _ _ _
    · exact Hybrid.settleMsg_budget _ _ _
    · have hFresh : p.pktIndex ∉ l.arrived := by
        rw [hNone]
        exact Finset.notMem_empty _
      rw [creditAbroad, creditAbroad, hInfo, hArrived, hNew, hInsert hFresh, hNone, if_pos rfl,
        if_neg nofun]
      omega

end Packets

/-! ## The balances -/

namespace HybridNet

structure Conserved (cfg : HybridConfig) (n : HybridNet) : Prop where
  receiver : ∀ src, n.rx.srpbOf cfg src + creditTo src n.issued + n.sumFrom src creditAbroad =
    cfg.maxSrpb
  sender : ∀ src, n.availCreditBytes src + n.sumFrom src (fun m _ => creditSpent m) =
    creditTo src n.reached
  exact : n.rx.LedgerExact cfg

theorem conserved_init (cfg : HybridConfig) : Conserved cfg { rx := Hybrid.new cfg } := by
  refine ⟨fun src => ?_, fun src => rfl, ?_⟩
  · show cfg.maxSrpb + 0 + 0 = cfg.maxSrpb
    omega
  · show cfg.maxBudgetBytes + 0 = cfg.maxBudgetBytes
    omega

variable {cfg : HybridConfig} {addr : Int} {n n' : HybridNet} {id : UniqReqId}

/-- What the receiver takes out of a budget is what is issued and announced then. -/
theorem Conserved.of_charges (h : Conserved cfg n) {src credit : Int}
    (hCharges : n.rx.Charges cfg n'.rx src credit)
    (hReceiver : ∀ s, creditTo s n'.issued + n'.sumFrom s creditAbroad =
      creditTo s n.issued + n.sumFrom s creditAbroad + if s = src then credit else 0)
    (hSender : ∀ s, n'.availCreditBytes s + n'.sumFrom s (fun m _ => creditSpent m) +
        creditTo s n.reached =
      n.availCreditBytes s + n.sumFrom s (fun m _ => creditSpent m) + creditTo s n'.reached) :
    Conserved cfg n' := by
  refine ⟨fun s => ?_, fun s => ?_, hCharges.exact h.exact⟩
  · have hOld := h.receiver s
    have hNew := hReceiver s
    rw [hCharges.srpb]
    omega
  · have hOld := h.sender s
    have hNew := hSender s
    omega

/-- The ledger of the receiver stays as it is. -/
theorem Conserved.of_uncharged (h : Conserved cfg n)
    (hSenders : n'.rx.senderState = n.rx.senderState) (hBudget : n'.rx.budgetBytes = n.rx.budgetBytes)
    (hReceiver : ∀ s, creditTo s n'.issued + n'.sumFrom s creditAbroad =
      creditTo s n.issued + n.sumFrom s creditAbroad)
    (hSender : ∀ s, n'.availCreditBytes s + n'.sumFrom s (fun m _ => creditSpent m) +
        creditTo s n.reached =
      n.availCreditBytes s + n.sumFrom s (fun m _ => creditSpent m) + creditTo s n'.reached) :
    Conserved cfg n' := by
  refine h.of_charges (Hybrid.Charges.of_same hSenders hBudget 0) ?_ hSender
  intro s
  rw [hReceiver s, ite_self, add_zero]

/-- The receiver and its messages stay as they are. -/
theorem Conserved.frame (h : Conserved cfg n) (hRx : n'.rx = n.rx) (hMsgs : n'.msgs = n.msgs)
    (hLog : ∀ l, (n'.log l).arrived = (n.log l).arrived ∧
      (n'.log l).announced = (n.log l).announced) (hIssued : n'.issued = n.issued)
    (hSender : ∀ s, n'.availCreditBytes s + creditTo s n.reached =
      n.availCreditBytes s + creditTo s n'.reached) : Conserved cfg n' := by
  have hSum (s : Int) : n'.sumFrom s creditAbroad = n.sumFrom s creditAbroad := by
    rw [sumFrom, sumFrom, hMsgs]
    congr 1
    funext l m
    rw [creditAbroad, creditAbroad, (hLog l).1, (hLog l).2]
  refine h.of_uncharged (by rw [hRx]) (by rw [hRx]) ?_ ?_
  · intro s
    rw [hIssued, hSum]
  · intro s
    have hEq := hSender s
    rw [show n'.sumFrom s (fun m _ => creditSpent m) = n.sumFrom s (fun m _ => creditSpent m) by
      rw [sumFrom, sumFrom, hMsgs]]
    omega

/-- A message moves on at its sender. -/
theorem Conserved.send (h : Conserved cfg n) {m m' : OutboundMsgState} (avail : Int)
    (hMsg : n.msgs.get? id = some m) (hSrc : m'.src = m.src)
    (hAbroad : creditAbroad m' (n.log id) = creditAbroad m (n.log id))
    (hSpent : avail + creditSpent m' = n.availCreditBytes m.src + creditSpent m)
    (hMsgs : n'.msgs = n.msgs.set id m') (hRx : n'.rx = n.rx) (hLog : n'.log = n.log)
    (hAvail : n'.availCreditBytes = Function.update n.availCreditBytes m.src avail)
    (hIssued : n'.issued = n.issued) (hReached : n'.reached = n.reached) : Conserved cfg n' := by
  have hMsg' : n'.msgs.get? id = some m' := by rw [hMsgs, Table.get?_set_self]
  have hChange := sumFrom_change hMsg hMsg'
    (fun l hl => by rw [hMsgs, Table.get?_set_of_ne _ _ hl]) (fun l _ => by rw [hLog]) hSrc
  refine h.of_uncharged (by rw [hRx]) (by rw [hRx]) ?_ ?_
  · intro s
    rw [hIssued, hChange, hLog, hAbroad, sub_self, ite_self]
    omega
  · intro s
    rw [hReached, hChange, hAvail]
    by_cases hs : m.src = s
    · rw [if_pos hs, ← hs, Function.update_self]
      omega
    · rw [if_neg hs, Function.update_of_ne (Ne.symm hs)]
      omega

/-- No bounced grant comes back twice. -/
def BouncedOnce : HybridNetEvent → Prop
  | .duplicateBounced _ => False
  | _ => True

instance (e : HybridNetEvent) : Decidable (BouncedOnce e) := by
  apply HybridNetEvent.casesOn (motive := fun e => Decidable (BouncedOnce e)) e <;> intros <;>
    dsimp only [BouncedOnce] <;> infer_instance

namespace Conserved

theorem submit (h : Conserved cfg n) (hSound : Sound cfg n) {m : OutboundMsgState}
    (hOwn : m.selfAllocCredit = 0) (hUnsent : m.bytesSent = 0) (hOk : n.submit id m = some n') :
    Conserved cfg n' := by
  obtain ⟨hNew, -, -, rfl⟩ := submit_eq_some hOk
  have hUntouched := hSound.untouched id hNew
  have hAbroad : creditAbroad m (n.log id) = 0 := by
    rw [creditAbroad, hOwn, hUntouched.arrived, Finset.sum_empty]
    split <;> rfl
  have hSpent : creditSpent m = 0 := by
    rw [creditSpent, hUnsent, hOwn]
    rfl
  refine h.of_uncharged (by rfl) (by rfl) ?_ ?_
  · intro s
    rw [sumFrom_new hNew hAbroad]
    rfl
  · intro s
    rw [sumFrom_new (f := fun m _ => creditSpent m) hNew hSpent]
    rfl

/-- A message that is not active has not been announced. -/
theorem not_announced (hSound : Sound cfg n) {m : OutboundMsgState}
    (hMsg : n.msgs.get? id = some m) (hInactive : m.active = false) :
    (n.log id).announced = false := by
  have hStage := (hSound.tracks id m hMsg).stage
  generalize n.rx.inbound.get? id = inb at hStage
  cases hStage with
  | unknown hNew _ _ => exact hNew
  | early hNew _ _ _ _ _ => exact hNew
  | tracked _ _ _ hActive _ =>
    rw [hInactive] at hActive
    cases hActive
  | deleted _ _ hActive _ =>
    rw [hInactive] at hActive
    cases hActive

theorem activate (h : Conserved cfg n) (hSound : Sound cfg n) (hOk : n.activate cfg id = some n') :
    Conserved cfg n' := by
  obtain ⟨m, m', avail, pkt, hMsg, hActivate, rfl⟩ := activate_eq_some hOk
  have hm := hSound.msgs id m hMsg
  obtain ⟨hInactive, hCases⟩ := OutboundMsgState.activate_cases hActivate
  have hNew := not_announced hSound hMsg hInactive
  have hOwn := (hm.scheduled (hm.inactive hInactive).2.1).1
  have hSrc : m'.src = m.src := by
    rcases hCases with ⟨-, -, -, rfl, -⟩ | ⟨-, -, rfl, -⟩ <;> rfl
  obtain ⟨hTotal, -, -, hBytes⟩ := OutboundMsgState.activate_same hActivate
  refine h.send _ hMsg hSrc ?_ ?_ rfl rfl rfl (by rw [hSrc]) rfl rfl
  · rw [creditAbroad, creditAbroad, hNew, if_neg nofun, if_neg nofun, hTotal]
  · rw [creditSpent, creditSpent, hBytes, hOwn]
    rcases hCases with ⟨-, -, -, -, hAvail⟩ | ⟨-, -, rfl, hAvail⟩
    · omega
    · rw [hAvail]
      show n.availCreditBytes m.src + (_ - (m.selfAllocCredit : Int)) = _
      rw [hOwn]

theorem sendData (h : Conserved cfg n) (hSound : Sound cfg n) (hOk : n.sendData id = some n') :
    Conserved cfg n' := by
  obtain ⟨m, m', avail, pkt, hMsg, hSend, rfl⟩ := sendData_eq_some hOk
  obtain ⟨-, hStart, hUnsent, -, hSent, hSame, -, hAvail, -⟩ :=
    (hSound.msgs id m hMsg).sendData_cases hSend
  refine h.send _ hMsg hSame.src ?_ ?_ rfl rfl rfl (by rw [hSame.src]) rfl rfl
  · rw [creditAbroad, creditAbroad, hSame.selfAllocCredit, hSame.totalBytes]
  · have hPos : 0 < pktPayload m.totalBytes m.nextPkt := pktPayload_pos (by omega)
    have hFull : m.bytesSent % maxR2p2Payload = 0 := by
      rw [hStart]
      exact Nat.mul_mod_left _ _
    rw [creditSpent, creditSpent, hSame.selfAllocCredit, hSent, hAvail,
      addHeaderOverhead_add hFull hPos (pktPayload_le _ _), pktWire]
    omega

theorem retransmit (h : Conserved cfg n) (hSound : Sound cfg n)
    (hOk : n.retransmit id = some n') : Conserved cfg n' := by
  obtain ⟨m, m', pkt, hMsg, hSend, rfl⟩ := retransmit_eq_some hOk
  obtain ⟨-, hSame, hBytes, -⟩ := (hSound.msgs id m hMsg).retransmit_cases hSend
  refine h.send (n.availCreditBytes m.src) hMsg hSame.src ?_ ?_ rfl rfl rfl ?_ rfl rfl
  · rw [creditAbroad, creditAbroad, hSame.selfAllocCredit, hSame.totalBytes]
  · rw [creditSpent, creditSpent, hSame.selfAllocCredit, hBytes]
  · exact (Function.update_eq_self _ _).symm

theorem receiveResend (h : Conserved cfg n) (hSound : Sound cfg n) {r : Resend}
    (hOk : n.receiveResend r = some n') : Conserved cfg n' := by
  obtain ⟨m, m', hMsg, -, -, hSame, hBytes, rfl⟩ := hSound.receiveResend_cases hOk
  refine h.send (n.availCreditBytes m.src) hMsg hSame.src ?_ ?_ rfl rfl rfl ?_ rfl rfl
  · rw [creditAbroad, creditAbroad, hSame.selfAllocCredit, hSame.totalBytes]
  · rw [creditSpent, creditSpent, hSame.selfAllocCredit, hBytes]
  · exact (Function.update_eq_self _ _).symm

/-! ## The receiver -/

theorem deliver (h : Conserved cfg n) (hSound : Sound cfg n) {pkt : Packet} {window : Int}
    (hPkt : pkt ∈ n.toRx) (hTimely : Timely (n.log pkt.reqId) pkt)
    (hOk : n.deliver cfg pkt window = some n') : Conserved cfg n' := by
  obtain ⟨rx, layer, size, hRecv, -, hEq⟩ := deliver_eq_some hOk
  obtain ⟨m, hMsg, hPacket⟩ := hSound.packets pkt hPkt
  have hm := hSound.msgs _ m hMsg
  have hFacts := hPacket.facts hm
  have hTracks := hSound.tracks _ m hMsg
  have hOut := Hybrid.deliver_cases hm hPacket hTracks hTimely hRecv
  have hMsgs : n'.msgs = n.msgs := by rw [hEq]
  have hChange := sumFrom_log hMsg hMsgs (by rw [hEq])
  have hKey : m.src ∈ (n.rx.updateSenderState cfg pkt.src window).senderState.keys := by
    rw [Hybrid.updateSenderState_keys, hFacts.src]
    exact Finset.mem_insert_self _ _
  have hBefore : Tracks m ((n.rx.updateSenderState cfg pkt.src window).inbound.get? pkt.reqId)
      (n.log pkt.reqId) := hTracks
  have hCharges := (n.rx.charges_updateSenderState cfg pkt.src window m.src).trans
    (hOut.charges hm hKey hBefore)
  refine h.of_charges (by rw [hEq]; exact hCharges) ?_ ?_
  · intro s
    have hIssued : n'.issued = n.issued := by rw [hEq]; rfl
    rw [hChange, hIssued, zero_add, ← add_assoc]
    congr 1
    exact if_congr eq_comm rfl rfl
  · intro s
    rw [hChange, sub_self, ite_self, add_zero, hEq]

theorem bounceBack (h : Conserved cfg n) (hSound : Sound cfg n) {g : Hybrid.Grant} {window : Int}
    {rx : Hybrid} (hg : g ∈ n.bounced) (hRecv : n.rx.recv cfg g.bounced window = .ok rx) :
    Conserved cfg { n with rx := rx, bounced := n.bounced.erase g } := by
  have hIssued := issued_bounceBack hg
  obtain ⟨m, hMsg, -, hGrant⟩ := hSound.grants g (by rw [← hIssued]; exact Multiset.mem_cons_self _ _)
  obtain ⟨d, -, -, hCredit, -⟩ := hGrant.data
  have hPos : 0 < g.credit := by
    rw [hCredit, wireBytes, minEthernetFrameOnWire]
    omega
  have hCharges : n.rx.Charges cfg rx g.dst (0 + -g.credit) := by
    have hKey : g.dst ∈ (n.rx.updateSenderState cfg g.dst window).senderState.keys :=
      Finset.mem_insert_self _ _
    rw [Hybrid.recv_bounced hPos hRecv]
    have hBoth := (n.rx.charges_updateSenderState cfg g.dst window g.dst).trans
      (Hybrid.charges_charge cfg _ hKey (-g.credit))
    split
    · exact hBoth
    · exact hBoth.congr_right (by rfl) (by rfl)
  refine h.of_charges hCharges ?_ (fun _ => rfl)
  intro s
  have hCredit : creditTo s n.issued = (if g.dst = s then g.credit else 0) +
      creditTo s (n.toTx + n.bounced.erase g + n.reached + n.lost) := by
    rw [← hIssued, creditTo_cons]
  show creditTo s (n.toTx + n.bounced.erase g + n.reached + n.lost) + n.sumFrom s creditAbroad = _
  rw [hCredit]
  by_cases hs : g.dst = s
  · rw [if_pos hs, if_pos hs.symm]
    omega
  · rw [if_neg hs, if_neg (Ne.symm hs)]
    omega

theorem sendGrant (h : Conserved cfg n) (hSound : Sound cfg n)
    (hOk : n.sendGrant cfg id = some n') : Conserved cfg n' := by
  obtain ⟨rx, g, hGrant, hEq⟩ := sendGrant_eq_some hOk
  have hSum (s : Int) (f : OutboundMsgState → MsgLog → Int)
      (hf : ∀ m b, f m { n.log id with completed := b } = f m (n.log id)) :
      n'.sumFrom s f = n.sumFrom s f := by
    rw [sumFrom, sumFrom, hEq]
    congr 1
    funext l m
    show (if m.src = s then f m (Function.update n.log id _ l) else 0) = _
    by_cases hl : l = id
    · rw [hl, Function.update_self, hf]
    · rw [Function.update_of_ne hl]
  have hIssued : n'.issued = g.elim 0 ({·}) + n.issued := by
    rw [hEq, issued, issued]
    simp only [add_assoc]
  have hSender (s : Int) : n'.availCreditBytes s + n'.sumFrom s (fun m _ => creditSpent m) +
        creditTo s n.reached =
      n.availCreditBytes s + n.sumFrom s (fun m _ => creditSpent m) + creditTo s n'.reached := by
    rw [hSum s _ fun _ _ => rfl, hEq]
  have hRx : n'.rx = rx := by rw [hEq]
  rcases hSound.sendGrant_cases hGrant with ⟨rfl, rfl⟩ |
    ⟨m, im, hMsg, hState, -, -, -, -, ⟨-, rfl, rfl⟩ | ⟨d, -, -, -, -, rfl, -, rfl⟩⟩
  · refine h.of_uncharged (by rw [hRx]) (by rw [hRx]) ?_ hSender
    intro s
    rw [hIssued, hSum s _ fun _ _ => rfl, Option.elim_none, zero_add]
  · refine h.of_uncharged (by rw [hRx]; rfl) (by rw [hRx]; rfl) ?_ hSender
    intro s
    rw [hIssued, hSum s _ fun _ _ => rfl, Option.elim_none, zero_add]
  · have hKey := hSound.senders id m hMsg (by rw [hState]; exact Option.some_ne_none _)
    have hCharges := n.rx.charges_charge cfg hKey (wireBytes d)
    refine h.of_charges (hCharges.congr_right (by rw [hRx]; rfl) (by rw [hRx]; rfl)) ?_ hSender
    intro s
    rw [hIssued, hSum s _ fun _ _ => rfl, Option.elim_some, creditTo_add, ← Multiset.cons_zero,
      creditTo_cons, creditTo_zero]
    show (if m.src = s then (wireBytes d : Int) else 0) + 0 + _ + _ = _
    by_cases hs : m.src = s
    · rw [if_pos hs, if_pos hs.symm]
      omega
    · rw [if_neg hs, if_neg (Ne.symm hs)]
      omega

/-! ## Any step -/

theorem step (h : Conserved cfg n) (hSound : Sound cfg n) {e : HybridNetEvent}
    (hTimely : TimelyStep n e) (hOnce : BouncedOnce e) (hStep : n.step cfg addr e = some n') :
    Conserved cfg n' := by
  have hSame (l : UniqReqId) : (n.log l).arrived = (n.log l).arrived ∧
      (n.log l).announced = (n.log l).announced := ⟨rfl, rfl⟩
  cases e with
  | submitRequest id src bytes =>
    rw [HybridNet.step] at hStep
    split at hStep
    · exact h.submit hSound rfl rfl hStep
    · cases hStep
  | submitReply id src bytes =>
    rw [HybridNet.step] at hStep
    split at hStep
    · exact h.submit hSound rfl rfl hStep
    · cases hStep
  | sendReq id =>
    obtain ⟨-, rfl⟩ := Machine.of_guarded hStep
    refine h.frame rfl rfl (fun l => ?_) rfl fun _ => rfl
    show (Function.update n.log id _ l).arrived = _ ∧ (Function.update n.log id _ l).announced = _
    by_cases hl : l = id
    · rw [hl, Function.update_self]
      exact ⟨rfl, rfl⟩
    · rw [Function.update_of_ne hl]
      exact ⟨rfl, rfl⟩
  | sendResponse id =>
    obtain ⟨-, rfl⟩ := Machine.of_guarded hStep
    exact h.frame rfl rfl hSame rfl fun _ => rfl
  | collectGarbage id =>
    cases hStep
    exact h.frame rfl rfl hSame rfl fun _ => rfl
  | activate id => exact h.activate hSound hStep
  | sendData id => exact h.sendData hSound hStep
  | retransmit id => exact h.retransmit hSound hStep
  | receiveGrant g =>
    obtain ⟨hg, rfl⟩ := Machine.of_guarded hStep
    refine h.frame rfl rfl hSame (issued_receiveGrant hg) fun s => ?_
    show Function.update n.availCreditBytes g.dst _ s + _ = _ + creditTo s (g ::ₘ n.reached)
    rw [creditTo_cons]
    by_cases hs : g.dst = s
    · rw [if_pos hs, ← hs, Function.update_self]
      omega
    · rw [if_neg hs, Function.update_of_ne (Ne.symm hs)]
      omega
  | receiveResend r => exact h.receiveResend hSound hStep
  | deliver pkt window =>
    rw [HybridNet.step] at hStep
    split at hStep
    · rename_i hPkt
      exact h.deliver hSound hPkt hTimely hStep
    · cases hStep
  | bounceBack g window =>
    rw [HybridNet.step] at hStep
    split at hStep
    · rename_i hg
      obtain ⟨rx, hRecv, rfl⟩ := Option.map_eq_some_iff.mp hStep
      exact h.bounceBack hSound hg (toOption_eq_some.mp hRecv)
    · cases hStep
  | receiveOther src window =>
    cases hStep
    refine h.of_charges (n.rx.charges_updateSenderState cfg src window 0) ?_ fun _ => rfl
    intro s
    rw [ite_self, add_zero]
    rfl
  | sendGrant id => exact h.sendGrant hSound hStep
  | resendTimeout id =>
    cases hStep
    rw [HybridNet.resendTimeout]
    split
    · exact h
    · exact h.frame rfl rfl hSame rfl fun _ => rfl
  | bounce g =>
    obtain ⟨hg, rfl⟩ := Machine.of_guarded hStep
    exact h.frame rfl rfl hSame (issued_bounce hg) fun _ => rfl
  | lose pkt =>
    obtain ⟨-, rfl⟩ := Machine.of_guarded hStep
    exact h.frame rfl rfl hSame rfl fun _ => rfl
  | loseResend r =>
    obtain ⟨-, rfl⟩ := Machine.of_guarded hStep
    exact h.frame rfl rfl hSame rfl fun _ => rfl
  | loseGrant g =>
    obtain ⟨hg, rfl⟩ := Machine.of_guarded hStep
    exact h.frame rfl rfl hSame (issued_loseGrant hg) fun _ => rfl
  | loseBounced g =>
    obtain ⟨hg, rfl⟩ := Machine.of_guarded hStep
    exact h.frame rfl rfl hSame (issued_loseBounced hg) fun _ => rfl
  | duplicate pkt =>
    obtain ⟨-, rfl⟩ := Machine.of_guarded hStep
    exact h.frame rfl rfl hSame rfl fun _ => rfl
  | duplicateBounced g => exact absurd hOnce id

end Conserved

end HybridNet

end Dpdq.Ns2
