import Dpdq.Ns2.HybridSoundStep
import Dpdq.Ns2.R2p2LayerStep

/-!
# The application gets every message once

The receiver tells by its bitmap which packets it has counted, the R2P2 layer only counts packets.
As long as the deliveries are timely, the two agree: what is passed up is what was not passed up
before (`Delivers`), so that a message goes to the application with its last packet, and never
again. A packet of a complete message that is not marked as a retransmission is counted once more.
-/

namespace Dpdq.Ns2

open Dpdq.Lib

variable {cfg : HybridConfig} {addr : Int}

/-! ## Messages that grow -/

theorem allPkts_congr {m m' : OutboundMsgState} (hTotal : m'.totalBytes = m.totalBytes) :
    allPkts m' = allPkts m := by
  rw [allPkts, allPkts, hTotal]

theorem RequestStage.congr {m m' : OutboundMsgState} {seen : Finset Nat}
    {s : Option ServerRequestState} {deliveries : List Nat}
    (h : RequestStage m seen s deliveries) (hTotal : m'.totalBytes = m.totalBytes) :
    RequestStage m' seen s deliveries := by
  have hAll := allPkts_congr hTotal
  have hAfter : ServerRequestState.after m seen = .after m' seen := by
    simp only [ServerRequestState.after, hTotal]
  cases h with
  | unknown hNone => exact .unknown hNone
  | counting hMissing =>
    rw [hAfter]
    exact .counting (hAll ▸ hMissing)
  | delivered hDone s =>
    rw [← hTotal]
    exact .delivered (hDone.trans hAll.symm) s

theorem ReplyStage.congr {m m' : OutboundMsgState} {seen : Finset Nat}
    {c : Option ClientRequestState} {deliveries : List Nat}
    (h : ReplyStage m seen c deliveries) (hTotal : m'.totalBytes = m.totalBytes) :
    ReplyStage m' seen c deliveries := by
  have hAll := allPkts_congr hTotal
  have hAfter : ClientRequestState.after m seen = .after m' seen := by
    simp only [ClientRequestState.after, hTotal]
  cases h with
  | counting hMissing =>
    rw [hAfter]
    exact .counting (hAll ▸ hMissing)
  | delivered hDone =>
    rw [← hTotal]
    exact .delivered (hDone.trans hAll.symm)

/-! ## The invariant -/

namespace HybridNet

/-- What the R2P2 layer has counted of a message is what has reached the host. -/
structure Passed (addr : Int) (id : UniqReqId) (m : OutboundMsgState) (l : MsgLog)
    (layer : R2p2Layer) : Prop where
  seen_eq : m.isSinglePktReply = false → l.seen = l.arrived
  seen_sent : ∀ i ∈ l.seen, i * maxR2p2Payload < m.bytesSent
  request : m.isRequest = true →
    id.clAddr ≠ addr ∧ RequestStage m l.seen (layer.server.get? id) l.deliveries
  reply : m.isRequest = false →
    l.opened = true ∧ ReplyStage m l.seen (layer.client.get? id) l.deliveries

/-- Nothing of the message has reached the host. A client waits for the reply to what it has
sent. -/
structure Idle (id : UniqReqId) (l : MsgLog) (layer : R2p2Layer) : Prop where
  seen : l.seen = ∅
  deliveries : l.deliveries = []
  server : layer.server.get? id = none
  client : l.opened = true → layer.client.get? id = some {}

structure Delivers (addr : Int) (n : HybridNet) : Prop where
  passed : ∀ id m, n.msgs.get? id = some m → Passed addr id m (n.log id) n.layer
  idle : ∀ id, n.msgs.get? id = none → Idle id (n.log id) n.layer

theorem delivers_init (cfg : HybridConfig) (addr : Int) :
    Delivers addr { rx := Hybrid.new cfg } where
  passed _ _ hm := absurd hm (Table.get?_empty_ne _ _)
  idle _ _ := ⟨rfl, rfl, rfl, nofun⟩

/-- Of a message and its log, only this counts. -/
theorem Passed.congr {id : UniqReqId} {m m' : OutboundMsgState} {l l' : MsgLog}
    {layer layer' : R2p2Layer} (h : Passed addr id m l layer)
    (hTotal : m'.totalBytes = m.totalBytes) (hRequest : m'.isRequest = m.isRequest)
    (hPktId : m'.pktId = m.pktId) (hBytes : m.bytesSent ≤ m'.bytesSent)
    (hSeen : l'.seen = l.seen) (hArrived : l'.arrived = l.arrived)
    (hDeliveries : l'.deliveries = l.deliveries) (hOpened : l.opened = true → l'.opened = true)
    (hServer : m.isRequest = true → layer'.server.get? id = layer.server.get? id)
    (hClient : m.isRequest = false → layer'.client.get? id = layer.client.get? id) :
    Passed addr id m' l' layer' := by
  refine ⟨?_, ?_, ?_, ?_⟩
  · intro hMulti
    rw [hSeen, hArrived]
    apply h.seen_eq
    rw [← hMulti, OutboundMsgState.isSinglePktReply, OutboundMsgState.isSinglePktReply, hRequest,
      hPktId]
  · rw [hSeen]
    exact fun i hi => Nat.lt_of_lt_of_le (h.seen_sent i hi) hBytes
  · intro hType
    rw [hRequest] at hType
    rw [hSeen, hDeliveries, hServer hType]
    exact (h.request hType).imp_right fun hStage => hStage.congr hTotal
  · intro hType
    rw [hRequest] at hType
    rw [hSeen, hDeliveries, hClient hType]
    exact (h.reply hType).imp hOpened fun hStage => hStage.congr hTotal

variable {n n' : HybridNet} {id : UniqReqId}

namespace Delivers

/-- A message moves on at its sender. -/
theorem send (h : Delivers addr n) {m m' : OutboundMsgState} (hMsg : n.msgs.get? id = some m)
    (hTotal : m'.totalBytes = m.totalBytes) (hRequest : m'.isRequest = m.isRequest)
    (hPktId : m'.pktId = m.pktId) (hBytes : m.bytesSent ≤ m'.bytesSent)
    (hMsgs : n'.msgs = n.msgs.set id m') (hLayer : n'.layer = n.layer) (hLog : n'.log = n.log) :
    Delivers addr n' := by
  refine ⟨?_, ?_⟩
  · intro l k hGet
    rw [hLog, hLayer]
    rw [hMsgs] at hGet
    by_cases hl : l = id
    · subst hl
      rw [Table.get?_set_self] at hGet
      cases hGet
      exact (h.passed l m hMsg).congr hTotal hRequest hPktId hBytes rfl rfl rfl (fun hOld => hOld)
        (fun _ => rfl) fun _ => rfl
    · rw [Table.get?_set_of_ne _ _ hl] at hGet
      exact h.passed l k hGet
  · intro l hNone
    rw [hLog, hLayer]
    rw [hMsgs] at hNone
    by_cases hl : l = id
    · subst hl
      rw [Table.get?_set_self] at hNone
      cases hNone
    · rw [Table.get?_set_of_ne _ _ hl] at hNone
      exact h.idle l hNone

/-- Neither the layer nor what has reached the host changes. -/
theorem frame (h : Delivers addr n) (hMsgs : n'.msgs = n.msgs) (hLayer : n'.layer = n.layer)
    (hLog : ∀ l, (n'.log l).seen = (n.log l).seen ∧ (n'.log l).arrived = (n.log l).arrived ∧
      (n'.log l).deliveries = (n.log l).deliveries ∧ (n'.log l).opened = (n.log l).opened) :
    Delivers addr n' := by
  refine ⟨?_, ?_⟩
  · intro l k hGet
    obtain ⟨hSeen, hArrived, hDeliveries, hOpened⟩ := hLog l
    rw [hMsgs] at hGet
    exact (h.passed l k hGet).congr rfl rfl rfl (Nat.le_refl _) hSeen hArrived hDeliveries
      (fun hOld => hOpened.trans hOld) (fun _ => by rw [hLayer]) fun _ => by rw [hLayer]
  · intro l hNone
    obtain ⟨hSeen, -, hDeliveries, hOpened⟩ := hLog l
    rw [hMsgs] at hNone
    obtain ⟨h₁, h₂, h₃, h₄⟩ := h.idle l hNone
    rw [hLayer]
    exact ⟨hSeen.trans h₁, hDeliveries.trans h₂, h₃, fun hOld => h₄ (hOpened.symm.trans hOld)⟩

theorem submit (h : Delivers addr n) (hSound : Sound cfg n) {m : OutboundMsgState}
    (hPos : 0 < numPkts m.totalBytes) (hRequest : m.isRequest = true → id.clAddr ≠ addr)
    (hReply : m.isRequest = false → (n.log id).opened = true) (hOk : n.submit id m = some n') :
    Delivers addr n' := by
  obtain ⟨hNew, -, -, rfl⟩ := submit_eq_some hOk
  obtain ⟨hSeen, hDeliveries, hServer, hClient⟩ := h.idle id hNew
  have hArrived := (hSound.untouched id hNew).arrived
  have hSome : (∅ : Finset Nat) ≠ allPkts m := by
    intro hEmpty
    rw [allPkts, eq_comm, Finset.range_eq_empty_iff] at hEmpty
    omega
  refine ⟨?_, ?_⟩
  · intro l k hGet
    by_cases hl : l = id
    · subst hl
      cases hGet.symm.trans (Table.get?_set_self _ _ _)
      refine ⟨fun _ => hSeen.trans hArrived.symm, ?_, ?_, ?_⟩
      · show ∀ i ∈ (n.log l).seen, _
        rw [hSeen]
        exact fun i hi => absurd hi (Finset.notMem_empty i)
      · intro hType
        refine ⟨hRequest hType, ?_⟩
        show RequestStage m (n.log l).seen (n.layer.server.get? l) (n.log l).deliveries
        rw [hSeen, hDeliveries, hServer]
        exact .unknown rfl
      · intro hType
        refine ⟨hReply hType, ?_⟩
        show ReplyStage m (n.log l).seen (n.layer.client.get? l) (n.log l).deliveries
        rw [hSeen, hDeliveries, hClient (hReply hType)]
        exact .counting hSome
    · exact h.passed l k ((Table.get?_set_of_ne _ _ hl).symm.trans hGet)
  · intro l hNone
    by_cases hl : l = id
    · subst hl
      cases hNone.symm.trans (Table.get?_set_self _ _ _)
    · exact h.idle l ((Table.get?_set_of_ne _ _ hl).symm.trans hNone)

/-- A new message only waits for its packets. -/
theorem sendReq (h : Delivers addr n) (hAddr : addr = id.clAddr)
    (hNew : (n.log id).opened = false) :
    Delivers addr { n.setLog id { n.log id with opened := true } with
      layer := n.layer.sendReq id } := by
  refine ⟨?_, ?_⟩
  · intro l k hGet
    have hPassed := h.passed l k hGet
    by_cases hl : l = id
    · subst hl
      -- a reply was opened before
      have hType : k.isRequest = true := by
        by_contra hReply
        have hOld := (hPassed.reply (Bool.eq_false_iff.mpr hReply)).1
        rw [hNew] at hOld
        cases hOld
      exact absurd hAddr.symm (hPassed.request hType).1
    · show Passed addr l k (Function.update n.log id _ l) (n.layer.sendReq id)
      rw [Function.update_of_ne hl]
      exact hPassed.congr rfl rfl rfl (Nat.le_refl _) rfl rfl rfl (fun hOld => hOld)
        (fun _ => rfl) fun _ => Table.get?_set_of_ne _ _ hl
  · intro l hNone
    obtain ⟨hSeen, hDeliveries, hServer, hClient⟩ := h.idle l hNone
    show Idle l (Function.update n.log id _ l) (n.layer.sendReq id)
    by_cases hl : l = id
    · subst hl
      rw [Function.update_self]
      exact ⟨hSeen, hDeliveries, hServer, fun _ => Table.get?_set_self _ _ _⟩
    · rw [Function.update_of_ne hl]
      refine ⟨hSeen, hDeliveries, hServer, fun hOpened => ?_⟩
      exact (Table.get?_set_of_ne _ _ hl).trans (hClient hOpened)

/-- The server moves on with the state of one request, which it has not got yet: nothing happens,
or the request is delivered. -/
theorem serve (h : Delivers addr n) (id : UniqReqId) {layer : R2p2Layer}
    (hClient : layer.client = n.layer.client)
    (hServer : ∀ l ≠ id, layer.server.get? l = n.layer.server.get? l)
    (hSame : (n.log id).deliveries = [] → (∀ m, n.msgs.get? id = some m → m.isRequest = true) →
      layer.server.get? id = n.layer.server.get? id) : Delivers addr { n with layer := layer } := by
  have hGetEq (l : UniqReqId) (hOpen : (n.log l).deliveries = [])
      (hType : ∀ m, n.msgs.get? l = some m → m.isRequest = true) :
      layer.server.get? l = n.layer.server.get? l := by
    by_cases hl : l = id
    · subst hl
      exact hSame hOpen hType
    · exact hServer l hl
  refine ⟨?_, ?_⟩
  · intro l k hGet
    obtain ⟨h₁, h₂, h₃, h₄⟩ := h.passed l k hGet
    refine ⟨h₁, h₂, fun hType => ?_, fun hType => ?_⟩
    · obtain ⟨hAddr, hStage⟩ := h₃ hType
      refine ⟨hAddr, ?_⟩
      have hRequest (m : OutboundMsgState) (hm : n.msgs.get? l = some m) : m.isRequest = true := by
        cases hGet.symm.trans hm
        exact hType
      have hEq := fun hOpen => hGetEq l hOpen hRequest
      revert hEq
      show ((n.log l).deliveries = [] → _) → RequestStage k (n.log l).seen (layer.server.get? l)
        (n.log l).deliveries
      generalize n.layer.server.get? l = stored at hStage
      generalize (n.log l).deliveries = deliveries at hStage
      intro hEq
      cases hStage with
      | unknown hNone =>
        rw [hEq rfl]
        exact .unknown hNone
      | counting hMissing =>
        rw [hEq rfl]
        exact .counting hMissing
      | delivered hAll s => exact .delivered hAll _
    · refine (h₄ hType).imp_right fun hStage => ?_
      show ReplyStage k (n.log l).seen (layer.client.get? l) (n.log l).deliveries
      rw [hClient]
      exact hStage
  · intro l hNone
    obtain ⟨h₁, h₂, h₃, h₄⟩ := h.idle l hNone
    have hNoMsg (m : OutboundMsgState) (hm : n.msgs.get? l = some m) : m.isRequest = true := by
      cases hNone.symm.trans hm
    refine ⟨h₁, h₂, (hGetEq l h₂ hNoMsg).trans h₃, fun hOpened => ?_⟩
    show layer.client.get? l = some {}
    rw [hClient]
    exact h₄ hOpened

theorem sendResponse (h : Delivers addr n) (hDelivered : (n.log id).deliveries ≠ []) :
    Delivers addr { n with layer := n.layer.sendResponse id } := by
  refine h.serve id ?_ ?_ fun hNone => absurd hNone hDelivered
  · unfold R2p2Layer.sendResponse
    split <;> rfl
  · intro l hl
    unfold R2p2Layer.sendResponse
    split
    · rfl
    · exact Table.get?_set_of_ne _ _ hl

/-- Only the state of a request that was answered is collected. -/
theorem collectGarbage (h : Delivers addr n) (id : UniqReqId) :
    Delivers addr { n with layer := n.layer.garbageCollectState id } := by
  refine h.serve id ?_ ?_ ?_
  · unfold R2p2Layer.garbageCollectState
    split
    · rfl
    · split
      · split <;> rfl
      · rfl
  · intro l hl
    unfold R2p2Layer.garbageCollectState
    split
    · rfl
    · split
      · split
        · exact Table.get?_erase_of_ne _ hl
        · exact Table.get?_set_of_ne _ _ hl
      · rfl
  · intro hOpen hType
    have hUnanswered (s : ServerRequestState) (hState : n.layer.server.get? id = some s) :
        s.replySent = false := by
      cases hMsg : n.msgs.get? id with
      | none =>
        rw [(h.idle id hMsg).server] at hState
        cases hState
      | some m =>
        obtain ⟨-, hStage⟩ := (h.passed id m hMsg).request (hType m hMsg)
        rw [hOpen, hState] at hStage
        cases hStage
        rfl
    unfold R2p2Layer.garbageCollectState
    split
    · rfl
    · rename_i s hState
      rw [if_neg (by rw [hUnanswered s hState]; exact Bool.false_ne_true)]

end Delivers

end HybridNet

/-! ## Packets -/

/-- A packet that is counted was not counted before. -/
theorem Outcome.fresh {m : OutboundMsgState} {id : UniqReqId} {l : MsgLog} {p : Packet}
    {h h' : Hybrid} (hOut : Outcome m id l p h true h') : p.pktIndex ∉ l.arrived := by
  cases hOut with
  | early _ _ _ _ hFresh => exact hFresh
  | counted _ _ _ hFresh _ => exact hFresh
  | first _ _ _ _ hNone _ _ =>
    rw [hNone]
    exact Finset.notMem_empty _

namespace HybridNet

section Packets

variable {m : OutboundMsgState} {id : UniqReqId} {l : MsgLog} {p : Packet} {h h' : Hybrid}
  {layer : R2p2Layer}

theorem Passed.seen_sub (h : Passed addr id m l layer) (hm : m.Ok cfg) : l.seen ⊆ allPkts m := by
  intro i hi
  have hSent := h.seen_sent i hi
  have hSplit := hm.split
  rw [mem_allPkts]
  omega

/-- What is passed up was not passed up before, or belongs to a reply of one packet that is
complete. -/
theorem Passed.fresh (hPassed : Passed addr id m l layer) (hm : m.Ok cfg) (hp : PacketFacts m id p)
    (hOut : Outcome m id l p h (h.counts p) h')
    (hUp : h.counts p = true ∨ p.isSinglePktReply = true) (hData : p.isData = true) :
    p.pktIndex ∉ l.seen ∨ m.isRequest = false ∧ l.seen = allPkts m := by
  obtain ⟨hIndex, -, hSingle, -⟩ := hp.data hData
  cases hMulti : m.isSinglePktReply with
  | false =>
    rw [hSingle, hMulti] at hUp
    have hCounted := hUp.resolve_right nofun
    rw [hCounted] at hOut
    rw [hPassed.seen_eq hMulti]
    exact .inl hOut.fresh
  | true =>
    have hSub := hPassed.seen_sub hm
    rw [OutboundMsgState.isSinglePktReply, decide_eq_true_iff] at hMulti
    have hOne : allPkts m = {0} := by
      have hCount := hm.pktId
      rw [hMulti.1, if_neg nofun, hMulti.2] at hCount
      have hNum : numPkts m.totalBytes = 1 := by omega
      rw [allPkts, hNum, Finset.range_one]
    rw [hOne] at hSub ⊢
    rcases Finset.subset_singleton_iff.mp hSub with hNone | hAll
    · rw [hNone]
      exact .inl (Finset.notMem_empty _)
    · exact .inr ⟨hMulti.1, hAll⟩

theorem recv_request (hType : p.msgType = .request) :
    layer.recv p = layer.handleRequestPkt p := by
  rw [R2p2Layer.recv, if_pos hType]

theorem recv_reply (hType : p.msgType = .reply) :
    layer.recv p = some (layer.handleReplyPkt p) := by
  rw [R2p2Layer.recv, if_neg (by rw [hType]; nofun), if_pos hType]

/-- The log after data. -/
theorem received_data (l : MsgLog) (hData : p.isData = true) (counted : Bool)
    (after : Option InboundMsgState) :
    (l.received p counted after).seen = insert p.pktIndex l.seen ∧
      (l.received p counted after).arrived =
        if counted then insert p.pktIndex l.arrived else l.arrived := by
  refine ⟨?_, rfl⟩
  rw [MsgLog.received]
  exact if_pos hData

/-- Data that is passed up meets no assertion that fails, and is ignored once the application has
got the message. -/
theorem Passed.recv (hPassed : Passed addr id m l layer) (hm : m.Ok cfg) (hp : PacketFacts m id p)
    (hOut : Outcome m id l p h (h.counts p) h')
    (hUp : h.counts p = true ∨ p.isSinglePktReply = true) (hData : p.isData = true)
    (after : Option InboundMsgState) :
    ∃ layer' size, layer.recv p = some (layer', size) ∧
      (∀ other ≠ id, layer'.server.get? other = layer.server.get? other ∧
        layer'.client.get? other = layer.client.get? other) ∧
      Passed addr id m { l.received p (h.counts p) after with
        deliveries := size.toList ++ l.deliveries } layer' ∧
      (l.deliveries ≠ [] → layer' = layer ∧ size = none) := by
  obtain ⟨hIndex, -, hSingle, hType⟩ := hp.data hData
  obtain ⟨hSeen, hArrived⟩ := received_data l hData (h.counts p) after
  have hFresh := hPassed.fresh hm hp hOut hUp hData
  have hSent : ∀ i ∈ insert p.pktIndex l.seen, i * maxR2p2Payload < m.bytesSent := by
    intro i hi
    rcases Finset.mem_insert.mp hi with rfl | hOld
    · exact hIndex
    · exact hPassed.seen_sent i hOld
  have hSub : insert p.pktIndex l.seen ⊆ allPkts m := by
    intro i hi
    have hLess := hSent i hi
    have hSplit := hm.split
    rw [mem_allPkts]
    omega
  have hSame : m.isSinglePktReply = false →
      (l.received p (h.counts p) after).seen = (l.received p (h.counts p) after).arrived := by
    intro hMulti
    rw [hSingle, hMulti] at hUp
    rw [hSeen, hArrived, if_pos (hUp.resolve_right nofun), hPassed.seen_eq hMulti]
  have hDelivered (deliveries : List Nat) (s : Option ServerRequestState)
      (hStage : RequestStage m l.seen s deliveries) (hNew : p.pktIndex ∉ l.seen) :
      deliveries = [] := by
    cases hStage with
    | unknown => rfl
    | counting => rfl
    | delivered hAll _ =>
      rw [hAll] at hNew
      exact absurd (hSub (Finset.mem_insert_self _ _)) hNew
  cases hRequest : m.isRequest with
  | true =>
    rw [OutboundMsgState.msgType, if_pos hRequest] at hType
    obtain ⟨hAddr, hStage⟩ := hPassed.request hRequest
    have hNew : p.pktIndex ∉ l.seen := by
      refine hFresh.resolve_right fun hReply => ?_
      rw [hRequest] at hReply
      cases hReply.1
    obtain ⟨s, size, hRecv, hAfter⟩ :=
      handleRequestPkt_fresh hm hRequest hp hData hNew hSub hStage
    rw [recv_request hType, hRecv]
    refine ⟨_, size, rfl, ?_, ⟨hSame, ?_, ?_, ?_⟩, ?_⟩
    · exact fun other hOther => ⟨Table.get?_set_of_ne _ _ hOther, rfl⟩
    · show ∀ i ∈ (l.received p (h.counts p) after).seen, _
      rw [hSeen]
      exact hSent
    · intro _
      refine ⟨hAddr, ?_⟩
      show RequestStage m (l.received p (h.counts p) after).seen _ _
      rw [hSeen, Table.get?_set_self]
      exact hAfter
    · intro hReply
      rw [hRequest] at hReply
      cases hReply
    · exact fun hGot => absurd (hDelivered _ _ hStage hNew) hGot
  | false =>
    rw [OutboundMsgState.msgType, if_neg (by rw [hRequest]; nofun)] at hType
    obtain ⟨hOpened, hStage⟩ := hPassed.reply hRequest
    obtain ⟨client, size, hHandle, hOthers, hAfter, hLate⟩ := handleReplyPkt_cases hm hRequest hp
      hData (hFresh.imp_right And.right) hSub hStage
    rw [recv_reply hType, hHandle]
    refine ⟨_, size, rfl, ?_, ⟨hSame, ?_, ?_, ?_⟩, ?_⟩
    · exact fun other hOther => ⟨rfl, hOthers other hOther⟩
    · show ∀ i ∈ (l.received p (h.counts p) after).seen, _
      rw [hSeen]
      exact hSent
    · intro hReply
      rw [hRequest] at hReply
      cases hReply
    · intro _
      refine ⟨hOpened, ?_⟩
      show ReplyStage m (l.received p (h.counts p) after).seen _ _
      rw [hSeen]
      exact hAfter
    · intro hGot
      obtain ⟨hClient, hSize⟩ := hLate hGot
      rw [hClient]
      exact ⟨rfl, hSize⟩

/-- Nothing is passed up: the packet brings no data, or data that was passed up before. -/
theorem Passed.ignore (hPassed : Passed addr id m l layer) (hm : m.Ok cfg)
    (hp : IsPacketOf m id l.announced p) (hTracks : Tracks m (h.inbound.get? id) l)
    (hNotUp : ¬ (h.counts p = true ∨ p.isSinglePktReply = true)) (after : Option InboundMsgState) :
    Passed addr id m (l.received p (h.counts p) after) layer := by
  have hFacts := hp.facts hm
  have hCounted : h.counts p = false := Bool.eq_false_iff.mpr fun h => hNotUp (.inl h)
  have hSingle : p.isSinglePktReply = false := Bool.eq_false_iff.mpr fun h => hNotUp (.inr h)
  have hSeen : (l.received p (h.counts p) after).seen = l.seen := by
    show (if p.isData = true then insert p.pktIndex l.seen else l.seen) = l.seen
    split
    · rename_i hData
      have hMulti := (hFacts.data hData).2.2.1.symm.trans hSingle
      apply Finset.insert_eq_of_mem
      rw [hPassed.seen_eq hMulti]
      exact Hybrid.mem_arrived_of_not_counts hm hp hTracks hData hSingle hCounted
    · rfl
  have hArrived : (l.received p (h.counts p) after).arrived = l.arrived := by
    rw [hCounted]
    rfl
  exact hPassed.congr rfl rfl rfl (Nat.le_refl _) hSeen hArrived rfl (fun hOld => hOld)
    (fun _ => rfl) fun _ => rfl

end Packets

/-! ## Any step -/

variable {n n' : HybridNet} {id : UniqReqId}

/-- The packet is passed up to the R2P2 layer. -/
def PassedUp (n : HybridNet) (pkt : Packet) : Prop :=
  n.rx.counts pkt = true ∨ pkt.isSinglePktReply = true

/-- What is counted is data, but not of a reply of one packet. -/
theorem counts_facts {m : OutboundMsgState} {pkt : Packet} {h : Hybrid}
    (hp : PacketFacts m id pkt) (hCounted : h.counts pkt = true) :
    pkt.isData = true ∧ m.isSinglePktReply = false := by
  rw [Hybrid.counts, decide_eq_true_iff] at hCounted
  obtain ⟨hData, hMulti, -⟩ := hCounted
  rw [← (hp.data hData).2.2.1]
  exact ⟨hData, Bool.eq_false_iff.mpr hMulti⟩

theorem isData_of_passedUp {m : OutboundMsgState} {pkt : Packet} {h : Hybrid}
    (hp : PacketFacts m id pkt) (hUp : h.counts pkt = true ∨ pkt.isSinglePktReply = true) :
    pkt.isData = true := by
  rcases hUp with hCounted | hSingle
  · exact (counts_facts hp hCounted).1
  · rw [Packet.isSinglePktReply, decide_eq_true_iff] at hSingle
    rw [Packet.isData, decide_eq_true_iff]
    exact .inr hSingle.1

theorem Delivers.deliver (h : Delivers addr n) (hSound : Sound cfg n) {pkt : Packet} {window : Int}
    (hPkt : pkt ∈ n.toRx) (hTimely : Timely (n.log pkt.reqId) pkt)
    (hOk : n.deliver cfg pkt window = some n') : Delivers addr n' := by
  obtain ⟨rx, layer, size, hRecv, hLayer, rfl⟩ := deliver_eq_some hOk
  obtain ⟨m, hMsg, hPacket⟩ := hSound.packets pkt hPkt
  have hm := hSound.msgs _ m hMsg
  have hFacts := hPacket.facts hm
  have hTracks := hSound.tracks _ m hMsg
  have hPassed := h.passed _ m hMsg
  have hOut := Hybrid.deliver_cases hm hPacket hTracks hTimely hRecv
  have hAfter : (∀ other ≠ pkt.reqId, layer.server.get? other = n.layer.server.get? other ∧
        layer.client.get? other = n.layer.client.get? other) ∧
      Passed addr pkt.reqId m { (n.log pkt.reqId).received pkt (n.rx.counts pkt)
        (rx.inbound.get? pkt.reqId) with
          deliveries := size.toList ++ (n.log pkt.reqId).deliveries } layer := by
    by_cases hUp : n.rx.counts pkt = true ∨ pkt.isSinglePktReply = true
    · rw [if_pos hUp] at hLayer
      obtain ⟨layer', size', hEq, hOthers, hNext, -⟩ := hPassed.recv hm hFacts hOut hUp
        (isData_of_passedUp hFacts hUp) (rx.inbound.get? pkt.reqId)
      cases hLayer.symm.trans hEq
      exact ⟨hOthers, hNext⟩
    · rw [if_neg hUp] at hLayer
      obtain ⟨rfl, rfl⟩ := hLayer
      exact ⟨fun _ _ => ⟨rfl, rfl⟩, hPassed.ignore hm hPacket hTracks hUp _⟩
  obtain ⟨hOthers, hNext⟩ := hAfter
  refine ⟨?_, ?_⟩
  · intro l k hGet
    show Passed addr l k (Function.update n.log pkt.reqId _ l) layer
    by_cases hl : l = pkt.reqId
    · subst hl
      cases hMsg.symm.trans hGet
      rw [Function.update_self]
      exact hNext
    · rw [Function.update_of_ne hl]
      exact (h.passed l k hGet).congr rfl rfl rfl (Nat.le_refl _) rfl rfl rfl (fun hOld => hOld)
        (fun _ => (hOthers l hl).1) fun _ => (hOthers l hl).2
  · intro l hNone
    have hl : l ≠ pkt.reqId := by
      rintro rfl
      cases hMsg.symm.trans hNone
    show Idle l (Function.update n.log pkt.reqId _ l) layer
    rw [Function.update_of_ne hl]
    obtain ⟨h₁, h₂, h₃, h₄⟩ := h.idle l hNone
    exact ⟨h₁, h₂, (hOthers l hl).1.trans h₃, fun hOpened => (hOthers l hl).2.trans (h₄ hOpened)⟩

theorem Delivers.step (h : Delivers addr n) (hSound : Sound cfg n) {e : HybridNetEvent}
    (hTimely : TimelyStep n e) (hStep : n.step cfg addr e = some n') : Delivers addr n' := by
  have hFrame (hMsgs : n'.msgs = n.msgs) (hLayer : n'.layer = n.layer) (hLog : n'.log = n.log) :
      Delivers addr n' := h.frame hMsgs hLayer fun l => by rw [hLog]; exact ⟨rfl, rfl, rfl, rfl⟩
  cases e with
  | submitRequest id src bytes =>
    rw [HybridNet.step] at hStep
    split at hStep
    · rename_i hGuard
      have hOpen := submit_eq_some hStep
      refine h.submit hSound ?_ (fun _ => ?_) ?_ hStep
      · have hNew : (OutboundMsgState.ofRequest src bytes).Ok cfg :=
          OutboundMsgState.ok_ofRequest hOpen.2.1 hOpen.2.2.1
        exact numPkts_pos hNew
      · rw [← hGuard.1]
        exact hGuard.2
      · exact fun hType => absurd (show true = false from hType) nofun
    · cases hStep
  | submitReply id src bytes =>
    rw [HybridNet.step] at hStep
    split at hStep
    · rename_i hGuard
      have hOpen := submit_eq_some hStep
      refine h.submit hSound ?_ ?_ (fun _ => hGuard.2.2) hStep
      · have hNew : (OutboundMsgState.ofReply src bytes).Ok cfg :=
          OutboundMsgState.ok_ofReply hOpen.2.1 hOpen.2.2.1
        exact numPkts_pos hNew
      · exact fun hType => absurd (show false = true from hType) nofun
    · cases hStep
  | sendReq id =>
    obtain ⟨hNew, rfl⟩ := Machine.of_guarded hStep
    exact h.sendReq hNew.1 (Bool.eq_false_iff.mpr hNew.2)
  | sendResponse id =>
    obtain ⟨hDelivered, rfl⟩ := Machine.of_guarded hStep
    exact h.sendResponse hDelivered
  | collectGarbage id =>
    cases hStep
    exact h.collectGarbage id
  | activate id =>
    obtain ⟨m, m', avail, pkt, hMsg, hActivate, rfl⟩ := activate_eq_some hStep
    obtain ⟨hTotal, hRequest, hPktId, hBytes⟩ := OutboundMsgState.activate_same hActivate
    exact h.send hMsg hTotal hRequest hPktId (Nat.le_of_eq hBytes.symm) rfl rfl rfl
  | sendData id =>
    obtain ⟨m, m', avail, pkt, hMsg, hSend, rfl⟩ := sendData_eq_some hStep
    obtain ⟨-, -, -, -, -, hSame, -⟩ := (hSound.msgs _ m hMsg).sendData_cases hSend
    exact h.send hMsg hSame.totalBytes hSame.isRequest hSame.pktId hSame.bytesSent rfl rfl rfl
  | retransmit id =>
    obtain ⟨m, m', pkt, hMsg, hSend, rfl⟩ := retransmit_eq_some hStep
    obtain ⟨-, hSame, -⟩ := (hSound.msgs _ m hMsg).retransmit_cases hSend
    exact h.send hMsg hSame.totalBytes hSame.isRequest hSame.pktId hSame.bytesSent rfl rfl rfl
  | receiveGrant g =>
    obtain ⟨-, rfl⟩ := Machine.of_guarded hStep
    exact hFrame rfl rfl rfl
  | receiveResend r =>
    obtain ⟨m, m', hMsg, -, -, hSame, -, rfl⟩ := hSound.receiveResend_cases hStep
    exact h.send hMsg hSame.totalBytes hSame.isRequest hSame.pktId hSame.bytesSent rfl rfl rfl
  | deliver pkt window =>
    rw [HybridNet.step] at hStep
    split at hStep
    · rename_i hPkt
      exact h.deliver hSound hPkt hTimely hStep
    · cases hStep
  | bounceBack g window =>
    rw [HybridNet.step] at hStep
    split at hStep
    · obtain ⟨rx, -, rfl⟩ := Option.map_eq_some_iff.mp hStep
      exact hFrame rfl rfl rfl
    · cases hStep
  | receiveOther src window =>
    cases hStep
    exact hFrame rfl rfl rfl
  | sendGrant id =>
    obtain ⟨rx, g, -, rfl⟩ := sendGrant_eq_some hStep
    refine h.frame rfl rfl fun l => ?_
    show (Function.update n.log id _ l).seen = _ ∧ (Function.update n.log id _ l).arrived = _ ∧
      (Function.update n.log id _ l).deliveries = _ ∧ (Function.update n.log id _ l).opened = _
    by_cases hl : l = id
    · subst hl
      rw [Function.update_self]
      exact ⟨rfl, rfl, rfl, rfl⟩
    · rw [Function.update_of_ne hl]
      exact ⟨rfl, rfl, rfl, rfl⟩
  | resendTimeout id =>
    cases hStep
    rw [HybridNet.resendTimeout]
    split
    · exact h
    · exact h.frame rfl rfl fun _ => ⟨rfl, rfl, rfl, rfl⟩
  | bounce g =>
    obtain ⟨-, rfl⟩ := Machine.of_guarded hStep
    exact hFrame rfl rfl rfl
  | lose pkt =>
    obtain ⟨-, rfl⟩ := Machine.of_guarded hStep
    exact hFrame rfl rfl rfl
  | loseResend r =>
    obtain ⟨-, rfl⟩ := Machine.of_guarded hStep
    exact hFrame rfl rfl rfl
  | loseGrant g =>
    obtain ⟨-, rfl⟩ := Machine.of_guarded hStep
    exact hFrame rfl rfl rfl
  | loseBounced g =>
    obtain ⟨-, rfl⟩ := Machine.of_guarded hStep
    exact hFrame rfl rfl rfl
  | duplicate pkt =>
    obtain ⟨-, rfl⟩ := Machine.of_guarded hStep
    exact hFrame rfl rfl rfl
  | duplicateBounced g =>
    obtain ⟨-, rfl⟩ := Machine.of_guarded hStep
    exact hFrame rfl rfl rfl

/-! ## Runs -/

/-- Every message goes to the application at most once, when all its packets have arrived and with
the size that was sent. What the network may still deliver of it is ignored by the R2P2 layer. -/
structure ExactlyOnce (cfg : HybridConfig) (n : HybridNet) : Prop where
  once : ∀ id m, n.msgs.get? id = some m →
    (n.log id).deliveries = [] ∨
      (n.log id).deliveries = [m.totalBytes] ∧ (n.log id).seen = allPkts m
  unsent : ∀ id, n.msgs.get? id = none → (n.log id).deliveries = []
  late : ∀ pkt ∈ n.toRx, Timely (n.log pkt.reqId) pkt → n.PassedUp pkt →
    ∀ window rx, n.rx.recv cfg pkt window = .ok rx →
      ∃ layer size, n.layer.recv pkt = some (layer, size) ∧
        ((n.log pkt.reqId).deliveries ≠ [] → layer = n.layer ∧ size = none)

theorem Passed.once {m : OutboundMsgState} {l : MsgLog} {layer : R2p2Layer}
    (h : Passed addr id m l layer) :
    l.deliveries = [] ∨ l.deliveries = [m.totalBytes] ∧ l.seen = allPkts m := by
  cases hRequest : m.isRequest with
  | true =>
    have hStage := (h.request hRequest).2
    generalize layer.server.get? id = stored at hStage
    generalize l.deliveries = deliveries at hStage ⊢
    cases hStage with
    | unknown _ => exact .inl rfl
    | counting _ => exact .inl rfl
    | delivered hAll _ => exact .inr ⟨rfl, hAll⟩
  | false =>
    have hStage := (h.reply hRequest).2
    generalize layer.client.get? id = stored at hStage
    generalize l.deliveries = deliveries at hStage ⊢
    cases hStage with
    | counting _ => exact .inl rfl
    | delivered hAll => exact .inr ⟨rfl, hAll⟩

theorem Delivers.exactlyOnce (h : Delivers addr n) (hSound : Sound cfg n) : ExactlyOnce cfg n := by
  refine ⟨fun l m hGet => (h.passed l m hGet).once, fun l hNone => (h.idle l hNone).deliveries, ?_⟩
  intro pkt hPkt hTimely hUp window rx hRecv
  obtain ⟨m, hMsg, hPacket⟩ := hSound.packets pkt hPkt
  have hm := hSound.msgs _ m hMsg
  have hFacts := hPacket.facts hm
  have hOut := Hybrid.deliver_cases hm hPacket (hSound.tracks _ m hMsg) hTimely hRecv
  obtain ⟨layer, size, hEq, -, -, hLate⟩ := (h.passed _ m hMsg).recv hm hFacts hOut hUp
    (isData_of_passedUp hFacts hUp) (rx.inbound.get? pkt.reqId)
  exact ⟨layer, size, hEq, hLate⟩

end HybridNet

/-- The application gets every message at most once, and as it was sent, in every run whose
deliveries are timely. -/
theorem application_gets_message_once (cfg : HybridConfig) (addr : Int) (es : List HybridNetEvent)
    (n : HybridNet) (hRun : (hybridNet cfg addr).run (hybridNet cfg addr).init es = some n)
    (hTimely : (hybridNet cfg addr).Guarded HybridNet.TimelyStep (hybridNet cfg addr).init es) :
    n.ExactlyOnce cfg := by
  have hBoth : n.Sound cfg ∧ n.Delivers addr := by
    refine Machine.guarded_induction (M := hybridNet cfg addr)
      (I := fun n => n.Sound cfg ∧ n.Delivers addr) ?_ ?_ hTimely hRun
    · exact ⟨HybridNet.sound_init cfg, HybridNet.delivers_init cfg addr⟩
    · intro s e t hInv hGuard hStep
      exact ⟨hInv.1.step hGuard hStep, hInv.2.step hInv.1 hGuard hStep⟩
  exact hBoth.2.exactlyOnce hBoth.1

/-- Messages of up to 5000 bytes on the wire start with credit of their own. -/
def unsolicitedConfig : HybridConfig where
  maxBudgetBytes := 100000
  maxSrpb := 100000
  unsolicitedThreshBytes := 5000

def hostTwoRequest : UniqReqId := ⟨2, 0, 0⟩

/-- A request of two packets from host 2, which has credit for both. -/
def twoPackets : OutboundMsgState :=
  { OutboundMsgState.ofRequest 2 2000 with
    active := true
    isScheduled := false
    selfAllocCredit := 2160
    selfAllocCreditData := 2000 }

def twoPacketsFirst : Packet :=
  twoPackets.announcing (twoPackets.dataPacket hostTwoRequest true 0 1458)

def twoPacketsSecond : Packet :=
  twoPackets.announcing (twoPackets.dataPacket hostTwoRequest false 1458 542)

def twoPacketsResent : Packet :=
  { twoPackets.dataPacket hostTwoRequest true 0 1458 with resendBytes := 1458 }

/-- The second packet arrives and announces the message. The first one is lost and sent again, and
the network delivers it twice. -/
def lossyRun : List HybridNetEvent :=
  [.submitRequest hostTwoRequest 2 2000, .activate hostTwoRequest, .sendData hostTwoRequest,
    .sendData hostTwoRequest, .deliver twoPacketsSecond 100000, .lose twoPacketsFirst,
    .resendTimeout hostTwoRequest, .receiveResend ⟨hostTwoRequest, 0, 1458⟩,
    .retransmit hostTwoRequest, .duplicate twoPacketsResent, .deliver twoPacketsResent 100000,
    .deliver twoPacketsResent 100000]

theorem application_gets_message_once_lossyRun :
    ∃ n, (hybridNet unsolicitedConfig 1).run (hybridNet unsolicitedConfig 1).init lossyRun =
        some n ∧ n.ExactlyOnce unsolicitedConfig ∧ (n.log hostTwoRequest).deliveries = [2000] := by
  have hRuns : ((hybridNet unsolicitedConfig 1).run (hybridNet unsolicitedConfig 1).init
      lossyRun).map (fun n => (n.log hostTwoRequest).deliveries) = some [2000] := by
    decide +kernel
  obtain ⟨n, hRun, hOnce⟩ := Option.map_eq_some_iff.mp hRuns
  exact ⟨n, hRun, application_gets_message_once unsolicitedConfig 1 lossyRun n hRun
    (by decide +kernel), hOnce⟩

/-- A request of one packet from host 2, with credit of its own. -/
def onePacket : OutboundMsgState :=
  { OutboundMsgState.ofRequest 2 1000 with
    active := true
    isScheduled := false
    selfAllocCredit := 1080
    selfAllocCreditData := 1000 }

def onePacketFirst : Packet :=
  onePacket.announcing (onePacket.dataPacket hostTwoRequest true 0 1000)

/-- The packet of a request is delivered twice. When the second copy arrives, the state of the
message and that of the request are gone: it is a new message, and the application gets it too. -/
theorem late_request_delivered_twice :
    ∃ n, (hybridNet unsolicitedConfig 1).run (hybridNet unsolicitedConfig 1).init
        [.submitRequest hostTwoRequest 2 1000, .activate hostTwoRequest, .sendData hostTwoRequest,
          .duplicate onePacketFirst, .deliver onePacketFirst 100000, .sendResponse hostTwoRequest,
          .collectGarbage hostTwoRequest, .collectGarbage hostTwoRequest,
          .deliver onePacketFirst 100000] = some n ∧
      (n.log hostTwoRequest).deliveries = [1000, 1000] ∧ ¬ n.ExactlyOnce unsolicitedConfig := by
  have hRuns : ((hybridNet unsolicitedConfig 1).run (hybridNet unsolicitedConfig 1).init
        [.submitRequest hostTwoRequest 2 1000, .activate hostTwoRequest, .sendData hostTwoRequest,
          .duplicate onePacketFirst, .deliver onePacketFirst 100000, .sendResponse hostTwoRequest,
          .collectGarbage hostTwoRequest, .collectGarbage hostTwoRequest,
          .deliver onePacketFirst 100000]).map (fun n => (n.log hostTwoRequest).deliveries) =
      some [1000, 1000] := by
    decide +kernel
  obtain ⟨n, hRun, hTwice⟩ := Option.map_eq_some_iff.mp hRuns
  refine ⟨n, hRun, hTwice, ?_⟩
  intro hOnce
  cases hMsg : n.msgs.get? hostTwoRequest with
  | none =>
    have hNone := hOnce.unsent hostTwoRequest hMsg
    rw [hTwice] at hNone
    cases hNone
  | some m =>
    rcases hOnce.once hostTwoRequest m hMsg with hNone | ⟨hOne, -⟩
    · rw [hTwice] at hNone
      cases hNone
    · rw [hTwice] at hOne
      exact absurd (congrArg List.length hOne) (show 2 ≠ 1 by decide)

end Dpdq.Ns2
