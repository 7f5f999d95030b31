import Dpdq.Ns2.HybridDelivery
import Dpdq.Ns2.R2p2Layer

/-!
# What the R2P2 layer has counted

`RequestStage` and `ReplyStage` relate what the layer has stored of a message, and what the
application got, to the set of the packets that were passed up. A packet that was not passed up
before keeps the relation (`handleRequestPkt_fresh`, `handleReplyPkt_cases`), so that the
application gets the message with the last of its packets.
-/

namespace Dpdq.Ns2

open Dpdq.Lib

variable {cfg : HybridConfig} {m : OutboundMsgState} {id : UniqReqId} {p : Packet}
  {l l' : R2p2Layer} {seen : Finset Nat} {deliveries : List Nat}

/-- All packets of a message. -/
def allPkts (m : OutboundMsgState) : Finset Nat := Finset.range (numPkts m.totalBytes)

theorem mem_allPkts {i : Nat} : i ∈ allPkts m ↔ i * maxR2p2Payload < m.totalBytes := by
  rw [allPkts, Finset.mem_range, lt_numPkts]

/-- The number of the packets that are there, by their set. -/
theorem card_eq_numPkts_iff (hSub : seen ⊆ allPkts m) :
    seen.card = numPkts m.totalBytes ↔ seen = allPkts m := by
  constructor
  · intro hCard
    apply Finset.eq_of_subset_of_card_le hSub
    rw [hCard, allPkts, Finset.card_range]
  · rintro rfl
    rw [allPkts, Finset.card_range]

theorem numPkts_pos (hm : m.Ok cfg) : 0 < numPkts m.totalBytes := by
  rw [lt_numPkts, Nat.zero_mul]
  exact hm.pos

theorem zero_mem_allPkts (hm : m.Ok cfg) : 0 ∈ allPkts m :=
  Finset.mem_range.mpr (numPkts_pos hm)

/-! ## Requests -/

/-- A request of which the packets `seen` were counted. -/
def ServerRequestState.after (m : OutboundMsgState) (seen : Finset Nat) : ServerRequestState where
  reqPktsExpected := if 0 ∈ seen then numPkts m.totalBytes else -1
  reqPktsReceived := seen.card
  reqBytesReceived := ∑ i ∈ seen, pktPayload m.totalBytes i

/-- What the server has stored of a request, and what the application got. A request that the
application has got may be deleted. -/
inductive RequestStage (m : OutboundMsgState) (seen : Finset Nat) :
    Option ServerRequestState → List Nat → Prop
  | unknown (hNone : seen = ∅) : RequestStage m seen none []
  | counting (hMissing : seen ≠ allPkts m) : RequestStage m seen (some (.after m seen)) []
  | delivered (hAll : seen = allPkts m) (s : Option ServerRequestState) :
      RequestStage m seen s [m.totalBytes]

theorem ServerRequestState.count_after (hm : m.Ok cfg) (hRequest : m.isRequest = true)
    (hp : PacketFacts m id p) (hData : p.isData = true) (hFresh : p.pktIndex ∉ seen) :
    (ServerRequestState.after m seen).count p = .after m (insert p.pktIndex seen) := by
  obtain ⟨-, hSize, -⟩ := hp.data hData
  obtain ⟨hFirst, hPktId⟩ := hp.header hData
  have hCount := hm.pktId
  rw [hRequest, if_pos rfl] at hCount
  have hExpected : (if p.first = true then p.pktId + 1 else
      if 0 ∈ seen then (numPkts m.totalBytes : Int) else -1) =
      if 0 ∈ insert p.pktIndex seen then (numPkts m.totalBytes : Int) else -1 := by
    rw [hFirst, hPktId, hCount]
    by_cases hZero : p.pktIndex = 0
    · simp [hZero]
    · simp [hZero, Ne.symm hZero]
  simp only [ServerRequestState.count, ServerRequestState.after, hExpected,
    Finset.card_insert_of_notMem hFresh, Finset.sum_insert hFresh, hSize,
    Nat.add_comm (pktPayload m.totalBytes p.pktIndex)]

theorem ServerRequestState.isComplete_after (hm : m.Ok cfg) (hSub : seen ⊆ allPkts m) :
    (ServerRequestState.after m seen).isComplete = true ↔ seen = allPkts m := by
  have hPos := numPkts_pos hm
  rw [isComplete, decide_eq_true_iff, ← card_eq_numPkts_iff hSub]
  simp only [after]
  constructor
  · rintro ⟨hFirst, hCount⟩
    split at hCount <;> omega
  · intro hCard
    have hZero : 0 ∈ seen := (card_eq_numPkts_iff hSub).mp hCard ▸ zero_mem_allPkts hm
    rw [if_pos hZero]
    omega

theorem reqBytes_after_all (m : OutboundMsgState) :
    (ServerRequestState.after m (allPkts m)).reqBytesReceived = m.totalBytes :=
  sum_pktPayload_all m.totalBytes

/-- A packet of a request that was not counted before. -/
theorem handleRequestPkt_fresh (hm : m.Ok cfg) (hRequest : m.isRequest = true)
    (hp : PacketFacts m id p) (hData : p.isData = true) (hFresh : p.pktIndex ∉ seen)
    (hSub : insert p.pktIndex seen ⊆ allPkts m)
    (hStage : RequestStage m seen (l.server.get? id) deliveries) :
    ∃ s size, l.handleRequestPkt p = some ({ l with server := l.server.set id s }, size) ∧
      RequestStage m (insert p.pktIndex seen) (some s) (size.toList ++ deliveries) := by
  have hNew : deliveries = [] ∧ (l.server.get? id = none ∧ seen = ∅ ∨
      l.server.get? id = some (.after m seen)) := by
    generalize l.server.get? id = stored at hStage ⊢
    cases hStage with
    | unknown hNone => exact ⟨rfl, .inl ⟨rfl, hNone⟩⟩
    | counting hMissing => exact ⟨rfl, .inr rfl⟩
    | delivered hAll _ =>
      refine absurd (hSub (Finset.mem_insert_self _ _)) ?_
      rwa [← hAll]
  obtain ⟨rfl, hStored⟩ := hNew
  have hCount := ServerRequestState.count_after hm hRequest hp hData hFresh
  let s : ServerRequestState := .after m (insert p.pktIndex seen)
  have hHandle : l.handleRequestPkt p = some ({ l with server := l.server.set id s },
      if s.isComplete then some s.reqBytesReceived else none) := by
    unfold R2p2Layer.handleRequestPkt
    rw [hp.reqId]
    rcases hStored with ⟨hNone, hEmpty⟩ | hSome
    · have hInit : ({} : ServerRequestState) = .after m seen := by
        rw [hEmpty]
        rfl
      simp only [hNone, hInit, hCount, s]
    · have hFirst : ¬ (p.first = true ∧ (ServerRequestState.after m seen).reqPktsExpected ≠ -1) := by
        rintro ⟨hFirst, hExpected⟩
        rw [(hp.header hData).1, decide_eq_true_eq] at hFirst
        rw [hFirst] at hFresh
        exact hExpected (if_neg hFresh)
      simp only [hSome, hCount, s]
      rw [if_neg hFirst]
  refine ⟨_, _, hHandle, ?_⟩
  by_cases hAll : insert p.pktIndex seen = allPkts m
  · have hBytes : s.reqBytesReceived = m.totalBytes := by
      simp only [s, hAll, reqBytes_after_all]
    rw [if_pos ((ServerRequestState.isComplete_after hm hSub).mpr hAll), hAll, hBytes]
    exact .delivered rfl _
  · rw [if_neg (fun hComplete => hAll ((ServerRequestState.isComplete_after hm hSub).mp hComplete))]
    exact .counting hAll

/-! ## Replies -/

/-- A reply of which the packets `seen` were counted. -/
def ClientRequestState.after (m : OutboundMsgState) (seen : Finset Nat) : ClientRequestState where
  replyPktsToRec := if 0 ∈ seen then numPkts m.totalBytes else 0
  replyPktsRecvd := seen.card
  replyBytesRecvd := ∑ i ∈ seen, pktPayload m.totalBytes i

/-- What the client has stored for a reply, and what the application got. -/
inductive ReplyStage (m : OutboundMsgState) (seen : Finset Nat) :
    Option ClientRequestState → List Nat → Prop
  | counting (hMissing : seen ≠ allPkts m) : ReplyStage m seen (some (.after m seen)) []
  | delivered (hAll : seen = allPkts m) : ReplyStage m seen none [m.totalBytes]

/-- A packet of a reply: one that was not counted before, or one of a reply that the application
has got, which is ignored. -/
theorem handleReplyPkt_cases (hm : m.Ok cfg) (hReply : m.isRequest = false)
    (hp : PacketFacts m id p) (hData : p.isData = true)
    (hFresh : p.pktIndex ∉ seen ∨ seen = allPkts m) (hSub : insert p.pktIndex seen ⊆ allPkts m)
    (hStage : ReplyStage m seen (l.client.get? id) deliveries) :
    ∃ client size, l.handleReplyPkt p = ({ l with client := client }, size) ∧
      (∀ other ≠ id, client.get? other = l.client.get? other) ∧
      ReplyStage m (insert p.pktIndex seen) (client.get? id) (size.toList ++ deliveries) ∧
      (deliveries ≠ [] → client = l.client ∧ size = none) := by
  generalize hStored : l.client.get? id = stored at hStage
  unfold R2p2Layer.handleReplyPkt
  rw [hp.reqId, hStored]
  cases hStage with
  | delivered hAll =>
    have hSame : insert p.pktIndex seen = seen := by
      apply Finset.insert_eq_of_mem
      rw [hAll]
      exact hSub (Finset.mem_insert_self _ _)
    refine ⟨l.client, none, rfl, fun _ _ => rfl, ?_, fun _ => ⟨rfl, rfl⟩⟩
    rw [hSame, hStored]
    exact .delivered hAll
  | counting hMissing =>
    obtain ⟨-, hSize, -⟩ := hp.data hData
    obtain ⟨hFirst, hPktId⟩ := hp.header hData
    have hNew := hFresh.resolve_right hMissing
    have hTotal := hm.pktId
    rw [hReply, if_neg nofun] at hTotal
    have hToRec : (if p.first = true then p.pktId else (ClientRequestState.after m seen).replyPktsToRec)
        = (ClientRequestState.after m (insert p.pktIndex seen)).replyPktsToRec := by
      simp only [ClientRequestState.after, hFirst, hPktId, hTotal]
      by_cases hZero : p.pktIndex = 0
      · simp [hZero]
      · simp [hZero, Ne.symm hZero]
    have hRecvd : (ClientRequestState.after m seen).replyPktsRecvd + 1 =
        (ClientRequestState.after m (insert p.pktIndex seen)).replyPktsRecvd :=
      (Finset.card_insert_of_notMem hNew).symm
    have hBytes : (ClientRequestState.after m seen).replyBytesRecvd + p.size =
        (ClientRequestState.after m (insert p.pktIndex seen)).replyBytesRecvd := by
      simp only [ClientRequestState.after, Finset.sum_insert hNew, hSize,
        Nat.add_comm (pktPayload m.totalBytes p.pktIndex)]
    have hDone : (¬ (p.first = false ∧
          (ClientRequestState.after m (insert p.pktIndex seen)).replyPktsToRec = 0) ∧
        ((ClientRequestState.after m (insert p.pktIndex seen)).replyPktsRecvd : Int) =
          (ClientRequestState.after m (insert p.pktIndex seen)).replyPktsToRec) ↔
        insert p.pktIndex seen = allPkts m := by
      rw [← card_eq_numPkts_iff hSub]
      have hPos := numPkts_pos hm
      have hCard : 0 < (insert p.pktIndex seen).card :=
        Finset.card_pos.mpr ⟨_, Finset.mem_insert_self _ _⟩
      simp only [ClientRequestState.after]
      constructor
      · rintro ⟨-, hEq⟩
        split at hEq <;> omega
      · intro hEq
        have hZero : 0 ∈ insert p.pktIndex seen :=
          (card_eq_numPkts_iff hSub).mp hEq ▸ zero_mem_allPkts hm
        rw [if_pos hZero]
        exact ⟨fun h => by omega, by omega⟩
    simp only [hToRec, hRecvd, hBytes]
    by_cases hAll : insert p.pktIndex seen = allPkts m
    · rw [if_pos (hDone.mpr hAll)]
      refine ⟨_, _, rfl, fun other hOther => Table.get?_erase_of_ne _ hOther, ?_, fun h => absurd rfl h⟩
      rw [Table.get?_erase_self, hAll]
      have hBytes : (ClientRequestState.after m (allPkts m)).replyBytesRecvd = m.totalBytes :=
        sum_pktPayload_all m.totalBytes
      rw [hBytes]
      exact .delivered rfl
    · rw [if_neg (hDone.not.mpr hAll)]
      refine ⟨_, _, rfl, fun other hOther => Table.get?_set_of_ne _ _ hOther, ?_, fun h => absurd rfl h⟩
      rw [Table.get?_set_self]
      exact .counting hAll

end Dpdq.Ns2
