import Dpdq.Ns3.CbReceiverMessage
import Dpdq.Ns3.CbSender

/-!
# What a step of the sender can do

For each operation of the sender, the QP it leaves and the packets it makes. A QP stays the QP of
its message (`QueuePair.SameMessage`), its next byte starts a chunk (`QueuePair.Aligned`), and
every packet it makes is one of the message.
-/

namespace Dpdq.Ns3

open Dpdq.Lib

variable {cfg : CbConfig}

namespace QueuePair

/-- `r` is the QP of the message of `q`, and has as much of it acknowledged. -/
structure SameMessage (q r : QueuePair) : Prop where
  sip : r.sip = q.sip
  dip : r.dip = q.dip
  size : r.size = q.size
  sndUna : r.sndUna = q.sndUna

theorem SameMessage.refl (q : QueuePair) : q.SameMessage q := ⟨rfl, rfl, rfl, rfl⟩

theorem SameMessage.trans {q r t : QueuePair} (h : q.SameMessage r) (h' : r.SameMessage t) :
    q.SameMessage t :=
  ⟨h'.1.trans h.1, h'.2.trans h.2, h'.3.trans h.3, h'.4.trans h.4⟩

/-- `IsFinishedConst` depends on the message only. -/
theorem SameMessage.isFinished {q r : QueuePair} (h : q.SameMessage r) :
    r.isFinished = q.isFinished := by
  unfold QueuePair.isFinished
  rw [h.size, h.sndUna]

/-- The next byte is the first one of a chunk, or the message has been sent. -/
def Aligned (cfg : CbConfig) (q : QueuePair) : Prop :=
  q.sndNxt % cfg.mtu = 0 ∨ q.size ≤ q.sndNxt

end QueuePair

/-! ## Packets -/

theorem clampU32_of_lt {n : Nat} (h : n < 2 ^ 32) : clampU32 n = n := by
  unfold clampU32
  omega

theorem cbNextChunkPayloadBytes_pos {offset messageBytes chunkBytes : Nat}
    (h : cbNextChunkPayloadBytes offset messageBytes chunkBytes ≠ 0) :
    0 < chunkBytes ∧ offset < messageBytes := by
  unfold cbNextChunkPayloadBytes at h
  split at h
  · exact absurd rfl h
  · omega

/-- The payload at the start of a chunk is the chunk. -/
theorem cbNextChunkPayloadBytes_eq {offset messageBytes : Nat} (hMtu : 0 < cfg.mtu)
    (hOffset : offset < messageBytes) (hAligned : offset % cfg.mtu = 0) :
    cbNextChunkPayloadBytes offset messageBytes cfg.mtu =
      chunkSize cfg messageBytes (offset / cfg.mtu) := by
  have hStart := Nat.div_add_mod' offset cfg.mtu
  rw [hAligned, Nat.add_zero] at hStart
  unfold cbNextChunkPayloadBytes chunkSize
  rw [if_neg (by omega), hStart]

theorem ofMessage_grantReqPacket (k : TxKey) {q : QueuePair} (hSize : q.size < 2 ^ 32) :
    (grantReqPacket k q).OfMessage cfg q.size :=
  ⟨Or.inr (clampU32_of_lt hSize), nofun⟩

/-- The data of a packet that starts at a chunk. -/
theorem ofMessage_data {q : QueuePair} {p : CbPacket} {offset : Nat} (hMtu : 0 < cfg.mtu)
    (hSize : q.size < 2 ^ 32) (hOffset : offset < q.size) (hAligned : offset % cfg.mtu = 0)
    (hRequests : p.tag.creditReqBytes = 0 ∨ p.tag.creditReqBytes = q.size)
    (hSeq : p.ch.seq = offset % 2 ^ 32)
    (hPayload : p.payloadSize = cbNextChunkPayloadBytes offset q.size cfg.mtu) :
    p.OfMessage cfg q.size := by
  have hStart : p.ch.seq = offset := hSeq.trans (Nat.mod_eq_of_lt (hOffset.trans hSize))
  refine ⟨hRequests, fun _ _ => ?_⟩
  rw [hStart, hPayload]
  exact ⟨hAligned, hOffset, cbNextChunkPayloadBytes_eq hMtu hOffset hAligned⟩

theorem nextDataPacket_creditReqBytes (k : TxKey) {q : QueuePair} (hSize : q.size < 2 ^ 32)
    (payloadSize : Nat) (csnMarked : Bool) :
    (nextDataPacket k q payloadSize csnMarked).tag.creditReqBytes = 0 ∨
      (nextDataPacket k q payloadSize csnMarked).tag.creditReqBytes = q.size := by
  unfold nextDataPacket
  simp only
  split
  · exact Or.inl rfl
  · exact Or.inr (clampU32_of_lt hSize)

/-- `p` is a packet that the QP makes for its message: its announcement, or one chunk. -/
inductive QueuePair.Makes (cfg : CbConfig) (k : TxKey) (q : QueuePair) : CbPacket → Prop
  | grantReq (r : QueuePair) : q.SameMessage r → Makes cfg k q (grantReqPacket k r)
  | next (r : QueuePair) (csnMarked : Bool) : q.SameMessage r → r.sndNxt = q.sndNxt →
      cbNextChunkPayloadBytes q.sndNxt q.size cfg.mtu ≠ 0 →
      Makes cfg k q
        (nextDataPacket k r (cbNextChunkPayloadBytes q.sndNxt q.size cfg.mtu) csnMarked)
  | resend (r : QueuePair) (chunk : Nat) : q.SameMessage r → 0 < cfg.mtu →
      chunk * cfg.mtu < q.size →
      Makes cfg k q (resendDataPacket k r (chunk * cfg.mtu)
        (cbNextChunkPayloadBytes (chunk * cfg.mtu) q.size cfg.mtu))

namespace QueuePair

variable {k : TxKey} {q : QueuePair} {p : CbPacket}

theorem Makes.header (h : q.Makes cfg k p) :
    p.ch.dip = q.dip ∧ p.rxKey = ⟨q.sip, k.pg, k.sport⟩ := by
  cases h with
  | grantReq r hSame =>
    refine ⟨hSame.dip, ?_⟩
    rw [← hSame.sip]
    rfl
  | next r csnMarked hSame hNxt hPayload =>
    refine ⟨hSame.dip, ?_⟩
    rw [← hSame.sip]
    rfl
  | resend r chunk hSame hMtu hChunk =>
    refine ⟨hSame.dip, ?_⟩
    rw [← hSame.sip]
    rfl

/-- A QP of the same message, with the same next byte, makes the same packets. -/
theorem Makes.congr {r : QueuePair} (h : r.Makes cfg k p) (hSame : q.SameMessage r)
    (hNxt : r.sndNxt = q.sndNxt) : q.Makes cfg k p := by
  cases h with
  | grantReq t hSame' => exact .grantReq t (hSame.trans hSame')
  | next t csnMarked hSame' hNxt' hPayload =>
    rw [hNxt, hSame.size] at hPayload ⊢
    exact .next t csnMarked (hSame.trans hSame') (hNxt'.trans hNxt) hPayload
  | resend t chunk hSame' hMtu hChunk =>
    rw [hSame.size] at hChunk ⊢
    exact .resend t chunk (hSame.trans hSame') hMtu hChunk

theorem Makes.ofMessage (h : q.Makes cfg k p) (hAligned : q.Aligned cfg) (hSize : q.size < 2 ^ 32) :
    p.OfMessage cfg q.size := by
  cases h with
  | grantReq r hSame =>
    rw [← hSame.size] at hSize ⊢
    exact ofMessage_grantReqPacket k hSize
  | next r csnMarked hSame hNxt hPayload =>
    obtain ⟨hMtu, hOffset⟩ := cbNextChunkPayloadBytes_pos hPayload
    have hStart : q.sndNxt % cfg.mtu = 0 := hAligned.resolve_right (by omega)
    have hRequests := nextDataPacket_creditReqBytes k (q := r) (by rw [hSame.size]; exact hSize)
      (cbNextChunkPayloadBytes q.sndNxt q.size cfg.mtu) csnMarked
    rw [hSame.size] at hRequests
    refine ofMessage_data hMtu hSize hOffset hStart hRequests ?_ rfl
    rw [← hNxt]
    rfl
  | resend r chunk hSame hMtu hChunk =>
    exact ofMessage_data hMtu hSize hChunk (Nat.mul_mod_left chunk cfg.mtu) (Or.inl rfl) rfl rfl

/-- Only chunks are sent as data. -/
theorem Makes.mtu_pos (h : q.Makes cfg k p) (hData : CbReceiver.IsData p) : 0 < cfg.mtu := by
  cases h with
  | grantReq r hSame => cases hData.1
  | next r csnMarked hSame hNxt hPayload => exact (cbNextChunkPayloadBytes_pos hPayload).1
  | resend r chunk hSame hMtu hChunk => exact hMtu

end QueuePair

/-! ## Operations -/

theorem classify_spec (r : ReceiverState) (q : QueuePair) :
    q.SameMessage (classify cfg r q).2 ∧ (classify cfg r q).2.sndNxt = q.sndNxt := by
  unfold classify
  simp only
  split
  · split
    · exact ⟨⟨rfl, rfl, rfl, rfl⟩, rfl⟩
    · exact ⟨⟨rfl, rfl, rfl, rfl⟩, rfl⟩
  · exact ⟨⟨rfl, rfl, rfl, rfl⟩, rfl⟩

namespace CbSender

/-- A QP that may send sends nothing, its announcement, or its next chunk. -/
theorem getNxtPacket_spec (cfg : CbSenderConfig) (s : CbSender) (k : TxKey) (q : QueuePair) :
    ∃ r, (s.getNxtPacket cfg k q).1.qpMap = Function.update s.qpMap k (some r) ∧
      q.SameMessage r ∧ (∀ p, (s.getNxtPacket cfg k q).2 = some p → q.Makes cfg.toCbConfig k p) ∧
      (r.sndNxt = q.sndNxt ∨
        r.sndNxt = q.sndNxt + cbNextChunkPayloadBytes q.sndNxt q.size cfg.mtu) := by
  have hPayload : min (cbNextChunkPayloadBytes q.sndNxt q.size cfg.mtu) q.bytesLeft =
      cbNextChunkPayloadBytes q.sndNxt q.size cfg.mtu :=
    Nat.min_eq_left (cbNextChunkPayloadBytes_le q.sndNxt q.size cfg.mtu)
  unfold getNxtPacket
  simp only [hPayload]
  generalize hChecked : (if (!q.usnsolCheckDone) = true then
    classify cfg.toCbConfig { s.getOrCreateReceiverState q.dip k with enabled := true } q
    else ({ s.getOrCreateReceiverState q.dip k with enabled := true }, q)) = checked
  have hSame : q.SameMessage checked.2 ∧ checked.2.sndNxt = q.sndNxt := by
    rw [← hChecked]
    split
    · exact classify_spec _ q
    · exact ⟨QueuePair.SameMessage.refl q, rfl⟩
  obtain ⟨hSame, hNxt⟩ := hSame
  split
  · split
    · refine ⟨_, rfl, ⟨hSame.1, hSame.2, hSame.3, hSame.4⟩, ?_, Or.inl hNxt⟩
      intro p hp
      cases hp
    · refine ⟨_, rfl, ⟨hSame.1, hSame.2, hSame.3, hSame.4⟩, ?_, Or.inl hNxt⟩
      intro p hp
      obtain rfl := Option.some.inj hp
      exact .grantReq checked.2 hSame
  · split
    · refine ⟨_, rfl, ⟨hSame.1, hSame.2, hSame.3, hSame.4⟩, ?_, Or.inl hNxt⟩
      intro p hp
      cases hp
    · rename_i hSends
      refine ⟨_, rfl, ⟨hSame.1, hSame.2, hSame.3, hSame.4⟩, ?_, Or.inr ?_⟩
      · intro p hp
        obtain rfl := Option.some.inj hp
        exact .next checked.2 _ hSame hNxt fun hNone => hSends (Or.inl hNone)
      · rw [← hNxt]
        rfl

/-- The next byte still starts a chunk. -/
theorem aligned_next {q r : QueuePair} (h : q.Aligned cfg) (hSize : r.size = q.size)
    (hNxt : r.sndNxt = q.sndNxt ∨
      r.sndNxt = q.sndNxt + cbNextChunkPayloadBytes q.sndNxt q.size cfg.mtu) : r.Aligned cfg := by
  unfold QueuePair.Aligned at h ⊢
  rw [hSize]
  rcases hNxt with hKept | hNext
  · rw [hKept]
    exact h
  · rw [hNext]
    rcases h with hStart | hSent
    · unfold cbNextChunkPayloadBytes
      split
      · exact Or.inl hStart
      · rcases Nat.le_total cfg.mtu (q.size - q.sndNxt) with hFull | hLast
        · left
          rw [Nat.min_eq_left hFull, Nat.add_mod_right]
          exact hStart
        · right
          omega
    · right
      omega

theorem mem_receiveResend {s : CbSender} {g p : CbPacket} (h : p ∈ s.receiveResend cfg g) :
    ∃ q, s.qpMap ⟨g.ch.dport, g.ch.pg⟩ = some q ∧ q.Makes cfg ⟨g.ch.dport, g.ch.pg⟩ p := by
  unfold receiveResend at h
  simp only at h
  split at h
  · exact absurd h List.not_mem_nil
  rename_i q hq
  split at h
  · exact absurd h List.not_mem_nil
  rename_i hMtu
  obtain ⟨i, hi, rfl⟩ := List.mem_map.mp h
  have hTaken := (List.mem_filter.mp hi).1
  have hBound := List.all_eq_true.mp List.all_takeWhile i hTaken
  exact ⟨q, hq, .resend q i (QueuePair.SameMessage.refl q)
    (Nat.pos_of_ne_zero hMtu) (of_decide_eq_true hBound).2⟩

theorem receiveGrant_qpMap (s : CbSender) (g : CbPacket) : (s.receiveGrant g).qpMap = s.qpMap := by
  unfold receiveGrant
  simp only
  split
  · rfl
  · rfl

theorem cleanupReceiverState_qpMap (s : CbSender) (k : TxKey) (dip : Nat) :
    (s.cleanupReceiverState k dip).qpMap = s.qpMap := by
  unfold cleanupReceiverState
  split
  · rfl
  · simp only
    split
    · rfl
    · rfl

/-- A call of the receiver completes a QP that it finds, once. -/
theorem completeSenderQp_spec (s : CbSender) (k : TxKey) (flowId : Int) :
    s.completeSenderQp k flowId = (s, false) ∨ ∃ q, s.qpMap k = some q ∧
      (s.completeSenderQp k flowId).1.qpMap = Function.update s.qpMap k (some { q with
        sndUna := q.size
        sndNxt := max q.sndNxt q.size }) ∧
      (s.completeSenderQp k flowId).2 = !q.isFinished := by
  unfold completeSenderQp
  cases hq : s.qpMap k with
  | none => exact Or.inl rfl
  | some q =>
    simp only
    split
    · exact Or.inl rfl
    · right
      refine ⟨q, rfl, ?_, rfl⟩
      rw [cleanupReceiverState_qpMap]

end CbSender

end Dpdq.Ns3
