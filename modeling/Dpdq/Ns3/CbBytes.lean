import Mathlib.Tactic.Ring

/-!
# Payload bytes, wire bytes and chunks

The static functions at the head of `rdma-hw.cc` that convert between payload and on-wire bytes
and cut a message into chunks of one MTU.
-/

namespace Dpdq.Ns3

def cbDataHeadersOnWire : Nat := 48
def cbLinkOverheadOnWire : Nat := 20
def cbMinEthernetOnWire : Nat := 84

/-- `CbAddHeaderOverhead`. -/
def cbAddHeaderOverhead (payloadBytes maxPayloadBytes : Nat) (skipLastPktCheck : Bool := false) :
    Nat :=
  if payloadBytes = 0 ∨ maxPayloadBytes = 0 then 0
  else
    let fullPkts := payloadBytes / maxPayloadBytes
    let remBytes := payloadBytes % maxPayloadBytes
    let total := fullPkts * (maxPayloadBytes + cbDataHeadersOnWire + cbLinkOverheadOnWire)
    if remBytes > 0 then
      total + max (remBytes + cbDataHeadersOnWire + cbLinkOverheadOnWire) cbMinEthernetOnWire
    else if skipLastPktCheck ∧ fullPkts > 0 then max total cbMinEthernetOnWire
    else total

/-- `CbRemoveHeaderOverhead`. -/
def cbRemoveHeaderOverhead (onWireBytes maxPayloadBytes : Nat) : Nat :=
  if onWireBytes = 0 ∨ maxPayloadBytes = 0 then 0
  else
    let maxPktOnWire := maxPayloadBytes + cbDataHeadersOnWire + cbLinkOverheadOnWire
    let remOnWire := onWireBytes % maxPktOnWire
    let payload := onWireBytes / maxPktOnWire * maxPayloadBytes
    if remOnWire ≥ cbMinEthernetOnWire then
      payload + min (remOnWire - cbDataHeadersOnWire - cbLinkOverheadOnWire) maxPayloadBytes
    else payload

/-- `CbAlignChunkPrefixBytes`. -/
def cbAlignChunkPrefixBytes (candidateBytes messageBytes chunkBytes : Nat) : Nat :=
  if candidateBytes = 0 ∨ messageBytes = 0 ∨ chunkBytes = 0 then 0
  else if candidateBytes ≥ messageBytes then messageBytes
  else candidateBytes / chunkBytes * chunkBytes

/-- `CbNextChunkPayloadBytes`. -/
def cbNextChunkPayloadBytes (nextOffset messageBytes chunkBytes : Nat) : Nat :=
  if chunkBytes = 0 ∨ nextOffset ≥ messageBytes then 0
  else min chunkBytes (messageBytes - nextOffset)

/-- `CbNextChunkOnWireBytes`. -/
def cbNextChunkOnWireBytes (nextOffset messageBytes chunkBytes : Nat) : Nat :=
  cbAddHeaderOverhead (cbNextChunkPayloadBytes nextOffset messageBytes chunkBytes) chunkBytes true

theorem cbNextChunkPayloadBytes_le (nextOffset messageBytes chunkBytes : Nat) :
    cbNextChunkPayloadBytes nextOffset messageBytes chunkBytes ≤ messageBytes - nextOffset := by
  unfold cbNextChunkPayloadBytes
  split
  · exact Nat.zero_le _
  · exact Nat.min_le_right _ _

theorem cbAlignChunkPrefixBytes_le (candidateBytes messageBytes chunkBytes : Nat) :
    cbAlignChunkPrefixBytes candidateBytes messageBytes chunkBytes ≤ messageBytes := by
  unfold cbAlignChunkPrefixBytes
  split
  · exact Nat.zero_le _
  · split
    · exact Nat.le_refl _
    · have hPrefix := Nat.div_mul_le_self candidateBytes chunkBytes
      omega

/-- The aligned prefix is within its candidate. -/
theorem cbAlignChunkPrefixBytes_le_candidate (candidateBytes messageBytes chunkBytes : Nat) :
    cbAlignChunkPrefixBytes candidateBytes messageBytes chunkBytes ≤ candidateBytes := by
  unfold cbAlignChunkPrefixBytes
  split
  · exact Nat.zero_le _
  · split
    · assumption
    · exact Nat.div_mul_le_self candidateBytes chunkBytes

/-- The aligned prefix is the message or whole chunks. -/
theorem cbAlignChunkPrefixBytes_whole (candidateBytes messageBytes chunkBytes : Nat) :
    cbAlignChunkPrefixBytes candidateBytes messageBytes chunkBytes = messageBytes ∨
      chunkBytes ∣ cbAlignChunkPrefixBytes candidateBytes messageBytes chunkBytes := by
  unfold cbAlignChunkPrefixBytes
  split
  · exact Or.inr (Nat.dvd_zero _)
  · split
    · exact Or.inl rfl
    · exact Or.inr (Nat.dvd_mul_left _ _)

/-- The wire bytes of a single packet. -/
theorem cbAddHeaderOverhead_of_le {payloadBytes maxPayloadBytes : Nat} (hPos : 0 < payloadBytes)
    (hLe : payloadBytes ≤ maxPayloadBytes) :
    cbAddHeaderOverhead payloadBytes maxPayloadBytes true = max (payloadBytes + 68) 84 := by
  unfold cbAddHeaderOverhead cbDataHeadersOnWire cbLinkOverheadOnWire cbMinEthernetOnWire
  rw [if_neg (by omega)]
  rcases Nat.lt_or_eq_of_le hLe with hLess | hFull
  · rw [Nat.div_eq_of_lt hLess, Nat.mod_eq_of_lt hLess]
    simp only
    rw [if_pos hPos]
    omega
  · rw [hFull, Nat.div_self (hFull ▸ hPos), Nat.mod_self]
    simp

theorem cbAddHeaderOverhead_zero (maxPayloadBytes : Nat) (skipLastPktCheck : Bool) :
    cbAddHeaderOverhead 0 maxPayloadBytes skipLastPktCheck = 0 := if_pos (Or.inl rfl)

/-- One packet does not cost more than a payload that contains its own. -/
theorem cbAddHeaderOverhead_packet_le {m n maxPayloadBytes : Nat} (hLe : m ≤ n)
    (hPacket : m ≤ maxPayloadBytes) :
    cbAddHeaderOverhead m maxPayloadBytes true ≤ cbAddHeaderOverhead n maxPayloadBytes true := by
  rcases Nat.eq_zero_or_pos m with rfl | hPos
  · rw [cbAddHeaderOverhead_zero]
    exact Nat.zero_le _
  rw [cbAddHeaderOverhead_of_le hPos hPacket]
  rcases Nat.le_total n maxPayloadBytes with hSmall | hLarge
  · rw [cbAddHeaderOverhead_of_le (Nat.lt_of_lt_of_le hPos hLe) hSmall]
    omega
  · have hPkts : 0 < n / maxPayloadBytes := Nat.div_pos hLarge (by omega)
    have hTotal : maxPayloadBytes + 48 + 20 ≤
        n / maxPayloadBytes * (maxPayloadBytes + 48 + 20) := Nat.le_mul_of_pos_left _ hPkts
    unfold cbAddHeaderOverhead cbDataHeadersOnWire cbLinkOverheadOnWire cbMinEthernetOnWire
    rw [if_neg (by omega)]
    dsimp only
    split
    · omega
    · rw [if_pos ⟨rfl, hPkts⟩]
      omega

/-- Within one packet, less payload does not cost more. -/
theorem cbAddHeaderOverhead_mono {m n maxPayloadBytes : Nat} (hLe : m ≤ n)
    (hPacket : n ≤ maxPayloadBytes) :
    cbAddHeaderOverhead m maxPayloadBytes true ≤ cbAddHeaderOverhead n maxPayloadBytes true :=
  cbAddHeaderOverhead_packet_le hLe (hLe.trans hPacket)

/-- The wire bytes of whole packets and of the rest, for packets that are not padded when full. -/
theorem cbAddHeaderOverhead_eq {payloadBytes maxPayloadBytes : Nat} (hPacket : 16 ≤ maxPayloadBytes) :
    cbAddHeaderOverhead payloadBytes maxPayloadBytes true =
      payloadBytes / maxPayloadBytes * (maxPayloadBytes + 68) +
        if payloadBytes % maxPayloadBytes > 0 then max (payloadBytes % maxPayloadBytes + 68) 84
        else 0 := by
  rcases Nat.eq_zero_or_pos payloadBytes with rfl | hPos
  · rw [cbAddHeaderOverhead_zero, Nat.zero_div, Nat.zero_mod, Nat.zero_mul, if_neg (by omega)]
  · unfold cbAddHeaderOverhead cbDataHeadersOnWire cbLinkOverheadOnWire cbMinEthernetOnWire
    rw [if_neg (by omega)]
    simp only [Nat.add_assoc, Nat.reduceAdd]
    split
    · rfl
    · rename_i hFull
      have hSplit := Nat.div_add_mod payloadBytes maxPayloadBytes
      have hPkts : 0 < payloadBytes / maxPayloadBytes := by
        rcases Nat.eq_zero_or_pos (payloadBytes / maxPayloadBytes) with hNone | hSome
        · rw [hNone, Nat.mul_zero] at hSplit
          omega
        · exact hSome
      have hWire : maxPayloadBytes + 68 ≤
          payloadBytes / maxPayloadBytes * (maxPayloadBytes + 68) := Nat.le_mul_of_pos_left _ hPkts
      rw [if_pos ⟨trivial, hPkts⟩]
      omega

/-- For such packets, less payload does not cost more. -/
theorem cbAddHeaderOverhead_le_of_le {m n maxPayloadBytes : Nat} (hPacket : 16 ≤ maxPayloadBytes)
    (hLe : m ≤ n) :
    cbAddHeaderOverhead m maxPayloadBytes true ≤ cbAddHeaderOverhead n maxPayloadBytes true := by
  rw [cbAddHeaderOverhead_eq hPacket, cbAddHeaderOverhead_eq hPacket]
  have hRest : m % maxPayloadBytes < maxPayloadBytes := Nat.mod_lt _ (by omega)
  rcases Nat.lt_or_eq_of_le (Nat.div_le_div_right (c := maxPayloadBytes) hLe) with hLess | hSame
  · have hPkts : m / maxPayloadBytes * (maxPayloadBytes + 68) + (maxPayloadBytes + 68) ≤
        n / maxPayloadBytes * (maxPayloadBytes + 68) := by
      rw [← Nat.succ_mul]
      exact Nat.mul_le_mul_right _ hLess
    split
    · omega
    · omega
  · have hM := Nat.div_add_mod m maxPayloadBytes
    have hN := Nat.div_add_mod n maxPayloadBytes
    rw [hSame] at hM ⊢
    have hRests : m % maxPayloadBytes ≤ n % maxPayloadBytes := by omega
    split
    · split
      · omega
      · omega
    · omega

/-- Every payload byte costs at most the headers of a packet of its own. -/
theorem cbAddHeaderOverhead_le (payloadBytes maxPayloadBytes : Nat) (skipLastPktCheck : Bool) :
    cbAddHeaderOverhead payloadBytes maxPayloadBytes skipLastPktCheck ≤ 69 * payloadBytes + 84 := by
  unfold cbAddHeaderOverhead cbDataHeadersOnWire cbLinkOverheadOnWire cbMinEthernetOnWire
  split
  · exact Nat.zero_le _
  · rename_i hSizes
    have hSplit := Nat.div_add_mod payloadBytes maxPayloadBytes
    have hPkts : payloadBytes / maxPayloadBytes ≤ maxPayloadBytes * (payloadBytes / maxPayloadBytes) :=
      Nat.le_mul_of_pos_left _ (by omega)
    have hTotal : payloadBytes / maxPayloadBytes * (maxPayloadBytes + 48 + 20) =
        maxPayloadBytes * (payloadBytes / maxPayloadBytes) + 68 * (payloadBytes / maxPayloadBytes) := by
      ring
    simp only [hTotal]
    split
    · omega
    · split
      · omega
      · omega

end Dpdq.Ns3
