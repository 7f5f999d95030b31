import Mathlib.Order.GaloisConnection.Defs
import Dpdq.Ns3.SelfAllocation

/-!
# Adding and removing headers

`CbAddHeaderOverhead` and `CbRemoveHeaderOverhead` as a Galois connection. Payload and wire bytes
are both compared as a number of whole packets and a rest, in that order, and for the rest of a
packet the padding is undone by the minimum that a rest on the wire must have.
-/

namespace Dpdq.Ns3

/-- Blocks and a rest are compared in lexicographic order. -/
theorem mul_add_le_iff_lex {block whole whole' rest rest' : Nat} (hRest : rest ≤ block)
    (hRest' : rest' < block) :
    whole * block + rest ≤ whole' * block + rest' ↔
      whole < whole' ∨ whole = whole' ∧ rest ≤ rest' := by
  rcases Nat.lt_trichotomy whole whole' with hLess | rfl | hMore
  · have hBlocks : whole * block + block ≤ whole' * block := by
      rw [← Nat.succ_mul]
      exact Nat.mul_le_mul_right _ hLess
    omega
  · omega
  · have hBlocks : whole' * block + block ≤ whole * block := by
      rw [← Nat.succ_mul]
      exact Nat.mul_le_mul_right _ hMore
    omega

section Adjunction

variable {maxPayloadBytes : Nat}

/-- The payload of whole packets and of the rest, for packets that are not padded when full. -/
theorem cbRemoveHeaderOverhead_whole (onWireBytes : Nat) (hPacket : 16 ≤ maxPayloadBytes) :
    cbRemoveHeaderOverhead onWireBytes maxPayloadBytes =
      onWireBytes / (maxPayloadBytes + 68) * maxPayloadBytes +
        if 84 ≤ onWireBytes % (maxPayloadBytes + 68) then
          onWireBytes % (maxPayloadBytes + 68) - 68
        else 0 := by
  have hRem : onWireBytes % (maxPayloadBytes + 68) < maxPayloadBytes + 68 :=
    Nat.mod_lt _ (by omega)
  unfold cbRemoveHeaderOverhead cbDataHeadersOnWire cbLinkOverheadOnWire cbMinEthernetOnWire
  simp only [Nat.add_assoc, Nat.reduceAdd]
  split
  · rename_i hZero
    obtain rfl : onWireBytes = 0 := by omega
    simp
  · split
    · omega
    · rfl

/-- The padding of a rest is undone by the minimum of a rest on the wire. -/
theorem paddedRest_le_iff (rest restOnWire : Nat) :
    (if rest > 0 then max (rest + 68) 84 else 0) ≤ restOnWire ↔
      rest ≤ if 84 ≤ restOnWire then restOnWire - 68 else 0 := by
  split
  · split
    · omega
    · omega
  · omega

theorem cbAddHeaderOverhead_skip_eq (hPacket : 16 ≤ maxPayloadBytes) (payload : Nat)
    (skipLastPktCheck : Bool) :
    cbAddHeaderOverhead payload maxPayloadBytes skipLastPktCheck =
      cbAddHeaderOverhead payload maxPayloadBytes true := by
  cases skipLastPktCheck with
  | false => exact cbAddHeaderOverhead_skip hPacket
  | true => rfl

/-- A payload with its headers fits some wire bytes exactly where it is within the payload that is
taken from them. -/
theorem cbHeaderOverhead_gc (hPacket : 16 ≤ maxPayloadBytes) (skipLastPktCheck : Bool) :
    GaloisConnection (fun payload => cbAddHeaderOverhead payload maxPayloadBytes skipLastPktCheck)
      (fun onWire => cbRemoveHeaderOverhead onWire maxPayloadBytes) := by
  intro payload onWire
  have hRest : payload % maxPayloadBytes < maxPayloadBytes := Nat.mod_lt _ (by omega)
  have hRestOnWire : onWire % (maxPayloadBytes + 68) < maxPayloadBytes + 68 :=
    Nat.mod_lt _ (by omega)
  have hRests := paddedRest_le_iff (payload % maxPayloadBytes) (onWire % (maxPayloadBytes + 68))
  have hData := Nat.div_add_mod' payload maxPayloadBytes
  have hWire := Nat.div_add_mod' onWire (maxPayloadBytes + 68)
  have hAdd := @cbAddHeaderOverhead_eq payload _ hPacket
  have hRemove := cbRemoveHeaderOverhead_whole onWire hPacket
  dsimp only
  rw [cbAddHeaderOverhead_skip_eq hPacket payload]
  calc cbAddHeaderOverhead payload maxPayloadBytes true ≤ onWire
    _ ↔ payload / maxPayloadBytes * (maxPayloadBytes + 68) +
          (if payload % maxPayloadBytes > 0 then max (payload % maxPayloadBytes + 68) 84 else 0) ≤
        onWire / (maxPayloadBytes + 68) * (maxPayloadBytes + 68) +
          onWire % (maxPayloadBytes + 68) := by rw [hAdd, hWire]
    _ ↔ payload / maxPayloadBytes < onWire / (maxPayloadBytes + 68) ∨
        payload / maxPayloadBytes = onWire / (maxPayloadBytes + 68) ∧
          payload % maxPayloadBytes ≤ if 84 ≤ onWire % (maxPayloadBytes + 68) then
            onWire % (maxPayloadBytes + 68) - 68 else 0 := by
      rw [mul_add_le_iff_lex _ hRestOnWire, hRests]
      split
      · omega
      · omega
    _ ↔ payload / maxPayloadBytes * maxPayloadBytes + payload % maxPayloadBytes ≤
        onWire / (maxPayloadBytes + 68) * maxPayloadBytes +
          if 84 ≤ onWire % (maxPayloadBytes + 68) then
            onWire % (maxPayloadBytes + 68) - 68 else 0 := by
      rw [mul_add_le_iff_lex hRest.le]
      split
      · omega
      · omega
    _ ↔ payload ≤ cbRemoveHeaderOverhead onWire maxPayloadBytes := by rw [hData, hRemove]

/-- The functions of 64 bits are adjoint where nothing wraps around: the payload taken from a budget
is the largest one that it carries, and a payload fits the wire bytes of its own. -/
theorem cbHeaderOverhead64_adjoint (hPacket : 16 ≤ maxPayloadBytes)
    (hMtu : maxPayloadBytes < 2 ^ 32) (skipLastPktCheck : Bool) {payload onWire : Nat}
    (hBudget : onWire < 2 ^ 64)
    (hNoWrap : cbAddHeaderOverhead payload maxPayloadBytes skipLastPktCheck < 2 ^ 64) :
    (cbAddHeaderOverhead64 payload maxPayloadBytes skipLastPktCheck ≤ onWire ↔
      payload ≤ cbRemoveHeaderOverhead64 onWire maxPayloadBytes) ∧
    IsGreatest {data | cbAddHeaderOverhead data maxPayloadBytes skipLastPktCheck ≤ onWire}
      (cbRemoveHeaderOverhead64 onWire maxPayloadBytes) ∧
    payload ≤ cbRemoveHeaderOverhead64
      (cbAddHeaderOverhead64 payload maxPayloadBytes skipLastPktCheck) maxPayloadBytes := by
  have hGc := cbHeaderOverhead_gc hPacket skipLastPktCheck
  have hPktOnWire : maxPayloadBytes + 68 < 2 ^ 64 := by omega
  have hPos : 0 < maxPayloadBytes := by omega
  rw [cbAddHeaderOverhead64_eq hPktOnWire hNoWrap,
    cbRemoveHeaderOverhead64_eq hPos hPktOnWire hBudget,
    cbRemoveHeaderOverhead64_eq hPos hPktOnWire hNoWrap]
  exact ⟨hGc payload onWire, hGc.isGreatest_u, hGc.le_u_l payload⟩

end Adjunction

/-- Two and a half packets of 1000 bytes and a budget of three packets. -/
theorem cbHeaderOverhead64_adjoint_threePackets :
    (cbAddHeaderOverhead64 2500 1000 true ≤ 3204 ↔ 2500 ≤ cbRemoveHeaderOverhead64 3204 1000) ∧
    IsGreatest {data | cbAddHeaderOverhead data 1000 true ≤ 3204}
      (cbRemoveHeaderOverhead64 3204 1000) ∧
    2500 ≤ cbRemoveHeaderOverhead64 (cbAddHeaderOverhead64 2500 1000 true) 1000 :=
  cbHeaderOverhead64_adjoint (by decide) (by decide) true (by decide) (by decide)

end Dpdq.Ns3
