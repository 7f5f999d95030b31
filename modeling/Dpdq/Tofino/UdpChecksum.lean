import Dpdq.Tofino.FlowControl
import Mathlib.Algebra.GroupWithZero.Nat

/-!
# UDP checksums

The switch rewrites fields that the UDP checksum covers, but has a unit for the IPv4 header checksum
only. A GRANT that is returned leaves with the checksum switched off; every other packet leaves with
the checksum that it came with, although egress clears the reserved field and may set the flag of the
network.

* `udpOk_other`: packets that are not for the DPDQ port keep their checksums.
* `udp_checksum_safe_iff`: the DPDQ packets that do.
-/

namespace Dpdq.Tofino

open Lib

/-! ## One's-complement sums -/

def sumWords (ws : List (BitVec 16)) : Nat := (ws.map BitVec.toNat).sum

@[simp] theorem sumWords_nil : sumWords [] = 0 := rfl

@[simp] theorem sumWords_cons (w : BitVec 16) (ws : List (BitVec 16)) :
    sumWords (w :: ws) = w.toNat + sumWords ws := rfl

theorem sumWords_append (vs ws : List (BitVec 16)) :
    sumWords (vs ++ ws) = sumWords vs + sumWords ws := by
  rw [sumWords, List.map_append, List.sum_append]
  rfl

/-- One's-complement addition counts modulo 2 ^ 16 - 1, with all ones for every multiple of it but
zero. -/
theorem toNat_foldl_onesAdd (ws : List (BitVec 16)) (a : BitVec 16) :
    (ws.foldl onesAdd a).toNat =
      if a.toNat + sumWords ws = 0 then 0 else (a.toNat + sumWords ws - 1) % 65535 + 1 := by
  induction ws generalizing a with
  | nil =>
    have hBound := a.isLt
    rw [List.foldl_nil, sumWords_nil]
    split <;> omega
  | cons w ws ih =>
    have hAdd : (onesAdd a w).toNat =
        if a.toNat + w.toNat = 0 then 0 else (a.toNat + w.toNat - 1) % 65535 + 1 := by
      have hBound : a.toNat + w.toNat ≤ 131070 := by
        have := a.isLt
        have := w.isLt
        omega
      rw [onesAdd, BitVec.toNat_ofNat]
      generalize a.toNat + w.toNat = sum at *
      rcases Nat.lt_or_ge sum (2 ^ 16) with hSmall | hLarge
      · rw [Nat.mod_eq_of_lt hSmall, Nat.div_eq_of_lt hSmall]
        split <;> omega
      · have hDiv : sum / 2 ^ 16 = 1 := by omega
        rw [hDiv]
        split <;> omega
    rw [List.foldl_cons, ih, hAdd, sumWords_cons]
    split <;> split <;> split <;> omega

/-- The words add up to all ones. -/
theorem foldl_onesAdd_eq_iff (ws : List (BitVec 16)) :
    ws.foldl onesAdd 0 = 0xffff ↔ sumWords ws ≠ 0 ∧ sumWords ws % 65535 = 0 := by
  have hSum := toNat_foldl_onesAdd ws 0
  rw [← BitVec.toNat_inj, hSum]
  show (if 0 + sumWords ws = 0 then 0 else (0 + sumWords ws - 1) % 65535 + 1) = 65535 ↔ _
  split <;> omega

/-! ## The words of a bit string -/

/-- The first `n` words of a bit string. The last one is filled up with zeros. -/
def takeWords : Nat → Bits → List (BitVec 16)
  | 0, _ => []
  | n + 1, bs =>
    (((Codec.bits 16).decode (bs ++ List.replicate 16 false)).map Prod.fst).getD 0 ::
      takeWords n (bs.drop 16)

def wordsOf (bs : Bits) : List (BitVec 16) := takeWords ((bs.length + 15) / 16) bs

@[simp] theorem wordsOf_nil : wordsOf [] = [] := rfl

theorem wordsOf_word (w : BitVec 16) (rest : Bits) :
    wordsOf ((Codec.bits 16).encode w ++ rest) = w :: wordsOf rest := by
  have hLength : ((Codec.bits 16).encode w).length = 16 := (Codec.sized_bits 16).length_encode w
  have hCount : (((Codec.bits 16).encode w ++ rest).length + 15) / 16 =
      (rest.length + 15) / 16 + 1 := by
    rw [List.length_append, hLength]
    omega
  rw [wordsOf, hCount, takeWords, List.append_assoc, Codec.decode_encode, List.drop_left' hLength]
  rfl

/-- The word that is sent as the bytes `x` and `y`. -/
def bytesWord (x y : BitVec 8) : BitVec 16 := x.setWidth 16 <<< 8 ||| y.setWidth 16

theorem toNat_bytesWord (x y : BitVec 8) : (bytesWord x y).toNat = 256 * x.toNat + y.toNat := by
  have hx := x.isLt
  have hy := y.isLt
  have hShift : (x.setWidth 16 <<< 8).toNat = x.toNat <<< 8 := by
    rw [BitVec.toNat_shiftLeft, BitVec.toNat_setWidth, Nat.shiftLeft_eq, Nat.shiftLeft_eq]
    omega
  have hSmall : (y.setWidth 16).toNat = y.toNat := by
    rw [BitVec.toNat_setWidth]
    omega
  rw [bytesWord, BitVec.toNat_or, hShift, hSmall, ← Nat.shiftLeft_add_eq_or_of_lt hy,
    Nat.shiftLeft_eq]
  omega

theorem encode_bytesWord (x y : BitVec 8) :
    (Codec.bits 16).encode (bytesWord x y) = (Codec.bits 8).encode x ++ (Codec.bits 8).encode y := by
  show Codec.encodeWord 16 (bytesWord x y) = Codec.encodeWord 8 x ++ Codec.encodeWord 8 y
  simp [Codec.encodeWord, BitVec.msb_eq_getLsbD_last, bytesWord]

theorem bytesWord_split (w : BitVec 16) : bytesWord (w.extractLsb' 8 8) (w.setWidth 8) = w := by
  apply BitVec.eq_of_toNat_eq
  have hw := w.isLt
  rw [toNat_bytesWord, BitVec.extractLsb'_toNat, BitVec.toNat_setWidth, Nat.shiftRight_eq_div_pow]
  omega

/-- One byte at the end. -/
theorem wordsOf_byte (x : BitVec 8) : wordsOf ((Codec.bits 8).encode x) = [bytesWord x 0] := by
  have hPad : (Codec.bits 8).encode x ++ List.replicate 16 false =
      (Codec.bits 16).encode (bytesWord x 0) ++ List.replicate 8 false := by
    rw [encode_bytesWord, List.append_assoc]
    rfl
  have hLength : ((Codec.bits 8).encode x).length = 8 := (Codec.sized_bits 8).length_encode x
  rw [wordsOf, hLength]
  show [(((Codec.bits 16).decode ((Codec.bits 8).encode x ++ List.replicate 16 false)).map
    Prod.fst).getD 0] = _
  rw [hPad, Codec.decode_encode]
  rfl

/-! ## Datagrams -/

/-- The data of the datagram, as far as the UDP header says, in words. -/
def dataSum (u : Udp) (data : Bits) : Nat :=
  sumWords (wordsOf (data.take (8 * (u.hdrLength.toNat - 8))))

/-- The words of the pseudo header and of the UDP header. -/
def udpHeaderWords (i : Ipv4) (u : Udp) : List (BitVec 16) :=
  [i.srcAddr.extractLsb' 16 16, i.srcAddr.extractLsb' 0 16, i.dstAddr.extractLsb' 16 16,
    i.dstAddr.extractLsb' 0 16, i.protocol.setWidth 16, u.hdrLength, u.srcPort, u.dstPort,
    u.hdrLength, u.checksum]

/-- The words of the pseudo header are the protocol and the addresses. -/
theorem udpHeaderWords_congr {i i' : Ipv4} (u : Udp) (hProtocol : i'.protocol = i.protocol)
    (hAddrs : (i'.srcAddr, i'.dstAddr) = (i.srcAddr, i.dstAddr)) :
    udpHeaderWords i' u = udpHeaderWords i u := by
  obtain ⟨hSrc, hDst⟩ := Prod.mk.inj hAddrs
  rw [udpHeaderWords, udpHeaderWords, hSrc, hDst, hProtocol]

/-- The datagram is complete, and all its words add up to all ones. -/
structure ChecksumValid (i : Ipv4) (u : Udp) (data : Bits) : Prop where
  header : 8 ≤ u.hdrLength.toNat
  complete : 8 * (u.hdrLength.toNat - 8) ≤ data.length
  sum : (udpHeaderWords i u ++ wordsOf (data.take (8 * (u.hdrLength.toNat - 8)))).foldl onesAdd 0 =
    0xffff

/-- The IPv4 header, the UDP header and the bits behind them. -/
def udpDatagram (pkt : Bits) : Option (Ipv4 × Udp × Bits) :=
  (Ethernet.codec.decode pkt).bind fun (e, rest) =>
    if e.etherType = ethertypeIpv4 then
      (Ipv4.codec.decode rest).bind fun (i, rest) =>
        if i.protocol = ipProtocolUdp then
          (Udp.codec.decode rest).map fun (u, rest) => (i, u, rest)
        else none
    else none

/-- If the packet has a UDP header, its checksum is zero or valid. -/
def UdpOk (pkt : Bits) : Prop :=
  ∀ i u data, udpDatagram pkt = some (i, u, data) → u.checksum = 0 ∨ ChecksumValid i u data

theorem checksumValid_iff {i : Ipv4} {u : Udp} {data : Bits} (hProtocol : i.protocol = ipProtocolUdp) :
    ChecksumValid i u data ↔ 8 ≤ u.hdrLength.toNat ∧ 8 * (u.hdrLength.toNat - 8) ≤ data.length ∧
      (sumWords (udpHeaderWords i u) + dataSum u data) % 65535 = 0 := by
  have hSome : sumWords (udpHeaderWords i u) ≠ 0 := by
    have hWord : (i.protocol.setWidth 16).toNat = 17 := by
      rw [hProtocol]
      rfl
    simp only [udpHeaderWords, sumWords_cons, hWord]
    omega
  have hSum : (udpHeaderWords i u ++ wordsOf (data.take (8 * (u.hdrLength.toNat - 8)))).foldl
      onesAdd 0 = 0xffff ↔ (sumWords (udpHeaderWords i u) + dataSum u data) % 65535 = 0 := by
    rw [foldl_onesAdd_eq_iff, sumWords_append]
    exact and_iff_right (by omega)
  exact ⟨fun h => ⟨h.header, h.complete, hSum.mp h.sum⟩, fun h => ⟨h.1, h.2.1, hSum.mpr h.2.2⟩⟩

/-! ## DPDQ datagrams -/

/-- What the checksum covers of the reserved field of a datagram with `len` bytes. -/
def coveredReserved (len : Nat) (reserved : BitVec 16) : Nat :=
  if 12 ≤ len then reserved.toNat
  else if len = 11 then 256 * (reserved.toNat / 256)
  else 0

/-- What the checksum covers of the flags. -/
def coveredFlags (len : Nat) (flags : BitVec 8) : Nat := if 10 ≤ len then flags.toNat else 0

/-- The first `k` bytes of two bytes, a word and a tail. -/
theorem sumWords_take (k : Nat) (x y : BitVec 8) (w : BitVec 16) (tail : Bits) :
    sumWords (wordsOf (((Codec.bits 8).encode x ++ ((Codec.bits 8).encode y ++
        ((Codec.bits 16).encode w ++ tail))).take (8 * k))) =
      (if 1 ≤ k then 256 * x.toNat else 0) + (if 2 ≤ k then y.toNat else 0) +
        (if 4 ≤ k then w.toNat else if k = 3 then 256 * (w.toNat / 256) else 0) +
        sumWords (wordsOf (tail.take (8 * k - 32))) := by
  have hByte (z : BitVec 8) : ((Codec.bits 8).encode z).length = 8 :=
    (Codec.sized_bits 8).length_encode z
  have hWord : ((Codec.bits 16).encode w).length = 16 := (Codec.sized_bits 16).length_encode w
  have hPair (rest : Bits) : wordsOf ((Codec.bits 8).encode x ++ ((Codec.bits 8).encode y ++ rest)) =
      bytesWord x y :: wordsOf rest := by
    rw [← List.append_assoc, ← encode_bytesWord, wordsOf_word]
  have hTakeByte (z : BitVec 8) (n : Nat) (rest : Bits) :
      ((Codec.bits 8).encode z ++ rest).take (n + 8) = (Codec.bits 8).encode z ++ rest.take n := by
    rw [List.take_append, hByte, List.take_of_length_le (by rw [hByte]; omega), Nat.add_sub_cancel]
  match k with
  | 0 => simp
  | 1 =>
    rw [show 8 * 1 = 0 + 8 from rfl, hTakeByte, List.take_zero, List.append_nil, wordsOf_byte,
      sumWords_cons, toNat_bytesWord]
    simp
  | 2 =>
    rw [show 8 * 2 = 0 + 8 + 8 from rfl, hTakeByte, hTakeByte, List.take_zero, hPair, sumWords_cons,
      toNat_bytesWord]
    simp
  | 3 =>
    have hHigh : (w.extractLsb' 8 8).toNat = w.toNat / 256 := by
      have hw := w.isLt
      rw [BitVec.extractLsb'_toNat, Nat.shiftRight_eq_div_pow]
      omega
    rw [show 8 * 3 = 0 + 8 + 8 + 8 from rfl, hTakeByte, hTakeByte, hPair, ← bytesWord_split w,
      encode_bytesWord, List.append_assoc, hTakeByte, List.take_zero, List.append_nil, wordsOf_byte,
      sumWords_cons, sumWords_cons, toNat_bytesWord, toNat_bytesWord, bytesWord_split, hHigh]
    simp
  | k + 4 =>
    have hTail : (((Codec.bits 16).encode w ++ tail).take (8 * k + 16)) =
        (Codec.bits 16).encode w ++ tail.take (8 * k) := by
      rw [List.take_append, hWord, List.take_of_length_le (by rw [hWord]; omega),
        Nat.add_sub_cancel]
    rw [show 8 * (k + 4) = 8 * k + 16 + 8 + 8 by omega, hTakeByte, hTakeByte, hTail, hPair,
      wordsOf_word, sumWords_cons, sumWords_cons, toNat_bytesWord, if_pos (by omega),
      if_pos (by omega), if_pos (by omega), show 8 * k + 16 + 8 + 8 - 32 = 8 * k by omega]
    omega

/-- The prefix without the fields that the switch writes. -/
def DpdqHeader.unwritten (d : DpdqHeader) : DpdqHeader := { d with flags := 0, reserved := 0 }

/-- The words of a DPDQ datagram: the fields that the switch writes, and the others. -/
theorem dataSum_dpdq (u : Udp) (d : DpdqHeader) (payload : Bits) :
    dataSum u (DpdqHeader.codec.encode d ++ payload) =
      dataSum u (DpdqHeader.codec.encode d.unwritten ++ payload) +
        coveredFlags u.hdrLength.toNat d.flags + coveredReserved u.hdrLength.toNat d.reserved := by
  have hFields (d : DpdqHeader) : DpdqHeader.codec.encode d ++ payload =
      (Codec.bits 8).encode d.msgType ++ ((Codec.bits 8).encode d.flags ++
        ((Codec.bits 16).encode d.reserved ++ ((Codec.bits 32).encode d.credit ++ payload))) := by
    have hCodec : DpdqHeader.codec.encode d = (Codec.bits 8).encode d.msgType ++
      ((Codec.bits 8).encode d.flags ++ ((Codec.bits 16).encode d.reserved ++
        (Codec.bits 32).encode d.credit)) := rfl
    simp only [hCodec, List.append_assoc]
  rw [dataSum, dataSum, hFields, hFields, sumWords_take, sumWords_take]
  generalize u.hdrLength.toNat = len
  have hFlags : 2 ≤ len - 8 ↔ 10 ≤ len := by omega
  have hReserved : 4 ≤ len - 8 ↔ 12 ≤ len := by omega
  have hHalf : len - 8 = 3 ↔ len = 11 := by omega
  have hZero : (0 : BitVec 8).toNat = 0 ∧ (0 : BitVec 16).toNat = 0 := ⟨rfl, rfl⟩
  simp only [coveredFlags, coveredReserved, DpdqHeader.unwritten, hFlags, hReserved, hHalf, hZero,
    Nat.zero_div,
    Nat.mul_zero, ite_self, Nat.add_zero]
  omega

theorem udpDatagram_wire {e : Ethernet} {i : Ipv4} (u : Udp) (d : DpdqHeader) (payload : Bits)
    (hType : e.etherType = ethertypeIpv4) (hProtocol : i.protocol = ipProtocolUdp) :
    udpDatagram (wire e i u d payload) =
      some (i, u, DpdqHeader.codec.encode d ++ payload) := by
  simp [udpDatagram, wire, emitLayers, emit, dpdqStack, Codec.decode_encode, hType, hProtocol]

theorem toNat_networkMarked (flags : BitVec 8) : (flags ||| dpdqFlagNetworkMarked).toNat =
    flags.toNat + if flags &&& dpdqFlagNetworkMarked = 0 then 4 else 0 := by
  revert flags
  decide

namespace DpdqPacket

variable (T : Tables) (intr : EgressIntrinsic) (fcReg : Register 8) (regs : EgressRegs)
  (port : PortId) (p : DpdqPacket)

/-- Egress sets the flag of the network, and the packet does not have it yet. -/
def NewlyMarked : Prop :=
  egressMarks T intr regs (p.plan T fcReg port).dpdq (p.plan T fcReg port).shim = true ∧
    p.dpdq.flags &&& dpdqFlagNetworkMarked = 0

instance : Decidable (p.NewlyMarked T intr fcReg regs port) := inferInstanceAs (Decidable (_ ∧ _))

/-- The parser takes the five bytes behind the prefix for an internal header, and ingress writes
another one over it. -/
def Cuts : Prop := getElem p.dpdq.reserved 11 shimBit_lt = true ∧ p.HandlesCredit fcReg port

/-- What the switch changes under the checksum cancels out: the reserved field that is cleared and
the flag that is set, or the five bytes that are cut out of a GRANT. -/
structure KeepsSum : Prop where
  whole : ¬ p.Cuts fcReg port → coveredReserved p.udp.hdrLength.toNat p.dpdq.reserved % 65535 =
    if 10 ≤ p.udp.hdrLength.toNat ∧ p.NewlyMarked T intr fcReg regs port then 4 else 0
  cut : p.Cuts fcReg port →
    8 * (p.udp.hdrLength.toNat - 8) ≤ 64 + (p.payload.drop 40).length ∧
    dataSum p.udp (DpdqHeader.codec.encode { p.dpdq with reserved := 0 } ++ p.payload.drop 40) %
        65535 =
      dataSum p.udp (DpdqHeader.codec.encode p.dpdq ++ p.payload) % 65535

/-- A packet that leaves the switch with the checksum that it came with keeps the sum. -/
def KeepsChecksum : Prop :=
  p.Forwarded T fcReg port →
    (getElem p.dpdq.reserved 11 shimBit_lt = true → 40 ≤ p.payload.length) →
    p.udp.checksum ≠ 0 → isReturned fcReg port p.dpdq = false → p.KeepsSum T intr fcReg regs port

section Traverse

variable {T : Tables} {intr : EgressIntrinsic} {fcReg : Register 8} {regs : EgressRegs}
  {port : PortId} {p : DpdqPacket}

/-- Ingress writes the reserved field of a packet that is not returned, and nothing else of the
prefix. -/
theorem plan_dpdq (hStays : isReturned fcReg port p.dpdq = false) :
    ∃ r, (p.plan T fcReg port).dpdq = { p.dpdq with reserved := r } := by
  unfold isReturned at hStays
  unfold plan ingressPlan
  split
  · rename_i hUnbounced
    rw [hUnbounced, Bool.true_and] at hStays
    rw [hStays]
    exact ⟨_, rfl⟩
  · split
    · exact ⟨_, rfl⟩
    · exact ⟨_, rfl⟩

/-- The flags of a packet that is not returned, with the mark that egress sets. -/
theorem flags_marked (T : Tables) (intr : EgressIntrinsic) (fcReg : Register 8) (regs : EgressRegs)
    (port : PortId) (p : DpdqPacket) (hStays : isReturned fcReg port p.dpdq = false) :
    ((p.plan T fcReg port).dpdq.marked
      (egressMarks T intr regs (p.plan T fcReg port).dpdq (p.plan T fcReg port).shim)).flags.toNat =
      p.dpdq.flags.toNat + if p.NewlyMarked T intr fcReg regs port then 4 else 0 := by
  obtain ⟨r, hPlan⟩ := plan_dpdq (T := T) hStays
  have hSame : (p.plan T fcReg port).dpdq.flags = p.dpdq.flags := by rw [hPlan]
  by_cases hMark : egressMarks T intr regs (p.plan T fcReg port).dpdq (p.plan T fcReg port).shim = true
  · have hNew : p.NewlyMarked T intr fcReg regs port ↔ p.dpdq.flags &&& dpdqFlagNetworkMarked = 0 :=
      and_iff_right hMark
    rw [hMark]
    show ((p.plan T fcReg port).dpdq.flags ||| dpdqFlagNetworkMarked).toNat = _
    rw [hSame, toNat_networkMarked]
    simp only [hNew]
  · have hOld : ¬ p.NewlyMarked T intr fcReg regs port := fun hNew => hMark hNew.1
    rw [Bool.eq_false_iff.mpr hMark, if_neg hOld]
    exact congrArg BitVec.toNat hSame

theorem msgType_of_handlesCredit (h : p.HandlesCredit fcReg port) : p.dpdq.msgType = dpdqGrant := by
  rcases h with hBounced | ⟨hUnbounced, -⟩
  · simp only [DpdqHeader.isBouncedGrant, Bool.and_eq_true, decide_eq_true_eq] at hBounced
    exact hBounced.1
  · simp only [DpdqHeader.isUnbouncedGrant, Bool.and_eq_true, decide_eq_true_eq] at hUnbounced
    exact hUnbounced.1

/-- What is carried on behind the prefix. -/
theorem carried_eq (T : Tables) (fcReg : Register 8) (port : PortId)
    {internal : Option DpdqInternal} {rest : Bits} (hReceived : p.received = some (internal, rest)) :
    (p.Cuts fcReg port → carried (p.plan T fcReg port).shim internal rest = p.payload.drop 40) ∧
      (¬ p.Cuts fcReg port → carried (p.plan T fcReg port).shim internal rest = p.payload) := by
  have hPayload := payload_of_received hReceived
  have hShim := p.shim_isSome_iff T fcReg port
  constructor
  · rintro ⟨hMark, hCredit⟩
    obtain ⟨n, hSome⟩ := Option.isSome_iff_exists.mp (hShim.mpr hCredit)
    unfold received at hReceived
    rw [if_pos hMark] at hReceived
    obtain ⟨⟨m, rest'⟩, hDecode, hEq⟩ := Option.map_eq_some_iff.mp hReceived
    obtain ⟨rfl, rfl⟩ := Prod.mk.inj hEq
    rw [hSome, ← hPayload]
    exact (List.drop_left' (DpdqInternal.sized_codec.length_encode m)).symm
  · intro hWhole
    cases hPlan : (p.plan T fcReg port).shim with
    | none => exact hPayload
    | some n =>
      have hUnmarked : p.dpdq.reserved[11] = false := by
        apply Bool.eq_false_iff.mpr
        exact fun hMark => hWhole ⟨hMark, hShim.mp (by rw [hPlan]; rfl)⟩
      rw [received_of_unmarked hUnmarked] at hReceived
      cases hReceived
      rfl

/-- The sum of a packet that leaves with its checksum. -/
theorem keepsSum_iff {i : Ipv4} {internal : Option DpdqInternal} {rest : Bits}
    (hReceived : p.received = some (internal, rest))
    (hStays : isReturned fcReg port p.dpdq = false)
    (hValid : ChecksumValid p.ipv4 p.udp (DpdqHeader.codec.encode p.dpdq ++ p.payload))
    (hProtocol : i.protocol = p.ipv4.protocol)
    (hAddrs : (i.srcAddr, i.dstAddr) = (p.ipv4.srcAddr, p.ipv4.dstAddr)) :
    let plan := p.plan T fcReg port
    ChecksumValid i p.udp (DpdqHeader.codec.encode
        { plan.dpdq.marked (egressMarks T intr regs plan.dpdq plan.shim) with reserved := 0 } ++
        carried plan.shim internal rest) ↔
      p.KeepsSum T intr fcReg regs port := by
  intro plan
  obtain ⟨r, hPlan⟩ := plan_dpdq (T := T) hStays
  obtain ⟨hCut, hWhole⟩ := carried_eq T fcReg port hReceived
  obtain ⟨hHeader, hComplete, hSum⟩ := (checksumValid_iff p.protocol_eq).mp hValid
  have hWords := udpHeaderWords_congr p.udp hProtocol hAddrs
  have hLength (d : DpdqHeader) : (DpdqHeader.codec.encode d).length = 64 :=
    DpdqHeader.sized_codec.length_encode d
  rw [List.length_append, hLength] at hComplete
  rw [checksumValid_iff (hProtocol.trans p.protocol_eq), hWords, List.length_append, hLength]
  by_cases hCuts : p.Cuts fcReg port
  · have hMark : egressMarks T intr regs plan.dpdq plan.shim = false := by
      apply egressMarks_grant
      exact (p.plan_msgType T fcReg port).trans (msgType_of_handlesCredit hCuts.2)
    have hPrefix : { plan.dpdq.marked false with reserved := 0 } =
        { p.dpdq with reserved := 0 } := by
      show { plan.dpdq with reserved := 0 } = _
      rw [hPlan]
    rw [hMark, hPrefix, hCut hCuts]
    constructor
    · rintro ⟨-, hLeft, hAfter⟩
      exact ⟨fun hNot => absurd hCuts hNot, fun _ => ⟨hLeft, by omega⟩⟩
    · intro hKeeps
      obtain ⟨hLeft, hSame⟩ := hKeeps.cut hCuts
      exact ⟨hHeader, hLeft, by omega⟩
  · let mark := egressMarks T intr regs plan.dpdq plan.shim
    let flag := if p.NewlyMarked T intr fcReg regs port then 4 else 0
    let out := { plan.dpdq.marked mark with reserved := 0 }
    have hFlags : out.flags.toNat = p.dpdq.flags.toNat + flag :=
      p.flags_marked T intr fcReg regs port hStays
    have hBase : out.unwritten = p.dpdq.unwritten := by
      show (plan.dpdq.marked mark).unwritten = _
      rw [DpdqHeader.marked]
      split <;> rw [hPlan] <;> rfl
    have hAfter : dataSum p.udp (DpdqHeader.codec.encode out ++ p.payload) +
        coveredReserved p.udp.hdrLength.toNat p.dpdq.reserved =
        dataSum p.udp (DpdqHeader.codec.encode p.dpdq ++ p.payload) +
          if 10 ≤ p.udp.hdrLength.toNat ∧ p.NewlyMarked T intr fcReg regs port then 4 else 0 := by
      have hCleared : coveredReserved p.udp.hdrLength.toNat out.reserved = 0 := by
        show coveredReserved _ 0 = 0
        simp [coveredReserved]
      have hCovered : coveredFlags p.udp.hdrLength.toNat out.flags =
          coveredFlags p.udp.hdrLength.toNat p.dpdq.flags +
            if 10 ≤ p.udp.hdrLength.toNat ∧ p.NewlyMarked T intr fcReg regs port then 4 else 0 := by
        unfold coveredFlags
        rw [hFlags]
        by_cases hLong : 10 ≤ p.udp.hdrLength.toNat
        · simp only [hLong, if_true, true_and, flag]
        · simp only [hLong, if_false, false_and]
      have hOut := dataSum_dpdq p.udp out p.payload
      have hIn := dataSum_dpdq p.udp p.dpdq p.payload
      rw [hCleared, hCovered, hBase] at hOut
      omega
    have hFlag : (if 10 ≤ p.udp.hdrLength.toNat ∧ p.NewlyMarked T intr fcReg regs port then 4
        else 0) < 65535 := by
      split <;> omega
    rw [hWhole hCuts]
    change 8 ≤ p.udp.hdrLength.toNat ∧ 8 * (p.udp.hdrLength.toNat - 8) ≤ 64 + p.payload.length ∧
      (sumWords (udpHeaderWords p.ipv4 p.udp) +
        dataSum p.udp (DpdqHeader.codec.encode out ++ p.payload)) % 65535 = 0 ↔ _
    constructor
    · rintro ⟨-, -, hOut⟩
      exact ⟨fun _ => by omega, fun hCut => absurd hCut hCuts⟩
    · intro hKeeps
      have hReserved := hKeeps.whole hCuts
      exact ⟨hHeader, hComplete, by omega⟩

theorem udpOk_wire {e : Ethernet} {i : Ipv4} (u : Udp) (d : DpdqHeader) (payload : Bits)
    (hType : e.etherType = ethertypeIpv4) (hProtocol : i.protocol = ipProtocolUdp) :
    UdpOk (wire e i u d payload) ↔
      (u.checksum = 0 ∨ ChecksumValid i u (DpdqHeader.codec.encode d ++ payload)) := by
  have hDatagram := udpDatagram_wire u d payload hType hProtocol
  constructor
  · exact fun h => h _ _ _ hDatagram
  · intro h i' u' data hEq
    cases hDatagram.symm.trans hEq
    exact h

/-- Which DPDQ packets leave with a checksum that is valid or zero. -/
theorem keepsChecksum_iff (hSync : readsAsSync T port p.bits = false) (hOk : UdpOk p.bits) :
    (∀ q bits, (traverse T intr fcReg regs port p.bits).packet = some (q, bits) → UdpOk bits) ↔
      p.KeepsChecksum T intr fcReg regs port := by
  have hForwarded := p.out_isSome_iff T fcReg port
  cases hOut : (p.plan T fcReg port).out with
  | none =>
    rw [traverse_unrouted intr regs hSync hOut]
    refine iff_of_true (fun _ _ h => by cases h) fun hRoute => ?_
    rw [← hForwarded, hOut] at hRoute
    cases hRoute
  | some q =>
    cases hReceived : p.received with
    | none =>
      rw [traverse_rejected intr regs hSync hReceived]
      refine iff_of_true (fun _ _ h => by cases h) fun _ hLong => ?_
      obtain ⟨hMark, hShort⟩ := p.received_eq_none_iff.mp hReceived
      have := hLong hMark
      omega
    | some received =>
      obtain ⟨internal, rest⟩ := received
      obtain ⟨e, i, u, hRewrites, hSent⟩ := traverse_sent intr regs hSync hOut hReceived
      let mark := egressMarks T intr regs (p.plan T fcReg port).dpdq (p.plan T fcReg port).shim
      have hProtocol : (i.updateChecksum.marked mark).updateChecksum.protocol = i.protocol := by
        cases mark <;> rfl
      have hAddrs : ((i.updateChecksum.marked mark).updateChecksum.srcAddr,
          (i.updateChecksum.marked mark).updateChecksum.dstAddr) = (i.srcAddr, i.dstAddr) := by
        cases mark <;> rfl
      have hLeaves := udpOk_wire u
        { (p.plan T fcReg port).dpdq.marked mark with reserved := 0 }
        (carried (p.plan T fcReg port).shim internal rest)
        (hRewrites.etherType.trans p.etherType_eq)
        ((hProtocol.trans hRewrites.protocol).trans p.protocol_eq)
      have hOnly (out : Bits) : (∀ q' bits, some (q, out) = some (q', bits) → UdpOk bits) ↔
          UdpOk out := by
        refine ⟨fun h => h _ _ rfl, fun h q' bits hEq => ?_⟩
        cases hEq
        exact h
      rw [hSent]
      refine (hOnly _).trans (hLeaves.trans ?_)
      rw [hRewrites.udp]
      cases hStays : isReturned fcReg port p.dpdq with
      | true =>
        exact iff_of_true (.inl rfl) fun _ _ _ hNot =>
          absurd (hStays.symm.trans hNot) Bool.false_ne_true.symm
      | false =>
        have hReceivable : p.dpdq.reserved[11] = true → 40 ≤ p.payload.length := by
          intro hMark
          by_contra hShort
          rw [p.received_eq_none_iff.mpr ⟨hMark, Nat.lt_of_not_le hShort⟩] at hReceived
          cases hReceived
        have hKeeps : p.KeepsChecksum T intr fcReg regs port ↔
            (p.udp.checksum ≠ 0 → p.KeepsSum T intr fcReg regs port) :=
          ⟨fun h hSome => h (hForwarded.mp (by rw [hOut]; rfl)) hReceivable hSome hStays,
            fun h _ _ hSome _ => h hSome⟩
        rw [hKeeps]
        by_cases hZero : p.udp.checksum = 0
        · exact iff_of_true (.inl hZero) fun hSome => absurd hZero hSome
        · have hValid := ((udpOk_wire p.udp p.dpdq p.payload p.etherType_eq p.protocol_eq).mp
            hOk).resolve_left hZero
          rw [if_neg Bool.false_ne_true, or_iff_right hZero, imp_iff_right hZero]
          apply keepsSum_iff hReceived hStays hValid (hProtocol.trans hRewrites.protocol)
          rw [hAddrs, hRewrites.addrs, hStays]
          rfl

end Traverse

end DpdqPacket

/-! ## Other packets -/

section Other

variable {T : Tables} {intr : EgressIntrinsic} {fcReg : Register 8} {regs : EgressRegs}
  {port : PortId} {pkt payload : Bits}

/-- The headers of an IPv4 packet that is not for the DPDQ port. -/
def ipv4Stack (e : Ethernet) (i : Ipv4) (u : Option Udp) : Headers where
  ethernet := some e
  ipv4 := some i
  udp := u

/-- A notification does not leave the switch. -/
theorem traverse_sync (hSync : readsAsSync T port pkt = true) :
    (traverse T intr fcReg regs port pkt).packet = none := by
  obtain ⟨hPort, hMagic⟩ : T.dpdqRecircPorts port = true ∧
      lookahead16 pkt = some dpdqSyncMagic := by
    simpa [readsAsSync] using hSync
  have hParse : ingressParser T.dpdqRecircPorts port pkt =
      (DpdqSync.codec.decode pkt).map fun parsed =>
        ({ dpdqSync := some parsed.1 }, parsed.2) := by
    simp [ingressParser, hPort, checkSync, hMagic, parseSync]
  have hDropped (sync : DpdqSync) (rest : Bits) :
      (ingressApply T port fcReg { dpdqSync := some sync }).output rest = none := by
    have hDropCtl : (ingressApply T port fcReg { dpdqSync := some sync }).dropCtl = 1 := by
      simp only [ingressApply, applySync]
      split <;> rfl
    simp [IngressState.output, hDropCtl]
  have hIngress : (ingressPipe T fcReg port pkt).2 = none := by
    unfold ingressPipe
    rw [hParse]
    cases DpdqSync.codec.decode pkt with
    | none => rfl
    | some parsed => exact hDropped parsed.1 parsed.2
  simp only [traverse, hIngress]

/-- A packet that the parser rejects does not leave the switch. -/
theorem traverse_unparsed (hSync : readsAsSync T port pkt = false)
    (hParse : layerParser pkt = none) :
    (traverse T intr fcReg regs port pkt).packet = none := by
  have hRejected := ingressParser_unparsed hSync hParse
  simp [traverse, ingressPipe, hRejected]

/-- A packet without an IPv4 header has no way out. -/
theorem traverse_ethernet {e : Ethernet} (hSync : readsAsSync T port pkt = false)
    (hParse : layerParser pkt = some ({ ethernet := some e }, payload)) :
    (traverse T intr fcReg regs port pkt).packet = none := by
  have hPort : (ingressApply T port fcReg { ethernet := some e }).ucastEgressPort = none := rfl
  have hIngress : (ingressPipe T fcReg port pkt).2 = none := by
    unfold ingressPipe
    rw [ingressParser_layerParser hSync hParse]
    simp [IngressState.output, hPort]
  simp only [traverse, hIngress]

/-- The headers of an IPv4 packet, as they leave ingress. -/
theorem ingressApply_ipv4Stack (T : Tables) (port : PortId) (fcReg : Register 8) (e : Ethernet)
    (i : Ipv4) (u : Option Udp) :
    ∃ e' i', e'.etherType = e.etherType ∧ i'.protocol = i.protocol ∧
      (i'.srcAddr, i'.dstAddr) = (i.srcAddr, i.dstAddr) ∧
      (ingressApply T port fcReg (ipv4Stack e i u)).hdr = ipv4Stack e' i' u := by
  let s : IngressState := { hdr := ipv4Stack e i u, fcReg, shouldForward := 1 }
  have hForward : (applyForward T s).hdr.dpdq = none ∧ ∃ e' i', e'.etherType = e.etherType ∧
      i'.protocol = i.protocol ∧ (i'.srcAddr, i'.dstAddr) = (i.srcAddr, i.dstAddr) ∧
      (applyForward T s).hdr = ipv4Stack e' i' u := by
    cases hRoute : (T.ipv4Forward i.dstAddr).getD .drop with
    | forward eport srcMac dstMac =>
      rw [applyForward_routed (i := i) rfl rfl hRoute]
      exact ⟨rfl, { e with srcAddr := srcMac, dstAddr := dstMac }, { i with ttl := i.ttl - 1 },
        rfl, rfl, rfl, rfl⟩
    | drop =>
      rw [applyForward_missed (i := i) rfl rfl hRoute]
      exact ⟨rfl, e, i, rfl, rfl, rfl, rfl⟩
  obtain ⟨hNone, e', i', hType, hProtocol, hAddrs, hHdr⟩ := hForward
  have hApply : ingressApply T port fcReg (ipv4Stack e i u) = applyForward T s := by
    show applyClassify T (applyRemoteBounce (applyForward T s)) = _
    have hBounce : applyRemoteBounce (applyForward T s) = applyForward T s := by
      simp only [applyRemoteBounce, hNone]
    rw [hBounce]
    simp only [applyClassify, hNone]
  exact ⟨e', i', hType, hProtocol, hAddrs, hApply ▸ hHdr⟩

theorem traverse_ipv4Stack {e : Ethernet} {i : Ipv4} {u : Option Udp}
    (hSync : readsAsSync T port pkt = false) (hLayered : ∀ e' i', e'.etherType = e.etherType →
      i'.protocol = i.protocol → Layered (ipv4Stack e' i' u))
    (hParse : layerParser pkt = some (ipv4Stack e i u, payload)) {q : PortId} {bits : Bits}
    (hPacket : (traverse T intr fcReg regs port pkt).packet = some (q, bits)) :
    ∃ e' i', e'.etherType = e.etherType ∧ i'.protocol = i.protocol ∧
      (i'.srcAddr, i'.dstAddr) = (i.srcAddr, i.dstAddr) ∧
      bits = emitLayers (ipv4Stack e' i' u) ++ payload := by
  obtain ⟨e', i', hType, hProtocol, hAddrs, hHdr⟩ := ingressApply_ipv4Stack T port fcReg e i u
  have hIngress : (ingressPipe T fcReg port pkt).2 =
      (ingressApply T port fcReg (ipv4Stack e i u)).output payload := by
    unfold ingressPipe
    rw [ingressParser_layerParser hSync hParse]
  have hEgress : egressParser (ingressDeparser (ipv4Stack e' i' u) payload) =
      some (ipv4Stack e' i'.updateChecksum u, payload) :=
    layerParser_emitLayers (hLayered e' i'.updateChecksum hType
      (i'.updateChecksum_protocol.trans hProtocol)) payload
  have hLeaves : (egressPipe T intr regs (ingressDeparser (ipv4Stack e' i' u) payload)).bits =
      some (emitLayers (ipv4Stack e' i'.updateChecksum u) ++ payload) := by
    unfold egressPipe
    rw [hEgress]
    simp only [egressApply_other T intr regs (ipv4Stack e' i'.updateChecksum u) rfl]
    show some (emitLayers (ipv4Stack e' i'.updateChecksum.updateChecksum u) ++ payload) = _
    rw [Ipv4.updateChecksum_idem]
  cases hOut : (ingressApply T port fcReg (ipv4Stack e i u)).output payload with
  | none =>
    simp only [traverse, hIngress, hOut] at hPacket
    cases hPacket
  | some tm =>
    simp only [traverse, hIngress, hOut] at hPacket
    unfold IngressState.output at hOut
    split at hOut
    · cases hOut
    · obtain ⟨q', -, rfl⟩ := Option.map_eq_some_iff.mp hOut
      simp only [hHdr, hLeaves] at hPacket
      cases hPacket
      exact ⟨e', i'.updateChecksum, hType, hProtocol, hAddrs, rfl⟩

theorem udpDatagram_ipv4Stack {e : Ethernet} {i : Ipv4} (hType : e.etherType = ethertypeIpv4) :
    (i.protocol ≠ ipProtocolUdp → ∀ payload,
      udpDatagram (emitLayers (ipv4Stack e i none) ++ payload) = none) ∧
    (i.protocol = ipProtocolUdp → ∀ u payload,
      udpDatagram (emitLayers (ipv4Stack e i (some u)) ++ payload) = some (i, u, payload)) := by
  constructor
  · intro hOther payload
    simp [udpDatagram, ipv4Stack, emitLayers, emit, Codec.decode_encode, hType, hOther]
  · intro hProtocol u payload
    simp [udpDatagram, ipv4Stack, emitLayers, emit, Codec.decode_encode, hType, hProtocol]

/-- Packets that are not for the DPDQ port keep their checksums. -/
theorem udpOk_other (hSync : readsAsSync T port pkt = false) {hdr : Headers}
    (hParse : layerParser pkt = some (hdr, payload)) (hNone : hdr.dpdq = none) (hOk : UdpOk pkt)
    {q : PortId} {bits : Bits}
    (hPacket : (traverse T intr fcReg regs port pkt).packet = some (q, bits)) : UdpOk bits := by
  obtain ⟨hLayered, rfl⟩ := layered_layerParser hParse
  cases hLayered with
  | ethernet hType =>
    rw [traverse_ethernet hSync hParse] at hPacket
    cases hPacket
  | @ipv4 e i hType hProtocol =>
    obtain ⟨e', i', hType', hProtocol', -, rfl⟩ := traverse_ipv4Stack (u := none) hSync
      (fun _ _ h h' => .ipv4 (h.trans hType) (h' ▸ hProtocol)) hParse hPacket
    intro i'' u data hDatagram
    rw [(udpDatagram_ipv4Stack (hType'.trans hType)).1 (hProtocol' ▸ hProtocol)] at hDatagram
    cases hDatagram
  | @udp e i u hType hProtocol hPort =>
    obtain ⟨e', i', hType', hProtocol', hAddrs, rfl⟩ := traverse_ipv4Stack (u := some u) hSync
      (fun _ _ h h' => .udp (h.trans hType) (h'.trans hProtocol) hPort) hParse hPacket
    have hIn := hOk i u payload ((udpDatagram_ipv4Stack hType).2 hProtocol u payload)
    intro i'' u' data hDatagram
    rw [(udpDatagram_ipv4Stack (hType'.trans hType)).2 (hProtocol'.trans hProtocol)] at hDatagram
    cases hDatagram
    refine hIn.imp_right fun hValid => ⟨hValid.header, hValid.complete, ?_⟩
    rw [udpHeaderWords_congr u hProtocol' hAddrs]
    exact hValid.sum
  | dpdq => cases hNone
  | dpdqInternal => cases hNone

/-- A packet with a DPDQ prefix is the wire format of one. -/
theorem exists_dpdqPacket {hdr : Headers} (hParse : layerParser pkt = some (hdr, payload)) :
    hdr.dpdq = none ∨ ∃ p : DpdqPacket, p.bits = pkt := by
  obtain ⟨hLayered, rfl⟩ := layered_layerParser hParse
  cases hLayered with
  | ethernet => exact .inl rfl
  | ipv4 => exact .inl rfl
  | udp => exact .inl rfl
  | @dpdq e i u d hType hProtocol hPort =>
    exact .inr ⟨⟨e, i, u, d, payload, hType, hProtocol, hPort⟩, rfl⟩
  | @dpdqInternal e i u d n hType hProtocol hPort =>
    exact .inr ⟨⟨e, i, u, d, emit DpdqInternal.codec (some n) ++ payload, hType, hProtocol, hPort⟩,
      (emitLayers_internal e i u d (some n) payload).symm⟩

end Other

/-! ## All packets -/

/-- A packet that arrives with a checksum that is valid or zero leaves with one, on every way through
the switch, exactly if it is no DPDQ packet or one that keeps the sum of its words. -/
theorem udp_checksum_safe_iff (T : Tables) (intr : EgressIntrinsic) (fcReg : Register 8)
    (regs : EgressRegs) (port : PortId) (pkt : Bits) (hOk : UdpOk pkt) :
    (∀ q bits, (traverse T intr fcReg regs port pkt).packet = some (q, bits) → UdpOk bits) ↔
      (readsAsSync T port pkt = false →
        ∀ p : DpdqPacket, p.bits = pkt → p.KeepsChecksum T intr fcReg regs port) := by
  cases hSync : readsAsSync T port pkt with
  | true =>
    rw [traverse_sync hSync]
    exact iff_of_true nofun nofun
  | false =>
    rw [imp_iff_right rfl]
    by_cases hDpdq : ∃ p : DpdqPacket, p.bits = pkt
    · obtain ⟨p, rfl⟩ := hDpdq
      refine ⟨fun h p' hBits => ?_, fun h => (DpdqPacket.keepsChecksum_iff hSync hOk).mpr (h p rfl)⟩
      rw [← hBits] at h hSync hOk
      exact (DpdqPacket.keepsChecksum_iff hSync hOk).mp h
    · refine iff_of_true ?_ fun p hBits => absurd ⟨p, hBits⟩ hDpdq
      intro q bits hPacket
      cases hParse : layerParser pkt with
      | none =>
        rw [traverse_unparsed hSync hParse] at hPacket
        cases hPacket
      | some parsed =>
        have hNone := (exists_dpdqPacket hParse).resolve_right hDpdq
        exact udpOk_other hSync hParse hNone hOk hPacket

/-- A REPLY with a valid checksum and a 96-bit payload. -/
def sampleReply : DpdqPacket where
  ethernet := sampleGrant.ethernet
  ipv4 := sampleGrant.ipv4
  udp := ⟨5, dpdqUdpPort, 28, 54632⟩
  dpdq := ⟨dpdqReply, 0, 0, 1538⟩
  payload := List.replicate 96 false
  etherType_eq := sampleGrant.etherType_eq
  protocol_eq := sampleGrant.protocol_eq
  dstPort_eq := rfl

theorem udpOk_sampleReply : UdpOk sampleReply.bits := by
  apply (DpdqPacket.udpOk_wire sampleReply.udp sampleReply.dpdq sampleReply.payload rfl rfl).mpr
  exact .inr ⟨by decide, by decide +kernel, by decide +kernel⟩

/-- Where no queue is long, it leaves with a checksum that a host accepts. -/
theorem udp_checksum_safe_iff_sampleReply :
    (∀ q bits, (traverse oneRoute ⟨0, 0⟩ (fun _ => 0) {} 3 sampleReply.bits).packet =
        some (q, bits) → UdpOk bits) ∧
      ∀ p : DpdqPacket, p.bits = sampleReply.bits →
        p.KeepsChecksum oneRoute ⟨0, 0⟩ (fun _ => 0) {} 3 := by
  have hKeeps : sampleReply.KeepsChecksum oneRoute ⟨0, 0⟩ (fun _ => 0) {} 3 := by
    intro _ _ _ _
    exact ⟨fun _ => by decide +kernel, fun hCuts => absurd hCuts.1 nofun⟩
  have hValid := (DpdqPacket.keepsChecksum_iff rfl udpOk_sampleReply).mpr hKeeps
  have hIff := udp_checksum_safe_iff oneRoute ⟨0, 0⟩ (fun _ => 0) {} 3 sampleReply.bits
    udpOk_sampleReply
  exact ⟨hValid, hIff.mp hValid rfl⟩

/-- A REPLY that meets a long queue is marked, and leaves with a checksum that is wrong. -/
theorem marked_reply_breaks_checksum :
    UdpOk sampleReply.bits ∧
      ¬ ∀ q bits, (traverse oneRoute ⟨1016, 0⟩ (fun _ => 0) {} 3 sampleReply.bits).packet =
        some (q, bits) → UdpOk bits := by
  refine ⟨udpOk_sampleReply, fun h => ?_⟩
  have hKeeps := (DpdqPacket.keepsChecksum_iff rfl udpOk_sampleReply).mp h
  have hSum := hKeeps (.inr rfl) nofun (by decide) rfl
  have hWhole := hSum.whole fun hCuts => absurd hCuts.1 nofun
  revert hWhole
  decide +kernel

end Dpdq.Tofino
