import Mathlib.Tactic.IntervalCases
import Dpdq.Ns3.CustomHeader

/-!
# The round trip of CustomHeader

* `Headers.reads`: a `CustomHeader` that reads all layers in full recovers what was written, and the
  size that it returns is that of `GetSerializedSize`.
* `Headers.Recovered.serialize_eq`: it writes the same bytes again.
* `custom_header_round_trips_iff`: the size is that of the headers exactly if they are not a
  `qbbHeader`, for which `GetAckSerializedSize` leaves out `irnNack` and `irnNackSize`.
-/

namespace Dpdq.Ns3.Wire

open Dpdq.Lib

/-- All three layers are read in full, with the INT data. -/
structure CustomHeader.Full (ch : CustomHeader) : Prop where
  brief : ch.brief = 0
  getInt : ch.getInt ≠ 0
  l2 : ch.headerType &&& CustomHeader.l2Header ≠ 0
  l3 : ch.headerType &&& CustomHeader.l3Header ≠ 0
  l4 : ch.headerType &&& CustomHeader.l4Header ≠ 0

/-! ## What is to be recovered -/

def PppHeader.Recovered (h : PppHeader) (ch : CustomHeader) : Prop := ch.pppProto = h.protocol

structure Ipv4Header.Recovered (h : Ipv4Header) (ch : CustomHeader) : Prop where
  tos : ch.tos = h.tos
  payloadSize : ch.payloadSize = h.payloadSize
  identification : ch.ipid = h.identification
  flags : ch.ipv4Flags = h.flags
  fragmentOffset : ch.fragmentOffset = h.fragmentOffset
  ttl : ch.ttl = h.ttl
  protocol : ch.l3Prot = h.protocol
  source : ch.sip = h.source
  destination : ch.dip = h.destination
  headerSize : ch.headerSize = 20

structure QbbHeader.Recovered (mode : BitVec 32) (h : QbbHeader) (ch : CustomHeader) : Prop where
  fields : ch.ack =
    { sport := h.sport, dport := h.dport, flags := h.flags, pg := h.pg, seq := h.seq,
      irnNack := h.irnNack, irnNackSize := h.irnNackSize }
  ih : IntHeader.Same mode ch.ih h.ih

/-- `length` is what the UDP header gives as its length. -/
structure UdpHeader.Recovered (mode : BitVec 32) (length : Nat) (h : UdpHeader)
    (seqTs : SeqTsHeader) (ch : CustomHeader) : Prop where
  fields : ch.udp =
    { sport := h.sourcePort, dport := h.destinationPort, payloadSize := BitVec.ofNat 16 length,
      pg := seqTs.pg, seq := seqTs.seq }
  ih : IntHeader.Same mode ch.ih seqTs.ih

def CnHeader.Recovered (h : CnHeader) (ch : CustomHeader) : Prop :=
  ch.cnp = { fid := h.fid, qIndex := h.qIndex, qfb := h.qfb, ecnBits := h.ecnBits, total := h.total }

def PauseHeader.Recovered (h : PauseHeader) (ch : CustomHeader) : Prop :=
  ch.pfc = { time := h.time, qlen := h.qlen, qIndex := h.qindex }

def L4Header.Recovered (mode : BitVec 32) (payloadSize : Nat) (ch : CustomHeader) :
    L4Header → Prop
  | creditBouncer h => h.Recovered mode ch
  | ack h => h.Recovered mode ch
  | nack h => h.Recovered mode ch
  | udp h seqTs =>
    h.Recovered mode
      (UdpHeader.getSerializedSize + (SeqTsHeader.getSerializedSize mode + payloadSize)) seqTs ch
  | cnp h => h.Recovered ch
  | pfc h => h.Recovered ch

structure Headers.Recovered (mode : BitVec 32) (payloadSize : Nat) (h : Headers)
    (ch : CustomHeader) : Prop where
  ppp : h.ppp.Recovered ch
  ip : h.ip.Recovered ch
  l4 : h.l4.Recovered mode payloadSize ch

/-! ## Reading -/

theorem div_eight (x : BitVec 32) : x / 8#32 = x >>> 3 := by
  apply BitVec.eq_of_toNat_eq
  simp [Nat.shiftRight_eq_div_pow]

theorem readFlags_setFlags : ∀ (high : BitVec 8) (flags : BitVec 3), flags &&& 4 = 0 →
    CustomHeader.readFlags (setFlags (high &&& 0x1f) flags) = flags := by
  decide +kernel

theorem setFlags_and : ∀ (high : BitVec 8) (flags : BitVec 3),
    setFlags (high &&& 0x1f) flags &&& 0x1f = high &&& 0x1f := by
  decide +kernel

/-- An offset in units of 8 bytes takes the lower 13 bits. -/
theorem offset_of_parts {offset : BitVec 16} (h : offset &&& 7 = 0) :
    ((((offset.setWidth 32 / 8#32) >>> 8).setWidth 8 &&& 0x1f : BitVec 8).setWidth 16 <<< 8 |||
      ((offset.setWidth 32 / 8#32 &&& 0xff).setWidth 8 : BitVec 8).setWidth 16) <<< 3 = offset := by
  have hZero (i : Nat) : (offset.getLsbD i && (7#16).getLsbD i) = false := by
    have hBit := congrArg (fun x => BitVec.getLsbD x i) h
    simpa using hBit
  have hFirst := hZero 0
  have hSecond := hZero 1
  have hThird := hZero 2
  rw [div_eight]
  apply BitVec.eq_of_getLsbD_eq
  intro i hi
  interval_cases i <;> simp_all

theorem and_setWidth (high : BitVec 8) : high.setWidth 16 &&& 0x1f = (high &&& 0x1f).setWidth 16 := by
  rw [BitVec.setWidth_and]
  rfl

section Stages

variable {n : Nat} (ch : CustomHeader)

theorem PppHeader.reads (h : PppHeader) (hFull : ch.Full) :
    Reads n ch.deserializeL2 h.serialize ({ ch with pppProto := h.protocol }, 14) := by
  rw [CustomHeader.deserializeL2, if_pos hFull.l2]
  exact (reads_ntohU16 h.protocol).bind (Reads.next (by simp)).done

/-- The checksum field, whatever stands in it. -/
theorem reads_checksum (checksum : Option (BitVec 16)) :
    ∃ c, ∀ n, Reads n readU16 (checksum.elim (writeHtonU16 0) writeU16) c := by
  cases checksum with
  | none => exact ⟨0, fun n => reads_u16 0⟩
  | some c => exact ⟨c, fun n => reads_u16 c⟩

/-- What `Deserialize` makes of the header of an IPv4 packet. -/
def Ipv4Header.into (h : Ipv4Header) (checksum : BitVec 16) : CustomHeader :=
  { ch with
    tos := h.tos, payloadSize := h.payloadSize, ipid := h.identification, ipv4Flags := h.flags,
    fragmentOffset := h.fragmentOffset, ttl := h.ttl, l3Prot := h.protocol, checksum,
    sip := h.source, dip := h.destination, headerSize := 20 }

theorem Ipv4Header.reads (h : Ipv4Header) (checksum : Option (BitVec 16)) (hFull : ch.Full) :
    ∃ c, Reads n (ch.deserializeL3 n) (h.serialize checksum) (some (h.into ch c, 20)) := by
  obtain ⟨c, hChecksum⟩ := reads_checksum checksum
  have hOffset : ((((flagsFrag (h.fragmentOffset.setWidth 32 / 8#32) h.flags).setWidth 16 &&& 0x1f)
      <<< 8 ||| ((h.fragmentOffset.setWidth 32 / 8#32 &&& 0xff).setWidth 8 : BitVec 8).setWidth 16)
      <<< 3 : BitVec 16) = h.fragmentOffset := by
    rw [and_setWidth, flagsFrag, setFlags_and]
    exact offset_of_parts h.aligned
  have hFlags : CustomHeader.readFlags (flagsFrag (h.fragmentOffset.setWidth 32 / 8#32) h.flags) =
      h.flags := readFlags_setFlags _ _ h.flags_set
  have hSize : h.payloadSize + 5 * 4 - 20 = h.payloadSize := BitVec.add_sub_cancel _ _
  refine ⟨c, ?_⟩
  have hInto : h.into ch c = { ch with
      tos := h.tos, ipid := h.identification, ttl := h.ttl, l3Prot := h.protocol, checksum := c,
      sip := h.source, dip := h.destination, headerSize := 20,
      payloadSize := h.payloadSize + 5 * 4 - 20,
      ipv4Flags := CustomHeader.readFlags
        (flagsFrag (h.fragmentOffset.setWidth 32 / 8#32) h.flags),
      fragmentOffset :=
        (((flagsFrag (h.fragmentOffset.setWidth 32 / 8#32) h.flags).setWidth 16 &&& 0x1f) <<< 8 |||
          ((h.fragmentOffset.setWidth 32 / 8#32 &&& 0xff).setWidth 8 : BitVec 8).setWidth 16) <<<
            3 } := by
    rw [hOffset, hFlags, hSize]
    rfl
  rw [hInto, CustomHeader.deserializeL3, if_pos hFull.l3, Ipv4Header.serialize]
  simp only [List.append_assoc]
  refine (Reads.seek rfl).bind ((reads_u8 _).bind ?_)
  rw [if_neg (by decide), CustomHeader.deserializeIpv4, if_neg (not_not.mpr hFull.brief)]
  refine Reads.done (f := fun ch : CustomHeader => some (ch, 20)) ?_
  refine (reads_u8 _).bind ((reads_ntohU16 _).bind ((reads_ntohU16 _).bind (Reads.reread ?_)))
  refine (reads_u8 _).bind ((reads_u8 _).bind ((reads_u8 _).bind ((hChecksum _).bind ?_)))
  exact (reads_ntohU32 _).bind (reads_ntohU32 _).done

/-- The INT data of `old` are replaced by those of `ih`. -/
theorem CustomHeader.reads_int (mode : BitVec 32) (ih : IntHeader) (hInt : ch.getInt ≠ 0) :
    ∃ read, IntHeader.Same mode read ih ∧
      ∀ n, Reads n (ch.deserializeInt mode) (ih.serialize mode) read := by
  rw [CustomHeader.deserializeInt, if_pos hInt]
  exact IntHeader.reads mode ch.ih ih

theorem QbbHeader.reads (mode : BitVec 32) (h : QbbHeader) (hInt : ch.getInt ≠ 0) :
    ∃ ack ih, h.Recovered mode { ch with ack, ih } ∧
      ∀ n, Reads n (ch.deserializeAck mode) (h.serialize mode) { ch with ack, ih } := by
  obtain ⟨ih, hSame, hIh⟩ := ch.reads_int mode h.ih hInt
  refine ⟨_, ih, ⟨rfl, hSame⟩, fun n => ?_⟩
  simp only [QbbHeader.serialize, List.append_assoc]
  refine (reads_u16 _).bind ((reads_u16 _).bind ((reads_u16 _).bind ((reads_u16 _).bind ?_)))
  exact (reads_u32 _).bind ((reads_u32 _).bind ((reads_u16 _).bind (hIh _).done))

theorem CustomHeader.reads_udpLength (size : Nat) (checksum : Option (BitVec 16))
    (hBrief : ch.brief = 0) :
    Reads n ch.deserializeUdpLength
      (writeHtonU16 (BitVec.ofNat 16 size) ++ checksum.elim (writeU16 0) writeU16)
      (BitVec.ofNat 16 size) := by
  have hChecksum : (checksum.elim (writeU16 0) writeU16).length = 2 := by
    cases checksum with
    | none => rfl
    | some c => rfl
  rw [CustomHeader.deserializeUdpLength, if_neg (not_not.mpr hBrief)]
  exact (reads_ntohU16 _).bind (Reads.next hChecksum).done

theorem UdpHeader.reads (mode : BitVec 32) (checksum : Option (BitVec 16)) (size : Nat)
    (h : UdpHeader) (seqTs : SeqTsHeader) (hBrief : ch.brief = 0) (hInt : ch.getInt ≠ 0) :
    ∃ udp ih, h.Recovered mode size seqTs { ch with udp, ih } ∧
      ∀ n, Reads n (ch.deserializeUdp mode n)
        (h.serialize checksum size ++ seqTs.serialize mode) { ch with udp, ih } := by
  obtain ⟨ih, hSame, hIh⟩ := ch.reads_int mode seqTs.ih hInt
  refine ⟨_, ih, ⟨rfl, hSame⟩, fun n => ?_⟩
  simp only [UdpHeader.serialize, SeqTsHeader.serialize, List.append_assoc]
  refine (Reads.seek rfl).bind ((reads_ntohU16 _).bind ((reads_ntohU16 _).bind ?_))
  rw [← List.append_assoc (writeHtonU16 (BitVec.ofNat 16 size))]
  refine (ch.reads_udpLength size checksum hBrief).bind ((reads_ntohU32 _).bind ?_)
  exact (reads_ntohU16 _).bind (hIh _).done

theorem CnHeader.reads (h : CnHeader) :
    ∃ cnp, h.Recovered { ch with cnp } ∧
      ∀ n, Reads n ch.deserializeCnp h.serialize { ch with cnp } := by
  refine ⟨_, rfl, fun n => ?_⟩
  simp only [CnHeader.serialize, List.append_assoc]
  exact (reads_u8 _).bind ((reads_u16 _).bind ((reads_u8 _).bind ((reads_u16 _).bind
    (reads_u16 _).done)))

theorem PauseHeader.reads (h : PauseHeader) :
    ∃ pfc, h.Recovered { ch with pfc } ∧
      ∀ n, Reads n ch.deserializePfc h.serialize { ch with pfc } := by
  refine ⟨_, rfl, fun n => ?_⟩
  simp only [PauseHeader.serialize, List.append_assoc]
  exact (reads_u32 _).bind ((reads_u32 _).bind (reads_u8 _).done)

/-- The size that is counted for the layer. -/
def L4Header.countedSize (mode : BitVec 32) : L4Header → Nat
  | creditBouncer _ => CustomHeader.getAckSerializedSize mode
  | ack _ => CustomHeader.getAckSerializedSize mode
  | nack _ => CustomHeader.getAckSerializedSize mode
  | udp _ _ => CustomHeader.getUdpHeaderSize mode
  | cnp _ => 8
  | pfc _ => 9

/-- Only the union has changed. -/
def CustomHeader.SameLayers (read : CustomHeader) : Prop :=
  ∃ udp cnp ack pfc ih, read = { ch with udp, cnp, ack, pfc, ih }

theorem L4Header.reads (mode : BitVec 32) (udpChecksum : Option (BitVec 16)) (payloadSize : Nat)
    (l4 : L4Header) (hFull : ch.Full) (hProtocol : ch.l3Prot = l4.protocol) :
    ∃ read, l4.Recovered mode payloadSize read ∧ ch.SameLayers read ∧
      ∀ n, Reads n (ch.deserializeL4 mode n) (l4.written mode udpChecksum payloadSize)
        (read, n + l4.countedSize mode) := by
  simp only [CustomHeader.deserializeL4, if_pos hFull.l4, hProtocol]
  cases l4 with
  | creditBouncer h =>
    obtain ⟨ack, ih, hRecovered, hReads⟩ := h.reads ch mode hFull.getInt
    exact ⟨_, hRecovered, ⟨_, _, _, _, _, rfl⟩, fun n => (hReads n).map _⟩
  | ack h =>
    obtain ⟨ack, ih, hRecovered, hReads⟩ := h.reads ch mode hFull.getInt
    exact ⟨_, hRecovered, ⟨_, _, _, _, _, rfl⟩, fun n => (hReads n).map _⟩
  | nack h =>
    obtain ⟨ack, ih, hRecovered, hReads⟩ := h.reads ch mode hFull.getInt
    exact ⟨_, hRecovered, ⟨_, _, _, _, _, rfl⟩, fun n => (hReads n).map _⟩
  | udp h seqTs =>
    obtain ⟨udp, ih, hRecovered, hReads⟩ := h.reads ch mode udpChecksum
      (UdpHeader.getSerializedSize + (SeqTsHeader.getSerializedSize mode + payloadSize)) seqTs
      hFull.brief hFull.getInt
    exact ⟨_, hRecovered, ⟨_, _, _, _, _, rfl⟩, fun n => (hReads n).map _⟩
  | cnp h =>
    obtain ⟨cnp, hRecovered, hReads⟩ := h.reads ch
    exact ⟨_, hRecovered, ⟨_, _, _, _, _, rfl⟩, fun n => (hReads n).map _⟩
  | pfc h =>
    obtain ⟨pfc, hRecovered, hReads⟩ := h.reads ch
    exact ⟨_, hRecovered, ⟨_, _, _, _, _, rfl⟩, fun n => (hReads n).map _⟩

end Stages

namespace CustomHeader

variable {ch read : CustomHeader}

theorem Full.of_settings (h : ch.Full) (hBrief : read.brief = ch.brief)
    (hInt : read.getInt = ch.getInt) (hType : read.headerType = ch.headerType) : read.Full := by
  refine ⟨hBrief.trans h.brief, ?_, ?_, ?_, ?_⟩
  · rw [hInt]
    exact h.getInt
  · rw [hType]
    exact h.l2
  · rw [hType]
    exact h.l3
  · rw [hType]
    exact h.l4

end CustomHeader

/-- A full reader recovers all headers and keeps its settings. -/
theorem Headers.reads (mode : BitVec 32) (ipChecksum udpChecksum : Option (BitVec 16))
    (payloadSize : Nat) (h : Headers) {ch : CustomHeader} (hFull : ch.Full) :
    ∃ read, h.Recovered mode payloadSize read ∧ read.Full ∧
      Reads 0 (ch.deserialize mode) (h.written mode ipChecksum udpChecksum payloadSize)
        (read, 14 + 20 + h.l4.countedSize mode) := by
  have hL2 := h.ppp.reads (n := 0) ch hFull
  obtain ⟨c, hL3⟩ := h.ip.reads (n := 14) { ch with pppProto := h.ppp.protocol } ipChecksum
    (hFull.of_settings rfl rfl rfl)
  obtain ⟨read, hRecovered, ⟨udp, cnp, ack, pfc, ih, rfl⟩, hL4⟩ :=
    h.l4.reads (h.ip.into { ch with pppProto := h.ppp.protocol } c) mode udpChecksum payloadSize
      (hFull.of_settings rfl rfl rfl) h.protocol_eq
  have hIp : h.ip.Recovered
      { h.ip.into { ch with pppProto := h.ppp.protocol } c with udp, cnp, ack, pfc, ih } := by
    constructor <;> rfl
  have hPpp : h.ppp.Recovered
      { h.ip.into { ch with pppProto := h.ppp.protocol } c with udp, cnp, ack, pfc, ih } := rfl
  refine ⟨_, ⟨hPpp, hIp, hRecovered⟩, hFull.of_settings rfl rfl rfl, ?_⟩
  refine hL2.bind ?_
  rw [h.ppp.length_serialize]
  refine hL3.bind ?_
  rw [h.ip.length_serialize]
  exact hL4 34

theorem CustomHeader.Full.getSerializedSize_eq {read : CustomHeader} (hFull : read.Full)
    (mode : BitVec 32) {l4 : L4Header} (hProtocol : read.l3Prot = l4.protocol) :
    read.getSerializedSize mode = 14 + 20 + l4.countedSize mode := by
  simp only [CustomHeader.getSerializedSize, if_pos hFull.l2, if_pos hFull.l3, if_pos hFull.l4,
    hProtocol]
  cases l4 <;> rfl

/-! ## Writing again -/

section Layers

variable {mode : BitVec 32} {read : CustomHeader}

theorem QbbHeader.Recovered.serialize_eq {h : QbbHeader} (hRecovered : h.Recovered mode read) :
    writeU16 read.ack.sport ++ writeU16 read.ack.dport ++ writeU16 read.ack.flags ++
      writeU16 read.ack.pg ++ writeU32 read.ack.seq ++ writeU32 read.ack.irnNack ++
      writeU16 read.ack.irnNackSize ++ read.ih.serialize mode = h.serialize mode := by
  rw [hRecovered.fields, hRecovered.ih.serialize_eq]
  rfl

theorem UdpHeader.Recovered.serialize_eq {size : Nat} {h : UdpHeader} {seqTs : SeqTsHeader}
    (hRecovered : h.Recovered mode size seqTs read) :
    writeHtonU16 read.udp.sport ++ writeHtonU16 read.udp.dport ++
      writeHtonU16 read.udp.payloadSize ++ writeHtonU16 0 ++ writeHtonU32 read.udp.seq ++
      writeHtonU16 read.udp.pg ++ read.ih.serialize mode =
        h.serialize none size ++ seqTs.serialize mode := by
  rw [hRecovered.fields, hRecovered.ih.serialize_eq, UdpHeader.serialize, SeqTsHeader.serialize]
  simp only [List.append_assoc]
  rfl

theorem CnHeader.Recovered.serialize_eq {h : CnHeader} (hRecovered : h.Recovered read) :
    writeU8 read.cnp.qIndex ++ writeU16 read.cnp.fid ++ writeU8 read.cnp.ecnBits ++
      writeU16 read.cnp.qfb ++ writeU16 read.cnp.total = h.serialize := by
  rw [show read.cnp = _ from hRecovered]
  rfl

theorem PauseHeader.Recovered.serialize_eq {h : PauseHeader} (hRecovered : h.Recovered read) :
    writeU32 read.pfc.time ++ writeU32 read.pfc.qlen ++ writeU8 read.pfc.qIndex = h.serialize := by
  rw [show read.pfc = _ from hRecovered]
  rfl

end Layers

theorem L4Header.Recovered.serialize_eq {mode : BitVec 32} {payloadSize : Nat}
    {read : CustomHeader} {l4 : L4Header} (h : l4.Recovered mode payloadSize read)
    (hProtocol : read.l3Prot = l4.protocol) :
    read.serializeL4 mode = l4.written mode none payloadSize := by
  unfold CustomHeader.serializeL4
  rw [hProtocol]
  cases l4 with
  | creditBouncer h' => exact QbbHeader.Recovered.serialize_eq h
  | ack h' => exact QbbHeader.Recovered.serialize_eq h
  | nack h' => exact QbbHeader.Recovered.serialize_eq h
  | udp h' seqTs => exact UdpHeader.Recovered.serialize_eq h
  | cnp h' => exact CnHeader.Recovered.serialize_eq h
  | pfc h' => exact PauseHeader.Recovered.serialize_eq h

theorem Headers.Recovered.serialize_eq {mode : BitVec 32} {payloadSize : Nat}
    {read : CustomHeader} {h : Headers} (hRecovered : h.Recovered mode payloadSize read)
    (hFull : read.Full) : read.serialize mode = h.written mode none none payloadSize := by
  have hL3 : read.serializeL3 = h.ip.serialize none := by
    unfold CustomHeader.serializeL3 Ipv4Header.serialize
    rw [hRecovered.ip.tos, hRecovered.ip.payloadSize, hRecovered.ip.identification,
      hRecovered.ip.flags, hRecovered.ip.fragmentOffset, hRecovered.ip.ttl, hRecovered.ip.protocol,
      hRecovered.ip.source, hRecovered.ip.destination]
    rfl
  have hL4 := hRecovered.l4.serialize_eq (hRecovered.ip.protocol.trans h.protocol_eq)
  have hL2 : read.serializeL2 = h.ppp.serialize := by
    unfold CustomHeader.serializeL2 PppHeader.serialize
    rw [show read.pppProto = h.ppp.protocol from hRecovered.ppp, List.append_assoc]
  rw [CustomHeader.serialize, if_pos hFull.l2, if_pos hFull.l3, if_pos hFull.l4, hL2, hL3, hL4,
    Headers.written]

/-! ## The claim about sizes -/

theorem QbbHeader.getSerializedSize_eq (mode : BitVec 32) :
    QbbHeader.getSerializedSize mode = CustomHeader.getAckSerializedSize mode + 6 := by
  unfold QbbHeader.getSerializedSize QbbHeader.getBaseSize CustomHeader.getAckSerializedSize
  omega

/-- What is counted for an acknowledgement falls short by its two fields for IRN. -/
theorem L4Header.length_written (mode : BitVec 32) (udpChecksum : Option (BitVec 16))
    (payloadSize : Nat) (l4 : L4Header) :
    (l4.written mode udpChecksum payloadSize).length =
      l4.countedSize mode + if l4.protocol ∈ [0xFB, 0xFC, 0xFD] then 6 else 0 := by
  cases l4 with
  | creditBouncer h => exact (h.length_serialize mode).trans (QbbHeader.getSerializedSize_eq mode)
  | ack h => exact (h.length_serialize mode).trans (QbbHeader.getSerializedSize_eq mode)
  | nack h => exact (h.length_serialize mode).trans (QbbHeader.getSerializedSize_eq mode)
  | udp h seqTs =>
    have hOther : (udp h seqTs).protocol ∉ [0xFB, 0xFC, 0xFD] := by simp [protocol]
    rw [written, List.length_append, h.length_serialize, seqTs.length_serialize, if_neg hOther,
      countedSize]
    unfold UdpHeader.getSerializedSize SeqTsHeader.getSerializedSize CustomHeader.getUdpHeaderSize
    omega
  | cnp h => exact h.length_serialize
  | pfc h => exact h.length_serialize

/-- What `read` and `size` are to be for a packet with the headers `h`. -/
structure RoundTrip (mode : BitVec 32) (h : Headers) (payloadSize : Nat) (packet : Bytes)
    (read : CustomHeader) (size : Nat) : Prop where
  recovered : h.Recovered mode payloadSize read
  rewritten : read.serialize mode = h.written mode none none payloadSize
  size_eq : size = read.getSerializedSize mode
  size_written : size + payloadSize = packet.length
  payload : packet.length - read.getSerializedSize mode = payloadSize

/-- A full reader of a packet recovers its headers, writes the same bytes again and returns their
number exactly if the packet carries no `qbbHeader`. -/
theorem custom_header_round_trips_iff (mode : BitVec 32) {ch : CustomHeader} (hFull : ch.Full)
    (h : Headers) (ipChecksum udpChecksum : Option (BitVec 16)) (payload : Bytes) :
    (∃ read size rest,
      ch.deserialize mode ⟨h.addTo mode ipChecksum udpChecksum payload, 0⟩ =
        some ((read, size), rest) ∧
      RoundTrip mode h payload.length (h.addTo mode ipChecksum udpChecksum payload) read size) ↔
        h.ip.protocol ∉ [0xFB, 0xFC, 0xFD] := by
  obtain ⟨found, hRecovered, hFound, hReads⟩ :=
    h.reads mode ipChecksum udpChecksum payload.length hFull
  have hDeserialize := hReads [] payload rfl
  rw [List.nil_append, ← Headers.addTo_eq] at hDeserialize
  have hSize := hFound.getSerializedSize_eq mode
    (hRecovered.ip.protocol.trans h.protocol_eq)
  have hLength : (h.addTo mode ipChecksum udpChecksum payload).length =
      14 + 20 + h.l4.countedSize mode + (if h.l4.protocol ∈ [0xFB, 0xFC, 0xFD] then 6 else 0) +
        payload.length := by
    rw [Headers.addTo_eq, List.length_append, Headers.written, List.length_append,
      List.length_append, h.ppp.length_serialize, h.ip.length_serialize, L4Header.length_written]
    unfold PppHeader.getSerializedSize Ipv4Header.getSerializedSize Ipv4Header.headerSize
    omega
  rw [h.protocol_eq]
  constructor
  · rintro ⟨read, size, rest, hRead, hTrip⟩ hQbb
    rw [hDeserialize] at hRead
    obtain ⟨⟨rfl, rfl⟩, -⟩ := Prod.mk.inj (Option.some.inj hRead)
    have hWritten := hTrip.size_written
    rw [hLength, if_pos hQbb] at hWritten
    omega
  · intro hOther
    rw [if_neg hOther] at hLength
    refine ⟨_, _, _, hDeserialize, hRecovered, hRecovered.serialize_eq hFound, hSize.symm, ?_, ?_⟩
    · omega
    · rw [hSize]
      omega

/-! ## An acknowledgement and a packet of data -/

/-- A reader of all layers. -/
def fullReader : CustomHeader where
  brief := 0
  headerType := 7
  getInt := 1
  pppProto := 0
  payloadSize := 0
  ipid := 0
  tos := 0
  ttl := 0
  l3Prot := 0
  ipv4Flags := 0
  fragmentOffset := 0
  sip := 0
  dip := 0
  checksum := 0
  headerSize := 20
  tcp := ⟨0, 0, 0, 0, 0, 0, 0, 0, []⟩
  udp := ⟨0, 0, 0, 0, 0⟩
  cnp := ⟨0, 0, 0, 0, 0⟩
  ack := ⟨0, 0, 0, 0, 0, 0, 0⟩
  pfc := ⟨0, 0, 0⟩
  ih := ⟨fun _ => ⟨0, 0⟩, 0⟩

/-- The headers of a packet from host 10 to host 20. -/
def headersOf (l4 : L4Header) : Headers where
  ppp := ⟨0x0021⟩
  ip :=
    { payloadSize := 100, identification := 7, tos := 0, ttl := 64, protocol := l4.protocol,
      flags := 0, fragmentOffset := 0, source := 10, destination := 20, flags_set := rfl,
      aligned := rfl }
  l4
  protocol_eq := rfl

def someInt : IntHeader := ⟨fun _ => ⟨1, 2⟩, 3⟩

def dataHeaders : Headers := headersOf (.udp ⟨100, 5001⟩ ⟨4000, 3, someInt⟩)

theorem custom_header_round_trips_iff_data :
    fullReader.Full ∧ dataHeaders.ip.protocol ∉ [0xFB, 0xFC, 0xFD] ∧
      ∃ read size rest,
        fullReader.deserialize 0 ⟨dataHeaders.addTo 0 none none [1, 2, 3], 0⟩ =
          some ((read, size), rest) ∧
        RoundTrip 0 dataHeaders 3 (dataHeaders.addTo 0 none none [1, 2, 3]) read size := by
  have hFull : fullReader.Full := by
    constructor <;> decide
  have hOther : dataHeaders.ip.protocol ∉ [0xFB, 0xFC, 0xFD] := by decide
  exact ⟨hFull, hOther,
    (custom_header_round_trips_iff 0 hFull dataHeaders none none [1, 2, 3]).mpr hOther⟩

def ackHeaders : Headers :=
  headersOf (.ack
    { sport := 100, dport := 5001, flags := 0, pg := 3, seq := 4000, ih := someInt, irnNack := 5
      irnNackSize := 6 })

/-- 94 bytes of headers are read from an acknowledgement, and 88 are counted. -/
theorem acknowledgement_counts_short : fullReader.Full ∧
    ¬∃ read size rest,
      fullReader.deserialize 0 ⟨ackHeaders.addTo 0 none none [], 0⟩ = some ((read, size), rest) ∧
        RoundTrip 0 ackHeaders 0 (ackHeaders.addTo 0 none none []) read size := by
  refine ⟨by constructor <;> decide, ?_⟩
  rintro ⟨read, size, rest, hRead, hTrip⟩
  have hSize : (fullReader.deserialize 0 ⟨ackHeaders.addTo 0 none none [], 0⟩).map
      (fun p => p.1.2) = some 88 := by
    decide +kernel
  have hLength : (ackHeaders.addTo 0 none none []).length = 94 := by decide +kernel
  rw [hRead] at hSize
  have hCounted : size = 88 := Option.some.inj hSize
  have hWritten := hTrip.size_written
  omega

end Dpdq.Ns3.Wire
