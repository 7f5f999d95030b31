import Mathlib.Tactic.Common
import Dpdq.Lib.ByteReader

/-!
# The headers of an ns-3 packet

`PppHeader`, `Ipv4Header` and what follows them in a packet of the RDMA hosts: `UdpHeader` and
`SeqTsHeader`, `qbbHeader`, `CnHeader` or `PauseHeader`, with the bytes that `Serialize` writes and
the size that `GetSerializedSize` promises. `Packet::AddHeader` makes room for that size and lets
the header write over it.

* `QbbHeader.reads_deserialize`, `CnHeader.reads_deserialize`: `Deserialize` gets back what
  `Serialize` wrote.
* `Headers.addTo_eq`: the sizes are right, so that the headers stand in front of the payload.
-/

namespace Dpdq.Ns3.Wire

open Dpdq.Lib

/-! ## Buffer iterators -/

def writeU8 (data : BitVec 8) : Bytes := [data]

def writeU16 (data : BitVec 16) : Bytes := writeLe 2 data

def writeU32 (data : BitVec 32) : Bytes := writeLe 4 data

def writeU64 (data : BitVec 64) : Bytes := writeLe 8 data

def writeHtonU16 (data : BitVec 16) : Bytes := writeBe 2 data

def writeHtonU32 (data : BitVec 32) : Bytes := writeBe 4 data

@[simp] theorem length_writeU8 (data : BitVec 8) : (writeU8 data).length = 1 := rfl

@[simp] theorem length_writeU16 (data : BitVec 16) : (writeU16 data).length = 2 :=
  length_writeLe 2 data

@[simp] theorem length_writeU32 (data : BitVec 32) : (writeU32 data).length = 4 :=
  length_writeLe 4 data

@[simp] theorem length_writeU64 (data : BitVec 64) : (writeU64 data).length = 8 :=
  length_writeLe 8 data

@[simp] theorem length_writeHtonU16 (data : BitVec 16) : (writeHtonU16 data).length = 2 :=
  length_writeBe 2 data

@[simp] theorem length_writeHtonU32 (data : BitVec 32) : (writeHtonU32 data).length = 4 :=
  length_writeBe 4 data

def readU8 : Reader (BitVec 8) := Reader.readByte

def readU16 : Reader (BitVec 16) := Reader.readLeWord 16 2

def readU32 : Reader (BitVec 32) := Reader.readLeWord 32 4

def readU64 : Reader (BitVec 64) := Reader.readLeWord 64 8

def readNtohU16 : Reader (BitVec 16) := Reader.readBeWord 16 2

def readNtohU32 : Reader (BitVec 32) := Reader.readBeWord 32 4

section Reads

variable {n : Nat}

theorem reads_u8 (data : BitVec 8) : Reads n readU8 (writeU8 data) data := .readByte data

theorem reads_u16 (data : BitVec 16) : Reads n readU16 (writeU16 data) data :=
  .readLeWord data (by decide)

theorem reads_u32 (data : BitVec 32) : Reads n readU32 (writeU32 data) data :=
  .readLeWord data (by decide)

theorem reads_u64 (data : BitVec 64) : Reads n readU64 (writeU64 data) data :=
  .readLeWord data (by decide)

theorem reads_ntohU16 (data : BitVec 16) : Reads n readNtohU16 (writeHtonU16 data) data :=
  .readBeWord data (by decide)

theorem reads_ntohU32 (data : BitVec 32) : Reads n readNtohU32 (writeHtonU32 data) data :=
  .readBeWord data (by decide)

end Reads

/-! ## INT data -/

/-- A hop of the INT data, as the two words of its union. -/
structure IntHop where
  buf0 : BitVec 32
  buf1 : BitVec 32
  deriving DecidableEq

/-- `ts` lies over the first hop. -/
structure IntHeader where
  hop : Fin 5 → IntHop
  nhop : BitVec 16

namespace IntHop

def serialize (h : IntHop) : Bytes := writeU32 h.buf0 ++ writeU32 h.buf1

def deserialize : Reader IntHop := do
  let buf0 ← readU32
  let buf1 ← readU32
  pure ⟨buf0, buf1⟩

theorem reads (n : Nat) (h : IntHop) : Reads n deserialize h.serialize h :=
  (reads_u32 h.buf0).bind (reads_u32 h.buf1).done

@[simp] theorem length_serialize (h : IntHop) : h.serialize.length = 8 := by
  simp [serialize]

end IntHop

namespace IntHeader

def ts (ih : IntHeader) : BitVec 64 := (ih.hop 0).buf1 ++ (ih.hop 0).buf0

def setTs (ih : IntHeader) (ts : BitVec 64) : IntHeader :=
  { ih with hop := Function.update ih.hop 0 ⟨ts.setWidth 32, (ts >>> 32).setWidth 32⟩ }

/-- `IntHeader::mode` is 0 for INT data, 1 for a time stamp, and there is nothing else. -/
def getStaticSize (mode : BitVec 32) : Nat := if mode = 0 then 42 else if mode = 1 then 8 else 0

def serialize (mode : BitVec 32) (ih : IntHeader) : Bytes :=
  if mode = 0 then (List.ofFn ih.hop).flatMap IntHop.serialize ++ writeU16 ih.nhop
  else if mode = 1 then writeU64 ih.ts
  else []

def deserialize (mode : BitVec 32) (ih : IntHeader) : Reader IntHeader :=
  if mode = 0 then do
    let hop ← Reader.readArray IntHop.deserialize 5
    let nhop ← readU16
    pure ⟨hop, nhop⟩
  else if mode = 1 then do
    let ts ← readU64
    pure (ih.setTs ts)
  else pure ih

/-- The headers carry the same data in the given mode. -/
def Same (mode : BitVec 32) (ih ih' : IntHeader) : Prop :=
  (mode = 0 → ih = ih') ∧ (mode = 1 → ih.ts = ih'.ts)

theorem ts_setTs (ih : IntHeader) (ts : BitVec 64) : (ih.setTs ts).ts = ts := by
  simp only [IntHeader.ts, setTs, Function.update_self]
  apply BitVec.eq_of_getLsbD_eq
  intro i hi
  rw [BitVec.getLsbD_append]
  by_cases hLow : i < 32
  · simp [hLow]
  · have hBack : 32 + (i - 32) = i := by omega
    have hHigh : i - 32 < 32 := by omega
    simp [hLow, hHigh, hBack]

theorem length_serialize (mode : BitVec 32) (ih : IntHeader) :
    (ih.serialize mode).length = getStaticSize mode := by
  unfold serialize getStaticSize
  split
  · simp [List.ofFn_succ]
  · split
    · simp
    · rfl

/-- What is read carries the data that was written. -/
theorem reads (mode : BitVec 32) (old ih : IntHeader) :
    ∃ read, Same mode read ih ∧ ∀ n, Reads n (old.deserialize mode) (ih.serialize mode) read := by
  unfold deserialize serialize
  split
  · rename_i hInt
    refine ⟨ih, ⟨fun _ => rfl, fun _ => rfl⟩, fun n => ?_⟩
    exact (Reads.array IntHop.reads ih.hop).bind (reads_u16 ih.nhop).done
  · rename_i hInt
    split
    · refine ⟨old.setTs ih.ts, ⟨fun h => absurd h hInt, fun _ => ts_setTs old ih.ts⟩, fun n => ?_⟩
      exact (reads_u64 ih.ts).done
    · rename_i hTs
      exact ⟨old, ⟨fun h => absurd h hInt, fun h => absurd h hTs⟩, fun n => Reads.pure old⟩

/-- The same data are written as the same bytes. -/
theorem Same.serialize_eq {mode : BitVec 32} {ih ih' : IntHeader} (h : Same mode ih ih') :
    ih.serialize mode = ih'.serialize mode := by
  unfold serialize
  split
  · rename_i hInt
    rw [h.1 hInt]
  · split
    · rename_i hTs
      rw [h.2 hTs]
    · rfl

end IntHeader

/-! ## The link and the network layer -/

structure PppHeader where
  protocol : BitVec 16

namespace PppHeader

def getSerializedSize : Nat := 14

def serialize (h : PppHeader) : Bytes := writeHtonU16 h.protocol ++ (writeU64 0 ++ writeU32 0)

@[simp] theorem length_serialize (h : PppHeader) : h.serialize.length = getSerializedSize := by
  simp [serialize, getSerializedSize]

end PppHeader

def dontFragment : BitVec 3 := 1 <<< 0

def moreFragments : BitVec 3 := 1 <<< 1

/-- The flags in the byte that they share with the upper bits of the offset of a fragment. -/
def setFlags (flagsFrag : BitVec 8) (flags : BitVec 3) : BitVec 8 :=
  let flagsFrag := if flags &&& dontFragment ≠ 0 then flagsFrag ||| 1 <<< 6 else flagsFrag
  if flags &&& moreFragments ≠ 0 then flagsFrag ||| 1 <<< 5 else flagsFrag

def flagsFrag (fragmentOffset : BitVec 32) (flags : BitVec 3) : BitVec 8 :=
  setFlags ((fragmentOffset >>> 8).setWidth 8 &&& 0x1f) flags

/-- An IPv4 header without options. Only the two flags can be set, and `SetFragmentOffset` stops at
an offset that is no multiple of 8. -/
structure Ipv4Header where
  payloadSize : BitVec 16
  identification : BitVec 16
  tos : BitVec 8
  ttl : BitVec 8
  protocol : BitVec 8
  flags : BitVec 3
  fragmentOffset : BitVec 16
  source : BitVec 32
  destination : BitVec 32
  flags_set : flags &&& 4 = 0
  aligned : fragmentOffset &&& 7 = 0

namespace Ipv4Header

def headerSize : Nat := 5 * 4

def getSerializedSize : Nat := headerSize

/-- `checksum` is what `CalculateIpChecksum` gives over the header; without `m_calcChecksum` the
zero stays. -/
def serialize (h : Ipv4Header) (checksum : Option (BitVec 16)) : Bytes :=
  let fragmentOffset := h.fragmentOffset.setWidth 32 / 8#32
  writeU8 (4 <<< 4 ||| 5) ++ writeU8 h.tos ++ writeHtonU16 (h.payloadSize + 5 * 4) ++
    writeHtonU16 h.identification ++ writeU8 (flagsFrag fragmentOffset h.flags) ++
    writeU8 ((fragmentOffset &&& 0xff).setWidth 8) ++ writeU8 h.ttl ++ writeU8 h.protocol ++
    checksum.elim (writeHtonU16 0) writeU16 ++ writeHtonU32 h.source ++ writeHtonU32 h.destination

@[simp] theorem length_serialize (h : Ipv4Header) (checksum : Option (BitVec 16)) :
    (h.serialize checksum).length = getSerializedSize := by
  cases checksum <;> simp [serialize, getSerializedSize, headerSize]

end Ipv4Header

/-! ## What follows them -/

structure UdpHeader where
  sourcePort : BitVec 16
  destinationPort : BitVec 16

namespace UdpHeader

def getSerializedSize : Nat := 8

/-- `size` is `start.GetSize ()`, the number of bytes in the buffer. -/
def serialize (h : UdpHeader) (checksum : Option (BitVec 16)) (size : Nat) : Bytes :=
  writeHtonU16 h.sourcePort ++ writeHtonU16 h.destinationPort ++
    writeHtonU16 (BitVec.ofNat 16 size) ++ checksum.elim (writeU16 0) writeU16

@[simp] theorem length_serialize (h : UdpHeader) (checksum : Option (BitVec 16)) (size : Nat) :
    (h.serialize checksum size).length = getSerializedSize := by
  cases checksum <;> simp [serialize, getSerializedSize]

end UdpHeader

structure SeqTsHeader where
  seq : BitVec 32
  pg : BitVec 16
  ih : IntHeader

namespace SeqTsHeader

def getSerializedSize (mode : BitVec 32) : Nat := 6 + IntHeader.getStaticSize mode

def serialize (mode : BitVec 32) (h : SeqTsHeader) : Bytes :=
  writeHtonU32 h.seq ++ writeHtonU16 h.pg ++ h.ih.serialize mode

@[simp] theorem length_serialize (mode : BitVec 32) (h : SeqTsHeader) :
    (h.serialize mode).length = getSerializedSize mode := by
  simp [serialize, getSerializedSize, IntHeader.length_serialize, ← Nat.add_assoc]

end SeqTsHeader

structure QbbHeader where
  sport : BitVec 16
  dport : BitVec 16
  flags : BitVec 16
  pg : BitVec 16
  seq : BitVec 32
  ih : IntHeader
  irnNack : BitVec 32
  irnNackSize : BitVec 16

namespace QbbHeader

/-- The sizes of `sport`, `dport`, `flags`, `m_pg`, `m_seq`, `m_irn_nack` and `m_irn_nack_size`. -/
def getBaseSize : Nat := 2 + 2 + 2 + 2 + 4 + 4 + 2

def getSerializedSize (mode : BitVec 32) : Nat := getBaseSize + IntHeader.getStaticSize mode

def serialize (mode : BitVec 32) (h : QbbHeader) : Bytes :=
  writeU16 h.sport ++ writeU16 h.dport ++ writeU16 h.flags ++ writeU16 h.pg ++ writeU32 h.seq ++
    writeU32 h.irnNack ++ writeU16 h.irnNackSize ++ h.ih.serialize mode

@[simp] theorem length_serialize (mode : BitVec 32) (h : QbbHeader) :
    (h.serialize mode).length = getSerializedSize mode := by
  simp [serialize, getSerializedSize, getBaseSize, IntHeader.length_serialize, ← Nat.add_assoc]

def deserialize (mode : BitVec 32) (h : QbbHeader) : Reader QbbHeader := do
  let sport ← readU16
  let dport ← readU16
  let flags ← readU16
  let pg ← readU16
  let seq ← readU32
  let irnNack ← readU32
  let irnNackSize ← readU16
  let ih ← h.ih.deserialize mode
  pure { sport, dport, flags, pg, seq, ih, irnNack, irnNackSize }

theorem reads_deserialize (mode : BitVec 32) (old h : QbbHeader) :
    ∃ ih, IntHeader.Same mode ih h.ih ∧
      ∀ n, Reads n (old.deserialize mode) (h.serialize mode) { h with ih } := by
  obtain ⟨ih, hSame, hIh⟩ := IntHeader.reads mode old.ih h.ih
  refine ⟨ih, hSame, fun n => ?_⟩
  simp only [serialize, List.append_assoc]
  refine (reads_u16 _).bind ((reads_u16 _).bind ((reads_u16 _).bind ((reads_u16 _).bind ?_)))
  exact (reads_u32 _).bind ((reads_u32 _).bind ((reads_u16 _).bind (hIh _).done))

end QbbHeader

structure CnHeader where
  fid : BitVec 16
  qIndex : BitVec 8
  ecnBits : BitVec 8
  qfb : BitVec 16
  total : BitVec 16

namespace CnHeader

def getSerializedSize : Nat := 8

def serialize (h : CnHeader) : Bytes :=
  writeU8 h.qIndex ++ writeU16 h.fid ++ writeU8 h.ecnBits ++ writeU16 h.qfb ++ writeU16 h.total

@[simp] theorem length_serialize (h : CnHeader) : h.serialize.length = getSerializedSize := by
  simp [serialize, getSerializedSize]

def deserialize : Reader CnHeader := do
  let qIndex ← readU8
  let fid ← readU16
  let ecnBits ← readU8
  let qfb ← readU16
  let total ← readU16
  pure { fid, qIndex, ecnBits, qfb, total }

theorem reads_deserialize (n : Nat) (h : CnHeader) : Reads n deserialize h.serialize h := by
  simp only [serialize, List.append_assoc]
  exact (reads_u8 _).bind ((reads_u16 _).bind ((reads_u8 _).bind ((reads_u16 _).bind
    (reads_u16 _).done)))

end CnHeader

structure PauseHeader where
  time : BitVec 32
  qlen : BitVec 32
  qindex : BitVec 8

namespace PauseHeader

def getSerializedSize : Nat := 9

def serialize (h : PauseHeader) : Bytes :=
  writeU32 h.time ++ writeU32 h.qlen ++ writeU8 h.qindex

@[simp] theorem length_serialize (h : PauseHeader) : h.serialize.length = getSerializedSize := by
  simp [serialize, getSerializedSize]

end PauseHeader

/-! ## Packets -/

/-- `Packet::AddHeader`: room for `GetSerializedSize` bytes in front of the packet, over which
`Serialize` writes. -/
def addHeader (size : Nat) (written p : Bytes) : Bytes :=
  written ++ (List.replicate size 0 ++ p).drop written.length

theorem addHeader_eq {size : Nat} {written : Bytes} (h : written.length = size) (p : Bytes) :
    addHeader size written p = written ++ p := by
  rw [addHeader, h, List.drop_left' List.length_replicate]

/-- The headers of layer 4. -/
inductive L4Header
  | creditBouncer (h : QbbHeader)
  | ack (h : QbbHeader)
  | nack (h : QbbHeader)
  | udp (h : UdpHeader) (seqTs : SeqTsHeader)
  | cnp (h : CnHeader)
  | pfc (h : PauseHeader)

namespace L4Header

def protocol : L4Header → BitVec 8
  | creditBouncer _ => 0xFB
  | ack _ => 0xFC
  | nack _ => 0xFD
  | udp _ _ => 0x11
  | cnp _ => 0xFF
  | pfc _ => 0xFE

def addTo (mode : BitVec 32) (udpChecksum : Option (BitVec 16)) (p : Bytes) : L4Header → Bytes
  | creditBouncer h => addHeader (QbbHeader.getSerializedSize mode) (h.serialize mode) p
  | ack h => addHeader (QbbHeader.getSerializedSize mode) (h.serialize mode) p
  | nack h => addHeader (QbbHeader.getSerializedSize mode) (h.serialize mode) p
  | udp h seqTs =>
    let p := addHeader (SeqTsHeader.getSerializedSize mode) (seqTs.serialize mode) p
    addHeader UdpHeader.getSerializedSize
      (h.serialize udpChecksum (UdpHeader.getSerializedSize + p.length)) p
  | cnp h => addHeader CnHeader.getSerializedSize h.serialize p
  | pfc h => addHeader PauseHeader.getSerializedSize h.serialize p

/-- The bytes in front of a payload of the given size. -/
def written (mode : BitVec 32) (udpChecksum : Option (BitVec 16)) (payloadSize : Nat) :
    L4Header → Bytes
  | creditBouncer h => h.serialize mode
  | ack h => h.serialize mode
  | nack h => h.serialize mode
  | udp h seqTs =>
    h.serialize udpChecksum
      (UdpHeader.getSerializedSize + (SeqTsHeader.getSerializedSize mode + payloadSize)) ++
        seqTs.serialize mode
  | cnp h => h.serialize
  | pfc h => h.serialize

theorem addTo_eq (mode : BitVec 32) (udpChecksum : Option (BitVec 16)) (p : Bytes)
    (l4 : L4Header) : l4.addTo mode udpChecksum p = l4.written mode udpChecksum p.length ++ p := by
  cases l4 with
  | creditBouncer h => exact addHeader_eq (h.length_serialize mode) p
  | ack h => exact addHeader_eq (h.length_serialize mode) p
  | nack h => exact addHeader_eq (h.length_serialize mode) p
  | udp h seqTs =>
    rw [addTo, addHeader_eq (seqTs.length_serialize mode), addHeader_eq (h.length_serialize _ _),
      written, List.append_assoc, List.length_append, seqTs.length_serialize]
  | cnp h => exact addHeader_eq h.length_serialize p
  | pfc h => exact addHeader_eq h.length_serialize p

end L4Header

/-- The headers of a packet. The IPv4 header names the layer above it. -/
structure Headers where
  ppp : PppHeader
  ip : Ipv4Header
  l4 : L4Header
  protocol_eq : ip.protocol = l4.protocol

namespace Headers

def addTo (mode : BitVec 32) (ipChecksum udpChecksum : Option (BitVec 16)) (h : Headers)
    (p : Bytes) : Bytes :=
  addHeader PppHeader.getSerializedSize h.ppp.serialize
    (addHeader Ipv4Header.getSerializedSize (h.ip.serialize ipChecksum)
      (h.l4.addTo mode udpChecksum p))

/-- The bytes in front of a payload of the given size. -/
def written (mode : BitVec 32) (ipChecksum udpChecksum : Option (BitVec 16)) (payloadSize : Nat)
    (h : Headers) : Bytes :=
  h.ppp.serialize ++ (h.ip.serialize ipChecksum ++ h.l4.written mode udpChecksum payloadSize)

theorem addTo_eq (mode : BitVec 32) (ipChecksum udpChecksum : Option (BitVec 16)) (h : Headers)
    (p : Bytes) :
    h.addTo mode ipChecksum udpChecksum p =
      h.written mode ipChecksum udpChecksum p.length ++ p := by
  rw [addTo, addHeader_eq h.ppp.length_serialize, addHeader_eq (h.ip.length_serialize ipChecksum),
    L4Header.addTo_eq, written, List.append_assoc, List.append_assoc]

end Headers

end Dpdq.Ns3.Wire
