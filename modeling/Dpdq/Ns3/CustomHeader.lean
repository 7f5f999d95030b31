import Dpdq.Ns3.PacketHeaders

/-!
# CustomHeader

`CustomHeader` of the ns-3 model, the one class that reads the headers of every packet and writes
them again. `IntHeader::mode` is an argument.

The members of its union are fields of their own: `Serialize` reads the member of the protocol that
`Deserialize` read last. One of them is shared: `udp.ih` and `ack.ih` are the same bytes of the
union, and `Serialize` writes an acknowledgement with `udp.ih`.
-/

namespace Dpdq.Ns3.Wire

open Dpdq.Lib

namespace CustomHeader

structure Tcp where
  sport : BitVec 16
  dport : BitVec 16
  seq : BitVec 32
  ack : BitVec 32
  length : BitVec 8
  tcpFlags : BitVec 8
  windowSize : BitVec 16
  urgentPointer : BitVec 16
  optionBuf : Bytes

structure Udp where
  sport : BitVec 16
  dport : BitVec 16
  payloadSize : BitVec 16
  pg : BitVec 16
  seq : BitVec 32

structure Cnp where
  fid : BitVec 16
  qIndex : BitVec 8
  qfb : BitVec 16
  ecnBits : BitVec 8
  total : BitVec 16

structure Ack where
  sport : BitVec 16
  dport : BitVec 16
  flags : BitVec 16
  pg : BitVec 16
  seq : BitVec 32
  irnNack : BitVec 32
  irnNackSize : BitVec 16

structure Pfc where
  time : BitVec 32
  qlen : BitVec 32
  qIndex : BitVec 8

def l2Header : BitVec 32 := 1

def l3Header : BitVec 32 := 2

def l4Header : BitVec 32 := 4

end CustomHeader

structure CustomHeader where
  brief : BitVec 32
  headerType : BitVec 32
  getInt : BitVec 32
  pppProto : BitVec 16
  payloadSize : BitVec 16
  ipid : BitVec 16
  tos : BitVec 8
  ttl : BitVec 8
  l3Prot : BitVec 8
  ipv4Flags : BitVec 3
  fragmentOffset : BitVec 16
  sip : BitVec 32
  dip : BitVec 32
  checksum : BitVec 16
  headerSize : BitVec 16
  tcp : CustomHeader.Tcp
  udp : CustomHeader.Udp
  cnp : CustomHeader.Cnp
  ack : CustomHeader.Ack
  pfc : CustomHeader.Pfc
  /-- `udp.ih` and `ack.ih`, at offset 16 of both members. -/
  ih : IntHeader

namespace CustomHeader

/-! ## Sizes -/

/-- The sizes of `ack.sport`, `ack.dport`, `ack.flags`, `ack.pg`, `ack.seq` and the INT data. -/
def getAckSerializedSize (mode : BitVec 32) : Nat :=
  2 + 2 + 2 + 2 + 4 + IntHeader.getStaticSize mode

/-- 8 and the sizes of `udp.pg`, `udp.seq` and the INT data. -/
def getUdpHeaderSize (mode : BitVec 32) : Nat := 8 + 2 + 4 + IntHeader.getStaticSize mode

def getSerializedSize (mode : BitVec 32) (ch : CustomHeader) : Nat :=
  (if ch.headerType &&& l2Header ≠ 0 then 14 else 0) +
    (if ch.headerType &&& l3Header ≠ 0 then 5 * 4 else 0) +
    if ch.headerType &&& l4Header ≠ 0 then
      if ch.l3Prot = 0x6 then ch.tcp.length.toNat * 4
      else if ch.l3Prot = 0x11 then getUdpHeaderSize mode
      else if ch.l3Prot = 0xFC ∨ ch.l3Prot = 0xFD ∨ ch.l3Prot = 0xFB then getAckSerializedSize mode
      else if ch.l3Prot = 0xFF then 8
      else if ch.l3Prot = 0xFE then 9
      else 0
    else 0

/-! ## Writing -/

/-- The length of the TCP options; it wraps around for a header of fewer than five words. -/
def Tcp.optionLen (tcp : Tcp) : BitVec 32 := (tcp.length.setWidth 32 - 5) * 4

def serializeL2 (ch : CustomHeader) : Bytes := writeHtonU16 ch.pppProto ++ writeU64 0 ++ writeU32 0

def serializeL3 (ch : CustomHeader) : Bytes :=
  let fragmentOffset := ch.fragmentOffset.setWidth 32 / 8#32
  writeU8 (4 <<< 4 ||| 5) ++ writeU8 ch.tos ++ writeHtonU16 (ch.payloadSize + 5 * 4) ++
    writeHtonU16 ch.ipid ++ writeU8 (flagsFrag fragmentOffset ch.ipv4Flags) ++
    writeU8 ((fragmentOffset &&& 0xff).setWidth 8) ++ writeU8 ch.ttl ++ writeU8 ch.l3Prot ++
    writeHtonU16 0 ++ writeHtonU32 ch.sip ++ writeHtonU32 ch.dip

def Tcp.serialize (tcp : Tcp) : Bytes :=
  writeHtonU16 tcp.sport ++ writeHtonU16 tcp.dport ++ writeHtonU32 tcp.seq ++
    writeHtonU32 tcp.ack ++
    writeHtonU16 (tcp.length.setWidth 16 <<< 12 ||| tcp.tcpFlags.setWidth 16) ++
    writeHtonU16 tcp.windowSize ++ writeHtonU16 0 ++ writeHtonU16 tcp.urgentPointer ++
    if tcp.optionLen ≤ 32 then tcp.optionBuf.take tcp.optionLen.toNat else []

def serializeL4 (mode : BitVec 32) (ch : CustomHeader) : Bytes :=
  if ch.l3Prot = 0x6 then ch.tcp.serialize
  else if ch.l3Prot = 0x11 then
    writeHtonU16 ch.udp.sport ++ writeHtonU16 ch.udp.dport ++ writeHtonU16 ch.udp.payloadSize ++
      writeHtonU16 0 ++ writeHtonU32 ch.udp.seq ++ writeHtonU16 ch.udp.pg ++ ch.ih.serialize mode
  else if ch.l3Prot = 0xFF then
    writeU8 ch.cnp.qIndex ++ writeU16 ch.cnp.fid ++ writeU8 ch.cnp.ecnBits ++
      writeU16 ch.cnp.qfb ++ writeU16 ch.cnp.total
  else if ch.l3Prot = 0xFC ∨ ch.l3Prot = 0xFD ∨ ch.l3Prot = 0xFB then
    writeU16 ch.ack.sport ++ writeU16 ch.ack.dport ++ writeU16 ch.ack.flags ++
      writeU16 ch.ack.pg ++ writeU32 ch.ack.seq ++ writeU32 ch.ack.irnNack ++
      writeU16 ch.ack.irnNackSize ++ ch.ih.serialize mode
  else if ch.l3Prot = 0xFE then
    writeU32 ch.pfc.time ++ writeU32 ch.pfc.qlen ++ writeU8 ch.pfc.qIndex
  else []

def serialize (mode : BitVec 32) (ch : CustomHeader) : Bytes :=
  (if ch.headerType &&& l2Header ≠ 0 then ch.serializeL2 else []) ++
    ((if ch.headerType &&& l3Header ≠ 0 then ch.serializeL3 else []) ++
      if ch.headerType &&& l4Header ≠ 0 then ch.serializeL4 mode else [])

/-! ## Reading -/

/-- The first part of `Deserialize`, with the size of the layer. -/
def deserializeL2 (ch : CustomHeader) : Reader (CustomHeader × Nat) :=
  if ch.headerType &&& l2Header ≠ 0 then do
    let pppProto ← readNtohU16
    Reader.next 12
    pure ({ ch with pppProto }, 14)
  else pure (ch, 0)

/-- The flags of a fragment in the byte that they share with its offset. -/
def readFlags (flags : BitVec 8) : BitVec 3 :=
  let ipv4Flags := if flags &&& 1 <<< 6 ≠ 0 then 0 ||| dontFragment else 0
  if flags &&& 1 <<< 5 ≠ 0 then ipv4Flags ||| moreFragments else ipv4Flags

/-- The bytes behind the version and the length of the header. -/
def deserializeIpv4 (ch : CustomHeader) (headerSize : BitVec 16) : Reader CustomHeader :=
  if ch.brief ≠ 0 then do
    let tos ← readU8
    Reader.next 2
    let ipid ← readNtohU16
    Reader.next 3
    let l3Prot ← readU8
    Reader.next 2
    let sip ← readNtohU32
    let dip ← readNtohU32
    pure { ch with tos, ipid, l3Prot, sip, dip }
  else do
    let tos ← readU8
    let size ← readNtohU16
    let ipid ← readNtohU16
    let flags ← readU8
    Reader.prev
    let high ← readU8
    let low ← readU8
    let ttl ← readU8
    let l3Prot ← readU8
    let checksum ← readU16
    let sip ← readNtohU32
    let dip ← readNtohU32
    pure { ch with
      tos, ipid, ttl, l3Prot, checksum, sip, dip, headerSize,
      payloadSize := size - headerSize,
      ipv4Flags := readFlags flags,
      fragmentOffset := ((high.setWidth 16 &&& 0x1f) <<< 8 ||| low.setWidth 16) <<< 3 }

/-- The second part of `Deserialize`; `none` if it refuses a header that is not IPv4. -/
def deserializeL3 (ch : CustomHeader) (l2Size : Nat) : Reader (Option (CustomHeader × Nat)) :=
  if ch.headerType &&& l3Header ≠ 0 then do
    Reader.seek l2Size
    let verIhl ← readU8
    let headerSize := (verIhl &&& 0x0f).setWidth 16 * 4
    if verIhl >>> 4 ≠ 4 then pure none
    else do
      let ch ← ch.deserializeIpv4 headerSize
      pure (some (ch, headerSize.toNat))
  else pure (some (ch, 0))

/-- The TCP header. With options that are too long `Deserialize` ends here and returns 20. -/
def deserializeTcp (ch : CustomHeader) (size : Nat) : Reader (CustomHeader × Nat) := do
  Reader.seek size
  let sport ← readNtohU16
  let dport ← readNtohU16
  let seq ← readNtohU32
  let ack ← readNtohU32
  if ch.brief ≠ 0 then do
    let field ← readNtohU16
    let tcp := { ch.tcp with sport, dport, seq, ack, tcpFlags := field.setWidth 8 &&& 0x3f }
    pure ({ ch with tcp }, size + tcp.length.toNat * 4)
  else do
    let field ← readNtohU16
    let windowSize ← readNtohU16
    Reader.next 2
    let urgentPointer ← readNtohU16
    let tcp := { ch.tcp with
      sport, dport, seq, ack, windowSize, urgentPointer,
      tcpFlags := field.setWidth 8 &&& 0x3f, length := (field >>> 12).setWidth 8 }
    if 32 < tcp.optionLen then pure ({ ch with tcp }, 20)
    else do
      let options ← Reader.readBytes tcp.optionLen.toNat
      let tcp := { tcp with optionBuf := options ++ tcp.optionBuf.drop options.length }
      pure ({ ch with tcp }, size + tcp.length.toNat * 4)

def deserializeInt (mode : BitVec 32) (ch : CustomHeader) : Reader IntHeader :=
  if ch.getInt ≠ 0 then ch.ih.deserialize mode else pure ch.ih

/-- The length and the checksum of the UDP header, which a brief reader passes over. -/
def deserializeUdpLength (ch : CustomHeader) : Reader (BitVec 16) :=
  if ch.brief ≠ 0 then do
    Reader.next 4
    pure ch.udp.payloadSize
  else do
    let payloadSize ← readNtohU16
    Reader.next 2
    pure payloadSize

def deserializeUdp (mode : BitVec 32) (ch : CustomHeader) (size : Nat) : Reader CustomHeader := do
  Reader.seek size
  let sport ← readNtohU16
  let dport ← readNtohU16
  let payloadSize ← ch.deserializeUdpLength
  let seq ← readNtohU32
  let pg ← readNtohU16
  let ih ← ch.deserializeInt mode
  pure { ch with udp := { sport, dport, payloadSize, pg, seq }, ih }

def deserializeCnp (ch : CustomHeader) : Reader CustomHeader := do
  let qIndex ← readU8
  let fid ← readU16
  let ecnBits ← readU8
  let qfb ← readU16
  let total ← readU16
  pure { ch with cnp := { fid, qIndex, qfb, ecnBits, total } }

def deserializeAck (mode : BitVec 32) (ch : CustomHeader) : Reader CustomHeader := do
  let sport ← readU16
  let dport ← readU16
  let flags ← readU16
  let pg ← readU16
  let seq ← readU32
  let irnNack ← readU32
  let irnNackSize ← readU16
  let ih ← ch.deserializeInt mode
  pure { ch with ack := { sport, dport, flags, pg, seq, irnNack, irnNackSize }, ih }

def deserializePfc (ch : CustomHeader) : Reader CustomHeader := do
  let time ← readU32
  let qlen ← readU32
  let qIndex ← readU8
  pure { ch with pfc := { time, qlen, qIndex } }

/-- The last part of `Deserialize`; `size` is that of the layers below. -/
def deserializeL4 (mode : BitVec 32) (ch : CustomHeader) (size : Nat) :
    Reader (CustomHeader × Nat) :=
  if ch.headerType &&& l4Header ≠ 0 then
    if ch.l3Prot = 0x6 then ch.deserializeTcp size
    else if ch.l3Prot = 0x11 then
      (·, size + getUdpHeaderSize mode) <$> ch.deserializeUdp mode size
    else if ch.l3Prot = 0xFF then (·, size + 8) <$> ch.deserializeCnp
    else if ch.l3Prot = 0xFC ∨ ch.l3Prot = 0xFD ∨ ch.l3Prot = 0xFB then
      (·, size + getAckSerializedSize mode) <$> ch.deserializeAck mode
    else if ch.l3Prot = 0xFE then (·, size + 9) <$> ch.deserializePfc
    else pure (ch, size)
  else pure (ch, size)

/-- The header that `Deserialize` leaves, and the size that it returns. -/
def deserialize (mode : BitVec 32) (ch : CustomHeader) : Reader (CustomHeader × Nat) := do
  let (ch, l2Size) ← ch.deserializeL2
  match ← ch.deserializeL3 l2Size with
  | none => pure (ch, 0)
  | some (ch, l3Size) => ch.deserializeL4 mode (l2Size + l3Size)

end CustomHeader

end Dpdq.Ns3.Wire
