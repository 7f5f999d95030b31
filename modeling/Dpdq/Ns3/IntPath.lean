import Mathlib.Tactic.IntervalCases
import Dpdq.Ns3.CustomHeaderRoundTrip
import Dpdq.Ns3.IntTelemetry

/-!
# INT data on their way

What `SwitchNotifyDequeue` does to the bytes of a packet: a marked packet loses its two lower headers
and gets them back with a new ECN field, and for HPCC an `IntHeader` is laid over the bytes behind
the UDP ports.

* `Headers.addTo_notifyDequeue`: at every switch the packet is one with other headers.
* `int_round_trip`: the sender reads in the acknowledgement the stamps of the last five switches that
  its data passed, and the receiver their marks.
-/

namespace Dpdq.Ns3.Wire

open Dpdq.Lib

/-! ## Headers that a switch removes -/

/-- `Packet::RemoveHeader`; `Deserialize` returns the size of the header. -/
def removeHeader {α : Type} (deserialize : Reader (α × Nat)) (p : Bytes) :
    Option ((α × Nat) × Bytes) :=
  (deserialize ⟨p, 0⟩).map fun read => (read.1, p.drop read.1.2)

theorem removeHeader_of_reads {α : Type} {r : Reader (α × Nat)} {bs : Bytes} {a : α} {size : Nat}
    (hReads : Reads 0 r bs (a, size)) (hSize : bs.length = size) (rest : Bytes) :
    removeHeader r (bs ++ rest) = some ((a, size), rest) := by
  have hRead := hReads [] rest rfl
  rw [List.nil_append] at hRead
  rw [removeHeader, hRead, Option.map_some, List.drop_left' hSize]

namespace PppHeader

def deserialize : Reader (PppHeader × Nat) := do
  let protocol ← readNtohU16
  Reader.next 12
  pure (⟨protocol⟩, getSerializedSize)

theorem reads_deserialize (n : Nat) (h : PppHeader) :
    Reads n deserialize h.serialize (h, getSerializedSize) :=
  (reads_ntohU16 h.protocol).bind (Reads.next (by simp)).done

end PppHeader

theorem readFlags_and : ∀ flags : BitVec 8, CustomHeader.readFlags flags &&& 4 = 0 := by
  decide +kernel

theorem shiftLeft_three_and (x : BitVec 16) : x <<< 3 &&& 7 = 0 := by
  apply BitVec.eq_of_getLsbD_eq
  intro i hi
  interval_cases i <;> simp

namespace Ipv4Header

/-- `SetEcn`. -/
def setEcn (h : Ipv4Header) (ecn : BitVec 8) : Ipv4Header := { h with tos := h.tos &&& 0xFC ||| ecn }

/-- The checksum is kept apart from the fields, and nothing reads it. -/
def deserialize : Reader (Ipv4Header × Nat) := do
  let verIhl ← readU8
  let headerSize := (verIhl &&& 0x0f).setWidth 16 * 4
  if verIhl >>> 4 ≠ 4 then failure
  else do
    let tos ← readU8
    let size ← readNtohU16
    let identification ← readNtohU16
    let flags ← readU8
    Reader.prev
    let high ← readU8
    let low ← readU8
    let ttl ← readU8
    let protocol ← readU8
    let _ ← readU16
    let source ← readNtohU32
    let destination ← readNtohU32
    pure
      ({ tos, identification, ttl, protocol, source, destination,
         payloadSize := size - headerSize,
         flags := CustomHeader.readFlags flags,
         fragmentOffset := ((high.setWidth 16 &&& 0x1f) <<< 8 ||| low.setWidth 16) <<< 3,
         flags_set := readFlags_and flags,
         aligned := shiftLeft_three_and _ }, headerSize.toNat)

/-- The header that is made of the bytes of `h`. -/
def reread (h : Ipv4Header) : Ipv4Header :=
  let fragmentOffset := h.fragmentOffset.setWidth 32 / 8#32
  { tos := h.tos, identification := h.identification, ttl := h.ttl, protocol := h.protocol,
    source := h.source, destination := h.destination,
    payloadSize := h.payloadSize + 5 * 4 - 20,
    flags := CustomHeader.readFlags (flagsFrag fragmentOffset h.flags),
    fragmentOffset := (((flagsFrag fragmentOffset h.flags).setWidth 16 &&& 0x1f) <<< 8 |||
      ((fragmentOffset &&& 0xff).setWidth 8 : BitVec 8).setWidth 16) <<< 3,
    flags_set := readFlags_and _,
    aligned := shiftLeft_three_and _ }

theorem reread_eq (h : Ipv4Header) : h.reread = h := by
  have hSize : h.payloadSize + 5 * 4 - 20 = h.payloadSize := BitVec.add_sub_cancel _ _
  have hFlags : CustomHeader.readFlags (flagsFrag (h.fragmentOffset.setWidth 32 / 8#32) h.flags) =
      h.flags := readFlags_setFlags _ _ h.flags_set
  have hOffset : ((((flagsFrag (h.fragmentOffset.setWidth 32 / 8#32) h.flags).setWidth 16 &&& 0x1f)
      <<< 8 ||| ((h.fragmentOffset.setWidth 32 / 8#32 &&& 0xff).setWidth 8 : BitVec 8).setWidth 16)
      <<< 3 : BitVec 16) = h.fragmentOffset := by
    rw [and_setWidth, flagsFrag, setFlags_and]
    exact offset_of_parts h.aligned
  unfold reread
  dsimp only
  simp only [hSize, hFlags, hOffset]

theorem reads_deserialize (n : Nat) (h : Ipv4Header) (checksum : Option (BitVec 16)) :
    Reads n deserialize (h.serialize checksum) (h, headerSize) := by
  obtain ⟨c, hChecksum⟩ := reads_checksum checksum
  have hReads : Reads n deserialize (h.serialize checksum) (h.reread, headerSize) := by
    rw [deserialize, serialize]
    simp only [List.append_assoc]
    refine (reads_u8 _).bind ?_
    rw [if_neg (by decide)]
    refine (reads_u8 _).bind ((reads_ntohU16 _).bind ((reads_ntohU16 _).bind (Reads.reread ?_)))
    refine (reads_u8 _).bind ((reads_u8 _).bind ((reads_u8 _).bind ((hChecksum _).bind ?_)))
    exact (reads_ntohU32 _).bind (reads_ntohU32 _).done
  rwa [reread_eq] at hReads

end Ipv4Header

/-! ## One switch -/

/-- What a switch does to a packet: whether it marks it, and what it pushes. -/
structure SwitchHop where
  marked : Bool
  stamp : HopStamp

/-- The removed headers are added again, with the ECN field of a congested queue. -/
def markEcn (p : Bytes) : Option Bytes := do
  let ppp ← removeHeader PppHeader.deserialize p
  let ip ← removeHeader Ipv4Header.deserialize ppp.2
  let p := addHeader ip.1.2 ((ip.1.1.setEcn 0x03).serialize none) ip.2
  some (addHeader ppp.1.2 ppp.1.1.serialize p)

/-- ppp, ip, udp, SeqTs, INT. -/
def intOffset : Nat := PppHeader.getSerializedSize + 20 + 8 + 6

/-- `PushHop` of an `IntHeader` that lies over the packet. -/
def pushHopAt (multi : Nat) (p : Bytes) (s : HopStamp) : Option Bytes := do
  let protocol ← p[PppHeader.getSerializedSize + 9]?
  if protocol = 0x11 then
    let ih ← IntHeader.fresh.deserialize 0 ⟨p, intOffset⟩
    some (p.take intOffset ++ (ih.1.pushHop multi s).serialize 0 ++ p.drop ih.2.current)
  else some p

/-- `SwitchNotifyDequeue` with the congestion control of HPCC. -/
def notifyDequeue (multi : Nat) (p : Bytes) (hop : SwitchHop) : Option Bytes := do
  let p ← if hop.marked then markEcn p else some p
  pushHopAt multi p hop.stamp

/-- The INT data of a data packet get a hop. -/
def L4Header.pushHop (multi : Nat) (s : HopStamp) : L4Header → L4Header
  | udp h seqTs => udp h { seqTs with ih := seqTs.ih.pushHop multi s }
  | creditBouncer h => creditBouncer h
  | ack h => ack h
  | nack h => nack h
  | cnp h => cnp h
  | pfc h => pfc h

theorem L4Header.protocol_pushHop (multi : Nat) (s : HopStamp) (l4 : L4Header) :
    (l4.pushHop multi s).protocol = l4.protocol := by
  cases l4 <;> rfl

namespace Headers

def setEcn (h : Headers) (ecn : BitVec 8) : Headers :=
  { h with ip := h.ip.setEcn ecn, protocol_eq := h.protocol_eq }

def pushHop (multi : Nat) (h : Headers) (s : HopStamp) : Headers :=
  { h with
    l4 := h.l4.pushHop multi s
    protocol_eq := h.protocol_eq.trans (L4Header.protocol_pushHop multi s h.l4).symm }

variable {mode : BitVec 32} {c u : Option (BitVec 16)} {n : Nat}

theorem markEcn_written (h : Headers) (rest : Bytes) :
    markEcn (h.written mode c u n ++ rest) =
      some ((h.setEcn 0x03).written mode none u n ++ rest) := by
  have hPpp := removeHeader_of_reads (h.ppp.reads_deserialize 0) h.ppp.length_serialize
    (h.ip.serialize c ++ (h.l4.written mode u n ++ rest))
  have hIp := removeHeader_of_reads (h.ip.reads_deserialize 0 c) (h.ip.length_serialize c)
    (h.l4.written mode u n ++ rest)
  have hBytes : h.written mode c u n ++ rest =
      h.ppp.serialize ++ (h.ip.serialize c ++ (h.l4.written mode u n ++ rest)) := by
    rw [written, List.append_assoc, List.append_assoc]
  have hMarked : addHeader PppHeader.getSerializedSize h.ppp.serialize
      (addHeader Ipv4Header.headerSize ((h.ip.setEcn 0x03).serialize none)
        (h.l4.written mode u n ++ rest)) = (h.setEcn 0x03).written mode none u n ++ rest := by
    have hLength : ((h.ip.setEcn 0x03).serialize none).length = Ipv4Header.headerSize :=
      (h.ip.setEcn 0x03).length_serialize none
    rw [addHeader_eq hLength, addHeader_eq h.ppp.length_serialize, written, List.append_assoc,
      List.append_assoc]
    rfl
  rw [markEcn, hBytes]
  simp only [hPpp, hIp, Option.bind_eq_bind, Option.bind_some]
  rw [hMarked]

/-- The protocol stands where the switch looks for it. -/
theorem protocol_written (h : Headers) (rest : Bytes) :
    (h.written mode c u n ++ rest)[PppHeader.getSerializedSize + 9]? = some h.ip.protocol := by
  have hByte : (h.ip.serialize c)[9]? = some h.ip.protocol := by
    cases c <;> rfl
  have hBound : 9 < (h.ip.serialize c).length := (List.getElem?_eq_some_iff.mp hByte).1
  rw [written, List.append_assoc, List.append_assoc,
    List.getElem?_append_right (by rw [h.ppp.length_serialize]; omega), h.ppp.length_serialize,
    Nat.add_sub_cancel_left, List.getElem?_append_left hBound, hByte]

end Headers

theorem IntHeader.reads_deserialize (n : Nat) (old ih : IntHeader) :
    Reads n (old.deserialize 0) (ih.serialize 0) ih := by
  obtain ⟨read, hSame, hReads⟩ := IntHeader.reads 0 old ih
  rw [hSame.1 rfl] at hReads
  exact hReads n

theorem pushHopAt_udp (multi : Nat) {front rest : Bytes} (ih : IntHeader) (s : HopStamp)
    (hFront : front.length = intOffset)
    (hProtocol : (front ++ ih.serialize 0 ++ rest)[PppHeader.getSerializedSize + 9]? =
      some 0x11) :
    pushHopAt multi (front ++ ih.serialize 0 ++ rest) s =
      some (front ++ (ih.pushHop multi s).serialize 0 ++ rest) := by
  have hRead := IntHeader.reads_deserialize intOffset IntHeader.fresh ih front rest hFront
  have hDrop : (front ++ ih.serialize 0 ++ rest).drop (intOffset + (ih.serialize 0).length) =
      rest := by
    rw [← hFront, ← List.length_append, List.drop_left]
  have hTake : (front ++ ih.serialize 0 ++ rest).take intOffset = front := by
    rw [List.append_assoc, ← hFront, List.take_left]
  rw [pushHopAt, hProtocol]
  simp only [Option.bind_eq_bind, Option.bind_some, hRead, hTake, hDrop, if_true]

theorem pushHopAt_other (multi : Nat) {p : Bytes} {protocol : Byte} (s : HopStamp)
    (hProtocol : p[PppHeader.getSerializedSize + 9]? = some protocol) (hOther : protocol ≠ 0x11) :
    pushHopAt multi p s = some p := by
  rw [pushHopAt, hProtocol]
  simp only [Option.bind_eq_bind, Option.bind_some, if_neg hOther]

namespace Headers

variable {c u : Option (BitVec 16)} {n : Nat}

/-- What stands in front of the INT data of a data packet. -/
def front (c u : Option (BitVec 16)) (n : Nat) (h : Headers) (udp : UdpHeader)
    (seqTs : SeqTsHeader) : Bytes :=
  h.ppp.serialize ++ (h.ip.serialize c ++
    (udp.serialize u (UdpHeader.getSerializedSize + (SeqTsHeader.getSerializedSize 0 + n)) ++
      (writeHtonU32 seqTs.seq ++ writeHtonU16 seqTs.pg)))

theorem length_front (h : Headers) (udp : UdpHeader) (seqTs : SeqTsHeader) :
    (h.front c u n udp seqTs).length = intOffset := by
  simp [front, intOffset, Ipv4Header.getSerializedSize, Ipv4Header.headerSize,
    UdpHeader.getSerializedSize]

theorem written_udp {h : Headers} {udp : UdpHeader} {seqTs : SeqTsHeader}
    (hData : h.l4 = .udp udp seqTs) :
    h.written 0 c u n = h.front c u n udp seqTs ++ seqTs.ih.serialize 0 := by
  simp only [written, hData, L4Header.written, front, SeqTsHeader.serialize, List.append_assoc]

/-- Pushing a hop on the bytes is pushing it on the header. -/
theorem pushHopAt_written (multi : Nat) (h : Headers) (s : HopStamp) (rest : Bytes) :
    pushHopAt multi (h.written 0 c u n ++ rest) s =
      some ((h.pushHop multi s).written 0 c u n ++ rest) := by
  have hProtocol : (h.written 0 c u n ++ rest)[PppHeader.getSerializedSize + 9]? =
      some h.ip.protocol := h.protocol_written rest
  rw [h.protocol_eq] at hProtocol
  have hOther (hSame : h.l4.pushHop multi s = h.l4) (hProt : h.l4.protocol ≠ 0x11) :
      pushHopAt multi (h.written 0 c u n ++ rest) s =
        some ((h.pushHop multi s).written 0 c u n ++ rest) := by
    have hWritten : (h.pushHop multi s).written 0 c u n = h.written 0 c u n := by
      show h.ppp.serialize ++ (h.ip.serialize c ++ (h.l4.pushHop multi s).written 0 u n) = _
      rw [hSame]
      rfl
    rw [pushHopAt_other multi s hProtocol hProt, hWritten]
  cases hL4 : h.l4 with
  | udp udp seqTs =>
    have hPushed : (h.pushHop multi s).l4 =
        .udp udp { seqTs with ih := seqTs.ih.pushHop multi s } := by
      show h.l4.pushHop multi s = _
      rw [hL4]
      rfl
    have hBytes := written_udp (c := c) (u := u) (n := n) hL4
    rw [hBytes, hL4] at hProtocol
    rw [hBytes, pushHopAt_udp multi seqTs.ih s (h.length_front udp seqTs) hProtocol,
      written_udp hPushed]
    rfl
  | creditBouncer h' =>
    refine hOther ?_ ?_
    · rw [hL4]; rfl
    · rw [hL4]; simp [L4Header.protocol]
  | ack h' =>
    refine hOther ?_ ?_
    · rw [hL4]; rfl
    · rw [hL4]; simp [L4Header.protocol]
  | nack h' =>
    refine hOther ?_ ?_
    · rw [hL4]; rfl
    · rw [hL4]; simp [L4Header.protocol]
  | cnp h' =>
    refine hOther ?_ ?_
    · rw [hL4]; rfl
    · rw [hL4]; simp [L4Header.protocol]
  | pfc h' =>
    refine hOther ?_ ?_
    · rw [hL4]; rfl
    · rw [hL4]; simp [L4Header.protocol]

/-- What the headers of a packet become at one switch. -/
def notifyDequeue (multi : Nat) (h : Headers) (hop : SwitchHop) : Headers :=
  (if hop.marked then h.setEcn 0x03 else h).pushHop multi hop.stamp

/-- A marked packet comes out with the checksum that the switch writes. -/
def checksumAfter (c : Option (BitVec 16)) (hop : SwitchHop) : Option (BitVec 16) :=
  if hop.marked then none else c

theorem notifyDequeue_written (multi : Nat) (h : Headers) (hop : SwitchHop) (rest : Bytes) :
    Wire.notifyDequeue multi (h.written 0 c u n ++ rest) hop =
      some ((h.notifyDequeue multi hop).written 0 (checksumAfter c hop) u n ++ rest) := by
  rw [Wire.notifyDequeue, notifyDequeue, checksumAfter]
  cases hMarked : hop.marked with
  | false =>
    simp only [Bool.false_eq_true, if_false, Option.bind_eq_bind, Option.bind_some]
    exact pushHopAt_written multi h hop.stamp rest
  | true =>
    simp only [if_true, markEcn_written, Option.bind_eq_bind, Option.bind_some]
    exact pushHopAt_written multi (h.setEcn 0x03) hop.stamp rest

/-- What the headers of a packet become on a path. -/
def traverse (multi : Nat) (h : Headers) (path : List SwitchHop) : Headers :=
  path.foldl (notifyDequeue multi) h

/-- The packet that arrives is the one with these headers. -/
theorem addTo_traverse (multi : Nat) (h : Headers) (c u : Option (BitVec 16)) (payload : Bytes)
    (path : List SwitchHop) :
    path.foldlM (Wire.notifyDequeue multi) (h.addTo 0 c u payload) =
      some ((h.traverse multi path).addTo 0 (path.foldl checksumAfter c) u payload) := by
  induction path generalizing h c with
  | nil => rfl
  | cons hop path ih =>
    have hStep := notifyDequeue_written (c := c) (u := u) (n := payload.length) multi h hop payload
    rw [List.foldlM_cons, addTo_eq, hStep, ← addTo_eq]
    exact ih (h.notifyDequeue multi hop) (checksumAfter c hop)

/-! ### What the path leaves in the headers -/

theorem ecn_again : ∀ tos : BitVec 8, (tos &&& 0xFC ||| 0x03) &&& 0xFC ||| 0x03 =
    tos &&& 0xFC ||| 0x03 := by
  decide +kernel

theorem tos_notifyDequeue (multi : Nat) (h : Headers) (hop : SwitchHop) :
    (h.notifyDequeue multi hop).ip.tos =
      if hop.marked then h.ip.tos &&& 0xFC ||| 0x03 else h.ip.tos := by
  unfold notifyDequeue
  cases hop.marked <;> rfl

theorem l4_notifyDequeue (multi : Nat) (h : Headers) (hop : SwitchHop) :
    (h.notifyDequeue multi hop).l4 = h.l4.pushHop multi hop.stamp := by
  unfold notifyDequeue
  cases hop.marked <;> rfl

/-- One mark is as good as many. -/
theorem tos_traverse (multi : Nat) (h : Headers) (path : List SwitchHop) :
    (h.traverse multi path).ip.tos =
      if path.any SwitchHop.marked then h.ip.tos &&& 0xFC ||| 0x03 else h.ip.tos := by
  induction path generalizing h with
  | nil => rfl
  | cons hop path ih =>
    have hRest := ih (h.notifyDequeue multi hop)
    rw [tos_notifyDequeue] at hRest
    rw [List.any_cons]
    refine hRest.trans ?_
    cases hop.marked with
    | false => rfl
    | true =>
      simp only [if_true, Bool.true_or, ecn_again, ite_self]

theorem l4_traverse_udp (multi : Nat) {h : Headers} {udp : UdpHeader} {seqTs : SeqTsHeader}
    (hData : h.l4 = .udp udp seqTs) (path : List SwitchHop) :
    (h.traverse multi path).l4 =
      .udp udp { seqTs with ih := seqTs.ih.pushAll multi (path.map SwitchHop.stamp) } := by
  induction path generalizing h seqTs with
  | nil => exact hData
  | cons hop path ih =>
    have hStep : (h.notifyDequeue multi hop).l4 =
        .udp udp { seqTs with ih := seqTs.ih.pushHop multi hop.stamp } := by
      rw [l4_notifyDequeue, hData]
      rfl
    exact ih hStep

/-- Nothing is pushed on what the receiver sends back. -/
theorem l4_traverse_qbb (multi : Nat) {h : Headers} {q : QbbHeader}
    (hQbb : h.l4 = .ack q ∨ h.l4 = .nack q) (path : List SwitchHop) :
    (h.traverse multi path).l4 = h.l4 := by
  induction path generalizing h with
  | nil => rfl
  | cons hop path ih =>
    have hStep : (h.notifyDequeue multi hop).l4 = h.l4 := by
      rw [l4_notifyDequeue]
      rcases hQbb with hAck | hNack
      · rw [hAck]
        rfl
      · rw [hNack]
        rfl
    exact (ih (by rwa [hStep])).trans hStep

/-- What a host reads of a packet that comes off a path. -/
theorem exists_read (h : Headers) (payload : Bytes) {ch : CustomHeader} (hFull : ch.Full) :
    ∃ read size rest,
      ch.deserialize 0 ⟨h.addTo 0 c u payload, 0⟩ = some ((read, size), rest) ∧
        h.Recovered 0 payload.length read := by
  obtain ⟨read, hRecovered, -, hReads⟩ := h.reads 0 c u payload.length hFull
  have hDeserialize := hReads [] payload rfl
  rw [List.nil_append, ← addTo_eq] at hDeserialize
  exact ⟨_, _, _, hDeserialize, hRecovered⟩

end Headers

/-- The receiver reads the mark of any switch. The sender reads in whatever the receiver makes of
the INT data how many switches there were and what the last five of them pushed. -/
theorem int_round_trip (multi : Nat) {data : Headers} {udp : UdpHeader} {seqTs : SeqTsHeader}
    (hData : data.l4 = .udp udp seqTs) (hFresh : seqTs.ih = IntHeader.fresh)
    (out back : List SwitchHop) (hShort : out.length < 2 ^ 16)
    (ipChecksum udpChecksum ackChecksum : Option (BitVec 16)) (payload : Bytes)
    {receiver sender : CustomHeader} (hReceiver : receiver.Full) (hSender : sender.Full) :
    ∃ p read size rest,
      out.foldlM (notifyDequeue multi) (data.addTo 0 ipChecksum udpChecksum payload) = some p ∧
      receiver.deserialize 0 ⟨p, 0⟩ = some ((read, size), rest) ∧
      read.tos = (if out.any SwitchHop.marked then data.ip.tos &&& 0xFC ||| 0x03
        else data.ip.tos) ∧
      ∀ (reply : Headers) (q : QbbHeader), (reply.l4 = .ack q ∨ reply.l4 = .nack q) →
        q.ih = read.ih →
        ∃ p' read' size' rest',
          back.foldlM (notifyDequeue multi) (reply.addTo 0 ackChecksum none []) = some p' ∧
          sender.deserialize 0 ⟨p', 0⟩ = some ((read', size'), rest') ∧
          read'.ack.seq = q.seq ∧ read'.ih.nhop.toNat = out.length ∧
          ∀ j hop, out[j]? = some hop → out.length ≤ j + IntHeader.maxHop →
            (read'.ih.hop (Fin.ofNat 5 j)).Shows multi hop.stamp := by
  have hOut := Headers.addTo_traverse multi data ipChecksum udpChecksum payload out
  obtain ⟨read, size, rest, hRead, hRecovered⟩ :=
    Headers.exists_read (c := out.foldl Headers.checksumAfter ipChecksum) (u := udpChecksum)
      (data.traverse multi out) payload hReceiver
  have hUdp := hRecovered.l4
  rw [Headers.l4_traverse_udp multi hData out, hFresh] at hUdp
  have hIh : read.ih = IntHeader.fresh.pushAll multi (out.map SwitchHop.stamp) := hUdp.ih.1 rfl
  refine ⟨_, read, size, rest, hOut, hRead, ?_, ?_⟩
  · rw [hRecovered.ip.tos, Headers.tos_traverse]
  · intro reply q hReply hEcho
    have hBack := Headers.addTo_traverse multi reply ackChecksum none [] back
    obtain ⟨read', size', rest', hRead', hRecovered'⟩ :=
      Headers.exists_read (c := back.foldl Headers.checksumAfter ackChecksum) (u := none)
        (reply.traverse multi back) [] hSender
    have hQbb : q.Recovered 0 read' := by
      have hL4 := hRecovered'.l4
      rw [Headers.l4_traverse_qbb multi hReply back] at hL4
      rcases hReply with hAck | hNack
      · rw [hAck] at hL4
        exact hL4
      · rw [hNack] at hL4
        exact hL4
    have hSame : read'.ih = IntHeader.fresh.pushAll multi (out.map SwitchHop.stamp) :=
      (hQbb.ih.1 rfl).trans (hEcho.trans hIh)
    have hLength : (out.map SwitchHop.stamp).length < 2 ^ 16 := by
      rw [List.length_map]
      exact hShort
    obtain ⟨hCount, hShows⟩ := IntHeader.shows_pushAll multi hLength
    rw [List.length_map] at hCount hShows
    refine ⟨_, read', size', rest', hBack, hRead', ?_, ?_, ?_⟩
    · rw [hQbb.fields]
    · rw [hSame, hCount]
    · intro j hop hAt hLast
      rw [hSame]
      refine hShows j hop.stamp ?_ hLast
      rw [List.getElem?_map, hAt, Option.map_some]

def freshData : Headers := headersOf (.udp ⟨100, 5001⟩ ⟨4000, 3, IntHeader.fresh⟩)

/-- Two switches, of which the second one marks, and one on the way back. -/
theorem int_round_trip_two_switches :
    let first : HopStamp := ⟨1000, 25600, 0, 100000000000⟩
    let second : HopStamp := ⟨3000, 51200, 160000, 100000000000⟩
    ∃ p read size rest,
      [⟨false, first⟩, ⟨true, second⟩].foldlM (notifyDequeue 1)
        (freshData.addTo 0 none none [1, 2, 3]) = some p ∧
      fullReader.deserialize 0 ⟨p, 0⟩ = some ((read, size), rest) ∧ read.tos = 3 ∧
      ∃ p' read' size' rest',
        [⟨false, first⟩].foldlM (notifyDequeue 1)
          ((headersOf (.ack ⟨100, 5001, 0, 3, 5000, read.ih, 0, 0⟩)).addTo 0 none none []) =
            some p' ∧
        fullReader.deserialize 0 ⟨p', 0⟩ = some ((read', size'), rest') ∧
        read'.ack.seq = 5000 ∧ read'.ih.nhop.toNat = 2 ∧
        (read'.ih.hop 0).Shows 1 first ∧ (read'.ih.hop 1).Shows 1 second := by
  intro first second
  have hFull : fullReader.Full := by
    constructor <;> decide
  have hData : freshData.l4 = .udp ⟨100, 5001⟩ ⟨4000, 3, IntHeader.fresh⟩ := rfl
  obtain ⟨p, read, size, rest, hOut, hRead, hTos, hReply⟩ :=
    int_round_trip 1 hData rfl [⟨false, first⟩, ⟨true, second⟩]
      [⟨false, first⟩] (by decide) none none none [1, 2, 3] hFull hFull
  obtain ⟨p', read', size', rest', hBack, hRead', hSeq, hCount, hShows⟩ :=
    hReply (headersOf (.ack ⟨100, 5001, 0, 3, 5000, read.ih, 0, 0⟩)) _ (Or.inl rfl) rfl
  refine ⟨p, read, size, rest, hOut, hRead, hTos, p', read', size', rest', hBack, hRead', hSeq,
    hCount, ?_, ?_⟩
  · exact hShows 0 _ rfl (by decide)
  · exact hShows 1 _ rfl (by decide)

end Dpdq.Ns3.Wire
