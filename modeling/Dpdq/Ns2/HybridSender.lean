import Dpdq.Ns2.Hybrid

/-!
# The sender of `R2p2CCHybrid`

The sender half of `r2p2-cc-hybrid.cc`. A host keeps the messages to a receiver together with the
credit that it has for that receiver; any of these messages may use the credit. The first credit of
a message may come from the sender itself, which then announces the message with its data.

Which message sends next is up to the deficits and the order of `want_to_send`, and how often a
message sends is up to the pacer.
-/

namespace Dpdq.Ns2

open Dpdq.Lib

/-! ## Sizes -/

/-- `add_header_overhead`. -/
def addHeaderOverhead (payload : Nat) (skipLastPktCheck : Bool) : Nat :=
  let wHdrs := payload / maxR2p2Payload * (maxR2p2Payload + wireOverhead)
  if 0 < payload % maxR2p2Payload ∧ ¬ skipLastPktCheck then
    wHdrs + max (payload % maxR2p2Payload + wireOverhead) minEthernetFrameOnWire
  else wHdrs

/-- `remove_header_overhead`: a packet that does not fit is left out. -/
def removeHeaderOverhead (size : Nat) : Nat := size / maxEthernetFrameOnWire * maxR2p2Payload

/-- The packets of a message, as `sending_request` and `send_response` count them. -/
def numPkts (bytes : Nat) : Nat :=
  bytes / maxR2p2Payload + if 0 < bytes % maxR2p2Payload then 1 else 0

def payloadFromOffset (totalBytes startOffset : Nat) : Nat :=
  if totalBytes ≤ startOffset then 0 else min maxR2p2Payload (totalBytes - startOffset)

/-- What `R2p2Agent` adds to a packet that is too small for a frame. -/
def framePadding (payload : Nat) : Nat := minEthernetFrameOnWire - (payload + wireOverhead)

/-! ## Messages -/

structure OutboundMsgState where
  src : Int
  isRequest : Bool
  totalBytes : Nat
  unsentBytes : Nat
  pktId : Int
  sentAnouncement : Bool := false
  sentFirst : Bool := false
  active : Bool := false
  isScheduled : Bool := true
  selfAllocCredit : Nat := 0
  selfAllocCreditData : Nat := 0
  bytesSent : Nat := 0
  resendRanges : List (Nat × Nat) := []
deriving DecidableEq, Repr

instance : Inhabited OutboundMsgState := ⟨⟨0, true, 0, 0, 0, false, false, false, true, 0, 0, 0, []⟩⟩

/-- The credit on the wire and the data that a sender allocates to itself. -/
def selfAllocation (cfg : HybridConfig) (availCreditBytes : Int) (totalBytes : Nat) : Nat × Nat :=
  let all := (addHeaderOverhead totalBytes false, totalBytes)
  let upTo (size : Nat) :=
    (addHeaderOverhead (removeHeaderOverhead size) true, removeHeaderOverhead size)
  let toGrant := if (all.1 : Int) ≤ cfg.maxSrpb then all else upTo cfg.maxSrpb.toNat
  let space := (max (cfg.maxSrpb - availCreditBytes) maxEthernetFrameOnWire).toNat
  if space < toGrant.1 then upTo space else toGrant

/-- The messages that a sender starts with credit of its own. -/
def sendsUnsolicited (cfg : HybridConfig) (totalBytes : Nat) : Bool :=
  cfg.unsolicitedThreshBytes = -1 ∨
    (addHeaderOverhead totalBytes false : Int) ≤ cfg.unsolicitedThreshBytes

namespace OutboundMsgState

/-- `prep_msg_send` and `sending_request`. The first packet tells how many more there are. -/
def ofRequest (src : Int) (payload : Nat) : OutboundMsgState where
  src := src
  isRequest := true
  totalBytes := payload
  unsentBytes := payload
  pktId := numPkts payload - 1

/-- `sending_reply`. The first packet tells how many there are. -/
def ofReply (src : Int) (payload : Nat) : OutboundMsgState where
  src := src
  isRequest := false
  totalBytes := payload
  unsentBytes := payload
  pktId := numPkts payload

/-- `is_single_packet_msg`, for the packets of a reply with one packet. -/
def isSinglePktReply (m : OutboundMsgState) : Bool := m.isRequest = false ∧ m.pktId = 1

def msgType (m : OutboundMsgState) : MsgType := if m.isRequest then .request else .reply

/-! ## Packets -/

/-- The GRANT_REQ of a message that has no credit of its own. -/
def grantReq (m : OutboundMsgState) (id : UniqReqId) : Packet where
  src := m.src
  size := 4
  msgType := .grantReq
  reqId := id
  first := ¬ m.sentFirst
  pktId := m.pktId
  creditReq := m.totalBytes

/-- The packet that brings `payload` bytes from `msgOffset` on. -/
def dataPacket (m : OutboundMsgState) (id : UniqReqId) (first : Bool) (msgOffset payload : Nat) :
    Packet where
  src := m.src
  size := payload
  padding := framePadding payload
  msgType := m.msgType
  reqId := id
  first := first
  pktId := m.pktId
  seq := msgOffset + payload
  msgOffset := msgOffset

/-- Every packet of a message with credit of its own announces the message. -/
def announcing (m : OutboundMsgState) (p : Packet) : Packet :=
  if m.isScheduled then p
  else { p with
    creditReq := m.totalBytes
    unsolCredit := m.selfAllocCredit
    unsolCreditData := m.selfAllocCreditData }

/-! ## Sending -/

/-- The loops of `send_data` over the inactive messages. A message with credit of its own only
becomes active, any other one sends a GRANT_REQ. -/
def activate (cfg : HybridConfig) (m : OutboundMsgState) (id : UniqReqId) (availCreditBytes : Int) :
    Option (OutboundMsgState × Int × Option Packet) :=
  if m.active then none
  else if sendsUnsolicited cfg m.totalBytes then
    let toGrant := selfAllocation cfg availCreditBytes m.totalBytes
    if toGrant.1 = 0 then none
    else
      let credit := max toGrant.1 minEthernetFrameOnWire
      some ({ m with
        active := true
        isScheduled := false
        selfAllocCredit := credit
        selfAllocCreditData := toGrant.2 }, availCreditBytes + credit, none)
  else some ({ m with active := true, sentAnouncement := true }, availCreditBytes,
    some (m.grantReq id))

/-- The next packet of a message for which there is credit. -/
def sendData (m : OutboundMsgState) (id : UniqReqId) (availCreditBytes : Int) :
    Option (OutboundMsgState × Int × Packet) :=
  let payload := min maxR2p2Payload m.unsentBytes
  let msgOffset := m.totalBytes - m.unsentBytes
  if m.active ∧ 0 < m.unsentBytes ∧ (wireBytes payload : Int) ≤ availCreditBytes then
    some ({ m with
      sentFirst := true
      sentAnouncement := m.sentAnouncement ∨ ¬ m.isScheduled
      bytesSent := max m.bytesSent (msgOffset + payload)
      unsentBytes := m.unsentBytes - payload },
      availCreditBytes - wireBytes payload,
      m.announcing (m.dataPacket id (¬ m.sentFirst) msgOffset payload))
  else none

/-! ## Retransmissions -/

def queueResend (m : OutboundMsgState) (startOffset resendBytes : Nat) : OutboundMsgState :=
  if resendBytes = 0 then m
  else { m with resendRanges := m.resendRanges ++ [(startOffset, resendBytes)] }

/-- `handle_resend`: what was not sent before is not sent now. -/
def handleResend (m : OutboundMsgState) (startOffset resendBytes : Nat) : OutboundMsgState :=
  let resendEnd := min ((startOffset + resendBytes) % 2 ^ 32) m.totalBytes
  if startOffset < m.bytesSent then
    m.queueResend startOffset ((min resendEnd m.bytesSent + 2 ^ 32 - startOffset) % 2 ^ 32)
  else m

/-- `send_one_retransmission` for the first range of a message. -/
def sendOneRetransmission (m : OutboundMsgState) (id : UniqReqId) :
    Option (OutboundMsgState × Packet) :=
  match m.resendRanges with
  | [] => none
  | (startOffset, bytes) :: rest =>
    let payload := min maxR2p2Payload bytes
    let ranges := if bytes - payload = 0 then rest else (startOffset + payload, bytes - payload) :: rest
    some ({ m with resendRanges := ranges },
      { m.dataPacket id (startOffset = 0) startOffset payload with resendBytes := payload })

end OutboundMsgState

end Dpdq.Ns2
