import Mathlib.Init

/-!
# R2P2 packets of the ns-2 simulator

The header fields of `r2p2-hdr.h` that the credit protocol of a host reads, and the sizes of
`r2p2.h`. Credit is counted in bytes on the wire: a packet costs its payload, its headers, the
preamble and the gap behind it, and at least the smallest frame.
-/

namespace Dpdq.Ns2

/-! ## Sizes -/

def interPktGapSize : Nat := 12

def ethernetPreambleSize : Nat := 8

def minEthernetFrame : Nat := 64

def minEthernetFrameOnWire : Nat := 84

def maxEthernetFrame : Nat := 1518

def maxEthernetFrameOnWire : Nat := 1538

def r2p2AllHeadersSize : Nat := 60

def maxR2p2Payload : Nat := 1458

/-- Everything on the wire that is not payload. -/
def wireOverhead : Nat := r2p2AllHeadersSize + interPktGapSize + ethernetPreambleSize

/-- What a packet with `payload` bytes takes on the wire. -/
def wireBytes (payload : Nat) : Nat := max (payload + wireOverhead) minEthernetFrameOnWire

/-! ## Headers -/

inductive MsgType where
  | request
  | reply
  | reqrdy
  | r2p2Feedback
  | drop
  | sack
  | freeze
  | unfreeze
  | grant
  | grantReq
  | resend
deriving DecidableEq, Repr

/-- `uniq_req_id_t`: the client's address and thread, and its number for the request. -/
structure UniqReqId where
  clAddr : Int
  clThreadId : Int
  reqId : Nat
deriving DecidableEq, Repr

/-- A packet as a host receives it: source address, payload and padding, and `hdr_r2p2`. -/
structure Packet where
  src : Int
  size : Nat
  padding : Nat := 0
  msgType : MsgType
  reqId : UniqReqId
  first : Bool := false
  pktId : Int := 0
  seq : Int := 0
  msgOffset : Int := 0
  credit : Int := 0
  creditPad : Int := 0
  creditReq : Nat := 0
  resendBytes : Nat := 0
  bouncedCredit : Bool := false
  unsolCredit : Int := 0
  unsolCreditData : Nat := 0
deriving DecidableEq, Repr

namespace Packet

def isData (pkt : Packet) : Bool := pkt.msgType = .request ∨ pkt.msgType = .reply

/-- `is_single_packet_msg` for replies. -/
def isSinglePktReply (pkt : Packet) : Bool :=
  pkt.msgType = .reply ∧ pkt.first ∧ pkt.pktId = 1

def frameSize (pkt : Packet) : Nat := pkt.size + r2p2AllHeadersSize + pkt.padding

/-- The number of the packet in its message. -/
def pktIndex (pkt : Packet) : Nat := pkt.msgOffset.toNat / maxR2p2Payload

end Packet

end Dpdq.Ns2
