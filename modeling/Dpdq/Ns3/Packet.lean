import Mathlib.Init

/-!
# Packets of the ns-3 simulator

The header fields and packet tags that the switch and the RDMA hosts read. All fields are
numbers; the widths (8-bit `l3Prot`, 16-bit ports, 32-bit credit and sequence fields) are those
of `custom-header.h` and `creditbouncer-tag.h`.
-/

namespace Dpdq.Ns3

/-- `CreditBouncerTag::MessageType`. -/
inductive MessageType where
  | none
  | grantReq
  | request
  | grant
  | bouncedCredit
  | resend
deriving DecidableEq, Repr

/-- `CreditBouncerTag::DataClass`. -/
inductive DataClass where
  | none
  | unsolicited
  | unscheduled
  | scheduled
deriving DecidableEq, Repr

/-- What a DPDQ packet carries besides its headers. -/
structure CreditBouncerTag where
  type : MessageType
  creditReqBytes : Nat := 0
  creditBytes : Nat := 0
  csnMarked : Bool := false
  priorityFlow : Bool := false
  dataClass : DataClass := .none
  unsolCreditBytes : Nat := 0
  unsolCreditDataBytes : Nat := 0
  usedUnsolCredit : Bool := false
  creditPad : Nat := 0
  resendStartIdx : Nat := 0
  resendNumChunks : Nat := 0
deriving DecidableEq, Repr

/-- `TltTag::TltType_e`; a packet without the tag reads as `notImportant`. -/
inductive TltType where
  | notImportant
  | important
  | importantEcho
  | importantForce
  | importantEchoForce
  | importantFastRetrans
  | importantControl
deriving DecidableEq, Repr

/-- `CustomHeader`. The union of transport headers is one group of fields, since `tcp`, `udp` and
`ack` lay out the fields that are read here under the same names. -/
structure CustomHeader where
  sip : Nat
  dip : Nat
  l3Prot : Nat
  sport : Nat
  dport : Nat
  pg : Nat
  seq : Nat
  ecnBits : Nat := 0
deriving DecidableEq, Repr

/-- A packet as the switch sees it. -/
structure Packet where
  ch : CustomHeader
  size : Nat
  cbTag : Option CreditBouncerTag := none
  tltTag : Option TltType := none
  flowIdTag : Option Nat := none
  justBounced : Bool := false
deriving DecidableEq, Repr

/-- A tagged packet as an RDMA host sees it: `payloadSize` is what is left without the headers, and
`flowId` the id of a `FlowIDNUMTag`. -/
structure CbPacket where
  ch : CustomHeader
  tag : CreditBouncerTag
  payloadSize : Nat := 0
  flowId : Option Int := none
deriving DecidableEq, Repr

/-- The packet that a switch makes of a GRANT. -/
def CbPacket.bounced (p : CbPacket) : CbPacket :=
  { p with
    ch := { p.ch with
      sip := p.ch.dip, dip := p.ch.sip, sport := p.ch.dport, dport := p.ch.sport }
    tag := { p.tag with type := .bouncedCredit } }

namespace Packet

/-- The packet carries a tag that is not `CB_MSG_NONE`, with this message type. -/
def hasType (p : Packet) (t : MessageType) : Bool :=
  match p.cbTag with
  | none => false
  | some tag => tag.type = t

end Packet

end Dpdq.Ns3
