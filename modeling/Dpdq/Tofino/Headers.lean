import Mathlib.Algebra.Group.Nat.Defs
import Mathlib.Tactic.Common
import Dpdq.Lib.Codec

/-!
# Packet headers of the P4 switch

The headers of `common/headers.p4`, each with the codec of its wire layout, and the
`headers_t` that a parser fills: an absent header is an invalid one.
-/

namespace Dpdq.Tofino

open Lib

/-! ## Constants -/

def ethertypeIpv4 : BitVec 16 := 0x0800#16
def ipProtocolUdp : BitVec 8 := 17#8
def dpdqUdpPort : BitVec 16 := 9001#16
def dpdqSyncMagic : BitVec 16 := 0xd5c1#16

def dpdqRequest : BitVec 8 := 0#8
def dpdqReply : BitVec 8 := 1#8
def dpdqGrant : BitVec 8 := 8#8
def dpdqGrantReq : BitVec 8 := 9#8
def dpdqResend : BitVec 8 := 10#8

def dpdqFlagBounced : BitVec 8 := 0x01#8
def dpdqFlagNetworkMarked : BitVec 8 := 0x04#8

/-- The state of a port is the lowest bit of its word. -/
theorem fcBit_lt : 0 < 8 := by decide

/-- The mark of an internal header is the highest bit of `DPDQ_META_SHIM`. -/
theorem shimBit_lt : 11 < 16 := by decide

abbrev MacAddr := BitVec 48
abbrev Ipv4Addr := BitVec 32
abbrev PortId := BitVec 9

/-! ## Header types -/

structure Ethernet where
  dstAddr : MacAddr
  srcAddr : MacAddr
  etherType : BitVec 16
  deriving DecidableEq, Repr

structure Ipv4 where
  version : BitVec 4
  ihl : BitVec 4
  diffserv : BitVec 8
  totalLen : BitVec 16
  identification : BitVec 16
  flags : BitVec 3
  fragOffset : BitVec 13
  ttl : BitVec 8
  protocol : BitVec 8
  hdrChecksum : BitVec 16
  srcAddr : Ipv4Addr
  dstAddr : Ipv4Addr
  deriving DecidableEq, Repr

structure Udp where
  srcPort : BitVec 16
  dstPort : BitVec 16
  hdrLength : BitVec 16
  checksum : BitVec 16
  deriving DecidableEq, Repr

/-- The parsed DPDQ prefix. The remaining 12 wire bytes stay in the packet payload. -/
structure DpdqHeader where
  msgType : BitVec 8
  flags : BitVec 8
  reserved : BitVec 16
  credit : BitVec 32
  deriving DecidableEq, Repr

structure DpdqInternal where
  amount : BitVec 32
  subtract : BitVec 1
  updateFc : BitVec 1
  pad : BitVec 6
  deriving DecidableEq, Repr

/-- Prepended only to an egress mirror clone used to synchronize PAUSE state. -/
structure DpdqSync where
  magic : BitVec 16
  port : BitVec 16
  paused : BitVec 8
  pad : BitVec 8
  deriving DecidableEq, Repr

/-- `headers_t`: the headers that are valid, in the order they are emitted. -/
structure Headers where
  dpdqSync : Option DpdqSync := none
  ethernet : Option Ethernet := none
  ipv4 : Option Ipv4 := none
  udp : Option Udp := none
  dpdq : Option DpdqHeader := none
  dpdqInternal : Option DpdqInternal := none
  deriving DecidableEq, Repr

/-! ## Wire layouts -/

section Layouts

open Codec

def Ethernet.fields : BitVec 48 × BitVec 48 × BitVec 16 ≃ Ethernet where
  toFun f := ⟨f.1, f.2.1, f.2.2⟩
  invFun h := (h.dstAddr, h.srcAddr, h.etherType)
  left_inv _ := rfl
  right_inv _ := rfl

def Ipv4.fields : BitVec 4 × BitVec 4 × BitVec 8 × BitVec 16 × BitVec 16 × BitVec 3 ×
    BitVec 13 × BitVec 8 × BitVec 8 × BitVec 16 × BitVec 32 × BitVec 32 ≃ Ipv4 where
  toFun f := ⟨f.1, f.2.1, f.2.2.1, f.2.2.2.1, f.2.2.2.2.1, f.2.2.2.2.2.1, f.2.2.2.2.2.2.1,
    f.2.2.2.2.2.2.2.1, f.2.2.2.2.2.2.2.2.1, f.2.2.2.2.2.2.2.2.2.1, f.2.2.2.2.2.2.2.2.2.2.1,
    f.2.2.2.2.2.2.2.2.2.2.2⟩
  invFun h := (h.version, h.ihl, h.diffserv, h.totalLen, h.identification, h.flags,
    h.fragOffset, h.ttl, h.protocol, h.hdrChecksum, h.srcAddr, h.dstAddr)
  left_inv _ := rfl
  right_inv _ := rfl

def Udp.fields : BitVec 16 × BitVec 16 × BitVec 16 × BitVec 16 ≃ Udp where
  toFun f := ⟨f.1, f.2.1, f.2.2.1, f.2.2.2⟩
  invFun h := (h.srcPort, h.dstPort, h.hdrLength, h.checksum)
  left_inv _ := rfl
  right_inv _ := rfl

def DpdqHeader.fields : BitVec 8 × BitVec 8 × BitVec 16 × BitVec 32 ≃ DpdqHeader where
  toFun f := ⟨f.1, f.2.1, f.2.2.1, f.2.2.2⟩
  invFun h := (h.msgType, h.flags, h.reserved, h.credit)
  left_inv _ := rfl
  right_inv _ := rfl

def DpdqInternal.fields : BitVec 32 × BitVec 1 × BitVec 1 × BitVec 6 ≃ DpdqInternal where
  toFun f := ⟨f.1, f.2.1, f.2.2.1, f.2.2.2⟩
  invFun h := (h.amount, h.subtract, h.updateFc, h.pad)
  left_inv _ := rfl
  right_inv _ := rfl

def DpdqSync.fields : BitVec 16 × BitVec 16 × BitVec 8 × BitVec 8 ≃ DpdqSync where
  toFun f := ⟨f.1, f.2.1, f.2.2.1, f.2.2.2⟩
  invFun h := (h.magic, h.port, h.paused, h.pad)
  left_inv _ := rfl
  right_inv _ := rfl

def Ethernet.codec : Codec Ethernet :=
  ((bits 48).prod <| (bits 48).prod <| bits 16).map Ethernet.fields

def Ipv4.codec : Codec Ipv4 :=
  ((bits 4).prod <| (bits 4).prod <| (bits 8).prod <| (bits 16).prod <| (bits 16).prod <|
    (bits 3).prod <| (bits 13).prod <| (bits 8).prod <| (bits 8).prod <| (bits 16).prod <|
    (bits 32).prod <| bits 32).map Ipv4.fields

def Udp.codec : Codec Udp :=
  ((bits 16).prod <| (bits 16).prod <| (bits 16).prod <| bits 16).map Udp.fields

def DpdqHeader.codec : Codec DpdqHeader :=
  ((bits 8).prod <| (bits 8).prod <| (bits 16).prod <| bits 32).map DpdqHeader.fields

def DpdqInternal.codec : Codec DpdqInternal :=
  ((bits 32).prod <| (bits 1).prod <| (bits 1).prod <| bits 6).map DpdqInternal.fields

def DpdqSync.codec : Codec DpdqSync :=
  ((bits 16).prod <| (bits 16).prod <| (bits 8).prod <| bits 8).map DpdqSync.fields

theorem Ethernet.sized_codec : Ethernet.codec.Sized 112 :=
  ((sized_bits 48).prod ((sized_bits 48).prod (sized_bits 16))).map _

theorem Ipv4.sized_codec : Ipv4.codec.Sized 160 :=
  ((sized_bits 4).prod <| (sized_bits 4).prod <| (sized_bits 8).prod <| (sized_bits 16).prod <|
    (sized_bits 16).prod <| (sized_bits 3).prod <| (sized_bits 13).prod <| (sized_bits 8).prod <|
    (sized_bits 8).prod <| (sized_bits 16).prod <| (sized_bits 32).prod <| sized_bits 32).map _

theorem Udp.sized_codec : Udp.codec.Sized 64 :=
  ((sized_bits 16).prod <| (sized_bits 16).prod <| (sized_bits 16).prod <| sized_bits 16).map _

theorem DpdqHeader.sized_codec : DpdqHeader.codec.Sized 64 :=
  ((sized_bits 8).prod <| (sized_bits 8).prod <| (sized_bits 16).prod <| sized_bits 32).map _

theorem DpdqInternal.sized_codec : DpdqInternal.codec.Sized 40 :=
  ((sized_bits 32).prod <| (sized_bits 1).prod <| (sized_bits 1).prod <| sized_bits 6).map _

end Layouts

/-! ## The IPv4 header checksum -/

/-- One's-complement addition of 16-bit words: the carry is added back. -/
def onesAdd (a b : BitVec 16) : BitVec 16 :=
  let sum := a.toNat + b.toNat
  BitVec.ofNat 16 (sum % 2 ^ 16 + sum / 2 ^ 16)

/-- The `Checksum` unit: the complement of the one's-complement sum of the words. -/
def checksumUpdate (words : List (BitVec 16)) : BitVec 16 := ~~~(words.foldl onesAdd 0#16)

/-- The words that the deparsers hand to `ipv4_checksum.update`. -/
def Ipv4.checksumWords (h : Ipv4) : List (BitVec 16) :=
  [h.version ++ h.ihl ++ h.diffserv, h.totalLen, h.identification, h.flags ++ h.fragOffset,
    h.ttl ++ h.protocol, h.srcAddr.extractLsb' 16 16, h.srcAddr.extractLsb' 0 16,
    h.dstAddr.extractLsb' 16 16, h.dstAddr.extractLsb' 0 16]

def Ipv4.updateChecksum (h : Ipv4) : Ipv4 :=
  { h with hdrChecksum := checksumUpdate h.checksumWords }

@[simp] theorem Ipv4.updateChecksum_protocol (h : Ipv4) :
    h.updateChecksum.protocol = h.protocol := rfl

@[simp] theorem Ipv4.checksumWords_updateChecksum (h : Ipv4) :
    h.updateChecksum.checksumWords = h.checksumWords := rfl

/-- The checksum does not cover itself. -/
@[simp] theorem Ipv4.updateChecksum_idem (h : Ipv4) :
    h.updateChecksum.updateChecksum = h.updateChecksum := by
  rw [updateChecksum, checksumWords_updateChecksum]
  simp only [updateChecksum]

end Dpdq.Tofino
