import Dpdq.Tofino.Headers

/-!
# Parsers and deparsers of the P4 switch

`layerParser` is the parser of `common/parsers.p4` with its five states; the ingress parser
first looks for a synchronisation header on a recirculation port. A packet that ends inside a
header is rejected (`none`).

* `layerParser_emitLayers`: emitting headers that a parse could have produced, in front of any
  payload, and parsing the result gives back these headers and the payload.
* `layered_layerParser`: a packet that is accepted is its headers followed by its payload.
-/

namespace Dpdq.Tofino

open Lib

/-- The packet still to be parsed, behind the headers extracted so far. -/
abbrev Parsed := Option (Headers × Bits)

/-! ## The layer parser -/

def parseDpdqInternal (hdr : Headers) (pkt : Bits) : Parsed :=
  (DpdqInternal.codec.decode pkt).map fun (h, rest) => ({ hdr with dpdqInternal := some h }, rest)

def parseDpdq (hdr : Headers) (pkt : Bits) : Parsed :=
  (DpdqHeader.codec.decode pkt).bind fun (h, rest) =>
    if getElem h.reserved 11 shimBit_lt then parseDpdqInternal { hdr with dpdq := some h } rest
    else some ({ hdr with dpdq := some h }, rest)

def parseUdp (hdr : Headers) (pkt : Bits) : Parsed :=
  (Udp.codec.decode pkt).bind fun (h, rest) =>
    if h.dstPort = dpdqUdpPort then parseDpdq { hdr with udp := some h } rest
    else some ({ hdr with udp := some h }, rest)

def parseIpv4 (hdr : Headers) (pkt : Bits) : Parsed :=
  (Ipv4.codec.decode pkt).bind fun (h, rest) =>
    if h.protocol = ipProtocolUdp then parseUdp { hdr with ipv4 := some h } rest
    else some ({ hdr with ipv4 := some h }, rest)

def parseEthernet (hdr : Headers) (pkt : Bits) : Parsed :=
  (Ethernet.codec.decode pkt).bind fun (h, rest) =>
    if h.etherType = ethertypeIpv4 then parseIpv4 { hdr with ethernet := some h } rest
    else some ({ hdr with ethernet := some h }, rest)

def layerParser (pkt : Bits) : Parsed := parseEthernet {} pkt

/-! ## The ingress and egress parsers -/

def parseSync (pkt : Bits) : Parsed :=
  (DpdqSync.codec.decode pkt).map fun (h, rest) => ({ dpdqSync := some h }, rest)

/-- `pkt.lookahead<bit<16>>()` -/
def lookahead16 (pkt : Bits) : Option (BitVec 16) := ((Codec.bits 16).decode pkt).map Prod.fst

def checkSync (pkt : Bits) : Parsed :=
  (lookahead16 pkt).bind fun magic =>
    if magic = dpdqSyncMagic then parseSync pkt else layerParser pkt

/-- The ingress parser; `dpdqRecircPorts` is the value set of the recirculation port. -/
def ingressParser (dpdqRecircPorts : PortId → Bool) (ingressPort : PortId) (pkt : Bits) : Parsed :=
  if dpdqRecircPorts ingressPort then checkSync pkt else layerParser pkt

def egressParser (pkt : Bits) : Parsed := layerParser pkt

/-! ## Deparsers -/

/-- `pkt.emit`: an invalid header emits nothing. -/
def emit {α : Type} (c : Codec α) : Option α → Bits
  | none => []
  | some h => c.encode h

/-- The headers both deparsers emit, in their order. -/
def emitLayers (hdr : Headers) : Bits :=
  emit Ethernet.codec hdr.ethernet ++ (emit Ipv4.codec hdr.ipv4 ++ (emit Udp.codec hdr.udp ++
    (emit DpdqHeader.codec hdr.dpdq ++ emit DpdqInternal.codec hdr.dpdqInternal)))

def Headers.updateChecksum (hdr : Headers) : Headers :=
  { hdr with ipv4 := hdr.ipv4.map Ipv4.updateChecksum }

def ingressDeparser (hdr : Headers) (payload : Bits) : Bits :=
  emit DpdqSync.codec hdr.dpdqSync ++ (emitLayers hdr.updateChecksum ++ payload)

/-- The packet the egress deparser sends; `dpdqSync` is not emitted. -/
def egressDeparser (hdr : Headers) (payload : Bits) : Bits :=
  emitLayers hdr.updateChecksum ++ payload

/-! ## What a parse produces -/

/-- The headers of an accepted packet: each is present exactly when the one before it says so. -/
inductive Layered : Headers → Prop
  | ethernet {e : Ethernet} (hType : e.etherType ≠ ethertypeIpv4) :
      Layered { ethernet := some e }
  | ipv4 {e : Ethernet} {i : Ipv4} (hType : e.etherType = ethertypeIpv4)
      (hProtocol : i.protocol ≠ ipProtocolUdp) :
      Layered { ethernet := some e, ipv4 := some i }
  | udp {e : Ethernet} {i : Ipv4} {u : Udp} (hType : e.etherType = ethertypeIpv4)
      (hProtocol : i.protocol = ipProtocolUdp) (hPort : u.dstPort ≠ dpdqUdpPort) :
      Layered { ethernet := some e, ipv4 := some i, udp := some u }
  | dpdq {e : Ethernet} {i : Ipv4} {u : Udp} {d : DpdqHeader}
      (hType : e.etherType = ethertypeIpv4) (hProtocol : i.protocol = ipProtocolUdp)
      (hPort : u.dstPort = dpdqUdpPort) (hShim : getElem d.reserved 11 shimBit_lt = false) :
      Layered { ethernet := some e, ipv4 := some i, udp := some u, dpdq := some d }
  | dpdqInternal {e : Ethernet} {i : Ipv4} {u : Udp} {d : DpdqHeader} {n : DpdqInternal}
      (hType : e.etherType = ethertypeIpv4) (hProtocol : i.protocol = ipProtocolUdp)
      (hPort : u.dstPort = dpdqUdpPort) (hShim : getElem d.reserved 11 shimBit_lt = true) :
      Layered { ethernet := some e, ipv4 := some i, udp := some u, dpdq := some d,
                dpdqInternal := some n }

theorem layerParser_emitLayers {hdr : Headers} (h : Layered hdr) (payload : Bits) :
    layerParser (emitLayers hdr ++ payload) = some (hdr, payload) := by
  cases h <;>
    simp [layerParser, parseEthernet, parseIpv4, parseUdp, parseDpdq, parseDpdqInternal,
      emitLayers, emit, Codec.decode_encode, List.append_assoc, *]

theorem layered_layerParser {pkt payload : Bits} {hdr : Headers}
    (h : layerParser pkt = some (hdr, payload)) :
    Layered hdr ∧ pkt = emitLayers hdr ++ payload := by
  simp only [layerParser, parseEthernet, Option.bind_eq_some_iff] at h
  obtain ⟨⟨e, pktE⟩, hE, h⟩ := h
  obtain rfl := Codec.encode_decode _ _ _ _ hE
  split at h
  · rename_i hType
    simp only [parseIpv4, Option.bind_eq_some_iff] at h
    obtain ⟨⟨i, pktI⟩, hI, h⟩ := h
    obtain rfl := Codec.encode_decode _ _ _ _ hI
    split at h
    · rename_i hProtocol
      simp only [parseUdp, Option.bind_eq_some_iff] at h
      obtain ⟨⟨u, pktU⟩, hU, h⟩ := h
      obtain rfl := Codec.encode_decode _ _ _ _ hU
      split at h
      · rename_i hPort
        simp only [parseDpdq, Option.bind_eq_some_iff] at h
        obtain ⟨⟨d, pktD⟩, hD, h⟩ := h
        obtain rfl := Codec.encode_decode _ _ _ _ hD
        split at h
        · rename_i hShim
          simp only [parseDpdqInternal, Option.map_eq_some_iff, Prod.mk.injEq] at h
          obtain ⟨⟨n, pktN⟩, hN, rfl, rfl⟩ := h
          obtain rfl := Codec.encode_decode _ _ _ _ hN
          exact ⟨.dpdqInternal hType hProtocol hPort hShim, by simp [emitLayers, emit]⟩
        · rename_i hShim
          cases h
          exact ⟨.dpdq hType hProtocol hPort (by simpa using hShim), by simp [emitLayers, emit]⟩
      · rename_i hPort
        cases h
        exact ⟨.udp hType hProtocol hPort, by simp [emitLayers, emit]⟩
    · rename_i hProtocol
      cases h
      exact ⟨.ipv4 hType hProtocol, by simp [emitLayers, emit]⟩
  · rename_i hType
    cases h
    exact ⟨.ethernet hType, by simp [emitLayers, emit]⟩

end Dpdq.Tofino
