import Dpdq.Lib.Checked
import Dpdq.Lib.Table
import Dpdq.Ns2.R2p2Hdr

/-!
# The R2P2 layer of a host

`r2p2-server.cc` and `r2p2-client.cc`: what happens to the packets that the congestion control
passes up. Both count the packets of a message and give it to the application once they have as many
as its first packet has told them.
-/

namespace Dpdq.Ns2

open Dpdq.Lib

/-- A request at its server. The expected packets are -1 until the first packet tells them. -/
structure ServerRequestState where
  reqPktsExpected : Int := -1
  reqPktsReceived : Nat := 0
  reqBytesReceived : Nat := 0
  replySent : Bool := false
  oldState : Bool := false
deriving DecidableEq, Repr, Inhabited

/-- The reply to a request at its client. -/
structure ClientRequestState where
  replyPktsToRec : Int := 0
  replyPktsRecvd : Nat := 0
  replyBytesRecvd : Nat := 0
deriving DecidableEq, Repr, Inhabited

structure R2p2Layer where
  server : Table UniqReqId ServerRequestState := Table.empty
  client : Table UniqReqId ClientRequestState := Table.empty

namespace ServerRequestState

/-- A packet of the request is counted. -/
def count (s : ServerRequestState) (pkt : Packet) : ServerRequestState :=
  { s with
    reqPktsExpected := if pkt.first then pkt.pktId + 1 else s.reqPktsExpected
    reqPktsReceived := s.reqPktsReceived + 1
    reqBytesReceived := s.reqBytesReceived + pkt.size }

/-- All packets of the request are there. -/
def isComplete (s : ServerRequestState) : Bool :=
  s.reqPktsExpected ≠ -1 ∧ s.reqPktsExpected = s.reqPktsReceived

end ServerRequestState

namespace R2p2Layer

/-- `handle_request_pkt`, with the size that goes to the application. A second first packet violates
an assertion. -/
def handleRequestPkt (l : R2p2Layer) (pkt : Packet) : Option (R2p2Layer × Option Nat) :=
  match l.server.get? pkt.reqId with
  | some s =>
    if pkt.first ∧ s.reqPktsExpected ≠ -1 then none
    else some ({ l with server := l.server.set pkt.reqId (s.count pkt) },
      if (s.count pkt).isComplete then some (s.count pkt).reqBytesReceived else none)
  | none =>
    let s : ServerRequestState := {}
    some ({ l with server := l.server.set pkt.reqId (s.count pkt) },
      if (s.count pkt).isComplete then some (s.count pkt).reqBytesReceived else none)

/-- `handle_reply_pkt`, with the size that goes to the application. Replies to requests that are not
pending are ignored. -/
def handleReplyPkt (l : R2p2Layer) (pkt : Packet) : R2p2Layer × Option Nat :=
  match l.client.get? pkt.reqId with
  | none => (l, none)
  | some c =>
    let toRec := if pkt.first then pkt.pktId else c.replyPktsToRec
    let isOoo := pkt.first = false ∧ toRec = 0
    let c := { c with
      replyPktsToRec := toRec
      replyPktsRecvd := c.replyPktsRecvd + 1
      replyBytesRecvd := c.replyBytesRecvd + pkt.size }
    if ¬ isOoo ∧ (c.replyPktsRecvd : Int) = c.replyPktsToRec then
      ({ l with client := l.client.erase pkt.reqId }, some c.replyBytesRecvd)
    else ({ l with client := l.client.set pkt.reqId c }, none)

/-- `R2p2::recv` for requests and replies. -/
def recv (l : R2p2Layer) (pkt : Packet) : Option (R2p2Layer × Option Nat) :=
  if pkt.msgType = .request then l.handleRequestPkt pkt
  else if pkt.msgType = .reply then some (l.handleReplyPkt pkt)
  else some (l, none)

/-- `send_req`: the client waits for the reply. -/
def sendReq (l : R2p2Layer) (id : UniqReqId) : R2p2Layer :=
  { l with client := l.client.set id {} }

/-- `send_response` marks the request as answered. -/
def sendResponse (l : R2p2Layer) (id : UniqReqId) : R2p2Layer :=
  match l.server.get? id with
  | none => l
  | some s => { l with server := l.server.set id { s with replySent := true } }

/-- `garbage_collect_state` at one request: the state of an answered request is deleted the second
time. -/
def garbageCollectState (l : R2p2Layer) (id : UniqReqId) : R2p2Layer :=
  match l.server.get? id with
  | none => l
  | some s =>
    if s.replySent then
      if s.oldState then { l with server := l.server.erase id }
      else { l with server := l.server.set id { s with oldState := true } }
    else l

end R2p2Layer

end Dpdq.Ns2
