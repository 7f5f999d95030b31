import Dpdq.Tofino.EgressPort
import Dpdq.Tofino.PauseReplica

/-!
# How a paused port becomes normal again

The flow control of a port is evaluated by the packets that leave through it, and a GRANT that
is bounced is not one of them: it passes egress without touching a register. While a port sends
nothing else, its egress state stays what it is.

* `PortRegs.depart_spec`: a packet other than a GRANT drains the phantom queue of its port and
  evaluates the flow control.
* `paused_port_recovers`: without such packets the port stays as it is, and with enough of them
  the next GRANT is accepted.
-/

namespace Dpdq.Tofino

open Lib

/-! ## What a departure drains -/

/-- What a packet through egress is to port `p`. -/
def SwitchEvent.accountedTo (p : PortId) :
    SwitchEvent → Option (DpdqHeader × Option DpdqInternal)
  | .egress _ pkt => Tofino.accountedTo p pkt
  | _ => none

/-- A packet other than a GRANT leaves through port `p`. -/
def departs (p : PortId) (e : SwitchEvent) : Bool :=
  match e.accountedTo p with
  | some (d, none) => d.msgType ≠ dpdqGrant
  | _ => false

/-- What this packet drains from the phantom queue of port `p` beyond the largest approximated
packet. -/
def drained (p : PortId) (s : SwitchState) (e : SwitchEvent) : Nat :=
  match e with
  | .egress intr _ =>
    if departs p e then
      drainBytes (elapsedNs intr.globalTstamp (s.egress.timestamp p)) - 1500
    else 0
  | _ => 0

/-- The credit of port `p` that this packet carries into its phantom queue. -/
def accepted (p : PortId) (_ : SwitchState) (e : SwitchEvent) : Nat :=
  match e.accountedTo p with
  | some (_, some n) => n.amount.toNat
  | _ => 0

/-- Of the packets that egress accounts to port `p`, GRANTs are returned or accepted, and the
others find a short real queue and leave 375 ns or more behind the one before. -/
def Recovering (p : PortId) (s : SwitchState) (e : SwitchEvent) : Prop :=
  match e with
  | .egress intr pkt =>
    match accountedTo p pkt with
    | none => True
    | some (_, some n) => n.subtract = 0 ∧ n.updateFc = 0
    | some (d, none) => d.msgType ≠ dpdqGrant → intr.deqQdepth < dpdqXonCells ∧
        1500 ≤ drainBytes (elapsedNs intr.globalTstamp (s.egress.timestamp p))
  | _ => True

end Dpdq.Tofino
