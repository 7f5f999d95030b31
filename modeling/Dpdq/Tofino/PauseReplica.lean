import Dpdq.Tofino.Switch

/-!
# The PAUSE state of the two pipelines

The switch simulates a bit replicated over a FIFO channel (`Lib.ReplicaChannel`), with one bit
for each port: the egress register is the primary, the ingress register is the replica and the
clones are the notifications. Every packet through egress is one write, every delivery one
delivery, and no other packet does anything to the replica.
-/

namespace Dpdq.Tofino

open Lib
open Lib.ReplicaChannel (Alternates historyOf lastOf)

/-- What a notification says: the port, and whether it is now paused. -/
def DpdqSync.notification (n : DpdqSync) : PortId × Bool :=
  (n.port.setWidth 9, getElem n.paused 0 fcBit_lt)

/-- The state bits that a log of notifications carries for port `p`, oldest first. -/
def fcHistory (p : PortId) (log : List DpdqSync) : List Bool :=
  historyOf p (log.map DpdqSync.notification)

/-- The last state bit that a log carries for port `p`, `false` when it has none. -/
def lastFc (p : PortId) (log : List DpdqSync) : Bool :=
  lastOf p (log.map DpdqSync.notification)

theorem fcWord_getElem_zero (b : Bool) : getElem (fcWord b) 0 fcBit_lt = b := by
  cases b <;> rfl

theorem notification_syncOf (p : PortId) (b : Bool) : (syncOf p b).notification = (p, b) := by
  have hPort : (p.setWidth 16).setWidth 9 = p := by
    ext i hi
    simp
  simp only [DpdqSync.notification, syncOf, hPort, fcWord_getElem_zero]

/-- The switch state `s` seen as the replicated bits `a`. -/
structure Replicates (s : SwitchState) (a : ReplicaChannel.State PortId) : Prop where
  ingress_eq : ∀ p, s.ingressFc p = fcWord (a.replica p)
  egress_eq : ∀ p, s.egress.portFc p = fcWord (a.primary p)
  inFlight_eq : s.inFlight.map DpdqSync.notification = a.inFlight
  magic : ∀ n ∈ s.inFlight, n.magic = dpdqSyncMagic
  emitted_eq : s.emitted.map DpdqSync.notification = a.emitted
  delivered_eq : s.delivered.map DpdqSync.notification = a.delivered

theorem replicates_init (T : Tables) :
    Replicates (switch T).init (ReplicaChannel.machine PortId).init :=
  ⟨fun _ => rfl, fun _ => rfl, rfl, by simp [switch], rfl, rfl⟩

theorem Replicates.ingress {T : Tables} {s t : SwitchState} {a : ReplicaChannel.State PortId}
    {port : PortId} {pkt : Bits} (h : Replicates s a)
    (hStep : s.step T (.ingress port pkt) = some t) : Replicates t a := by
  simp only [SwitchState.step] at hStep
  split at hStep
  · cases hStep
  · rename_i hSync
    cases hStep
    refine ⟨fun p => ?_, h.egress_eq, h.inFlight_eq, h.magic, h.emitted_eq, h.delivered_eq⟩
    dsimp only
    rw [ingressPipe_fcReg (by simpa using hSync)]
    exact h.ingress_eq p

theorem Replicates.egress {T : Tables} {s t : SwitchState} {a : ReplicaChannel.State PortId}
    {intr : EgressIntrinsic} {pkt : Bits} (h : Replicates s a)
    (hStep : s.step T (.egress intr pkt) = some t) :
    ∃ p b, Replicates t (ReplicaChannel.write a p b) := by
  simp only [SwitchState.step, Option.some.injEq] at hStep
  subst hStep
  obtain ⟨p, b, hReg, hSync⟩ := egressPipe_wrote (T := T) intr pkt h.egress_eq
  refine ⟨p, b, ?_⟩
  rw [ReplicaChannel.write]
  split
  · rename_i hSame
    simp only [hSync, if_pos hSame, Option.toList_none, List.append_nil]
    refine ⟨h.ingress_eq, fun q => ?_, h.inFlight_eq, h.magic, h.emitted_eq, h.delivered_eq⟩
    rw [hReg q]
    split
    · subst q
      rw [hSame]
    · rfl
  · rename_i hNew
    simp only [hSync, if_neg hNew, Option.toList_some]
    refine ⟨h.ingress_eq, hReg, ?_, ?_, ?_, h.delivered_eq⟩
    · simp [h.inFlight_eq, notification_syncOf]
    · intro n hn
      rcases List.mem_append.mp hn with hOld | hHere
      · exact h.magic n hOld
      · rw [List.mem_singleton.mp hHere]
        rfl
    · simp [h.emitted_eq, notification_syncOf]

theorem Replicates.deliver {T : Tables} {s t : SwitchState} {a : ReplicaChannel.State PortId}
    {port : PortId} {body : Bits} (h : Replicates s a)
    (hStep : s.step T (.deliver port body) = some t) :
    ∃ a', ReplicaChannel.deliver a = some a' ∧ Replicates t a' := by
  simp only [SwitchState.step] at hStep
  split at hStep
  · cases hStep
  · rename_i sync rest hFlight
    split at hStep
    · rename_i hPort
      cases hStep
      have hHead : a.inFlight = sync.notification :: rest.map DpdqSync.notification := by
        rw [← h.inFlight_eq, hFlight, List.map_cons]
      have hMagic : sync.magic = dpdqSyncMagic := h.magic sync (by simp [hFlight])
      refine ⟨_, ReplicaChannel.deliver_of_cons hHead, ?_, h.egress_eq, rfl, ?_, h.emitted_eq, ?_⟩
      · intro p
        simp only [ingressPipe_sync s.ingressFc hPort hMagic]
        split
        · rfl
        · exact h.ingress_eq p
      · intro n hn
        exact h.magic n (by simp [hFlight, hn])
      · rw [List.map_append, h.delivered_eq]
        rfl
    · cases hStep

/-- Ingress packets do nothing, egress packets write and deliveries deliver. -/
def replicaSimulation (T : Tables) :
    Simulation (switch T) (ReplicaChannel.machine PortId) where
  rel := Replicates
  init := replicates_init T
  step s a e t h hStep := by
    cases e with
    | ingress port pkt => exact ⟨[], a, rfl, h.ingress hStep⟩
    | egress intr pkt =>
      obtain ⟨p, b, hWrite⟩ := h.egress hStep
      exact ⟨[.write p b], _, rfl, hWrite⟩
    | deliver port body =>
      obtain ⟨a', hDeliver, ht⟩ := h.deliver hStep
      refine ⟨[.deliver], a', ?_, ht⟩
      simpa [Machine.run, ReplicaChannel.machine] using hDeliver

/-- A step other than a delivery. -/
def SwitchEvent.isDeliver : SwitchEvent → Bool
  | .deliver _ _ => true
  | _ => false

theorem step_ingressFc {T : Tables} {s t : SwitchState} {e : SwitchEvent}
    (hEvent : e.isDeliver = false) (hStep : s.step T e = some t) : t.ingressFc = s.ingressFc := by
  cases e with
  | ingress port pkt =>
    simp only [SwitchState.step] at hStep
    split at hStep
    · cases hStep
    · rename_i hSync
      cases hStep
      exact ingressPipe_fcReg (by simpa using hSync)
  | egress intr pkt =>
    cases hStep
    rfl
  | deliver port body => cases hEvent

/-- **PAUSE replica agreement.** In every reachable state and for every port: the ingress
replica is the bit of the last notification delivered; the notifications emitted alternate,
PAUSE first; with none of them under way the two pipelines agree; and only a delivery changes
the replica. -/
theorem pause_replica_agreement (T : Tables) {s : SwitchState} (hReach : (switch T).Reachable s)
    (p : PortId) :
    s.ingressFc p = fcWord (lastFc p s.delivered) ∧
    Alternates (fcHistory p s.emitted) ∧
    ((∀ n ∈ s.inFlight, n.notification.1 ≠ p) → s.ingressFc p = s.egress.portFc p) ∧
    ∀ e t, e.isDeliver = false → s.step T e = some t → t.ingressFc = s.ingressFc := by
  obtain ⟨a, hAbstract, hRel⟩ := (replicaSimulation T).reachable hReach
  have hInv := ReplicaChannel.inv_of_reachable hAbstract
  refine ⟨?_, ?_, fun hIdle => ?_, fun e t => step_ingressFc⟩
  · rw [hRel.ingress_eq, hInv.replica_eq, lastFc, hRel.delivered_eq]
  · rw [fcHistory, hRel.emitted_eq]
    exact hInv.alternates p
  · have hAgree : a.replica p = a.primary p := by
      apply hInv.agree
      rw [← hRel.inFlight_eq]
      simpa using hIdle
    rw [hRel.ingress_eq, hRel.egress_eq, hAgree]

/-! ## A port that becomes paused -/

/-- No routes and no size classes; port 68 is the recirculation port. -/
def bareTables : Tables where
  dpdqRecircPorts port := port = 68
  ipv4Forward _ := none
  packetClassify _ _ := none
  approximateEffect _ _ := none

/-- The headers of a REPLY, addressed to the phantom queue of port 3. -/
def replyHeaders : Headers where
  ethernet := some ⟨1, 2, ethertypeIpv4⟩
  ipv4 := some ⟨4, 5, 0, 48, 0, 0, 0, 64, ipProtocolUdp, 0, 10, 20⟩
  udp := some ⟨5, dpdqUdpPort, 28, 0⟩
  dpdq := some ⟨dpdqReply, 0, 3, 0⟩

/-- The real queue of port 3 stands above the XOFF cells when the REPLY leaves, and the clone
reaches the ingress. -/
def pauseEvents : List SwitchEvent :=
  [.egress ⟨3000, 1⟩ (emitLayers replyHeaders), .deliver 68 []]

theorem pause_replica_agreement_after_pause :
    ∃ s, (switch bareTables).run (switch bareTables).init pauseEvents = some s ∧
      s.ingressFc 3 = fcWord (lastFc 3 s.delivered) ∧
      Alternates (fcHistory 3 s.emitted) ∧
      ((∀ n ∈ s.inFlight, n.notification.1 ≠ 3) → s.ingressFc 3 = s.egress.portFc 3) ∧
      ∀ e t, e.isDeliver = false → s.step bareTables e = some t → t.ingressFc = s.ingressFc :=
  ⟨_, rfl, pause_replica_agreement bareTables ⟨pauseEvents, rfl⟩ 3⟩

example : ((switch bareTables).run (switch bareTables).init pauseEvents).map
    (fun s => (s.ingressFc 3, s.inFlight.length, s.delivered.length)) = some (1, 0, 1) := by
  rfl

end Dpdq.Tofino
