import Dpdq.Tofino.PhantomQueue

/-!
# A GRANT on its way through a network

A GRANT goes from switch to switch towards the sender of the data. Each of them accepts it into the
phantom queue of the port on which the data will leave, until one of them finds this port paused and
returns the GRANT. The returned GRANT goes back through the same switches. Between its two visits,
and after the only one, a switch sends any other packets.

* `grant_route`: either all switches accept the GRANT and it gets to the sender, or it gets back to
  the receiver and leaves no credit in any phantom queue on its way.
-/

namespace Dpdq.Tofino

open Lib SaturatingCounter

/-! ## Packets -/

namespace GrantPacket

/-- The GRANT that a switch routes on. -/
def next (g : GrantPacket) (srcMac dstMac : MacAddr) : GrantPacket where
  ethernet := g.routedEthernet srcMac dstMac
  ipv4 := g.routedIpv4.updateChecksum
  udp := g.udp
  dpdq := { g.dpdq with reserved := 0 }
  payload := g.payload
  etherType_eq := g.etherType_eq
  protocol_eq := g.protocol_eq
  dstPort_eq := g.dstPort_eq
  msgType_eq := g.msgType_eq
  reserved_eq := rfl

/-- The GRANT that a switch returns. -/
def bounce (g : GrantPacket) : GrantPacket where
  ethernet := g.swappedEthernet
  ipv4 := g.swappedIpv4.updateChecksum
  udp := g.clearedUdp
  dpdq := { g.dpdq with flags := g.dpdq.flags ||| dpdqFlagBounced, reserved := 0 }
  payload := g.payload
  etherType_eq := g.etherType_eq
  protocol_eq := g.protocol_eq
  dstPort_eq := g.dstPort_eq
  msgType_eq := g.msgType_eq
  reserved_eq := rfl

theorem isBounced_bounce (g : GrantPacket) : g.bounce.isBounced = true := by
  have hFlag : ∀ flags : BitVec 8, (flags ||| dpdqFlagBounced) &&& dpdqFlagBounced ≠ 0 := by
    decide +kernel
  exact decide_eq_true (hFlag g.dpdq.flags)

/-- The same credit on the same way. -/
structure Carries (g g' : GrantPacket) : Prop where
  isBounced : g'.isBounced = g.isBounced
  credit : g'.dpdq.credit = g.dpdq.credit
  payload : g'.payload = g.payload
  srcAddr : g'.ipv4.srcAddr = g.ipv4.srcAddr
  dstAddr : g'.ipv4.dstAddr = g.ipv4.dstAddr

theorem Carries.refl (g : GrantPacket) : g.Carries g := ⟨rfl, rfl, rfl, rfl, rfl⟩

theorem Carries.trans {g g' g'' : GrantPacket} (h : g.Carries g') (h' : g'.Carries g'') :
    g.Carries g'' where
  isBounced := h'.isBounced.trans h.isBounced
  credit := h'.credit.trans h.credit
  payload := h'.payload.trans h.payload
  srcAddr := h'.srcAddr.trans h.srcAddr
  dstAddr := h'.dstAddr.trans h.dstAddr

theorem carries_next (g : GrantPacket) (srcMac dstMac : MacAddr) :
    g.Carries (g.next srcMac dstMac) := ⟨rfl, rfl, rfl, rfl, rfl⟩

/-- The same credit on its way back. -/
structure Returns (g g' : GrantPacket) : Prop where
  isBounced : g'.isBounced = true
  credit : g'.dpdq.credit = g.dpdq.credit
  payload : g'.payload = g.payload
  srcAddr : g'.ipv4.srcAddr = g.ipv4.dstAddr
  dstAddr : g'.ipv4.dstAddr = g.ipv4.srcAddr

theorem returns_bounce (g : GrantPacket) : g.Returns g.bounce :=
  ⟨g.isBounced_bounce, rfl, rfl, rfl, rfl⟩

theorem Carries.returns {g g' g'' : GrantPacket} (h : g.Carries g') (h' : g'.Returns g'') :
    g.Returns g'' where
  isBounced := h'.isBounced
  credit := h'.credit.trans h.credit
  payload := h'.payload.trans h.payload
  srcAddr := h'.srcAddr.trans h.dstAddr
  dstAddr := h'.dstAddr.trans h.srcAddr

theorem Returns.carries {g g' g'' : GrantPacket} (h : g.Returns g') (h' : g'.Carries g'') :
    g.Returns g'' where
  isBounced := h'.isBounced.trans h.isBounced
  credit := h'.credit.trans h.credit
  payload := h'.payload.trans h.payload
  srcAddr := h'.srcAddr.trans h.srcAddr
  dstAddr := h'.dstAddr.trans h.dstAddr

end GrantPacket

/-! ## Switches on the way -/

/-- A switch on the way of a GRANT: its ports towards the receiver and the sender, and what the GRANT
finds there on its first visit and on its way back. -/
structure RouteHop where
  T : Tables
  inPort : PortId
  outPort : PortId
  fcReg : Register 8
  regs : EgressRegs
  intr : EgressIntrinsic
  /-- The packets that egress sends behind the first visit. -/
  between : List (EgressIntrinsic × Bits)
  backFcReg : Register 8
  backIntr : EgressIntrinsic

inductive RouteEnd where
  /-- The sender of the data gets the packet. -/
  | delivered (pkt : Bits)
  /-- The receiver gets it back. -/
  | returned (pkt : Bits)
  | lost

namespace RouteHop

/-- The registers of a switch that the GRANT does not visit. -/
def idle (h : RouteHop) : EgressRegs := egressRun h.T h.regs h.between

/-- Routed out the port it came from towards the receiver. -/
def handBack (h : RouteHop) (t : Traversal) : RouteEnd :=
  match t.packet with
  | none => .lost
  | some (port, pkt) => if port = h.inPort then .returned pkt else .lost

end RouteHop

/-- The registers of all switches in the end, and what becomes of the packet. -/
def walk : List RouteHop → Bits → List EgressRegs × RouteEnd
  | [], pkt => ([], .delivered pkt)
  | h :: hs, pkt =>
    let t := traverse h.T h.intr h.fcReg h.regs h.inPort pkt
    let regs := egressRun h.T t.egress h.between
    match t.packet with
    | none => (regs :: hs.map RouteHop.idle, .lost)
    | some (port, pkt) =>
      if port = h.outPort then
        let rest := walk hs pkt
        match rest.2 with
        | .returned back =>
          let t := traverse h.T h.backIntr h.backFcReg regs h.outPort back
          (t.egress :: rest.1, h.handBack t)
        | .delivered pkt => (regs :: rest.1, .delivered pkt)
        | .lost => (regs :: rest.1, .lost)
      else (regs :: hs.map RouteHop.idle, h.handBack t)

/-- The switch routes between the two hosts through its two ports, and neither of them is used for
notifications. -/
structure RouteHop.Routes (h : RouteHop) (sender receiver : BitVec 32) : Prop where
  inPort : h.T.dpdqRecircPorts h.inPort = false
  outPort : h.T.dpdqRecircPorts h.outPort = false
  ports_ne : h.inPort ≠ h.outPort
  out : ∃ srcMac dstMac, h.T.ipv4Forward sender = some (.forward h.outPort srcMac dstMac)
  back : ∃ srcMac dstMac, h.T.ipv4Forward receiver = some (.forward h.inPort srcMac dstMac)

/-! ## The registers of one switch -/

/-- What other packets do to the registers of a port depends on these registers alone. -/
theorem egressRun_port_congr {T : Tables} {regs regs' : EgressRegs} {q : PortId}
    (h : regs'.port q = regs.port q) (pkts : List (EgressIntrinsic × Bits)) :
    (egressRun T regs' pkts).port q = (egressRun T regs pkts).port q := by
  induction pkts generalizing regs regs' with
  | nil => exact h
  | cons x pkts ih =>
    rw [egressRun_cons, egressRun_cons]
    apply ih
    rw [egressPipe_port, egressPipe_port, h]

theorem fcEvaluation_of_ne {depth : BitVec 19} {qp : BitVec 32} {p q : PortId}
    {portFc : Register 8} (h : q ≠ p) : (fcEvaluation depth qp p portFc).1 q = portFc q := by
  unfold fcEvaluation
  exact Register.execute_of_ne portFc _ h

namespace RouteHop

variable {h : RouteHop} {c : BitVec 32}

/-- The registers behind an accepted GRANT. -/
def accepted (h : RouteHop) (c : BitVec 32) : EgressRegs :=
  { h.regs with portQp := fun q =>
      if q = h.inPort then h.regs.portQp q + c else h.regs.portQp q }

/-- Neither the GRANT nor any other packet adds so much that the phantom queue reaches 2 ^ 32. -/
def Fits (h : RouteHop) (c : BitVec 32) : Prop :=
  (h.regs.portQp h.inPort).toNat + c.toNat < 2 ^ 32 ∧
    AddsFit h.T h.inPort (h.accepted c) h.between

instance (h : RouteHop) (c : BitVec 32) : Decidable (h.Fits c) :=
  inferInstanceAs (Decidable (_ ∧ _))

/-- The other ports do not notice the GRANT. -/
def Confined (h : RouteHop) (regs : EgressRegs) : Prop :=
  ∀ q, q ≠ h.inPort → regs.port q = h.idle.port q

/-- The GRANT has added its credit, and no more. -/
def Charged (c : BitVec 32) (h : RouteHop) (regs : EgressRegs) : Prop :=
  h.Confined regs ∧ (h.Fits c → h.idle.portQp h.inPort ≤ regs.portQp h.inPort ∧
    (regs.portQp h.inPort).toNat ≤ (h.idle.portQp h.inPort).toNat + c.toNat)

/-- The GRANT has left no credit. -/
def Clean (c : BitVec 32) (h : RouteHop) (regs : EgressRegs) : Prop :=
  h.Confined regs ∧ (h.Fits c → regs.portQp h.inPort ≤ h.idle.portQp h.inPort)

theorem clean_idle (c : BitVec 32) (h : RouteHop) : h.Clean c h.idle :=
  ⟨fun _ _ => rfl, fun _ => Nat.le_refl _⟩

theorem accepted_port {q : PortId} (hOther : q ≠ h.inPort) :
    (h.accepted c).port q = h.regs.port q := by
  unfold EgressRegs.port accepted
  dsimp only
  rw [if_neg hOther]

/-- The phantom queue with the credit of the GRANT and without it, as two runs of one counter. -/
theorem exists_updates (hFits : h.Fits c) : ∃ us,
    ((egressRun h.T (h.accepted c) h.between).portQp h.inPort).toNat =
      SaturatingCounter.run us ((h.regs.portQp h.inPort).toNat + c.toNat) ∧
    (h.idle.portQp h.inPort).toNat =
      SaturatingCounter.run us (h.regs.portQp h.inPort).toNat := by
  obtain ⟨hAdd, hAdds⟩ := hFits
  have hQp : ((h.accepted c).portQp h.inPort).toNat =
      (h.regs.portQp h.inPort).toNat + c.toNat := by
    unfold accepted
    dsimp only
    rw [if_pos rfl, BitVec.toNat_add, Nat.mod_eq_of_lt hAdd]
  have hSame : queueUpdates h.T h.inPort ((h.accepted c).port h.inPort) h.between =
      queueUpdates h.T h.inPort (h.regs.port h.inPort) h.between := by
    have hTime : ((h.accepted c).port h.inPort).tstamp = (h.regs.port h.inPort).tstamp := rfl
    exact queueUpdates_congr hTime h.between
  rw [addsFit_iff, hSame, hQp] at hAdds
  have hIdle := hAdds.mono (Nat.le_add_right _ c.toNat)
  refine ⟨queueUpdates h.T h.inPort (h.regs.port h.inPort) h.between, ?_, egressRun_portQp hIdle⟩
  rw [egressRun_portQp (by rw [hSame, hQp]; exact hAdds), hSame, hQp]

theorem charged_accepted (h : RouteHop) (c : BitVec 32) :
    h.Charged c (egressRun h.T (h.accepted c) h.between) := by
  refine ⟨fun q hOther => egressRun_port_congr (accepted_port hOther) h.between, fun hFits => ?_⟩
  obtain ⟨us, hWith, hWithout⟩ := exists_updates hFits
  rw [BitVec.le_def, hWith, hWithout]
  exact ⟨run_mono us (Nat.le_add_right _ _), run_add_le us _ _⟩

/-- The registers behind a GRANT that is revoked where it was accepted. -/
def revoked (h : RouteHop) (c : BitVec 32) : EgressRegs :=
  let regs := egressRun h.T (h.accepted c) h.between
  let qp := BitVec.ofNat 32 ((regs.portQp h.inPort).toNat - c.toNat)
  { regs with
    portQp := fun q => if q = h.inPort then qp else regs.portQp q
    portFc := (fcEvaluation h.backIntr.deqQdepth qp h.inPort regs.portFc).1 }

theorem clean_revoked (h : RouteHop) (c : BitVec 32) : h.Clean c (h.revoked c) := by
  constructor
  · intro q hOther
    have hRun : (egressRun h.T (h.accepted c) h.between).port q = h.idle.port q :=
      egressRun_port_congr (accepted_port hOther) h.between
    rw [← hRun]
    unfold EgressRegs.port revoked
    dsimp only
    rw [if_neg hOther, fcEvaluation_of_ne hOther]
  · intro hFits
    obtain ⟨us, hWith, hWithout⟩ := exists_updates hFits
    have hQp : ((h.revoked c).portQp h.inPort).toNat =
        SaturatingCounter.run us ((h.regs.portQp h.inPort).toNat + c.toNat) - c.toNat := by
      unfold revoked
      dsimp only
      rw [if_pos rfl, BitVec.toNat_ofNat, hWith, Nat.mod_eq_of_lt]
      have hBound := ((egressRun h.T (h.accepted c) h.between).portQp h.inPort).isLt
      omega
    rw [BitVec.le_def, hQp, hWithout]
    exact tsub_le_iff_right.mpr (run_add_le us _ _)

end RouteHop

/-! ## The whole way -/

/-- The switch finds the port of the GRANT paused. -/
def RouteHop.Paused (h : RouteHop) : Prop := getElem (h.fcReg h.inPort) 0 fcBit_lt = true

/-- All switches have accepted the GRANT, which gets to the sender. -/
def Delivered (hops : List RouteHop) (g : GrantPacket) : Prop :=
  (∀ h ∈ hops, ¬ h.Paused) ∧ ∃ g', g.Carries g' ∧ (walk hops g.bits).2 = .delivered g'.bits ∧
    List.Forall₂ (RouteHop.Charged g.dpdq.credit) hops (walk hops g.bits).1

/-- A switch has returned the GRANT, which gets back to the receiver. -/
def Returned (hops : List RouteHop) (g : GrantPacket) : Prop :=
  (∃ h ∈ hops, h.Paused) ∧ ∃ g', g.Returns g' ∧ (walk hops g.bits).2 = .returned g'.bits ∧
    List.Forall₂ (RouteHop.Clean g.dpdq.credit) hops (walk hops g.bits).1

theorem readsAsSync_of_port {T : Tables} {port : PortId} (h : T.dpdqRecircPorts port = false)
    (pkt : Bits) : readsAsSync T port pkt = false := by
  rw [readsAsSync, h, Bool.false_and]

theorem forall₂_idle (c : BitVec 32) (hops : List RouteHop) :
    List.Forall₂ (RouteHop.Clean c) hops (hops.map RouteHop.idle) := by
  induction hops with
  | nil => exact List.Forall₂.nil
  | cons h hops ih => exact List.Forall₂.cons (RouteHop.clean_idle c h) ih

/-- A paused switch returns the GRANT at once. -/
theorem walk_paused {h : RouteHop} {g : GrantPacket}
    (hRoutes : h.Routes g.ipv4.dstAddr g.ipv4.srcAddr) (hUnbounced : g.isBounced = false)
    (hPause : h.Paused) (hops : List RouteHop) :
    walk (h :: hops) g.bits = (h.idle :: hops.map RouteHop.idle, .returned g.bounce.bits) := by
  have hVisit : traverse h.T h.intr h.fcReg h.regs h.inPort g.bits =
      ⟨h.fcReg, h.regs, none, some (h.inPort, g.returned)⟩ :=
    traverse_bounced (readsAsSync_of_port hRoutes.inPort g.bits) hUnbounced hPause
  unfold walk RouteHop.handBack
  rw [hVisit]
  dsimp only
  rw [if_neg hRoutes.ports_ne, if_pos rfl]
  rfl

/-- A switch that is not paused accepts the GRANT, and takes the credit back when it comes back. -/
theorem walk_accepted {h : RouteHop} {g : GrantPacket}
    (hRoutes : h.Routes g.ipv4.dstAddr g.ipv4.srcAddr) (hUnbounced : g.isBounced = false)
    (hNormal : ¬ h.Paused) (hops : List RouteHop) :
    ∃ srcMac dstMac, walk (h :: hops) g.bits =
      match (walk hops (g.next srcMac dstMac).bits).2 with
      | .returned back =>
        let t := traverse h.T h.backIntr h.backFcReg
          (egressRun h.T (h.accepted g.dpdq.credit) h.between) h.outPort back
        (t.egress :: (walk hops (g.next srcMac dstMac).bits).1, h.handBack t)
      | .delivered pkt =>
        (egressRun h.T (h.accepted g.dpdq.credit) h.between ::
          (walk hops (g.next srcMac dstMac).bits).1, .delivered pkt)
      | .lost =>
        (egressRun h.T (h.accepted g.dpdq.credit) h.between ::
          (walk hops (g.next srcMac dstMac).bits).1, .lost) := by
  obtain ⟨srcMac, dstMac, hOut⟩ := hRoutes.out
  have hVisit : traverse h.T h.intr h.fcReg h.regs h.inPort g.bits =
      ⟨h.fcReg, h.accepted g.dpdq.credit, none, some (h.outPort, g.routed srcMac dstMac)⟩ :=
    traverse_accepted (readsAsSync_of_port hRoutes.inPort g.bits) hUnbounced
      (Bool.eq_false_of_not_eq_true hNormal) hOut
  refine ⟨srcMac, dstMac, ?_⟩
  rw [walk, hVisit]
  dsimp only
  rw [if_pos rfl]
  rfl

/-- The way back through a switch that has accepted the GRANT. -/
theorem handBack_revoked {h : RouteHop} {g g' : GrantPacket}
    (hRoutes : h.Routes g.ipv4.dstAddr g.ipv4.srcAddr) (hReturns : g.Returns g') :
    ∃ srcMac dstMac,
      let t := traverse h.T h.backIntr h.backFcReg
        (egressRun h.T (h.accepted g.dpdq.credit) h.between) h.outPort g'.bits
      t.egress = h.revoked g.dpdq.credit ∧ h.handBack t = .returned (g'.next srcMac dstMac).bits := by
  obtain ⟨srcMac, dstMac, hBack⟩ := hRoutes.back
  rw [← hReturns.dstAddr] at hBack
  have hRevoked (regs : EgressRegs) :=
    @traverse_revoked h.T h.backIntr h.backFcReg regs h.outPort g'
      (readsAsSync_of_port hRoutes.outPort g'.bits) hReturns.isBounced h.inPort srcMac dstMac hBack
  have hVisit := hRevoked (egressRun h.T (h.accepted g.dpdq.credit) h.between)
  rw [hReturns.credit] at hVisit
  refine ⟨srcMac, dstMac, ?_⟩
  dsimp only at hVisit ⊢
  rw [hVisit]
  refine ⟨rfl, ?_⟩
  unfold RouteHop.handBack
  dsimp only
  rw [if_pos rfl]
  rfl

/-- **The life of a GRANT in the network.** Whatever the switches on its way send in between, either
none of them is paused, each has added the credit to the phantom queue of one port and the GRANT gets
to the sender of the data, or the GRANT gets back to the receiver, marked and with the addresses
swapped, and no phantom queue on its way is longer than without it. -/
theorem grant_route (g : GrantPacket) (hUnbounced : g.isBounced = false) (hops : List RouteHop)
    (hRoutes : ∀ h ∈ hops, h.Routes g.ipv4.dstAddr g.ipv4.srcAddr) :
    Delivered hops g ∨ Returned hops g := by
  induction hops generalizing g with
  | nil =>
    refine Or.inl ⟨fun h hIn => absurd hIn List.not_mem_nil, g, GrantPacket.Carries.refl g, rfl, ?_⟩
    exact List.Forall₂.nil
  | cons h hops ih =>
    have hHere := hRoutes h (List.mem_cons_self ..)
    by_cases hPause : h.Paused
    · have hWalk := walk_paused hHere hUnbounced hPause hops
      refine Or.inr ⟨⟨h, List.mem_cons_self .., hPause⟩, g.bounce, g.returns_bounce, ?_, ?_⟩
      · rw [hWalk]
      · rw [hWalk]
        exact List.Forall₂.cons (RouteHop.clean_idle _ h) (forall₂_idle _ hops)
    · obtain ⟨srcMac, dstMac, hWalk⟩ := walk_accepted hHere hUnbounced hPause hops
      have hNext := g.carries_next srcMac dstMac
      have hRest := ih (g.next srcMac dstMac) hUnbounced
        (fun h' hIn => hRoutes h' (List.mem_cons_of_mem _ hIn))
      rcases hRest with ⟨hNormal, g', hCarries, hEnd, hRegs⟩ | ⟨⟨h', hIn, hPaused⟩, g', hBack,
        hEnd, hRegs⟩
      · rw [hEnd] at hWalk
        refine Or.inl ⟨?_, g', hNext.trans hCarries, ?_, ?_⟩
        · intro h' hIn
          rcases List.mem_cons.mp hIn with rfl | hIn
          · exact hPause
          · exact hNormal h' hIn
        · rw [hWalk]
        · rw [hWalk]
          exact List.Forall₂.cons (h.charged_accepted _) hRegs
      · rw [hEnd] at hWalk
        obtain ⟨backSrc, backDst, hRevoked, hReturned⟩ :=
          handBack_revoked hHere (hNext.returns hBack)
        dsimp only at hWalk
        rw [hRevoked, hReturned] at hWalk
        refine Or.inr ⟨⟨h', List.mem_cons_of_mem _ hIn, hPaused⟩, g'.next backSrc backDst,
          (hNext.returns hBack).carries (g'.carries_next backSrc backDst), ?_, ?_⟩
        · rw [hWalk]
        · rw [hWalk]
          exact List.Forall₂.cons (h.clean_revoked _) hRegs

/-- Host 20 is reached through port 2, all others through port 1. -/
def lineTables : Tables :=
  { oneRoute with ipv4Forward := fun dst => some (.forward (if dst = 20 then 2 else 1) 0x11 0x22) }

/-- A switch that a REPLY leaves between the two visits. -/
def lineHop (paused : BitVec 8) : RouteHop where
  T := lineTables
  inPort := 1
  outPort := 2
  fcReg _ := paused
  regs := {}
  intr := ⟨0, 1000⟩
  between := [(⟨0, 1300⟩, departingReply 0x0401)]
  backFcReg _ := paused
  backIntr := ⟨0, 2000⟩

theorem lineHop_routes (paused : BitVec 8) : (lineHop paused).Routes 20 10 where
  inPort := rfl
  outPort := rfl
  ports_ne := by
    show (1 : PortId) ≠ 2
    decide
  out := ⟨0x11, 0x22, rfl⟩
  back := ⟨0x11, 0x22, rfl⟩

/-- The second switch returns the GRANT that the first has accepted. -/
theorem grant_route_returned : Returned [lineHop 0, lineHop 1] sampleGrant := by
  have hRoutes : ∀ h ∈ [lineHop 0, lineHop 1],
      h.Routes sampleGrant.ipv4.dstAddr sampleGrant.ipv4.srcAddr := by
    intro h hIn
    rcases List.mem_cons.mp hIn with rfl | hIn
    · exact lineHop_routes 0
    · rw [List.mem_singleton.mp hIn]
      exact lineHop_routes 1
  rcases grant_route sampleGrant rfl [lineHop 0, lineHop 1] hRoutes with hDelivered | hReturned
  · exact absurd rfl (hDelivered.1 (lineHop 1) (List.mem_cons_of_mem _ (List.mem_singleton_self _)))
  · exact hReturned

end Dpdq.Tofino
