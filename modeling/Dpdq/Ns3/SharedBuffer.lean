import Dpdq.Ns3.QdLenBytes
import Dpdq.Ns3.SwitchMmuRun

/-!
# The shared buffer of a switch

A switch whose packets share one buffer, over whole runs. Each packet that waits behind a port on a
queue other than 0 is one that the MMU has counted: `SwitchNotifyDequeue` finds it where `SendToDev`
has put it, since a packet carries the number of the port that it came in by.

* `sendToDev_buffered`, `release_mmu`: what the two do to the MMU.
* `switchBuffer`: a run of the switch is one of the shared buffer.
* `switch_within_buffer`: it never holds more than `m_maxBufferBytes`, and every packet that waits
  can leave.
-/

namespace Dpdq.Ns3

open Function
open Dpdq.Lib

/-! ## What the functions do to the shared MMU -/

namespace SwitchNode

section Send

variable {cfg : SwitchConfig} {s s' : SwitchNode} {p : Packet}

/-- What is bounced keeps its size and its tag. -/
theorem bounceOrReserve_keeps {p' : Packet} {inDevHint idx forwardIdx : Nat}
    (h : s.bounceOrReserve cfg p inDevHint idx = some (s', p', forwardIdx)) :
    s'.mmu = s.mmu ∧ p'.size = p.size ∧ p'.flowIdTag = p.flowIdTag := by
  have hMarked : p.markAsBouncedCredit.size = p.size ∧
      p.markAsBouncedCredit.flowIdTag = p.flowIdTag := by
    unfold Packet.markAsBouncedCredit
    split
    · exact ⟨rfl, rfl⟩
    · split
      · exact ⟨rfl, rfl⟩
      · exact ⟨rfl, rfl⟩
  rcases bounceOrReserve_cases h with ⟨-, rfl, -, rfl⟩ | ⟨-, rfl, rfl, -⟩
  · refine ⟨rfl, ?_⟩
    split
    · exact hMarked
    · exact hMarked
  · refine ⟨?_, rfl, rfl⟩
    unfold reserveGrantCredit
    split
    · split
      · rfl
      · rfl
    · rfl

theorem enqueue_mmu {inDev forwardIdx qIndex : Nat} {pfc : List (QueueIdx × PfcType)}
    {r : Verdict × SwitchNode} (h : enqueue cfg s p inDev forwardIdx qIndex pfc = some r) :
    r.2.mmu = s.mmu := by
  unfold enqueue at h
  obtain ⟨i, hIn, h⟩ := Option.bind_eq_some_iff.mp h
  obtain ⟨o, hOut, h⟩ := Option.bind_eq_some_iff.mp h
  obtain ⟨q, hQueue, h⟩ := Option.bind_eq_some_iff.mp h
  obtain ⟨device, hDevice, h⟩ := Option.bind_eq_some_iff.mp h
  obtain rfl := Option.some.inj h
  dsimp only
  split
  · rfl
  · rfl

/-- The outcomes of `SendToDev` with the shared MMU for a packet that port `i` tagged: it is not sent,
it goes to queue 0, or it is admitted. -/
inductive Buffered (cfg : SwitchConfig) (s : SwitchNode) (p : Packet) (i : PortIdx) :
    Verdict × SwitchNode → Prop
  | noRoute (s' : SwitchNode) (hSame : s'.mmu = s.mmu) : Buffered cfg s p i (.noRoute, s')
  | dropped (s' : SwitchNode) (hSame : s'.mmu = s.mmu) : Buffered cfg s p i (.dropped, s')
  | unchecked (dev : Nat) (p' : Packet) (pfc : List (QueueIdx × PfcType)) (s' : SwitchNode)
      (hSame : s'.mmu = s.mmu) : Buffered cfg s p i (.sent dev 0 p' pfc, s')
  | admitted (dev qIndex : Nat) (p' : Packet) (pfc : List (QueueIdx × PfcType)) (s' : SwitchNode)
      (o : PortIdx) (q : QueueIdx) (hPort : portIdx dev = some o) (hQueue : queueIdx qIndex = some q)
      (hSize : p'.size = p.size) (hTag : p'.flowIdTag = p.flowIdTag)
      (hAdmits : Admits cfg s.mmu i o q p' s'.mmu) :
      Buffered cfg s p i (.sent dev qIndex p' pfc, s')

theorem portIdx_eq_some {n : Nat} {i : PortIdx} (h : portIdx n = some i) : i.val = n := by
  unfold portIdx at h
  split at h
  · obtain rfl := Option.some.inj h
    rfl
  · cases h

/-- The shared MMU charges the port of the tag. -/
theorem admissionDev_of_tag {inDevHint : Nat} {i : PortIdx}
    (hTag : p.flowIdTag.bind portIdx = some i) : admissionDev p inDevHint = i.val := by
  obtain ⟨dev, hDev, hPort⟩ := Option.bind_eq_some_iff.mp hTag
  have hVal := portIdx_eq_some hPort
  unfold admissionDev
  rw [hDev, Option.getD_some, if_neg (by rw [← hVal]; exact Nat.not_le.mpr i.isLt), hVal]

theorem sendToDev_buffered {env : Ambient} {inDevHint : Nat} {i : PortIdx}
    {r : Verdict × SwitchNode} (hMode : cfg.dedicatedMmuEnable = false)
    (hTag : p.flowIdTag.bind portIdx = some i) (h : s.sendToDev cfg env p inDevHint = some r) :
    Buffered cfg s p i r := by
  rcases sendToDev_cases h with ⟨rfl, -⟩ | ⟨idx, t, p', forwardIdx, -, -, hBounce, hForward⟩
  · exact .noRoute s rfl
  obtain ⟨hMmu, hSize, hTag'⟩ := bounceOrReserve_keeps hBounce
  rcases hForward with ⟨hDedicated, -⟩ | ⟨-, drop, hShared⟩
  · rw [hMode] at hDedicated
    cases hDedicated
  rcases forwardShared_outcomes hShared with rfl | ⟨hZero, hEnqueue⟩ |
      ⟨a, o, q, m, pfc, frames, hIn, hOut, hQueue, hAdmits, hEnqueue⟩
  · exact .dropped t hMmu
  · obtain ⟨v, s'⟩ := r
    obtain ⟨-, -, hSent, -⟩ := enqueue_eq_some hEnqueue
    rw [hZero] at hSent
    dsimp only at hSent
    rw [hSent]
    exact .unchecked _ _ _ _ ((enqueue_mmu hEnqueue).trans hMmu)
  · obtain ⟨v, s'⟩ := r
    obtain ⟨-, -, hSent, -⟩ := enqueue_eq_some hEnqueue
    dsimp only at hSent
    rw [hSent]
    rw [← hTag'] at hTag
    have hDev : a = i := by
      rw [admissionDev_of_tag hTag] at hIn
      exact Fin.ext (portIdx_eq_some hIn)
    rw [hDev, hMmu] at hAdmits
    have hMmu' : s'.mmu = m := enqueue_mmu hEnqueue
    exact .admitted _ _ p' _ s' o q hOut hQueue hSize hTag' (hMmu' ▸ hAdmits)

end Send

section Release

variable {cfg : TransmitConfig} {s s' : SwitchNode} {p : Packet} {inDev ifIndex : PortIdx}
  {qIndex : QueueIdx}

theorem checkAndSendResume_mmu (h : s.checkAndSendResume cfg inDev qIndex = some s') :
    s'.mmu = s.mmu := by
  unfold checkAndSendResume at h
  split at h
  · obtain ⟨device, -, h⟩ := Option.bind_eq_some_iff.mp h
    obtain rfl := Option.some.inj h
    rfl
  · obtain rfl := Option.some.inj h
    rfl

theorem releaseQd_mmu : (s.releaseQd cfg ifIndex p).mmu = s.mmu := by
  unfold releaseQd
  split
  · rfl
  · rfl

/-- What the shared MMU releases; queue 0 is not counted. -/
theorem release_mmu (hMode : cfg.dedicatedMmuEnable = false) (hTlt : cfg.mmu.tlt = false)
    (h : s.release cfg inDev ifIndex qIndex p = some s') :
    if qIndex = 0 then s'.mmu = s.mmu
    else ∃ m, s.mmu.removeFromIngressAdmission (inDev, qIndex) p.size = some m ∧
      m.removeFromEgressAdmission cfg.mmu.toMmuConfig (ifIndex, qIndex) p.size = some s'.mmu := by
  unfold release at h
  rw [if_neg (by rw [hMode]; exact Bool.false_ne_true)] at h
  split at h
  · rename_i hNonzero
    rw [if_neg hNonzero]
    unfold releaseShared at h
    obtain ⟨m, hIngress, h⟩ := Option.bind_eq_some_iff.mp h
    obtain ⟨m', hEgress, h⟩ := Option.bind_eq_some_iff.mp h
    refine ⟨m, hIngress, ?_⟩
    dsimp only at h
    rw [hTlt, Bool.false_and, if_neg Bool.false_ne_true] at h
    rw [checkAndSendResume_mmu h, releaseQd_mmu]
    exact hEgress
  · rename_i hZero
    rw [if_pos (not_not.mp hZero), Option.some.inj h]

theorem updateFcState_mmu : (s.updateFcState cfg ifIndex).mmu = s.mmu := by
  unfold updateFcState
  split
  · rfl
  · rfl

theorem returnBouncedCredit_mmu : (s.returnBouncedCredit cfg ifIndex p).mmu = s.mmu := by
  unfold returnBouncedCredit
  split
  · rfl
  · rfl

theorem phantomEnqueue_mmu : (s.phantomEnqueue ifIndex p).mmu = s.mmu := by
  unfold phantomEnqueue
  split
  · rfl
  · rfl

theorem phantomDrain_mmu {last nowNs : UInt64}
    (h : s.phantomDrain ifIndex last nowNs = some s') : s'.mmu = s.mmu := by
  unfold phantomDrain at h
  split at h
  · obtain ⟨device, -, h⟩ := Option.bind_eq_some_iff.mp h
    cases device with
    | none =>
      obtain rfl := Option.some.inj h
      rfl
    | some dev =>
      obtain rfl := Option.some.inj h
      rfl
  · obtain rfl := Option.some.inj h
    rfl

theorem updateCBPortStateOnTransmit_mmu {last last' : PortIdx → UInt64} {nowNs : UInt64}
    (h : s.updateCBPortStateOnTransmit cfg last ifIndex p nowNs = some (s', last')) :
    s'.mmu = s.mmu := by
  unfold updateCBPortStateOnTransmit at h
  split at h
  · obtain ⟨t, hDrain, h⟩ := Option.bind_eq_some_iff.mp h
    obtain ⟨rfl, -⟩ := Prod.mk.inj (Option.some.inj h)
    rw [phantomDrain_mmu hDrain, phantomEnqueue_mmu, returnBouncedCredit_mmu, updateFcState_mmu]
  · obtain ⟨rfl, -⟩ := Prod.mk.inj (Option.some.inj h)
    rfl

/-- `SwitchNotifyDequeue` does to the shared MMU what `release` does. -/
theorem switchNotifyDequeue_mmu {last last' : PortIdx → UInt64} {nowNs : UInt64}
    (h : s.switchNotifyDequeue cfg last ifIndex qIndex p nowNs = some (s', last')) :
    ∃ t, s.release cfg (arrivalDev p ifIndex) ifIndex qIndex p = some t ∧ s'.mmu = t.mmu := by
  unfold switchNotifyDequeue at h
  obtain ⟨t, hRelease, h⟩ := Option.bind_eq_some_iff.mp h
  obtain ⟨⟨t', last⟩, hTransmit, h⟩ := Option.bind_eq_some_iff.mp h
  obtain ⟨rfl, -⟩ := Prod.mk.inj (Option.some.inj h)
  have hSame := updateCBPortStateOnTransmit_mmu hTransmit
  exact ⟨t, hRelease, hSame⟩

end Release

end SwitchNode

/-! ## The packets that wait -/

namespace SwitchRun

/-- A packet of a port, as the shared MMU has counted it. -/
def sharedPacket (port : PortIdx) (e : QueueIdx × Packet) : SharedPacket where
  ingress := (SwitchNode.arrivalDev e.2 port, e.1)
  egress := (port, e.1)
  psize := e.2.size

/-- The packets of a port that the shared MMU has counted. -/
def counted (port : PortIdx) (entries : List (QueueIdx × Packet)) : Multiset SharedPacket :=
  ((entries.filter fun e => e.1 ≠ 0).map (sharedPacket port) : List SharedPacket)

/-- The packets that a switch has charged for a port. -/
def chargedFor (m : SharedMmu) (port : PortIdx) : Multiset SharedPacket :=
  m.packets.filter fun p => p.egress.1 = port

/-- The counters of the switch are those of a shared buffer that holds all packets that wait; it also
holds what a full queue has dropped. -/
structure Buffers (s : SwitchRun) (m : SharedMmu) : Prop where
  counters : m.counters = s.node.mmu
  waiting : ∀ port, counted port (s.queues port) ≤ chargedFor m port

theorem counted_append (port : PortIdx) (entries : List (QueueIdx × Packet)) (e : QueueIdx × Packet) :
    counted port (entries ++ [e]) =
      if e.1 = 0 then counted port entries else sharedPacket port e ::ₘ counted port entries := by
  unfold counted
  rw [List.filter_append, List.map_append]
  split
  · rename_i hZero
    rw [List.filter_cons_of_neg (by simp [hZero]), List.filter_nil, List.map_nil, List.append_nil]
  · rename_i hNonzero
    rw [List.filter_cons_of_pos (by simp [hNonzero]), List.filter_nil, List.map_singleton,
      ← Multiset.coe_add, Multiset.coe_singleton, Multiset.add_comm, Multiset.singleton_add]

/-- The packet that leaves is taken off the counted ones. -/
theorem counted_erase {port : PortIdx} {entries : List (QueueIdx × Packet)} {qIndex : QueueIdx}
    {e : QueueIdx × Packet} (hFind : entries.find? (fun e => e.1 = qIndex) = some e) :
    counted port entries =
      if qIndex = 0 then counted port (entries.eraseP fun e => e.1 = qIndex)
      else sharedPacket port e ::ₘ counted port (entries.eraseP fun e => e.1 = qIndex) := by
  have hIndex : e.1 = qIndex := by simpa using List.find?_some hFind
  obtain ⟨xs, ys, rfl, hErase⟩ := exists_split_of_find? hFind
  rw [hErase]
  unfold counted
  rw [List.filter_append, List.filter_append, List.map_append, List.map_append]
  split
  · rename_i hZero
    rw [List.filter_cons_of_neg (by simp [hIndex, hZero])]
  · rename_i hNonzero
    rw [List.filter_cons_of_pos (by simp [hIndex, hNonzero]), List.map_cons, Multiset.cons_coe]
    exact Multiset.coe_eq_coe.mpr List.perm_middle

theorem chargedFor_cons (p : SharedPacket) (m : SharedMmu) (c : MmuCounters) (port : PortIdx) :
    chargedFor ⟨c, p ::ₘ m.packets⟩ port =
      if p.egress.1 = port then p ::ₘ chargedFor m port else chargedFor m port := by
  unfold chargedFor
  split
  · rename_i hPort
    exact Multiset.filter_cons_of_pos (p := fun q : SharedPacket => q.egress.1 = port) _ hPort
  · rename_i hPort
    exact Multiset.filter_cons_of_neg (p := fun q : SharedPacket => q.egress.1 = port) _ hPort

section Steps

variable {s : SwitchRun} {m : SharedMmu} {node : SwitchNode} {c : MmuCounters} {port : PortIdx}
  {qIndex : QueueIdx} {p : Packet}

/-- A packet that is not counted is handed to a device. -/
theorem Buffers.enqueueUncounted (h : Buffers s m) (hSame : node.mmu = s.node.mmu) :
    Buffers (({ s with node } : SwitchRun).enqueue port 0 p) m := by
  unfold enqueue
  split
  · refine ⟨h.counters.trans hSame.symm, fun i => ?_⟩
    dsimp only
    by_cases hPort : i = port
    · subst hPort
      rw [update_self, counted_append, if_pos rfl]
      exact h.waiting i
    · rw [update_of_ne hPort]
      exact h.waiting i
  · exact ⟨h.counters.trans hSame.symm, h.waiting⟩

/-- A packet that is counted is handed to a device, which may drop it. -/
theorem Buffers.enqueueCounted (h : Buffers s m) (hQueue : qIndex ≠ 0) (hSame : c = node.mmu) :
    Buffers (({ s with node } : SwitchRun).enqueue port qIndex p)
      ⟨c, sharedPacket port (qIndex, p) ::ₘ m.packets⟩ := by
  unfold enqueue
  split
  · refine ⟨hSame, fun i => ?_⟩
    dsimp only
    rw [chargedFor_cons]
    by_cases hPort : i = port
    · subst hPort
      have hOwn : (sharedPacket i (qIndex, p)).egress.1 = i := rfl
      rw [update_self, counted_append, if_neg hQueue, if_pos hOwn]
      exact Multiset.cons_le_cons _ (h.waiting i)
    · have hOther : (sharedPacket port (qIndex, p)).egress.1 ≠ i := Ne.symm hPort
      rw [update_of_ne hPort, if_neg hOther]
      exact h.waiting i
  · refine ⟨hSame, fun i => ?_⟩
    dsimp only
    rw [chargedFor_cons]
    split
    · exact (h.waiting i).trans (Multiset.le_cons_self _ _)
    · exact h.waiting i

/-- A packet that waits on a queue other than 0 is held. -/
theorem Buffers.mem_packets (h : Buffers s m) {e : QueueIdx × Packet} (he : e ∈ s.queues port)
    (hQueue : e.1 ≠ 0) : sharedPacket port e ∈ m.packets := by
  have hCounted : sharedPacket port e ∈ counted port (s.queues port) := by
    refine List.mem_map_of_mem (List.mem_filter.mpr ⟨he, ?_⟩)
    simpa using hQueue
  exact Multiset.mem_of_mem_filter (Multiset.mem_of_le (h.waiting port) hCounted)

/-- A packet leaves that is not counted. -/
theorem Buffers.dequeueUncounted (h : Buffers s m) (hSame : node.mmu = s.node.mmu)
    {e : QueueIdx × Packet} (hFind : (s.queues port).find? (fun e => e.1 = (0 : QueueIdx)) = some e)
    (last : PortIdx → UInt64) :
    Buffers ⟨node, last, update s.queues port ((s.queues port).eraseP fun e => e.1 = (0 : QueueIdx))⟩
      m := by
  refine ⟨h.counters.trans hSame.symm, fun i => ?_⟩
  dsimp only
  by_cases hPort : i = port
  · subst hPort
    have hOld := h.waiting i
    rw [counted_erase hFind, if_pos rfl] at hOld
    rw [update_self]
    exact hOld
  · rw [update_of_ne hPort]
    exact h.waiting i

/-- A packet leaves that is counted. -/
theorem Buffers.dequeueCounted (h : Buffers s m) (hQueue : qIndex ≠ 0) (hSame : c = node.mmu)
    {e : QueueIdx × Packet} (hFind : (s.queues port).find? (fun e => e.1 = qIndex) = some e)
    (last : PortIdx → UInt64) :
    Buffers ⟨node, last, update s.queues port ((s.queues port).eraseP fun e => e.1 = qIndex)⟩
      ⟨c, m.packets.erase (sharedPacket port e)⟩ := by
  have hIndex : e.1 = qIndex := by simpa using List.find?_some hFind
  have hHeld := h.mem_packets (List.mem_of_find?_eq_some hFind) (hIndex ▸ hQueue)
  obtain ⟨rest, hRest⟩ := Multiset.exists_cons_of_mem hHeld
  have hCharged (i : PortIdx) := chargedFor_cons (sharedPacket port e) ⟨c, rest⟩ m.counters i
  refine ⟨hSame, fun i => ?_⟩
  have hOld := h.waiting i
  rw [show m = ⟨m.counters, sharedPacket port e ::ₘ rest⟩ by rw [← hRest], hCharged] at hOld
  rw [hRest, Multiset.erase_cons_head]
  dsimp only
  by_cases hPort : i = port
  · subst hPort
    have hOwn : (sharedPacket i e).egress.1 = i := rfl
    rw [counted_erase hFind, if_neg hQueue, if_pos hOwn] at hOld
    rw [update_self]
    exact (Multiset.cons_le_cons_iff _).mp hOld
  · have hOther : (sharedPacket port e).egress.1 ≠ i := Ne.symm hPort
    rw [if_neg hOther] at hOld
    rw [update_of_ne hPort]
    exact hOld

end Steps

end SwitchRun

/-! ## The run of the shared buffer -/

/-- The checks admit a packet to the buffer, which counts it as the switch does. -/
theorem SharedMmu.send_of_admits {cfg : SwitchConfig} (hTlt : cfg.mmu.tlt = false) {m : SharedMmu}
    {i o : PortIdx} {q : QueueIdx} {p : Packet} {c : MmuCounters}
    (h : SwitchNode.Admits cfg m.counters i o q p c) :
    m.send cfg.mmu.toMmuConfig ⟨(i, q), (o, q), p.size⟩ =
      some ⟨c, ⟨(i, q), (o, q), p.size⟩ ::ₘ m.packets⟩ := by
  have hCharge := h.charge
  unfold SwitchNode.chargeShared at hCharge
  obtain ⟨m', hEgress, hCharge⟩ := Option.bind_eq_some_iff.mp hCharge
  rw [hTlt, Bool.false_and, if_neg Bool.false_ne_true] at hCharge
  obtain rfl := Option.some.inj hCharge
  unfold SharedMmu.send
  rw [if_pos ⟨h.ingress, h.egress⟩]
  exact Option.bind_eq_some_iff.mpr ⟨m', hEgress, rfl⟩

/-- `QbbNetDevice::Receive` has tagged a packet with its port, and with the packet the buffer stays
below 2^32 bytes. -/
def SwitchRun.Arrives (cfg : TransmitConfig) : SwitchEvent → Prop
  | .sendToDev _ p _ =>
    (p.flowIdTag.bind portIdx).isSome ∧ cfg.mmu.maxBufferBytes + p.size < 2 ^ 32
  | _ => True

instance (cfg : TransmitConfig) : ∀ e, Decidable (SwitchRun.Arrives cfg e)
  | .sendToDev _ p _ => inferInstanceAs (Decidable ((p.flowIdTag.bind portIdx).isSome ∧
      cfg.mmu.maxBufferBytes + p.size < 2 ^ 32))
  | .sendPfc _ _ => isTrue trivial
  | .dequeue _ _ _ => isTrue trivial

/-- A switch with packets of its devices. -/
def taggedSwitch (cfg : TransmitConfig) (rtTable : Nat → Option (List Int))
    (devices : List (Option NetDevice)) : Machine SwitchRun SwitchEvent where
  init := { node := { rtTable, devices } }
  step s e := if SwitchRun.Arrives cfg e then s.step cfg e else none

namespace SwitchRun

variable {cfg : TransmitConfig} {s t : SwitchRun} {m : SharedMmu}

/-- `SendToDev` and what it hands to a device: the buffer takes in what is admitted. -/
theorem Buffers.sendToDev (h : Buffers s m) (hMode : cfg.dedicatedMmuEnable = false)
    (hTlt : cfg.mmu.tlt = false) {env : Ambient} {p : Packet} {inDevHint : Nat}
    (hArrives : Arrives cfg (.sendToDev env p inDevHint))
    (hStep : s.step cfg (.sendToDev env p inDevHint) = some t) :
    ∃ es m', (sharedMmu cfg.mmu.toMmuConfig).run m es = some m' ∧ Buffers t m' := by
  obtain ⟨hTagged, hRoom⟩ := hArrives
  obtain ⟨i, hTag⟩ := Option.isSome_iff_exists.mp hTagged
  obtain ⟨r, hSend, hStep⟩ := Option.bind_eq_some_iff.mp hStep
  have hBuffered := SwitchNode.sendToDev_buffered hMode hTag hSend
  cases hBuffered with
  | noRoute s' hSame =>
    obtain rfl := Option.some.inj hStep
    exact ⟨[], m, rfl, h.counters.trans hSame.symm, h.waiting⟩
  | dropped s' hSame =>
    obtain rfl := Option.some.inj hStep
    exact ⟨[], m, rfl, h.counters.trans hSame.symm, h.waiting⟩
  | unchecked dev p' pfc s' hSame =>
    obtain ⟨o, -, hStep⟩ := Option.bind_eq_some_iff.mp hStep
    obtain ⟨q, hQueue, hStep⟩ := Option.bind_eq_some_iff.mp hStep
    obtain rfl := Option.some.inj hQueue
    obtain rfl := Option.some.inj hStep
    exact ⟨[], m, rfl, h.enqueueUncounted hSame⟩
  | admitted dev qIndex p' pfc s' o q hPort hQueue hSize hTag' hAdmits =>
    obtain ⟨o', hPort', hStep⟩ := Option.bind_eq_some_iff.mp hStep
    obtain ⟨q', hQueue', hStep⟩ := Option.bind_eq_some_iff.mp hStep
    obtain rfl := Option.some.inj (hPort.symm.trans hPort')
    obtain rfl := Option.some.inj (hQueue.symm.trans hQueue')
    obtain rfl := Option.some.inj hStep
    have hPacket : sharedPacket o (q, p') = ⟨(i, q), (o, q), p'.size⟩ := by
      have hDev : SwitchNode.arrivalDev p' o = i := by
        unfold SwitchNode.arrivalDev
        rw [hTag', hTag]
      unfold sharedPacket
      rw [hDev]
    have hFits : cfg.mmu.maxBufferBytes + p'.size < 2 ^ 32 := hSize ▸ hRoom
    rw [← h.counters] at hAdmits
    refine ⟨[.send (sharedPacket o (q, p'))], _, ?_, h.enqueueCounted hAdmits.queue rfl⟩
    rw [hPacket]
    exact Machine.run_cons_eq_some.mpr
      ⟨_, (if_pos hFits).trans (SharedMmu.send_of_admits hTlt hAdmits), rfl⟩

/-- A frame of the node is not counted. -/
theorem Buffers.sendPfc (h : Buffers s m) {port : PortIdx} {p : Packet}
    (hStep : s.step cfg (.sendPfc port p) = some t) : Buffers t m := by
  change (if p.ch.l3Prot = 0xFE then some (s.enqueue port 0 p) else none) = some t at hStep
  split at hStep
  · obtain rfl := Option.some.inj hStep
    exact h.enqueueUncounted rfl
  · cases hStep

/-- `DequeueAndTransmit` with `SwitchNotifyDequeue`: the buffer lets go of a packet that is counted. -/
theorem Buffers.dequeue (h : Buffers s m) (hMode : cfg.dedicatedMmuEnable = false)
    (hTlt : cfg.mmu.tlt = false) {port : PortIdx} {qIndex : QueueIdx} {nowNs : UInt64}
    (hStep : s.step cfg (.dequeue port qIndex nowNs) = some t) :
    ∃ es m', (sharedMmu cfg.mmu.toMmuConfig).run m es = some m' ∧ Buffers t m' := by
  obtain ⟨e, hFind, hStep⟩ := Option.bind_eq_some_iff.mp hStep
  obtain ⟨⟨node, last⟩, hNotify, hStep⟩ := Option.bind_eq_some_iff.mp hStep
  obtain rfl := Option.some.inj hStep
  obtain ⟨u, hRelease, hSame⟩ := SwitchNode.switchNotifyDequeue_mmu hNotify
  have hMmu := SwitchNode.release_mmu hMode hTlt hRelease
  split at hMmu
  · rename_i hZero
    subst hZero
    exact ⟨[], m, rfl, h.dequeueUncounted (hSame.trans hMmu) hFind last⟩
  · rename_i hQueue
    obtain ⟨c, hIngress, hEgress⟩ := hMmu
    have hIndex : e.1 = qIndex := by simpa using List.find?_some hFind
    have hHeld := h.mem_packets (List.mem_of_find?_eq_some hFind) (hIndex ▸ hQueue)
    refine ⟨[.dequeue (sharedPacket port e)], _, ?_, h.dequeueCounted hQueue hSame.symm hFind last⟩
    refine Machine.run_cons_eq_some.mpr ⟨_, (if_pos hHeld).trans ?_, rfl⟩
    unfold sharedPacket
    rw [h.counters, hIndex]
    exact Option.bind_eq_some_iff.mpr ⟨c, hIngress, Option.bind_eq_some_iff.mpr ⟨_, hEgress, rfl⟩⟩

end SwitchRun

/-- A switch with the shared MMU and without TLT takes the steps of a shared buffer. -/
def switchBuffer {cfg : TransmitConfig} (hMode : cfg.dedicatedMmuEnable = false)
    (hTlt : cfg.mmu.tlt = false) (rtTable : Nat → Option (List Int))
    (devices : List (Option NetDevice)) :
    Simulation (taggedSwitch cfg rtTable devices) (sharedMmu cfg.mmu.toMmuConfig) where
  rel := SwitchRun.Buffers
  init := ⟨rfl, fun _ => Multiset.zero_le _⟩
  step := by
    intro s m e t h hStep
    simp only [taggedSwitch] at hStep
    split at hStep
    · rename_i hArrives
      cases e with
      | sendToDev env p inDevHint => exact h.sendToDev hMode hTlt hArrives hStep
      | sendPfc port p => exact ⟨[], m, rfl, h.sendPfc hStep⟩
      | dequeue port qIndex nowNs => exact h.dequeue hMode hTlt hStep
    · cases hStep

/-- In every run the shared MMU holds no more than its buffer, its counters are those of a run of the
MMU, and it can release every packet that waits on a queue other than 0: no subtraction goes below
zero. -/
theorem switch_within_buffer {cfg : TransmitConfig} (hMode : cfg.dedicatedMmuEnable = false)
    (hTlt : cfg.mmu.tlt = false) {rtTable : Nat → Option (List Int)}
    {devices : List (Option NetDevice)} {s : SwitchRun}
    (h : (taggedSwitch cfg rtTable devices).Reachable s) :
    s.node.mmu.usedTotalBytes ≤ cfg.mmu.maxBufferBytes ∧
      (∃ r, (mmu cfg.mmu.toMmuConfig).Reachable r ∧ r.counters = s.node.mmu) ∧
      ∀ port, ∀ e ∈ s.queues port, e.1 ≠ 0 → ∃ c c',
        s.node.mmu.removeFromIngressAdmission (SwitchNode.arrivalDev e.2 port, e.1) e.2.size =
          some c ∧
        c.removeFromEgressAdmission cfg.mmu.toMmuConfig (port, e.1) e.2.size = some c' := by
  obtain ⟨m, hReach, hRel⟩ := (switchBuffer hMode hTlt rtTable devices).reachable h
  change s.Buffers m at hRel
  obtain ⟨hRun, hFits, -, hLeave⟩ := sharedMmu_refines hReach
  rw [hRel.counters] at hRun hFits
  refine ⟨hFits, hRun, fun port e he hQueue => ?_⟩
  have hHeld := hRel.mem_packets he hQueue
  obtain ⟨m', hDequeue⟩ := Option.isSome_iff_exists.mp (hLeave _ hHeld)
  unfold SharedMmu.dequeue at hDequeue
  rw [if_pos hHeld, hRel.counters] at hDequeue
  obtain ⟨c, hIngress, hDequeue⟩ := Option.bind_eq_some_iff.mp hDequeue
  obtain ⟨c', hEgress, -⟩ := Option.bind_eq_some_iff.mp hDequeue
  exact ⟨c, c', hIngress, hEgress⟩

/-! ## A run -/

/-- `sharedSwitch` with packets of its devices. -/
def taggedSample : Machine SwitchRun SwitchEvent :=
  taggedSwitch sharedConfig (fun dip => if dip = 9 then some [2] else none)
    [none, some ⟨100⟩, some ⟨100⟩]

/-- A packet of group 3 that came in by port 1. -/
def taggedPacket (size : Nat) : Packet := { dataOfGroup 3 with flowIdTag := some 1, size }

/-- Two packets arrive and one of them leaves. -/
def taggedRun : List SwitchEvent :=
  [.sendToDev {} (taggedPacket 1000) 1, .sendToDev {} (taggedPacket 700) 1, .dequeue 2 3 500]

theorem switch_within_buffer_taggedRun :
    ∃ s, taggedSample.run taggedSample.init taggedRun = some s ∧
      s.node.mmu.usedTotalBytes = 700 ∧ 700 ≤ sharedConfig.mmu.maxBufferBytes ∧
      (s.node.mmu.removeFromIngressAdmission (1, 3) 700).isSome := by
  have hLast : (taggedSample.run taggedSample.init taggedRun).map
      (fun s => decide (s.node.mmu.usedTotalBytes = 700 ∧ s.queues 2 = [(3, taggedPacket 700)])) =
      some true := by
    decide +kernel
  obtain ⟨s, hRun, hState⟩ := Option.map_eq_some_iff.mp hLast
  obtain ⟨hUsed, hQueue⟩ := of_decide_eq_true hState
  obtain ⟨hFits, -, hLeave⟩ := switch_within_buffer rfl rfl ⟨taggedRun, hRun⟩
  refine ⟨s, hRun, hUsed, hUsed ▸ hFits, ?_⟩
  obtain ⟨c, -, hIngress, -⟩ := hLeave 2 (3, taggedPacket 700)
    (by rw [hQueue]; exact List.mem_singleton_self _) (by decide)
  exact Option.isSome_iff_exists.mpr ⟨c, hIngress⟩

end Dpdq.Ns3
