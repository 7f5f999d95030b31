import Mathlib.Tactic.Linarith
import Dpdq.Lib.Machine
import Dpdq.Ns3.DropAtomicity

/-!
# The queued data of a switch port

`m_qdLenBytes` counts the data packets that a port has queued: `SendToDev` adds a packet by its
type, `SwitchNotifyDequeue` takes it off by its type and its queue. A run has the egress queues of
the devices beside the node; a queue that is full drops what it is given, after it was counted.

* `sendToDev_qdLen`, `switchNotifyDequeue_qdLen`: what the two do to the count.
* `qdLenBytes_exact`: the runs in which the count is the data that is queued.
-/

namespace Dpdq.Ns3

open Function
open Dpdq.Lib

/-! ## The node with its egress queues -/

/-- `m_maxBytes` of `BEgressQueue`. -/
def beqMaxBytes : Nat := 1000 * 1024 * 1024

/-- The data of a list of queued packets, in bytes. -/
def dataBytes (entries : List (QueueIdx × Packet)) : Nat :=
  ((entries.filter fun e => e.2.isDataPacket).map fun e => e.2.size).sum

structure SwitchRun where
  node : SwitchNode
  lastUpdateTimeNs : PortIdx → UInt64 := fun _ => 0
  queues : PortIdx → List (QueueIdx × Packet) := fun _ => []

namespace SwitchRun

/-- `m_bytesInQueueTotal` of a port. -/
def bytesInQueueTotal (s : SwitchRun) (port : PortIdx) : Nat :=
  ((s.queues port).map fun e => e.2.size).sum

/-- The data packets that are queued at a port, in bytes. -/
def queuedData (s : SwitchRun) (port : PortIdx) : Nat := dataBytes (s.queues port)

/-- `BEgressQueue::DoEnqueue`. -/
def enqueue (s : SwitchRun) (port : PortIdx) (qIndex : QueueIdx) (p : Packet) : SwitchRun :=
  if s.bytesInQueueTotal port + p.size < beqMaxBytes then
    { s with queues := update s.queues port (s.queues port ++ [(qIndex, p)]) }
  else s

end SwitchRun

/-- A packet arrives, the node sends a frame of its own (PFC), or a device takes the first packet of
one of its queues. -/
inductive SwitchEvent where
  | sendToDev (env : Ambient) (p : Packet) (inDevHint : Nat)
  | sendPfc (port : PortIdx) (p : Packet)
  | dequeue (port : PortIdx) (qIndex : QueueIdx) (nowNs : UInt64)

namespace SwitchRun

/-- `SwitchSend` for what `SendToDev` hands to a device. -/
def switchSend (s : SwitchRun) : SwitchNode.Verdict → Option SwitchRun
  | .sent dev qIndex p _ => do
    let port ← portIdx dev
    let q ← queueIdx qIndex
    return s.enqueue port q p
  | _ => some s

/-- `DequeueAndTransmit` of a port for the queue that its scheduler has chosen. -/
def dequeue (cfg : TransmitConfig) (s : SwitchRun) (port : PortIdx) (qIndex : QueueIdx)
    (nowNs : UInt64) : Option SwitchRun := do
  let e ← (s.queues port).find? fun e => e.1 = qIndex
  let (node, lastUpdateTimeNs) ←
    s.node.switchNotifyDequeue cfg s.lastUpdateTimeNs port qIndex e.2 nowNs
  return {
    node, lastUpdateTimeNs
    queues := update s.queues port ((s.queues port).eraseP fun e => e.1 = qIndex) }

def step (cfg : TransmitConfig) (s : SwitchRun) : SwitchEvent → Option SwitchRun
  | .sendToDev env p inDevHint => do
    let (v, node) ← s.node.sendToDev cfg.toSwitchConfig env p inDevHint
    { s with node }.switchSend v
  | .sendPfc port p => if p.ch.l3Prot = 0xFE then some (s.enqueue port 0 p) else none
  | .dequeue port qIndex nowNs => s.dequeue cfg port qIndex nowNs

end SwitchRun

/-- A switch with its routes and devices. -/
def switchMachine (cfg : TransmitConfig) (rtTable : Nat → Option (List Int))
    (devices : List (Option NetDevice)) : Machine SwitchRun SwitchEvent where
  init := { node := { rtTable, devices } }
  step := SwitchRun.step cfg

/-! ## What the functions do to the count -/

namespace SwitchNode

section Send

variable {cfg : SwitchConfig} {s s' : SwitchNode} {p : Packet}

theorem markAsBouncedCredit_ch (p : Packet) : p.markAsBouncedCredit.ch = p.ch := by
  unfold Packet.markAsBouncedCredit
  split
  · rfl
  · split <;> rfl

/-- A packet that is bounced is no data, nor is what becomes of it. -/
theorem bounced_isDataPacket {inDevHint idx : Nat} (h : s.bounces cfg inDevHint idx p = some true)
    {q : Packet} (hq : q.ch.l3Prot = p.ch.l3Prot) : q.isDataPacket = false := by
  obtain ⟨hProt, -⟩ := grant_of_bounces h
  unfold Packet.isDataPacket
  rw [hq, hProt]
  decide

/-- A data packet goes its way as it is. -/
theorem bounceOrReserve_data {p' : Packet} {inDevHint idx forwardIdx : Nat}
    (h : s.bounceOrReserve cfg p inDevHint idx = some (s', p', forwardIdx))
    (hData : p'.isDataPacket = true) : p' = p ∧ forwardIdx = idx := by
  rcases bounceOrReserve_cases h with ⟨hBounces, -, -, hPacket⟩ | ⟨-, -, rfl, rfl⟩
  · have hProt : p'.ch.l3Prot = p.ch.l3Prot := by
      rw [hPacket]
      split
      · show p.markAsBouncedCredit.ch.l3Prot = p.ch.l3Prot
        rw [markAsBouncedCredit_ch]
      · show p.markAsBouncedCredit.ch.l3Prot = p.ch.l3Prot
        rw [markAsBouncedCredit_ch]
    rw [bounced_isDataPacket hBounces hProt] at hData
    cases hData
  · exact ⟨rfl, rfl⟩

/-- The outcomes of the branches of `SendToDev` that admit a packet: it is not sent, or the count of
its port goes up by it. -/
inductive Forwarded (cfg : SwitchConfig) (s : SwitchNode) (p : Packet) (forwardIdx : Nat) :
    Verdict × SwitchNode → Prop
  | dropped (s' : SwitchNode) (hSame : s'.qdLen = s.qdLen) :
      Forwarded cfg s p forwardIdx (.dropped, s')
  | sent (pfc : List (QueueIdx × PfcType)) (s' : SwitchNode) (o : PortIdx)
      (hPort : portIdx forwardIdx = some o)
      (hQd : s'.qdLen = if cfg.cbEnable && p.isDataPacket then
        update s.qdLen o (s.qdLen o + UInt64.ofNat p.size) else s.qdLen) :
      Forwarded cfg s p forwardIdx (.sent forwardIdx (getQueueIndex cfg p) p pfc, s')

theorem forwarded_enqueue {t : SwitchNode} {inDev forwardIdx : Nat}
    {pfc : List (QueueIdx × PfcType)} {r : Verdict × SwitchNode}
    (h : enqueue cfg t p inDev forwardIdx (getQueueIndex cfg p) pfc = some r)
    (hSame : t.qdLen = s.qdLen) : Forwarded cfg s p forwardIdx r := by
  obtain ⟨v, s'⟩ := r
  obtain ⟨o, hPort, hSent, -, -, hQd⟩ := enqueue_eq_some h
  dsimp only at hSent hQd
  rw [hSent]
  rw [hSame] at hQd
  exact .sent pfc s' o hPort hQd

/-- A packet without a route goes nowhere; a data packet that is sent goes to the port of
`GetOutDev` with its own queue index. -/
theorem sendToDev_qdLen {env : Ambient} {inDevHint : Nat} {r : Verdict × SwitchNode}
    (h : s.sendToDev cfg env p inDevHint = some r) :
    r = (.noRoute, s) ∨ ∃ p' forwardIdx, Forwarded cfg s p' forwardIdx r ∧
      (p'.isDataPacket = true → p' = p ∧
        ∃ idx, getOutDev cfg s env p = some idx ∧ 0 ≤ idx ∧ forwardIdx = idx.toNat) := by
  rcases sendToDev_cases h with ⟨hRoute, -⟩ | ⟨idx, t, p', forwardIdx, hOut, hNonneg, hBounce, hMode⟩
  · exact .inl hRoute
  refine .inr ⟨p', forwardIdx, ?_, fun hData => ?_⟩
  · have hSame := (bounceOrReserve_sameQueues hBounce).qdLen
    rcases hMode with ⟨-, hDedicated⟩ | ⟨-, drop, hShared⟩
    · rcases forwardDedicated_cases hDedicated with rfl | ⟨m, -, hEnqueue⟩
      · exact .dropped _ hSame
      · exact forwarded_enqueue hEnqueue hSame
    · rcases forwardShared_cases hShared with rfl | ⟨m, pfc, frames, hEnqueue⟩
      · exact .dropped _ hSame
      · exact forwarded_enqueue hEnqueue hSame
  · obtain ⟨rfl, rfl⟩ := bounceOrReserve_data hBounce hData
    exact ⟨rfl, idx, hOut, hNonneg, rfl⟩

end Send

section Release

variable {cfg : TransmitConfig} {s s' : SwitchNode} {p : Packet} {inDev ifIndex : PortIdx}
  {qIndex : QueueIdx}

/-- Both branches take a data packet off the count, but not for queue 0. -/
theorem release_qdLen (h : s.release cfg inDev ifIndex qIndex p = some s') :
    s'.qdLen = if qIndex = 0 then s.qdLen else (s.releaseQd cfg ifIndex p).qdLen := by
  rcases release_cases h with rfl | ⟨hQueue, t, hBefore, hBehind⟩ | ⟨rfl, rfl⟩
  · unfold releaseDedicated
    dsimp only
    split
    · rfl
    · rw [qdLen_releaseQd, qdLen_releaseQd]
      rfl
  · rw [if_neg hQueue, hBehind.qdLen, qdLen_releaseQd, qdLen_releaseQd, hBefore.qdLen]
  · rw [if_pos rfl]

theorem switchNotifyDequeue_qdLen {last last' : PortIdx → UInt64} {nowNs : UInt64}
    (h : s.switchNotifyDequeue cfg last ifIndex qIndex p nowNs = some (s', last')) :
    s'.qdLen = if qIndex = 0 then s.qdLen else (s.releaseQd cfg ifIndex p).qdLen := by
  obtain ⟨t, hRelease, hSame⟩ := switchNotifyDequeue_cases h
  exact hSame.qdLen.trans (release_qdLen hRelease)

end Release

end SwitchNode

/-! ## The count over a run -/

namespace SwitchRun

/-- The count of every port is the data that it has queued. -/
def QdExact (s : SwitchRun) : Prop := ∀ port, (s.node.qdLen port).toNat = s.queuedData port

/-- Data that arrives is counted and finds room in the queue of its port, and no data leaves
queue 0. -/
def Counted (cfg : TransmitConfig) (s : SwitchRun) : SwitchEvent → Prop
  | .sendToDev env p _ => p.isDataPacket = true → cfg.cbEnable = true ∧
      ∀ idx ∈ getOutDev cfg.toSwitchConfig s.node env p, 0 ≤ idx →
        ∀ port ∈ portIdx idx.toNat, s.bytesInQueueTotal port + p.size < beqMaxBytes
  | .sendPfc _ _ => True
  | .dequeue port qIndex _ => qIndex = 0 →
      ∀ e ∈ (s.queues port).find? fun e => e.1 = qIndex, e.2.isDataPacket = false

instance decidableCounted (cfg : TransmitConfig) (s : SwitchRun) :
    ∀ e, Decidable (Counted cfg s e)
  | .sendToDev env p _ => inferInstanceAs (Decidable (p.isDataPacket = true → cfg.cbEnable = true ∧
      ∀ idx ∈ getOutDev cfg.toSwitchConfig s.node env p, 0 ≤ idx →
        ∀ port ∈ portIdx idx.toNat, s.bytesInQueueTotal port + p.size < beqMaxBytes))
  | .sendPfc _ _ => isTrue trivial
  | .dequeue port qIndex _ => inferInstanceAs (Decidable (qIndex = 0 →
      ∀ e ∈ (s.queues port).find? fun e => e.1 = qIndex, e.2.isDataPacket = false))

variable {cfg : TransmitConfig} {s : SwitchRun}

/-! ### One queue -/

theorem dataBytes_append (xs ys : List (QueueIdx × Packet)) :
    dataBytes (xs ++ ys) = dataBytes xs + dataBytes ys := by
  unfold dataBytes
  rw [List.filter_append, List.map_append, List.sum_append]

theorem dataBytes_cons (e : QueueIdx × Packet) (xs : List (QueueIdx × Packet)) :
    dataBytes (e :: xs) = (if e.2.isDataPacket then e.2.size else 0) + dataBytes xs := by
  unfold dataBytes
  by_cases hData : e.2.isDataPacket = true
  · simp only [List.filter_cons, hData, if_true, List.map_cons, List.sum_cons]
  · simp only [List.filter_cons, if_neg hData, zero_add]

theorem dataBytes_le (entries : List (QueueIdx × Packet)) :
    dataBytes entries ≤ (entries.map fun e => e.2.size).sum := by
  induction entries with
  | nil => exact le_rfl
  | cons e xs ih =>
    rw [dataBytes_cons, List.map_cons, List.sum_cons]
    refine Nat.add_le_add ?_ ih
    split
    · exact le_rfl
    · exact Nat.zero_le _

/-- The packet that leaves stands somewhere in the queue. -/
theorem exists_split_of_find? {entries : List (QueueIdx × Packet)} {qIndex : QueueIdx}
    {e : QueueIdx × Packet} (h : entries.find? (fun e => e.1 = qIndex) = some e) :
    ∃ xs ys, entries = xs ++ e :: ys ∧ entries.eraseP (fun e => e.1 = qIndex) = xs ++ ys := by
  obtain ⟨hIndex, xs, ys, rfl, hBefore⟩ := List.find?_eq_some_iff_append.mp h
  refine ⟨xs, ys, rfl, ?_⟩
  rw [List.eraseP_append_right _ fun b hb => by simpa using hBefore b hb]
  congr 1
  exact List.eraseP_cons_of_pos hIndex

/-- What the runs keep at a port whose data is counted: the queue holds less than its limit, so that
the count does not wrap around, and no data is queued where nothing counts. -/
structure PortInv (cfg : TransmitConfig) (qdLen : UInt64) (entries : List (QueueIdx × Packet)) :
    Prop where
  exact : qdLen.toNat = dataBytes entries
  bounded : (entries.map fun e => e.2.size).sum < beqMaxBytes
  counts : ∀ e ∈ entries, e.2.isDataPacket = true → cfg.cbEnable = true

theorem PortInv.empty (cfg : TransmitConfig) : PortInv cfg 0 [] where
  exact := rfl
  bounded := by decide
  counts := List.forall_mem_nil _

section Port

variable {qdLen : UInt64} {entries : List (QueueIdx × Packet)} {qIndex : QueueIdx} {p : Packet}

theorem toNat_ofNat_of_lt {n : Nat} (h : n < beqMaxBytes) : (UInt64.ofNat n).toNat = n :=
  UInt64.toNat_ofNat_of_lt (h.trans (by decide))

/-- A packet is counted as it is queued. -/
theorem PortInv.append (hInv : PortInv cfg qdLen entries)
    (hRoom : (entries.map fun e => e.2.size).sum + p.size < beqMaxBytes)
    (hCount : p.isDataPacket = true → cfg.cbEnable = true) :
    PortInv cfg (if cfg.cbEnable && p.isDataPacket then qdLen + UInt64.ofNat p.size else qdLen)
      (entries ++ [(qIndex, p)]) where
  exact := by
    rw [dataBytes_append, dataBytes_cons, ← hInv.exact]
    by_cases hData : p.isDataPacket = true
    · have hMax : beqMaxBytes < 2 ^ 64 := by decide
      have hLe := dataBytes_le entries
      rw [← hInv.exact] at hLe
      rw [hCount hData, hData, Bool.and_self, if_pos rfl, if_pos rfl, UInt64.toNat_add,
        toNat_ofNat_of_lt (by omega), Nat.mod_eq_of_lt (by omega)]
      rfl
    · rw [Bool.eq_false_iff.mpr hData, Bool.and_false, if_neg Bool.false_ne_true,
        if_neg Bool.false_ne_true]
      rfl
  bounded := by
    rw [List.map_append, List.sum_append]
    exact hRoom
  counts e hMem := by
    rcases List.mem_append.mp hMem with hOld | hNew
    · exact hInv.counts e hOld
    · obtain rfl := List.mem_singleton.mp hNew
      exact hCount

/-- The packet that leaves is taken off if it is data, which never leaves queue 0. -/
theorem PortInv.erase (hInv : PortInv cfg qdLen entries) {e : QueueIdx × Packet}
    (hFind : entries.find? (fun e => e.1 = qIndex) = some e)
    (hQueue : qIndex = 0 → e.2.isDataPacket = false) :
    PortInv cfg (if qIndex = 0 then qdLen else
        if cfg.cbEnable && e.2.isDataPacket then drainU64 qdLen (UInt64.ofNat e.2.size) else qdLen)
      (entries.eraseP fun e => e.1 = qIndex) := by
  obtain ⟨xs, ys, rfl, hErase⟩ := exists_split_of_find? hFind
  have hExact := hInv.exact
  have hBounded := hInv.bounded
  rw [dataBytes_append, dataBytes_cons] at hExact
  rw [List.map_append, List.map_cons, List.sum_append, List.sum_cons] at hBounded
  rw [hErase]
  refine ⟨?_, ?_, fun a hMem => hInv.counts a ?_⟩
  · rw [dataBytes_append]
    by_cases hData : e.2.isDataPacket = true
    · have hCb := hInv.counts e (List.mem_append_right _ List.mem_cons_self) hData
      have hSize : (UInt64.ofNat e.2.size).toNat = e.2.size := toNat_ofNat_of_lt (by omega)
      rw [if_pos hData] at hExact
      have hLe : UInt64.ofNat e.2.size ≤ qdLen := by
        rw [UInt64.le_iff_toNat_le, hSize]
        omega
      have hNonzero : qIndex ≠ 0 := fun hZero => by
        rw [hQueue hZero] at hData
        cases hData
      unfold drainU64
      rw [if_neg hNonzero, hCb, hData, Bool.and_self, if_pos rfl, if_pos hLe,
        UInt64.toNat_sub_of_le _ _ hLe, hSize]
      omega
    · rw [if_neg hData] at hExact
      rw [Bool.eq_false_iff.mpr hData, Bool.and_false, if_neg Bool.false_ne_true, ite_self]
      omega
  · rw [List.map_append, List.sum_append]
    omega
  · rcases List.mem_append.mp hMem with hLeft | hRight
    · exact List.mem_append_left _ hLeft
    · exact List.mem_append_right _ (List.mem_cons_of_mem _ hRight)

end Port

/-! ### The steps -/

def QueueInv (cfg : TransmitConfig) (s : SwitchRun) : Prop :=
  ∀ port, PortInv cfg (s.node.qdLen port) (s.queues port)

theorem QueueInv.qdExact (hInv : QueueInv cfg s) : QdExact s := fun port => (hInv port).exact

/-- A step changes the count and the queue of one port at most. -/
theorem QueueInv.setPort (hInv : QueueInv cfg s) {t : SwitchRun} {port : PortIdx} {qdLen : UInt64}
    {entries : List (QueueIdx × Packet)} (hPort : PortInv cfg qdLen entries)
    (hQd : t.node.qdLen = update s.node.qdLen port qdLen)
    (hQueues : t.queues = update s.queues port entries) : QueueInv cfg t := by
  intro i
  rw [hQd, hQueues]
  by_cases hSame : i = port
  · subst hSame
    rw [update_self, update_self]
    exact hPort
  · rw [update_of_ne hSame, update_of_ne hSame]
    exact hInv i

/-- A step of the node that leaves the counts alone. -/
theorem QueueInv.node (hInv : QueueInv cfg s) {node : SwitchNode}
    (hSame : node.qdLen = s.node.qdLen) : QueueInv cfg { s with node } := by
  intro i
  show PortInv cfg (node.qdLen i) (s.queues i)
  rw [hSame]
  exact hInv i

/-- A packet is handed to a device: its queue has room, or what it drops was not counted. -/
theorem QueueInv.enqueue (hInv : QueueInv cfg s) {node : SwitchNode} {port : PortIdx}
    {qIndex : QueueIdx} {p : Packet}
    (hCount : p.isDataPacket = true →
      cfg.cbEnable = true ∧ s.bytesInQueueTotal port + p.size < beqMaxBytes)
    (hQd : node.qdLen = if cfg.cbEnable && p.isDataPacket then
      update s.node.qdLen port (s.node.qdLen port + UInt64.ofNat p.size) else s.node.qdLen) :
    QueueInv cfg (({ s with node } : SwitchRun).enqueue port qIndex p) := by
  unfold SwitchRun.enqueue
  split
  · rename_i hRoom
    refine hInv.setPort ((hInv port).append hRoom fun hData => (hCount hData).1) ?_ rfl
    show node.qdLen = _
    rw [hQd]
    split
    · rfl
    · exact (update_eq_self port _).symm
  · rename_i hRoom
    refine hInv.node ?_
    have hData : p.isDataPacket = false :=
      Bool.eq_false_iff.mpr fun hData => hRoom (hCount hData).2
    rw [hQd, hData, Bool.and_false, if_neg Bool.false_ne_true]

/-- `SendToDev` and what it hands to a device. -/
theorem QueueInv.sendToDev (hInv : QueueInv cfg s) {env : Ambient} {p : Packet} {inDevHint : Nat}
    {t : SwitchRun} (hCounted : Counted cfg s (.sendToDev env p inDevHint))
    (h : s.step cfg (.sendToDev env p inDevHint) = some t) : QueueInv cfg t := by
  obtain ⟨⟨v, node⟩, hSend, h⟩ := Option.bind_eq_some_iff.mp h
  rcases SwitchNode.sendToDev_qdLen hSend with hRoute | ⟨p', forwardIdx, hForwarded, hData⟩
  · obtain ⟨rfl, rfl⟩ := Prod.mk.inj hRoute
    obtain rfl := Option.some.inj h
    exact hInv
  generalize hResult : (v, node) = r at hForwarded
  cases hForwarded with
  | dropped s' hSame =>
    obtain ⟨rfl, rfl⟩ := Prod.mk.inj hResult
    obtain rfl := Option.some.inj h
    exact hInv.node hSame
  | sent pfc s' port hPort hQd =>
    obtain ⟨rfl, rfl⟩ := Prod.mk.inj hResult
    obtain ⟨o, hOut, h⟩ := Option.bind_eq_some_iff.mp h
    obtain ⟨q, hQueue, h⟩ := Option.bind_eq_some_iff.mp h
    obtain rfl := Option.some.inj (hPort.symm.trans hOut)
    obtain rfl := Option.some.inj h
    refine hInv.enqueue (fun hIsData => ?_) hQd
    obtain ⟨rfl, idx, hIdx, hRoute, rfl⟩ := hData hIsData
    obtain ⟨hCb, hRoom⟩ := hCounted hIsData
    exact ⟨hCb, hRoom idx hIdx hRoute port hPort⟩

/-- A frame of the node is no data. -/
theorem QueueInv.sendPfc (hInv : QueueInv cfg s) {port : PortIdx} {p : Packet} {t : SwitchRun}
    (h : s.step cfg (.sendPfc port p) = some t) : QueueInv cfg t := by
  change (if p.ch.l3Prot = 0xFE then some (s.enqueue port 0 p) else none) = some t at h
  split at h
  · rename_i hProt
    obtain rfl := Option.some.inj h
    have hData : p.isDataPacket = false := by
      unfold Packet.isDataPacket
      rw [hProt]
      decide
    refine @enqueue cfg s hInv s.node port 0 p (fun hIsData => ?_) ?_
    · rw [hData] at hIsData
      cases hIsData
    · rw [hData, Bool.and_false, if_neg Bool.false_ne_true]
  · cases h

/-- `DequeueAndTransmit` with `SwitchNotifyDequeue`. -/
theorem QueueInv.dequeue (hInv : QueueInv cfg s) {port : PortIdx} {qIndex : QueueIdx}
    {nowNs : UInt64} {t : SwitchRun} (hCounted : Counted cfg s (.dequeue port qIndex nowNs))
    (h : s.step cfg (.dequeue port qIndex nowNs) = some t) : QueueInv cfg t := by
  obtain ⟨e, hFind, h⟩ := Option.bind_eq_some_iff.mp h
  obtain ⟨⟨node, last⟩, hNotify, h⟩ := Option.bind_eq_some_iff.mp h
  obtain rfl := Option.some.inj h
  refine hInv.setPort ((hInv port).erase hFind fun hZero => hCounted hZero e hFind) ?_ rfl
  show node.qdLen = _
  rw [SwitchNode.switchNotifyDequeue_qdLen hNotify, SwitchNode.qdLen_releaseQd]
  split
  · exact (update_eq_self port _).symm
  split
  · rfl
  · exact (update_eq_self port _).symm

theorem QueueInv.step {e : SwitchEvent} {t : SwitchRun} (hInv : QueueInv cfg s)
    (hCounted : Counted cfg s e) (h : s.step cfg e = some t) : QueueInv cfg t := by
  cases e with
  | sendToDev env p inDevHint => exact hInv.sendToDev hCounted h
  | sendPfc port p => exact hInv.sendPfc h
  | dequeue port qIndex nowNs => exact hInv.dequeue hCounted h

end SwitchRun

/-- The count of every port is exact after every run whose data is counted. -/
theorem qdLenBytes_exact (cfg : TransmitConfig) (rtTable : Nat → Option (List Int))
    (devices : List (Option NetDevice)) {es : List SwitchEvent} {s : SwitchRun}
    (hGuard : (switchMachine cfg rtTable devices).Guarded (SwitchRun.Counted cfg)
      (switchMachine cfg rtTable devices).init es)
    (hRun : (switchMachine cfg rtTable devices).run (switchMachine cfg rtTable devices).init es =
      some s) : s.QdExact :=
  (Machine.guarded_induction (fun _ => SwitchRun.PortInv.empty cfg)
    (fun _ _ _ hInv hCounted hStep => SwitchRun.QueueInv.step hInv hCounted hStep)
    hGuard hRun).qdExact

/-! ## Runs -/

/-- A switch with the shared MMU and fixed thresholds. -/
def sharedConfig : TransmitConfig where
  toSwitchConfig := { SwitchNode.dedicatedConfig with dedicatedMmuEnable := false }
  ccEnable := true
  xonBytes := 10000
  xoffBytes := 20000
  dynamicThreshold := false
  dynamicAlpha := 1
  dedicatedXoffMarginBytes := 0
  dedicatedFcMarginBytes := 0

/-- Three devices; what goes to address 9 leaves by port 2. -/
def sharedSwitch : Machine SwitchRun SwitchEvent :=
  switchMachine sharedConfig (fun dip => if dip = 9 then some [2] else none)
    [none, some ⟨100⟩, some ⟨100⟩]

/-- A data packet of a priority group. -/
def dataOfGroup (pg : Nat) : Packet where
  ch := { sip := 7, dip := 9, l3Prot := 0x11, sport := 1, dport := 2, pg, seq := 0 }
  size := 1000

/-- Two packets of group 3 arrive and one of them leaves. -/
def groupThreeRun : List SwitchEvent :=
  [.sendToDev {} (dataOfGroup 3) 1, .sendToDev {} (dataOfGroup 3) 1, .dequeue 2 3 500]

theorem qdLenBytes_exact_groupThree :
    ∃ s, sharedSwitch.run sharedSwitch.init groupThreeRun = some s ∧ s.QdExact ∧
      s.queuedData 2 = 1000 := by
  have hData : (sharedSwitch.run sharedSwitch.init groupThreeRun).map (fun s => s.queuedData 2) =
      some 1000 := by
    decide +kernel
  have hGuard : sharedSwitch.Guarded (SwitchRun.Counted sharedConfig) sharedSwitch.init
      groupThreeRun := by
    decide +kernel
  obtain ⟨s, hRun, hQueued⟩ := Option.map_eq_some_iff.mp hData
  exact ⟨s, hRun, qdLenBytes_exact sharedConfig _ _ hGuard hRun, hQueued⟩

/-- A packet of group 0 arrives and leaves: it was counted as data, and stays counted. -/
theorem qdLenBytes_drifts :
    ∃ s, sharedSwitch.run sharedSwitch.init
        [.sendToDev {} (dataOfGroup 0) 1, .dequeue 2 0 500] = some s ∧
      s.node.qdLen 2 = 1000 ∧ s.queuedData 2 = 0 ∧ ¬s.QdExact := by
  have hData : (sharedSwitch.run sharedSwitch.init
      [.sendToDev {} (dataOfGroup 0) 1, .dequeue 2 0 500]).map
      (fun s => (s.node.qdLen 2, s.queuedData 2)) = some (1000, 0) := by
    decide +kernel
  obtain ⟨s, hRun, hBoth⟩ := Option.map_eq_some_iff.mp hData
  obtain ⟨hQd, hQueued⟩ := Prod.mk.inj hBoth
  refine ⟨s, hRun, hQd, hQueued, fun hExact => ?_⟩
  have hCount := hExact 2
  rw [hQd, hQueued] at hCount
  cases hCount

end Dpdq.Ns3
