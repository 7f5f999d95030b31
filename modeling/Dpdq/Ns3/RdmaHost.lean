import Dpdq.Ns3.CbSender
import Dpdq.Ns3.RdmaQueuePairGroup

/-!
# The bitmaps of finished QPs of a host

`RedistributeQp` clears the groups of all NICs and fills them again, in the order of `m_qpMap` and on
the NICs that the routes give. The vectors hold pointers to QPs.

* `RdmaHost.step_tellsTruth_iff`: what a step does to a bitmap that marks only finished QPs.
* `rdmaHost_tellsTruth_iff`: the bitmaps tell the truth, and no live QP that may send is skipped, in
  every state of a run exactly if no `Clear` meets a mark and every redistribution puts finished QPs
  at the marked positions.
-/

namespace Dpdq.Ns3

open Dpdq.Lib

/-! ## The host -/

/-- `snd_una` and `m_size` of a QP. -/
structure QpBytes where
  sndUna : Nat := 0
  size : Nat
deriving DecidableEq, Repr

def QpBytes.isFinishedConst (q : QpBytes) : Bool := q.sndUna ≥ q.size

/-- A NIC may have no device of its own (`dev == NULL`). -/
structure RdmaInterfaceMgr where
  dev : Bool
  qpGrp : RdmaQueuePairGroup Nat := {}

/-- The QPs that were created, at the addresses that the vectors hold, and `m_qpMap`. -/
structure RdmaHost where
  qps : List QpBytes := []
  qpMap : Table TxKey Nat := ⟨∅, fun _ => 0⟩
  nics : List RdmaInterfaceMgr

/-- A QP that `RedistributeQp` visits, the NIC it gets, and the round robin that `ReassignedQp` lets
the device run (none when it is busy or something else goes first). -/
structure Placement where
  key : TxKey
  nic : Nat
  call : Option (Nat × QpChecks Nat) := none

inductive RdmaHostEvent where
  /-- `AddQueuePair`: a new QP, and `AddQp` on the NIC of its route. -/
  | addQp (key : TxKey) (size nic : Nat)
  | clear (nic : Nat)
  /-- The only place that calls `SetQpFinished`. -/
  | getNextQindex (nic rrlast : Nat) (c : QpChecks Nat)
  /-- The order of the map, and the routes. -/
  | redistributeQp (order : List Placement)
  /-- `Acknowledge`, or selective acknowledgements from `snd_una` on. -/
  | acknowledge (qp ack : Nat)
  /-- The receiver has the message: `snd_una` is the size. -/
  | complete (qp : Nat)

namespace RdmaHost

def finished (s : RdmaHost) (qp : Nat) : Bool := s.qps[qp]?.any QpBytes.isFinishedConst

/-- An operation on the group of a NIC that has a device. -/
def onNic (s : RdmaHost) (nic : Nat) (f : RdmaQueuePairGroup Nat → RdmaQueuePairGroup Nat) :
    Option RdmaHost :=
  if s.nics[nic]?.any RdmaInterfaceMgr.dev then
    some { s with nics := s.nics.modify nic fun n => { n with qpGrp := f n.qpGrp } }
  else none

/-- `AddQp` and `ReassignedQp` for one QP of the loop. -/
def place (s : RdmaHost) (g : RdmaQueuePairGroup Nat) (p : Placement) : RdmaQueuePairGroup Nat :=
  let g := g.addQp (s.qpMap.val p.key)
  match p.call with
  | none => g
  | some (rrlast, c) => (g.getNextQindex s.finished rrlast c).2

/-- `RedistributeQp`. -/
def redistributeQp (s : RdmaHost) (order : List Placement) : List RdmaInterfaceMgr :=
  let cleared := s.nics.map fun n => if n.dev then { n with qpGrp := n.qpGrp.clear } else n
  order.foldl (fun nics p => nics.modify p.nic fun n => { n with qpGrp := s.place n.qpGrp p }) cleared

def step (s : RdmaHost) : RdmaHostEvent → Option RdmaHost
  | .addQp key size nic =>
    let qp := s.qps.length
    onNic { s with
      qps := s.qps ++ [{ size := size }]
      qpMap := s.qpMap.set key qp } nic fun g => g.addQp qp
  | .clear nic => s.onNic nic RdmaQueuePairGroup.clear
  | .getNextQindex nic rrlast c => s.onNic nic fun g => (g.getNextQindex s.finished rrlast c).2
  | .redistributeQp order =>
    if (order.map Placement.key).Nodup ∧ (order.map Placement.key).toFinset = s.qpMap.keys ∧
        ∀ p ∈ order, s.nics[p.nic]?.any RdmaInterfaceMgr.dev = true then
      some { s with nics := s.redistributeQp order }
    else none
  | .acknowledge qp ack =>
    some { s with qps := s.qps.modify qp fun q =>
      if ack > q.sndUna then { q with sndUna := ack } else q }
  | .complete qp => some { s with qps := s.qps.modify qp fun q => { q with sndUna := q.size } }

/-- The bitmaps tell the truth, and no live QP is skipped. -/
def TellsTruth (s : RdmaHost) : Prop :=
  ∀ n ∈ s.nics, n.qpGrp.Truthful s.finished ∧ n.qpGrp.SkipsNoLive s.finished

/-- The QPs that a redistribution places on a NIC, in this order. -/
def placed (s : RdmaHost) (order : List Placement) (nic : Nat) : List Nat :=
  (order.filter fun p => p.nic = nic).map fun p => s.qpMap.val p.key

/-- A cleared group has no marks; redistributed QPs at marked positions are finished. -/
def KeepsMarks (s : RdmaHost) : RdmaHostEvent → Prop
  | .clear nic => ∀ n, s.nics[nic]? = some n → ∀ i, n.qpGrp.isQpFinished i = false
  | .redistributeQp order => ∀ (nic : Nat) n, s.nics[nic]? = some n → n.dev = true →
      ∀ i, n.qpGrp.isQpFinished i = true →
        ∃ qp, (s.placed order nic)[i]? = some qp ∧ s.finished qp = true
  | _ => True

end RdmaHost

/-- A host before its first QP. -/
def rdmaHost (devs : List Bool) : Machine RdmaHost RdmaHostEvent where
  init := { nics := devs.map fun dev => { dev := dev } }
  step := RdmaHost.step

/-! ## Steps of the host -/

namespace RdmaHost

variable {s t : RdmaHost}

/-- Only the marks matter. -/
theorem tellsTruth_iff : s.TellsTruth ↔ ∀ n ∈ s.nics, n.qpGrp.Truthful s.finished := by
  constructor
  · intro hTrue n hn
    exact (hTrue n hn).1
  · intro hTrue n hn
    exact ⟨hTrue n hn, RdmaQueuePairGroup.skipsNoLive_of_truthful (hTrue n hn)⟩

/-- An operation leaves the QPs and the other NICs alone. -/
theorem onNic_eq_some {nic : Nat} {f : RdmaQueuePairGroup Nat → RdmaQueuePairGroup Nat}
    (h : s.onNic nic f = some t) : ∃ n, s.nics[nic]? = some n ∧
      t.finished = s.finished ∧ t.nics[nic]? = some { n with qpGrp := f n.qpGrp } ∧
      ∀ i, i ≠ nic → t.nics[i]? = s.nics[i]? := by
  obtain ⟨hDev, rfl⟩ := Machine.of_guarded h
  obtain ⟨n, hn, -⟩ := (Option.any_eq_true _ _).mp hDev
  refine ⟨n, hn, rfl, ?_, ?_⟩
  · rw [List.getElem?_modify_eq, hn]
    rfl
  · intro i hi
    exact List.getElem?_modify_ne _ _ (Ne.symm hi)

/-- An operation that appends QPs and marks finished ones keeps the bitmaps truthful. -/
theorem TellsTruth.onNic (hTrue : s.TellsTruth) {nic : Nat}
    {f : RdmaQueuePairGroup Nat → RdmaQueuePairGroup Nat}
    (hExtends : ∀ g, RdmaQueuePairGroup.Extends s.finished g (f g)) (h : s.onNic nic f = some t) :
    t.TellsTruth := by
  obtain ⟨n, hn, hFinished, hNic, hOthers⟩ := onNic_eq_some h
  rw [tellsTruth_iff] at hTrue ⊢
  rw [hFinished]
  intro n' hn'
  obtain ⟨i, hi⟩ := List.mem_iff_getElem?.mp hn'
  by_cases hSame : i = nic
  · rw [hSame, hNic, Option.some_inj] at hi
    rw [← hi]
    exact (hExtends n.qpGrp).truthful (hTrue n (List.mem_of_getElem? hn))
  · rw [hOthers i hSame] at hi
    exact hTrue n' (List.mem_of_getElem? hi)

/-- A QP that is finished stays finished. -/
theorem TellsTruth.of_finished (hTrue : s.TellsTruth) (hNics : t.nics = s.nics)
    (hFinished : ∀ qp, s.finished qp = true → t.finished qp = true) : t.TellsTruth := by
  rw [tellsTruth_iff] at hTrue ⊢
  rw [hNics]
  intro n hn i hMark
  obtain ⟨qp, hAt, hQp⟩ := hTrue n hn i hMark
  exact ⟨qp, hAt, hFinished qp hQp⟩

theorem finished_append (qs : List QpBytes) (qp : Nat) (hFinished : s.finished qp = true) :
    finished { s with qps := s.qps ++ qs } qp = true := by
  obtain ⟨q, hq, hDone⟩ := (Option.any_eq_true _ _).mp hFinished
  unfold finished
  rw [List.getElem?_append_left (List.getElem?_eq_some_iff.mp hq).1, hq, Option.any_some, hDone]

theorem finished_modify {p : Nat} {f : QpBytes → QpBytes}
    (hf : ∀ q : QpBytes, q.isFinishedConst = true → (f q).isFinishedConst = true) (qp : Nat)
    (hFinished : s.finished qp = true) : finished { s with qps := s.qps.modify p f } qp = true := by
  obtain ⟨q, hq, hDone⟩ := (Option.any_eq_true _ _).mp hFinished
  unfold finished
  rw [List.getElem?_modify, hq]
  simp only [Option.map_eq_map, Option.map_some, Option.any_some]
  split
  · exact hf q hDone
  · exact hDone

theorem isFinishedConst_acknowledge (ack : Nat) (q : QpBytes) (h : q.isFinishedConst = true) :
    (if ack > q.sndUna then { q with sndUna := ack } else q).isFinishedConst = true := by
  unfold QpBytes.isFinishedConst at *
  split
  · simp only [decide_eq_true_eq] at h ⊢
    omega
  · exact h

/-! ## Redistribution -/

theorem place_extends (s : RdmaHost) (g : RdmaQueuePairGroup Nat) (p : Placement) :
    RdmaQueuePairGroup.Extends s.finished g (s.place g p) := by
  have hAdd := RdmaQueuePairGroup.Extends.addQp s.finished g (s.qpMap.val p.key)
  unfold place
  cases p.call with
  | none => exact hAdd
  | some call => exact hAdd.trans (RdmaQueuePairGroup.getNextQindex_extends _ call.1 call.2)

theorem qps_place (s : RdmaHost) (g : RdmaQueuePairGroup Nat) (p : Placement) :
    (s.place g p).qps = g.qps ++ [s.qpMap.val p.key] := by
  unfold place
  cases p.call with
  | none => rfl
  | some call => exact (RdmaQueuePairGroup.scan_extends call.2 _ _).2

theorem foldl_place (s : RdmaHost) (order : List Placement) (g : RdmaQueuePairGroup Nat) :
    RdmaQueuePairGroup.Extends s.finished g (order.foldl s.place g) ∧
      (order.foldl s.place g).qps = g.qps ++ order.map fun p => s.qpMap.val p.key := by
  induction order generalizing g with
  | nil => exact ⟨RdmaQueuePairGroup.Extends.refl _ g, by simp⟩
  | cons p order ih =>
    obtain ⟨hRest, hQps⟩ := ih (s.place g p)
    rw [List.foldl_cons, hQps, qps_place]
    exact ⟨(s.place_extends g p).trans hRest, by simp⟩

/-- The loop over all QPs, seen from one NIC. -/
theorem getElem?_foldl_place (s : RdmaHost) (order : List Placement) (nics : List RdmaInterfaceMgr)
    (nic : Nat) :
    (order.foldl (fun nics p => nics.modify p.nic fun n => { n with qpGrp := s.place n.qpGrp p })
      nics)[nic]? = nics[nic]?.map fun n =>
        { n with qpGrp := (order.filter fun p => p.nic = nic).foldl s.place n.qpGrp } := by
  induction order generalizing nics with
  | nil => simp
  | cons p order ih =>
    rw [List.foldl_cons, ih, List.getElem?_modify]
    by_cases hHere : p.nic = nic
    · cases nics[nic]? with
      | none => rfl
      | some n => simp [hHere]
    · cases nics[nic]? with
      | none => rfl
      | some n => simp [hHere]

/-- A NIC with a device holds the QPs placed on it, with the marks that it had. -/
theorem redistributeQp_dev {order : List Placement} {nic : Nat} {n : RdmaInterfaceMgr}
    (hn : s.nics[nic]? = some n) (hDev : n.dev = true) :
    ∃ g, (s.redistributeQp order)[nic]? = some { n with qpGrp := g } ∧
      RdmaQueuePairGroup.Extends s.finished n.qpGrp.clear g ∧ g.qps = s.placed order nic := by
  obtain ⟨hExtends, hQps⟩ := s.foldl_place (order.filter fun p => p.nic = nic) n.qpGrp.clear
  refine ⟨_, ?_, hExtends, hQps⟩
  rw [redistributeQp, getElem?_foldl_place, List.getElem?_map, hn]
  simp [hDev]

/-- Other NICs get no QPs. -/
theorem redistributeQp_noDev {order : List Placement} {nic : Nat} {n : RdmaInterfaceMgr}
    (hOrder : ∀ p ∈ order, s.nics[p.nic]?.any RdmaInterfaceMgr.dev = true)
    (hn : s.nics[nic]? = some n) (hDev : n.dev = false) :
    (s.redistributeQp order)[nic]? = some n := by
  have hNone : (order.filter fun p => p.nic = nic) = [] := by
    rw [List.filter_eq_nil_iff]
    intro p hp hHere
    have hPlaced := hOrder p hp
    rw [of_decide_eq_true hHere, hn, Option.any_some, hDev] at hPlaced
    cases hPlaced
  rw [redistributeQp, getElem?_foldl_place, List.getElem?_map, hn, hNone, Option.map_some,
    Option.map_some, if_neg (by rw [hDev]; decide)]
  rfl

theorem getElem?_redistributeQp_none {order : List Placement} {nic : Nat}
    (hn : s.nics[nic]? = none) : (s.redistributeQp order)[nic]? = none := by
  rw [redistributeQp, getElem?_foldl_place, List.getElem?_map, hn]
  rfl

/-- After a redistribution the marks tell the truth where finished QPs came to stand at them. -/
theorem tellsTruth_redistributeQp {order : List Placement} (hTrue : s.TellsTruth)
    (hOrder : ∀ p ∈ order, s.nics[p.nic]?.any RdmaInterfaceMgr.dev = true) :
    TellsTruth { s with nics := s.redistributeQp order } ↔ s.KeepsMarks (.redistributeQp order) := by
  rw [tellsTruth_iff] at hTrue ⊢
  constructor
  · intro hAfter nic n hn hDev
    obtain ⟨g, hg, hExtends, hQps⟩ := @redistributeQp_dev s order nic n hn hDev
    have hMarks := hExtends.truthful_iff.mp (hAfter _ (List.mem_of_getElem? hg))
    rw [hQps] at hMarks
    exact hMarks
  · intro hMarks n' hn'
    obtain ⟨nic, hNic⟩ := List.mem_iff_getElem?.mp hn'
    cases hn : s.nics[nic]? with
    | none =>
      have hNone := @getElem?_redistributeQp_none s order nic hn
      rw [hNone] at hNic
      cases hNic
    | some n =>
      cases hDev : n.dev with
      | false =>
        rw [redistributeQp_noDev hOrder hn hDev, Option.some_inj] at hNic
        rw [← hNic]
        exact hTrue n (List.mem_of_getElem? hn)
      | true =>
        obtain ⟨g, hg, hExtends, hQps⟩ := @redistributeQp_dev s order nic n hn hDev
        rw [hg, Option.some_inj] at hNic
        rw [← hNic]
        refine hExtends.truthful_iff.mpr ?_
        rw [hQps]
        exact hMarks nic n hn hDev

/-! ## Runs -/

theorem tellsTruth_clear {nic : Nat} (hTrue : s.TellsTruth)
    (h : s.onNic nic RdmaQueuePairGroup.clear = some t) :
    t.TellsTruth ↔ s.KeepsMarks (.clear nic) := by
  obtain ⟨n, hn, hFinished, hNic, hOthers⟩ := onNic_eq_some h
  rw [tellsTruth_iff] at hTrue ⊢
  constructor
  · intro hAfter n' hn' i
    rw [Option.some.inj (hn'.symm.trans hn)]
    apply Bool.eq_false_iff.mpr
    intro hMark
    obtain ⟨qp, hAt, -⟩ := hAfter _ (List.mem_of_getElem? hNic) i hMark
    cases hAt
  · intro hNoMark n' hn'
    obtain ⟨i, hi⟩ := List.mem_iff_getElem?.mp hn'
    by_cases hSame : i = nic
    · rw [hSame, hNic, Option.some_inj] at hi
      rw [← hi]
      intro idx hMark
      have hSet : n.qpGrp.isQpFinished idx = true := hMark
      rw [hNoMark n hn idx] at hSet
      cases hSet
    · rw [hOthers i hSame] at hi
      rw [hFinished]
      exact hTrue n' (List.mem_of_getElem? hi)

/-- A step from truthful bitmaps. -/
theorem step_tellsTruth_iff {e : RdmaHostEvent} (hTrue : s.TellsTruth) (h : s.step e = some t) :
    t.TellsTruth ↔ s.KeepsMarks e := by
  cases e with
  | addQp key size nic =>
    have hBefore : TellsTruth { s with
        qps := s.qps ++ [{ size := size }]
        qpMap := s.qpMap.set key s.qps.length } :=
      hTrue.of_finished rfl (finished_append [{ size := size }])
    exact iff_of_true (hBefore.onNic (fun g => RdmaQueuePairGroup.Extends.addQp _ g _) h) trivial
  | clear nic => exact tellsTruth_clear hTrue h
  | getNextQindex nic rrlast c =>
    exact iff_of_true
      (hTrue.onNic (fun g => RdmaQueuePairGroup.getNextQindex_extends g rrlast c) h) trivial
  | redistributeQp order =>
    obtain ⟨⟨-, -, hOrder⟩, rfl⟩ := Machine.of_guarded h
    exact tellsTruth_redistributeQp hTrue hOrder
  | acknowledge qp ack =>
    cases h
    exact iff_of_true
      (hTrue.of_finished rfl (finished_modify (isFinishedConst_acknowledge ack))) trivial
  | complete qp =>
    cases h
    refine iff_of_true (hTrue.of_finished rfl (finished_modify ?_)) trivial
    intro q _
    exact decide_eq_true (Nat.le_refl q.size)

end RdmaHost

theorem tellsTruth_init (devs : List Bool) : (rdmaHost devs).init.TellsTruth := by
  rw [RdmaHost.tellsTruth_iff]
  intro n hn i hMark
  obtain ⟨dev, -, rfl⟩ := List.mem_map.mp hn
  have hSet : RdmaQueuePairGroup.isQpFinished { qps := [] } i = true := hMark
  rw [RdmaQueuePairGroup.isQpFinished_empty] at hSet
  cases hSet

/-- The bitmaps tell the truth along a run exactly if no operation moves QPs away from their marks:
a cleared group has none, and a redistribution puts finished QPs at the marked positions. -/
theorem rdmaHost_tellsTruth_iff (devs : List Bool) {es : List RdmaHostEvent}
    (hRun : ((rdmaHost devs).run (rdmaHost devs).init es).isSome) :
    (rdmaHost devs).Throughout RdmaHost.TellsTruth (rdmaHost devs).init es ↔
      (rdmaHost devs).Guarded RdmaHost.KeepsMarks (rdmaHost devs).init es := by
  refine Machine.throughout_iff_guarded (C := fun _ _ => True) (J := fun _ => True)
    (fun _ _ _ _ _ _ => trivial) ?_ trivial (tellsTruth_init devs) (Machine.guarded_true _ _ _) hRun
  intro s e t _ hTrue _ hStep
  exact RdmaHost.step_tellsTruth_iff hTrue hStep

/-- A message is finished and marked, a second one starts, and the routes change. -/
def markedThen (order : List Placement) : List RdmaHostEvent := [
  .addQp ⟨10000, 3⟩ 1000 0,
  .complete 0,
  .getNextQindex 0 0 ⟨fun _ => true, fun _ => false, fun _ => false⟩,
  .addQp ⟨10001, 3⟩ 5000 0,
  .redistributeQp order]

/-- The map has the first message first. -/
def sameOrder : List RdmaHostEvent :=
  markedThen [⟨⟨10000, 3⟩, 0, none⟩, ⟨⟨10001, 3⟩, 0, none⟩]

/-- The only mark is that of the first message, which is placed there again. -/
theorem keepsMarks_sameOrder : (rdmaHost [true]).Guarded RdmaHost.KeepsMarks (rdmaHost [true]).init
    sameOrder := by
  refine ⟨trivial, fun s hs => ⟨trivial, fun t ht => ⟨trivial, fun u hu => ⟨trivial, fun v hv => ?_⟩⟩⟩⟩
  obtain rfl := Option.some.inj hs
  obtain rfl := Option.some.inj ht
  obtain rfl := Option.some.inj hu
  obtain rfl := Option.some.inj hv
  refine ⟨?_, fun _ _ => trivial⟩
  intro nic n hn _ i hMark
  cases nic with
  | zero =>
    obtain rfl := Option.some.inj hn
    have hSet : (RdmaQueuePairGroup.setQpFinished { qps := [0, 1] } 0).isQpFinished i = true := hMark
    rw [RdmaQueuePairGroup.isQpFinished_setQpFinished, RdmaQueuePairGroup.isQpFinished_empty,
      Bool.or_false, Bool.and_eq_true] at hSet
    obtain rfl := of_decide_eq_true hSet.2
    exact ⟨0, rfl, rfl⟩
  | succ nic => cases hn

theorem rdmaHost_tellsTruth_iff_sameOrder :
    (rdmaHost [true]).Throughout RdmaHost.TellsTruth (rdmaHost [true]).init sameOrder :=
  (rdmaHost_tellsTruth_iff [true] (by decide +kernel)).mpr keepsMarks_sameOrder

/-- The map has the second message first. -/
def secondFirst : List RdmaHostEvent :=
  markedThen [⟨⟨10001, 3⟩, 0, none⟩, ⟨⟨10000, 3⟩, 0, none⟩]

/-- The second message comes to stand at the mark, and the round robin does not send it. -/
theorem secondFirst_skips_live :
    ∃ t, (rdmaHost [true]).run (rdmaHost [true]).init secondFirst = some t ∧ ¬t.TellsTruth ∧
      ∃ n, t.nics[0]? = some n ∧ n.qpGrp.isQpFinished 0 = true ∧ n.qpGrp.qps[0]? = some 1 ∧
        t.finished 1 = false ∧ (n.qpGrp.getNextQindex t.finished 0
          ⟨fun _ => true, fun qp => !t.finished qp, fun _ => false⟩).1 = none := by
  have hEnd : ((rdmaHost [true]).run (rdmaHost [true]).init secondFirst).any (fun t =>
      t.nics[0]?.any fun n => n.qpGrp.isQpFinished 0 && n.qpGrp.qps[0]? == some 1 &&
        !t.finished 1 && (n.qpGrp.getNextQindex t.finished 0
          ⟨fun _ => true, fun qp => !t.finished qp, fun _ => false⟩).1 == none) = true := by
    decide +kernel
  obtain ⟨t, hRun, hNic⟩ := (Option.any_eq_true _ _).mp hEnd
  obtain ⟨n, hn, hFacts⟩ := (Option.any_eq_true _ _).mp hNic
  simp only [Bool.and_eq_true, Bool.not_eq_true', beq_iff_eq] at hFacts
  obtain ⟨⟨⟨hMark, hAt⟩, hLive⟩, hNone⟩ := hFacts
  refine ⟨t, hRun, ?_, n, hn, hMark, hAt, hLive, hNone⟩
  intro hTrue
  obtain ⟨qp, hQp, hFinished⟩ := (hTrue n (List.mem_of_getElem? hn)).1 0 hMark
  rw [← Option.some.inj (hAt.symm.trans hQp), hLive] at hFinished
  cases hFinished

end Dpdq.Ns3
