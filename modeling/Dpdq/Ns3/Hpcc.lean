import Mathlib.Data.Nat.Notation
import Dpdq.Lib.Machine
import Dpdq.Lib.Rounds
import Dpdq.Ns3.CbAimd
import Dpdq.Ns3.IntTelemetry
import Dpdq.Ns3.Word

/-!
# The rate of an HPCC sender

`HandleAckHp`, `UpdateRateHp` and `FastReactHp` of `rdma-hw.cc` (`m_cc_mode` 3) on the INT data that
an acknowledgement brings back, with one rate for the path or one for each hop.

The arithmetic on doubles is a parameter, since a hop can show no time between two packets and no
utilisation at all: then the source divides by zero, and the clamps that follow have to hold for
whatever comes out. What the source reads without having set it comes from outside as well: the
`hop` of a new QP, and `new_incStage` with one rate for each hop.

* `hpcc_rate_bounds`: the clamps hold, in every run.
* `hpcc_stage_unread`: with one rate for each hop, the `new_incStage` that was never set is stored
  but has no effect.
* `hpcc_once_per_round`: the rate that all fast reactions start from changes at most once for each
  full update, and a full update takes an acknowledgement beyond the `snd_nxt` of all earlier ones.
-/

namespace Dpdq.Ns3

open Dpdq.Lib

/-- What `UpdateRateHp` does with doubles. -/
class Double (D : Type) extends Add D, Mul D, Div D where
  ofNat : ℕ → D
  /-- The literal `1e-9`. -/
  nano : D
  lt : D → D → Bool
  le : D → D → Bool
  /-- The cast to an unsigned integer. -/
  truncate : D → ℕ

/-! ## Configuration and state -/

/-- The attributes of `RdmaHw` and the fields of a QP that HPCC reads. -/
structure HpConfig (D : Type) where
  minRate : ℕ
  maxRate : ℕ
  rai : ℕ
  baseRtt : ℕ
  win : ℕ
  miThresh : ℕ
  targetUtil : D
  multipleRate : Bool
  sampleFeedback : Bool
  fastReact : Bool
  /-- `IntHop::multi`. -/
  multi : ℕ

structure HopState (D : Type) where
  u : D
  rc : ℕ
  incStage : ℕ

/-- `m_rate` and the struct `hp` of a QP. -/
structure Hp (D : Type) where
  rate : ℕ
  lastUpdateSeq : ℕ
  curRate : ℕ
  hop : Fin 5 → Wire.IntHop
  incStage : ℕ
  u : D
  hopState : Fin 5 → HopState D

/-- `GetQlen`. -/
def Wire.IntHop.getQlen (multi : ℕ) (h : Wire.IntHop) : ℕ :=
  h.qlen.toNat * qlenUnit * multi % 2 ^ 32

namespace Hp

variable {D : Type} [Double D] (cfg : HpConfig D)

/-! ## The scan of the hops -/

/-- The utilisation `u` of a hop: its throughput and its queue against its line rate. -/
def utilization (new old : Wire.IntHop) : D :=
  let duration : D := Double.ofNat (new.getTimeDelta old) * Double.nano
  let txRate : D := Double.ofNat (new.getBytesDelta cfg.multi old * 8) / duration
  let lineRate : D := Double.ofNat new.getLineRate
  let qlen : D := Double.ofNat (min (new.getQlen cfg.multi) (old.getQlen cfg.multi))
  txRate / lineRate + qlen * Double.ofNat cfg.maxRate / lineRate / Double.ofNat cfg.win

/-- The moving average over a base RTT; `tau` is cut to it. -/
def average (old new : D) (tau : ℕ) : D :=
  (old * Double.ofNat (cfg.baseRtt - min tau cfg.baseRtt) +
    new * Double.ofNat (min tau cfg.baseRtt)) / Double.ofNat cfg.baseRtt

/-- The variables of the loop over the hops. -/
structure Scan (D : Type) where
  hp : Hp D
  maxU : D
  dt : ℕ
  updated : Fin 5 → Bool

/-- One hop. Only a full update looks at an empty queue when feedback is sampled. -/
def scanHop (fastReact : Bool) (ih : Wire.IntHeader) (s : Scan D) (i : Fin 5) : Scan D :=
  if cfg.sampleFeedback && (ih.hop i).getQlen cfg.multi == 0 && fastReact then s
  else
    let tau := (ih.hop i).getTimeDelta (s.hp.hop i)
    let u := utilization cfg (ih.hop i) (s.hp.hop i)
    let larger := !cfg.multipleRate && Double.lt s.maxU u
    let state := s.hp.hopState i
    { hp := { s.hp with
        hop := Function.update s.hp.hop i (ih.hop i)
        hopState :=
          if cfg.multipleRate then
            Function.update s.hp.hopState i { state with u := average cfg state.u u tau }
          else s.hp.hopState }
      maxU := if larger then u else s.maxU
      dt := if larger then tau else s.dt
      updated := Function.update s.updated i true }

/-- The hops of the path. -/
def hops (ih : Wire.IntHeader) : List (Fin 5) := (List.finRange 5).take ih.nhop.toNat

def scan (fastReact : Bool) (ih : Wire.IntHeader) (q : Hp D) : Scan D :=
  (hops ih).foldl (scanHop cfg fastReact ih) ⟨q, Double.ofNat 0, 0, fun _ => false⟩

/-! ## The new rates -/

/-- The two comparisons that bound a rate. -/
def bound (rate : ℕ) : ℕ :=
  let rate := if rate < cfg.minRate then cfg.minRate else rate
  if rate > cfg.maxRate then cfg.maxRate else rate

/-- Multiplicative increase or decrease to the target, or another additive increase: the rate and
the stage that follow. -/
def nextRate (rate incStage : ℕ) (u : D) : ℕ × ℕ :=
  let c := u / cfg.targetUtil
  if Double.le (Double.ofNat 1) c || incStage ≥ cfg.miThresh then
    (bound cfg (addU64 (Double.truncate (Double.ofNat rate / c)) cfg.rai), 0)
  else (bound cfg (addU64 rate cfg.rai), incStage + 1)

/-- The lowest of the rates of the hops. -/
def lowestRate (s : Scan D) (ih : Wire.IntHeader) : ℕ :=
  (hops ih).foldl (fun rate i =>
    let state := s.hp.hopState i
    min rate (if s.updated i then (nextRate cfg state.rc state.incStage state.u).1 else state.rc))
    cfg.maxRate

/-- The hops whose rates and stages a full update stores. -/
def storeHops (s : Scan D) (q : Hp D) : Hp D :=
  { q with hopState := fun i =>
      let state := q.hopState i
      if s.updated i then
        let next := nextRate cfg state.rc state.incStage state.u
        { state with rc := next.1, incStage := next.2 }
      else state }

/-- One rate for the path. -/
def updateAggregate (fastReact : Bool) (s : Scan D) : Hp D :=
  if ∃ i, s.updated i then
    let q := { s.hp with u := average cfg s.hp.u s.maxU s.dt }
    let next := nextRate cfg q.curRate q.incStage q.u
    if fastReact then { q with rate := next.1 }
    else { q with rate := next.1, curRate := next.1, incStage := next.2 }
  else s.hp

/-- One rate for each hop. A full update stores `newIncStage`, which the source has not set. -/
def updatePerHop (fastReact : Bool) (newIncStage : BitVec 32) (s : Scan D) (ih : Wire.IntHeader) :
    Hp D :=
  if ∃ i, s.updated i then
    let rate := lowestRate cfg s ih
    if fastReact then { s.hp with rate }
    else storeHops cfg s { s.hp with rate, curRate := rate, incStage := newIncStage.toNat }
  else s.hp

/-- What `UpdateRateHp` does once there are INT data to compare with. -/
def adjust (fastReact : Bool) (newIncStage : BitVec 32) (ih : Wire.IntHeader) (q : Hp D) : Hp D :=
  if ih.nhop.toNat ≤ Wire.IntHeader.maxHop then
    if cfg.multipleRate then updatePerHop cfg fastReact newIncStage (scan cfg fastReact ih q) ih
    else updateAggregate cfg fastReact (scan cfg fastReact ih q)
  else q

/-- `UpdateRateHp`; `none` is the failed assertion about the first INT data. -/
def updateRateHp (fastReact : Bool) (newIncStage : BitVec 32) (ih : Wire.IntHeader) (sndNxt : ℕ)
    (q : Hp D) : Option (Hp D) :=
  let nextSeq := sndNxt % 2 ^ 32
  if q.lastUpdateSeq = 0 then
    if ih.nhop.toNat ≤ Wire.IntHeader.maxHop then
      some { q with
        lastUpdateSeq := nextSeq
        hop := fun i => if i.val < ih.nhop.toNat then ih.hop i else q.hop i }
    else none
  else
    let next := q.adjust cfg fastReact newIncStage ih
    if !fastReact && nextSeq > next.lastUpdateSeq then some { next with lastUpdateSeq := nextSeq }
    else some next

/-- `HandleAckHp` and `FastReactHp`. -/
def handleAckHp (ackSeq : ℕ) (newIncStage : BitVec 32) (ih : Wire.IntHeader) (sndNxt : ℕ)
    (q : Hp D) : Option (Hp D) :=
  if ackSeq > q.lastUpdateSeq then q.updateRateHp cfg false newIncStage ih sndNxt
  else if cfg.fastReact then q.updateRateHp cfg true newIncStage ih sndNxt
  else some q

end Hp

/-! ## Runs -/

/-- An acknowledgement, and `snd_nxt` when it is handled. -/
structure HpAck where
  ackSeq : BitVec 32
  ih : Wire.IntHeader
  sndNxt : ℕ

/-- A QP with its full updates. -/
structure HpRun (D : Type) where
  qp : Hp D
  updates : List Reaction

section Runs

variable {D : Type} [Double D] (cfg : HpConfig D)

/-- `AddQueuePair` starts a QP at the rate of the device, with the INT data that are in memory. -/
def Hp.start (hop : Fin 5 → Wire.IntHop) : Hp D where
  rate := cfg.maxRate
  lastUpdateSeq := 0
  curRate := cfg.maxRate
  hop
  incStage := 0
  u := Double.ofNat 1
  hopState _ := ⟨Double.ofNat 1, if cfg.multipleRate then cfg.maxRate else 0, 0⟩

/-- The full updates after an acknowledgement. -/
def HpRun.logged (s : HpRun D) (e : HpAck) : List Reaction :=
  if e.ackSeq.toNat > s.qp.lastUpdateSeq then
    s.updates ++ [⟨e.ackSeq.toNat, e.sndNxt % 2 ^ 32⟩]
  else s.updates

/-- An acknowledgement comes with the value of `new_incStage` where it is not set. -/
def hpcc (hop : Fin 5 → Wire.IntHop) : Machine (HpRun D) (HpAck × BitVec 32) where
  init := ⟨Hp.start cfg hop, []⟩
  step s e := (s.qp.handleAckHp cfg e.1.ackSeq.toNat e.2 e.1.ih e.1.sndNxt).map fun qp =>
    ⟨qp, s.logged e.1⟩

end Runs

namespace Hp

variable {D : Type}

/-! ## What the scan leaves alone -/

/-- The rates and stages are the same, and what was noted as sent. -/
structure SameRates (q r : Hp D) : Prop where
  rate : r.rate = q.rate
  lastUpdateSeq : r.lastUpdateSeq = q.lastUpdateSeq
  curRate : r.curRate = q.curRate
  incStage : r.incStage = q.incStage
  rc : ∀ i, (r.hopState i).rc = (q.hopState i).rc
  hopIncStage : ∀ i, (r.hopState i).incStage = (q.hopState i).incStage

namespace SameRates

variable {q r s : Hp D}

theorem refl (q : Hp D) : q.SameRates q :=
  ⟨rfl, rfl, rfl, rfl, fun _ => rfl, fun _ => rfl⟩

theorem trans (h : q.SameRates r) (h' : r.SameRates s) : q.SameRates s where
  rate := h'.rate.trans h.rate
  lastUpdateSeq := h'.lastUpdateSeq.trans h.lastUpdateSeq
  curRate := h'.curRate.trans h.curRate
  incStage := h'.incStage.trans h.incStage
  rc i := (h'.rc i).trans (h.rc i)
  hopIncStage i := (h'.hopIncStage i).trans (h.hopIncStage i)

end SameRates

variable [Double D] (cfg : HpConfig D)

theorem scanHop_same (fastReact : Bool) (ih : Wire.IntHeader) (s : Scan D) (i : Fin 5) :
    s.hp.SameRates (scanHop cfg fastReact ih s i).hp := by
  unfold scanHop
  split
  · exact SameRates.refl _
  · refine ⟨rfl, rfl, rfl, rfl, fun j => ?_, fun j => ?_⟩
    · dsimp only
      split
      · by_cases hSame : j = i
        · subst hSame
          rw [Function.update_self]
        · rw [Function.update_of_ne hSame]
      · rfl
    · dsimp only
      split
      · by_cases hSame : j = i
        · subst hSame
          rw [Function.update_self]
        · rw [Function.update_of_ne hSame]
      · rfl

theorem scan_same (fastReact : Bool) (ih : Wire.IntHeader) (q : Hp D) :
    q.SameRates (scan cfg fastReact ih q).hp := by
  have hAll (path : List (Fin 5)) (s : Scan D) (h : q.SameRates s.hp) :
      q.SameRates (path.foldl (scanHop cfg fastReact ih) s).hp := by
    induction path generalizing s with
    | nil => exact h
    | cons i path hRest =>
      exact hRest _ (h.trans (scanHop_same cfg fastReact ih s i))
  exact hAll _ _ (SameRates.refl q)

/-! ## Bounds -/

/-- A rate that the clamps let through. -/
def InRange (rate : ℕ) : Prop := cfg.minRate ≤ rate ∧ rate ≤ cfg.maxRate

variable {cfg}

omit [Double D] in
theorem bound_inRange (hRange : cfg.minRate ≤ cfg.maxRate) (rate : ℕ) :
    InRange cfg (bound cfg rate) := by
  unfold bound InRange
  dsimp only
  split
  · split
    · omega
    · omega
  · split
    · omega
    · omega

theorem nextRate_inRange (hRange : cfg.minRate ≤ cfg.maxRate) (rate incStage : ℕ) (u : D) :
    InRange cfg (nextRate cfg rate incStage u).1 := by
  unfold nextRate
  dsimp only
  split
  · exact bound_inRange hRange _
  · exact bound_inRange hRange _

/-- The stage counts the additive increases in a row. -/
theorem nextRate_stage (rate incStage : ℕ) (u : D) :
    (nextRate cfg rate incStage u).2 ≤ cfg.miThresh := by
  unfold nextRate
  dsimp only
  split
  · exact Nat.zero_le _
  · rename_i hIncrease
    have hStage : ¬ incStage ≥ cfg.miThresh := by
      intro hMore
      refine hIncrease ?_
      rw [decide_eq_true hMore, Bool.or_true]
    omega

/-- What holds of a QP in every run. -/
structure Bounded (cfg : HpConfig D) (q : Hp D) : Prop where
  rate : InRange cfg q.rate
  curRate : InRange cfg q.curRate
  rc : cfg.multipleRate = true → ∀ i, InRange cfg (q.hopState i).rc
  incStage : cfg.multipleRate = false → q.incStage ≤ cfg.miThresh
  hopIncStage : ∀ i, (q.hopState i).incStage ≤ cfg.miThresh

omit [Double D] in
theorem Bounded.of_same {q r : Hp D} (h : q.Bounded cfg) (hSame : q.SameRates r) :
    r.Bounded cfg where
  rate := by rw [hSame.rate]; exact h.rate
  curRate := by rw [hSame.curRate]; exact h.curRate
  rc hMultiple i := by rw [hSame.rc]; exact h.rc hMultiple i
  incStage hSingle := by rw [hSame.incStage]; exact h.incStage hSingle
  hopIncStage i := by rw [hSame.hopIncStage]; exact h.hopIncStage i

theorem Bounded.lowestRate {s : Scan D} (h : s.hp.Bounded cfg)
    (hRange : cfg.minRate ≤ cfg.maxRate) (hMultiple : cfg.multipleRate = true)
    (ih : Wire.IntHeader) : InRange cfg (lowestRate cfg s ih) := by
  have hAll (path : List (Fin 5)) (rate : ℕ) (hRate : InRange cfg rate) :
      InRange cfg (path.foldl (fun rate i =>
        let state := s.hp.hopState i
        min rate (if s.updated i then (nextRate cfg state.rc state.incStage state.u).1
          else state.rc)) rate) := by
    induction path generalizing rate with
    | nil => exact hRate
    | cons i path hRest =>
      have hHop : InRange cfg (if s.updated i then
          (nextRate cfg (s.hp.hopState i).rc (s.hp.hopState i).incStage (s.hp.hopState i).u).1
          else (s.hp.hopState i).rc) := by
        split
        · exact nextRate_inRange hRange _ _ _
        · exact h.rc hMultiple i
      exact hRest _ ⟨le_min hRate.1 hHop.1, (min_le_left _ _).trans hRate.2⟩
  exact hAll _ _ ⟨hRange, Nat.le_refl _⟩

theorem Bounded.storeHops {s : Scan D} {q : Hp D} (h : q.Bounded cfg)
    (hRange : cfg.minRate ≤ cfg.maxRate) : (storeHops cfg s q).Bounded cfg := by
  refine { h with rc := ?_, hopIncStage := ?_ }
  · intro hMultiple i
    unfold Hp.storeHops
    dsimp only
    split
    · exact nextRate_inRange hRange _ _ _
    · exact h.rc hMultiple i
  · intro i
    unfold Hp.storeHops
    dsimp only
    split
    · exact nextRate_stage _ _ _
    · exact h.hopIncStage i

theorem Bounded.updateAggregate {s : Scan D} (h : s.hp.Bounded cfg)
    (hRange : cfg.minRate ≤ cfg.maxRate) (fastReact : Bool) :
    (updateAggregate cfg fastReact s).Bounded cfg := by
  unfold Hp.updateAggregate
  split
  · dsimp only
    have hRate := nextRate_inRange hRange s.hp.curRate s.hp.incStage
      (average cfg s.hp.u s.maxU s.dt)
    split
    · exact { h with rate := hRate }
    · exact { h with
        rate := hRate
        curRate := hRate
        incStage := fun _ => nextRate_stage _ _ _ }
  · exact h

theorem Bounded.updatePerHop {s : Scan D} (h : s.hp.Bounded cfg)
    (hRange : cfg.minRate ≤ cfg.maxRate) (hMultiple : cfg.multipleRate = true) (fastReact : Bool)
    (newIncStage : BitVec 32) (ih : Wire.IntHeader) :
    (updatePerHop cfg fastReact newIncStage s ih).Bounded cfg := by
  unfold Hp.updatePerHop
  split
  · dsimp only
    have hRate := h.lowestRate hRange hMultiple ih
    split
    · exact { h with rate := hRate }
    · have hBoth : ({ s.hp with
          rate := Hp.lowestRate cfg s ih
          curRate := Hp.lowestRate cfg s ih
          incStage := newIncStage.toNat } : Hp D).Bounded cfg :=
        { h with
          rate := hRate
          curRate := hRate
          incStage := fun hSingle => absurd (hSingle.symm.trans hMultiple) Bool.false_ne_true }
      exact hBoth.storeHops hRange
  · exact h

theorem Bounded.adjust {q : Hp D} (h : q.Bounded cfg) (hRange : cfg.minRate ≤ cfg.maxRate)
    (fastReact : Bool) (newIncStage : BitVec 32) (ih : Wire.IntHeader) :
    (q.adjust cfg fastReact newIncStage ih).Bounded cfg := by
  have hScan := h.of_same (scan_same cfg fastReact ih q)
  unfold Hp.adjust
  split
  · split
    · rename_i hMultiple
      exact hScan.updatePerHop hRange hMultiple fastReact newIncStage ih
    · exact hScan.updateAggregate hRange fastReact
  · exact h

theorem lastUpdateSeq_adjust (fastReact : Bool) (newIncStage : BitVec 32) (ih : Wire.IntHeader)
    (q : Hp D) : (q.adjust cfg fastReact newIncStage ih).lastUpdateSeq = q.lastUpdateSeq := by
  have hScan := (scan_same cfg fastReact ih q).lastUpdateSeq
  unfold Hp.adjust updatePerHop updateAggregate
  split
  · split
    · split
      · dsimp only
        split
        · exact hScan
        · exact hScan
      · exact hScan
    · split
      · dsimp only
        split
        · exact hScan
        · exact hScan
      · exact hScan
  · rfl

/-- What the next full update starts from. -/
def references (q : Hp D) : ℕ × ℕ × List (ℕ × ℕ) :=
  (q.curRate, q.incStage, List.ofFn fun i => ((q.hopState i).rc, (q.hopState i).incStage))

omit [Double D] in
theorem SameRates.references {q r : Hp D} (h : q.SameRates r) : r.references = q.references := by
  unfold Hp.references
  rw [h.curRate, h.incStage]
  simp only [h.rc, h.hopIncStage]

/-- A fast reaction leaves them alone. -/
theorem references_adjust (newIncStage : BitVec 32) (ih : Wire.IntHeader) (q : Hp D) :
    (q.adjust cfg true newIncStage ih).references = q.references := by
  have hScan := (scan_same cfg true ih q).references
  unfold Hp.adjust updatePerHop updateAggregate
  split
  · split
    · split
      · exact hScan
      · exact hScan
    · split
      · exact hScan
      · exact hScan
  · rfl

/-- The first INT data are only stored. Later ones change the rates, and a full update notes
`snd_nxt`. -/
theorem updateRateHp_cases {fastReact : Bool} {newIncStage : BitVec 32} {ih : Wire.IntHeader}
    {sndNxt : ℕ} {q r : Hp D} (h : q.updateRateHp cfg fastReact newIncStage ih sndNxt = some r) :
    (q.lastUpdateSeq = 0 ∧ ∃ hop, r = { q with lastUpdateSeq := sndNxt % 2 ^ 32, hop }) ∨
    (q.lastUpdateSeq ≠ 0 ∧ fastReact = false ∧
      r = { q.adjust cfg false newIncStage ih with
        lastUpdateSeq := max q.lastUpdateSeq (sndNxt % 2 ^ 32) }) ∨
    (q.lastUpdateSeq ≠ 0 ∧ fastReact = true ∧ r = q.adjust cfg true newIncStage ih) := by
  unfold Hp.updateRateHp at h
  dsimp only at h
  split at h
  · rename_i hFirst
    split at h
    · cases h
      exact Or.inl ⟨hFirst, _, rfl⟩
    · cases h
  · rename_i hLater
    cases fastReact with
    | true =>
      cases h
      exact Or.inr (Or.inr ⟨hLater, rfl, rfl⟩)
    | false =>
      refine Or.inr (Or.inl ⟨hLater, rfl, ?_⟩)
      have hLast : (q.adjust cfg false newIncStage ih).lastUpdateSeq = q.lastUpdateSeq :=
        lastUpdateSeq_adjust false newIncStage ih q
      rw [hLast] at h
      by_cases hMore : sndNxt % 2 ^ 32 > q.lastUpdateSeq
      · rw [if_pos (by rw [decide_eq_true hMore]; rfl)] at h
        cases h
        rw [Nat.max_eq_right (Nat.le_of_lt hMore)]
      · rw [if_neg (by rw [decide_eq_false hMore]; exact Bool.false_ne_true)] at h
        cases h
        rw [Nat.max_eq_left (Nat.le_of_not_gt hMore)]
        exact congrArg (fun last => { q.adjust cfg false newIncStage ih with lastUpdateSeq := last })
          hLast

theorem Bounded.updateRateHp {fastReact : Bool} {newIncStage : BitVec 32} {ih : Wire.IntHeader}
    {sndNxt : ℕ} {q r : Hp D} (hq : q.Bounded cfg) (hRange : cfg.minRate ≤ cfg.maxRate)
    (h : q.updateRateHp cfg fastReact newIncStage ih sndNxt = some r) : r.Bounded cfg := by
  rcases updateRateHp_cases h with ⟨-, hop, rfl⟩ | ⟨-, -, rfl⟩ | ⟨-, -, rfl⟩
  · exact { hq with }
  · exact { hq.adjust hRange false newIncStage ih with }
  · exact hq.adjust hRange true newIncStage ih

end Hp

/-! ## Once per round trip -/

namespace HpRun

variable {D : Type} [Double D] {cfg : HpConfig D} {hop : Fin 5 → Wire.IntHop}

/-- Whether a step changes what the next full update starts from. -/
def changes (cfg : HpConfig D) (hop : Fin 5 → Wire.IntHop) (s : HpRun D) (e : HpAck × BitVec 32) :
    ℕ :=
  ((hpcc cfg hop).step s e).elim 0 fun t => if t.qp.references = s.qp.references then 0 else 1

/-- The two kinds of a step: an acknowledgement beyond what the last full update noted, and any
other one. -/
theorem step_cases {s t : HpRun D} {e : HpAck × BitVec 32} (h : (hpcc cfg hop).step s e = some t) :
    (s.qp.lastUpdateSeq < e.1.ackSeq.toNat ∧
      s.qp.updateRateHp cfg false e.2 e.1.ih e.1.sndNxt = some t.qp ∧
      t.updates = s.updates ++ [⟨e.1.ackSeq.toNat, e.1.sndNxt % 2 ^ 32⟩]) ∨
    (t.updates = s.updates ∧
      (s.qp.updateRateHp cfg true e.2 e.1.ih e.1.sndNxt = some t.qp ∨ t.qp = s.qp)) := by
  obtain ⟨qp, hAck, rfl⟩ := Option.map_eq_some_iff.mp h
  unfold Hp.handleAckHp at hAck
  by_cases hFull : e.1.ackSeq.toNat > s.qp.lastUpdateSeq
  · rw [if_pos hFull] at hAck
    exact Or.inl ⟨hFull, hAck, if_pos hFull⟩
  · rw [if_neg hFull] at hAck
    refine Or.inr ⟨if_neg hFull, ?_⟩
    split at hAck
    · exact Or.inl hAck
    · cases hAck
      exact Or.inr rfl

theorem bounded_init (hRange : cfg.minRate ≤ cfg.maxRate) : (hpcc cfg hop).init.qp.Bounded cfg where
  rate := ⟨hRange, Nat.le_refl _⟩
  curRate := ⟨hRange, Nat.le_refl _⟩
  rc hMultiple i := by
    have hStart : ((Hp.start cfg hop).hopState i).rc = cfg.maxRate := by
      unfold Hp.start
      dsimp only
      rw [if_pos hMultiple]
    show Hp.InRange cfg ((Hp.start cfg hop).hopState i).rc
    rw [hStart]
    exact ⟨hRange, Nat.le_refl _⟩
  incStage _ := Nat.zero_le _
  hopIncStage _ := Nat.zero_le _

theorem oncePerRound_step {s t : HpRun D} {e : HpAck × BitVec 32}
    (hs : OncePerRound s.qp.lastUpdateSeq s.updates) (h : (hpcc cfg hop).step s e = some t) :
    OncePerRound t.qp.lastUpdateSeq t.updates := by
  rcases step_cases h with ⟨hMore, hFull, hLog⟩ | ⟨hLog, hFast | hSame⟩
  · rw [hLog]
    rcases Hp.updateRateHp_cases hFull with ⟨hFirst, hop, hNext⟩ | ⟨-, -, hNext⟩ | ⟨-, hFalse, -⟩
    · rw [hNext]
      exact hs.react hMore (by rw [hFirst]; exact Nat.zero_le _) (Nat.le_refl _)
    · rw [hNext]
      exact hs.react hMore (Nat.le_max_left _ _) (Nat.le_max_right _ _)
    · exact absurd hFalse Bool.false_ne_true
  · rw [hLog]
    rcases Hp.updateRateHp_cases hFast with ⟨hFirst, hop, hNext⟩ | ⟨-, hTrue, -⟩ | ⟨-, -, hNext⟩
    · rw [hNext]
      exact hs.mono (by rw [hFirst]; exact Nat.zero_le _)
    · exact absurd hTrue.symm Bool.false_ne_true
    · rw [hNext, Hp.lastUpdateSeq_adjust]
      exact hs
  · rw [hLog, hSame]
    exact hs

/-- A change is a full update. -/
theorem changes_step {s t : HpRun D} {e : HpAck × BitVec 32}
    (h : (hpcc cfg hop).step s e = some t) :
    changes cfg hop s e + s.updates.length ≤ t.updates.length := by
  unfold changes
  rw [h, Option.elim_some]
  rcases step_cases h with ⟨-, -, hLog⟩ | ⟨hLog, hFast | hSame⟩
  · rw [hLog, List.length_append, List.length_singleton]
    split
    · omega
    · omega
  · have hKept : t.qp.references = s.qp.references := by
      rcases Hp.updateRateHp_cases hFast with ⟨-, hop, hNext⟩ | ⟨-, hTrue, -⟩ | ⟨-, -, hNext⟩
      · rw [hNext]
        rfl
      · exact absurd hTrue.symm Bool.false_ne_true
      · rw [hNext]
        exact Hp.references_adjust e.2 e.1.ih s.qp
    rw [if_pos hKept, hLog, Nat.zero_add]
  · rw [if_pos (by rw [hSame]), hLog, Nat.zero_add]

end HpRun

/-- In every run, what the rates are computed from changes at most once for each full update, and a
full update is due to an acknowledgement beyond the 32 bits of `snd_nxt` at every earlier one. -/
theorem hpcc_once_per_round {D : Type} [Double D] (cfg : HpConfig D) (hop : Fin 5 → Wire.IntHop)
    {es : List (HpAck × BitVec 32)} {s : HpRun D}
    (h : (hpcc cfg hop).run (hpcc cfg hop).init es = some s) :
    (hpcc cfg hop).cost (HpRun.changes cfg hop) (hpcc cfg hop).init es ≤ s.updates.length ∧
      s.updates.Pairwise fun a b => a.next < b.acked := by
  have hOnce : OncePerRound s.qp.lastUpdateSeq s.updates :=
    Machine.reachable_induction (I := fun s => OncePerRound s.qp.lastUpdateSeq s.updates)
      (OncePerRound.nil _) (fun _ _ _ hs hNext => HpRun.oncePerRound_step hs hNext) ⟨es, h⟩
  have hCost := Machine.cost_add_le (M := hpcc cfg hop) (C := fun _ _ => True) (I := fun _ => True)
    (f := HpRun.changes cfg hop) (P := fun s => s.updates.length) (fun _ _ _ _ _ _ => trivial)
    (fun _ _ _ _ _ hNext => HpRun.changes_step hNext) trivial (Machine.guarded_true _ _ _) h
  exact ⟨hCost, hOnce.apart⟩

/-! ## A stage that nothing reads -/

namespace Hp

variable {D : Type}

/-- `q` with another `m_incStage`. -/
def withStage (incStage : ℕ) (q : Hp D) : Hp D := { q with incStage }

/-- Two QPs that differ in `m_incStage` at most. -/
def SameButStage (q r : Hp D) : Prop := r.withStage q.incStage = q

theorem SameButStage.refl (q : Hp D) : q.SameButStage q := rfl

theorem SameButStage.lastUpdateSeq {q r : Hp D} (h : q.SameButStage r) :
    r.lastUpdateSeq = q.lastUpdateSeq := by
  have hStage : r.withStage q.incStage = q := h
  rw [← hStage]
  rfl

variable [Double D] (cfg : HpConfig D)

/-- The scan carries `m_incStage` along. -/
def Scan.withStage (incStage : ℕ) (s : Scan D) : Scan D :=
  { s with hp := s.hp.withStage incStage }

theorem scanHop_withStage (fastReact : Bool) (ih : Wire.IntHeader) (incStage : ℕ) (s : Scan D)
    (i : Fin 5) : scanHop cfg fastReact ih (s.withStage incStage) i =
      (scanHop cfg fastReact ih s i).withStage incStage := by
  unfold scanHop
  split
  · rfl
  · rfl

theorem scan_withStage (fastReact : Bool) (ih : Wire.IntHeader) (incStage : ℕ) (q : Hp D) :
    scan cfg fastReact ih (q.withStage incStage) = (scan cfg fastReact ih q).withStage incStage := by
  have hAll (path : List (Fin 5)) (s : Scan D) :
      path.foldl (scanHop cfg fastReact ih) (s.withStage incStage) =
        (path.foldl (scanHop cfg fastReact ih) s).withStage incStage := by
    induction path generalizing s with
    | nil => rfl
    | cons i path hRest =>
      rw [List.foldl_cons, List.foldl_cons, scanHop_withStage, hRest]
  exact hAll _ ⟨q, Double.ofNat 0, 0, fun _ => false⟩

theorem updatePerHop_withStage (fastReact : Bool) (x y : BitVec 32) (incStage : ℕ) (s : Scan D)
    (ih : Wire.IntHeader) : (updatePerHop cfg fastReact x (s.withStage incStage) ih).SameButStage
      (updatePerHop cfg fastReact y s ih) := by
  unfold updatePerHop
  by_cases hAny : ∃ i, s.updated i
  · rw [if_pos hAny, if_pos (show ∃ i, (s.withStage incStage).updated i from hAny)]
    dsimp only
    split
    · rfl
    · rfl
  · rw [if_neg hAny, if_neg (show ¬ ∃ i, (s.withStage incStage).updated i from hAny)]
    rfl

variable {cfg}

theorem SameButStage.adjust (hMultiple : cfg.multipleRate = true) {q r : Hp D}
    (h : q.SameButStage r) (fastReact : Bool) (x y : BitVec 32) (ih : Wire.IntHeader) :
    (q.adjust cfg fastReact x ih).SameButStage (r.adjust cfg fastReact y ih) := by
  rw [← h]
  unfold Hp.adjust
  rw [if_pos hMultiple, if_pos hMultiple, scan_withStage]
  split
  · exact updatePerHop_withStage cfg fastReact x y _ _ ih
  · rfl

theorem SameButStage.updateRateHp (hMultiple : cfg.multipleRate = true) {q r next : Hp D}
    (h : q.SameButStage r) {fastReact : Bool} {x : BitVec 32} (y : BitVec 32) {ih : Wire.IntHeader}
    {sndNxt : ℕ} (hNext : q.updateRateHp cfg fastReact x ih sndNxt = some next) :
    ∃ other, r.updateRateHp cfg fastReact y ih sndNxt = some other ∧ next.SameButStage other := by
  have hAdjust := h.adjust hMultiple fastReact x y ih
  unfold Hp.updateRateHp at hNext ⊢
  dsimp only at hNext ⊢
  rw [h.lastUpdateSeq, hAdjust.lastUpdateSeq]
  split at hNext
  · split at hNext
    · cases hNext
      rename_i hFirst hShort
      rw [if_pos hFirst, if_pos hShort]
      refine ⟨_, rfl, ?_⟩
      rw [← h]
      rfl
    · cases hNext
  · rename_i hLater
    rw [if_neg hLater]
    split at hNext
    · cases hNext
      rename_i hMore
      rw [if_pos hMore]
      refine ⟨_, rfl, ?_⟩
      exact congrArg (fun q : Hp D => { q with lastUpdateSeq := sndNxt % 2 ^ 32 }) hAdjust
    · cases hNext
      rename_i hLess
      rw [if_neg hLess]
      exact ⟨_, rfl, hAdjust⟩

theorem SameButStage.handleAckHp (hMultiple : cfg.multipleRate = true) {q r next : Hp D}
    (h : q.SameButStage r) {ackSeq : ℕ} {x : BitVec 32} (y : BitVec 32) {ih : Wire.IntHeader}
    {sndNxt : ℕ} (hNext : q.handleAckHp cfg ackSeq x ih sndNxt = some next) :
    ∃ other, r.handleAckHp cfg ackSeq y ih sndNxt = some other ∧ next.SameButStage other := by
  unfold Hp.handleAckHp at hNext ⊢
  rw [h.lastUpdateSeq]
  split at hNext
  · rename_i hFull
    rw [if_pos hFull]
    exact h.updateRateHp hMultiple y hNext
  · rename_i hFull
    rw [if_neg hFull]
    split at hNext
    · rename_i hFast
      rw [if_pos hFast]
      exact h.updateRateHp hMultiple y hNext
    · rename_i hSlow
      cases hNext
      rw [if_neg hSlow]
      exact ⟨r, rfl, h⟩

end Hp

/-- With one rate for each hop, the value of `new_incStage` where it is not set has no effect on
anything but `m_incStage`. -/
theorem hpcc_stage_unread {D : Type} [Double D] {cfg : HpConfig D}
    (hMultiple : cfg.multipleRate = true) (hop : Fin 5 → Wire.IntHop)
    {es fs : List (HpAck × BitVec 32)} (hSame : es.map Prod.fst = fs.map Prod.fst) {s : HpRun D}
    (h : (hpcc cfg hop).run (hpcc cfg hop).init es = some s) :
    ∃ t, (hpcc cfg hop).run (hpcc cfg hop).init fs = some t ∧
      t.updates = s.updates ∧ s.qp.SameButStage t.qp := by
  -- Two runs that agree so far go on to agree.
  have hAll (es : List (HpAck × BitVec 32)) : ∀ (fs : List (HpAck × BitVec 32)) (q r : HpRun D),
      es.map Prod.fst = fs.map Prod.fst → r.updates = q.updates → q.qp.SameButStage r.qp →
      (hpcc cfg hop).run q es = some s → ∃ t, (hpcc cfg hop).run r fs = some t ∧
        t.updates = s.updates ∧ s.qp.SameButStage t.qp := by
    induction es with
    | nil =>
      intro fs q r hSame hLog hQp hRun
      cases hRun
      rw [List.map_eq_nil_iff.mp hSame.symm]
      exact ⟨r, rfl, hLog, hQp⟩
    | cons e es ih =>
      intro fs q r hSame hLog hQp hRun
      cases fs with
      | nil => cases hSame
      | cons f fs =>
        obtain ⟨hHead, hTail⟩ := List.cons.inj hSame
        obtain ⟨next, hNext, hRest⟩ := Machine.run_cons_eq_some.mp hRun
        obtain ⟨qp, hAck, rfl⟩ := Option.map_eq_some_iff.mp hNext
        obtain ⟨other, hOther, hAgree⟩ := hQp.handleAckHp hMultiple f.2 hAck
        rw [hHead] at hOther
        have hLogged : r.logged f.1 = q.logged e.1 := by
          unfold HpRun.logged
          rw [hHead, hLog, hQp.lastUpdateSeq]
        obtain ⟨t, ht, hEnd⟩ := ih fs ⟨qp, q.logged e.1⟩ ⟨other, r.logged f.1⟩ hTail hLogged hAgree
          hRest
        exact ⟨t, Machine.run_cons_eq_some.mpr
          ⟨_, Option.map_eq_some_iff.mpr ⟨other, hOther, rfl⟩, ht⟩, hEnd⟩
  exact hAll es fs _ _ hSame rfl (Hp.SameButStage.refl _) h

/-! ## A run over one hop -/

instance : Double ℚ where
  ofNat n := n
  nano := 1 / 1000000000
  lt a b := decide (a < b)
  le a b := decide (a ≤ b)
  truncate := truncate

def hpSampleConfig : HpConfig ℚ where
  minRate := 100000000
  maxRate := 100000000000
  rai := 50000000
  baseRtt := 8000
  win := 100000
  miThresh := 5
  targetUtil := 95 / 100
  multipleRate := false
  sampleFeedback := false
  fastReact := true
  multi := 1

/-- INT data of one hop. -/
def intOf (time bytes qlen : ℕ) : Wire.IntHeader :=
  Wire.IntHeader.fresh.pushHop 1 ⟨time, bytes, qlen, 100000000000⟩

/-- The first INT data, a full update over a long queue, a fast reaction and another full update. -/
def hpSampleRun : List (HpAck × BitVec 32) :=
  [(⟨1000, intOf 1000 0 0, 100000⟩, 7), (⟨101000, intOf 9000 100000 200000, 200000⟩, 7),
    (⟨150000, intOf 13000 150000 80000, 250000⟩, 7), (⟨201000, intOf 17000 200000 0, 300000⟩, 7)]

def hpSample : Machine (HpRun ℚ) (HpAck × BitVec 32) := hpcc hpSampleConfig fun _ => ⟨0, 0⟩

theorem hpSampleRun_rates : (hpSample.run hpSample.init hpSampleRun).map
    (fun s => decide (s.qp.rate = 75321991037 ∧ s.updates.length = 3)) = some true := by
  decide +kernel

theorem hpcc_once_per_round_sample :
    ∃ s, hpSample.run hpSample.init hpSampleRun = some s ∧
      s.updates.length = 3 ∧ s.updates.Pairwise fun a b => a.next < b.acked := by
  obtain ⟨s, hRun, hRates⟩ := Option.map_eq_some_iff.mp hpSampleRun_rates
  exact ⟨s, hRun, (of_decide_eq_true hRates).2,
    (hpcc_once_per_round hpSampleConfig (fun _ => ⟨0, 0⟩) hRun).2⟩

end Dpdq.Ns3
