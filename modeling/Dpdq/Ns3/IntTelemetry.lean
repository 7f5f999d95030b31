import Mathlib.Algebra.Group.Nat.Defs
import Mathlib.Algebra.GroupWithZero.Nat
import Mathlib.Data.BitVec
import Mathlib.Tactic.IntervalCases
import Dpdq.Lib.Machine
import Dpdq.Lib.Ring
import Dpdq.Ns3.PacketHeaders

/-!
# INT data of a port

`IntHop` and `IntHeader` of `int-header.h`: a port pushes its clock, its counter of sent bytes, its
queue and its rate, and HPCC takes the differences of what two packets brought along.

* `IntHeader.shows_pushHop`: the header is a ring of five hops.
* `int_deltas`: the differences are the time between the packets and, up to one unit, the bytes that
  the port sent between them.
-/

namespace Dpdq.Ns3.Wire

open Dpdq.Lib

/-! ## Hops -/

/-- What a switch pushes: the arguments of `PushHop`. -/
structure HopStamp where
  time : Nat
  bytes : Nat
  qlen : Nat
  rate : Nat
deriving DecidableEq

namespace IntHop

def byteUnit : Nat := 128
def qlenUnit : Nat := 80

/-- `lineRateValues`. -/
def lineRateValues : List Nat :=
  [25000000000, 50000000000, 100000000000, 200000000000, 400000000000, 40000000000, 0, 0]

/-- The `switch` of `Set`; there is no code for another rate. -/
def lineRateCode (rate : Nat) : Option (BitVec 3) :=
  if rate = 25000000000 then some 0
  else if rate = 50000000000 then some 1
  else if rate = 100000000000 then some 2
  else if rate = 200000000000 then some 3
  else if rate = 400000000000 then some 4
  else if rate = 40000000000 then some 5
  else none

/-- The two words as one; the bit-fields begin at its lowest bit. -/
def word (h : IntHop) : BitVec 64 := h.buf1 ++ h.buf0

def lineRate (h : IntHop) : BitVec 3 := h.word.extractLsb' 0 3
def time (h : IntHop) : BitVec 24 := h.word.extractLsb' 3 24
def bytes (h : IntHop) : BitVec 20 := h.word.extractLsb' 27 20
def qlen (h : IntHop) : BitVec 17 := h.word.extractLsb' 47 17

/-- The hop with the given bit-fields. -/
def ofFields (lineRate : BitVec 3) (time : BitVec 24) (bytes : BitVec 20) (qlen : BitVec 17) :
    IntHop :=
  let word : BitVec 64 := qlen ++ bytes ++ time ++ lineRate
  ⟨word.extractLsb' 0 32, word.extractLsb' 32 32⟩

/-- `Set`. A rate without a code leaves the old one. `multi` is `IntHop::multi`. -/
def set (multi : Nat) (h : IntHop) (s : HopStamp) : IntHop :=
  ofFields ((lineRateCode s.rate).getD h.lineRate) (BitVec.ofNat 24 s.time)
    (BitVec.ofNat 20 (s.bytes / (byteUnit * multi % 2 ^ 32)))
    (BitVec.ofNat 17 (s.qlen / (qlenUnit * multi % 2 ^ 32)))

def getLineRate (h : IntHop) : Nat := lineRateValues.getD h.lineRate.toNat 0

/-- `GetBytesDelta`; the bit-fields are promoted to `int`, and the product has 32 bits. -/
def getBytesDelta (multi : Nat) (h b : IntHop) : Nat :=
  if h.bytes.toNat ≥ b.bytes.toNat then
    (h.bytes.toNat - b.bytes.toNat) * byteUnit * multi % 2 ^ 32
  else (h.bytes.toNat + 2 ^ 20 - b.bytes.toNat) * byteUnit * multi % 2 ^ 32

def getTimeDelta (h b : IntHop) : Nat :=
  if h.time.toNat ≥ b.time.toNat then h.time.toNat - b.time.toNat
  else h.time.toNat + 2 ^ 24 - b.time.toNat

/-! ### Bit-fields -/

theorem word_ofFields (lineRate : BitVec 3) (time : BitVec 24) (bytes : BitVec 20)
    (qlen : BitVec 17) :
    (ofFields lineRate time bytes qlen).word = qlen ++ bytes ++ time ++ lineRate := by
  generalize hWord : (qlen ++ bytes ++ time ++ lineRate : BitVec 64) = word
  have hParts : (ofFields lineRate time bytes qlen).word =
      word.extractLsb' 32 32 ++ word.extractLsb' 0 32 := by
    unfold ofFields IntHop.word
    dsimp only
    rw [hWord]
  rw [hParts]
  apply BitVec.eq_of_getLsbD_eq
  intro i hi
  rw [BitVec.getLsbD_append]
  by_cases hLow : i < 32
  · simp [hLow]
  · have hBack : 32 + (i - 32) = i := by omega
    have hHigh : i - 32 < 32 := by omega
    simp [hLow, hHigh, hBack]

theorem getLsbD_ofFields (lineRate : BitVec 3) (time : BitVec 24) (bytes : BitVec 20)
    (qlen : BitVec 17) (i : Nat) :
    (ofFields lineRate time bytes qlen).word.getLsbD i =
      if i < 3 then lineRate.getLsbD i
      else if i - 3 < 24 then time.getLsbD (i - 3)
      else if i - 3 - 24 < 20 then bytes.getLsbD (i - 3 - 24)
      else qlen.getLsbD (i - 3 - 24 - 20) := by
  rw [word_ofFields]
  refine (BitVec.getLsbD_append (x := qlen ++ bytes ++ time) (y := lineRate)).trans ?_
  rw [BitVec.getLsbD_append, BitVec.getLsbD_append]

theorem fields_ofFields (lineRate : BitVec 3) (time : BitVec 24) (bytes : BitVec 20)
    (qlen : BitVec 17) :
    (ofFields lineRate time bytes qlen).lineRate = lineRate ∧
      (ofFields lineRate time bytes qlen).time = time ∧
      (ofFields lineRate time bytes qlen).bytes = bytes ∧
      (ofFields lineRate time bytes qlen).qlen = qlen := by
  unfold IntHop.lineRate IntHop.time IntHop.bytes IntHop.qlen
  refine ⟨?_, ?_, ?_, ?_⟩
  · apply BitVec.eq_of_getLsbD_eq
    intro i hi
    rw [BitVec.getLsbD_extractLsb', getLsbD_ofFields]
    simp [hi]
  · apply BitVec.eq_of_getLsbD_eq
    intro i hi
    rw [BitVec.getLsbD_extractLsb', getLsbD_ofFields]
    have hBack : 3 + i - 3 = i := by omega
    simp [hi, hBack]
  · apply BitVec.eq_of_getLsbD_eq
    intro i hi
    rw [BitVec.getLsbD_extractLsb', getLsbD_ofFields]
    have hLow : ¬ 27 + i < 3 := by omega
    have hMid : ¬ 27 + i - 3 < 24 := by omega
    have hBack : 27 + i - 3 - 24 = i := by omega
    simp [hi, hLow, hMid, hBack]
  · apply BitVec.eq_of_getLsbD_eq
    intro i hi
    rw [BitVec.getLsbD_extractLsb', getLsbD_ofFields]
    have hLow : ¬ 47 + i < 3 := by omega
    have hMid : ¬ 47 + i - 3 < 24 := by omega
    have hHigh : ¬ 47 + i - 3 - 24 < 20 := by omega
    have hBack : 47 + i - 3 - 24 - 20 = i := by omega
    simp [hi, hLow, hMid, hHigh, hBack]

/-- `getLineRate` inverts the code. -/
theorem lineRateValues_code {rate : Nat} {code : BitVec 3} (h : lineRateCode rate = some code) :
    lineRateValues.getD code.toNat 0 = rate := by
  unfold lineRateCode at h
  split_ifs at h
  · subst rate; cases h; rfl
  · subst rate; cases h; rfl
  · subst rate; cases h; rfl
  · subst rate; cases h; rfl
  · subst rate; cases h; rfl
  · subst rate; cases h; rfl

/-! ### What is kept of a stamp -/

/-- The fields that a port pushed. -/
structure Shows (multi : Nat) (h : IntHop) (s : HopStamp) : Prop where
  time : h.time = BitVec.ofNat 24 s.time
  bytes : h.bytes = BitVec.ofNat 20 (s.bytes / (byteUnit * multi % 2 ^ 32))
  qlen : h.qlen = BitVec.ofNat 17 (s.qlen / (qlenUnit * multi % 2 ^ 32))
  rate : (lineRateCode s.rate).isSome → h.getLineRate = s.rate

theorem shows_set (multi : Nat) (h : IntHop) (s : HopStamp) : (h.set multi s).Shows multi s := by
  obtain ⟨hRate, hTime, hBytes, hQlen⟩ := fields_ofFields
    ((lineRateCode s.rate).getD h.lineRate) (BitVec.ofNat 24 s.time)
    (BitVec.ofNat 20 (s.bytes / (byteUnit * multi % 2 ^ 32)))
    (BitVec.ofNat 17 (s.qlen / (qlenUnit * multi % 2 ^ 32)))
  refine ⟨hTime, hBytes, hQlen, fun hCode => ?_⟩
  obtain ⟨code, hCode⟩ := Option.isSome_iff_exists.mp hCode
  rw [hCode, Option.getD_some] at hRate
  have hField : (h.set multi s).lineRate = code := by
    unfold set
    rw [hCode, Option.getD_some]
    exact hRate
  rw [getLineRate, hField]
  exact lineRateValues_code hCode

end IntHop

/-! ## The ring of hops -/

namespace IntHeader

def maxHop : Nat := 5

/-- `IntHeader ()`. -/
def fresh : IntHeader := ⟨fun _ => ⟨0, 0⟩, 0⟩

/-- What `PushHop` does in mode 0. -/
def pushHop (multi : Nat) (ih : IntHeader) (s : HopStamp) : IntHeader :=
  let idx : Fin 5 := ⟨ih.nhop.toNat % 5, Nat.mod_lt _ (Nat.succ_pos 4)⟩
  { hop := Function.update ih.hop idx ((ih.hop idx).set multi s), nhop := ih.nhop + 1 }

/-- The header as a ring; `nhop` has 16 bits. -/
structure IsRing (ih : IntHeader) (r : Ring 5 IntHop) : Prop where
  hop : ih.hop = r.slots
  nhop : ih.nhop.toNat = r.count

theorem IsRing.pushHop {ih : IntHeader} {r : Ring 5 IntHop} (h : ih.IsRing r)
    (hCount : r.count + 1 < 2 ^ 16) (multi : Nat) (s : HopStamp) :
    (ih.pushHop multi s).IsRing (r.write fun old => old.set multi s) := by
  have hNext : (ih.nhop + 1).toNat = r.count + 1 := by
    rw [BitVec.toNat_add, h.nhop]
    exact Nat.mod_eq_of_lt hCount
  refine ⟨?_, hNext⟩
  unfold Ring.write
  dsimp only
  rw [← h.nhop, ← h.hop]
  rfl

/-- What a header holds after a path. -/
def pushAll (multi : Nat) (ih : IntHeader) (path : List HopStamp) : IntHeader :=
  path.foldl (fun ih s => ih.pushHop multi s) ih

theorem IsRing.pushAll {ih : IntHeader} {r : Ring 5 IntHop} (h : ih.IsRing r) (multi : Nat)
    (path : List HopStamp) (hCount : r.count + path.length < 2 ^ 16) :
    (ih.pushAll multi path).IsRing
      (r.writeAll (path.map fun s old => old.set multi s)) := by
  induction path generalizing ih r with
  | nil => exact h
  | cons s path ih' =>
    rw [List.length_cons] at hCount
    have hRest : (r.write fun old => old.set multi s).count + path.length < 2 ^ 16 := by
      show r.count + 1 + path.length < 2 ^ 16
      omega
    exact ih' (h.pushHop (by omega) multi s) hRest

/-- The last five hops of a path are there. -/
theorem shows_pushAll (multi : Nat) {path : List HopStamp} (hShort : path.length < 2 ^ 16) :
    (fresh.pushAll multi path).nhop.toNat = path.length ∧
      ∀ j s, path[j]? = some s → path.length ≤ j + maxHop →
        ((fresh.pushAll multi path).hop (Fin.ofNat 5 j)).Shows multi s := by
  have hFresh : fresh.IsRing ⟨fun _ => ⟨0, 0⟩, 0⟩ := ⟨rfl, rfl⟩
  have hRing := hFresh.pushAll multi path (by rw [Nat.zero_add]; exact hShort)
  constructor
  · rw [hRing.nhop, Ring.count_writeAll, List.length_map, Nat.zero_add]
  · intro j s hStamp hLast
    have hWriter : (path.map fun s (old : IntHop) => old.set multi s)[j]? =
        some fun old => old.set multi s := by
      rw [List.getElem?_map, hStamp, Option.map_some]
    obtain ⟨old, hOld⟩ := Ring.exists_slot_writeAll (⟨fun _ => ⟨0, 0⟩, 0⟩ : Ring 5 IntHop) _ hWriter
      (by rw [List.length_map]; exact hLast)
    rw [Nat.zero_add] at hOld
    rw [hRing.hop, hOld]
    exact IntHop.shows_set multi old s

end IntHeader

/-! ## Two packets through one port -/

/-- A packet that leaves a port at `time`. -/
structure Departure where
  time : Nat
  size : Nat
  qlen : Nat
  rate : Nat

/-- The clock of a port and its `m_txBytes`, with the stamps that it pushed. -/
structure TxPort where
  now : Nat
  txBytes : Nat
  log : List HopStamp

namespace TxPort

/-- The end of `SwitchNotifyDequeue`. -/
def notifyDequeue (s : TxPort) (p : Departure) : TxPort where
  now := p.time
  txBytes := (s.txBytes + p.size) % 2 ^ 64
  log := s.log ++ [⟨p.time, s.txBytes, p.qlen, p.rate⟩]

end TxPort

/-- The clock does not go back. -/
def txPort : Machine TxPort Departure where
  init := ⟨0, 0, []⟩
  step s p := if s.now ≤ p.time then some (s.notifyDequeue p) else none

def sentBytes (es : List Departure) : Nat := (es.map Departure.size).sum

/-- The stamp of the packet that leaves behind the packets `before`. -/
def stampOf (txBytes : Nat) (before : List Departure) (p : Departure) : HopStamp :=
  ⟨p.time, txBytes + sentBytes before, p.qlen, p.rate⟩

theorem sentBytes_cons (p : Departure) (es : List Departure) :
    sentBytes (p :: es) = p.size + sentBytes es := by
  simp [sentBytes]

theorem sentBytes_append (es fs : List Departure) :
    sentBytes (es ++ fs) = sentBytes es + sentBytes fs := by
  simp [sentBytes]

/-- What a run of a port leaves in its log. -/
structure Logged (s t : TxPort) (es : List Departure) (pushed : List HopStamp) : Prop where
  log : t.log = s.log ++ pushed
  stamps : ∀ j p, es[j]? = some p → pushed[j]? = some (stampOf s.txBytes (es.take j) p)
  length : pushed.length = es.length
  later : ∀ p ∈ es, s.now ≤ p.time
  ordered : es.Pairwise fun p q => p.time ≤ q.time

theorem TxPort.exists_logged {s t : TxPort} {es : List Departure} (hRun : txPort.run s es = some t)
    (hTotal : s.txBytes + sentBytes es < 2 ^ 64) : ∃ pushed, Logged s t es pushed := by
  induction es generalizing s with
  | nil =>
    cases hRun
    refine ⟨[], (List.append_nil _).symm, ?_, rfl, ?_, List.Pairwise.nil⟩
    · intro j p hNone
      cases hNone
    · intro p hIn
      exact absurd hIn List.not_mem_nil
  | cons p es ih =>
    obtain ⟨next, hStep, hRest⟩ := Machine.run_cons_eq_some.mp hRun
    obtain ⟨hLater, rfl⟩ := Machine.of_guarded hStep
    rw [sentBytes_cons] at hTotal
    have hBytes : (s.notifyDequeue p).txBytes = s.txBytes + p.size :=
      Nat.mod_eq_of_lt (by omega)
    obtain ⟨pushed, hLogged⟩ := ih hRest (by rw [hBytes]; omega)
    refine ⟨stampOf s.txBytes [] p :: pushed, ?_, ?_, ?_, ?_, ?_⟩
    · rw [hLogged.log]
      exact List.append_assoc _ _ _
    · intro j q hAt
      cases j with
      | zero =>
        cases hAt
        rfl
      | succ j =>
        rw [List.getElem?_cons_succ] at hAt
        rw [List.getElem?_cons_succ, hLogged.stamps j q hAt, hBytes, List.take_succ_cons]
        unfold stampOf
        rw [sentBytes_cons, Nat.add_assoc]
    · rw [List.length_cons, hLogged.length, List.length_cons]
    · intro q hIn
      rcases List.mem_cons.mp hIn with rfl | hIn
      · exact hLater
      · exact hLater.trans (hLogged.later q hIn)
    · exact List.pairwise_cons.mpr ⟨hLogged.later, hLogged.ordered⟩

/-- A difference that is taken of the lowest digits. -/
theorem sub_of_mod {m x y : Nat} (hOrder : x ≤ y) (hNear : y - x < m) :
    (if x % m ≤ y % m then y % m - x % m else y % m + m - x % m) = y - x := by
  have hFirst := Nat.mod_add_div x m
  have hSecond := Nat.mod_add_div y m
  have hLess : x % m < m := Nat.mod_lt _ (by omega)
  have hLess' : y % m < m := Nat.mod_lt _ (by omega)
  have hDiv : x / m ≤ y / m := Nat.div_le_div_right hOrder
  obtain ⟨k, hk⟩ := Nat.exists_eq_add_of_le hDiv
  have hProduct : m * (y / m) = m * (x / m) + m * k := by rw [hk, Nat.mul_add]
  have hSmall : k = 0 ∨ k = 1 := by
    by_contra hMore
    have hTwo : m * 2 ≤ m * k := Nat.mul_le_mul_left m (by omega)
    omega
  rcases hSmall with rfl | rfl
  · rw [if_pos (by omega)]
    omega
  · rw [if_neg (by omega)]
    omega

namespace IntHop

variable {multi : Nat} {h h' : IntHop} {a b : HopStamp}

theorem getTimeDelta_of_shows (hFirst : h.Shows multi a) (hSecond : h'.Shows multi b)
    (hOrder : a.time ≤ b.time) (hNear : b.time - a.time < 2 ^ 24) :
    getTimeDelta h' h = b.time - a.time := by
  unfold getTimeDelta
  rw [hFirst.time, hSecond.time, BitVec.toNat_ofNat, BitVec.toNat_ofNat]
  exact sub_of_mod hOrder hNear

theorem getBytesDelta_of_shows (hUnit : byteUnit * multi < 2 ^ 32) (hFirst : h.Shows multi a)
    (hSecond : h'.Shows multi b) (hOrder : a.bytes ≤ b.bytes)
    (hNear : b.bytes / (byteUnit * multi) - a.bytes / (byteUnit * multi) < 2 ^ 20) :
    getBytesDelta multi h' h = (b.bytes / (byteUnit * multi) - a.bytes / (byteUnit * multi)) *
      byteUnit * multi % 2 ^ 32 := by
  have hDigits := sub_of_mod (Nat.div_le_div_right (c := byteUnit * multi) hOrder) hNear
  unfold getBytesDelta
  rw [hFirst.bytes, hSecond.bytes, Nat.mod_eq_of_lt hUnit, BitVec.toNat_ofNat, BitVec.toNat_ofNat]
  split
  · rename_i hLess
    rw [if_pos hLess] at hDigits
    rw [hDigits]
  · rename_i hLess
    rw [if_neg hLess] at hDigits
    rw [hDigits]

end IntHop

/-- A difference of units is off by less than one unit. -/
theorem units_near {u x y : Nat} (hUnit : 0 < u) (hOrder : x ≤ y) :
    y - x < (y / u - x / u) * u + u ∧ (y / u - x / u) * u < y - x + u := by
  have hDiv : x / u ≤ y / u := Nat.div_le_div_right hOrder
  have hFirst := Nat.div_add_mod' x u
  have hSecond := Nat.div_add_mod' y u
  have hLess : x % u < u := Nat.mod_lt _ hUnit
  have hLess' : y % u < u := Nat.mod_lt _ hUnit
  have hMul : x / u * u ≤ y / u * u := Nat.mul_le_mul_right u hDiv
  rw [Nat.sub_mul]
  omega

/-- Of two packets that a port sent, the later one shows the time since the earlier one, and the
bytes sent since then up to one unit. -/
theorem int_deltas (multi : Nat) (hMulti : 0 < multi) (hUnit : IntHop.byteUnit * multi < 2 ^ 32)
    {es : List Departure} {s : TxPort} (hRun : txPort.run txPort.init es = some s)
    (hTotal : sentBytes es < 2 ^ 64) {i j : Nat} (hOrder : i ≤ j) {a b : HopStamp}
    (hFirst : s.log[i]? = some a) (hSecond : s.log[j]? = some b)
    (hTime : b.time < a.time + 2 ^ 24)
    (hField : sentBytes ((es.drop i).take (j - i)) + IntHop.byteUnit * multi ≤
      2 ^ 20 * (IntHop.byteUnit * multi))
    (hWord : sentBytes ((es.drop i).take (j - i)) + IntHop.byteUnit * multi ≤ 2 ^ 32)
    {h h' : IntHop} (hShows : h.Shows multi a) (hShows' : h'.Shows multi b) :
    a.time + IntHop.getTimeDelta h' h = b.time ∧
      sentBytes ((es.drop i).take (j - i)) <
        IntHop.getBytesDelta multi h' h + IntHop.byteUnit * multi ∧
      IntHop.getBytesDelta multi h' h <
        sentBytes ((es.drop i).take (j - i)) + IntHop.byteUnit * multi := by
  obtain ⟨pushed, hLogged⟩ := TxPort.exists_logged hRun (by
    show 0 + sentBytes es < 2 ^ 64
    omega)
  have hLog : s.log = pushed := hLogged.log
  rw [hLog] at hFirst hSecond
  have hPositive : 0 < IntHop.byteUnit * multi := Nat.mul_pos (by decide) hMulti
  have hLess : j < es.length := by
    rw [← hLogged.length]
    exact (List.getElem?_eq_some_iff.mp hSecond).1
  obtain ⟨p, hp⟩ : ∃ p, es[i]? = some p := ⟨_, List.getElem?_eq_getElem (by omega)⟩
  obtain ⟨q, hq⟩ : ∃ q, es[j]? = some q := ⟨_, List.getElem?_eq_getElem hLess⟩
  have hStampA : pushed[i]? = some (stampOf 0 (es.take i) p) := hLogged.stamps i p hp
  have hStampB : pushed[j]? = some (stampOf 0 (es.take j) q) := hLogged.stamps j q hq
  rw [hFirst] at hStampA
  rw [hSecond] at hStampB
  cases hStampA
  cases hStampB
  have hTimes : p.time ≤ q.time := by
    rcases Nat.eq_or_lt_of_le hOrder with rfl | hBefore
    · rw [hp] at hq
      cases hq
      exact le_rfl
    · obtain ⟨hi, rfl⟩ := List.getElem?_eq_some_iff.mp hp
      obtain ⟨hj, rfl⟩ := List.getElem?_eq_some_iff.mp hq
      exact List.pairwise_iff_getElem.mp hLogged.ordered i j hi hj hBefore
  have hBetween : sentBytes (es.take j) =
      sentBytes (es.take i) + sentBytes ((es.drop i).take (j - i)) := by
    rw [← sentBytes_append, ← List.take_add, Nat.add_sub_cancel' hOrder]
  have hBytes : (stampOf 0 (es.take i) p).bytes ≤ (stampOf 0 (es.take j) q).bytes := by
    show 0 + sentBytes (es.take i) ≤ 0 + sentBytes (es.take j)
    omega
  have hSent : (stampOf 0 (es.take j) q).bytes - (stampOf 0 (es.take i) p).bytes =
      sentBytes ((es.drop i).take (j - i)) := by
    show 0 + sentBytes (es.take j) - (0 + sentBytes (es.take i)) = _
    omega
  obtain ⟨hLow, hHigh⟩ := units_near hPositive hBytes
  rw [hSent] at hLow hHigh
  have hCount : (stampOf 0 (es.take j) q).bytes / (IntHop.byteUnit * multi) -
      (stampOf 0 (es.take i) p).bytes / (IntHop.byteUnit * multi) < 2 ^ 20 :=
    Nat.lt_of_mul_lt_mul_right (hHigh.trans_le hField)
  have hDelta := IntHop.getBytesDelta_of_shows hUnit hShows hShows' hBytes hCount
  rw [Nat.mul_assoc, Nat.mod_eq_of_lt (hHigh.trans_le hWord)] at hDelta
  refine ⟨?_, ?_, ?_⟩
  · have hNear : q.time - p.time < 2 ^ 24 := by
      have hClose : q.time < p.time + 2 ^ 24 := hTime
      omega
    rw [IntHop.getTimeDelta_of_shows hShows hShows' hTimes hNear]
    exact Nat.add_sub_of_le hTimes
  · rw [hDelta]
    exact hLow
  · rw [hDelta]
    exact hHigh

/-- Between the second packet and the third one the clock and the counter go around. -/
theorem int_deltas_wrapped :
    let es : List Departure :=
      [⟨16776000, 134217000, 0, 100000000000⟩, ⟨16777000, 1048, 0, 100000000000⟩,
        ⟨16777300, 1048, 2096, 100000000000⟩]
    let second : HopStamp := ⟨16777000, 134217000, 0, 100000000000⟩
    let third : HopStamp := ⟨16777300, 134218048, 2096, 100000000000⟩
    let h := (⟨0, 0⟩ : IntHop).set 1 second
    let h' := (⟨0, 0⟩ : IntHop).set 1 third
    (txPort.run txPort.init es).map TxPort.log =
        some [⟨16776000, 0, 0, 100000000000⟩, second, third] ∧
      16777000 + IntHop.getTimeDelta h' h = 16777300 ∧
      1048 < IntHop.getBytesDelta 1 h' h + 128 ∧ IntHop.getBytesDelta 1 h' h < 1048 + 128 := by
  intro es second third h h'
  have hLog : (txPort.run txPort.init es).map TxPort.log =
      some [⟨16776000, 0, 0, 100000000000⟩, second, third] := by
    decide +kernel
  refine ⟨hLog, ?_⟩
  obtain ⟨s, hRun, hPushed⟩ := Option.map_eq_some_iff.mp hLog
  have hSecond : s.log[1]? = some second := by rw [hPushed]; rfl
  have hThird : s.log[2]? = some third := by rw [hPushed]; rfl
  exact int_deltas 1 (by decide) (by decide) hRun (by decide) (j := 2) (by decide) hSecond hThird
    (by decide) (by decide) (by decide) (IntHop.shows_set 1 _ second) (IntHop.shows_set 1 _ third)

end Dpdq.Ns3.Wire
