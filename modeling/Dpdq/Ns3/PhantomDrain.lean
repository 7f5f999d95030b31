import Dpdq.Ns3.SwitchSteps

/-!
# How much a phantom queue drains

The amount that `UpdateCBPortStateOnTransmit` takes off the phantom queue for the time since the last
transmission: nanoseconds times bits per second in a product of 64 bits, over 8 * 10^9. A time stamp
of 0 stands for no transmission.

* `drainedBytes_toNat_eq_iff`: the product does not wrap around.
* `phantomDrain_exact_iff`: the drained amount is that of exact arithmetic.
-/

namespace Dpdq.Ns3

open Function

/-! ## The amount -/

/-- `drainedBytes`, 0 where the code does not drain. -/
def drainedBytes (lastUpdateTimeNs nowNs lineRateBps : UInt64) : UInt64 :=
  if lastUpdateTimeNs ≠ 0 ∧ nowNs > lastUpdateTimeNs then
    (nowNs - lastUpdateTimeNs) * lineRateBps / 8000000000
  else 0

/-- The bytes that a link sends in some nanoseconds. -/
def sentBytes (intervalNs lineRateBps : Nat) : Nat := intervalNs * lineRateBps / 8000000000

theorem sentBytes_eq_zero_iff {intervalNs lineRateBps : Nat} :
    sentBytes intervalNs lineRateBps = 0 ↔ intervalNs * lineRateBps < 8000000000 := by
  unfold sentBytes
  rw [Nat.div_eq_zero_iff]
  omega

theorem sentBytes_mono {interval interval' : Nat} (hLe : interval ≤ interval') (rate : Nat) :
    sentBytes interval rate ≤ sentBytes interval' rate :=
  Nat.div_le_div_right (Nat.mul_le_mul_right rate hLe)

/-- A product that wraps around loses at least 2^64, and so at least a byte. -/
theorem mod_div_eq_div_iff (product : Nat) :
    product % 2 ^ 64 / 8000000000 = product / 8000000000 ↔ product < 2 ^ 64 := by
  constructor
  · intro hEq
    omega
  · intro hSmall
    rw [Nat.mod_eq_of_lt hSmall]

theorem drainU64_toNat (counter bytes : UInt64) :
    (drainU64 counter bytes).toNat = counter.toNat - bytes.toNat := by
  unfold drainU64
  split
  · rename_i hEnough
    exact UInt64.toNat_sub_of_le _ _ hEnough
  · rename_i hLess
    have hLt : counter.toNat < bytes.toNat := UInt64.lt_iff_toNat_lt.mp (UInt64.not_le.mp hLess)
    rw [UInt64.toNat_zero]
    omega

section Drain

variable {lastUpdateTimeNs nowNs lineRateBps : UInt64}

theorem drainedBytes_toNat (hLast : lastUpdateTimeNs ≠ 0) :
    (drainedBytes lastUpdateTimeNs nowNs lineRateBps).toNat =
      (nowNs.toNat - lastUpdateTimeNs.toNat) * lineRateBps.toNat % 2 ^ 64 / 8000000000 := by
  unfold drainedBytes
  split
  · rename_i hLater
    have hLe : lastUpdateTimeNs ≤ nowNs := UInt64.le_of_lt hLater.2
    rw [UInt64.toNat_div, UInt64.toNat_mul, UInt64.toNat_sub_of_le _ _ hLe]
    rfl
  · rename_i hNot
    have hBefore : nowNs.toNat ≤ lastUpdateTimeNs.toNat :=
      UInt64.le_iff_toNat_le.mp (UInt64.not_lt.mp fun hLater => hNot ⟨hLast, hLater⟩)
    rw [Nat.sub_eq_zero_of_le hBefore, Nat.zero_mul]
    rfl

/-- The amount is exact where the product has 64 bits, after a transmission at a time other than 0,
and where there is nothing to drain. -/
theorem drainedBytes_toNat_eq_iff :
    (drainedBytes lastUpdateTimeNs nowNs lineRateBps).toNat =
        sentBytes (nowNs.toNat - lastUpdateTimeNs.toNat) lineRateBps.toNat ↔
      (lastUpdateTimeNs ≠ 0 ∧
          (nowNs.toNat - lastUpdateTimeNs.toNat) * lineRateBps.toNat < 2 ^ 64) ∨
        (nowNs.toNat - lastUpdateTimeNs.toNat) * lineRateBps.toNat < 8000000000 := by
  by_cases hLast : lastUpdateTimeNs = 0
  · have hZero : (drainedBytes lastUpdateTimeNs nowNs lineRateBps).toNat = 0 := by
      unfold drainedBytes
      rw [if_neg fun hBoth => hBoth.1 hLast]
      rfl
    rw [hZero, eq_comm, sentBytes_eq_zero_iff]
    constructor
    · exact Or.inr
    · rintro (⟨hNot, -⟩ | hNone)
      · exact absurd hLast hNot
      · exact hNone
  · rw [drainedBytes_toNat hLast, sentBytes, mod_div_eq_div_iff]
    constructor
    · intro hSmall
      exact Or.inl ⟨hLast, hSmall⟩
    · rintro (⟨-, hSmall⟩ | hNone)
      · exact hSmall
      · omega

end Drain

/-! ## The phantom queue -/

namespace SwitchNode

variable {s : SwitchNode} {outDev : PortIdx} {lastUpdateTimeNs nowNs lineRateBps : UInt64}

/-- What is drained is taken off the phantom queue of the port, at least 0. -/
theorem phantomDrain_eq (hDevice : s.devices[outDev.val]? = some (some ⟨lineRateBps.toNat⟩)) :
    s.phantomDrain outDev lastUpdateTimeNs nowNs = some (s.modifyPort outDev fun st =>
      { st with qpLenBytes :=
          drainU64 st.qpLenBytes (drainedBytes lastUpdateTimeNs nowNs lineRateBps) }) := by
  unfold phantomDrain drainedBytes
  split
  · rename_i hLater
    rw [hDevice]
    simp only [Option.bind_eq_bind, Option.bind_some, Option.pure_def, UInt64.ofNat_toNat]
  · have hNothing (st : CreditBouncerPortState) :
        { st with qpLenBytes := drainU64 st.qpLenBytes 0 } = st := by
      unfold drainU64
      rw [if_pos (UInt64.zero_le), UInt64.sub_zero]
    unfold modifyPort
    dsimp only
    rw [hNothing, update_eq_self]

/-- The phantom queue after a drain. -/
theorem phantomDrain_qpLen (hDevice : s.devices[outDev.val]? = some (some ⟨lineRateBps.toNat⟩)) :
    ∃ t, s.phantomDrain outDev lastUpdateTimeNs nowNs = some t ∧
      (t.portState outDev).qpLenBytes.toNat = (s.portState outDev).qpLenBytes.toNat -
        (drainedBytes lastUpdateTimeNs nowNs lineRateBps).toNat := by
  refine ⟨_, phantomDrain_eq hDevice, ?_⟩
  unfold modifyPort
  dsimp only
  rw [update_self, drainU64_toNat]

/-- An exact drain stays exact for a shorter time. -/
theorem drainedBytes_exact_of_le {earlier : UInt64} (hEarlier : earlier ≤ nowNs)
    (hExact : (drainedBytes lastUpdateTimeNs nowNs lineRateBps).toNat =
      sentBytes (nowNs.toNat - lastUpdateTimeNs.toNat) lineRateBps.toNat) :
    (drainedBytes lastUpdateTimeNs earlier lineRateBps).toNat =
      sentBytes (earlier.toNat - lastUpdateTimeNs.toNat) lineRateBps.toNat := by
  have hLe : earlier.toNat - lastUpdateTimeNs.toNat ≤ nowNs.toNat - lastUpdateTimeNs.toNat :=
    Nat.sub_le_sub_right (UInt64.le_iff_toNat_le.mp hEarlier) _
  have hProduct := Nat.mul_le_mul_right lineRateBps.toNat hLe
  rw [drainedBytes_toNat_eq_iff] at hExact ⊢
  rcases hExact with ⟨hLast, hSmall⟩ | hNone
  · exact Or.inl ⟨hLast, by omega⟩
  · exact Or.inr (by omega)

/-- The phantom queue drains by what the link sends in the time since the last transmission, and not
by less for a longer time, exactly if the last transmission was not at time 0 and the product has 64
bits, or if nothing drains. -/
theorem phantomDrain_exact_iff
    (hDevice : s.devices[outDev.val]? = some (some ⟨lineRateBps.toNat⟩)) :
    (∃ t, s.phantomDrain outDev lastUpdateTimeNs nowNs = some t ∧
      (drainedBytes lastUpdateTimeNs nowNs lineRateBps).toNat =
        sentBytes (nowNs.toNat - lastUpdateTimeNs.toNat) lineRateBps.toNat ∧
      (t.portState outDev).qpLenBytes.toNat = (s.portState outDev).qpLenBytes.toNat -
        sentBytes (nowNs.toNat - lastUpdateTimeNs.toNat) lineRateBps.toNat ∧
      ∀ earlier ≤ nowNs, ∀ u, s.phantomDrain outDev lastUpdateTimeNs earlier = some u →
        (t.portState outDev).qpLenBytes ≤ (u.portState outDev).qpLenBytes) ↔
      (lastUpdateTimeNs ≠ 0 ∧
          (nowNs.toNat - lastUpdateTimeNs.toNat) * lineRateBps.toNat < 2 ^ 64) ∨
        (nowNs.toNat - lastUpdateTimeNs.toNat) * lineRateBps.toNat < 8000000000 := by
  rw [← drainedBytes_toNat_eq_iff]
  constructor
  · rintro ⟨t, -, hExact, -⟩
    exact hExact
  · intro hExact
    obtain ⟨t, hDrain, hQp⟩ := @phantomDrain_qpLen s outDev lastUpdateTimeNs nowNs _ hDevice
    rw [hExact] at hQp
    refine ⟨t, hDrain, hExact, hQp, ?_⟩
    intro earlier hEarlier u hBefore
    obtain ⟨u', hDrain', hQp'⟩ := @phantomDrain_qpLen s outDev lastUpdateTimeNs earlier _ hDevice
    obtain rfl : u' = u := Option.some.inj (hDrain'.symm.trans hBefore)
    have hLess := sentBytes_mono
      (Nat.sub_le_sub_right (UInt64.le_iff_toNat_le.mp hEarlier) lastUpdateTimeNs.toNat)
      lineRateBps.toNat
    rw [drainedBytes_exact_of_le hEarlier hExact] at hQp'
    rw [UInt64.le_iff_toNat_le]
    omega

/-- A switch with one port, whose phantom queue holds 10^9 bytes, and a link of 100 Gbit/s. -/
def fastPort : SwitchNode where
  rtTable _ := none
  devices := [some ⟨100000000000⟩]
  portState _ := { qpLenBytes := 1000000000 }

/-- The link sends the whole queue in 100 ms. -/
theorem phantomDrain_exact_iff_fastPort :
    ∃ t, fastPort.phantomDrain 0 1000 100001000 = some t ∧
      (drainedBytes 1000 100001000 100000000000).toNat =
        sentBytes (100001000 - 1000) 100000000000 ∧
      (t.portState 0).qpLenBytes.toNat = (fastPort.portState 0).qpLenBytes.toNat -
        sentBytes (100001000 - 1000) 100000000000 ∧
      ∀ earlier ≤ (100001000 : UInt64), ∀ u, fastPort.phantomDrain 0 1000 earlier = some u →
        (t.portState 0).qpLenBytes ≤ (u.portState 0).qpLenBytes :=
  (@phantomDrain_exact_iff fastPort 0 1000 100001000 100000000000 rfl).mpr (by decide)

/-- After 185 ms the product has wrapped around, and all but some 6.6 MB of the queue are left, where
100 ms drain all of it. And nothing drains behind a transmission at time 0. -/
theorem phantomDrain_wraps :
    (fastPort.phantomDrain 0 1000 185001000).map (fun t => (t.portState 0).qpLenBytes) =
      some 993343010 ∧
    (fastPort.phantomDrain 0 1000 100001000).map (fun t => (t.portState 0).qpLenBytes) = some 0 ∧
    (drainedBytes 1000 185001000 100000000000).toNat ≠
      sentBytes (185001000 - 1000) 100000000000 ∧
    (drainedBytes 0 100001000 100000000000).toNat ≠ sentBytes (100001000 - 0) 100000000000 := by
  decide +kernel

end SwitchNode

end Dpdq.Ns3
