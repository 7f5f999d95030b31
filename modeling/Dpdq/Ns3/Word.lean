import Mathlib.Algebra.Group.Nat.Defs

/-!
# 32-bit and 64-bit arithmetic of the ns-3 code
-/

namespace Dpdq.Ns3

def addU32 (a b : Nat) : Nat := (a + b) % 2 ^ 32

/-- Subtraction of 32-bit counters; `none` is an underflow. -/
def subU32 (a b : Nat) : Option Nat := if b ≤ a then some (a - b) else none

/-- Subtraction that wraps around. -/
def wrapSubU32 (a b : Nat) : Nat := (a + (2 ^ 32 - b % 2 ^ 32)) % 2 ^ 32

def addU64 (a b : Nat) : Nat := (a + b) % 2 ^ 64

/-- The lambda `saturatingAdd` of `ReceiveCreditBouncer`. -/
def saturatingAdd (base delta : Nat) : Nat :=
  if 2 ^ 64 - 1 - base < delta then 2 ^ 64 - 1 else base + delta

theorem addU32_of_lt {a b : Nat} (h : a + b < 2 ^ 32) : addU32 a b = a + b := Nat.mod_eq_of_lt h

theorem addU64_of_lt {a b : Nat} (h : a + b < 2 ^ 64) : addU64 a b = a + b := Nat.mod_eq_of_lt h

theorem saturatingAdd_of_lt {a b : Nat} (h : a + b < 2 ^ 64) : saturatingAdd a b = a + b := by
  unfold saturatingAdd
  rw [if_neg (by omega)]

theorem subU32_of_le {a b : Nat} (h : b ≤ a) : subU32 a b = some (a - b) := if_pos h

/-- Adding a wrapped difference is exact whenever the true result is a 32-bit number. -/
theorem addU32_wrapSubU32 {a b c : Nat} (hb : b < 2 ^ 32) (hle : b ≤ a + c)
    (hlt : a + c - b < 2 ^ 32) : addU32 a (wrapSubU32 c b) = a + c - b := by
  unfold addU32 wrapSubU32
  rw [Nat.mod_eq_of_lt hb]
  omega

end Dpdq.Ns3
