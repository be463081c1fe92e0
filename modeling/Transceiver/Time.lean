/-! Durations and the chip timer. Durations are microseconds in 32 bits; a timer value has 24
bits, of which the smallest and the largest have a meaning of their own. -/

namespace Transceiver

/-- The quotient rounded up. -/
def ceilDiv32 (a b : UInt32) : UInt32 := if a % b = 0 then a / b else a / b + 1

theorem toNat_ceilDiv32 (a b : UInt32) : (ceilDiv32 a b).toNat =
    a.toNat / b.toNat + if a.toNat % b.toNat = 0 then 0 else 1 := by
  have hmod : a % b = 0 ↔ a.toNat % b.toNat = 0 := by
    rw [← UInt32.toNat_inj, UInt32.toNat_mod, UInt32.toNat_zero]
  simp only [ceilDiv32, hmod]
  split <;> rename_i h
  · exact UInt32.toNat_div a b
  -- The quotient is below the largest number, or else it would be exact.
  have hlt : a.toNat / b.toNat + 1 < 2 ^ 32 := by
    have ha : a.toNat < 2 ^ 32 := a.toNat_lt
    obtain hb | hb | hb : b.toNat = 0 ∨ b.toNat = 1 ∨ 2 ≤ b.toNat := by omega
    · simp [hb]
    · exact absurd (by rw [hb, Nat.mod_one]) h
    · have hle : a.toNat / b.toNat ≤ a.toNat / 2 := Nat.div_le_div_left hb (by decide)
      omega
  rw [UInt32.toNat_add, UInt32.toNat_div, UInt32.toNat_one, Nat.mod_eq_of_lt hlt]

/-- The quotient rounded up. -/
def ceilDiv64 (a b : UInt64) : UInt64 := if a % b = 0 then a / b else a / b + 1

namespace Ticks

/-- The timer value that stops the timer from running. -/
def disabled : UInt32 := 0

/-- The timer value that keeps the receiver on until told otherwise. -/
def continuous : UInt32 := 0xFFFFFF

/-- The largest timer value that ends. -/
def maxFinite : UInt32 := 0xFFFFFE

/-- A duration as a timer value, for a timer of `rate` ticks in a second: rounded down, but at
least one tick and below the continuous marker. The two markers stand for themselves. -/
def ofMicros (us rate : UInt32) : UInt32 :=
  if us = disabled ∨ us = continuous then us
  else
    let ticks := us.toUInt64 * rate.toUInt64 / 1000000
    if ticks < 1 then 1
    else if ticks > maxFinite.toUInt64 then maxFinite
    else ticks.toUInt32

/-- A timer value as a duration, rounded down and cut off at the largest duration. -/
def toMicros (ticks rate : UInt32) : UInt32 :=
  if rate = 0 then 0
  else
    let us := ticks.toUInt64 * 1000000 / rate.toUInt64
    if us > 0xFFFFFFFF then 0xFFFFFFFF else us.toUInt32

end Ticks

end Transceiver
