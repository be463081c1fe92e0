import Transceiver.Rig.Start

/-! Measurements on the channel. Those that tune the radio leave it in standby, whether the
measurement succeeds or not. -/

namespace Transceiver.Rig

open Station

variable {σ : Type} (rig : Rig σ)

/-- The RSSI of this moment, corrected by the gain of the receive path, dBm. -/
def rssi : Action (Station σ) Int16 := do
  ensureNotScanning
  return (← rig.tell .readRssi) - rig.config.lnaGain

/-- Spacing of RSSI samples, and the shortest window of a channel check, microseconds. -/
def samplePeriod : UInt32 := 30

/-- Microseconds from one clock reading to another, zero if the clock went back. -/
def elapsed (start stop : UInt64) : UInt64 := if stop < start then 0 else stop - start

/-- Sample the RSSI at most `n` times, until it exceeds the threshold or the window is over. -/
def watchChannel (threshold : Int16) (window : UInt32) (start : UInt64) :
    (n : Nat) → Action (Station σ) Bool
  | 0 => return true
  | n + 1 => do
    rig.pause samplePeriod
    if (← rig.rssi) > threshold then return false
    if elapsed start (← rig.now) ≥ window.toUInt64 then return true
    watchChannel threshold window start n

/-- Receive, and tell whether the RSSI stayed at or below the threshold during the window. -/
def sampleChannel (threshold : Int16) (window : UInt32) : Action (Station σ) Bool := do
  rig.startContinuousRx
  let start ← rig.now
  rig.watchChannel threshold window start (ceilDiv32 window samplePeriod).toNat

/-- Samples that the noise is averaged over. -/
def noiseSamples : Nat := 32

/-- The sum of `n` RSSI samples and of those before them. -/
def sumNoise (sum : Int32) : (n : Nat) → Action (Station σ) Int32
  | 0 => return sum
  | n + 1 => do
    rig.pause samplePeriod
    sumNoise (sum + (← rig.rssi).toInt32) n

/-- Receive, and average the RSSI, rounding toward zero. -/
def sampleNoise : Action (Station σ) Int16 := do
  rig.startContinuousRx
  let sum ← rig.sumNoise 0 noiseSamples
  return (sum / .ofNat noiseSamples).toInt16

/-- Tune to a frequency, take a measurement with the interrupts disarmed, arm them again and go
to standby. Of several faults that of the measurement is reported. -/
def measure {α : Type} (frequency : UInt32) (sample : Action (Station σ) α) :
    Action (Station σ) α := do
  rig.setFrequency frequency
  rig.tell (.armInterrupts ∅)
  let result ← Action.attempt sample
  let armed ← Action.attempt rig.rearm
  let rested ← Action.attempt rig.standby
  let value ← Action.settle result
  Action.settle armed
  Action.settle rested
  return value

/-- Listen on a frequency for a number of microseconds, and tell whether the channel is free. -/
def isChannelFree (frequency : UInt32) (threshold : Int16) (duration : UInt32) :
    Action (Station σ) Bool :=
  rig.measure frequency (rig.sampleChannel threshold (max duration samplePeriod))

/-- The average RSSI on a frequency, dBm. -/
def channelNoise (frequency : UInt32) : Action (Station σ) Int16 :=
  rig.measure frequency rig.sampleNoise

/-- A random number from the chip, read with the interrupts disarmed. -/
def random : Action (Station σ) UInt32 := do
  ensureNotScanning
  rig.tell (.armInterrupts ∅)
  let number ← Action.attempt (rig.order .readRandom)
  rig.rearm
  Action.settle number

end Transceiver.Rig
