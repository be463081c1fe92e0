import Transceiver.Rig.Basic

/-! Standby and sleep. -/

namespace Transceiver.Rig

open Station

variable {σ : Type} (rig : Rig σ)

/-- Wake the chip up. A radio that slept has its interrupts armed again, if sleep disarmed
them, and is in no known state until it reaches standby. -/
def wake (slept : Bool) : Action (Station σ) Unit := do
  match ← Action.attempt (rig.tell .wake) with
  | .error _ =>
    enter .unknown
    throw .hardware
  | .ok () =>
    if slept then
      if rig.config.disarmInSleep then
        rig.order (.armInterrupts (← current).mask)
      enter .unknown

/-- Settle time between switching the antenna off and entering standby, microseconds. -/
def standbyDelay : UInt32 := 10

/-- Go to standby from any state, waking the chip first if needed. -/
def standby : Action (Station σ) Unit := do
  let state := (← current).state
  if state = .scan then throw .busy
  if state = .standby then return
  if state = .sleep ∨ state = .unknown then rig.wake (state = .sleep)
  rig.order (.clearInterrupts .all)
  rig.tell (.setAntenna .off)
  rig.pause standbyDelay
  rig.order (.setStandby rig.config.standbyOnCrystal)
  enter .standby

/-- Put the chip to sleep. The listener is told when the radio will be needed again, unless the
time to sleep, in microseconds, is zero. -/
def sleep (duration : UInt32) : Action (Station σ) Unit := do
  let state := (← current).state
  if state = .scan then throw .busy
  if state = .sleep then return
  if duration ≠ 0 then
    rig.announceSleep ((← rig.now) + duration.toUInt64)
  rig.order (.clearInterrupts .all)
  rig.tell (.setAntenna .off)
  if rig.config.disarmInSleep then
    rig.tell (.armInterrupts ∅)
  match ← Action.attempt (rig.tell (.setSleep true)) with
  | .ok () => enter .sleep
  | .error _ =>
    if rig.config.disarmInSleep then rig.rearm
    throw .hardware

end Transceiver.Rig
