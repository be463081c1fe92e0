import Transceiver.Rig.Basic

/-! Handing the radio to the scan subsystem and taking it back. -/

namespace Transceiver.Rig

open Station

variable {σ : Type} (rig : Rig σ)

/-- Reserve the radio for another stack, without touching the chip. -/
def setBusy : Action (Station σ) Unit := do
  ensure (· = .standby)
  enter .busy

/-- Hand the radio to the scan subsystem. This needs standby and no interrupt pending. -/
def holdScan : Action (Station σ) Unit := do
  unless rig.chip.supportsScan (← get).world do throw .notSupported
  if ← rig.tell .readInterruptLine then throw .busy
  if (← current).state ≠ .standby then throw .invalidState
  enter .scan

/-- Set the modem and the interrupts again, which a scan may have changed. The interrupts are
armed even if the modem cannot be set. -/
def restore : Action (Station σ) Unit := do
  let radio ← current
  let modem ← Action.attempt (rig.tell (.setModem radio.modem))
  let armed ← Action.attempt (rig.tell (.armInterrupts radio.mask))
  Action.settle modem
  Action.settle armed

/-- End a scan in the given state, whatever becomes of the restoration. -/
def endScan (state : RadioState) : Action (Station σ) Unit := do
  let restored ← Action.attempt rig.restore
  enter state
  Action.settle restored

/-- Refuse what only a scan allows. -/
def ensureScanning : Action (Station σ) Unit := do
  if (← current).state ≠ .scan then throw .invalidState

/-- Take the radio back from the scan subsystem. -/
def releaseScan : Action (Station σ) Unit := do
  ensureScanning
  rig.endScan .standby

/-- Interrupt the scan command in progress. -/
def abortScan : Action (Station σ) Unit := do
  ensureScanning
  rig.tell .abort

/-- The commands that start a scan. -/
def scanCommands : List UInt16 := [0x0409, 0x040A]

/-- Take the interrupt status that the scan subsystem forwards. A scan that finished leaves the
radio reserved for whoever reads its result; one that the chip rejected leaves it in standby. -/
def scanInterrupt (status : InterruptSet) : Action (Station σ) Unit := do
  ensureScanning
  if .gnssScanDone ∈ status ∨ .wifiScanDone ∈ status then
    rig.endScan .busy
  else if .commandError ∈ status ∧
      (rig.chip.busStatus (← get).world).lastCommand ∈ scanCommands then
    rig.endScan .standby

end Transceiver.Rig
