import Transceiver.Proofs.Bench
import Transceiver.Proofs.BusUse

/-! A chip of either family on a board, with all that passes over its wires written to a list. -/

namespace Transceiver

open Bus

/-- The host, whose surroundings are kept beside something else. -/
def Host.beside {σ τ : Type} (host : Host σ) : Host (σ × τ) where
  now s := let (time, w) := host.now s.1; (time, (w, s.2))
  onEvent event s := (host.onEvent event s.1, s.2)
  onSleepStart wakeAt s := (host.onSleepStart wakeAt s.1, s.2)

/-- A chip of either family on a board. -/
inductive Device (σ : Type) where
  | sx126x (device : Sx126x.Device σ)
  | lr11xx (device : Lr11xx.Device σ)

namespace Device

variable {σ : Type}

def chip : Device σ → Chip (Link σ)
  | .sx126x device => device.chip
  | .lr11xx device => device.chip

def protocol : Device σ → Protocol
  | .sx126x device => device.bus.handshake.protocol
  | .lr11xx device => device.bus.handshake.protocol

/-- The device, with all that passes over its wires written to a list. -/
def recording : Device σ → Device (σ × List Signal)
  | .sx126x device => .sx126x device.recording
  | .lr11xx device => .lr11xx device.recording

/-- A rig with the device, where all that passes over the wires is written to a list. -/
def recordedRig (device : Device σ) (host : Host σ) (config : Config) :
    Rig (Link (σ × List Signal)) :=
  ⟨device.recording.chip, Link.host host.beside, config⟩

/-- The station after a run from power-off, with the signals of the run. -/
def ran (device : Device σ) (host : Host σ) (config : Config) (w : σ) (ops : List Operation) :
    Station (Link (σ × List Signal)) :=
  (device.recordedRig host config).run ⟨{}, { world := (w, []) }⟩ ops

end Device

namespace Bench

/-- A device on the bench, on a board without an antenna switch. -/
def device : Device Unit := .sx126x {
  wire := wire
  board := ⟨false, false, false⟩
  config := { variant := .sx1262, tcxo := none, useDcdc := false, rxBoost := false } }

def host : Host Unit where
  now w := (0, w)
  onEvent _ w := w
  onSleepStart _ w := w

end Bench

end Transceiver
