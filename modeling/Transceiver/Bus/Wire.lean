import Transceiver.Fault

/-! The wires between the host and the chip, as the host sees them. -/

namespace Transceiver.Bus

/-- The lines that the host drives. -/
inductive Line where
  | reset
  | rxAntenna
  | txAntenna
  /-- Enables the external amplifier. -/
  | externalPa
  deriving DecidableEq

/-- The host's end of the wires, in surroundings `σ`. What can fail gives no value when it does. -/
structure Wire (σ : Type) where
  /-- Exchange bytes in both directions at once. -/
  transfer : (sent : List UInt8) → StateM σ (Option (Vector UInt8 sent.length))
  /-- Hold the chip selected for a number of nanoseconds, without any bytes. -/
  hold : UInt32 → StateM σ (Option Unit)
  /-- Sample the busy line. -/
  busy : StateM σ (Option Bool)
  /-- Sample the interrupt line. -/
  interrupt : StateM σ (Option Bool)
  /-- Wait until the interrupt line is high. -/
  awaitInterrupt : StateM σ (Option Unit)
  drive : Line → (high : Bool) → StateM σ (Option Unit)
  delayMicros : UInt32 → σ → σ
  delayMillis : UInt32 → σ → σ

end Transceiver.Bus
