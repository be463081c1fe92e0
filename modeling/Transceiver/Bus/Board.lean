import Transceiver.Bus.Link

/-! The lines of a board: reset, interrupt, the antenna switch and the external amplifier. -/

namespace Transceiver.Bus

/-- Which of the optional lines a board has. -/
structure Board where
  rxAntenna : Bool
  txAntenna : Bool
  externalPa : Bool
  deriving DecidableEq

namespace Board

variable {σ : Type} (board : Board) (bus : Endpoint σ)

/-- The board has a line. -/
def has : Line → Bool
  | .reset => true
  | .rxAntenna => board.rxAntenna
  | .txAntenna => board.txAntenna
  | .externalPa => board.externalPa

/-- The fault of a line that cannot be driven. -/
def faultOf : Line → Fault
  | .reset => .resetLine
  | .rxAntenna => .rxAntenna
  | .txAntenna | .externalPa => .txAntenna

/-- Drive a line; one that the board does not have is left out. -/
def drive (line : Line) (high : Bool) : Action (Link σ) Unit := do
  if board.has line then
    Link.outside (faultOf line) (bus.wire.drive line high)

/-- Select an antenna path. The opposite path is released before a path is taken. Receiving leaves
the external amplifier as it is. -/
def select : AntennaPath → Action (Link σ) Unit
  | .off => do
    board.drive bus .externalPa false
    board.drive bus .rxAntenna false
    board.drive bus .txAntenna false
  | .rx => do
    board.drive bus .txAntenna false
    board.drive bus .rxAntenna true
  | .tx => do
    board.drive bus .externalPa false
    board.drive bus .rxAntenna false
    board.drive bus .txAntenna true
  | .txExternal => do
    board.drive bus .externalPa true
    board.drive bus .rxAntenna false
    board.drive bus .txAntenna true

/-- Settle time around the reset pulse, milliseconds. -/
def resetSettle : UInt32 := 10

/-- Length of the reset pulse, milliseconds. -/
def resetPulse : UInt32 := 20

/-- Pull the reset line low for a while. -/
def reset : Action (Link σ) Unit := do
  bus.delayMillis resetSettle
  board.drive bus .reset false
  bus.delayMillis resetPulse
  board.drive bus .reset true
  bus.delayMillis resetSettle

end Board

namespace Endpoint

variable {σ : Type} (bus : Endpoint σ)

/-- Sample the interrupt line. -/
def readInterruptLine : Action (Link σ) Bool := Link.outside .interruptLine bus.wire.interrupt

/-- Wait for the interrupt line. -/
def awaitInterrupt : Action (Link σ) Unit := Link.outside .interruptLine bus.wire.awaitInterrupt

end Endpoint

end Transceiver.Bus
