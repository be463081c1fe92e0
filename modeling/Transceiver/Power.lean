/-! The power amplifier. -/

namespace Transceiver

/-- How the power amplifier is driven, as a board resolves it for an output power. -/
structure PaConfig where
  /-- Requested output power, dBm. -/
  targetPower : Int8 := 0
  /-- Power programmed with the ramp time. -/
  txPower : Int8 := 0
  /-- Ramp time, as the chip encodes it. -/
  rampTime : UInt8 := 0
  dutyCycle : UInt8 := 0
  /-- Size of the high power amplifier. -/
  hpMax : UInt8 := 0
  /-- Which amplifier is used. -/
  deviceSelect : UInt8 := 0
  /-- Look-up table, or supply, of the amplifier. -/
  lut : UInt8 := 0
  /-- Drive the line of the external amplifier on transmit. -/
  externalPa : Bool := false
  deriving DecidableEq

/-- Duration of a ramp, microseconds; codes that name no ramp take no time. -/
def rampMicros : UInt8 → UInt32
  | 0 => 10
  | 1 => 20
  | 2 => 40
  | 3 => 80
  | 4 => 200
  | 5 => 800
  | 6 => 1700
  | 7 => 3400
  | _ => 0

end Transceiver
