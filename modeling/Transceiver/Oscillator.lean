/-! The temperature compensated oscillator that a board may have. -/

namespace Transceiver

/-- Supply voltages of the oscillator. -/
inductive TcxoVoltage where
  | v1_6
  | v1_7
  | v1_8
  | v2_2
  | v2_4
  | v2_7
  | v3_0
  | v3_3
  deriving DecidableEq

/-- The code of a voltage. -/
def TcxoVoltage.code : TcxoVoltage → UInt8
  | .v1_6 => 0
  | .v1_7 => 1
  | .v1_8 => 2
  | .v2_2 => 3
  | .v2_4 => 4
  | .v2_7 => 5
  | .v3_0 => 6
  | .v3_3 => 7

/-- Startup time of the oscillator, milliseconds. -/
def tcxoStartup : UInt32 := 10

/-- The startup time in microseconds, of an oscillator that may not be there. -/
def tcxoStartupMicros (tcxo : Option TcxoVoltage) : UInt32 :=
  if tcxo.isSome then tcxoStartup * 1000 else 0

end Transceiver
