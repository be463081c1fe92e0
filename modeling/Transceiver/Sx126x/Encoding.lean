import Transceiver.Interrupt.Register

/-! Opcodes, registers and number formats of the SX126x family. -/

namespace Transceiver.Sx126x

/-- The commands that are used. -/
inductive Opcode where
  | writeRegister
  | readRegister
  | writeBuffer
  | readBuffer
  | setSleep
  | setStandby
  | setTx
  | setRx
  | setRxDutyCycle
  | setCad
  | setTxContinuousWave
  | setPacketType
  | setRfFrequency
  | setTxParams
  | setPaConfig
  | setCadParams
  | setBufferBaseAddress
  | setModulationParams
  | setPacketParams
  | getRxBufferStatus
  | getPacketStatus
  | getRssiInst
  | setDioIrqParams
  | getIrqStatus
  | clearIrqStatus
  | calibrate
  | calibrateImage
  | setRegulatorMode
  | getDeviceErrors
  | clearDeviceErrors
  | setTcxoMode
  | setDio2AsRfSwitch
  | stopTimerOnPreamble
  | setLoraSymbolTimeout
  deriving DecidableEq

/-- The byte that starts a command. -/
def Opcode.byte : Opcode → UInt8
  | .writeRegister => 0x0D
  | .readRegister => 0x1D
  | .writeBuffer => 0x0E
  | .readBuffer => 0x1E
  | .setSleep => 0x84
  | .setStandby => 0x80
  | .setTx => 0x83
  | .setRx => 0x82
  | .setRxDutyCycle => 0x94
  | .setCad => 0xC5
  | .setTxContinuousWave => 0xD1
  | .setPacketType => 0x8A
  | .setRfFrequency => 0x86
  | .setTxParams => 0x8E
  | .setPaConfig => 0x95
  | .setCadParams => 0x88
  | .setBufferBaseAddress => 0x8F
  | .setModulationParams => 0x8B
  | .setPacketParams => 0x8C
  | .getRxBufferStatus => 0x13
  | .getPacketStatus => 0x14
  | .getRssiInst => 0x15
  | .setDioIrqParams => 0x08
  | .getIrqStatus => 0x12
  | .clearIrqStatus => 0x02
  | .calibrate => 0x89
  | .calibrateImage => 0x98
  | .setRegulatorMode => 0x96
  | .getDeviceErrors => 0x17
  | .clearDeviceErrors => 0x07
  | .setTcxoMode => 0x97
  | .setDio2AsRfSwitch => 0x9D
  | .stopTimerOnPreamble => 0x9F
  | .setLoraSymbolTimeout => 0xA0

/-- The registers that are used. -/
inductive Register where
  /-- Length of the FSK packet being received. -/
  | payloadLength
  /-- Symbol timeout, as a mantissa in bits 7 to 3 and an exponent in bits 2 to 0. -/
  | syncTimeout
  | syncWord
  | loraSyncWord
  /-- Bit 4 holds the checksum flag of the last explicit header. -/
  | loraHeaderInfo
  /-- Write pointer into the receive buffer. -/
  | rxPointer
  /-- Four random bytes. -/
  | randomNumber
  | analogLna
  | analogMixer
  | rxGain
  /-- Trim capacitors of the crystal, two bytes. -/
  | crystalTrim
  | overCurrent
  /-- The registers that survive a warm start. -/
  | retentionList
  | iqPolarity
  | txModulation
  /-- Behaviour of the amplifier near the edge of the 900 MHz band. -/
  | bandEdge
  | overVoltage
  deriving DecidableEq

/-- The address of a register. -/
def Register.address : Register → UInt16
  | .payloadLength => 0x06BB
  | .syncTimeout => 0x0706
  | .syncWord => 0x06C0
  | .loraSyncWord => 0x0740
  | .loraHeaderInfo => 0x076B
  | .rxPointer => 0x0803
  | .randomNumber => 0x0819
  | .analogLna => 0x08E2
  | .analogMixer => 0x08E5
  | .rxGain => 0x08AC
  | .crystalTrim => 0x0911
  | .overCurrent => 0x08E7
  | .retentionList => 0x029F
  | .iqPolarity => 0x0736
  | .txModulation => 0x0889
  | .bandEdge => 0x088B
  | .overVoltage => 0x08D8

/-- The interrupts of the family. There is none for chip errors. -/
def interrupts : RegisterLayout 16 where
  bits := [
    (.txDone, 0), (.rxDone, 1), (.preambleDetected, 2), (.syncWordValid, 3), (.headerValid, 4),
    (.headerError, 5), (.crcError, 6), (.cadDone, 7), (.cadDetected, 8), (.timeout, 9)]

/-- The code of a modem. -/
def modemCode : Modem → UInt8
  | .fsk => 0
  | .lora => 1

/-- A step of the synthesizer is the crystal's 32 MHz over 2 ^ 25; this is one step scaled by
2 ^ 14. -/
def scaledStep : UInt32 := 15625

/-- A frequency in steps of the synthesizer, rounded to the nearest, in 32-bit arithmetic. -/
def pllSteps (frequency : UInt32) : UInt32 :=
  let whole := frequency / scaledStep
  let rest := frequency % scaledStep
  (whole <<< 14) + ((rest <<< 14) + (scaledStep >>> 1)) / scaledStep

/-- The RSSI in dBm of a byte in half decibels, rounded down. -/
def rssiOfRaw (raw : UInt8) : Int16 := (-raw.toUInt16.toInt16) >>> 1

/-- The pair of calibration frequencies for the band of a frequency. -/
def imageCalibration (frequency : UInt32) : List UInt8 :=
  if frequency > 900000000 then [0xE1, 0xE9]
  else if frequency > 850000000 then [0xD7, 0xDB]
  else if frequency > 770000000 then [0xC1, 0xC5]
  else if frequency > 460000000 then [0x75, 0x81]
  else [0x6B, 0x6F]

/-- Symbol counts from this one on need the timeout register as well. -/
def registerTimeoutFrom : UInt8 := 64

/-- A symbol count for the timeout register. Half of the count is at most 127, so that dividing it
by four once makes it fit the five bits of the mantissa. -/
def symbolTimeoutCode (symbols : UInt8) : UInt8 :=
  let half := symbols >>> 1
  if half > 31 then (1 : UInt8) + ((half >>> 2) <<< 3) else half <<< 3

/-- The retention list as it is stored: a count, then room for four addresses. -/
abbrev RetentionList := Vector UInt8 9

namespace RetentionList

/-- How many addresses the chip counts, which may be more than there is room for. -/
def count (list : RetentionList) : UInt8 := list[0]

/-- The addresses in use. -/
def entries (list : RetentionList) : List (UInt8 × UInt8) :=
  [(list[1], list[2]), (list[3], list[4]), (list[5], list[6]), (list[7], list[8])].take
    list[0].toNat

/-- The list with one more address, where there is room. -/
def push (list : RetentionList) (hi lo : UInt8) : RetentionList :=
  let n := list.entries.length
  ((list.set 0 (UInt8.ofNat (n + 1))).setIfInBounds (1 + 2 * n) hi).setIfInBounds (2 + 2 * n) lo

end RetentionList

end Transceiver.Sx126x
