import Transceiver.Interrupt.Register
import Transceiver.Time

/-! Opcodes, memory words and number formats of the LR11xx family. -/

namespace Transceiver.Lr11xx

/-- The commands that are used. -/
inductive Opcode where
  | readMemory
  | writeBuffer
  | readBuffer
  | writeMemoryMask
  | getErrors
  | clearErrors
  | calibrate
  | setRegulatorMode
  | calibrateImage
  | setDioAsRfSwitch
  | setDioIrqParams
  | clearIrq
  | setTcxoMode
  | setSleep
  | setStandby
  | getRandom
  | driveDioInSleep
  | getRxBufferStatus
  | getPacketStatus
  | getRssiInst
  | setFskSyncWord
  | setRx
  | setTx
  | setRfFrequency
  | setCadParams
  | setPacketType
  | setModulationParams
  | setPacketParams
  | setTxParams
  | setFallbackMode
  | setRxDutyCycle
  | setPaConfig
  | stopTimeoutOnPreamble
  | setCad
  | setTxCarrier
  | setLoraSyncTimeout
  | setRxBoosted
  | setLoraSyncWord
  | getLoraRxInfo
  deriving DecidableEq

/-- The word that starts a command. -/
def Opcode.word : Opcode → UInt16
  | .readMemory => 0x0106
  | .writeBuffer => 0x0108
  | .readBuffer => 0x0109
  | .writeMemoryMask => 0x010C
  | .getErrors => 0x010D
  | .clearErrors => 0x010E
  | .calibrate => 0x010F
  | .setRegulatorMode => 0x0110
  | .calibrateImage => 0x0111
  | .setDioAsRfSwitch => 0x0112
  | .setDioIrqParams => 0x0113
  | .clearIrq => 0x0114
  | .setTcxoMode => 0x0117
  | .setSleep => 0x011B
  | .setStandby => 0x011C
  | .getRandom => 0x0120
  | .driveDioInSleep => 0x012A
  | .getRxBufferStatus => 0x0203
  | .getPacketStatus => 0x0204
  | .getRssiInst => 0x0205
  | .setFskSyncWord => 0x0206
  | .setRx => 0x0209
  | .setTx => 0x020A
  | .setRfFrequency => 0x020B
  | .setCadParams => 0x020D
  | .setPacketType => 0x020E
  | .setModulationParams => 0x020F
  | .setPacketParams => 0x0210
  | .setTxParams => 0x0211
  | .setFallbackMode => 0x0213
  | .setRxDutyCycle => 0x0214
  | .setPaConfig => 0x0215
  | .stopTimeoutOnPreamble => 0x0217
  | .setCad => 0x0218
  | .setTxCarrier => 0x0219
  | .setLoraSyncTimeout => 0x021B
  | .setRxBoosted => 0x0227
  | .setLoraSyncWord => 0x022B
  | .getLoraRxInfo => 0x0230

/-- The interrupts of the family. The FSK sync word and the LoRa header share a bit. -/
def interrupts : RegisterLayout 32 where
  bits := [
    (.txDone, 2), (.rxDone, 3), (.preambleDetected, 4), (.syncWordValid, 5), (.headerValid, 5),
    (.headerError, 6), (.crcError, 7), (.cadDone, 8), (.cadDetected, 9), (.timeout, 10),
    (.gnssScanDone, 19), (.wifiScanDone, 20), (.commandError, 22), (.chipError, 23)]

/-- The code of a modem. -/
def modemCode : Modem → UInt8
  | .fsk => 1
  | .lora => 2

/-- Some bits of a word of the chip's memory. -/
structure Field where
  address : UInt32
  mask : UInt32
  /-- Where the bits start. -/
  shift : UInt32
  deriving DecidableEq

namespace Field

/-- A value at its place in the word. -/
def place (field : Field) (value : UInt32) : UInt32 := value <<< field.shift

/-- The value in a word. -/
def extract (field : Field) (word : UInt32) : UInt32 := (word &&& field.mask) >>> field.shift

end Field

/-- FSK bytes received so far. -/
def fillLevel : Field := ⟨0x00F20384, 0x0FFF0000, 16⟩

/-- Length of the FSK packet being received. -/
def payloadLength : Field := ⟨0x00F20368, 0xFFF00000, 20⟩

/-- Setting of the amplifier near the edge of the 900 MHz band. -/
def bandEdge : Field := ⟨0x00F20420, 0x00070000, 16⟩

/-- The RSSI in dBm of a byte in half decibels, rounded up. -/
def rssiOfRaw (raw : UInt8) : Int16 := -(raw.toUInt16.toInt16 >>> 1)

/-- Step of the calibration frequencies, hertz. -/
def calibrationStep : UInt32 := 4000000

/-- The bands that are calibrated as a whole, hertz. -/
def calibrationBands : List (UInt32 × UInt32) := [
  (430000000, 440000000),
  (470000000, 510000000),
  (779000000, 787000000),
  (863000000, 879000000),
  (902000000, 928000000)]

/-- The band around a frequency: one of those calibrated as a whole, or one step. -/
def calibrationBand (frequency : UInt32) : UInt32 × UInt32 :=
  (calibrationBands.find? fun (start, stop) => start ≤ frequency ∧ frequency ≤ stop).getD
    (frequency, frequency + calibrationStep - 1)

/-- A number as a byte, cut off at the largest. -/
def saturateByte (n : UInt32) : UInt8 := if n > 0xFF then 0xFF else n.toUInt8

/-- The pair of calibration frequencies for the band of a frequency, in steps. -/
def imageCalibration (frequency : UInt32) : List UInt8 :=
  let (start, stop) := calibrationBand frequency
  [saturateByte (start / calibrationStep), saturateByte (ceilDiv32 stop calibrationStep)]

/-- Ticks of the chip's clock in a second. -/
def clockRate : UInt32 := 32768

/-- A number of milliseconds in ticks of the chip's clock, rounded down. -/
def clockTicks (ms : UInt32) : UInt32 :=
  (ms.toUInt64 * clockRate.toUInt64 / 1000).toUInt32

end Transceiver.Lr11xx
