import Transceiver.Bus.Board
import Transceiver.Fsk.Encoding
import Transceiver.Lora.Encoding
import Transceiver.Oscillator
import Transceiver.Lr11xx.Encoding

/-! The LR1110, the LR1120 and the LR1121. -/

namespace Transceiver.Lr11xx

open Bus

/-- The members of the family. -/
inductive Variant where
  /-- Scans on the host's command only. -/
  | lr1110
  /-- Scans on its own. -/
  | lr1120
  /-- Scans on its own, without satellites. -/
  | lr1121
  deriving DecidableEq

namespace Variant

/-- The scanner of the chip may take the radio over. -/
def supportsScan : Variant → Bool
  | .lr1110 => false
  | .lr1120 | .lr1121 => true

/-- Time from the end of a reset until the chip takes commands, milliseconds. -/
def bootTime : Variant → UInt32
  | .lr1110 => 185
  | .lr1120 | .lr1121 => 40

/-- How long selecting the chip takes to wake it, microseconds. -/
def wakeSettle : Variant → UInt32
  | .lr1110 => 5
  | .lr1120 | .lr1121 => 98

end Variant

/-- Levels of the chip's own lines when it drives the antenna switch, a bit for each line. -/
structure AntennaSwitch where
  enable : UInt8
  standby : UInt8
  rx : UInt8
  tx : UInt8
  txHighPower : UInt8
  txHighFrequency : UInt8
  gnss : UInt8
  wifi : UInt8
  deriving DecidableEq

/-- How a board uses the chip. -/
structure Config where
  variant : Variant
  /-- Set when the chip drives the antenna switch. -/
  antennaSwitch : Option AntennaSwitch := none
  /-- Voltage of the compensated oscillator; none for a crystal. -/
  tcxo : Option TcxoVoltage
  /-- Run from the switching converter, not from the linear regulator. -/
  useDcdc : Bool
  /-- More sensitivity for more current. -/
  rxBoost : Bool
  /-- Keep the output power near the edge of the 900 MHz band. -/
  txPowerFix : Bool := false
  deriving DecidableEq

/-- How the family shakes hands. -/
def handshake (variant : Variant) : Handshake where
  protocol := .twoPhase
  busyBudget := 40000
  wakeSettle := variant.wakeSettle
  pollInterval := 10

/-- A chip of the family on a board. -/
structure Device (σ : Type) where
  wire : Wire σ
  board : Board
  config : Config

namespace Device

variable {σ : Type} (device : Device σ)

/-- The bus of the chip. -/
def bus : Endpoint σ := ⟨device.wire, handshake device.config.variant⟩

/-- Send a command with its arguments. -/
def command (op : Opcode) (args : List UInt8) : Action (Link σ) Unit :=
  device.bus.write (BigEndian.bytes16 op.word ++ args)

/-- Send a command with its arguments and read `n` bytes. -/
def query (op : Opcode) (args : List UInt8) (n : Nat) : Action (Link σ) (Answer n) :=
  device.bus.read (BigEndian.bytes16 op.word ++ args) n

/-- Read a field of the chip's memory. -/
def readField (field : Field) : Action (Link σ) UInt32 := do
  let word ← device.query .readMemory (BigEndian.bytes32 field.address ++ [1]) 4
  return field.extract word.word32

/-- Write a field of the chip's memory, leaving the rest of its word as it is. -/
def writeField (field : Field) (value : UInt32) : Action (Link σ) Unit :=
  device.command .writeMemoryMask
    (BigEndian.bytes32 field.address ++ BigEndian.bytes32 field.mask
      ++ BigEndian.bytes32 (field.place value))

/-- Supply the compensated oscillator, calibrate on it, and fall back to it after a transfer. -/
def setTcxo (voltage : TcxoVoltage) : Action (Link σ) Unit := do
  device.command .setTcxoMode (voltage.code :: BigEndian.bytes24 (clockTicks tcxoStartup))
  device.command .calibrate [0x3F]
  device.command .setFallbackMode [0x02]

/-- Let the chip drive the antenna switch. -/
def setAntennaSwitch (levels : AntennaSwitch) : Action (Link σ) Unit :=
  device.command .setDioAsRfSwitch
    [levels.enable, levels.standby, levels.rx, levels.tx, levels.txHighPower,
      levels.txHighFrequency, levels.gnss, levels.wifi]

/-- Go to standby on the crystal or on the internal oscillator. -/
def setStandby (crystal : Bool) : Action (Link σ) Unit :=
  device.command .setStandby [crystal.toUInt8]

/-- Let these interrupts, and no others, raise the first of the chip's two lines. -/
def armInterrupts (mask : InterruptSet) : Action (Link σ) Unit :=
  device.command .setDioIrqParams (BigEndian.bytes32 ⟨interrupts.encode mask⟩ ++ [0, 0, 0, 0])

/-- Read the interrupt status, which follows two status bytes, and clear what was read. -/
def takeInterrupts : Action (Link σ) InterruptSet := do
  let status : Answer 4 := (← device.bus.readDirect 6).drop 2
  let reg := status.word32
  if reg ≠ 0 then device.command .clearIrq status.toList
  return interrupts.decode reg.toBitVec

/-- Clear the status of some interrupts. -/
def clearInterrupts (mask : InterruptSet) : Action (Link σ) Unit :=
  device.command .clearIrq (BigEndian.bytes32 ⟨interrupts.encode mask⟩)

/-- Read the chip's errors and clear them. -/
def takeErrors : Action (Link σ) UInt16 := do
  let errors ← device.query .getErrors [] 2
  device.command .clearErrors []
  return errors.word16

/-- Reset the chip and wait until it has booted. -/
def reset : Action (Link σ) Unit := do
  device.board.reset device.bus
  device.bus.delayMillis device.config.variant.bootTime
  Link.afterReset
  device.bus.ready

/-- Configure the chip once after a reset. The oscillator raises an error when it starts, so the
status and the errors are cleared; the antenna lines stay driven during sleep. -/
def setUp : Action (Link σ) Unit := do
  if let some voltage := device.config.tcxo then device.setTcxo voltage
  device.setStandby false
  device.command .setRegulatorMode [device.config.useDcdc.toUInt8]
  if let some levels := device.config.antennaSwitch then device.setAntennaSwitch levels
  device.command .setRxBoosted [device.config.rxBoost.toUInt8]
  discard device.takeInterrupts
  discard device.takeErrors
  device.command .driveDioInSleep [1]

/-- Put the chip to sleep until the host wakes it. The chip's timer is armed, for a time that
never ends. -/
def setSleep (warmStart : Bool) : Action (Link σ) Unit := do
  device.bus.writeSleep (BigEndian.bytes16 Opcode.setSleep.word
    ++ [0x02 ||| warmStart.toUInt8, 0xFF, 0xFF, 0xFF, 0xFF])
  device.bus.delayMillis 2

/-- Interrupt a scan. -/
def abort : Action (Link σ) Unit := do
  unless device.config.variant.supportsScan do throw .notSupported
  device.bus.abort

/-- Highest frequency, in hertz, at which the amplifier needs the setting for the band edge. -/
def bandEdgeLimit : UInt32 := 903000000

/-- Set the amplifier for the edge of the 900 MHz band. -/
def compensateBandEdge (frequency : UInt32) : Action (Link σ) Unit := do
  if device.config.txPowerFix ∧ 902000000 ≤ frequency ∧ frequency ≤ 928000000 then
    device.writeField bandEdge (if frequency ≤ bandEdgeLimit then 5 else 4)

/-- Fill the transmit buffer, which is always filled from its start. -/
def writeBuffer (offset : UInt8) (data : List UInt8) : Action (Link σ) Unit := do
  if offset ≠ 0 then throw .invalidParams
  device.bus.send (BigEndian.bytes16 Opcode.writeBuffer.word) data

/-- Read from the receive buffer, at most 255 bytes. -/
def readBuffer (offset : UInt8) (length : Nat) : Action (Link σ) (Vector UInt8 length) := do
  if length > 0xFF then throw .noMemory
  device.query .readBuffer [offset, UInt8.ofNat length] length

/-- Set the FSK modulation. -/
def setFskModulation (m : Fsk.Modulation) : Action (Link σ) Unit := do
  if m.bitRate = 0 then throw .invalidParams
  device.command .setModulationParams
    (BigEndian.bytes32 m.bitRate ++ [m.pulseShape.code, m.bandwidth.code]
      ++ BigEndian.bytes32 m.deviation)

/-- Carry out a command. -/
def perform : (c : Command) → Action (Link σ) c.Reply
  | .readInterruptLine => device.bus.readInterruptLine
  | .awaitInterrupt => device.bus.awaitInterrupt
  | .reset => device.reset
  | .setUp => device.setUp
  | .wake => device.bus.wake
  | .setAntenna path => device.board.select device.bus path
  | .abort => device.abort
  | .setModem modem => device.command .setPacketType [modemCode modem]
  | .armInterrupts mask => device.armInterrupts mask
  | .takeInterrupts => device.takeInterrupts
  | .clearInterrupts mask => device.clearInterrupts mask
  | .takeErrors => device.takeErrors
  | .setStandby crystal => device.setStandby crystal
  | .setSleep warmStart => device.setSleep warmStart
  | .calibrateImage frequency => device.command .calibrateImage (imageCalibration frequency)
  | .setFrequency frequency => device.command .setRfFrequency (BigEndian.bytes32 frequency)
  | .compensateBandEdge frequency => device.compensateBandEdge frequency
  | .setPa pa => device.command .setPaConfig [pa.deviceSelect, pa.lut, pa.dutyCycle, pa.hpMax]
  | .setTxParams power rampTime => device.command .setTxParams [power.toUInt8, rampTime]
  | .setTx ticks => device.command .setTx (BigEndian.bytes24 ticks)
  | .setTxCarrier => device.command .setTxCarrier []
  | .setRx ticks => device.command .setRx (BigEndian.bytes24 ticks)
  | .setRxDutyCycle rxTicks sleepTicks =>
    device.command .setRxDutyCycle
      (BigEndian.bytes24 rxTicks ++ BigEndian.bytes24 sleepTicks ++ [0])
  | .setCad => device.command .setCad []
  | .setCadParams params => device.command .setCadParams params.encode
  | .stopTimerOnPreamble enable => device.command .stopTimeoutOnPreamble [enable.toUInt8]
  | .writeBuffer offset data => device.writeBuffer offset data
  | .readBuffer offset length => device.readBuffer offset length
  | .readRxBufferStatus => return (← device.query .getRxBufferStatus [] 2).rxBufferStatus
  | .readLoraQuality => return (← device.query .getPacketStatus [] 3).loraQuality rssiOfRaw
  | .readFskQuality => return (← device.query .getPacketStatus [] 4).fskQuality rssiOfRaw
  | .readLoraCrcFlag => return (← device.query .getLoraRxInfo [] 2).loraCrcFlag
  | .readFskFillLevel => return saturateByte (← device.readField fillLevel)
  | .setFskPayloadLength length => device.writeField payloadLength length.toUInt32
  | .readRssi => return rssiOfRaw (← device.query .getRssiInst [] 1).byte
  | .readRandom => return (← device.query .getRandom [] 4).word32
  | .setLoraModulation m => do
    device.command .setModulationParams (← Action.settle m.encode)
  | .setLoraPacket p => device.command .setPacketParams p.encode
  | .setLoraSyncWord word => device.command .setLoraSyncWord [word]
  | .setLoraSymbolTimeout symbols => device.command .setLoraSyncTimeout [symbols]
  | .setFskModulation m => device.setFskModulation m
  | .setFskPacket p => device.command .setPacketParams p.encode
  | .setFskSyncWord word => do
    device.command .setFskSyncWord (← Action.settle (Fsk.padSyncWord word))

/-- The chip, as the state machine sees it. -/
def chip : Chip (Link σ) where
  tickRate := clockRate
  oscillatorStartup := tcxoStartupMicros device.config.tcxo
  supportsScan _ := device.config.variant.supportsScan
  busStatus link := link.status
  pause us link := { link with world := device.wire.delayMicros us link.world }
  perform := device.perform

end Device

end Transceiver.Lr11xx
