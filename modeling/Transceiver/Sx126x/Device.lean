import Transceiver.Bus.Board
import Transceiver.Fsk.Encoding
import Transceiver.Lora.Encoding
import Transceiver.Oscillator
import Transceiver.Rig.Tuning
import Transceiver.Sx126x.Encoding

/-! The SX1261, the SX1262 and the radio inside STM32WL parts. -/

namespace Transceiver.Sx126x

open Bus

/-- The members of the family. -/
inductive Variant where
  /-- Low power amplifier, up to 15 dBm. -/
  | sx1261
  /-- High power amplifier, up to 22 dBm. -/
  | sx1262
  /-- The radio inside STM32WL parts, whose antenna is never switched by the chip. -/
  | stm32wl (highPower : Bool)
  deriving DecidableEq

namespace Variant

/-- The high power amplifier feeds the antenna. -/
def highPower : Variant → Bool
  | .sx1261 => false
  | .sx1262 => true
  | .stm32wl highPower => highPower

/-- The chip switches the antenna while it transmits. -/
def switchesAntenna : Variant → Bool
  | .sx1261 | .sx1262 => true
  | .stm32wl _ => false

/-- Limit of the amplifier's current, in steps of 2.5 mA. -/
def currentLimit (variant : Variant) : UInt8 := if variant.highPower then 0x38 else 0x18

end Variant

/-- Crystal trim that the chip has after a reset. -/
def defaultTrim : UInt16 := 0x1212

/-- How a board uses the chip. -/
structure Config where
  variant : Variant
  /-- Voltage of the compensated oscillator; none for a crystal. -/
  tcxo : Option TcxoVoltage
  /-- Run from the switching converter, not from the linear regulator. -/
  useDcdc : Bool
  /-- More sensitivity for more current. -/
  rxBoost : Bool
  /-- Trim capacitors of the crystal, of no use with a compensated oscillator. -/
  trim : UInt16 := defaultTrim
  /-- Keep the output power near the edge of the 900 MHz band and under a bad antenna match. -/
  txPowerFix : Bool := false
  deriving DecidableEq

/-- How the family shakes hands. -/
def handshake : Handshake where
  protocol := .singleShot
  busyBudget := 2000
  wakeSettle := 100
  pollInterval := 10

/-- A chip of the family on a board. -/
structure Device (σ : Type) where
  wire : Wire σ
  board : Board
  config : Config

namespace Device

variable {σ : Type} (device : Device σ)

/-- The bus of the chip. -/
def bus : Endpoint σ := ⟨device.wire, handshake⟩

/-- Send a command with its arguments. -/
def command (op : Opcode) (args : List UInt8) : Action (Link σ) Unit :=
  device.bus.write (op.byte :: args)

/-- Send a command and read `n` bytes after one status byte. -/
def query (op : Opcode) (n : Nat) : Action (Link σ) (Answer n) :=
  device.bus.read [op.byte, 0] n

/-- Read registers from an address on. -/
def readRegister (r : Register) (n : Nat) : Action (Link σ) (Answer n) :=
  device.bus.read (Opcode.readRegister.byte :: BigEndian.bytes16 r.address ++ [0]) n

/-- Write registers from an address on. -/
def writeRegister (r : Register) (data : List UInt8) : Action (Link σ) Unit :=
  device.bus.send (Opcode.writeRegister.byte :: BigEndian.bytes16 r.address) data

/-- Read one register. -/
def readByte (r : Register) : Action (Link σ) UInt8 := return (← device.readRegister r 1).byte

/-- Keep a register over a warm start. -/
def retain (r : Register) : Action (Link σ) Unit := do
  let list : RetentionList ← device.readRegister .retentionList 9
  let hi := (r.address >>> 8).toUInt8
  let lo := r.address.toUInt8
  if (hi, lo) ∈ list.entries then return
  if list.entries.length = 4 then throw .invalidParams
  device.writeRegister .retentionList (list.push hi lo).toList

/-- Keep the registers that a warm start needs. -/
def updateRetention : Action (Link σ) Unit := do
  device.retain .rxGain
  device.retain .txModulation

/-- Clear the chip's errors. -/
def clearErrors : Action (Link σ) Unit := device.command .clearDeviceErrors [0, 0]

/-- Read the chip's errors. -/
def readErrors : Action (Link σ) UInt16 := do
  let errors ← device.query .getDeviceErrors 2
  return errors.word16

/-- Go to standby on the crystal or on the internal oscillator. -/
def setStandby (crystal : Bool) : Action (Link σ) Unit :=
  device.command .setStandby [crystal.toUInt8]

/-- Supply the compensated oscillator and calibrate on it. The chip raises an error before it knows
about the oscillator, so errors are cleared before and after. -/
def setTcxo (voltage : TcxoVoltage) : Action (Link σ) Unit := do
  device.clearErrors
  device.command .setTcxoMode ((voltage.code &&& 7) :: BigEndian.bytes24 (tcxoStartup <<< 6))
  device.command .calibrate [0x7F]
  discard device.readErrors
  device.clearErrors

/-- Set the trim of the crystal, which is possible only while running on it. -/
def setTrim (trim : UInt16) : Action (Link σ) Unit := do
  device.setStandby true
  device.writeRegister .crystalTrim (BigEndian.bytes16 trim)
  device.setStandby false

/-- Reset the chip. -/
def reset : Action (Link σ) Unit := do
  device.board.reset device.bus
  Link.afterReset
  device.bus.ready

/-- Configure the chip once after a reset. -/
def setUp : Action (Link σ) Unit := do
  if device.config.variant.switchesAntenna then device.command .setDio2AsRfSwitch [1]
  if device.config.useDcdc then device.command .setRegulatorMode [1]
  device.command .setBufferBaseAddress [0, 0]
  device.writeRegister .rxGain [if device.config.rxBoost then 0x96 else 0x94]
  match device.config.tcxo with
  | some voltage => device.setTcxo voltage
  | none => device.setTrim device.config.trim
  device.updateRetention

/-- Put the chip to sleep. -/
def setSleep (warmStart : Bool) : Action (Link σ) Unit := do
  device.bus.writeSleep [Opcode.setSleep.byte, warmStart.toUInt8 <<< 2]
  device.bus.delayMillis 2

/-- Let these interrupts, and no others, raise the first of the chip's three lines. -/
def armInterrupts (mask : InterruptSet) : Action (Link σ) Unit :=
  let bytes := BigEndian.bytes16 ⟨interrupts.encode mask⟩
  device.command .setDioIrqParams (bytes ++ bytes ++ [0, 0, 0, 0])

/-- Read the interrupt status, and clear what was read. -/
def takeInterrupts : Action (Link σ) InterruptSet := do
  let status ← device.query .getIrqStatus 2
  let reg := status.word16
  if reg ≠ 0 then device.command .clearIrqStatus status.toList
  return interrupts.decode reg.toBitVec

/-- Clear the status of some interrupts. -/
def clearInterrupts (mask : InterruptSet) : Action (Link σ) Unit :=
  device.command .clearIrqStatus (BigEndian.bytes16 ⟨interrupts.encode mask⟩)

/-- Read the chip's errors and clear them. -/
def takeErrors : Action (Link σ) UInt16 := do
  let errors ← device.readErrors
  device.clearErrors
  return errors

/-- Highest frequency, in hertz, at which the amplifier needs the setting for the band edge. -/
def bandEdgeLimit : UInt32 := 903000000

/-- Set the amplifier for the edge of the 900 MHz band. -/
def compensateBandEdge (frequency : UInt32) : Action (Link σ) Unit := do
  if device.config.txPowerFix ∧ FrequencyBand.of? frequency = some .band900 then
    device.writeRegister .bandEdge [if frequency ≤ bandEdgeLimit then 0x1F else 0x18]

/-- Set the power amplifier and the limit of its current. -/
def setPa (pa : PaConfig) : Action (Link σ) Unit := do
  device.command .setPaConfig [pa.dutyCycle, pa.hpMax, pa.deviceSelect, pa.lut]
  device.writeRegister .overCurrent [device.config.variant.currentLimit]
  if device.config.txPowerFix then
    let clamp ← device.readByte .overVoltage
    device.writeRegister .overVoltage [clamp &&& 0xF9]

/-- A random number, from the noise of a receiver whose amplifier and mixer are detached. -/
def readRandom : Action (Link σ) UInt32 := do
  let lna ← device.readByte .analogLna
  device.writeRegister .analogLna [lna &&& 0xFE]
  let mixer ← device.readByte .analogMixer
  device.writeRegister .analogMixer [mixer &&& 0x7F]
  device.command .setRx (BigEndian.bytes24 Ticks.continuous)
  let number ← device.readRegister .randomNumber 4
  device.setStandby false
  device.writeRegister .analogLna [lna]
  device.writeRegister .analogMixer [mixer]
  return number.word32

/-- Set the LoRa modulation. Bit 2 of the modulation register is cleared at 500 kHz only. -/
def setLoraModulation (m : Lora.Modulation) : Action (Link σ) Unit := do
  device.command .setModulationParams (← Action.settle m.encode)
  let reg ← device.readByte .txModulation
  let fixed : UInt8 := if m.bandwidth = .khz500 then reg &&& 0xFB else reg ||| 0x04
  device.writeRegister .txModulation [fixed]

/-- Set the LoRa packet layout. Bit 2 of the polarity register is set for plain polarity only. -/
def setLoraPacket (p : Lora.Packet) : Action (Link σ) Unit := do
  device.command .setPacketParams p.encode
  let reg ← device.readByte .iqPolarity
  let fixed : UInt8 := if p.invertIq then reg &&& 0xFB else reg ||| 0x04
  device.writeRegister .iqPolarity [fixed]

/-- Set the LoRa sync word, one half of it in the upper half of each register. -/
def setLoraSyncWord (word : UInt8) : Action (Link σ) Unit := do
  let regs ← device.readRegister .loraSyncWord 2
  let halves := BigEndian.word16 (word &&& 0xF0) (word <<< 4)
  device.writeRegister .loraSyncWord (BigEndian.bytes16 (regs.word16 &&& 0x0F0F ||| halves))

/-- Set how many symbols a receiver waits for a preamble. -/
def setLoraSymbolTimeout (symbols : UInt8) : Action (Link σ) Unit := do
  device.command .setLoraSymbolTimeout [symbols]
  if symbols ≥ registerTimeoutFrom then
    device.writeRegister .syncTimeout [symbolTimeoutCode symbols]

/-- Set the FSK modulation: the bit rate as a divisor of 32 times the crystal's 32 MHz. -/
def setFskModulation (m : Fsk.Modulation) : Action (Link σ) Unit := do
  if m.bitRate = 0 then throw .invalidParams
  device.command .setModulationParams
    (BigEndian.bytes24 (1024000000 / m.bitRate) ++ [m.pulseShape.code, m.bandwidth.code]
      ++ BigEndian.bytes24 (pllSteps m.deviation))

/-- Carry out a command. -/
def perform : (c : Command) → Action (Link σ) c.Reply
  | .readInterruptLine => device.bus.readInterruptLine
  | .awaitInterrupt => device.bus.awaitInterrupt
  | .reset => device.reset
  | .setUp => device.setUp
  | .wake => device.bus.wake
  | .setAntenna path => device.board.select device.bus path
  | .abort => throw .notSupported
  | .setModem modem => device.command .setPacketType [modemCode modem]
  | .armInterrupts mask => device.armInterrupts mask
  | .takeInterrupts => device.takeInterrupts
  | .clearInterrupts mask => device.clearInterrupts mask
  | .takeErrors => device.takeErrors
  | .setStandby crystal => device.setStandby crystal
  | .setSleep warmStart => device.setSleep warmStart
  | .calibrateImage frequency => device.command .calibrateImage (imageCalibration frequency)
  | .setFrequency frequency =>
    device.command .setRfFrequency (BigEndian.bytes32 (pllSteps frequency))
  | .compensateBandEdge frequency => device.compensateBandEdge frequency
  | .setPa pa => device.setPa pa
  | .setTxParams power rampTime => device.command .setTxParams [power.toUInt8, rampTime]
  | .setTx ticks => device.command .setTx (BigEndian.bytes24 ticks)
  | .setTxCarrier => device.command .setTxContinuousWave []
  | .setRx ticks => device.command .setRx (BigEndian.bytes24 ticks)
  | .setRxDutyCycle rxTicks sleepTicks =>
    device.command .setRxDutyCycle (BigEndian.bytes24 rxTicks ++ BigEndian.bytes24 sleepTicks)
  | .setCad => device.command .setCad []
  | .setCadParams params => device.command .setCadParams params.encode
  | .stopTimerOnPreamble enable => device.command .stopTimerOnPreamble [enable.toUInt8]
  | .writeBuffer offset data => device.bus.send [Opcode.writeBuffer.byte, offset] data
  | .readBuffer offset length => device.bus.read [Opcode.readBuffer.byte, offset, 0] length
  | .readRxBufferStatus => return (← device.query .getRxBufferStatus 2).rxBufferStatus
  | .readLoraQuality => return (← device.query .getPacketStatus 3).loraQuality rssiOfRaw
  | .readFskQuality => return (← device.query .getPacketStatus 3).fskQuality rssiOfRaw
  | .readLoraCrcFlag => return (← device.readRegister .loraHeaderInfo 1).loraCrcFlag
  | .readFskFillLevel => device.readByte .rxPointer
  | .setFskPayloadLength length => device.writeRegister .payloadLength [length]
  | .readRssi => return rssiOfRaw (← device.query .getRssiInst 1).byte
  | .readRandom => device.readRandom
  | .setLoraModulation m => device.setLoraModulation m
  | .setLoraPacket p => device.setLoraPacket p
  | .setLoraSyncWord word => device.setLoraSyncWord word
  | .setLoraSymbolTimeout symbols => device.setLoraSymbolTimeout symbols
  | .setFskModulation m => device.setFskModulation m
  | .setFskPacket p => device.command .setPacketParams p.encode
  | .setFskSyncWord word => do
    device.writeRegister .syncWord (← Action.settle (Fsk.padSyncWord word))

/-- The chip, as the state machine sees it. -/
def chip : Chip (Link σ) where
  tickRate := 64000
  oscillatorStartup := tcxoStartupMicros device.config.tcxo
  supportsScan _ := false
  busStatus link := link.status
  pause us link := { link with world := device.wire.delayMicros us link.world }
  perform := device.perform

end Device

end Transceiver.Sx126x
