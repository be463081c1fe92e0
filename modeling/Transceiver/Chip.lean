import Transceiver.Fault
import Transceiver.Interrupt
import Transceiver.Power
import Transceiver.Lora.Modulation
import Transceiver.Fsk.Modulation

/-! What a transceiver chip can be told to do. The state machine of the radio is written once
against this interface; opcodes and registers belong to the chip families. -/

namespace Transceiver

/-- The last command seen on the bus and the status bytes that came with it. -/
structure BusStatus where
  lastCommand : UInt16 := 0
  lastStatus1 : UInt8 := 0
  lastStatus2 : UInt8 := 0
  /-- The latest command that the chip reported as failed, zero if none. -/
  failedCommand : UInt16 := 0
  deriving DecidableEq

/-- Where the chip keeps the last reception in its buffer. -/
structure RxBufferStatus where
  payloadLength : UInt8
  startOffset : UInt8
  deriving DecidableEq

/-- Quality of a LoRa packet as the chip measured it. -/
structure Lora.RawQuality where
  rssi : Int16
  snr : Int8
  signalRssi : Int16
  deriving DecidableEq

/-- Quality of an FSK packet as the chip measured it. -/
structure Fsk.RawQuality where
  rssiSync : Int16
  rssiAvg : Int16
  deriving DecidableEq

/-- The commands of a transceiver chip. -/
inductive Command where
  /-- Sample the interrupt line. -/
  | readInterruptLine
  /-- Wait for the interrupt line. -/
  | awaitInterrupt
  /-- Reset the chip through its reset line. -/
  | reset
  /-- Configure the chip once after a reset. -/
  | setUp
  /-- Wake the chip and wait until it is ready. -/
  | wake
  | setAntenna (path : AntennaPath)
  /-- Interrupt an operation that takes long. -/
  | abort
  | setModem (modem : Modem)
  /-- Let these interrupts raise the interrupt line. -/
  | armInterrupts (mask : InterruptSet)
  /-- Read the interrupt status and clear it. -/
  | takeInterrupts
  | clearInterrupts (mask : InterruptSet)
  /-- Read the error register and clear it. -/
  | takeErrors
  /-- Go to standby, on the crystal or on the internal oscillator. -/
  | setStandby (crystal : Bool)
  /-- Go to sleep, with the configuration retained by a warm start. -/
  | setSleep (warmStart : Bool)
  | calibrateImage (frequency : UInt32)
  | setFrequency (frequency : UInt32)
  /-- Make up for the amplifier's behaviour near the edge of a band. -/
  | compensateBandEdge (frequency : UInt32)
  | setPa (pa : PaConfig)
  | setTxParams (power : Int8) (rampTime : UInt8)
  /-- Transmit; no ticks means no timeout. -/
  | setTx (ticks : UInt32)
  /-- Transmit an unmodulated carrier. -/
  | setTxCarrier
  | setRx (ticks : UInt32)
  /-- Alternate between receiving and sleeping. -/
  | setRxDutyCycle (rxTicks sleepTicks : UInt32)
  /-- Detect LoRa activity on the channel. -/
  | setCad
  | setCadParams (params : Lora.CadParams)
  /-- Stop the receive timer at the preamble, not at the sync word or header. -/
  | stopTimerOnPreamble (enable : Bool)
  | writeBuffer (offset : UInt8) (data : List UInt8)
  | readBuffer (offset : UInt8) (length : Nat)
  | readRxBufferStatus
  | readLoraQuality
  | readFskQuality
  /-- Ask whether the last LoRa header declared a payload checksum. -/
  | readLoraCrcFlag
  /-- Ask for the number of FSK bytes received so far. -/
  | readFskFillLevel
  /-- Set the length of the FSK packet that is being received. -/
  | setFskPayloadLength (length : UInt8)
  /-- Read the RSSI of this moment. -/
  | readRssi
  | readRandom
  | setLoraModulation (m : Lora.Modulation)
  | setLoraPacket (p : Lora.Packet)
  | setLoraSyncWord (word : UInt8)
  | setLoraSymbolTimeout (symbols : UInt8)
  | setFskModulation (m : Fsk.Modulation)
  | setFskPacket (p : Fsk.Packet)
  | setFskSyncWord (word : List UInt8)
  deriving DecidableEq

/-- What a command that succeeds returns. -/
@[reducible] def Command.Reply : Command → Type
  | .readInterruptLine | .readLoraCrcFlag => Bool
  | .takeInterrupts => InterruptSet
  | .takeErrors => UInt16
  | .readBuffer _ length => Vector UInt8 length
  | .readRxBufferStatus => RxBufferStatus
  | .readLoraQuality => Lora.RawQuality
  | .readFskQuality => Fsk.RawQuality
  | .readFskFillLevel => UInt8
  | .readRssi => Int16
  | .readRandom => UInt32
  | _ => Unit

/-- A chip in surroundings `σ`. -/
structure Chip (σ : Type) where
  /-- Ticks of the chip timer in a second. -/
  tickRate : UInt32
  /-- Time that the oscillator adds to every wakeup, microseconds. -/
  oscillatorStartup : UInt32
  /-- A scan subsystem may take the chip over. -/
  supportsScan : σ → Bool
  busStatus : σ → BusStatus
  /-- Wait a number of microseconds. -/
  pause : UInt32 → σ → σ
  perform : (c : Command) → Action σ c.Reply

end Transceiver
