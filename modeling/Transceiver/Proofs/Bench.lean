import Transceiver.Bus.Link
import Transceiver.Rig.Operation

/-! A radio on a bench. Its chip accepts every command, reads its buffer as a ring of 256 bytes, and
serves the interrupts that were scripted for it: what is left of the script is the world of the
bench. -/

namespace Transceiver

/-- What the chip on the bench has received. -/
structure Bench where
  /-- The bytes from the start of the last reception on; the rest of the ring holds zeros. -/
  bytes : List UInt8 := []
  /-- Where the buffer holds the last reception. -/
  received : RxBufferStatus := ⟨0, 0⟩

namespace Bench

/-- Byte `i` of the ring. -/
def byte (b : Bench) (i : Nat) : UInt8 :=
  b.bytes[(i % 256 + (256 - b.received.startOffset.toNat)) % 256]?.getD 0

/-- What the chip answers to a command, with these statuses still to report. -/
def reply (b : Bench) (statuses : List InterruptSet) : (c : Command) → c.Reply
  | .readInterruptLine | .readLoraCrcFlag => false
  | .takeInterrupts => statuses.headD ∅
  | .takeErrors => (0 : UInt16)
  | .readBuffer offset length => Vector.ofFn fun i : Fin length => b.byte (offset.toNat + i)
  | .readRxBufferStatus => b.received
  | .readLoraQuality => ⟨-40, 5, -42⟩
  | .readFskQuality => ⟨-60, -58⟩
  | .readFskFillLevel => (2 : UInt8)
  | .readRssi => (-70 : Int16)
  | .readRandom => (4 : UInt32)
  | .awaitInterrupt | .reset | .setUp | .wake | .setAntenna _ | .abort | .setModem _
  | .armInterrupts _ | .clearInterrupts _ | .setStandby _ | .setSleep _ | .calibrateImage _
  | .setFrequency _ | .compensateBandEdge _ | .setPa _ | .setTxParams .. | .setTx _
  | .setTxCarrier | .setRx _ | .setRxDutyCycle .. | .setCad | .setCadParams _
  | .stopTimerOnPreamble _ | .writeBuffer .. | .setFskPayloadLength _ | .setLoraModulation _
  | .setLoraPacket _ | .setLoraSyncWord _ | .setLoraSymbolTimeout _ | .setFskModulation _
  | .setFskPacket _ | .setFskSyncWord _ => ()

/-- The statuses still to report after a command. -/
def after (statuses : List InterruptSet) : Command → List InterruptSet
  | .takeInterrupts => statuses.tail
  | _ => statuses

/-- A rig on the bench. -/
def rig (b : Bench) : Rig (List InterruptSet) where
  chip := {
    tickRate := 32768
    oscillatorStartup := 0
    supportsScan := fun _ => true
    busStatus := fun _ => {}
    pause := fun _ statuses => statuses
    perform := fun c statuses => .ok (b.reply statuses c) (after statuses c) }
  host := { now := fun w => (0, w), onEvent := fun _ w => w, onSleepStart := fun _ w => w }
  config := {
    lnaGain := 3
    regions := []
    defaultRegion := .eu
    paFor := fun _ => none
    externalPa := false
    standbyOnCrystal := false
    disarmInSleep := false
    timings := {}
    fskTxTimeout := 1000000
    loraTxTimeout := 1000000 }

/-- Wires over which everything gets through, and on which nothing but zeros is read. -/
def wire : Bus.Wire Unit where
  transfer sent w := (some (.replicate sent.length 0), w)
  hold _ w := (some (), w)
  busy w := (some false, w)
  interrupt w := (some false, w)
  awaitInterrupt w := (some (), w)
  drive _ _ w := (some (), w)
  delayMicros _ w := w
  delayMillis _ w := w

/-- A bus on the bench. -/
def bus (protocol : Bus.Protocol) : Bus.Endpoint Unit where
  wire := wire
  handshake := { protocol := protocol, busyBudget := 10, wakeSettle := 50, pollInterval := 10 }

/-- Activity detection over two symbols. -/
def cadParams (exit : CadExit) : Lora.CadParams where
  symbols := 2
  detectPeak := 22
  detectMin := 10
  exit := exit
  timeout := 0

end Bench

end Transceiver
