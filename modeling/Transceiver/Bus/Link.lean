import Transceiver.Bus.Wire
import Transceiver.Bus.Answer
import Transceiver.Rig.Basic

/-! The exchange of commands with a chip that has a busy line. Every transfer waits until the
chip is ready, wakes it first if the last command put it to sleep, and keeps the status bytes that
the chip sends back. They tell about the command before, so a failed command is known one
transfer later. -/

namespace Transceiver.Bus

/-- How a chip returns the answer to a command. -/
inductive Protocol where
  /-- The answer follows the command in the same transfer. -/
  | singleShot
  /-- The answer takes a second transfer, which starts with a status byte. -/
  | twoPhase
  deriving DecidableEq

/-- How a chip family shakes hands. -/
structure Handshake where
  protocol : Protocol
  /-- Busy samples before giving up. -/
  busyBudget : Nat
  /-- How long selecting the chip takes to wake it, microseconds. -/
  wakeSettle : UInt32
  /-- Delay between two busy samples, microseconds. -/
  pollInterval : UInt32
  deriving DecidableEq

/-- The host's end of a bus: the wires and the handshake on them. -/
structure Endpoint (σ : Type) where
  wire : Wire σ
  handshake : Handshake

/-- What the host remembers of its exchanges, beside the outside world. -/
structure Link (σ : Type) where
  status : BusStatus := {}
  /-- The last command put the chip to sleep. -/
  sleeping : Bool := false
  /-- An abort was sent, and no command since. -/
  aborted : Bool := false
  world : σ

/-- The longest command with its data, and the longest answer with its status byte. -/
def maxTransfer : Nat := 264

/-- Busy samples after an abort. -/
def abortBudget : Nat := 1000000

/-- The command status in a status byte. -/
def commandStatus (status : UInt8) : UInt8 := (status &&& 0x0E) >>> 1

/-- The status byte reports a failed command: with single shots a timeout, a processing error or
an execution error, and with two phases anything but success. -/
def Protocol.isFailure (status : UInt8) : Protocol → Bool
  | .singleShot => 3 ≤ commandStatus status && commandStatus status ≤ 5
  | .twoPhase => status &&& 0x04 == 0

/-- The status byte acknowledges an abort. -/
def isAbortAck (status : UInt8) : Bool := commandStatus status = 4

/-- The opcode that starts a command: one byte with single shots, two with two phases. -/
def Protocol.opcode : Protocol → List UInt8 → UInt16
  | .singleShot, op :: _ => op.toUInt16
  | .twoPhase, hi :: lo :: _ => BigEndian.word16 hi lo
  | _, _ => 0

/-- The link after the command `cmd`, to which the chip sent back `received`. A failure is put down
to the command before, unless it acknowledges an abort. -/
def Protocol.record {σ : Type} (protocol : Protocol) (cmd received : List UInt8)
    (link : Link σ) : Link σ :=
  let status1 := received[0]?.getD 0
  let status2 := received[1]?.getD 0
  let before := link.status.lastCommand
  let failed := protocol.isFailure status1 && before != 0
    && !(link.aborted && isAbortAck status1)
  { link with
    aborted := false
    status := {
      lastCommand := protocol.opcode cmd
      lastStatus1 := status1
      lastStatus2 := status2
      failedCommand := if failed then before else link.status.failedCommand } }

namespace Link

variable {σ α : Type}

/-- Do something in the outside world that fails with `f`. -/
def outside (f : Fault) (x : StateM σ (Option α)) : Action (Link σ) α :=
  .onPart Link.world ({ · with world := · }) (.ofOption f x)

/-- Change the outside world. -/
def elsewhere (f : σ → σ) : Action (Link σ) Unit :=
  modify fun l => { l with world := f l.world }

/-- Note that the chip was reset: it is awake, with nothing pending. -/
def afterReset : Action (Link σ) Unit := modify fun l => { world := l.world }

/-- The host of the outside world, as the host beside a link. -/
def host (host : Host σ) : Host (Link σ) where
  now l := let (t, world) := host.now l.world; (t, { l with world })
  onEvent event l := { l with world := host.onEvent event l.world }
  onSleepStart wakeAt l := { l with world := host.onSleepStart wakeAt l.world }

end Link

namespace Endpoint

variable {σ : Type} (bus : Endpoint σ)

/-- Exchange bytes. -/
def exchange (sent : List UInt8) : Action (Link σ) (Vector UInt8 sent.length) :=
  Link.outside .io (bus.wire.transfer sent)

/-- Wait a number of microseconds. -/
def delayMicros (us : UInt32) : Action (Link σ) Unit := Link.elsewhere (bus.wire.delayMicros us)

/-- Wait a number of milliseconds. -/
def delayMillis (ms : UInt32) : Action (Link σ) Unit := Link.elsewhere (bus.wire.delayMillis ms)

/-- Sample the busy line until it is low, at most `budget` times. -/
def awaitReady : (budget : Nat) → Action (Link σ) Unit
  | 0 => throw .busy
  | budget + 1 => do
    if ← Link.outside .busy bus.wire.busy then
      bus.delayMicros bus.handshake.pollInterval
      awaitReady budget

/-- Wait until the chip is ready. -/
def ready : Action (Link σ) Unit := bus.awaitReady bus.handshake.busyBudget

/-- A number of microseconds in nanoseconds, cut off at the largest. -/
def nanos (us : UInt32) : UInt32 :=
  if us.toNat * 1000 < UInt32.size then us * 1000 else 0xFFFFFFFF

/-- Select the chip for long enough to wake it, and wait until it is ready. -/
def wake : Action (Link σ) Unit := do
  Link.outside .io (bus.wire.hold (nanos bus.handshake.wakeSettle))
  modify ({ · with sleeping := false })
  bus.ready

/-- Wait until the chip is ready, waking it if it sleeps. -/
def prepare : Action (Link σ) Unit := do
  if (← get).sleeping then bus.wake else bus.ready

/-- Record the status bytes that came with a command. -/
def record (cmd received : List UInt8) : Action (Link σ) Unit :=
  modify (bus.handshake.protocol.record cmd received)

/-- Send a command with its data. -/
def send (cmd data : List UInt8) : Action (Link σ) Unit := do
  if cmd.length + data.length > maxTransfer then throw .noMemory
  bus.prepare
  let received ← bus.exchange (cmd ++ data)
  bus.record cmd received.toList

/-- Send a command. -/
def write (cmd : List UInt8) : Action (Link σ) Unit := bus.send cmd []

/-- Send the command that puts the chip to sleep. -/
def writeSleep (cmd : List UInt8) : Action (Link σ) Unit := do
  bus.write cmd
  modify ({ · with sleeping := true })

/-- Send a command and read its answer of `n` bytes from the same transfer. -/
def readSingleShot (cmd : List UInt8) (n : Nat) : Action (Link σ) (Answer n) := do
  if cmd.length + n > maxTransfer then throw .noMemory
  bus.prepare
  let received ← bus.exchange (cmd ++ .replicate n 0)
  bus.record cmd received.toList
  return (received.drop cmd.length).cast (by simp)

/-- Send a command, wait, and read its answer of `n` bytes after a status byte. -/
def readTwoPhase (cmd : List UInt8) (n : Nat) : Action (Link σ) (Answer n) := do
  if cmd.length > maxTransfer ∨ n + 1 > maxTransfer then throw .noMemory
  bus.prepare
  let received ← bus.exchange cmd
  bus.record cmd received.toList
  bus.ready
  let answer ← bus.exchange (.replicate (n + 1) 0)
  return (answer.drop 1).cast (by simp)

/-- Send a command and read its answer of `n` bytes. -/
def read (cmd : List UInt8) (n : Nat) : Action (Link σ) (Answer n) :=
  match bus.handshake.protocol with
  | .singleShot => bus.readSingleShot cmd n
  | .twoPhase => bus.readTwoPhase cmd n

/-- Read `n` bytes without a command. The status on record stays as it is. -/
def readDirect (n : Nat) : Action (Link σ) (Answer n) := do
  bus.prepare
  let received ← bus.exchange (.replicate n 0)
  return received.cast (by simp)

/-- Interrupt an operation that takes long. The chip is expected to be busy, so the transfer does
not wait for it. -/
def abort : Action (Link σ) Unit := do
  discard <| bus.exchange [0, 0, 0, 0]
  bus.awaitReady abortBudget
  modify ({ · with aborted := true })

end Endpoint

end Transceiver.Bus
