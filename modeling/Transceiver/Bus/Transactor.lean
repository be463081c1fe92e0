import Transceiver.Bus.Link

/-! A bus with the memory that its transfers use. One buffer takes every command with its data on
the way out, and what the chip sends back on the way in, and stays as the last transfer leaves it.
From there an answer is copied to the caller's memory. What is read without a command is exchanged
right in the caller's memory. -/

namespace Transceiver.Bus

/-- A buffer of limited size. -/
structure Buffer where
  bytes : List UInt8 := []
  fits : bytes.length ≤ maxTransfer := by decide

namespace Buffer

/-- A buffer with these bytes, if they fit. -/
def ofList? (bytes : List UInt8) : Option Buffer :=
  if fits : bytes.length ≤ maxTransfer then some { bytes, fits } else none

/-- The buffer with more bytes at the end. -/
def extend? (buffer : Buffer) (more : List UInt8) : Option Buffer :=
  ofList? (buffer.bytes ++ more)

/-- The buffer cut to `n` bytes, or filled up to `n` with zeros. -/
def resize? (buffer : Buffer) (n : Nat) : Option Buffer :=
  ofList? (buffer.bytes.take n ++ .replicate (n - buffer.bytes.length) 0)

/-- The buffer with as many other bytes. -/
def overwrite (buffer : Buffer) (bytes : Vector UInt8 buffer.bytes.length) : Buffer where
  bytes := bytes.toList
  fits := by rw [Vector.length_toList]; exact buffer.fits

end Buffer

/-- What the host remembers of its exchanges, with the memory that they use. -/
structure Transactor (σ : Type) where
  link : Link σ
  scratch : Buffer := {}
  /-- The caller's memory, which an answer is to fill. -/
  out : List UInt8 := []

namespace Transactor

variable {σ α : Type}

/-- A step that leaves the memory alone. -/
def onLink (x : Action (Link σ) α) : Action (Transactor σ) α :=
  .onPart Transactor.link ({ · with link := · }) x

/-- Change the buffer, if there is room. -/
def edit (change : Buffer → Option Buffer) : Action (Transactor σ) Unit := fun t =>
  match change t.scratch with
  | some scratch => .ok () { t with scratch }
  | none => .error .noMemory t

/-- Empty the buffer. -/
def clear : Action (Transactor σ) Unit := modify ({ · with scratch := {} })

/-- Add bytes at the end of the buffer. -/
def extend (more : List UInt8) : Action (Transactor σ) Unit := edit (·.extend? more)

/-- Cut the buffer to `n` bytes, or fill it up with zeros. -/
def resize (n : Nat) : Action (Transactor σ) Unit := edit (·.resize? n)

/-- Copy what the buffer holds from `start` on to the caller's memory, which has that length. -/
def handOver (start : Nat) : Action (Transactor σ) Unit :=
  modify fun t => { t with out := t.scratch.bytes.drop start }

end Transactor

/-- A bus whose transfers put what they receive in place of what they send. A transfer that fails
leaves there what `residue` says. -/
structure InPlace (σ : Type) extends Endpoint σ where
  residue : (sent : List UInt8) → σ → Vector UInt8 sent.length

namespace InPlace

open Transceiver.Action Transactor

variable {σ : Type} (bus : InPlace σ)

/-- Exchange bytes, and return with the outcome what is left in their place. -/
def replace (sent : List UInt8) :
    Action (Link σ) (Except Fault Unit × Vector UInt8 sent.length) := do
  match ← attempt (bus.exchange sent) with
  | .ok received => return (.ok (), received)
  | .error f => return (.error f, bus.residue sent (← get).world)

/-- Exchange the bytes in the buffer. -/
def transferScratch : Action (Transactor σ) Unit := do
  let scratch := (← get).scratch
  let (outcome, left) ← onLink (bus.replace scratch.bytes)
  modify ({ · with scratch := scratch.overwrite left })
  settle outcome

/-- Exchange the bytes in the caller's memory. -/
def transferOut : Action (Transactor σ) Unit := do
  let (outcome, left) ← onLink (bus.replace (← get).out)
  modify ({ · with out := left.toList })
  settle outcome

/-- Record the status bytes in the buffer, which came with a command. -/
def record (cmd : List UInt8) : Action (Transactor σ) Unit := do
  let received := (← get).scratch.bytes
  onLink (bus.toEndpoint.record cmd received)

/-- Send a command with its data. -/
def send (cmd data : List UInt8) : Action (Transactor σ) Unit := do
  if cmd.length + data.length > maxTransfer then throw .noMemory
  onLink bus.prepare
  clear
  extend cmd
  extend data
  bus.transferScratch
  bus.record cmd

/-- Send a command with its data, and note whether it puts the chip to sleep. -/
def write (cmd data : List UInt8) (sleeps : Bool) : Action (Transactor σ) Unit := do
  bus.send cmd data
  if sleeps then onLink (modify ({ · with sleeping := true }))

/-- Send a command, and fill the caller's memory from the same transfer. -/
def readSingleShot (cmd : List UInt8) : Action (Transactor σ) Unit := do
  let n := (← get).out.length
  if cmd.length + n > maxTransfer then throw .noMemory
  onLink bus.prepare
  clear
  extend cmd
  resize (cmd.length + n)
  bus.transferScratch
  bus.record cmd
  handOver cmd.length

/-- Send a command, wait, and fill the caller's memory with what follows a status byte. -/
def readTwoPhase (cmd : List UInt8) : Action (Transactor σ) Unit := do
  let n := (← get).out.length
  if cmd.length > maxTransfer ∨ n + 1 > maxTransfer then throw .noMemory
  onLink bus.prepare
  clear
  extend cmd
  bus.transferScratch
  bus.record cmd
  onLink bus.ready
  clear
  resize (n + 1)
  bus.transferScratch
  handOver 1

/-- Send a command, and fill the caller's memory with the answer. -/
def read (cmd : List UInt8) : Action (Transactor σ) Unit :=
  match bus.handshake.protocol with
  | .singleShot => bus.readSingleShot cmd
  | .twoPhase => bus.readTwoPhase cmd

/-- Fill the caller's memory without a command. -/
def readDirect : Action (Transactor σ) Unit := do
  onLink bus.prepare
  modify fun t => { t with out := .replicate t.out.length 0 }
  bus.transferOut

end InPlace

end Transceiver.Bus
