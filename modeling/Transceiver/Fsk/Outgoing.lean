import Transceiver.Fsk.Frame

/-! Framing in the sender's own buffer. The payload moves up to make room for the header, and what
belongs to the frame is written around it. Everything is checked before anything is written. -/

namespace Transceiver.Fsk

/-- A sender's buffer, and the packet parameters that go with it. -/
structure Outgoing where
  buffer : List UInt8
  packet : Packet
  deriving DecidableEq

/-- Some data with the bytes from `start` on replaced. -/
def overwritten (data : List UInt8) (start : Nat) (bytes : List UInt8) : List UInt8 :=
  data.take start ++ bytes ++ data.drop (start + bytes.length)

namespace Outgoing

/-- Look at `n` bytes of the buffer from `start` on. -/
def look (start n : Nat) : Action Outgoing (List UInt8) := do
  return ((← get).buffer.drop start).take n

/-- Overwrite the buffer from `start` on. -/
def write (start : Nat) (bytes : List UInt8) : Action Outgoing Unit :=
  modify fun out => { out with buffer := overwritten out.buffer start bytes }

/-- The packet parameters of a frame of `n` bytes, with nothing left for the chip to add. -/
def describe (n : Nat) : Action Outgoing Unit :=
  modify fun out => { out with
    packet := { out.packet with
      syncWordLength := 3
      addressFilter := false
      variableLength := false
      payloadLength := UInt8.ofNat n
      crcOn := false
      whitening := false } }

/-- Refuse packet parameters that describe no frame, and a buffer without room for the frame. -/
def ensureFits (o : FrameOptions) : Action Outgoing Unit := do
  let out ← get
  let n := out.packet.payloadLength.toNat
  if n = 0 ∨ out.packet.preambleLength = 0 then throw .invalidParams
  if n > o.fcs.maxPayload then throw .invalidParams
  let frameLength := headerLength + (n + o.fcs.length)
  if frameLength > maxFrameLength then throw .invalidParams
  if out.buffer.length < frameLength then throw .noMemory

/-- Move the payload up, and write its check behind it and the header before it. -/
def assemble (o : FrameOptions) (n : Nat) : Action Outgoing Unit := do
  let payload ← look 0 n
  write headerLength payload
  write (headerLength + n) (o.fcs.checkBytes payload)
  write 0 (o.header (n + o.fcs.length))

/-- Whiten `n` bytes of the buffer from `start` on. -/
def whitenAt (start n : Nat) : Action Outgoing Unit := do
  let plain ← look start n
  write start (whiten whiteningSeed plain)

/-- Frame the payload at the start of the buffer in place, and return the sync word. The packet
parameters give the length of the payload before, and the length of the frame after. -/
def prepare (o : FrameOptions) : Action Outgoing (Vector UInt8 3) := do
  ensureFits o
  let n := (← get).packet.payloadLength.toNat
  assemble o n
  if o.whitening then whitenAt headerLength (n + o.fcs.length)
  describe (headerLength + (n + o.fcs.length))
  return syncWord o.fec

end Outgoing

end Transceiver.Fsk
