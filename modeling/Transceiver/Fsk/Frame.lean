import Transceiver.Fsk.Checksum
import Transceiver.Fsk.Whitening
import Transceiver.Fsk.Modulation

/-! FSK frames. The chip sends frames of fixed length with its own checksum and whitening off.
A frame is a header of two bytes, which tells the kind of check and whether the rest is whitened,
and how long the rest is; then the payload and its check, most significant byte first. -/

namespace Transceiver.Fsk

/-- The check that ends a frame. -/
inductive Fcs where
  | crc32
  | crc16
  deriving DecidableEq

/-- Bytes of the header. -/
def headerLength : Nat := 2

/-- The longest frame that the chip's buffer holds. -/
def maxFrameLength : Nat := 255

namespace Fcs

/-- The number that stands for the check in a header. -/
def code : Fcs → UInt8
  | .crc32 => 0
  | .crc16 => 1

/-- The check that a number stands for. -/
def ofCode? : UInt8 → Option Fcs
  | 0 => some .crc32
  | 1 => some .crc16
  | _ => none

/-- Bytes of the check. -/
def length : Fcs → Nat
  | .crc32 => 4
  | .crc16 => 2

/-- The longest payload whose frame fits the chip's buffer. -/
def maxPayload (fcs : Fcs) : Nat := maxFrameLength - headerLength - fcs.length

/-- The check of a payload, as it is sent. -/
def checkBytes : Fcs → List UInt8 → List UInt8
  | .crc32, data => BigEndian.bytes32 (Fsk.crc32 data)
  | .crc16, data => BigEndian.bytes16 (Fsk.crc16 data)

@[simp] theorem length_checkBytes (fcs : Fcs) (data : List UInt8) :
    (fcs.checkBytes data).length = fcs.length := by
  cases fcs <;> rfl

@[simp] theorem ofCode?_code (fcs : Fcs) : ofCode? fcs.code = some fcs := by
  cases fcs <;> rfl

end Fcs

/-- What a sender chooses for a frame. -/
structure FrameOptions where
  fcs : Fcs
  whitening : Bool
  /-- Forward error correction, which only the sync word tells. -/
  fec : Bool
  deriving DecidableEq

/-- The sync word; its middle byte tells forward error correction. -/
def syncWord (fec : Bool) : Vector UInt8 3 := #v[0x55, if fec then 0x6F else 0x90, 0x4E]

/-- A frame ready to be sent. -/
structure Prepared where
  syncWord : Vector UInt8 3
  /-- The sender's buffer, with the frame at its start. -/
  buffer : List UInt8
  /-- The packet parameters that describe the frame. -/
  packet : Packet
  deriving DecidableEq

/-- The payload with its check, whitened if the options say so. -/
def FrameOptions.encode (o : FrameOptions) (payload : List UInt8) : List UInt8 :=
  let psdu := payload ++ o.fcs.checkBytes payload
  if o.whitening then whiten whiteningSeed psdu else psdu

/-- The header of a frame whose payload and check take `n` bytes. -/
def FrameOptions.header (o : FrameOptions) (n : Nat) : List UInt8 :=
  [o.fcs.code <<< 4 ||| o.whitening.toUInt8 <<< 3, UInt8.ofNat n]

/-- Frame the payload at the start of a buffer. The packet parameters give the length of the
payload before, and the length of the frame after. -/
def prepareTx (buffer : List UInt8) (o : FrameOptions) (p : Packet) : Except Fault Prepared :=
  let n := p.payloadLength.toNat
  let psduLength := n + o.fcs.length
  let frameLength := headerLength + psduLength
  if n = 0 ∨ p.preambleLength = 0 then .error .invalidParams
  else if n > o.fcs.maxPayload then .error .invalidParams
  else if buffer.length < frameLength then .error .noMemory
  else .ok {
    syncWord := syncWord o.fec
    buffer := o.header psduLength ++ o.encode (buffer.take n) ++ buffer.drop frameLength
    packet := { p with
      syncWordLength := 3
      addressFilter := false
      variableLength := false
      payloadLength := UInt8.ofNat frameLength
      crcOn := false
      whitening := false } }

/-- The packet parameters of a receiver; every reception asks for the longest frame. -/
def prepareRx (p : Packet) : Packet :=
  { p with
    preambleDetect := .bits16
    syncWordLength := 3
    addressFilter := false
    variableLength := false
    payloadLength := UInt8.ofNat maxFrameLength
    crcOn := false
    whitening := false }

/-- The header of a received frame. -/
structure Header where
  /-- Kind of check in the upper half, whitening in bit 3. -/
  kind : UInt8
  /-- Bytes that follow the header. -/
  length : UInt8
  deriving DecidableEq

namespace Header

/-- The check that the header announces. -/
def fcs? (h : Header) : Option Fcs := Fcs.ofCode? (h.kind >>> 4)

/-- The header announces whitening. -/
def whitened (h : Header) : Bool := h.kind &&& 0x08 != 0

end Header

/-- Why a received frame is not taken. -/
inductive Rejection where
  /-- No sync word was seen before the end of the packet. -/
  | unmarked
  | unknownFcs
  /-- The frame has no room for a payload. -/
  | badLength
  | badCrc
  deriving DecidableEq

/-- A received frame after its check. -/
structure Checked where
  /-- The bytes after the header, with the whitening taken off as far as it got. -/
  psdu : List UInt8
  /-- The length of the payload at the start of these bytes. -/
  outcome : Except Rejection Nat

/-- Take the whitening off the bytes that followed a header, and verify their check. -/
def Header.check (h : Header) (psdu : List UInt8) : Checked :=
  match h.fcs? with
  | none => ⟨psdu, .error .unknownFcs⟩
  | some fcs =>
    if psdu.length ≤ fcs.length then ⟨psdu, .error .badLength⟩
    else
      let plain := if h.whitened then whiten whiteningSeed psdu else psdu
      let n := plain.length - fcs.length
      if plain.drop n = fcs.checkBytes (plain.take n) then ⟨plain, .ok n⟩
      else ⟨plain, .error .badCrc⟩

end Transceiver.Fsk
