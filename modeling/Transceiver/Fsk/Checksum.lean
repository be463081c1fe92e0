import Transceiver.BigEndian

/-! Frame check sequences: cyclic codes that shift data through a register bit by bit, most
significant bit first. -/

namespace Transceiver.Fsk

/-- A cyclic code with `w` check bits. -/
structure CyclicCode (w : Nat) where
  /-- The generator polynomial without its leading term. -/
  generator : BitVec w
  /-- The register before the first bit. -/
  start : BitVec w
  /-- What the register is combined with after the last bit. -/
  final : BitVec w

namespace CyclicCode

variable {w : Nat}

/-- The register after one more bit. -/
def shiftIn (code : CyclicCode w) (reg : BitVec w) (bit : Bool) : BitVec w :=
  if reg.msb ^^ bit then (reg <<< 1) ^^^ code.generator else reg <<< 1

/-- The check bits of some data. -/
def checksum (code : CyclicCode w) (data : List UInt8) : BitVec w :=
  (data.flatMap BigEndian.bits).foldl code.shiftIn code.start ^^^ code.final

/-- The 16-bit code known as XMODEM. -/
def xmodem : CyclicCode 16 := ⟨0x1021, 0, 0⟩

/-- The 32-bit code known as BZIP2. -/
def bzip2 : CyclicCode 32 := ⟨0x04C11DB7, 0xFFFFFFFF, 0xFFFFFFFF⟩

end CyclicCode

/-- The 16-bit frame check. -/
def crc16 (data : List UInt8) : UInt16 := ⟨CyclicCode.xmodem.checksum data⟩

/-- The 32-bit frame check. Fewer than four bytes are padded with zeros, and no data at all has
the check zero. -/
def crc32 (data : List UInt8) : UInt32 :=
  if data.isEmpty then 0
  else ⟨CyclicCode.bzip2.checksum (data ++ List.replicate (4 - data.length) 0)⟩

end Transceiver.Fsk
