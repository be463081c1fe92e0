import Transceiver.BigEndian
import Transceiver.Fsk.Modulation

/-! FSK parameters as the bytes that both chip families take. -/

namespace Transceiver.Fsk

/-- Eight times a word, cut off at the largest. -/
def octuple16 (n : UInt16) : UInt16 := if n.toNat * 8 < UInt16.size then n * 8 else 0xFFFF

/-- Eight times a byte, cut off at the largest. -/
def octuple8 (n : UInt8) : UInt8 := if n.toNat * 8 < UInt8.size then n * 8 else 0xFF

/-- Preamble and sync word in bits, address filter, header, length, checksum and whitening. A
checksum of two bytes is sent inverted. -/
def Packet.encode (p : Packet) : List UInt8 :=
  BigEndian.bytes16 (octuple16 p.preambleLength) ++
    [p.preambleDetect.code, octuple8 p.syncWordLength, p.addressFilter.toUInt8,
      p.variableLength.toUInt8, p.payloadLength, if p.crcOn then 0x06 else 0x01,
      p.whitening.toUInt8]

/-- The longest sync word, bytes. -/
def maxSyncWordLength : Nat := 8

/-- A sync word followed by zeros up to the longest. -/
def padSyncWord (word : List UInt8) : Except Fault (List UInt8) :=
  if word.length > maxSyncWordLength then .error .invalidParams
  else .ok (word ++ .replicate (maxSyncWordLength - word.length) 0)

end Transceiver.Fsk
