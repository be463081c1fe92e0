import Transceiver.Fault
import Transceiver.DataRate
import Transceiver.Time

/-! FSK parameters, the codes that both chip families use for them, and durations. -/

namespace Transceiver.Fsk

/-- Receiver bandwidths, named by their hertz. -/
inductive Bandwidth where
  | bw117300
  | bw156200
  | bw234300
  | bw312000
  | bw373600
  | bw467000
  deriving DecidableEq

/-- The code of a bandwidth. -/
def Bandwidth.code : Bandwidth → UInt8
  | .bw117300 => 0x0B
  | .bw156200 => 0x1A
  | .bw234300 => 0x0A
  | .bw312000 => 0x19
  | .bw373600 => 0x11
  | .bw467000 => 0x09

/-- Pulse shaping: none, or a Gaussian filter of the named bandwidth-time product. -/
inductive PulseShape where
  | off
  | bt03
  | bt05
  | bt07
  | bt1
  deriving DecidableEq

/-- The code of a pulse shape. -/
def PulseShape.code : PulseShape → UInt8
  | .off => 0x00
  | .bt03 => 0x08
  | .bt05 => 0x09
  | .bt07 => 0x0A
  | .bt1 => 0x0B

/-- How an FSK signal is modulated. -/
structure Modulation where
  /-- Bits per second. -/
  bitRate : UInt32
  /-- Frequency deviation, hertz. -/
  deviation : UInt32
  bandwidth : Bandwidth
  pulseShape : PulseShape
  deriving DecidableEq

/-- The least preamble that the detector accepts. -/
inductive PreambleDetect where
  | off
  | bits8
  | bits16
  | bits24
  | bits32
  deriving DecidableEq

/-- The code of a detector length. -/
def PreambleDetect.code : PreambleDetect → UInt8
  | .off => 0x00
  | .bits8 => 0x04
  | .bits16 => 0x05
  | .bits24 => 0x06
  | .bits32 => 0x07

/-- How an FSK packet is laid out. -/
structure Packet where
  /-- Preamble length in bytes. -/
  preambleLength : UInt16 := 0
  preambleDetect : PreambleDetect := .bits16
  /-- Sync word length in bytes. -/
  syncWordLength : UInt8 := 0
  /-- Address filtering by the chip. -/
  addressFilter : Bool := false
  /-- A length header handled by the chip. -/
  variableLength : Bool := false
  payloadLength : UInt8 := 0
  /-- Checksum by the chip. -/
  crcOn : Bool := false
  /-- Whitening by the chip. -/
  whitening : Bool := false
  deriving DecidableEq

/-- Parameters of a carrier sense window. -/
structure CarrierSense where
  /-- Length of the window, microseconds. -/
  duration : UInt32
  /-- Energy threshold of the energy detection policies, dBm. -/
  threshold : Int16
  deriving DecidableEq

/-- The modulation of an FSK data rate. -/
def Modulation.ofDataRate : DataRate → Except Fault Modulation
  | .kbps50 => .ok ⟨50000, 25000, .bw156200, .bt1⟩
  | .kbps150 => .ok ⟨150000, 37500, .bw312000, .bt05⟩
  | .kbps250 => .ok ⟨250000, 62500, .bw467000, .bt05⟩
  | .kbps2 | .kbps22 | .kbps12_5 => .error .invalidParams

/-- The data rate that a modulation belongs to, whatever its pulse shape. -/
def Modulation.dataRate? (m : Modulation) : Option DataRate :=
  [DataRate.kbps50, .kbps150, .kbps250].find? fun rate =>
    match ofDataRate rate with
    | .ok r => r.bitRate == m.bitRate && r.deviation == m.deviation && r.bandwidth == m.bandwidth
    | .error _ => false

/-- Bits of a preamble as the time on air counts them, kept in 16 bits. -/
def preambleBits (length : UInt16) : UInt16 := if length > 1 then (length - 1) <<< 3 else 0

/-- Time on air of a packet, milliseconds rounded up. -/
def timeOnAir (m : Modulation) (p : Packet) : Except Fault UInt32 :=
  if m.bitRate = 0 then .error .invalidParams
  else
    let bytes : UInt32 :=
      p.payloadLength.toUInt32 + p.addressFilter.toUInt32 + if p.crcOn then 2 else 0
    let bits : UInt32 := (preambleBits p.preambleLength).toUInt32
      + (if p.variableLength then 8 else 0) + p.syncWordLength.toUInt32 * 8 + bytes * 8
    .ok (ceilDiv64 (1000 * bits.toUInt64) m.bitRate.toUInt64).toUInt32

/-- Symbols sent during `delay` microseconds, kept in 32 bits. -/
def Modulation.symbolsForDelay (m : Modulation) (delay : UInt32) : UInt32 :=
  (delay.toUInt64 * m.bitRate.toUInt64 / 1000000).toUInt32

/-- The processing delay that a board configures, or 1000 microseconds if it lies outside
1000 to 5000. -/
def processDelay (configured : UInt32) : UInt32 :=
  if 1000 ≤ configured ∧ configured ≤ 5000 then configured else 1000

end Transceiver.Fsk
