import Transceiver.BigEndian
import Transceiver.Lora.Modulation

/-! LoRa parameters as the bytes that both chip families take. -/

namespace Transceiver.Lora

/-- Spreading factor, bandwidth, coding rate and low data rate optimisation. -/
def Modulation.encode (m : Modulation) : Except Fault (List UInt8) := do
  let bandwidth ← m.bandwidth.code
  let codingRate ← m.codingRate.code m.longInterleaver
  let optimize := lowDataRateOptimize m.spreadingFactor m.bandwidth
  return [m.spreadingFactor.value, bandwidth, codingRate, optimize.toUInt8]

/-- Preamble, header, length, checksum and polarity. -/
def Packet.encode (p : Packet) : List UInt8 :=
  BigEndian.bytes16 p.preambleLength ++
    [p.implicitHeader.toUInt8, p.payloadLength, p.crcOn.toUInt8, p.invertIq.toUInt8]

/-- Symbols, thresholds, exit policy and timeout. -/
def CadParams.encode (c : CadParams) : List UInt8 :=
  [c.symbols, c.detectPeak, c.detectMin, cadExitCode c.exit] ++ BigEndian.bytes24 c.timeout

/-- A signal-to-noise ratio read in quarter decibels, rounded to decibels. -/
def snrOfQuarters (raw : UInt8) : Int8 := ((raw.toInt8.toInt16 + 2) >>> 2).toInt8
end Transceiver.Lora
