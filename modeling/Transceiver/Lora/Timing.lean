import Transceiver.Lora.Modulation
import Transceiver.Time
import Transceiver.Power

/-! Durations of LoRa symbols and packets, in the chip's 32-bit arithmetic. -/

namespace Transceiver.Lora

/-- Transmit processing delay, microseconds. -/
def txProcessDelay : UInt32 := 336

/-- Receive processing delay, microseconds. -/
def rxProcessDelay : UInt32 := 286

/-- Duration of one activity detection, microseconds. -/
def cadDuration : UInt32 := 2000

/-- Time the host spends on a receive-done interrupt, microseconds. -/
def rxInterruptTime : UInt32 := 54

/-- Time the host spends on a transmit-done interrupt, microseconds. -/
def txInterruptTime : UInt32 := 53

/-- Duration of a symbol, microseconds. -/
def symbolTime (sf : SpreadingFactor) (bw : Bandwidth) : Except Fault UInt32 := do
  let chips : UInt32 := 1 <<< sf.value.toUInt32
  return chips * 1000000 / (← bw.hertz)

namespace Modulation

/-- The least number of symbols that last at least `delay` microseconds. -/
def symbolsForDelay (m : Modulation) (delay : UInt32) : Except Fault UInt32 := do
  return ceilDiv32 delay (← symbolTime m.spreadingFactor m.bandwidth)

/-- Duration of a number of symbols, microseconds. -/
def symbolTimeout (m : Modulation) (symbols : UInt8) : Except Fault UInt32 := do
  return (← symbolTime m.spreadingFactor m.bandwidth) * symbols.toUInt32

/-- The spreading factor, for signed sums. -/
def sf (m : Modulation) : Int32 := m.spreadingFactor.value.toUInt32.toInt32

/-- One for the two smallest spreading factors, which send two more sync symbols. -/
def fineSync (m : Modulation) : Int32 := if m.sf ≤ 6 then 1 else 0

/-- Payload bits in a symbol. -/
def bitsPerSymbol (m : Modulation) : Int32 :=
  m.sf - 2 * (if lowDataRateOptimize m.spreadingFactor m.bandwidth then 1 else 0)

end Modulation

/-- Payload bytes with the checksum. -/
def Packet.totalBytes (p : Packet) : Int32 :=
  p.payloadLength.toUInt32.toInt32 + if p.crcOn then 2 else 0

/-- Coded bits of a packet, over the coded bits of a symbol, with the plain interleaver. -/
def plainBits (m : Modulation) (p : Packet) : Int32 × Int32 :=
  let header := m.sf * 4 + m.fineSync * 8 - 8 - if p.implicitHeader then 0 else 20
  (max (8 * p.totalBytes - header) 0, 4 * m.bitsPerSymbol)

/-- Coded bits of a packet, over the coded bits of a symbol, with the long interleaver and the
coding rate coded as `cr`. -/
def interleavedBits (m : Modulation) (p : Packet) (cr : Int32) : Int32 × Int32 :=
  let rate := cr + if cr = 7 then 1 else 0
  let coded := 8 * p.totalBytes * rate
  if p.implicitHeader then
    let first := m.sf - 2 + 2 * m.fineSync
    if coded ≤ 7 * 4 * first then (coded, 4 * first)
    else (8 * 4 * m.bitsPerSymbol + coded - 4 * (first * 8), 4 * m.bitsPerSymbol)
  else
    let room := (m.sf * 4 + m.fineSync * 8 - 28) &&& ~~~7
    let payload := 8 * p.payloadLength.toUInt32.toInt32
    let header := if room < 8 * p.totalBytes ∧ room > payload then payload else room
    (max (8 * p.totalBytes - header) 0 * rate + 8 * 4 * m.bitsPerSymbol, 4 * m.bitsPerSymbol)

/-- Symbols that carry data, for the coding rate coded as `cr`. The plain interleaver sends
eight symbols ahead of them. -/
def dataSymbols (m : Modulation) (p : Packet) (cr : Int32) : Int32 :=
  if m.longInterleaver then
    let (bits, size) := interleavedBits m p cr
    (bits + size - 1) / size
  else
    let (bits, size) := plainBits m p
    (bits + size - 1) / size * (cr + 4) + 8

/-- Time on air in units of one over the bandwidth. -/
def timeOnAirUnits (m : Modulation) (p : Packet) : Except Fault UInt32 := do
  let cr := (← m.codingRate.code m.longInterleaver).toUInt32.toInt32
  let symbols : Int32 := p.preambleLength.toUInt32.toInt32 + 4 + 2 * m.fineSync + dataSymbols m p cr
  return ((4 * symbols + 1) * ((1 : Int32) <<< (m.sf - 2)) - 1).toUInt32

/-- Time on air of a packet, milliseconds rounded up. -/
def timeOnAir (m : Modulation) (p : Packet) : Except Fault UInt32 := do
  let units ← timeOnAirUnits m p
  let hertz ← m.bandwidth.hertz
  return (ceilDiv64 (1000 * units.toUInt64) hertz.toUInt64).toUInt32

/-- Delay of the receiver's input stage, microseconds. -/
def rxInputDelay : Bandwidth → UInt32
  | .khz500 => 16
  | .khz250 => 31
  | .khz125 => 57
  | _ => 0

/-- Cycles of the LoRa clock from the last bit to decoded data. -/
def rxDataCycles (m : Modulation) (p : Packet) : Except Fault UInt32 := do
  let sf := m.spreadingFactor.value.toUInt32
  let cr := (← m.codingRate.code m.longInterleaver).toUInt32
  let fineSync : UInt32 := if sf ≤ 6 then 1 else 0
  let rate := if cr = 7 then cr + 1 else cr
  let bytes := p.payloadLength.toUInt32 + 2 * p.crcOn.toUInt32
  let headerOffset := sf + 2 * fineSync - 7
  if m.longInterleaver then
    let coded := 2 * (bytes - headerOffset / 2)
    return coded * (5 + rate) + coded * rate % sf + 4
  else
    return (2 * bytes - headerOffset) % sf * 16 * (4 + rate) + 5

/-- Delay between the last bit on air and the receive-done interrupt, microseconds. -/
def rxDoneDelay (m : Modulation) (p : Packet) : Except Fault UInt32 := do
  let sf := m.spreadingFactor.value.toUInt32
  let cycles := ((sf + 1) <<< (sf + 1)) + ((1 : UInt32) <<< sf) + (← rxDataCycles m p)
  let clock := 32 * (← m.bandwidth.hertz) / 1000000
  return rxInputDelay m.bandwidth + ceilDiv32 cycles clock + rxInterruptTime

/-- Delay between the last bit on air and the transmit-done interrupt, microseconds. -/
def txDoneDelay (ramp : UInt8) : UInt32 := rampMicros ramp + txInterruptTime

end Transceiver.Lora
