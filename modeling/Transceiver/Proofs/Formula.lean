import Transceiver.Fsk.Modulation
import Transceiver.Lora.Timing
import Transceiver.Proofs.Tracked

/-! The durations once more, as formulas of tracked words. Each gives the word that the duration
has, and beside it the number that the same operations give over the integers. -/

namespace Transceiver

open FixedWidth Tracked

/-- Milliseconds that so many units take, with `rate` of them in a second, rounded up. -/
def Tracked.millis (units : Tracked UInt32) (rate : UInt32) : Tracked UInt32 :=
  narrow (quotientUp64 (1000 * widen units) (widen (of rate)))

namespace Lora

namespace Formula

/-- Duration of a symbol, microseconds. -/
def symbolTime (sf : SpreadingFactor) (bw : Bandwidth) : Except Fault (Tracked UInt32) := do
  return (1 : Tracked UInt32) <<< of sf.value.toUInt32 * 1000000 / of (← bw.hertz)

/-- Duration of a number of symbols, microseconds. -/
def symbolTimeout (m : Modulation) (symbols : UInt8) : Except Fault (Tracked UInt32) := do
  return (← symbolTime m.spreadingFactor m.bandwidth) * of symbols.toUInt32

variable (m : Modulation) (p : Packet)

def bitsPerSymbol : Tracked Int32 :=
  of m.sf - 2 * of (if lowDataRateOptimize m.spreadingFactor m.bandwidth then 1 else 0)

def totalBytes : Tracked Int32 :=
  of p.payloadLength.toUInt32.toInt32 + of (if p.crcOn then 2 else 0)

/-- Symbols that bits take, with so many of them in a symbol. -/
def symbolsFor (bits size : Tracked Int32) : Tracked Int32 := (bits + size - 1) / size

/-- Bits that the symbols of the header have room for, with the plain interleaver. -/
def headerBits : Tracked Int32 :=
  of m.sf * 4 + of m.fineSync * 8 - 8 - of (if p.implicitHeader then 0 else 20)

/-- Data symbols with the plain interleaver. -/
def plainSymbols (cr : Int32) : Tracked Int32 :=
  symbolsFor (max (8 * totalBytes p - headerBits m p) 0) (4 * bitsPerSymbol m) * (of cr + 4) + 8

/-- Bits that four bits of data come to with the long interleaver. -/
def rate (cr : Int32) : Tracked Int32 := of cr + of (if cr = 7 then 1 else 0)

/-- Bits of a packet without a header, coded. -/
def codedBits (cr : Int32) : Tracked Int32 := 8 * totalBytes p * rate cr

/-- Payload bits in each of the first eight symbols. -/
def firstBits : Tracked Int32 := of m.sf - 2 + 2 * of m.fineSync

/-- Bits of a packet without a header, with those that the first eight symbols hold less than the
others. -/
def paddedBits (cr : Int32) : Tracked Int32 :=
  8 * 4 * bitsPerSymbol m + codedBits p cr - 4 * (firstBits m * 8)

/-- Data symbols with the long interleaver, of a packet without a header. -/
def implicitSymbols (cr : Int32) : Tracked Int32 :=
  (Test.le (codedBits p cr) (7 * 4 * firstBits m)).choose
    (symbolsFor (codedBits p cr) (4 * firstBits m))
    (symbolsFor (paddedBits m p cr) (4 * bitsPerSymbol m))

/-- Payload bits that the symbols of the header have room for, with the long interleaver. -/
def headerRoom : Tracked Int32 := wholeBytes (of m.sf * 4 + of m.fineSync * 8 - 28)

def payloadBits : Tracked Int32 := 8 * of p.payloadLength.toUInt32.toInt32

/-- Payload bits that the symbols of the header hold. The checksum is not split. -/
def heldBits : Tracked Int32 :=
  ((Test.lt (headerRoom m) (8 * totalBytes p)).and (Test.lt (payloadBits p) (headerRoom m))).choose
    (payloadBits p) (headerRoom m)

/-- Data symbols with the long interleaver, of a packet with a header. -/
def explicitSymbols (cr : Int32) : Tracked Int32 :=
  symbolsFor (max (8 * totalBytes p - heldBits m p) 0 * rate cr + 8 * 4 * bitsPerSymbol m)
    (4 * bitsPerSymbol m)

/-- Symbols that carry data. -/
def dataSymbols (cr : Int32) : Tracked Int32 :=
  if m.longInterleaver then
    if p.implicitHeader then implicitSymbols m p cr else explicitSymbols m p cr
  else plainSymbols m p cr

/-- Whole symbols of a packet. A quarter of one more follows the preamble. -/
def symbols (cr : Int32) : Tracked Int32 :=
  of p.preambleLength.toUInt32.toInt32 + 4 + 2 * of m.fineSync + dataSymbols m p cr

/-- Time on air in units of one over the bandwidth. -/
def timeOnAirUnits (cr : Int32) : Tracked UInt32 :=
  unsign ((4 * symbols m p cr + 1) * (1 : Tracked Int32) <<< (of m.sf - 2) - 1)

/-- Time on air of a packet, milliseconds rounded up. -/
def timeOnAir : Except Fault (Tracked UInt32) := do
  let cr ← m.codingRate.code m.longInterleaver
  let hertz ← m.bandwidth.hertz
  return millis (timeOnAirUnits m p cr.toUInt32.toInt32) hertz

/-- Four more than this many bits are sent for four bits of data. -/
def rxRate (cr : UInt32) : Tracked UInt32 := if cr = 7 then of cr + 1 else of cr

/-- What the header takes of the payload, in half bytes. -/
def headerOffset (sf : SpreadingFactor) : Tracked UInt32 :=
  of sf.value.toUInt32 + 2 * of (if sf.value.toUInt32 ≤ 6 then 1 else 0) - 7

def rxBytes : Tracked UInt32 := of p.payloadLength.toUInt32 + 2 * of p.crcOn.toUInt32

/-- Cycles of the LoRa clock from the last bit to decoded data, with the plain interleaver. -/
def plainCycles (cr : UInt32) : Tracked UInt32 :=
  (2 * rxBytes p - headerOffset m.spreadingFactor) % of m.spreadingFactor.value.toUInt32 * 16
    * (4 + rxRate cr) + 5

/-- Cycles of the LoRa clock from the last bit to decoded data, with the long interleaver. -/
def interleavedCycles (cr : UInt32) : Tracked UInt32 :=
  let coded := 2 * (rxBytes p - headerOffset m.spreadingFactor / 2)
  coded * (5 + rxRate cr) + coded * rxRate cr % of m.spreadingFactor.value.toUInt32 + 4

def rxDataCycles (cr : UInt32) : Tracked UInt32 :=
  if m.longInterleaver then interleavedCycles m p cr else plainCycles m p cr

/-- Cycles of the LoRa clock from the last bit on air on, with those that decoding takes. -/
def rxCycles (sf : SpreadingFactor) (data : Tracked UInt32) : Tracked UInt32 :=
  let sf := of sf.value.toUInt32
  (sf + 1) <<< (sf + 1) + (1 : Tracked UInt32) <<< sf + data

/-- Delay of the interrupt that comes after so many cycles of the LoRa clock, microseconds. -/
def delayAfter (bw : Bandwidth) (hertz : UInt32) (cycles : Tracked UInt32) : Tracked UInt32 :=
  of (rxInputDelay bw) + quotientUp32 cycles (32 * of hertz / 1000000) + of rxInterruptTime

/-- Delay between the last bit on air and the receive-done interrupt, microseconds. -/
def rxDoneDelay : Except Fault (Tracked UInt32) := do
  let cr ← m.codingRate.code m.longInterleaver
  let hertz ← m.bandwidth.hertz
  return delayAfter m.bandwidth hertz (rxCycles m.spreadingFactor (rxDataCycles m p cr.toUInt32))

variable {m p}

theorem word_symbolTime (sf : SpreadingFactor) (bw : Bandwidth) :
    (symbolTime sf bw).map word = Lora.symbolTime sf bw := by
  cases bw <;> rfl

theorem word_symbolTimeout (symbols : UInt8) :
    (symbolTimeout m symbols).map word = m.symbolTimeout symbols := by
  simp only [symbolTimeout, Modulation.symbolTimeout, ← word_symbolTime]
  cases symbolTime m.spreadingFactor m.bandwidth <;> rfl

theorem word_dataSymbols (cr : Int32) : (dataSymbols m p cr).word = Lora.dataSymbols m p cr := by
  unfold dataSymbols Lora.dataSymbols
  split
  · unfold interleavedBits
    split
    · by_cases h : 8 * p.totalBytes * (cr + if cr = 7 then 1 else 0) ≤
        7 * 4 * (m.sf - 2 + 2 * m.fineSync)
      · simp only [if_pos h]
        exact if_pos h
      · simp only [if_neg h]
        exact if_neg h
    · rfl
  · rfl

theorem word_timeOnAir : (timeOnAir m p).map word = Lora.timeOnAir m p := by
  unfold timeOnAir Lora.timeOnAir Lora.timeOnAirUnits
  simp only [← word_dataSymbols]
  cases m.codingRate.code m.longInterleaver <;> cases m.bandwidth.hertz <;> rfl

theorem word_rxRate (cr : UInt32) : (rxRate cr).word = if cr = 7 then cr + 1 else cr := by
  unfold rxRate
  split <;> rfl

theorem word_rxDataCycles :
    (m.codingRate.code m.longInterleaver).map (fun cr => (rxDataCycles m p cr.toUInt32).word) =
      Lora.rxDataCycles m p := by
  unfold Lora.rxDataCycles
  cases m.codingRate.code m.longInterleaver with
  | error e => rfl
  | ok cr =>
    unfold rxDataCycles
    cases m.longInterleaver <;> simp only [bind, Except.bind, ← word_rxRate] <;> rfl

theorem word_rxDoneDelay : (rxDoneDelay m p).map word = Lora.rxDoneDelay m p := by
  unfold rxDoneDelay Lora.rxDoneDelay
  rw [← word_rxDataCycles]
  cases m.codingRate.code m.longInterleaver <;> cases m.bandwidth.hertz <;> rfl

end Formula

end Lora

namespace Fsk.Formula

/-- Bits of a preamble as the time on air counts them. -/
def preambleBits (length : UInt16) : Tracked UInt16 :=
  if length > 1 then (of length - 1) <<< 3 else 0

variable (m : Modulation) (p : Packet)

/-- Bits of a packet as the time on air counts them. -/
def countedBits : Tracked UInt32 :=
  extend (preambleBits p.preambleLength) + of (if p.variableLength then 8 else 0)
    + of p.syncWordLength.toUInt32 * 8
    + (of p.payloadLength.toUInt32 + of p.addressFilter.toUInt32
      + of (if p.crcOn then 2 else 0)) * 8

/-- Time on air of a packet, milliseconds rounded up. -/
def timeOnAir : Except Fault (Tracked UInt32) :=
  if m.bitRate = 0 then .error .invalidParams else .ok (millis (countedBits p) m.bitRate)

variable {m p}

theorem word_preambleBits (n : UInt16) : (preambleBits n).word = Fsk.preambleBits n := by
  unfold preambleBits Fsk.preambleBits
  split <;> rfl

theorem word_timeOnAir : (timeOnAir m p).map word = Fsk.timeOnAir m p := by
  unfold timeOnAir Fsk.timeOnAir
  rw [← word_preambleBits]
  split <;> rfl

end Fsk.Formula

end Transceiver
