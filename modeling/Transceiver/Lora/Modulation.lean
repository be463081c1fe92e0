import Transceiver.Fault
import Transceiver.DataRate
import Transceiver.Modem

/-! LoRa parameters and the codes that both chip families use for them. -/

namespace Transceiver.Lora

/-- Bits carried by one symbol. -/
inductive SpreadingFactor where
  | sf5
  | sf6
  | sf7
  | sf8
  | sf9
  | sf10
  | sf11
  | sf12
  deriving DecidableEq

/-- The spreading factor as a number; a symbol lasts two to this power chips. -/
def SpreadingFactor.value : SpreadingFactor → UInt8
  | .sf5 => 5
  | .sf6 => 6
  | .sf7 => 7
  | .sf8 => 8
  | .sf9 => 9
  | .sf10 => 10
  | .sf11 => 11
  | .sf12 => 12

/-- Signal bandwidths, named by their kilohertz rounded down. -/
inductive Bandwidth where
  | khz7
  | khz10
  | khz15
  | khz20
  | khz31
  | khz41
  | khz62
  | khz125
  | khz250
  | khz500
  deriving DecidableEq

/-- The bandwidth in hertz, for the three bandwidths that are supported. -/
def Bandwidth.hertz : Bandwidth → Except Fault UInt32
  | .khz125 => .ok 125000
  | .khz250 => .ok 250000
  | .khz500 => .ok 500000
  | _ => .error .invalidParams

/-- The code of a supported bandwidth. -/
def Bandwidth.code : Bandwidth → Except Fault UInt8
  | .khz125 => .ok 4
  | .khz250 => .ok 5
  | .khz500 => .ok 6
  | _ => .error .invalidParams

/-- Coding rates, from four data bits in five to four in eight. -/
inductive CodingRate where
  | cr4_5
  | cr4_6
  | cr4_7
  | cr4_8
  deriving DecidableEq

/-- The code of a coding rate. The long interleaver has no form of 4/7. -/
def CodingRate.code : CodingRate → (longInterleaver : Bool) → Except Fault UInt8
  | .cr4_5, false => .ok 1
  | .cr4_6, false => .ok 2
  | .cr4_7, false => .ok 3
  | .cr4_8, false => .ok 4
  | .cr4_5, true => .ok 5
  | .cr4_6, true => .ok 6
  | .cr4_8, true => .ok 7
  | .cr4_7, true => .error .invalidParams

/-- How a LoRa signal is modulated. -/
structure Modulation where
  spreadingFactor : SpreadingFactor
  bandwidth : Bandwidth
  codingRate : CodingRate
  /-- Use the long interleaver form of the coding rate. -/
  longInterleaver : Bool
  deriving DecidableEq

/-- How a LoRa packet is laid out. -/
structure Packet where
  /-- Preamble length in symbols. -/
  preambleLength : UInt16
  /-- Leave the header out, the length being known to both sides. -/
  implicitHeader : Bool
  payloadLength : UInt8
  crcOn : Bool
  invertIq : Bool
  deriving DecidableEq

/-- How channel activity is detected. -/
structure CadParams where
  /-- Number of symbols, as the chip encodes it. -/
  symbols : UInt8
  detectPeak : UInt8
  detectMin : UInt8
  /-- What follows a detection; only the carrier sense policies are accepted. -/
  exit : CadExit
  /-- Timeout that the exit policy applies, in timer ticks. -/
  timeout : UInt32
  deriving DecidableEq

/-- The code of an exit policy. -/
def cadExitCode : CadExit → UInt8
  | .csRx | .edRx => 0x01
  | .csLbt | .edLbt => 0x10
  | .csOnly | .edOnly | .none => 0x00

/-- Low data rate optimisation is needed when a symbol lasts 16 ms or more. -/
def lowDataRateOptimize : SpreadingFactor → Bandwidth → Bool
  | .sf11, .khz125 | .sf12, .khz125 | .sf12, .khz250 => true
  | _, _ => false

/-- Sync word of private networks in the two-byte notation. -/
def privateSyncWord : UInt16 := 0x1424

/-- The one-byte sync word of a network; any network but a private one is public. -/
def syncWordByte (word : UInt16) : UInt8 :=
  if word = privateSyncWord then 0x12 else 0x34

/-- The modulation of a LoRa data rate. Only the slowest rate leaves the choice of interleaver. -/
def Modulation.ofDataRate (longInterleaver : Bool) : DataRate → Except Fault Modulation
  | .kbps22 => .ok ⟨.sf7, .khz500, .cr4_6, false⟩
  | .kbps12_5 => .ok ⟨.sf8, .khz500, .cr4_5, true⟩
  | .kbps2 => .ok ⟨.sf11, .khz500, .cr4_5, longInterleaver⟩
  | .kbps50 | .kbps150 | .kbps250 => .error .notSupported

/-- The data rate that a modulation belongs to. -/
def Modulation.dataRate? : Modulation → Option DataRate
  | ⟨.sf7, .khz500, .cr4_6, false⟩ => some .kbps22
  | ⟨.sf8, .khz500, .cr4_5, true⟩ => some .kbps12_5
  | ⟨.sf11, .khz500, .cr4_5, _⟩ => some .kbps2
  | _ => none

theorem Modulation.dataRate?_ofDataRate {longInterleaver : Bool} {rate : DataRate}
    {m : Modulation} (h : ofDataRate longInterleaver rate = .ok m) : m.dataRate? = some rate := by
  cases rate <;> simp only [ofDataRate, Except.ok.injEq, reduceCtorEq] at h <;> subst h <;>
    cases longInterleaver <;> rfl

end Transceiver.Lora
