/-! Data rates, and the limits that a region sets on each of them. -/

namespace Transceiver

/-- The data rates that regional limits are given for. -/
inductive DataRate where
  | kbps2
  | kbps22
  | kbps50
  | kbps150
  | kbps250
  | kbps12_5
  deriving DecidableEq

/-- The place of a data rate in a table of limits. -/
def DataRate.index : DataRate → Fin 6
  | .kbps2 => 0
  | .kbps22 => 1
  | .kbps50 => 2
  | .kbps150 => 3
  | .kbps250 => 4
  | .kbps12_5 => 5

/-- The data rate numbered `n`, counting from one. -/
def DataRate.ofNat? : Nat → Option DataRate
  | 1 => some .kbps2
  | 2 => some .kbps22
  | 3 => some .kbps50
  | 4 => some .kbps150
  | 5 => some .kbps250
  | 6 => some .kbps12_5
  | _ => none

/-- Regulatory regions. -/
inductive Region where
  | na
  | eu
  | jp
  deriving DecidableEq

/-- The limits of one region. -/
structure RegionalLimits where
  region : Region
  /-- Highest conducted transmit power for each data rate, dBm. -/
  maxTxPower : Vector Int8 6
  /-- Adjustment of the clear channel threshold for each data rate, dB. -/
  ccaAdjust : Vector Int8 6
  /-- Antenna gain, dBi. -/
  antennaGain : Int8
  deriving DecidableEq

end Transceiver
