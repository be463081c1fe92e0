import Transceiver.DataRate
import Transceiver.Power

/-! What the application chooses for its board and its channel. -/

namespace Transceiver

/-- How long a board takes from one state to another, microseconds. -/
structure StateTimings where
  sleepToFullPower : UInt32 := 0
  fullPowerToSleep : UInt32 := 0
  rxToTx : UInt32 := 0
  txToRx : UInt32 := 0
  /-- Startup of the oscillator. -/
  tcxoDelay : UInt32 := 0
  txProcessDelay : UInt32 := 0
  rxProcessDelay : UInt32 := 0
  deriving DecidableEq

/-- The choices of the application. -/
structure Config where
  /-- Gain of the receive path, taken off every RSSI reading, dB. -/
  lnaGain : Int16
  /-- The regions to choose from. -/
  regions : List RegionalLimits
  /-- The region that is selected on power-up. -/
  defaultRegion : Region
  /-- The amplifier settings for an output power in dBm. -/
  paFor : Int8 → Option PaConfig
  /-- Transmit through the external amplifier, whatever the amplifier settings. -/
  externalPa : Bool
  /-- Stay on the crystal in standby. -/
  standbyOnCrystal : Bool
  /-- Disarm the interrupts before sleeping, so that noise does not wake the host. -/
  disarmInSleep : Bool
  timings : StateTimings
  /-- Timeout of the transmission after a quiet carrier sense window, microseconds. -/
  fskTxTimeout : UInt32
  /-- Timeout of the transmission after an activity detection found none, microseconds. -/
  loraTxTimeout : UInt32
  /-- Report a channel that stayed quiet, for diagnosis, in place of transmitting. -/
  reportQuietChannel : Bool := false

/-- The limits of a region. -/
def Config.limits? (config : Config) (region : Region) : Option RegionalLimits :=
  config.regions.find? (·.region = region)

end Transceiver
