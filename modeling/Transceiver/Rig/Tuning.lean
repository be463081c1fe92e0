import Transceiver.Rig.Basic

/-! The carrier frequency and the output power. -/

namespace Transceiver

/-- Bands of the image calibration. Retuning inside a band needs no calibration. -/
inductive FrequencyBand where
  | band430
  | band460
  | band770
  | band850
  | band900
  deriving DecidableEq

/-- The band of a frequency in hertz, named by the megahertz it lies above. -/
def FrequencyBand.of? (frequency : UInt32) : Option FrequencyBand :=
  if frequency > 900000000 then some .band900
  else if frequency > 850000000 then some .band850
  else if frequency > 770000000 then some .band770
  else if frequency > 460000000 then some .band460
  else if frequency > 430000000 then some .band430
  else none

namespace Rig

open Station

variable {σ : Type} (rig : Rig σ)

/-- Tune to a frequency, calibrating the image first when the band changes. -/
def setFrequency (frequency : UInt32) : Action (Station σ) Unit := do
  ensure (· = .standby)
  let some band := FrequencyBand.of? frequency | throw .invalidParams
  let radio ← current
  if FrequencyBand.of? radio.frequency ≠ some band then
    rig.order (.calibrateImage frequency)
  if radio.modem = .lora then
    rig.tell (.compensateBandEdge frequency)
  rig.order (.setFrequency frequency)
  update ({ · with frequency })

/-- Find the amplifier settings for an output power in dBm, and put them into effect. -/
def setTxPower (power : Int8) : Action (Station σ) Unit := do
  ensure (· = .standby)
  let some found := rig.config.paFor power | throw .invalidParams
  let pa := { found with externalPa := found.externalPa || rig.config.externalPa }
  rig.tell (.setPa pa)
  rig.tell (.setTxParams pa.txPower pa.rampTime)
  update ({ · with pa })

end Rig

end Transceiver
