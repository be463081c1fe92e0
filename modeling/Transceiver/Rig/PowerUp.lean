import Transceiver.Rig.Standby
import Transceiver.Rig.Tuning

/-! Bringing the radio up, and letting it go. -/

namespace Transceiver.Rig

open Station

variable {σ : Type} (rig : Rig σ)

/-- Configure the chip after a reset, for transmissions at the highest power that the limits allow,
and arm the interrupts. -/
def configure (limits : Option RegionalLimits) : Action (Station σ) Unit := do
  rig.standby
  rig.order .setUp
  rig.tell (.setModem (← current).modem)
  if let some limits := limits then
    rig.setTxPower (limits.maxTxPower.get DataRate.kbps50.index)
  rig.rearm

/-- Reset and configure the chip for LoRa, and select the default region. -/
def powerUp : Action (Station σ) Unit := do
  ensureNotScanning
  let limits := rig.config.limits? rig.config.defaultRegion
  update ({ · with limits })
  rig.tell (.setAntenna .off)
  rig.tell .reset
  update ({ · with modem := .lora, mask := .loraDefault, cadExit := .none, state := .unknown })
  rig.configure limits

/-- Let the radio go; the chip is left as it is. -/
def release : Action (Station σ) Unit := pure ()

end Transceiver.Rig
