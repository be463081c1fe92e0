import Transceiver.Rig.Basic

/-! Settings of the modem and the region. They are possible in every state but a scan. -/

namespace Transceiver.Rig

open Station

variable {σ : Type} (rig : Rig σ)

/-- Select the modem and arm its interrupts. -/
def setModem (modem : Modem) : Action (Station σ) Unit := do
  ensureNotScanning
  rig.order (.setModem modem)
  update ({ · with modem, mask := .defaultFor modem })
  rig.order (.armInterrupts (.defaultFor modem))

/-- Select the regional limits. -/
def setRegion (region : Region) : Action (Station σ) Unit := do
  ensureNotScanning
  let some limits := rig.config.limits? region | throw .notSupported
  update ({ · with limits := some limits })

/-- The highest transmit power of the selected region, dBm. -/
def maxTxPower (rate : DataRate) : Action (Station σ) Int8 := do
  let some limits := (← current).limits | throw .notSupported
  return limits.maxTxPower.get rate.index

/-- The adjustment of the clear channel threshold in the selected region, dB. -/
def ccaAdjust (rate : DataRate) : Action (Station σ) Int8 := do
  let some limits := (← current).limits | throw .notSupported
  return limits.ccaAdjust.get rate.index

/-- Antenna gain in the selected region, dBi; zero before a region is selected. -/
def antennaGain : Action (Station σ) Int8 := do
  return (← current).limits.elim 0 (·.antennaGain)

/-- The timings of the board, with the oscillator startup of the chip if it has one. -/
def stateTimings : StateTimings :=
  if rig.chip.oscillatorStartup = 0 then rig.config.timings
  else { rig.config.timings with tcxoDelay := rig.chip.oscillatorStartup }

/-- Copy the next frame into the chip's buffer. -/
def setTxPayload (payload : List UInt8) : Action (Station σ) Unit := do
  if payload = [] then throw .invalidParams
  ensureNotScanning
  rig.tell (.writeBuffer 0 payload)

/-- Set the activity detection, and remember what follows it. -/
def setCadParams (params : Lora.CadParams) : Action (Station σ) Unit := do
  ensureNotScanning
  unless params.exit ∈ [CadExit.csOnly, .csRx, .csLbt] do throw .invalidParams
  rig.order (.setCadParams params)
  update ({ · with cadExit := params.exit })

/-- Set the LoRa modulation. -/
def setLoraModulation (m : Lora.Modulation) : Action (Station σ) Unit := do
  ensureNotScanning
  rig.tell (.setLoraModulation m)

/-- Set the LoRa packet layout. -/
def setLoraPacket (p : Lora.Packet) : Action (Station σ) Unit := do
  ensureNotScanning
  rig.tell (.setLoraPacket p)

/-- Set the LoRa sync word, given in the two-byte notation. -/
def setLoraSyncWord (word : UInt16) : Action (Station σ) Unit := do
  ensureNotScanning
  rig.tell (.setLoraSyncWord (Lora.syncWordByte word))

/-- Set how many symbols a receiver waits for a preamble. -/
def setLoraSymbolTimeout (symbols : UInt8) : Action (Station σ) Unit := do
  ensureNotScanning
  rig.tell (.setLoraSymbolTimeout symbols)

/-- Set the FSK modulation. -/
def setFskModulation (m : Fsk.Modulation) : Action (Station σ) Unit := do
  ensureNotScanning
  rig.tell (.setFskModulation m)

/-- Set the FSK packet layout. -/
def setFskPacket (p : Fsk.Packet) : Action (Station σ) Unit := do
  ensureNotScanning
  rig.tell (.setFskPacket p)

/-- Set the FSK sync word. -/
def setFskSyncWord (word : List UInt8) : Action (Station σ) Unit := do
  ensureNotScanning
  rig.tell (.setFskSyncWord word)

end Transceiver.Rig
