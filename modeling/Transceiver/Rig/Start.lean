import Transceiver.Rig.Standby
import Transceiver.Rig.Tuning

/-! Starting to transmit and to receive. Each start issues its commands in full before the new
state is noted. -/

namespace Transceiver.Rig

open Station

variable {σ : Type} (rig : Rig σ)

/-- The antenna path of a transmission. -/
def txPath (pa : PaConfig) : AntennaPath := if pa.externalPa then .txExternal else .tx

/-- Transmit the frame in the chip's buffer. A timeout of zero stops the chip timer. -/
def startTx (timeout : UInt32) : Action (Station σ) Unit := do
  ensure (·.isAwake)
  rig.tell (.setAntenna (txPath (← current).pa))
  rig.tell (.clearInterrupts .all)
  rig.order (.setTx (rig.ticks timeout))
  enter .tx

/-- Transmit an unmodulated carrier. The radio goes to standby first, so that it can be tuned. -/
def startCarrier (frequency : UInt32) (power : Int8) : Action (Station σ) Unit := do
  ensure (·.isAwake)
  rig.standby
  rig.setFrequency frequency
  rig.setTxPower power
  rig.tell (.setAntenna (txPath (← current).pa))
  rig.tell (.clearInterrupts .all)
  rig.order .setTxCarrier
  enter .tx

/-- Receive for a number of timer ticks. FSK stops the timer at the preamble, LoRa at the
header. -/
def receiveFor (ticks : UInt32) : Action (Station σ) Unit := do
  rig.order (.stopTimerOnPreamble ((← current).modem = .fsk))
  rig.tell (.setAntenna .rx)
  rig.tell (.clearInterrupts .all)
  rig.order (.setRx ticks)
  enter .rx

/-- Receive one packet within a number of microseconds. -/
def startRx (timeout : UInt32) : Action (Station σ) Unit := do
  ensure (·.isAwake)
  rig.receiveFor (rig.ticks timeout)

/-- Receive until told otherwise. -/
def startContinuousRx : Action (Station σ) Unit := do
  ensure (·.isAwake)
  rig.receiveFor Ticks.continuous

/-- Listen on an FSK channel. The dispatch of the next interrupt concludes the window as the
policy says. -/
def startCarrierSense (params : Fsk.CarrierSense) (exit : CadExit) :
    Action (Station σ) Unit := do
  ensure (·.isAwake)
  if (← current).modem ≠ .fsk ∨ exit = .none then throw .invalidParams
  rig.order (.stopTimerOnPreamble true)
  rig.tell (.setAntenna .rx)
  rig.tell (.clearInterrupts .all)
  update ({ · with mask := .carrierSense })
  rig.tell (.armInterrupts .carrierSense)
  rig.order (.setRx (rig.ticks params.duration))
  update ({ · with carrierSense := some params, cadExit := exit })
  enter .rx

/-- Alternate between receiving and sleeping, for two numbers of microseconds. -/
def startRxDutyCycle (rx sleep : UInt32) : Action (Station σ) Unit := do
  if rx = 0 ∨ sleep = 0 then throw .invalidParams
  ensure (·.isAwake)
  rig.tell (.setAntenna .rx)
  rig.tell (.clearInterrupts .all)
  rig.order (.setRxDutyCycle (rig.ticks rx) (rig.ticks sleep))
  enter .rxDutyCycle

/-- Detect LoRa activity on the channel. -/
def startCad : Action (Station σ) Unit := do
  ensure (·.isAwake)
  if (← current).modem ≠ .lora then throw .invalidParams
  rig.tell (.setAntenna .rx)
  rig.tell (.clearInterrupts .all)
  rig.order .setCad
  enter .cad

end Transceiver.Rig
