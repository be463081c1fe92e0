import Transceiver.Rig.PowerUp
import Transceiver.Rig.Settings
import Transceiver.Rig.Scan
import Transceiver.Rig.Dispatch

/-! The operations of the radio as data, and runs of them. -/

namespace Transceiver

/-- What the application can ask of the radio. Durations are microseconds, frequencies hertz and
powers dBm. -/
inductive Operation where
  | powerUp
  | release
  | setModem (modem : Modem)
  | setRegion (region : Region)
  | standby
  | sleep (duration : UInt32)
  | setBusy
  | holdScan
  | releaseScan
  | abortScan
  | setFrequency (frequency : UInt32)
  | setTxPower (power : Int8)
  | setTxPayload (payload : List UInt8)
  | startTx (timeout : UInt32)
  | startCarrier (frequency : UInt32) (power : Int8)
  | startRx (timeout : UInt32)
  | startContinuousRx
  | startCarrierSense (params : Fsk.CarrierSense) (exit : CadExit)
  | startRxDutyCycle (rx sleep : UInt32)
  | startCad
  | setCadParams (params : Lora.CadParams)
  | rssi
  | isChannelFree (frequency : UInt32) (threshold : Int16) (duration : UInt32)
  | channelNoise (frequency : UInt32)
  | random
  | setLoraModulation (m : Lora.Modulation)
  | setLoraPacket (p : Lora.Packet)
  | setLoraSyncWord (word : UInt16)
  | setLoraSymbolTimeout (symbols : UInt8)
  | setFskModulation (m : Fsk.Modulation)
  | setFskPacket (p : Fsk.Packet)
  | setFskSyncWord (word : List UInt8)
  | awaitInterrupt
  | processInterrupt
  | scanInterrupt (status : InterruptSet)
  deriving DecidableEq

/-- What an operation that succeeds returns. -/
@[reducible] def Operation.Reply : Operation → Type
  | .rssi | .channelNoise _ => Int16
  | .isChannelFree .. => Bool
  | .random => UInt32
  | _ => Unit

namespace Rig

variable {σ : Type} (rig : Rig σ)

/-- Carry out an operation. -/
def perform : (op : Operation) → Action (Station σ) op.Reply
  | .powerUp => rig.powerUp
  | .release => release
  | .setModem modem => rig.setModem modem
  | .setRegion region => rig.setRegion region
  | .standby => rig.standby
  | .sleep duration => rig.sleep duration
  | .setBusy => setBusy
  | .holdScan => rig.holdScan
  | .releaseScan => rig.releaseScan
  | .abortScan => rig.abortScan
  | .setFrequency frequency => rig.setFrequency frequency
  | .setTxPower power => rig.setTxPower power
  | .setTxPayload payload => rig.setTxPayload payload
  | .startTx timeout => rig.startTx timeout
  | .startCarrier frequency power => rig.startCarrier frequency power
  | .startRx timeout => rig.startRx timeout
  | .startContinuousRx => rig.startContinuousRx
  | .startCarrierSense params exit => rig.startCarrierSense params exit
  | .startRxDutyCycle rx sleep => rig.startRxDutyCycle rx sleep
  | .startCad => rig.startCad
  | .setCadParams params => rig.setCadParams params
  | .rssi => rig.rssi
  | .isChannelFree frequency threshold duration => rig.isChannelFree frequency threshold duration
  | .channelNoise frequency => rig.channelNoise frequency
  | .random => rig.random
  | .setLoraModulation m => rig.setLoraModulation m
  | .setLoraPacket p => rig.setLoraPacket p
  | .setLoraSyncWord word => rig.setLoraSyncWord word
  | .setLoraSymbolTimeout symbols => rig.setLoraSymbolTimeout symbols
  | .setFskModulation m => rig.setFskModulation m
  | .setFskPacket p => rig.setFskPacket p
  | .setFskSyncWord word => rig.setFskSyncWord word
  | .awaitInterrupt => rig.tell .awaitInterrupt
  | .processInterrupt => rig.processInterrupt
  | .scanInterrupt status => rig.scanInterrupt status

/-- The station after an operation, whether it succeeds or fails. -/
def step (s : Station σ) (op : Operation) : Station σ :=
  match rig.perform op s with
  | .ok _ s | .error _ s => s

/-- The station after a run of operations, which goes on after a failure. -/
def run (s : Station σ) (ops : List Operation) : Station σ := ops.foldl rig.step s

@[simp] theorem run_nil (s : Station σ) : rig.run s [] = s := rfl

@[simp] theorem run_cons (s : Station σ) (op : Operation) (ops : List Operation) :
    rig.run s (op :: ops) = rig.run (rig.step s op) ops := rfl

theorem run_append (s : Station σ) (ops more : List Operation) :
    rig.run s (ops ++ more) = rig.run (rig.run s ops) more := List.foldl_append

end Rig

end Transceiver
