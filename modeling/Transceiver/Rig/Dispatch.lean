import Transceiver.Rig.Measurement
import Transceiver.Rig.Reception

/-! Dispatch of interrupts. The chip's interrupts are disarmed, its status is read, and at most
one event is reported. Then the interrupts are armed again, unless the radio sleeps. -/

namespace Transceiver

/-- What an interrupt means. -/
inductive Meaning where
  /-- An event that needs nothing done. -/
  | event (event : Event)
  | nothing
  /-- The channel stayed quiet; a policy that does not transmit reports the event. -/
  | quiet (event : Event)
  /-- LoRa activity was detected on the channel. -/
  | detected
  /-- A preamble was found on an FSK channel. -/
  | preamble
  /-- The sync word of an FSK packet was found. -/
  | sync
  /-- A packet is complete. -/
  | packet (modem : Modem)
  deriving DecidableEq

/-- What a LoRa interrupt means. Preambles, sync words and headers alone mean nothing. -/
def Meaning.lora (status : InterruptSet) : Meaning :=
  if .cadDone ∈ status then if .cadDetected ∈ status then .detected else .quiet .cadTimeout
  else if .rxDone ∈ status then .packet .lora
  else .nothing

/-- What an FSK interrupt means. -/
def Meaning.fsk (status : InterruptSet) : Meaning :=
  if .syncWordValid ∈ status then .sync
  else if .preambleDetected ∈ status then .preamble
  else if .rxDone ∈ status then .packet .fsk
  else .nothing

/-- What an interrupt means to the radio. Conclusions that both modems know come first. -/
def Meaning.of (r : Radio) (status : InterruptSet) : Meaning :=
  if .txDone ∈ status then .event .txDone
  else if .crcError ∈ status then .event .rxError
  else if .timeout ∈ status then
    if r.state = .tx then .event .txTimeout else .quiet .rxTimeout
  else if .headerError ∈ status then .event .rxTimeout
  else match r.modem with
    | .lora => .lora status
    | .fsk => .fsk status

namespace Rig

open Station

variable {σ : Type} (rig : Rig σ)

/-- Conclude the window in progress: its policy and its narrow mask are dropped. -/
def endWindow : Action (Station σ) Unit :=
  update fun r => { r with cadExit := .none, mask := .defaultFor r.modem }

/-- The channel stayed quiet through the window of a policy that then transmits. A transmission
that cannot be started is not reported. -/
def transmitOnQuiet : Action (Station σ) (Option Event) := do
  if rig.config.reportQuietChannel then return some .csTimeout
  let timeout := match (← current).modem with
    | .lora => rig.config.loraTxTimeout
    | .fsk => rig.config.fskTxTimeout
  discard <| Action.attempt (rig.startTx timeout)
  return none

/-- Conclude a window on a quiet channel, where a policy that does not transmit reports `event`. -/
def concludeQuiet (event : Event) : Action (Station σ) (Option Event) := do
  let policy := (← current).cadExit
  endWindow
  if policy.listensBeforeTalk then rig.transmitOnQuiet else return some event

/-- Note the RSSI of this moment beside the packet, if it can be read. -/
def noteRssi : Action (Station σ) Unit := do
  if let .ok rssi ← Action.attempt rig.rssi then
    update fun r => { r with packet := { r.packet with fsk := { r.packet.fsk with
      rssiSync := rssi } } }

/-- Conclude a carrier sense window in which a preamble was found. Policies that receive go on
with the full mask; the others note the RSSI and stop. -/
def concludeActivity : Action (Station σ) (Option Event) := do
  match (← current).cadExit with
  | .none => return none
  | .csRx | .edRx =>
    endWindow
    return none
  | .csOnly | .csLbt | .edOnly | .edLbt =>
    rig.noteRssi
    endWindow
    rig.standby
    return some .csDone

/-- Receive a LoRa packet. One that cannot be fetched is not reported. -/
def receiveLora : Action (Station σ) (Option Event) := do
  match ← Action.attempt rig.fetchLora with
  | .error _ => return none
  | .ok () =>
    update fun r => { r with packet := { r.packet with fsk := {} } }
    return some .rxDone

/-- Receive an FSK packet. One that cannot be fetched is not reported. -/
def receiveFsk : Action (Station σ) (Option Event) := do
  match ← Action.attempt rig.fetchFsk with
  | .error _ => return none
  | .ok (.error _) => return some .rxError
  | .ok (.ok ()) =>
    update fun r => { r with packet := { r.packet with lora := {} } }
    return some .rxDone

/-- Do what an interrupt calls for, and find out which event it was. -/
def act : Meaning → Action (Station σ) (Option Event)
  | .event event => return some event
  | .nothing => return none
  | .quiet event => rig.concludeQuiet event
  | .detected => do
    endWindow
    return some .cadDone
  | .preamble => rig.concludeActivity
  | .sync => do
    discard <| Action.attempt rig.syncFsk
    return none
  | .packet .lora => rig.receiveLora
  | .packet .fsk => rig.receiveFsk

/-- Note when a packet was complete, and clear the chip's error register if it is not zero. -/
def attend (status : InterruptSet) : Action (Station σ) Unit := do
  if .rxDone ∈ status then
    let receivedAt ← rig.now
    update fun r => { r with packet := { r.packet with receivedAt } }
  if .chipError ∈ status then
    discard <| Action.attempt (rig.tell .takeErrors)

/-- Disarm the interrupts, take the status, and do what it calls for. -/
def dispatch : Action (Station σ) (Option Event) := do
  rig.tell (.armInterrupts ∅)
  let status ← rig.tell .takeInterrupts
  rig.attend status
  rig.act (.of (← current) status)

/-- Report what a dispatch found, and arm the interrupts again. Of two faults that of the dispatch
is the outcome. -/
def conclude (found : Except Fault (Option Event)) : Action (Station σ) Unit := do
  if let .ok (some event) := found then rig.report event
  let armed ← Action.attempt do
    if (← current).state ≠ .sleep then rig.rearm
  discard <| Action.settle found
  Action.settle armed

/-- Serve the chip's interrupt. While a scan owns the radio nothing happens. -/
def processInterrupt : Action (Station σ) Unit := do
  if (← current).state = .scan then return
  rig.conclude (← Action.attempt rig.dispatch)

end Rig

end Transceiver
