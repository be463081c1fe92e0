import Transceiver.Chip
import Transceiver.Config
import Transceiver.RxPacket
import Transceiver.Time

/-! A rig is a chip, the host it serves and the configuration of both. The station is what the
rig runs in: the driver's record of the radio beside the outside world. -/

namespace Transceiver

/-- The host's clock, and the listener that is told of events. -/
structure Host (σ : Type) where
  /-- Microseconds since an epoch of the host's choice. -/
  now : StateM σ UInt64
  onEvent : Event → σ → σ
  /-- Told before the radio sleeps, with the time at which it will be needed again. -/
  onSleepStart : UInt64 → σ → σ

/-- The driver's record of the radio. -/
structure Radio where
  state : RadioState := .unknown
  modem : Modem := .lora
  /-- The interrupts that are armed outside of a dispatch. -/
  mask : InterruptSet := .loraDefault
  /-- The policy of the window in progress. -/
  cadExit : CadExit := .none
  packet : RxPacket := {}
  /-- Parameters of the last carrier sense window. -/
  carrierSense : Option Fsk.CarrierSense := none
  /-- The limits of the selected region. -/
  limits : Option RegionalLimits := none
  /-- The amplifier settings in use. -/
  pa : PaConfig := {}
  /-- The frequency tuned to, hertz; zero before the first. -/
  frequency : UInt32 := 0
  deriving DecidableEq

/-- The record of the radio and the outside world. -/
structure Station (σ : Type) where
  radio : Radio := {}
  world : σ

/-- A chip, its host and their configuration. -/
structure Rig (σ : Type) where
  chip : Chip σ
  host : Host σ
  config : Config

namespace Station

variable {σ : Type}

/-- The record of the radio. -/
def current : Action (Station σ) Radio := fun s => .ok s.radio s

/-- Change the record of the radio. -/
def update (f : Radio → Radio) : Action (Station σ) Unit := fun s =>
  .ok () { s with radio := f s.radio }

/-- Note the state that the radio is in. -/
def enter (state : RadioState) : Action (Station σ) Unit := update ({ · with state })

/-- Refuse what a scan does not allow. -/
def ensureNotScanning : Action (Station σ) Unit := do
  if (← current).state = .scan then throw .busy

/-- Refuse what the state does not allow. -/
def ensure (allowed : RadioState → Bool) : Action (Station σ) Unit := do
  let state := (← current).state
  if state = .scan then throw .busy
  unless allowed state do throw .invalidState

end Station

namespace Rig

variable {σ : Type} (rig : Rig σ)

/-- Give the chip a command. -/
def tell (c : Command) : Action (Station σ) c.Reply :=
  .onPart Station.world ({ · with world := · }) (rig.chip.perform c)

/-- Give the chip a command whose failure, whatever it is, means that the hardware failed. -/
def order (c : Command) : Action (Station σ) c.Reply := .reporting .hardware (rig.tell c)

/-- Wait a number of microseconds. -/
def pause (us : UInt32) : Action (Station σ) Unit := fun s =>
  .ok () { s with world := rig.chip.pause us s.world }

/-- Read the clock. -/
def now : Action (Station σ) UInt64 :=
  .onPart Station.world ({ · with world := · }) (.ofState rig.host.now)

/-- Tell the listener of an event. -/
def report (event : Event) : Action (Station σ) Unit := fun s =>
  .ok () { s with world := rig.host.onEvent event s.world }

/-- Tell the listener that the radio goes to sleep. -/
def announceSleep (wakeAt : UInt64) : Action (Station σ) Unit := fun s =>
  .ok () { s with world := rig.host.onSleepStart wakeAt s.world }

/-- A duration in ticks of the chip timer. -/
def ticks (us : UInt32) : UInt32 := Ticks.ofMicros us rig.chip.tickRate

/-- Arm the interrupts on record. -/
def rearm : Action (Station σ) Unit := do
  rig.tell (.armInterrupts (← Station.current).mask)

end Rig

end Transceiver
