/-! The vocabulary of the radio: its modems, its states, the antenna paths and the events it
reports. -/

namespace Transceiver

/-- The modem in use. -/
inductive Modem where
  | fsk
  | lora
  deriving DecidableEq

/-- What the radio is doing, as far as the accepted commands tell. -/
inductive RadioState where
  /-- After a reset or a failed wakeup, before the next confirmed transition. -/
  | unknown
  /-- Idle, ready to be configured. -/
  | standby
  /-- Asleep with the configuration retained. -/
  | sleep
  /-- Receiving, or listening on an FSK channel. -/
  | rx
  /-- Transmitting. -/
  | tx
  /-- Detecting LoRa activity on the channel. -/
  | cad
  /-- Alternating between receiving and sleeping. -/
  | rxDutyCycle
  /-- Reserved by another stack. -/
  | busy
  /-- Owned by the scan subsystem. -/
  | scan
  deriving DecidableEq

/-- States from which the radio can start to receive or transmit. -/
def RadioState.isAwake : RadioState → Bool
  | .standby | .rx | .tx | .cad | .rxDutyCycle => true
  | .unknown | .sleep | .busy | .scan => false

/-- The antenna path. -/
inductive AntennaPath where
  | off
  | rx
  | tx
  /-- Transmit through the external amplifier. -/
  | txExternal
  deriving DecidableEq

/-- What an interrupt meant; at most one is reported for each interrupt. -/
inductive Event where
  | txDone
  | rxDone
  | rxError
  | txTimeout
  | rxTimeout
  | cadDone
  | cadTimeout
  | csDone
  | csTimeout
  deriving DecidableEq

/-- What follows when an activity detection or a carrier sense window concludes. -/
inductive CadExit where
  /-- Carrier sense only: report and stop. -/
  | csOnly
  /-- Carrier sense, then receive on activity. -/
  | csRx
  /-- Carrier sense, then transmit when the channel is free. -/
  | csLbt
  /-- Energy detection only. -/
  | edOnly
  /-- Energy detection, then receive. -/
  | edRx
  /-- Energy detection, then transmit when the channel is free. -/
  | edLbt
  /-- No window in progress. -/
  | none
  deriving DecidableEq

/-- Policies that transmit once the channel stayed quiet. -/
def CadExit.listensBeforeTalk : CadExit → Bool
  | .csLbt | .edLbt => true
  | .csOnly | .csRx | .edOnly | .edRx | .none => false

end Transceiver
