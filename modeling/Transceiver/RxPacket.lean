/-! The record of the last reception. -/

namespace Transceiver

/-- Quality of a received LoRa packet, corrected by the gain of the receive path. -/
structure Lora.Quality where
  /-- Packet RSSI, dBm, lowered by a negative signal-to-noise ratio. -/
  rssi : Int16 := 0
  /-- Signal-to-noise ratio, dB. -/
  snr : Int8 := 0
  /-- RSSI of the despread signal, dBm. -/
  signalRssi : Int16 := 0
  /-- The header declared a payload checksum. -/
  crcPresent : Bool := false
  deriving DecidableEq

/-- Quality of a received FSK packet, corrected by the gain of the receive path. -/
structure Fsk.Quality where
  /-- RSSI when the sync word was found, dBm. -/
  rssiSync : Int16 := 0
  /-- Average RSSI, dBm. -/
  rssiAvg : Int16 := 0
  /-- Always zero, since FSK measures no signal-to-noise ratio. -/
  snr : Int8 := 0
  deriving DecidableEq

/-- What the last reception left. -/
structure RxPacket where
  /-- Room for the longest payload; the FSK sync step also takes notes in it. -/
  storage : Vector UInt8 255 := .replicate 255 0
  payloadLength : UInt8 := 0
  lora : Lora.Quality := {}
  fsk : Fsk.Quality := {}
  /-- Clock reading when the receive-done interrupt was served, microseconds. -/
  receivedAt : UInt64 := 0
  deriving DecidableEq

namespace RxPacket

/-- The bytes received. -/
def payload (p : RxPacket) : List UInt8 := p.storage.toList.take p.payloadLength.toNat

/-- Overwrite the storage from `start` on; bytes past its end are dropped. -/
def write (p : RxPacket) (start : Nat) (bytes : List UInt8) : RxPacket :=
  { p with storage := .ofFn fun i =>
      if start ≤ i then bytes[i.val - start]?.getD p.storage[i] else p.storage[i] }

end RxPacket

end Transceiver
