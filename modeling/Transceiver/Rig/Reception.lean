import Transceiver.Rig.Basic
import Transceiver.Fsk.Frame

/-! Fetching a received packet from the chip. LoRa packets are fetched in one go. FSK packets take
two steps: when the sync word is found, the chip is told the length that the header announces, and
a marker is left in the record; when the packet is complete, it is fetched if the marker is
there. -/

namespace Transceiver

namespace RxPacket

/-- Where the marker stands in the storage of the record. -/
def markerOffset : Nat := 2

/-- The marker that a successful sync step leaves. -/
def marker : List UInt8 := [0xAB, 0xBA]

/-- The marker is there. -/
def Marked (p : RxPacket) : Prop := (p.storage.toList.drop markerOffset).take 2 = marker

instance (p : RxPacket) : Decidable p.Marked := inferInstanceAs (Decidable (_ = _))

/-- The header that the sync step read. -/
def header (p : RxPacket) : Fsk.Header := ⟨p.storage[0], p.storage[1]⟩

end RxPacket

namespace Rig

open Station

variable {σ : Type} (rig : Rig σ)

/-- Fetch a LoRa packet. The RSSI saturates before the signal-to-noise ratio does, so a negative
ratio is added to the packet's RSSI. -/
def fetchLora : Action (Station σ) Unit := do
  let buffer ← rig.tell .readRxBufferStatus
  let bytes ← rig.tell (.readBuffer buffer.startOffset buffer.payloadLength.toNat)
  update fun r => { r with
    packet := { r.packet.write 0 bytes.toList with payloadLength := buffer.payloadLength } }
  let raw ← rig.tell .readLoraQuality
  let gain := rig.config.lnaGain
  let rssi := raw.rssi - gain + if raw.snr < 0 then raw.snr.toInt16 else 0
  let crcPresent ← Action.reporting .generic (rig.tell .readLoraCrcFlag)
  update fun r => { r with
    packet := { r.packet with
      lora := { rssi, snr := raw.snr, signalRssi := raw.signalRssi - gain, crcPresent } } }

/-- Readings of the fill level within which the header has to be there. -/
def fillPolls : Nat := 1000

/-- Wait for the header of an FSK packet, at most `n` readings of the fill level. -/
def awaitHeader : (n : Nat) → Action (Station σ) Unit
  | 0 => throw .busy
  | n + 1 => do
    let level ← rig.tell .readFskFillLevel
    if level < 2 then awaitHeader n

/-- Read the header of the FSK packet being received, tell the chip how long the packet is, and
leave the marker. -/
def syncFsk : Action (Station σ) Unit := do
  rig.awaitHeader fillPolls
  let buffer ← rig.tell .readRxBufferStatus
  let header ← rig.tell (.readBuffer buffer.startOffset Fsk.headerLength)
  update fun r => { r with packet := r.packet.write 0 header.toList }
  rig.tell (.setFskPayloadLength (header[1] + 2))
  update fun r => { r with packet := r.packet.write RxPacket.markerOffset RxPacket.marker }

/-- Read what follows the header of an FSK packet, as long as the header says. A chip that cannot
be read is reported as a failed transfer. -/
def readPsdu (header : Fsk.Header) : Action (Station σ) (List UInt8) := .reporting .io do
  let buffer ← rig.tell .readRxBufferStatus
  let bytes ← rig.tell (.readBuffer (buffer.startOffset + 2) header.length.toNat)
  update fun r => { r with packet := r.packet.write 0 bytes.toList }
  return bytes.toList

/-- Refuse a header that names no known checksum, or that leaves no room for a payload. -/
def checkHeader (header : Fsk.Header) : Except Fsk.Rejection Unit :=
  match header.fcs? with
  | none => .error .unknownFcs
  | some fcs => if header.length.toNat ≤ fcs.length then .error .badLength else .ok ()

/-- Fetch what follows the header of an FSK packet, check it, and note how well it was received.
The bytes stay in the record even if the check rejects them. -/
def fetchFrame (header : Fsk.Header) : Action (Station σ) (Except Fsk.Rejection Unit) := do
  let checked := header.check (← rig.readPsdu header)
  update fun r => { r with packet := r.packet.write 0 checked.psdu }
  match checked.outcome with
  | .error rejection => return .error rejection
  | .ok length =>
    let raw ← Action.reporting .io (rig.tell .readFskQuality)
    let gain := rig.config.lnaGain
    update fun r => { r with
      packet := { r.packet with
        payloadLength := UInt8.ofNat length
        fsk := { rssiSync := raw.rssiSync - gain, rssiAvg := raw.rssiAvg - gain } } }
    return .ok ()

/-- Fetch an FSK packet whose sync step left the marker, or say why it is rejected. -/
def fetchFsk : Action (Station σ) (Except Fsk.Rejection Unit) := do
  let packet := (← current).packet
  if ¬packet.Marked then return .error .unmarked
  update fun r => { r with
    packet := { r.packet.write RxPacket.markerOffset [0, 0] with payloadLength := 0 } }
  match checkHeader packet.header with
  | .error rejection => return .error rejection
  | .ok () => rig.fetchFrame packet.header

end Rig

end Transceiver
