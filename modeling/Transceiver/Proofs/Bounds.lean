import Transceiver.Proofs.Capacity
import Transceiver.Proofs.Device
import Transceiver.Proofs.FrameImage
import Transceiver.Proofs.History

/-! Bounds of what is received. The receptions are written out again with a demand for room at each
command and at each use of the storage of the packet, and with a step `crash` that takes over where
a demand is not met. They do the same as the receptions that demand nothing, whatever `crash` is. -/

namespace Transceiver

/-- Bytes of the storage. -/
def RxPacket.room : Nat := ({} : RxPacket).storage.size

theorem RxPacket.toNat_le_room (n : UInt8) : n.toNat ≤ room := Nat.le_of_lt_succ n.toNat_lt

theorem Fsk.one_lt_headerLength : 1 < headerLength := by decide

namespace Rig

open Station Transceiver.Action

variable {σ : Type} (rig : Rig σ) (crash : Action (Station σ) Empty)

/-- Crash unless `p` holds. -/
def demand (p : Prop) [Decidable p] : Action (Station σ) Unit :=
  if p then pure () else Empty.elim <$> crash

/-- Give the chip a command, and crash if there is no room for it. -/
def tellOr (c : Command) : Action (Station σ) c.Reply := do
  match ← Action.attempt (rig.tell c) with
  | .error .noMemory => Empty.elim <$> crash
  | r => Action.settle r

/-- `fetchLora` with its demands. -/
def fetchLoraOr : Action (Station σ) Unit := do
  let buffer ← rig.tellOr crash .readRxBufferStatus
  demand crash (buffer.payloadLength.toNat ≤ RxPacket.room)
  let bytes ← rig.tellOr crash (.readBuffer buffer.startOffset buffer.payloadLength.toNat)
  update fun r => { r with
    packet := { r.packet.write 0 bytes.toList with payloadLength := buffer.payloadLength } }
  let raw ← rig.tellOr crash .readLoraQuality
  let gain := rig.config.lnaGain
  let rssi := raw.rssi - gain + if raw.snr < 0 then raw.snr.toInt16 else 0
  let crcPresent ← Action.reporting .generic (rig.tellOr crash .readLoraCrcFlag)
  update fun r => { r with
    packet := { r.packet with
      lora := { rssi, snr := raw.snr, signalRssi := raw.signalRssi - gain, crcPresent } } }

/-- `awaitHeader` with its demands. -/
def awaitHeaderOr : (n : Nat) → Action (Station σ) Unit
  | 0 => throw .busy
  | n + 1 => do
    let level ← rig.tellOr crash .readFskFillLevel
    if level < 2 then awaitHeaderOr n

/-- `syncFsk` with its demands. -/
def syncFskOr : Action (Station σ) Unit := do
  rig.awaitHeaderOr crash fillPolls
  let buffer ← rig.tellOr crash .readRxBufferStatus
  demand crash (Fsk.headerLength ≤ RxPacket.room)
  let header ← rig.tellOr crash (.readBuffer buffer.startOffset Fsk.headerLength)
  update fun r => { r with packet := r.packet.write 0 header.toList }
  rig.tellOr crash (.setFskPayloadLength (getElem header 1 Fsk.one_lt_headerLength + 2))
  demand crash (RxPacket.markerOffset + RxPacket.marker.length ≤ RxPacket.room)
  update fun r => { r with packet := r.packet.write RxPacket.markerOffset RxPacket.marker }

/-- `readPsdu` with its demands. -/
def readPsduOr (header : Fsk.Header) : Action (Station σ) (List UInt8) := .reporting .io do
  let buffer ← rig.tellOr crash .readRxBufferStatus
  demand crash (header.length.toNat ≤ RxPacket.room)
  let bytes ← rig.tellOr crash (.readBuffer (buffer.startOffset + 2) header.length.toNat)
  update fun r => { r with packet := r.packet.write 0 bytes.toList }
  return bytes.toList

/-- `Fsk.Header.check` with the demand that the check lies within the bytes behind the header. -/
def checkOr (header : Fsk.Header) (psdu : List UInt8) : Action (Station σ) Fsk.Checked := do
  if let some fcs := header.fcs? then
    if fcs.length < psdu.length then
      demand crash (fcs.length ≤ (header.plain psdu).length)
  return header.check psdu

/-- `fetchFrame` with its demands. -/
def fetchFrameOr (header : Fsk.Header) : Action (Station σ) (Except Fsk.Rejection Unit) := do
  let checked ← checkOr crash header (← rig.readPsduOr crash header)
  update fun r => { r with packet := r.packet.write 0 checked.psdu }
  match checked.outcome with
  | .error rejection => return .error rejection
  | .ok length =>
    let raw ← Action.reporting .io (rig.tellOr crash .readFskQuality)
    let gain := rig.config.lnaGain
    update fun r => { r with
      packet := { r.packet with
        payloadLength := UInt8.ofNat length
        fsk := { rssiSync := raw.rssiSync - gain, rssiAvg := raw.rssiAvg - gain } } }
    return .ok ()

/-- `fetchFsk` with its demands. -/
def fetchFskOr : Action (Station σ) (Except Fsk.Rejection Unit) := do
  demand crash (RxPacket.markerOffset + RxPacket.marker.length ≤ RxPacket.room)
  let packet := (← current).packet
  if ¬packet.Marked then return .error .unmarked
  update fun r => { r with
    packet := { r.packet.write RxPacket.markerOffset [0, 0] with payloadLength := 0 } }
  match checkHeader packet.header with
  | .error rejection => return .error rejection
  | .ok () => rig.fetchFrameOr crash packet.header

variable {rig crash}

/-! ## The demands are met -/

theorem demand_of {p : Prop} [Decidable p] (h : p) : demand crash p = pure () := if_pos h

theorem checkOr_eq (header : Fsk.Header) (psdu : List UInt8) :
    checkOr crash header psdu = pure (header.check psdu) := by
  unfold checkOr
  cases header.fcs? with
  | none => rfl
  | some fcs =>
    have hmet (h : fcs.length < psdu.length) : fcs.length ≤ (header.plain psdu).length := by
      rw [Fsk.Header.length_plain]
      exact Nat.le_of_lt h
    dsimp only
    split <;> rename_i h
    · rw [demand_of (hmet h), pure_bind]
    · rfl

section
variable (h : rig.HasRoom)
include h

theorem tellOr_eq {c : Command} (hc : c.Fits) : rig.tellOr crash c = rig.tell c := by
  refine ext_result fun s => ?_
  have hne : ((rig.tell c).result s).1 ≠ .error .noMemory := avoids_tell h hc s
  rw [tellOr, result_bind, result_attempt]
  rcases hr : (rig.tell c).result s with ⟨r, s'⟩
  rw [hr] at hne
  dsimp only
  split
  · exact absurd rfl hne
  · exact result_settle r s'

/-- A LoRa reception stays in bounds, however long the chip says the packet is. -/
theorem fetchLoraOr_eq : rig.fetchLoraOr crash = rig.fetchLora := by
  have hread (offset n : UInt8) :
      rig.tellOr crash (.readBuffer offset n.toNat) = rig.tell (.readBuffer offset n.toNat) :=
    tellOr_eq h (Command.fits_readBuffer offset n)
  simp only [fetchLoraOr, fetchLora, hread, tellOr_eq h (c := .readRxBufferStatus) trivial,
    tellOr_eq h (c := .readLoraQuality) trivial, tellOr_eq h (c := .readLoraCrcFlag) trivial,
    demand_of (RxPacket.toNat_le_room _), pure_bind]

theorem awaitHeaderOr_eq (n : Nat) : rig.awaitHeaderOr crash n = rig.awaitHeader n := by
  induction n with
  | zero => rfl
  | succ n ih =>
    simp only [awaitHeaderOr, awaitHeader, tellOr_eq h (c := .readFskFillLevel) trivial, ih]

/-- The sync step of an FSK reception stays in bounds. -/
theorem syncFskOr_eq : rig.syncFskOr crash = rig.syncFsk := by
  have hread (offset : UInt8) : rig.tellOr crash (.readBuffer offset Fsk.headerLength) =
      rig.tell (.readBuffer offset Fsk.headerLength) :=
    tellOr_eq h (Command.fits_readBuffer offset 2)
  have hlength (n : UInt8) :
      rig.tellOr crash (.setFskPayloadLength n) = rig.tell (.setFskPayloadLength n) :=
    tellOr_eq h trivial
  have hheader : Fsk.headerLength ≤ RxPacket.room := by decide
  have hmarker : RxPacket.markerOffset + RxPacket.marker.length ≤ RxPacket.room := by decide
  simp only [syncFskOr, syncFsk, awaitHeaderOr_eq h, hread, hlength,
    tellOr_eq h (c := .readRxBufferStatus) trivial, demand_of hheader, demand_of hmarker,
    pure_bind]

theorem readPsduOr_eq (header : Fsk.Header) :
    rig.readPsduOr crash header = rig.readPsdu header := by
  have hread (offset : UInt8) : rig.tellOr crash (.readBuffer offset header.length.toNat) =
      rig.tell (.readBuffer offset header.length.toNat) :=
    tellOr_eq h (Command.fits_readBuffer offset header.length)
  simp only [readPsduOr, readPsdu, hread, tellOr_eq h (c := .readRxBufferStatus) trivial,
    demand_of (RxPacket.toNat_le_room _), pure_bind]

theorem fetchFrameOr_eq (header : Fsk.Header) :
    rig.fetchFrameOr crash header = rig.fetchFrame header := by
  simp only [fetchFrameOr, readPsduOr_eq h, checkOr_eq,
    tellOr_eq h (c := .readFskQuality) trivial, pure_bind]
  rfl

/-- The fetch of an FSK packet stays in bounds, however long the header says it is. -/
theorem fetchFskOr_eq : rig.fetchFskOr crash = rig.fetchFsk := by
  have hmarker : RxPacket.markerOffset + RxPacket.marker.length ≤ RxPacket.room := by decide
  simp only [fetchFskOr, fetchFrameOr_eq h, demand_of hmarker, pure_bind]
  rfl

end

/-! ## Frames that are too long -/

/-- A frame that is too long is refused while no scan runs, before anything is done with it. -/
theorem result_setTxPayload_long {payload : List UInt8} {s : Station σ}
    (hlong : 262 < payload.length) (hstate : s.radio.state ≠ .scan)
    (hrefused : (rig.chip.perform (.writeBuffer 0 payload)).result s.world =
      (.error .noMemory, s.world)) :
    (rig.setTxPayload payload).result s = (.error .noMemory, s) := by
  have hne : payload ≠ [] := List.ne_nil_of_length_pos (by omega)
  have hidle : (ensureNotScanning (σ := σ)).result s = (.ok (), s) := by
    rw [ensureNotScanning, result_bind_ok rfl, if_neg hstate, result_pure]
  unfold setTxPayload
  rw [if_neg hne, result_bind_ok hidle, result_tell, hrefused]

theorem setTxPayload_scan_ne {payload : List UInt8} {s : Station σ}
    (hstate : s.radio.state = .scan) :
    ((rig.setTxPayload payload).result s).1 ≠ .error .noMemory := by
  have hbusy : (ensureNotScanning (σ := σ)).result s = (.error .busy, s) := by
    rw [ensureNotScanning, result_bind_ok rfl, if_pos hstate, result_throw]
  have hother {f : Fault} (h : f ≠ .noMemory) :
      (Except.error f : Except Fault Unit) ≠ .error .noMemory := fun he => h (Except.error.inj he)
  unfold setTxPayload
  split
  · exact hother (f := .invalidParams) (by decide)
  · rw [result_bind_error hbusy]
    exact hother (by decide)

end Rig

theorem Bus.Endpoint.result_send_long {σ : Type} (bus : Endpoint σ) {cmd data : List UInt8}
    (h : maxTransfer < cmd.length + data.length) (l : Link σ) :
    (bus.send cmd data).result l = (.error .noMemory, l) := by
  rw [send, if_pos h]
  exact Action.result_bind_error rfl

namespace Device

open Bus

variable {σ : Type} (device : Device σ) (host : Host σ) (config : Config)

theorem hasRoom : (device.recordedRig host config).HasRoom := by
  intro c hc
  cases device with
  | sx126x device => exact device.recording.avoids_perform hc
  | lr11xx device => exact device.recording.avoids_perform hc

theorem result_writeBuffer_long {payload : List UInt8} (h : 262 < payload.length)
    (l : Link (σ × List Signal)) :
    (device.recording.chip.perform (.writeBuffer 0 payload)).result l = (.error .noMemory, l) := by
  have hlong (a b : UInt8) : maxTransfer < [a, b].length + payload.length := by
    rw [maxTransfer, List.length_cons, List.length_singleton]
    omega
  cases device with
  | sx126x device => exact device.recording.bus.result_send_long (hlong _ _) l
  | lr11xx device => exact device.recording.bus.result_send_long (hlong _ _) l

/-- Whatever the station, an operation runs out of room if and only if it is given a frame of more
than 262 bytes while no scan runs. Nothing happens then. No step of a reception runs out of room or
out of the storage of the packet. -/
theorem noMemory_iff (s : Station (Link (σ × List Signal))) (op : Operation) :
    let rig := device.recordedRig host config
    ((rig.turn s op).outcome = .error .noMemory ↔ op.Oversized ∧ s.radio.state ≠ .scan) ∧
    ((rig.turn s op).outcome = .error .noMemory → rig.step s op = s) ∧
    (rig.fetchLora.Avoids .noMemory ∧ rig.syncFsk.Avoids .noMemory ∧
      rig.fetchFsk.Avoids .noMemory) ∧
    ∀ crash, rig.fetchLoraOr crash = rig.fetchLora ∧ rig.syncFskOr crash = rig.syncFsk ∧
      rig.fetchFskOr crash = rig.fetchFsk := by
  intro rig
  have hroom : rig.HasRoom := device.hasRoom host config
  have hrefused (h : op.Oversized ∧ s.radio.state ≠ .scan) :
      (rig.perform op).result s = (.error .noMemory, s) := by
    cases op with
    | setTxPayload payload =>
      exact Rig.result_setTxPayload_long h.1 h.2 (device.result_writeBuffer_long h.1 s.world)
    | _ => exact h.1.elim
  have hiff : (rig.turn s op).outcome = .error .noMemory ↔
      op.Oversized ∧ s.radio.state ≠ .scan := by
    rw [Rig.turn_outcome]
    refine ⟨fun hout => ?_, fun h => congrArg Prod.fst (hrefused h)⟩
    have hlong : op.Oversized := Classical.byContradiction fun hop =>
      Rig.avoids_perform hroom hop s hout
    cases op with
    | setTxPayload payload => exact ⟨hlong, fun hscan => Rig.setTxPayload_scan_ne hscan hout⟩
    | _ => exact hlong.elim
  refine ⟨hiff, fun hout => ?_, ?_, fun crash => ?_⟩
  · rw [Rig.step_eq_result, hrefused (hiff.mp hout)]
  · exact ⟨Rig.avoids_fetchLora hroom, Rig.avoids_syncFsk hroom, Rig.avoids_fetchFsk⟩
  · exact ⟨Rig.fetchLoraOr_eq hroom, Rig.syncFskOr_eq hroom, Rig.fetchFskOr_eq hroom⟩

end Device

end Transceiver
