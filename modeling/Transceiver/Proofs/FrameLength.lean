import Transceiver.Proofs.CyclicCode
import Transceiver.Proofs.FrameImage
import Transceiver.Proofs.FskReception

/-! The length of an FSK packet that is being received. The sync step tells it to the chip, in the
eight bits that the chip takes, and the fetch takes the packet apart by the header that the sync
step left. The two agree on every frame that a sender can prepare. A header can announce two lengths
more, and for these the length that the chip is told wraps around. -/

namespace Transceiver

theorem RxPacket.header_eq_of_storage {p p' : RxPacket} (h : p'.storage = p.storage) :
    p'.header = p.header := by
  rw [header, header, h]

/-- The header that the sync step read stays in front of the marker. -/
theorem RxPacket.header_write_read (p : RxPacket) (read : Vector UInt8 2) :
    ((p.write 0 read.toList).write markerOffset marker).header = ⟨read.get 0, read.get 1⟩ := by
  have hbytes : read.toList = [read.get 0, read.get 1] := by
    refine List.ext_getElem read.length_toList fun i hi _ => ?_
    obtain rfl | rfl : i = 0 ∨ i = 1 := by
      rw [read.length_toList] at hi
      omega
    · rfl
    · rfl
  rw [hbytes]
  exact header_write_marker p ⟨read.get 0, read.get 1⟩

/-- The chip on the bench holds what the ring has room for. -/
theorem Bench.holds {b : Bench} (h : b.bytes.length ≤ 256) : b.reception.Holds b.bytes := by
  intro i hi
  have hring : ((b.reception.start.toNat + i) % 256 % 256 +
      (256 - b.received.startOffset.toNat)) % 256 = i := by
    have hstart := b.received.startOffset.toNat_lt
    show ((b.received.startOffset.toNat + i) % 256 % 256 + _) % 256 = i
    omega
  show b.bytes[_]?.getD 0 = _
  rw [hring, List.getElem?_eq_getElem hi, Option.getD_some]

namespace Rig

open Station Transceiver.Action

variable {σ : Type} {rig : Rig σ} {s : Station (σ × List Exchange)}

/-! ## What the two steps do with the length -/

/-- A sync step that succeeds has told the chip the length that follows from the header it left. -/
theorem ends_syncFsk_told : rig.recording.syncFsk.Ends s fun r s' =>
    r.isOk = true → ∀ meant, s'.log = s.log ++ meant →
      (meant.filterMap Exchange.given?).filter Command.isSetLength =
        [.setFskPayloadLength (s'.radio.packet.header.length + 2)] := by
  have hwait : Recorded rig (· = .readFskFillLevel) [] (rig.recording.awaitHeader fillPolls)
      (rig.awaitHeader fillPolls) := recorded_awaitHeader _ rfl
  refine ends_bind.mpr <| (hwait.ends s).mono ?_
  rintro r s₁ ⟨⟨polls, hlog, hpolls⟩, -⟩
  rcases r with e | ⟨⟩
  · exact nofun
  refine ends_tell_bind (fun _ _ => nofun) fun buffer w =>
    ends_tell_bind (fun _ _ => nofun) fun read w => ends_bind.mpr <| ends_update.mpr <|
      ends_tell_bind (fun _ _ => nofun) fun _ w => ends_update.mpr fun _ meant hmeant => ?_
  have hpolled : (polls.filterMap Exchange.given?).filter Command.isSetLength = [] := by
    refine List.filter_eq_nil_iff.mpr fun c hc => ?_
    rw [gives_of_mem_given hpolls hc]
    exact nofun
  have hleft : ((s₁.radio.packet.write 0 read.toList).write RxPacket.markerOffset
      RxPacket.marker).header = ⟨read[0], read[1]⟩ := RxPacket.header_write_read _ read
  obtain rfl : meant = polls ++ [.command .readRxBufferStatus (.ok buffer),
      .command (.readBuffer buffer.startOffset Fsk.headerLength) (.ok read),
      .command (.setFskPayloadLength (read[1] + 2)) (.ok ())] := by
    refine List.append_cancel_left (hmeant.symm.trans ?_)
    show s₁.log ++ _ ++ _ ++ _ = _
    rw [hlog]
    simp only [List.append_assoc]
    rfl
  show _ = [Command.setFskPayloadLength (((s₁.radio.packet.write 0 read.toList).write
    RxPacket.markerOffset RxPacket.marker).header.length + 2)]
  rw [List.filterMap_append, List.filter_append, hpolled, hleft]
  rfl

theorem ends_act_sync_told : (rig.recording.act .sync).Ends s fun _ s' =>
    ∀ meant, s'.log = s.log ++ meant → SetsLength meant →
      (meant.filterMap Exchange.given?).filter Command.isSetLength =
        [.setFskPayloadLength (s'.radio.packet.header.length + 2)] := by
  refine ends_bind.mpr <| ends_discard.mpr <| ends_attempt.mpr ?_
  have hsync : rig.recording.syncFsk.Ends s _ := ends_syncFsk
  have htold : rig.recording.syncFsk.Ends s _ := ends_syncFsk_told
  obtain ⟨meant, hmeant, hsyncs⟩ := hsync
  intro meant' hlog hset
  obtain rfl := List.append_cancel_left (hmeant.symm.trans hlog)
  exact htold (hsyncs.sets.mp hset) _ hlog

theorem ends_readPsdu_length {header : Fsk.Header} :
    (rig.recording.readPsdu header).Ends s fun r _ =>
      ∀ psdu, r = .ok psdu → psdu.length = header.length.toNat := by
  refine ends_reporting.mpr <| ends_tell_bind (fun _ _ => nofun) fun buffer w =>
    ends_tell_bind (fun _ _ => nofun) fun read w => ends_bind.mpr <| ends_update.mpr ?_
  rintro psdu ⟨⟩
  exact read.length_toList

/-- Bytes whose check is right are as many as the payload and the check together. -/
theorem length_of_outcome_ok {header : Fsk.Header} {psdu : List UInt8} {n : Nat}
    (h : (header.check psdu).outcome = .ok n) :
    ∃ fcs, header.fcs? = some fcs ∧ n + fcs.length = psdu.length := by
  obtain ⟨-, hcheck⟩ | ⟨fcs, hfcs, ⟨-, hcheck⟩ | ⟨hlong, -⟩⟩ := header.check_cases psdu
  · simp [hcheck] at h
  · simp [hcheck] at h
  · rw [Fsk.Header.check_of_long hfcs hlong] at h
    split at h
    · cases h
      exact ⟨fcs, hfcs, Nat.sub_add_cancel (Nat.le_of_lt hlong)⟩
    · cases h

/-- A fetch that succeeds delivers what the check leaves of the bytes that were announced. -/
theorem ends_fetchFsk_length : rig.recording.fetchFsk.Ends s fun r s' => r = .ok (.ok ()) →
    ∃ fcs, s.radio.packet.header.fcs? = some fcs ∧
      s'.radio.packet.payloadLength.toNat + fcs.length = s.radio.packet.header.length.toNat := by
  refine ends_bind.mpr <| ends_current.mpr <| ends_ite.mpr ?_
  split
  · exact nofun
  refine ends_bind.mpr <| ends_update.mpr ?_
  dsimp only
  cases checkHeader s.radio.packet.header with
  | error rejection => exact nofun
  | ok =>
    refine ends_bind.mpr <| ends_readPsdu_length.mono fun r s₁ hlength => ?_
    rcases r with e | psdu
    · exact nofun
    have hlength := hlength psdu rfl
    refine ends_bind.mpr <| ends_update.mpr ?_
    dsimp only
    cases hcheck : (s.radio.packet.header.check psdu).outcome with
    | error rejection => exact nofun
    | ok n =>
      refine ends_bind.mpr <| ends_reporting.mpr <| ends_recording_tell fun r w => ?_
      cases r with
      | error e => exact nofun
      | ok raw =>
        obtain ⟨fcs, hfcs, hn⟩ := length_of_outcome_ok hcheck
        refine ends_bind.mpr <| ends_update.mpr fun _ => ⟨fcs, hfcs, ?_⟩
        have hshort : n < 256 := by
          have := s.radio.packet.header.length.toNat_lt
          omega
        show (UInt8.ofNat n).toNat + fcs.length = _
        rw [UInt8.toNat_ofNat_of_lt' hshort, hn, hlength]

theorem ends_act_packet_length : (rig.recording.act (.packet .fsk)).Ends s fun r s' =>
    r = .ok (some .rxDone) → ∃ fcs, s.radio.packet.header.fcs? = some fcs ∧
      s'.radio.packet.payloadLength.toNat + fcs.length = s.radio.packet.header.length.toNat := by
  refine ends_bind.mpr <| ends_attempt.mpr <| ends_fetchFsk_length.mono fun r s' hfetched => ?_
  rcases r with e | rejection | ⟨⟩
  · exact nofun
  · exact nofun
  · exact ends_bind.mpr <| ends_update.mpr fun _ => hfetched rfl

end Rig

/-- The sync word of a packet was found, or a packet is complete. -/
def Meaning.isPacket : Meaning → Bool
  | .sync | .packet _ => true
  | .event _ | .nothing | .quiet _ | .detected | .preamble => false

namespace Turn

/-- The turn served the sync word or the end of a packet. -/
def ServesPacket (t : Turn) : Prop := ∃ m ∈ t.meaning?, m.isPacket

instance (t : Turn) : Decidable t.ServesPacket :=
  inferInstanceAs (Decidable (∃ m ∈ t.meaning?, _))

end Turn

namespace Rig

open Station Transceiver.Action

variable {σ : Type} {rig : Rig σ} {s : Station σ}

/-! ## What the turns do with the length -/

theorem turn_sync_told (hsync : (rig.turn s .processInterrupt).meaning? = some .sync)
    (hannounces : (rig.turn s .processInterrupt).AnnouncesLength) :
    (rig.turn s .processInterrupt).given.filter Command.isSetLength = [.setFskPayloadLength
      ((rig.turn s .processInterrupt).after.packet.header.length + 2)] := by
  obtain ⟨status, hstatus, hmeaning⟩ := Option.map_eq_some_iff.mp hsync
  obtain ⟨s₁, found, s₂, meant, hserves⟩ := serves_of_status hstatus
  have hset : SetsLength meant := hserves.announcesLength_iff.mp hannounces
  have htold := hserves.of_ends (hmeaning ▸ ends_act_sync_told)
  rw [hserves.filter_given fun _ => not_isService_of_isSetLength, htold meant hserves.log hset,
    hserves.after]

theorem turn_packet_length (hfetches : (rig.turn s .processInterrupt).Fetches)
    (hevents : (rig.turn s .processInterrupt).events = [.rxDone]) :
    ∃ fcs, s.radio.packet.header.fcs? = some fcs ∧
      (rig.turn s .processInterrupt).after.packet.payloadLength.toNat + fcs.length =
        s.radio.packet.header.length.toNat := by
  obtain ⟨status, hstatus, hmeaning⟩ := Option.map_eq_some_iff.mp hfetches
  obtain ⟨s₁, found, s₂, meant, hserves⟩ := serves_of_status hstatus
  obtain ⟨time, hradio⟩ := hserves.radio
  have hheader : s₁.radio.packet.header = s.radio.packet.header := by
    rw [hradio]
    rfl
  have hfound : found = .ok (some .rxDone) := by
    have hannounced := hserves.events.symm.trans hevents
    rcases found with e | _ | event
    · cases hannounced
    · cases hannounced
    · rw [announced, List.singleton_inj] at hannounced
      rw [hannounced]
  have hlength := hserves.of_ends (hmeaning ▸ ends_act_packet_length)
  rw [← hheader, hserves.after]
  exact hlength hfound

/-- Only the turns that serve the sync word or the end of a packet touch the bytes. -/
theorem turn_keeps_storage {op : Operation} (h : ¬(rig.turn s op).ServesPacket) :
    (rig.step s op).radio.packet.storage = s.radio.packet.storage := by
  have kept (hop : .storage ∉ op.parts) :
      (rig.turn s op).after.packet.storage = s.radio.packet.storage := turn_within.2 .storage hop
  rw [← turn_after]
  cases op with
  | processInterrupt =>
    rcases processInterrupt_cases rig s with hnothing | ⟨status, s₁, found, s₂, meant, hserves⟩
    · rw [hnothing.after]
      rfl
    obtain ⟨time, hradio⟩ := hserves.radio
    have hmeaning : ¬(Meaning.of s.radio status).isPacket := by
      rw [Turn.ServesPacket, Turn.meaning?, hserves.reads] at h
      exact fun hpacket => h ⟨_, rfl, hpacket⟩
    have hkept := hserves.of_ends <| act_keeps_storage (fun hsync => hmeaning (hsync ▸ rfl))
      fun m hpacket => hmeaning (hpacket ▸ rfl)
    rw [hserves.after, hkept, hradio]
    rfl
  | _ => exact kept (by simp [Operation.parts])

theorem run_keeps_storage {ops : List Operation} (h : ∀ t ∈ rig.history s ops, ¬t.ServesPacket) :
    (rig.run s ops).radio.packet.storage = s.radio.packet.storage := by
  induction ops generalizing s with
  | nil => rfl
  | cons op ops ih =>
    obtain ⟨hfirst, hrest⟩ := List.forall_mem_cons.mp h
    exact (ih hrest).trans (turn_keeps_storage hfirst)

/-- **The chip is told the length of what is delivered, in eight bits.** When the fetch after a sync
step that succeeded delivers a packet, the length that the chip was told is that of the whole frame
cut down to a byte. It is the length of the frame itself exactly if the chip's buffer holds it. -/
theorem told_length_eq_iff_fits (rig : Rig σ) (s : Station σ) (between : List Operation) :
    let first := rig.turn s .processInterrupt
    let second := rig.turn (rig.run (rig.step s .processInterrupt) between) .processInterrupt
    first.meaning? = some .sync → first.AnnouncesLength →
    (∀ t ∈ rig.history (rig.step s .processInterrupt) between, ¬t.ServesPacket) →
    second.Fetches → second.events = [.rxDone] →
    ∃ fcs length, first.after.packet.header.fcs? = some fcs ∧
      first.given.filter Command.isSetLength = [.setFskPayloadLength length] ∧
      let frame := Fsk.headerLength + (second.after.packet.payloadLength.toNat + fcs.length)
      length.toNat = frame % 256 ∧ (length.toNat = frame ↔ frame ≤ Fsk.maxFrameLength) := by
  intro first second hsync hannounces hbetween hfetches hevents
  obtain ⟨fcs, hfcs, hlength⟩ := turn_packet_length hfetches hevents
  -- nothing in between has touched the bytes, so the fetch goes by the header that the sync step left
  have hheader : (rig.run (rig.step s .processInterrupt) between).radio.packet.header =
      first.after.packet.header := by
    rw [RxPacket.header_eq_of_storage (run_keeps_storage hbetween), turn_after]
  rw [hheader] at hfcs hlength
  refine ⟨fcs, _, hfcs, turn_sync_told hsync hannounces, ?_⟩
  have htold : (first.after.packet.header.length + 2).toNat =
      (Fsk.headerLength + (second.after.packet.payloadLength.toNat + fcs.length)) % 256 := by
    rw [UInt8.toNat_add, hlength, Nat.add_comm]
    rfl
  refine ⟨htold, ?_⟩
  have hshort := Nat.mod_lt (Fsk.headerLength + (second.after.packet.payloadLength.toNat + fcs.length))
    (show 0 < 256 by decide)
  rw [htold, Fsk.maxFrameLength]
  constructor
  · omega
  · exact fun h => Nat.mod_eq_of_lt (by omega)

/-- A whitened frame of seven bytes; the application asks for the RSSI while it arrives. -/
theorem told_length_eq_iff_fits_whitened :
    let rig := Bench.rig { bytes := [24, 5, 14, 114, 176, 14, 114] }
    let s : Station (List InterruptSet) :=
      ⟨{ modem := .fsk, state := .rx }, [{.syncWordValid}, {.rxDone}]⟩
    (rig.turn s .processInterrupt).given.filter Command.isSetLength = [.setFskPayloadLength 7] ∧
      (rig.turn (rig.run (rig.step s .processInterrupt) [.rssi])
        .processInterrupt).after.packet.payloadLength = 3 ∧
      ((7 : UInt8).toNat = 2 + (3 + 2) ↔ 2 + (3 + 2) ≤ Fsk.maxFrameLength) := by
  intro rig s
  obtain ⟨fcs, length, hfcs, htold, hframe, hfits⟩ := told_length_eq_iff_fits rig s [.rssi]
    (by decide +kernel) (by decide +kernel) (by decide +kernel) (by decide +kernel)
    (by decide +kernel)
  have hseven : (rig.turn s .processInterrupt).given.filter Command.isSetLength =
      [.setFskPayloadLength 7] := by decide +kernel
  have hcrc16 : (rig.turn s .processInterrupt).after.packet.header.fcs? = some .crc16 := by
    decide +kernel
  have hthree : (rig.turn (rig.run (rig.step s .processInterrupt) [.rssi])
      .processInterrupt).after.packet.payloadLength = 3 := by decide +kernel
  obtain rfl := Option.some.inj (hfcs.symm.trans hcrc16)
  cases htold.symm.trans hseven
  rw [hthree] at hfits
  exact ⟨hseven, hthree, hfits⟩

theorem encode_zeros (n : Nat) : Fsk.FrameOptions.encode ⟨.crc16, false, false⟩ (.replicate n 0) =
    .replicate (n + 2) 0 := by
  have hcheck : Fsk.CyclicCode.xmodem.checksum (.replicate n 0) = 0#16 :=
    Fsk.CyclicCode.checksum_zeros rfl n
  show _ ++ BigEndian.bytes16 (Fsk.crc16 _) = _
  rw [Fsk.crc16, hcheck, ← List.replicate_append_replicate]
  rfl

/-- A frame whose header announces one byte more than the chip's buffer has room for, and whose
bytes are zeros. The packet is delivered all the same, after the chip was told to wait for no byte
at all. -/
theorem told_length_wraps :
    let rig := Bench.rig { bytes := 0x10 :: 254 :: .replicate 254 0 }
    let s : Station (List InterruptSet) :=
      ⟨{ modem := .fsk, state := .rx }, [{.syncWordValid}, {.rxDone}]⟩
    let first := rig.turn s .processInterrupt
    let second := rig.turn (rig.step s .processInterrupt) .processInterrupt
    first.meaning? = some .sync ∧ first.AnnouncesLength ∧ second.Fetches ∧
      second.events = [.rxDone] ∧ second.after.packet.payloadLength = 252 ∧
      first.after.packet.header.fcs? = some .crc16 ∧
      first.given.filter Command.isSetLength = [.setFskPayloadLength 0] ∧
      (0 : UInt8).toNat ≠ Fsk.headerLength + (252 + Fsk.Fcs.length .crc16) := by
  intro rig s first second
  -- The fetch reads 254 bytes, too many to run: what a reception leaves is proved for any bytes.
  have hreceives : rig.Receives (Bench.reception { bytes := 0x10 :: 254 :: .replicate 254 0 })
      (Fsk.Header.kind ⟨0x10, 254⟩ :: Fsk.Header.length ⟨0x10, 254⟩ :: .replicate 254 0) := by
    refine Bench.receives (Bench.holds (Nat.le_of_eq ?_))
    rw [List.length_cons, List.length_cons, List.length_replicate]
  have hsync : first.status? = some {.syncWordValid} := by decide +kernel
  have hworld : (rig.step s .processInterrupt).world = [{.rxDone}] := by decide +kernel
  have hstate : (rig.step s .processInterrupt).radio.state ≠ .scan := by decide +kernel
  have hdone : second.status? = some {.rxDone} := by
    have hdisarmed : (rig.chip.perform (.armInterrupts ∅)).result
        (rig.step s .processInterrupt).world = (.ok (), [{.rxDone}]) := by
      rw [hworld]
      rfl
    exact turn_status hstate hdisarmed rfl
  obtain ⟨-, htold, hmodem, left, hleft⟩ :=
    turn_sync_received hreceives rfl hsync
  rw [turn_after] at hmodem
  have hheader : first.after.packet.header = ⟨0x10, 254⟩ := by
    rw [hleft]
    exact RxPacket.header_write_marker ..
  have hexpects : (rig.step s .processInterrupt).radio.packet.Expects (.replicate 254 0)
      (.replicate 252 0 ++ Fsk.Fcs.checkBytes .crc16 (.replicate 252 0)) 252 := by
    have hpacket : (rig.step s .processInterrupt).radio.packet = first.after.packet := by
      rw [turn_after]
    constructor
    case marked =>
      rw [hpacket, hleft]
      exact RxPacket.marked_write_marker _
    case accepts =>
      rw [hpacket, hheader]
      rfl
    case length =>
      rw [hpacket, hheader]
      exact List.length_replicate
    case check =>
      have hpayload : List.replicate 252 (0 : UInt8) ≠ [] :=
        List.ne_nil_of_length_pos (List.length_replicate.symm ▸ by decide)
      have hcheck := Fsk.FrameOptions.check_encode ⟨.crc16, false, false⟩ 254 hpayload
      rw [encode_zeros, List.length_replicate] at hcheck
      rw [hpacket, hheader]
      exact hcheck
  obtain ⟨hevents, -, packet, hafter⟩ := turn_packet_received hexpects
    (by rw [← turn_after, hheader]; exact hreceives) hmodem hdone
  have hfetches : second.Fetches := by
    rw [Turn.Fetches, Turn.meaning?, hdone]
    exact congrArg some (Meaning.of_rxDone hmodem)
  refine ⟨by decide +kernel, by decide +kernel, hfetches, hevents, ?_, ?_, htold, by decide⟩
  · rw [hafter]
    rfl
  · rw [hheader]
    rfl

end Rig

end Transceiver
