import Transceiver.Proofs.Bench
import Transceiver.Proofs.Frame
import Transceiver.Proofs.SyncMarker

/-! The reception of an FSK packet, from the frame that a sender prepared to the payload on record.
Two dispatches take part. The first reads the header and tells the chip how long the packet is, the
second reads what follows the header; what the first leaves for the second stands in the storage of
the packet. -/

namespace Transceiver

/-- The bytes that were written last to the start of the storage. -/
theorem RxPacket.take_write (p : RxPacket) {bytes : List UInt8} {n : Nat} (hn : n ≤ bytes.length)
    (hroom : n ≤ 255) : (p.write 0 bytes).storage.toList.take n = bytes.take n := by
  refine List.ext_getElem (by simp [hn, hroom]) fun i hi hi' => ?_
  have hlt : i < bytes.length := by
    rw [List.length_take] at hi'
    omega
  simp [getElem_write, hlt]

/-- The marker stands behind the header. -/
theorem RxPacket.header_write_marker (p : RxPacket) (header : Fsk.Header) :
    ((p.write 0 [header.kind, header.length]).write markerOffset marker).header = header := by
  simp [RxPacket.header, getElem_write, markerOffset]

/-- The record is ready for the fetch of a frame: what follows the header is `psdu`, and the check
will find a payload of `n` bytes at the start of `plain`. -/
structure RxPacket.Expects (p : RxPacket) (psdu plain : List UInt8) (n : Nat) : Prop where
  marked : p.Marked
  accepts : Rig.checkHeader p.header = .ok ()
  length : psdu.length = p.header.length.toNat
  check : p.header.check psdu = ⟨plain, .ok n⟩

/-- What the chip holds of a packet that was received. -/
structure Reception where
  /-- Where the packet starts in the chip's buffer. -/
  start : UInt8
  /-- The bytes of the buffer, which is a ring: only those below 256 are there. -/
  byte : Nat → UInt8
  quality : Fsk.RawQuality

namespace Reception

variable (q : Reception)

/-- The answers of a chip that holds the packet. -/
def Answers : (c : Command) → c.Reply → Prop
  | .readRxBufferStatus, buffer => buffer.startOffset = q.start
  | .readBuffer offset n, bytes =>
    ∀ i (h : i < n), bytes[i] = q.byte ((offset.toNat + i) % 256)
  | .readFskQuality, raw => raw = q.quality
  | _, _ => True

/-- The buffer holds the bytes, from the start of the packet on. -/
def Holds (bytes : List UInt8) : Prop :=
  ∀ i (h : i < bytes.length), q.byte ((q.start.toNat + i) % 256) = bytes[i]

/-- The RSSI can still be represented once the gain of the receive path is taken off. -/
def Fits (gain : Int16) : Prop :=
  ∀ rssi ∈ [q.quality.rssiSync, q.quality.rssiAvg],
    -0x8000 ≤ rssi.toInt - gain.toInt ∧ rssi.toInt - gain.toInt < 0x8000

/-- The record of the packet, whose payload is the first `n` bytes of `plain`. -/
def record (gain : Int16) (p : RxPacket) (plain : List UInt8) (n : Nat) : RxPacket :=
  { p.write 0 plain with
    payloadLength := UInt8.ofNat n
    lora := {}
    fsk := { rssiSync := q.quality.rssiSync - gain, rssiAvg := q.quality.rssiAvg - gain } }

instance (bytes : List UInt8) : Decidable (q.Holds bytes) :=
  inferInstanceAs (Decidable (∀ i h, _ = bytes[i]))

instance (gain : Int16) : Decidable (q.Fits gain) := List.decidableBAll _ _

/-- Where the gain can be taken off, it is taken off exactly. -/
theorem Fits.toInt_sub {q : Reception} {gain rssi : Int16} (h : q.Fits gain)
    (hrssi : rssi ∈ [q.quality.rssiSync, q.quality.rssiAvg]) :
    (rssi - gain).toInt = rssi.toInt - gain.toInt := by
  obtain ⟨hlow, hhigh⟩ := h rssi hrssi
  rw [Int16.toInt_sub]
  exact Int.bmod_eq_of_le (by omega) (by omega)

end Reception

namespace Rig

open Station Transceiver.Action

variable {σ : Type} {rig : Rig σ} {q : Reception} {s : Station (σ × List Exchange)}

/-- The chip takes every command, and answers as `P` says. -/
def Answers (rig : Rig σ) (P : (c : Command) → c.Reply → Prop) : Prop :=
  ∀ c w, ∃ a, ((rig.chip.perform c).result w).1 = .ok a ∧ P c a

/-- One of the next `n` readings of the fill level shows that the header is there. -/
def FillsWithin (rig : Rig σ) : (n : Nat) → (w : σ) → Prop
  | 0, _ => False
  | n + 1, w =>
    (∃ level, ((rig.chip.perform .readFskFillLevel).result w).1 = .ok level ∧ 2 ≤ level) ∨
      rig.FillsWithin n ((rig.chip.perform .readFskFillLevel).result w).2

/-- In each of the worlds that it may be in, the chip holds a frame and takes every command. -/
structure Receives (rig : Rig σ) (q : Reception) (frame : List UInt8) : Prop where
  answers : rig.Answers q.Answers
  fills : ∀ w, rig.FillsWithin 1000 w
  holds : q.Holds frame

/-- Two turns delivered a payload, and told the chip once how long the packet is. -/
structure Delivers (rig : Rig σ) (q : Reception) (payload : List UInt8) (length : UInt8)
    (first second : Turn) : Prop where
  events : first.events ++ second.events = [.rxDone]
  payload : second.after.packet.payload = payload
  lengths : (first.given ++ second.given).filter Command.isSetLength =
    [.setFskPayloadLength length]
  rssiSync : second.after.packet.fsk.rssiSync.toInt =
    q.quality.rssiSync.toInt - rig.config.lnaGain.toInt
  rssiAvg : second.after.packet.fsk.rssiAvg.toInt =
    q.quality.rssiAvg.toInt - rig.config.lnaGain.toInt
  snr : second.after.packet.fsk.snr = 0
  lora : second.after.packet.lora = {}

/-! ## The two steps -/

theorem ends_tell_answered {P : (c : Command) → c.Reply → Prop} (h : rig.Answers P) {c : Command}
    {Q : Except Fault c.Reply → Station (σ × List Exchange) → Prop}
    (hQ : ∀ a w, P c a → Q (.ok a) { s with world := (w, s.log ++ [.command c (.ok a)]) }) :
    (rig.recording.tell c).Ends s Q := by
  obtain ⟨a, hresult, ha⟩ := h c s.world.1
  rw [Action.Ends, result_recording_tell, hresult]
  exact hQ a _ ha

theorem ends_awaitHeader {n : Nat} {P : (c : Command) → c.Reply → Prop} (h : rig.Answers P)
    (hn : rig.FillsWithin n s.world.1) :
    (rig.recording.awaitHeader n).Ends s fun r _ => r = .ok () := by
  induction n generalizing s with
  | zero => exact hn.elim
  | succ n ih =>
    obtain ⟨level, hlevel, -⟩ := h .readFskFillLevel s.world.1
    refine ends_bind.mpr ?_
    rw [Action.Ends, result_recording_tell, hlevel]
    refine ends_ite.mpr ?_
    split
    · rename_i hlow
      refine ih (hn.resolve_left ?_)
      rintro ⟨level', hlevel', hfilled⟩
      rw [hlevel] at hlevel'
      cases hlevel'
      exact absurd hlow (UInt8.not_lt.mpr hfilled)
    · exact rfl

/-- What is read of the frame, from byte `i` on. -/
theorem read_frame {frame bytes : List UInt8} {offset : UInt8} {n i : Nat} {read : Vector UInt8 n}
    (hframe : q.Holds frame) (hread : q.Answers (.readBuffer offset n) read)
    (hoffset : offset = q.start + UInt8.ofNat i) (hbytes : bytes <+: frame.drop i)
    (hn : bytes.length = n) : read.toList = bytes := by
  refine List.ext_getElem (by simp [hn]) fun j hj hj' => ?_
  have hlt : j < (frame.drop i).length := Nat.lt_of_lt_of_le hj' hbytes.length_le
  have hlt' : i + j < frame.length := by
    rw [List.length_drop] at hlt
    omega
  have hring : (offset.toNat + j) % 256 = (q.start.toNat + (i + j)) % 256 := by
    rw [hoffset, UInt8.toNat_add, UInt8.toNat_ofNat']
    omega
  have hjn : j < n := hn ▸ hj'
  calc read.toList[j] = read[j] := Vector.getElem_toList _
    _ = q.byte ((q.start.toNat + (i + j)) % 256) := by rw [hread j _, hring]
    _ = frame[i + j] := hframe _ hlt'
    _ = bytes[j] := by rw [hbytes.getElem hj', List.getElem_drop]

/-- The sync step reads the header, tells the chip the length of the whole frame, and leaves the
marker. -/
theorem ends_sync_received {header : Fsk.Header} {psdu : List UInt8}
    (h : rig.Receives q (header.kind :: header.length :: psdu)) :
    (rig.recording.act .sync).Ends s fun r s' => r = .ok none ∧
      s'.radio = { s.radio with
        packet := (s.radio.packet.write 0 [header.kind, header.length]).write
          RxPacket.markerOffset RxPacket.marker } ∧
      ∃ xs, s'.log = s.log ++ xs ∧ (xs.filterMap Exchange.given?).filter Command.isSetLength =
        [.setFskPayloadLength (header.length + 2)] := by
  have hwait : Recorded rig (· = .readFskFillLevel) [] (rig.recording.awaitHeader fillPolls)
      (rig.awaitHeader fillPolls) := recorded_awaitHeader _ rfl
  have hready : (rig.recording.awaitHeader fillPolls).Ends s fun r _ => r = .ok () :=
    ends_awaitHeader h.answers (h.fills s.world.1)
  refine ends_bind.mpr <| ends_discard.mpr <| ends_attempt.mpr <| ends_bind.mpr <|
    Ends.mono (Q := fun r s' => r = .ok () ∧ s.Reaches rig _ [] s') ⟨hready, hwait.ends s⟩ ?_
  rintro _ s₁ ⟨rfl, ⟨polls, hlog, hpolls⟩, hradio, -⟩
  refine ends_bind.mpr <| ends_tell_answered h.answers fun buffer w hbuffer => ?_
  refine ends_bind.mpr <| ends_tell_answered h.answers fun read w hread => ?_
  have hstart : buffer.startOffset = q.start := hbuffer
  have hheader : read.toList = [header.kind, header.length] :=
    read_frame h.holds hread (i := 0) (by simpa using hstart) ⟨psdu, rfl⟩ rfl
  have hlength : read[1] = header.length := by
    have hsecond : read.toList[1]? = some header.length := congrArg (·[1]?) hheader
    rw [Vector.getElem?_toList, Vector.getElem?_eq_getElem (by decide)] at hsecond
    exact Option.some.inj hsecond
  refine ends_bind.mpr <| ends_update.mpr <| ends_bind.mpr <|
    ends_tell_answered h.answers fun _ w _ => ends_update.mpr ?_
  refine ⟨rfl, ?_, polls ++ [.command .readRxBufferStatus (.ok buffer),
    .command (.readBuffer buffer.startOffset Fsk.headerLength) (.ok read),
    .command (.setFskPayloadLength (read[1] + 2)) (.ok ())], ?_, ?_⟩
  · show { s₁.radio with
      packet := (s₁.radio.packet.write 0 read.toList).write RxPacket.markerOffset
        RxPacket.marker } = _
    rw [hheader, hradio.eq]
  · show s₁.log ++ _ ++ _ ++ _ = _
    rw [hlog]
    simp only [List.append_assoc]
    rfl
  · have hpolled : (polls.filterMap Exchange.given?).filter Command.isSetLength = [] := by
      refine List.filter_eq_nil_iff.mpr fun c hc => ?_
      rw [gives_of_mem_given hpolls hc]
      exact nofun
    rw [List.filterMap_append, List.filter_append, hpolled, hlength]
    rfl

theorem ends_readPsdu_received {header : Fsk.Header} {psdu : List UInt8}
    (h : rig.Receives q (header.kind :: header.length :: psdu))
    (hlength : psdu.length = header.length.toNat) :
    (rig.recording.readPsdu header).Ends s fun r _ => r = .ok psdu := by
  refine ends_reporting.mpr <| ends_bind.mpr <|
    ends_tell_answered h.answers fun buffer w hbuffer => ?_
  have hstart : buffer.startOffset = q.start := hbuffer
  refine ends_bind.mpr <| ends_tell_answered h.answers fun read w hread => ?_
  have hpsdu : read.toList = psdu :=
    read_frame h.holds hread (by rw [hstart]; rfl) (List.prefix_refl _) hlength
  exact congrArg Except.ok hpsdu

/-- The fetch takes the payload out of the frame, if the frame passes its check. -/
theorem ends_fetchFsk_received {psdu plain : List UInt8} {n : Nat}
    (hexpects : s.radio.packet.Expects psdu plain n)
    (h : rig.Receives q (s.radio.packet.header.kind :: s.radio.packet.header.length :: psdu)) :
    rig.recording.fetchFsk.Ends s fun r s' => r = .ok (.ok ()) ∧
      ∃ p, s'.radio.packet =
        { q.record rig.config.lnaGain p plain n with lora := p.lora } := by
  refine ends_bind.mpr <| ends_current.mpr <| ends_ite.mpr ?_
  rw [if_neg (not_not_intro hexpects.marked)]
  refine ends_bind.mpr <| ends_update.mpr ?_
  dsimp only
  rw [hexpects.accepts]
  refine ends_bind.mpr <| (ends_readPsdu_received h hexpects.length).mono ?_
  rintro r s₁ rfl
  refine ends_bind.mpr <| ends_update.mpr ?_
  rw [hexpects.check]
  refine ends_bind.mpr <| ends_reporting.mpr <| ends_tell_answered h.answers fun raw w hraw => ?_
  have hquality : raw = q.quality := hraw
  refine ends_bind.mpr <| ends_update.mpr <| ends_pure.mpr ⟨rfl, s₁.radio.packet, ?_⟩
  rw [hquality]
  dsimp only [Reception.record, RxPacket.write, config_recording]

theorem ends_packet_received {psdu plain : List UInt8} {n : Nat}
    (hexpects : s.radio.packet.Expects psdu plain n)
    (h : rig.Receives q (s.radio.packet.header.kind :: s.radio.packet.header.length :: psdu)) :
    (rig.recording.act (.packet .fsk)).Ends s fun r s' => r = .ok (some .rxDone) ∧
      ∃ p, s'.radio.packet = q.record rig.config.lnaGain p plain n := by
  refine ends_bind.mpr <| ends_attempt.mpr <| (ends_fetchFsk_received hexpects h).mono ?_
  rintro _ s' ⟨rfl, p, hpacket⟩
  refine ends_bind.mpr <| ends_update.mpr ⟨rfl, p, ?_⟩
  show { s'.radio.packet with lora := {} } = _
  rw [hpacket]
  dsimp only [Reception.record]

/-! ## The two turns -/

end Rig

theorem Meaning.of_syncWordValid {r : Radio} (h : r.modem = .fsk) :
    Meaning.of r {.syncWordValid} = .sync := by
  unfold Meaning.of
  rw [h]
  rfl

theorem Meaning.of_rxDone {r : Radio} (h : r.modem = .fsk) :
    Meaning.of r {.rxDone} = .packet .fsk := by
  unfold Meaning.of
  rw [h]
  rfl

namespace Rig

open Station Transceiver.Action

variable {σ : Type} {rig : Rig σ} {q : Reception} {s : Station σ} {psdu : List UInt8}

/-- The turn that serves the sync word. -/
theorem turn_sync_received {header : Fsk.Header}
    (h : rig.Receives q (header.kind :: header.length :: psdu)) (hmodem : s.radio.modem = .fsk)
    (hstatus : (rig.turn s .processInterrupt).status? = some {.syncWordValid}) :
    (rig.turn s .processInterrupt).events = [] ∧
      (rig.turn s .processInterrupt).given.filter Command.isSetLength =
        [.setFskPayloadLength (header.length + 2)] ∧
      (rig.turn s .processInterrupt).after.modem = .fsk ∧
      ∃ p : RxPacket, (rig.turn s .processInterrupt).after.packet =
        (p.write 0 [header.kind, header.length]).write RxPacket.markerOffset RxPacket.marker := by
  obtain ⟨s₁, found, s₂, meant, hserves⟩ := serves_of_status hstatus
  obtain ⟨time, hradio⟩ := hserves.radio
  have hbefore : (rig.turn s .processInterrupt).before.modem = .fsk := hmodem
  have hmeaning := Meaning.of_syncWordValid hbefore
  obtain ⟨rfl, hafter, xs, hlog, hxs⟩ := hserves.of_ends (hmeaning ▸ ends_sync_received h)
  obtain rfl : meant = xs := List.append_cancel_left (hserves.log.symm.trans hlog)
  refine ⟨hserves.events, ?_, ?_, s₁.radio.packet, ?_⟩
  · rw [hserves.filter_given fun _ => not_isService_of_isSetLength, hxs]
  · rw [hserves.after, hafter, hradio]
    exact hbefore
  · rw [hserves.after, hafter]

/-- The turn that serves the complete packet. -/
theorem turn_packet_received {plain : List UInt8} {n : Nat}
    (hexpects : s.radio.packet.Expects psdu plain n)
    (h : rig.Receives q (s.radio.packet.header.kind :: s.radio.packet.header.length :: psdu))
    (hmodem : s.radio.modem = .fsk)
    (hstatus : (rig.turn s .processInterrupt).status? = some {.rxDone}) :
    (rig.turn s .processInterrupt).events = [.rxDone] ∧
      (rig.turn s .processInterrupt).given.filter Command.isSetLength = [] ∧
      ∃ p, (rig.turn s .processInterrupt).after.packet =
        q.record rig.config.lnaGain p plain n := by
  obtain ⟨s₁, found, s₂, meant, hserves⟩ := serves_of_status hstatus
  obtain ⟨time, hradio⟩ := hserves.radio
  have hbefore : (rig.turn s .processInterrupt).before.modem = .fsk := hmodem
  have hmeaning := Meaning.of_rxDone hbefore
  have hexpects₁ : s₁.radio.packet.Expects psdu plain n := by
    rw [hradio]
    exact ⟨hexpects.marked, hexpects.accepts, hexpects.length, hexpects.check⟩
  have hreceives : rig.Receives q (s₁.radio.packet.header.kind ::
      s₁.radio.packet.header.length :: psdu) := by
    rw [hradio]
    exact h
  obtain ⟨rfl, p, hpacket⟩ :=
    hserves.of_ends (hmeaning ▸ ends_packet_received hexpects₁ hreceives)
  have hfetch : Recorded rig (¬·.isSetLength) [.packet, .storage]
      (rig.recording.act (.packet .fsk)) (rig.act (.packet .fsk)) :=
    recorded_receiveFsk (by simp) (by simp) nofun (fun _ _ => nofun) nofun
  have hlogs : (rig.recording.act (.packet .fsk)).Ends s₁ fun _ s' =>
      ∃ xs, s'.log = s₁.log ++ xs ∧
        ∀ x ∈ xs, x.Within (¬·.isSetLength) [.packet, .storage] := (hfetch s₁).2.log
  have hxs := hserves.of_logs (hmeaning ▸ hlogs)
  refine ⟨hserves.events, ?_, p, ?_⟩
  · rw [hserves.filter_given fun _ => not_isService_of_isSetLength]
    exact List.filter_eq_nil_iff.mpr fun c hc => gives_of_mem_given hxs hc
  · rw [hserves.after, hpacket]

theorem checkHeader_headerFor {o : Fsk.FrameOptions} {n : Nat} (hlong : o.fcs.length < n)
    (hn : n < 256) : checkHeader (o.headerFor n) = .ok () := by
  have hlength : (o.headerFor n).length.toNat = n := Nat.mod_eq_of_lt hn
  rw [checkHeader, o.fcs?_headerFor]
  dsimp only
  rw [hlength, if_neg (Nat.not_le.mpr hlong)]

/-- A chip that has received the frame of a payload, and reports the sync word and then the end of
the packet, makes the driver deliver the payload. -/
theorem delivers_prepared (o : Fsk.FrameOptions) (p : Fsk.Packet) (payload room : List UInt8)
    (hpreamble : p.preambleLength ≠ 0) (hlength : p.payloadLength.toNat = payload.length)
    (hpayload : payload ≠ []) (hmax : payload.length ≤ o.fcs.maxPayload)
    (hroom : Fsk.headerLength + o.fcs.length ≤ room.length) :
    ∃ out, Fsk.prepareTx (payload ++ room) o p = .ok out ∧
      ∀ {σ : Type} (rig : Rig σ) (q : Reception) (s : Station σ),
        rig.Receives q (out.buffer.take out.packet.payloadLength.toNat) →
        q.Fits rig.config.lnaGain → s.radio.modem = .fsk →
        (rig.turn s .processInterrupt).status? = some {.syncWordValid} →
        (rig.turn (rig.step s .processInterrupt) .processInterrupt).status? = some {.rxDone} →
        rig.Delivers q payload out.packet.payloadLength (rig.turn s .processInterrupt)
          (rig.turn (rig.step s .processInterrupt) .processInterrupt) := by
  refine ⟨_, Fsk.prepareTx_payload hpreamble hlength hpayload hmax hroom, ?_⟩
  dsimp only
  intro σ rig q s hreceives hfits hmodem hsync hdone
  have hshort : (o.frame payload).length < 256 := Fsk.length_frame_lt hmax
  have htotal : (UInt8.ofNat (o.frame payload).length).toNat = (o.frame payload).length :=
    Nat.mod_eq_of_lt hshort
  rw [o.length_frame, Fsk.headerLength] at hshort
  have hpos : 0 < payload.length := List.length_pos_iff.mpr hpayload
  -- The header announces what follows it, the payload and its check.
  let header := o.headerFor (payload.length + o.fcs.length)
  have hframe : ((o.frame payload) ++ room.drop (Fsk.headerLength + o.fcs.length)).take
      (UInt8.ofNat (o.frame payload).length).toNat =
        header.kind :: header.length :: o.encode payload := by
    rw [htotal, List.take_left]
    rfl
  rw [hframe] at hreceives
  obtain ⟨hevents, hlengths, hmodem', left, hleft⟩ := turn_sync_received hreceives hmodem hsync
  rw [turn_after] at hmodem' hleft
  have hheader : (rig.step s .processInterrupt).radio.packet.header = header := by
    rw [hleft]
    exact RxPacket.header_write_marker ..
  have hexpects : (rig.step s .processInterrupt).radio.packet.Expects (o.encode payload)
      (payload ++ o.fcs.checkBytes payload) payload.length := by
    constructor
    case marked => exact hleft ▸ RxPacket.marked_write_marker _
    case accepts => rw [hheader, checkHeader_headerFor (by omega) (by omega)]
    case length =>
      rw [hheader, o.length_encode]
      exact (Nat.mod_eq_of_lt (by omega)).symm
    case check => rw [hheader, o.check_encode _ hpayload]
  obtain ⟨hevents', hlengths', before, hafter⟩ :=
    turn_packet_received hexpects (hheader ▸ hreceives) hmodem' hdone
  constructor
  case events => rw [hevents, hevents', List.nil_append]
  case payload =>
    have hn : (UInt8.ofNat payload.length).toNat = payload.length := Nat.mod_eq_of_lt (by omega)
    rw [RxPacket.payload, hafter, Reception.record, hn]
    exact (RxPacket.take_write _ (by simp) (by omega)).trans List.take_left
  case lengths =>
    rw [List.filter_append, hlengths, hlengths', List.append_nil, o.length_frame,
      Fsk.headerLength, Nat.add_comm 2, UInt8.ofNat_add]
    rfl
  case rssiSync =>
    rw [hafter]
    exact hfits.toInt_sub (by simp)
  case rssiAvg =>
    rw [hafter]
    exact hfits.toInt_sub (by simp)
  case snr =>
    rw [hafter]
    rfl
  case lora =>
    rw [hafter]
    rfl

end Rig

/-- What the chip on the bench has received. -/
def Bench.reception (b : Bench) : Reception where
  start := b.received.startOffset
  byte := b.byte
  quality := ⟨-60, -58⟩

/-- The chip on the bench receives what its buffer holds. -/
theorem Bench.receives {b : Bench} {frame : List UInt8} (h : b.reception.Holds frame) :
    b.rig.Receives b.reception frame where
  answers c w := by
    refine ⟨b.reply w c, rfl, ?_⟩
    cases c with
    | readBuffer offset n =>
      intro i hi
      simp [reply, reception, byte]
    | readRxBufferStatus | readFskQuality => rfl
    | _ => trivial
  fills _ := .inl ⟨2, rfl, UInt8.le_refl 2⟩
  holds := h

namespace Rig

/-- A whitened frame that runs over the end of the ring. -/
theorem delivers_prepared_wrapped :
    let b : Bench := { bytes := [24, 5, 14, 114, 176, 14, 114], received := ⟨7, 252⟩ }
    let s : Station (List InterruptSet) :=
      ⟨{ modem := .fsk, state := .rx }, [{.syncWordValid}, {.rxDone}]⟩
    ∃ out, Fsk.prepareTx ([1, 2, 3] ++ .replicate 8 0) ⟨.crc16, true, false⟩
        { preambleLength := 8, payloadLength := 3 } = .ok out ∧
      b.rig.Delivers b.reception [1, 2, 3] out.packet.payloadLength
        (b.rig.turn s .processInterrupt)
        (b.rig.turn (b.rig.step s .processInterrupt) .processInterrupt) := by
  intro b s
  obtain ⟨out, hout, hdelivers⟩ := delivers_prepared ⟨.crc16, true, false⟩
    { preambleLength := 8, payloadLength := 3 } [1, 2, 3] (.replicate 8 0) (by decide) rfl
    (by decide) (by decide) (by decide)
  have hframe : (Fsk.prepareTx ([1, 2, 3] ++ .replicate 8 0) ⟨.crc16, true, false⟩
      { preambleLength := 8, payloadLength := 3 }).toOption.map
        (fun out => out.buffer.take out.packet.payloadLength.toNat) =
      some [24, 5, 14, 114, 176, 14, 114] := by decide +kernel
  rw [hout] at hframe
  have hbytes : out.buffer.take out.packet.payloadLength.toNat = _ := Option.some.inj hframe
  have hholds : b.reception.Holds [24, 5, 14, 114, 176, 14, 114] := by decide +kernel
  refine ⟨out, hout, hdelivers b.rig b.reception s ?_ ?_ rfl ?_ ?_⟩
  · rw [hbytes]
    exact Bench.receives hholds
  · decide +kernel
  · decide +kernel
  · decide +kernel

end Rig

end Transceiver
