import Transceiver.Proofs.Conclusions
import Transceiver.Proofs.FskReception

/-! What a LoRa packet leaves in the record. The record is written while the packet is fetched, in
two steps, so a fetch that fails in between leaves the bytes of a packet that is not delivered,
beside the quality of the last one that was. -/

namespace Transceiver

namespace RxPacket

/-- The records tell of the same packet, received as well. -/
structure SameReception (p p' : RxPacket) : Prop where
  payload : p'.payload = p.payload
  payloadLength : p'.payloadLength = p.payloadLength
  lora : p'.lora = p.lora
  fsk : p'.fsk = p.fsk

theorem length_payload (p : RxPacket) : p.payload.length = p.payloadLength.toNat := by
  have hroom := p.payloadLength.toNat_lt
  rw [payload, List.length_take, Vector.length_toList]
  omega

/-- As many bytes as the record says, written to the start of the storage, are the payload. -/
theorem payload_write (p : RxPacket) {n : UInt8} (bytes : Vector UInt8 n.toNat) :
    ({ p.write 0 bytes.toList with payloadLength := n } : RxPacket).payload = bytes.toList := by
  have hroom := n.toNat_lt
  have htake : (p.write 0 bytes.toList).storage.toList.take n.toNat = bytes.toList.take n.toNat :=
    p.take_write (by simp) (by omega)
  exact htake.trans (List.take_of_length_le (by simp))

end RxPacket

namespace Lora

/-- The quality of a packet, from what the chip says of it. -/
def RawQuality.corrected (gain : Int16) (raw : RawQuality) (crcPresent : Bool) : Quality where
  rssi := raw.rssi - gain + if raw.snr < 0 then raw.snr.toInt16 else 0
  snr := raw.snr
  signalRssi := raw.signalRssi - gain
  crcPresent := crcPresent

/-- The number is one that a word of 16 bits holds. -/
def FitsWord (n : Int) : Prop := -0x8000 ≤ n ∧ n < 0x8000

/-- The quality is what the chip measured, in numbers, with the gain taken off and a negative
signal-to-noise ratio added to the RSSI of the packet. -/
structure RawQuality.Gives (gain : Int16) (raw : RawQuality) (crcPresent : Bool) (q : Quality) :
    Prop where
  rssi : FitsWord (raw.rssi.toInt - gain.toInt) →
    FitsWord (raw.rssi.toInt - gain.toInt + min raw.snr.toInt 0) →
      q.rssi.toInt = raw.rssi.toInt - gain.toInt + min raw.snr.toInt 0
  snr : q.snr = raw.snr
  signalRssi : FitsWord (raw.signalRssi.toInt - gain.toInt) →
    q.signalRssi.toInt = raw.signalRssi.toInt - gain.toInt
  crcPresent : q.crcPresent = crcPresent

theorem toInt_sub_of_fits {a b : Int16} (h : FitsWord (a.toInt - b.toInt)) :
    (a - b).toInt = a.toInt - b.toInt := by
  obtain ⟨hlow, hhigh⟩ := h
  rw [Int16.toInt_sub]
  exact Int.bmod_eq_of_le_mul_two (by omega) (by omega)

theorem toInt_add_of_fits {a b : Int16} (h : FitsWord (a.toInt + b.toInt)) :
    (a + b).toInt = a.toInt + b.toInt := by
  obtain ⟨hlow, hhigh⟩ := h
  rw [Int16.toInt_add]
  exact Int.bmod_eq_of_le_mul_two (by omega) (by omega)

/-- The ratio counts if it is negative. -/
theorem toInt_negative_part (snr : Int8) :
    (if snr < 0 then snr.toInt16 else 0 : Int16).toInt = min snr.toInt 0 := by
  have hzero : (0 : Int8).toInt = 0 := rfl
  split <;> rename_i h <;> rw [Int8.lt_iff_toInt_lt, hzero] at h
  · rw [Int8.toInt_toInt16]
    omega
  · show (0 : Int) = _
    omega

theorem RawQuality.gives_corrected (gain : Int16) (raw : RawQuality) (crcPresent : Bool) :
    raw.Gives gain crcPresent (raw.corrected gain crcPresent) where
  rssi hlevel hsum := by
    rw [← toInt_sub_of_fits hlevel, ← toInt_negative_part] at hsum ⊢
    exact toInt_add_of_fits hsum
  snr := rfl
  signalRssi := toInt_sub_of_fits
  crcPresent := rfl

end Lora

namespace Rig

open Station Transceiver.Action

variable {σ : Type} {rig : Rig σ} {s : Station (σ × List Exchange)}

/-- What the chip says when a LoRa packet is fetched. -/
structure Fetch where
  buffer : RxBufferStatus
  bytes : Vector UInt8 buffer.payloadLength.toNat
  raw : Lora.RawQuality
  crcPresent : Bool

namespace Fetch

/-- The exchanges in which it says so. -/
def exchanges (f : Fetch) : List Exchange :=
  [.command .readRxBufferStatus (.ok f.buffer),
    .command (.readBuffer f.buffer.startOffset f.buffer.payloadLength.toNat) (.ok f.bytes),
    .command .readLoraQuality (.ok f.raw), .command .readLoraCrcFlag (.ok f.crcPresent)]

/-- The record tells of the packet. -/
structure Fills (f : Fetch) (gain : Int16) (p : RxPacket) : Prop where
  payload : p.payload = f.bytes.toList
  payloadLength : p.payloadLength = f.buffer.payloadLength
  lora : f.raw.Gives gain f.crcPresent p.lora

end Fetch

/-- The chip gave the packet away, but not its quality. -/
def QualityRefused (xs : List Exchange) : Prop :=
  .readLoraQuality ∈ xs.filterMap Exchange.refused? ∨
    .readLoraCrcFlag ∈ xs.filterMap Exchange.refused?

/-- Of what the record tells, the exchanges changed the payload at most, to bytes that were fetched
before the quality was refused. -/
structure Undelivered (xs : List Exchange) (p p' : RxPacket) : Prop where
  fetched : xs.filterMap Exchange.fetched? = [] ∧ p'.payload = p.payload ∨
    xs.filterMap Exchange.fetched? = [p'.payload] ∧ QualityRefused xs
  lora : p'.lora = p.lora
  fsk : p'.fsk = p.fsk

theorem Undelivered.of_same {xs : List Exchange} {p p' : RxPacket}
    (hxs : xs.filterMap Exchange.fetched? = []) (hpayload : p'.payload = p.payload)
    (hlora : p'.lora = p.lora) (hfsk : p'.fsk = p.fsk) : Undelivered xs p p' :=
  ⟨.inl ⟨hxs, hpayload⟩, hlora, hfsk⟩

/-- The bytes that were fetched stand in the record, and nothing about their quality. -/
theorem Undelivered.written (p : RxPacket) {xs : List Exchange} {n : UInt8}
    (bytes : Vector UInt8 n.toNat) (hxs : xs.filterMap Exchange.fetched? = [bytes.toList])
    (hrefused : QualityRefused xs) :
    Undelivered xs p { p.write 0 bytes.toList with payloadLength := n } where
  fetched := .inr ⟨by rw [hxs, p.payload_write bytes], hrefused⟩
  lora := by dsimp only [RxPacket.write]
  fsk := by dsimp only [RxPacket.write]

/-- A fetch that fails may have written the bytes that it fetched, but nothing about their
quality. -/
theorem ends_fetchLora : rig.recording.fetchLora.Ends s fun r s' => ∃ xs, s'.log = s.log ++ xs ∧
    match r with
    | .error _ => Undelivered xs s.radio.packet s'.radio.packet
    | .ok _ => ∃ f : Fetch, xs = f.exchanges ∧ f.Fills rig.config.lnaGain s'.radio.packet := by
  refine ends_tell_bind (fun e w => ?_) fun buffer w => ?_
  · exact ⟨_, rfl, .of_same rfl rfl rfl rfl⟩
  let asked : Exchange := .command .readRxBufferStatus (.ok buffer)
  refine ends_tell_bind (fun e w => ?_) fun bytes w => ?_
  · exact ⟨[asked, _], List.append_assoc .., .of_same rfl rfl rfl rfl⟩
  let read : Exchange := .command (.readBuffer _ _) (.ok bytes)
  have hlog (xs : List Exchange) :
      s.log ++ [asked] ++ [read] ++ xs = s.log ++ asked :: read :: xs := by simp
  refine ends_bind.mpr <| ends_update.mpr <| ends_tell_bind (fun e w => ?_) fun raw w => ?_
  · refine ⟨[asked, read, _], hlog _, .written s.radio.packet bytes rfl (.inl ?_)⟩
    exact List.mem_singleton_self _
  refine ends_bind.mpr <| ends_reporting.mpr <| ends_recording_tell fun crc w => ?_
  let measured : Exchange := .command .readLoraQuality (.ok raw)
  have hlog' (x : Exchange) : s.log ++ [asked] ++ [read] ++ [measured] ++ [x] =
      s.log ++ [asked, read, measured, x] := by simp
  cases crc with
  | error e =>
    refine ⟨[asked, read, measured, _], hlog' _, .written s.radio.packet bytes rfl (.inr ?_)⟩
    exact List.mem_singleton_self _
  | ok crc =>
    exact ends_update.mpr ⟨[asked, read, measured, _], hlog' _, ⟨buffer, bytes, raw, crc⟩, rfl,
      s.radio.packet.payload_write bytes, rfl, raw.gives_corrected ..⟩

/-- The exchanges delivered the packet that they fetched, or no packet. -/
def Brings (gain : Int16) (xs : List Exchange) (p : RxPacket) (found : Except Fault (Option Event))
    (p' : RxPacket) : Prop :=
  found ≠ .ok (some .rxDone) ∧ Undelivered xs p p' ∨
    found = .ok (some .rxDone) ∧ ∃ f : Fetch, xs = f.exchanges ∧ f.Fills gain p' ∧ p'.fsk = {}

theorem brings_receiveLora : rig.recording.receiveLora.Ends s fun found s' =>
    ∃ xs, s'.log = s.log ++ xs ∧
      Brings rig.config.lnaGain xs s.radio.packet found s'.radio.packet := by
  refine ends_bind.mpr <| ends_attempt.mpr <| ends_fetchLora.mono fun r s' ⟨xs, hlog, h⟩ => ?_
  rcases r with e | ⟨⟩
  · exact ⟨xs, hlog, .inl ⟨nofun, h⟩⟩
  · obtain ⟨f, hxs, hfills⟩ := h
    exact ⟨xs, hlog, .inr ⟨rfl, f, hxs, ⟨hfills.payload, hfills.payloadLength, hfills.lora⟩, rfl⟩⟩

end Rig

/-- The interrupt means nothing that has to do with packets. -/
def Meaning.IsAside : Meaning → Prop
  | .event e | .quiet e => e ≠ .rxDone
  | .nothing | .detected => True
  | .preamble | .sync | .packet _ => False

/-- The interrupt means that a LoRa packet is complete, or nothing that has to do with packets. -/
def Meaning.IsLora (meaning : Meaning) : Prop := meaning = .packet .lora ∨ meaning.IsAside

theorem Meaning.isLora_of {r : Radio} (hmodem : r.modem = .lora) (status : InterruptSet) :
    (Meaning.of r status).IsLora := by
  have event {e : Event} (he : e ≠ .rxDone) : (Meaning.event e).IsLora := .inr he
  have quiet {e : Event} (he : e ≠ .rxDone) : (Meaning.quiet e).IsLora := .inr he
  have either {c : Prop} {_ : Decidable c} {m m' : Meaning} (hm : m.IsLora) (hm' : m'.IsLora) :
      (if c then m else m').IsLora := by
    split
    · exact hm
    · exact hm'
  have hlora : (Meaning.lora status).IsLora :=
    either (either (.inr trivial) (quiet (by decide))) <| either (.inl rfl) (.inr trivial)
  rw [Meaning.of, hmodem]
  refine either (event (by decide)) <| either (event (by decide)) <| either ?_ <|
    either (event (by decide)) hlora
  exact either (event (by decide)) (quiet (by decide))

namespace Rig

open Station Transceiver.Action

variable {σ : Type} {rig : Rig σ} {s : Station (σ × List Exchange)}

/-- What leaves the packet alone, asks the chip for none and finds none. -/
theorem brings_of_recorded {x : Action (Station (σ × List Exchange)) (Option Event)}
    {y : Action (Station σ) (Option Event)} {topics : List Topic} {parts : List Part}
    (h : Recorded rig (·.topic ∈ topics) parts x y) (htopics : .reception ∉ topics)
    (hparts : .packet ∉ parts) (hfound : x.Ends s fun found _ => found ≠ .ok (some .rxDone)) :
    x.Ends s fun found s' => ∃ xs, s'.log = s.log ++ xs ∧
      Brings rig.config.lnaGain xs s.radio.packet found s'.radio.packet := by
  refine ((h.ends s).and hfound).mono fun found s' ⟨⟨⟨xs, hlog, hxs⟩, hradio, _⟩, hfound⟩ => ?_
  have hpacket : s'.radio.packet = s.radio.packet := hradio .packet hparts
  have hnone : xs.filterMap Exchange.fetched? = [] := by
    refine List.filterMap_eq_nil_iff.mpr fun x hx => ?_
    have hwithin := hxs x hx
    rcases x with ⟨c, r⟩ | _ | _ | _ | _
    · cases c with
      | readBuffer => exact absurd hwithin htopics
      | _ => rfl
    all_goals rfl
  rw [hpacket]
  exact ⟨xs, hlog, .inl ⟨hfound, .of_same hnone rfl rfl rfl⟩⟩

theorem brings_aside {meaning : Meaning} (h : meaning.IsAside) :
    (rig.recording.act meaning).Ends s fun found s' => ∃ xs, s'.log = s.log ++ xs ∧
      Brings rig.config.lnaGain xs s.radio.packet found s'.radio.packet := by
  have pure (found : Option Event) (hfound : found ≠ some .rxDone) :
      (pure found : Action (Station (σ × List Exchange)) _).Ends s fun found s' =>
        ∃ xs, s'.log = s.log ++ xs ∧
          Brings rig.config.lnaGain xs s.radio.packet found s'.radio.packet :=
    ⟨[], (List.append_nil _).symm, .inl ⟨fun he => hfound (Except.ok.inj he),
      .of_same rfl rfl rfl rfl⟩⟩
  cases meaning with
  | event e => exact pure (some e) fun he => h (Option.some.inj he)
  | nothing => exact pure none nofun
  | detected => exact pure (some .cadDone) nofun
  | quiet e =>
    refine brings_of_recorded (recorded_concludeQuiet e) (by decide) (by decide) ?_
    refine ends_bind.mpr <| ends_current.mpr <| ends_bind.mpr <| ends_update.mpr <|
      ends_ite.mpr ?_
    split
    · refine ends_ite.mpr ?_
      split
      · exact nofun
      · refine ends_bind.mpr <| ends_current.mpr <| ends_bind.mpr <| ends_discard.mpr <|
          ends_attempt.mpr ?_
        exact Ends.mono (ends_startTx _) fun _ _ _ => nofun
    · exact fun he => h (Option.some.inj (Except.ok.inj he))
  | preamble | sync | packet => exact h.elim

/-! ## Turns -/

theorem Undelivered.among {xs opening closing : List Exchange} {p p' : RxPacket}
    (h : Undelivered xs p p') (hopening : ∀ x ∈ opening, x.IsService)
    (hclosing : ∀ x ∈ closing, x.IsService) :
    Undelivered (opening ++ xs ++ closing) p p' := by
  have hfetched : (opening ++ xs ++ closing).filterMap Exchange.fetched? =
      xs.filterMap Exchange.fetched? := by
    rw [List.filterMap_append, List.filterMap_append, fetched_of_services hopening,
      fetched_of_services hclosing, List.nil_append, List.append_nil]
  refine ⟨?_, h.lora, h.fsk⟩
  rw [hfetched]
  refine h.fetched.imp_right fun ⟨hxs, hrefused⟩ => ⟨hxs, ?_⟩
  rw [QualityRefused, List.filterMap_append, List.filterMap_append]
  exact hrefused.imp (fun h => by simp [h]) fun h => by simp [h]

/-- The time of a reception does not count. -/
theorem Undelivered.of_receivedAt {xs : List Exchange} {p p' : RxPacket} {time : UInt64}
    (h : Undelivered xs { p with receivedAt := time } p') : Undelivered xs p p' :=
  ⟨h.fetched, h.lora, h.fsk⟩

theorem Undelivered.same_iff {xs : List Exchange} {p p' : RxPacket} (h : Undelivered xs p p') :
    p.SameReception p' ↔ ∀ bytes ∈ xs.filterMap Exchange.fetched?, bytes = p.payload := by
  have hsame (hpayload : p'.payload = p.payload) : p.SameReception p' := by
    refine ⟨hpayload, UInt8.toNat_inj.mp ?_, h.lora, h.fsk⟩
    rw [← p'.length_payload, hpayload, p.length_payload]
  rcases h.fetched with ⟨hxs, hpayload⟩ | ⟨hxs, -⟩ <;> rw [hxs]
  · exact iff_of_true (hsame hpayload) nofun
  · rw [List.forall_mem_singleton]
    exact ⟨fun h => h.payload, hsame⟩

end Rig

theorem mem_announced {found : Except Fault (Option Event)} {event : Event} :
    event ∈ announced found ↔ found = .ok (some event) := by
  rcases found with e | _ | event' <;> simp [announced, eq_comm]

namespace Rig

open Station Transceiver.Action

variable {σ : Type}

/-- **What a LoRa dispatch leaves on record**, in any state and with any failures. A turn that
delivers a packet leaves that packet. One that delivers none leaves the quality of the last
reception, and leaves the rest unless other bytes were fetched: those of a packet whose quality the
chip refused. -/
theorem reception_on_record (rig : Rig σ) (s : Station σ) (hmodem : s.radio.modem = .lora) :
    let t := rig.turn s .processInterrupt
    (.rxDone ∉ t.events →
      Undelivered t.exchanges t.before.packet t.after.packet ∧
        (t.before.packet.SameReception t.after.packet ↔
          ∀ bytes ∈ t.fetched, bytes = t.before.packet.payload)) ∧
    (.rxDone ∈ t.events → ∃ f : Fetch, f.exchanges <:+: t.exchanges ∧
      f.Fills rig.config.lnaGain t.after.packet ∧ t.after.packet.fsk = {}) := by
  intro t
  suffices h : .rxDone ∉ t.events ∧ Undelivered t.exchanges t.before.packet t.after.packet ∨
      .rxDone ∈ t.events ∧ ∃ f : Fetch, f.exchanges <:+: t.exchanges ∧
        f.Fills rig.config.lnaGain t.after.packet ∧ t.after.packet.fsk = {} by
    rcases h with ⟨hevent, h⟩ | ⟨hevent, h⟩
    · exact ⟨fun _ => ⟨h, h.same_iff⟩, fun he => absurd he hevent⟩
    · exact ⟨fun he => absurd hevent he, fun _ => h⟩
  rcases processInterrupt_cases rig s with hnothing | ⟨status, s₁, found, s₂, meant, h⟩
  · have hservices : ∀ x ∈ t.exchanges, x.IsService := fun x hx c hc =>
      hnothing.given c (List.mem_filterMap.mpr ⟨x, hx, hc⟩)
    have hafter : t.after = t.before := hnothing.after
    rw [hafter]
    refine .inl ⟨?_, .of_same (fetched_of_services hservices) rfl rfl rfl⟩
    rw [show t.events = [] from hnothing.events]
    exact nofun
  · have hserves : rig.Serves t status s₁ found s₂ meant := h
    obtain ⟨time, hradio⟩ := hserves.radio
    obtain ⟨opening, closing, hexchanges, hopening, hclosing⟩ := hserves.exchanges
    have hbrings : (rig.recording.act (.of t.before status)).Ends s₁ fun found s' =>
        ∃ xs, s'.log = s₁.log ++ xs ∧
          Brings rig.config.lnaGain xs s₁.radio.packet found s'.radio.packet := by
      rcases Meaning.isLora_of (r := t.before) hmodem status with hmeaning | haside
      · rw [hmeaning]
        exact brings_receiveLora
      · exact brings_aside haside
    have hbrings := hserves.of_logs (Q := fun found s' xs =>
      Brings rig.config.lnaGain xs s₁.radio.packet found s'.radio.packet) hbrings
    rw [hserves.events, mem_announced, hserves.after, hexchanges]
    rw [hradio] at hbrings
    refine hbrings.imp (And.imp_right fun h => ?_) (And.imp_right ?_)
    · exact h.of_receivedAt.among hopening hclosing
    · rintro ⟨f, rfl, hfills⟩
      exact ⟨f, ⟨opening, closing, rfl⟩, hfills⟩

end Rig

/-- A rig on the bench that has received the three bytes of a packet. -/
def Bench.filled : Rig (List InterruptSet) := Bench.rig ⟨[0xAA, 0xBB, 0xCC], ⟨3, 0⟩⟩

/-- A rig on the bench whose chip gives a packet away, but not its quality. -/
def Bench.taciturn : Rig (List InterruptSet) :=
  { filled with chip := { filled.chip with
      perform := fun
        | .readLoraQuality, statuses => .error .io statuses
        | c, statuses => filled.chip.perform c statuses } }

namespace Rig

/-- A packet that is delivered. -/
theorem reception_on_record_delivered :
    let rig := Bench.filled
    let s := rig.run ⟨{}, [{.rxDone}]⟩ [.powerUp, .startRx 1000]
    let t := rig.turn s .processInterrupt
    s.radio.modem = .lora ∧ .rxDone ∈ t.events ∧ ∃ f : Fetch, f.exchanges <:+: t.exchanges ∧
      f.Fills rig.config.lnaGain t.after.packet ∧ t.after.packet.fsk = {} := by
  intro rig s t
  have hmodem : s.radio.modem = .lora := by decide +kernel
  have hevent : .rxDone ∈ t.events := by decide +kernel
  exact ⟨hmodem, hevent, (reception_on_record rig s hmodem).2 hevent⟩

/-- A packet that is not delivered, whose bytes stand in the record. -/
theorem undelivered_on_record :
    let rig := Bench.taciturn
    let s := rig.run ⟨{}, [{.rxDone}]⟩ [.powerUp, .startRx 1000]
    let t := rig.turn s .processInterrupt
    s.radio.modem = .lora ∧ s.radio.state ≠ .scan ∧ t.Succeeds ∧ .rxDone ∉ t.events ∧
      t.before.packet.payload = [] ∧ t.after.packet.payload = [0xAA, 0xBB, 0xCC] := by
  decide +kernel

end Rig

end Transceiver
