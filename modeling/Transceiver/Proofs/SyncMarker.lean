import Transceiver.Proofs.Bench
import Transceiver.Proofs.Dispatch
import Transceiver.Proofs.FrameImage

/-! The marker that the sync step of an FSK packet leaves for the step that fetches the packet. It
stands among the bytes of the last packet, where received bytes may form the same pattern, and a
sync step that fails leaves an older marker alone. So a fetch may pass the check of the marker
without a sync step of its own. Whether it does follows from the bytes that the chip delivered and
the sync steps that succeeded. -/

namespace Transceiver

namespace RxPacket

theorem getElem_write (p : RxPacket) (start : Nat) (bytes : List UInt8) (i : Nat) (hi : i < 255) :
    (p.write start bytes).storage[i] =
      if start ≤ i then bytes[i - start]?.getD p.storage[i] else p.storage[i] := by
  simp [write]

/-- The header of an FSK packet, and what stands behind it in the place of the marker. -/
def noted (p : RxPacket) : List UInt8 := p.storage.toList.take 4

/-- What is noted, once bytes were written over it. -/
def overlaid (bytes noted : List UInt8) : List UInt8 := (bytes ++ noted.drop bytes.length).take 4

@[simp] theorem length_noted (p : RxPacket) : p.noted.length = 4 := by simp [noted]

@[simp] theorem overlaid_nil (p : RxPacket) : overlaid [] p.noted = p.noted := by
  simp [overlaid, List.take_of_length_le]

theorem length_overlaid (bytes : List UInt8) {noted : List UInt8} (h : noted.length = 4) :
    (overlaid bytes noted).length = 4 := by
  rw [overlaid, List.length_take, List.length_append, List.length_drop]
  omega

/-- Bytes that do not reach the place of the marker leave what stands there. -/
theorem drop_overlaid {bytes noted : List UInt8} (hnoted : noted.length = 4)
    (hbytes : bytes.length ≤ markerOffset) :
    (overlaid bytes noted).drop markerOffset = noted.drop markerOffset := by
  refine List.ext_getElem? fun i => ?_
  simp only [overlaid, markerOffset, List.getElem?_drop, List.getElem?_take,
    List.getElem?_append] at hbytes ⊢
  grind

/-- Of two layers of the same length the upper one is seen. -/
theorem overlaid_overlaid {bytes under : List UInt8} (noted : List UInt8)
    (h : bytes.length = under.length) :
    overlaid bytes (overlaid under noted) = overlaid bytes noted := by
  refine List.ext_getElem? fun i => ?_
  simp only [overlaid, List.getElem?_take, List.getElem?_append, List.getElem?_drop]
  grind

theorem noted_write (p : RxPacket) (bytes : List UInt8) :
    (p.write 0 bytes).noted = overlaid bytes p.noted := by
  refine List.ext_getElem (by simp [overlaid]; omega) fun i hi hi' => ?_
  have hi : i < 4 := by simpa using hi
  simp only [noted, overlaid, List.getElem_take, List.getElem_append, List.getElem_drop,
    Vector.getElem_toList, getElem_write, Nat.zero_le, if_true, Nat.sub_zero]
  split
  · simp [*]
  · rename_i hlong
    rw [List.getElem?_eq_none (by omega)]
    simp only [Option.getD_none]
    congr 1
    omega

theorem noted_write_marker (p : RxPacket) {bytes : List UInt8} (h : bytes.length = 2) :
    (p.write markerOffset bytes).noted = p.noted.take 2 ++ bytes := by
  refine List.ext_getElem (by simp [h]) fun i hi hi' => ?_
  have hi : i < 4 := by simpa using hi
  simp only [noted, markerOffset, List.getElem_take, List.getElem_append, Vector.getElem_toList,
    getElem_write, List.length_take, Vector.length_toList]
  split
  · rw [dif_neg (by omega), List.getElem?_eq_getElem (by omega)]
    rfl
  · rw [dif_pos (by omega)]

theorem marked_iff {p : RxPacket} : p.Marked ↔ p.noted.drop markerOffset = marker := by
  rw [Marked, noted, markerOffset, List.drop_take]

theorem header_eq (p : RxPacket) : p.header = ⟨p.noted.getD 0 0, p.noted.getD 1 0⟩ := by
  simp [header, noted, List.getD_eq_getElem?_getD]

/-- The sync step leaves the marker. -/
theorem marked_write_marker (p : RxPacket) : (p.write markerOffset marker).Marked := by
  rw [marked_iff, noted_write_marker p rfl]
  simp [markerOffset]

end RxPacket

/-- The command sets the length of the packet that is being received. -/
def Command.isSetLength : Command → Bool
  | .setFskPayloadLength _ => true
  | _ => false

theorem not_isService_of_isSetLength {c : Command} (h : c.isSetLength) : ¬c.IsService := by
  cases c with
  | setFskPayloadLength length => exact id
  | _ => cases h

/-- The bytes that the exchanges delivered, if any. -/
def delivered (xs : List Exchange) : List UInt8 := (xs.filterMap Exchange.fetched?).headD []

namespace Rig

open Station Transceiver.Action RxPacket

variable {σ : Type} {rig : Rig σ} {s : Station (σ × List Exchange)}

/-! ## The two steps -/

/-- The exchanges contain a length that the chip accepted. -/
def SetsLength (xs : List Exchange) : Prop := ∃ c ∈ xs.filterMap Exchange.accepted?, c.isSetLength

theorem setsLength_append {xs ys : List Exchange} :
    SetsLength (xs ++ ys) ↔ SetsLength xs ∨ SetsLength ys := by
  simp only [SetsLength, List.filterMap_append, List.mem_append, or_and_right, exists_or]

theorem not_setsLength_of_within {gives : Command → Prop} {parts : List Part} {xs : List Exchange}
    (h : ∀ x ∈ xs, x.Within gives parts) (hg : ∀ c, gives c → ¬c.isSetLength) : ¬SetsLength xs := by
  rintro ⟨c, hc, hset⟩
  exact hg c (gives_of_mem_given h (mem_given_of_mem_accepted hc)) hset

/-- What a sync step leaves of what was noted: the header, if it was delivered, and the marker
behind it, if the chip accepted the length of the packet. -/
structure Syncs (xs : List Exchange) (ok : Bool) (noted noted' : List UInt8) : Prop where
  sets : SetsLength xs ↔ ok = true
  noted : noted' =
    let read := overlaid ((delivered xs).take Fsk.headerLength) noted
    if ok then read.take markerOffset ++ marker else read

theorem Syncs.fails {xs : List Exchange} {noted noted' : List UInt8} (h : ¬SetsLength xs)
    (hnoted : noted' = overlaid ((delivered xs).take Fsk.headerLength) noted) :
    Syncs xs false noted noted' :=
  ⟨iff_of_false h nofun, hnoted⟩

/-- Readings of the fill level come before. -/
theorem Syncs.after {polls xs : List Exchange} {ok : Bool} {noted noted' : List UInt8}
    (h : Syncs xs ok noted noted')
    (hpolls : ∀ x ∈ polls, x.Within (· = .readFskFillLevel) []) :
    Syncs (polls ++ xs) ok noted noted' := by
  have hnot : ¬SetsLength polls := not_setsLength_of_within hpolls (by rintro _ rfl; exact nofun)
  have hdelivered : delivered (polls ++ xs) = delivered xs := by
    rw [delivered, List.filterMap_append, List.filterMap_eq_nil_iff.mpr fun x hx => ?_]
    · rfl
    · have hwithin := hpolls x hx
      rcases x with ⟨c, r⟩ | _ | _ | _ | _
      · obtain rfl : c = .readFskFillLevel := hwithin
        rfl
      all_goals rfl
  refine ⟨?_, hdelivered ▸ h.noted⟩
  rw [setsLength_append, or_iff_right hnot]
  exact h.sets

/-- A sync step succeeds exactly if the chip accepts the length of the packet. It leaves the marker
then, and what stood in its place otherwise. -/
theorem ends_syncFsk : rig.recording.syncFsk.Ends s fun r s' => ∃ meant,
    s'.log = s.log ++ meant ∧ Syncs meant r.isOk s.radio.packet.noted s'.radio.packet.noted := by
  have hwait : Recorded rig (· = .readFskFillLevel) [] (rig.recording.awaitHeader fillPolls)
      (rig.awaitHeader fillPolls) := recorded_awaitHeader _ rfl
  refine ends_bind.mpr <| (hwait.ends s).mono ?_
  rintro r s₁ ⟨⟨polls, hlog, hpolls⟩, hradio, -⟩
  have hpacket : s₁.radio.packet = s.radio.packet := hradio .packet (by simp)
  -- What follows the readings of the fill level decides.
  have ends {r : Except Fault Unit} {s' : Station (σ × List Exchange)} {xs : List Exchange}
      (hs' : s'.log = s₁.log ++ xs)
      (h : Syncs xs r.isOk s₁.radio.packet.noted s'.radio.packet.noted) :
      ∃ meant, s'.log = s.log ++ meant ∧
        Syncs meant r.isOk s.radio.packet.noted s'.radio.packet.noted :=
    ⟨polls ++ xs, by rw [hs', hlog, List.append_assoc], (hpacket ▸ h).after hpolls⟩
  rcases r with e | ⟨⟩
  · exact ends (List.append_nil _).symm <|
      .fails (by simp [SetsLength]) (overlaid_nil _).symm
  refine ends_tell_bind (fun e w => ?_) fun buffer w =>
    ends_tell_bind (fun e w => ?_) fun header w => ?_
  · exact ends rfl <| .fails (by simp [SetsLength, Exchange.accepted?]) (overlaid_nil _).symm
  · refine ends (List.append_assoc ..) <| .fails ?_ (overlaid_nil _).symm
    simp [SetsLength, Exchange.accepted?, Command.isSetLength]
  have hread : header.toList.take Fsk.headerLength = header.toList :=
    List.take_of_length_le (Nat.le_of_eq header.length_toList)
  have hnoted : (s₁.radio.packet.write 0 header.toList).noted =
      overlaid (header.toList.take Fsk.headerLength) s₁.radio.packet.noted := by
    rw [hread, noted_write]
  have hleft : ((s₁.radio.packet.write 0 header.toList).write markerOffset marker).noted =
      (overlaid (header.toList.take Fsk.headerLength) s₁.radio.packet.noted).take markerOffset ++
        marker := by
    rw [noted_write_marker _ rfl, hnoted]
    rfl
  refine ends_bind.mpr <| ends_update.mpr <| ends_tell_bind (fun e w => ?_) fun _ w => ?_
  · refine ends (List.append_assoc .. |>.trans (List.append_assoc ..)) <| .fails ?_ hnoted
    simp [SetsLength, Exchange.accepted?, Command.isSetLength]
  · refine ends_update.mpr <| ends (List.append_assoc .. |>.trans (List.append_assoc ..)) ⟨?_, ?_⟩
    · exact iff_of_true (by simp [SetsLength, Exchange.accepted?, Command.isSetLength]) rfl
    · exact hleft

theorem ends_act_sync : (rig.recording.act .sync).Ends s fun _ s' => ∃ meant,
    s'.log = s.log ++ meant ∧
      ∃ ok, Syncs meant ok s.radio.packet.noted s'.radio.packet.noted := by
  refine ends_bind.mpr <| ends_discard.mpr <| ends_attempt.mpr <| ends_syncFsk.mono ?_
  rintro r s' ⟨meant, hlog, hsyncs⟩
  exact ⟨meant, hlog, _, hsyncs⟩

/-! ### The fetch -/

/-- A fetch without the marker is rejected for that reason, and leaves everything as it is. -/
theorem fetchFsk_unmarked (h : ¬s.radio.packet.Marked) :
    rig.recording.fetchFsk.result s = (.ok (.error .unmarked), s) := by
  rw [fetchFsk, result_bind]
  show Action.result (if _ then _ else _) s = _
  rw [if_pos h]
  rfl

theorem receiveFsk_unmarked (h : ¬s.radio.packet.Marked) :
    rig.recording.receiveFsk.result s = (.ok (some .rxError), s) := by
  rw [receiveFsk, result_bind, result_attempt, fetchFsk_unmarked h]
  rfl

/-- The exchanges of a fetch lay what it makes of the bytes that they delivered over what is noted.
They ask the chip for the packet under a condition. -/
structure Lays (asks : Prop) (made : List UInt8 → List UInt8) (noted noted' : List UInt8)
    (meant : List Exchange) : Prop where
  asks : .readRxBufferStatus ∈ meant.filterMap Exchange.given? ↔ asks
  noted : noted' = overlaid (made (delivered meant)) noted

/-- Nothing is made of nothing. -/
theorem Lays.of_none {asks : Prop} {made : List UInt8 → List UInt8} {p p' : RxPacket}
    {meant : List Exchange} (hmade : made [] = []) (hmeant : delivered meant = [])
    (hasks : .readRxBufferStatus ∈ meant.filterMap Exchange.given? ↔ asks)
    (hp : p'.noted = p.noted) : Lays asks made p.noted p'.noted meant :=
  ⟨hasks, by rw [hmeant, hmade, overlaid_nil, hp]⟩

theorem psdu_check_nil (header : Fsk.Header) : (header.check []).psdu = [] :=
  List.eq_nil_of_length_eq_zero (header.length_check [])

/-- The bytes behind the header come to stand in its place, without the whitening if it was taken
off. -/
theorem ends_fetchFrame (header : Fsk.Header) : (rig.recording.fetchFrame header).Ends s
    fun _ s' => ∃ meant, s'.log = s.log ++ meant ∧
      Lays True (header.check · |>.psdu) s.radio.packet.noted s'.radio.packet.noted meant := by
  have hnil := psdu_check_nil header
  refine ends_bind.mpr <| ends_reporting.mpr <| ends_tell_bind (fun e w => ?_) fun buffer w =>
    ends_tell_bind (fun e w => ?_) fun bytes w => ends_bind.mpr <| ends_update.mpr <|
      ends_pure.mpr ?_
  · exact ⟨_, rfl, .of_none hnil rfl (by simp [Exchange.given?]) rfl⟩
  · exact ⟨_, List.append_assoc .., .of_none hnil rfl (by simp [Exchange.given?]) rfl⟩
  refine ends_bind.mpr <| ends_update.mpr ?_
  -- The check leaves as many bytes as were read, so that it hides those.
  have hnoted : ((s.radio.packet.write 0 bytes.toList).write 0
      (header.check bytes.toList).psdu).noted =
      overlaid (header.check bytes.toList).psdu s.radio.packet.noted := by
    rw [noted_write, noted_write, overlaid_overlaid _ (header.length_check _)]
  dsimp only
  cases (header.check bytes.toList).outcome with
  | error rejection =>
    exact ⟨_, List.append_assoc .., by simp [Exchange.given?], hnoted⟩
  | ok length =>
    refine ends_bind.mpr <| ends_reporting.mpr <| ends_recording_tell fun r w => ?_
    have hlog : s.log ++ [.command .readRxBufferStatus (.ok buffer)] ++
        [.command (.readBuffer (buffer.startOffset + 2) header.length.toNat) (.ok bytes)] ++
        [.command .readFskQuality r] = _ := List.append_assoc .. |>.trans (List.append_assoc ..)
    cases r with
    | error e => exact ⟨_, hlog, by simp [Exchange.given?], hnoted⟩
    | ok raw => exact ⟨_, hlog, by simp [Exchange.given?], hnoted⟩

/-- A packet is fetched after the marker was taken away, and only if it was there. The chip is asked
for it if its header is one that can be. -/
theorem ends_act_fsk : (rig.recording.act (.packet .fsk)).Ends s fun _ s' =>
    ∃ meant, s'.log = s.log ++ meant ∧
      Lays (s.radio.packet.Marked ∧ checkHeader s.radio.packet.header = .ok ())
        (s.radio.packet.header.check · |>.psdu)
        (if s.radio.packet.Marked then s.radio.packet.noted.take markerOffset ++ [0, 0]
          else s.radio.packet.noted)
        s'.radio.packet.noted meant := by
  have hnil := psdu_check_nil s.radio.packet.header
  by_cases hmarked : s.radio.packet.Marked
  case neg =>
    rw [act, Ends, receiveFsk_unmarked hmarked, if_neg hmarked]
    exact ⟨[], (List.append_nil _).symm, .of_none hnil rfl (by simp [hmarked]) rfl⟩
  rw [if_pos hmarked]
  suffices hfetch : rig.recording.fetchFsk.Ends s fun _ s' => ∃ meant, s'.log = s.log ++ meant ∧
      Lays (checkHeader s.radio.packet.header = .ok ()) (s.radio.packet.header.check · |>.psdu)
        (s.radio.packet.noted.take markerOffset ++ [0, 0]) s'.radio.packet.noted meant by
    simp only [hmarked, true_and]
    refine ends_bind.mpr <| ends_attempt.mpr <| hfetch.mono fun r s' hlays => ?_
    rcases r with e | rejection | ⟨⟩ <;> exact hlays
  refine ends_bind.mpr <| ends_current.mpr <| ends_ite.mpr ?_
  rw [if_neg (not_not_intro hmarked)]
  refine ends_bind.mpr <| ends_update.mpr ?_
  generalize hs₁ : { s with radio := _ } = s₁
  have hlog : s₁.log = s.log := by rw [← hs₁, log, log]
  have hnoted : s₁.radio.packet.noted = s.radio.packet.noted.take markerOffset ++ [0, 0] := by
    refine Eq.trans ?_ (noted_write_marker s.radio.packet rfl)
    rw [← hs₁, noted, noted]
  rw [← hlog, ← hnoted]
  dsimp only
  cases checkHeader s.radio.packet.header with
  | error rejection =>
    exact ⟨[], (List.append_nil _).symm, .of_none hnil rfl (by simp) rfl⟩
  | ok =>
    refine (ends_fetchFrame _).mono ?_
    rintro r s' ⟨meant, hmeant, hlays⟩
    exact ⟨meant, hmeant, hlays.asks.trans (by simp), hlays.noted⟩

theorem ends_act_lora : (rig.recording.act (.packet .lora)).Ends s fun _ s' =>
    ∃ meant, s'.log = s.log ++ meant ∧
      Lays True id s.radio.packet.noted s'.radio.packet.noted meant := by
  suffices hfetch : rig.recording.fetchLora.Ends s fun _ s' => ∃ meant, s'.log = s.log ++ meant ∧
      Lays True id s.radio.packet.noted s'.radio.packet.noted meant by
    refine ends_bind.mpr <| ends_attempt.mpr <| hfetch.mono fun r s' hlays => ?_
    rcases r with e | ⟨⟩ <;> exact hlays
  refine ends_tell_bind (fun e w => ?_) fun buffer w => ends_tell_bind (fun e w => ?_)
    fun bytes w => ends_bind.mpr <| ends_update.mpr <| ends_bind.mpr ?_
  · exact ⟨_, rfl, .of_none rfl rfl (by simp [Exchange.given?]) rfl⟩
  · exact ⟨_, List.append_assoc .., .of_none rfl rfl (by simp [Exchange.given?]) rfl⟩
  have hnoted : (s.radio.packet.write 0 bytes.toList).noted =
      overlaid bytes.toList s.radio.packet.noted := noted_write _ _
  refine ends_recording_tell fun r w => ?_
  rcases r with e | raw
  · exact ⟨_, List.append_assoc .. |>.trans (List.append_assoc ..), by simp [Exchange.given?],
      hnoted⟩
  refine ends_bind.mpr <| ends_reporting.mpr <| ends_recording_tell fun r w => ?_
  rcases r with e | present
  all_goals exact ⟨_, List.append_assoc .. |>.trans (List.append_assoc ..) |>.trans
    (List.append_assoc ..), by simp [Exchange.given?], hnoted⟩

/-- Only the two steps of an FSK packet and the fetch of a LoRa packet touch the bytes. -/
theorem act_keeps_storage {meaning : Meaning} (hsync : meaning ≠ .sync)
    (hpacket : ∀ m, meaning ≠ .packet m) :
    (rig.recording.act meaning).Ends s fun _ s' =>
      s'.radio.packet.storage = s.radio.packet.storage := by
  have kept {x : Action (Station (σ × List Exchange)) (Option Event)}
      {y : Action (Station σ) (Option Event)} {gives : Command → Prop}
      (hx : Recorded rig gives [.state, .mask, .cadExit, .packet] x y) :
      x.Ends s fun _ s' => s'.radio.packet.storage = s.radio.packet.storage :=
    (hx s).2.radio .storage (by simp)
  cases meaning with
  | event | nothing | detected => exact rfl
  | quiet event => exact kept ((recorded_concludeQuiet _).widen (by simp))
  | preamble =>
    have conclude : Recorded rig anything [.state, .mask, .cadExit, .packet]
        rig.recording.concludeActivity rig.concludeActivity :=
      recorded_concludeActivity (by simp) (by simp) (by simp) (by simp) trivial trivial
        (fun _ => trivial) trivial trivial fun _ => trivial
    exact kept conclude
  | sync => exact absurd rfl hsync
  | packet m => exact absurd rfl (hpacket m)

end Rig

/-! ## Marks and fetches of a run -/

namespace Turn

/-- The chip accepted a length for the packet that it is receiving, which makes a sync step
succeed. -/
def AnnouncesLength (t : Turn) : Prop := ∃ c ∈ t.accepted, c.isSetLength

/-- The bytes that this turn fetched, if any. -/
def delivered (t : Turn) : List UInt8 := Transceiver.delivered t.exchanges

/-- An FSK packet was complete, and its fetch was tried. -/
def Fetches (t : Turn) : Prop := t.meaning? = some (.packet .fsk)

/-- The fetch found the marker. -/
def Passes (t : Turn) : Prop := t.Fetches ∧ t.before.packet.Marked

instance (t : Turn) : Decidable t.AnnouncesLength :=
  inferInstanceAs (Decidable (∃ c ∈ t.accepted, _))

instance (t : Turn) : Decidable t.Fetches := inferInstanceAs (Decidable (_ = _))

instance (t : Turn) : Decidable t.Passes := inferInstanceAs (Decidable (_ ∧ _))

end Turn

/-- What the turns of a run tell of the marker. -/
structure Marking where
  /-- The header and the place of the marker, as the bytes that the chip delivered and the steps
  that succeeded leave them. -/
  held : List UInt8 := [0, 0, 0, 0]
  /-- A sync step succeeded since the last fetch of an FSK packet. -/
  left : Bool := false
  /-- Whether the last sync step succeeded, if there was one since that fetch. -/
  synced : Option Bool := none
  deriving DecidableEq

namespace Marking

/-- The marker stands at its place. -/
def Marked (marking : Marking) : Prop := marking.held.drop RxPacket.markerOffset = RxPacket.marker

instance (marking : Marking) : Decidable marking.Marked := inferInstanceAs (Decidable (_ = _))

/-- The header that stands before that place. -/
def header (marking : Marking) : Fsk.Header := ⟨marking.held.getD 0 0, marking.held.getD 1 0⟩

/-- What the record takes over of a packet that this turn fetched. The whitening of an FSK packet is
taken off, as far as its header and its length allow. -/
def brought (marking : Marking) (t : Turn) : Modem → List UInt8
  | .fsk => (marking.header.check t.delivered).psdu
  | .lora => t.delivered

/-- What is known after a turn that served an interrupt of this meaning. A fetch takes the marker
away before it reads the packet. -/
def served (marking : Marking) (t : Turn) : Meaning → Marking
  | .sync =>
    let read := RxPacket.overlaid (t.delivered.take Fsk.headerLength) marking.held
    if t.AnnouncesLength then
      ⟨read.take RxPacket.markerOffset ++ RxPacket.marker, true, some true⟩
    else { marking with held := read, synced := some false }
  | .packet .fsk =>
    let cleared := if marking.Marked then marking.held.take RxPacket.markerOffset ++ [0, 0]
      else marking.held
    ⟨RxPacket.overlaid (marking.brought t .fsk) cleared, false, none⟩
  | .packet .lora =>
    { marking with held := RxPacket.overlaid (marking.brought t .lora) marking.held }
  | .event _ | .nothing | .quiet _ | .detected | .preamble => marking

/-- What is known after one more turn. -/
def next (marking : Marking) (t : Turn) : Marking :=
  match t.operation with
  | .processInterrupt => t.meaning?.elim marking (marking.served t)
  | _ => marking

/-- What is known after some turns. -/
def after (turns : List Turn) : Marking := turns.foldl next {}

/-- The bytes of packets form the marker, which no sync step has left since the last fetch. -/
def Forged (marking : Marking) : Prop := marking.Marked ∧ marking.left = false

/-- The last sync step failed, and the marker of one before it still stands. -/
def Stale (marking : Marking) : Prop :=
  marking.Marked ∧ marking.left = true ∧ marking.synced = some false

/-- What the record holds is what is known, and a sync step that succeeded is not forgotten. -/
structure Holds (marking : Marking) (r : Radio) : Prop where
  held : r.packet.noted = marking.held
  left : marking.left = true → marking.synced ≠ none
  synced : marking.synced = some true → marking.left = true

section Holds
variable {marking : Marking} {r r' : Radio}

theorem Holds.of_storage (h : marking.Holds r) (hr : r'.packet.storage = r.packet.storage) :
    marking.Holds r' :=
  ⟨by rw [← h.held, RxPacket.noted, RxPacket.noted, hr], h.left, h.synced⟩

theorem Holds.marked_iff (h : marking.Holds r) : r.packet.Marked ↔ marking.Marked := by
  rw [RxPacket.marked_iff, h.held, Marked]

theorem Holds.header (h : marking.Holds r) : r.packet.header = marking.header := by
  rw [RxPacket.header_eq, h.held, Marking.header]

/-- A marker that is found is that of the last sync step, or forged, or stale. -/
theorem Holds.synced_iff (h : marking.Holds r) (hmarked : marking.Marked) :
    marking.synced = some true ↔ ¬marking.Forged ∧ ¬marking.Stale := by
  cases hleft : marking.left with
  | false =>
    have hnot : marking.synced ≠ some true := fun hsynced =>
      Bool.noConfusion (hleft.symm.trans (h.synced hsynced))
    exact iff_of_false hnot fun hok => hok.1 ⟨hmarked, hleft⟩
  | true =>
    have hforged : ¬marking.Forged := fun hforged => Bool.noConfusion (hleft.symm.trans hforged.2)
    rw [and_iff_right hforged, Stale, and_iff_right hmarked, and_iff_right hleft]
    cases hsynced : marking.synced with
    | none => exact absurd hsynced (h.left hleft)
    | some ok => cases ok <;> simp

end Holds

/-! ### Turns that form no marker -/

/-- No packet brings the first byte of the marker to its place while an interrupt of this meaning is
served, and a sync step fails at most if there was none before it that succeeded. -/
def admitsServing (marking : Marking) (t : Turn) : Meaning → Bool
  | .sync => t.AnnouncesLength || !marking.left
  | .packet m => (marking.brought t m)[RxPacket.markerOffset]? != RxPacket.marker.head?
  | .event _ | .nothing | .quiet _ | .detected | .preamble => true

/-- The turn forms no marker but by a sync step of its own. -/
def admits (marking : Marking) (t : Turn) : Bool :=
  match t.operation with
  | .processInterrupt => t.meaning?.all (marking.admitsServing t)
  | _ => true

/-- The turns form no marker but by sync steps. -/
def orderly : Marking → List Turn → Bool
  | _, [] => true
  | marking, t :: turns => marking.admits t && (marking.next t).orderly turns

/-- If there is a marker, the last sync step has left it. -/
structure Sound (marking : Marking) : Prop where
  length : marking.held.length = 4
  marked : marking.Marked → marking.left = true
  left : marking.left = true → marking.synced = some true

section Sound
variable {marking : Marking} {t : Turn}

/-- Bytes that do not bring the first byte of the marker leave the marker at most where it is. -/
theorem marker_of_overlaid {bytes held : List UInt8} (hheld : held.length = 4)
    (hbytes : bytes[RxPacket.markerOffset]? ≠ RxPacket.marker.head?)
    (h : (RxPacket.overlaid bytes held).drop RxPacket.markerOffset = RxPacket.marker) :
    held.drop RxPacket.markerOffset = RxPacket.marker := by
  refine (RxPacket.drop_overlaid hheld ?_).symm.trans h
  refine Decidable.byContradiction fun hlong => hbytes ?_
  rw [← h, List.head?_drop, RxPacket.overlaid, List.getElem?_take_of_lt (by decide),
    List.getElem?_append_left (Nat.not_le.mp hlong)]

theorem sound_start : Sound {} := ⟨rfl, fun h => absurd h (by decide), nofun⟩

theorem sound_served {meaning : Meaning} (h : marking.Sound)
    (hadmits : marking.admitsServing t meaning) : (marking.served t meaning).Sound := by
  cases meaning with
  | sync =>
    have hread := RxPacket.length_overlaid (t.delivered.take Fsk.headerLength) h.length
    rw [served]
    split
    · refine ⟨?_, fun _ => rfl, fun _ => rfl⟩
      rw [List.length_append, List.length_take, hread]
      rfl
    · rename_i hset
      have hleft : marking.left = false := by simpa [admitsServing, hset] using hadmits
      have hshort : (t.delivered.take Fsk.headerLength)[RxPacket.markerOffset]? = none :=
        List.getElem?_eq_none (List.length_take_le ..)
      have hfirst : (t.delivered.take Fsk.headerLength)[RxPacket.markerOffset]? ≠
          RxPacket.marker.head? := hshort ▸ nofun
      exact ⟨hread, fun hmarked => h.marked (marker_of_overlaid h.length hfirst hmarked),
        fun hnot => Bool.noConfusion (hleft.symm.trans hnot)⟩
  | packet m =>
    have hfirst := bne_iff_ne.mp hadmits
    cases m with
    | fsk =>
      have hcleared : (if marking.Marked then
          marking.held.take RxPacket.markerOffset ++ [0, 0] else marking.held).length = 4 := by
        split
        · rw [List.length_append, List.length_take, h.length]
          rfl
        · exact h.length
      refine ⟨RxPacket.length_overlaid _ hcleared, fun hmarked => ?_, nofun⟩
      have hmarker := marker_of_overlaid hcleared hfirst hmarked
      split at hmarker
      · rw [List.drop_left' (by rw [List.length_take, h.length]; rfl)] at hmarker
        exact absurd hmarker (by decide)
      · contradiction
    | lora =>
      exact ⟨RxPacket.length_overlaid _ h.length,
        fun hmarked => h.marked (marker_of_overlaid h.length hfirst hmarked), h.left⟩
  | event | nothing | quiet | detected | preamble => exact h

theorem sound_next (h : marking.Sound) (hadmits : marking.admits t) : (marking.next t).Sound := by
  unfold admits at hadmits
  unfold next
  split
  · rename_i hop
    rw [hop] at hadmits
    cases hmeaning : t.meaning? with
    | none => exact h
    | some meaning =>
      rw [hmeaning] at hadmits
      exact sound_served h hadmits
  · exact h

theorem sound_after {turns : List Turn} (h : marking.Sound) (hturns : marking.orderly turns) :
    (turns.foldl next marking).Sound := by
  induction turns generalizing marking with
  | nil => exact h
  | cons t turns ih =>
    obtain ⟨hfirst, hrest⟩ := Bool.and_eq_true_iff.mp hturns
    exact ih (sound_next h hfirst) hrest

end Sound

end Marking

namespace Rig

open Station Transceiver.Action

variable {σ : Type} {rig : Rig σ}

section Serves
variable {marking : Marking} {t : Turn} {status : InterruptSet}
  {s s' : Station (σ × List Exchange)} {found : Except Fault (Option Event)} {meant : List Exchange}

theorem Serves.delivered (h : rig.Serves t status s found s' meant) :
    t.delivered = Transceiver.delivered meant :=
  congrArg (·.headD []) h.fetched

theorem Serves.announcesLength_iff (h : rig.Serves t status s found s' meant) :
    t.AnnouncesLength ↔ SetsLength meant := exists_congr fun _ =>
  and_congr_left fun hset => h.mem_accepted (not_isService_of_isSetLength hset)

/-- What is known of the marker stays true while an interrupt is served. -/
theorem served_marking (h : marking.Holds t.before)
    (hserves : rig.Serves t status s found s' meant) :
    (marking.served t (.of t.before status)).Holds t.after := by
  obtain ⟨time, hradio⟩ := hserves.radio
  have hs : marking.Holds s.radio := by
    rw [hradio]
    exact h.of_storage rfl
  rw [hserves.after]
  cases hmeaning : Meaning.of t.before status with
  | sync =>
    obtain ⟨ok, hsyncs⟩ := hserves.of_logs (hmeaning ▸ ends_act_sync)
    have hnoted := hsyncs.noted
    rw [hs.held, ← hserves.delivered] at hnoted
    have hset := hserves.announcesLength_iff.trans hsyncs.sets
    rw [Marking.served]
    cases ok with
    | true =>
      rw [if_pos (hset.mpr rfl)]
      exact ⟨hnoted, by simp, by simp⟩
    | false =>
      rw [if_neg fun h => Bool.noConfusion (hset.mp h)]
      exact ⟨hnoted, by simp, by simp⟩
  | packet m =>
    cases m with
    | fsk =>
      have hnoted := (hserves.of_logs (hmeaning ▸ ends_act_fsk)).noted
      rw [← hserves.delivered, hs.header, hs.held] at hnoted
      simp only [hs.marked_iff] at hnoted
      exact ⟨hnoted, by simp [Marking.served], by simp [Marking.served]⟩
    | lora =>
      have hnoted := (hserves.of_logs (hmeaning ▸ ends_act_lora)).noted
      rw [← hserves.delivered, hs.held] at hnoted
      exact ⟨hnoted, hs.left, hs.synced⟩
  | event | nothing | quiet | detected | preamble =>
    exact hs.of_storage <| hserves.of_ends <|
      act_keeps_storage (by simp [hmeaning]) (by simp [hmeaning])

end Serves

/-- What is known of the marker stays true, turn by turn. -/
theorem next_marking (marking : Marking) (s : Station σ) (op : Operation)
    (h : marking.Holds s.radio) :
    (marking.next (rig.turn s op)).Holds (rig.turn s op).after := by
  have unchanged (hop : .storage ∉ op.parts) : marking.Holds (rig.turn s op).after :=
    h.of_storage (turn_within.2 .storage hop)
  cases op with
  | processInterrupt =>
    show (((rig.turn s .processInterrupt).meaning?.elim marking _ : Marking)).Holds _
    rcases processInterrupt_cases rig s with hnothing | ⟨status, s₁, found, s₂, meant, hserves⟩
    · rw [Turn.meaning?, hnothing.reads, hnothing.after]
      exact h
    · rw [Turn.meaning?, hserves.reads]
      exact served_marking h hserves
  | _ => exact unchanged (by simp [Operation.parts])

/-- The marker in the record is the one that the turns of the run tell of. -/
theorem after_marking (w : σ) (ops : List Operation) :
    (Marking.after (rig.history ⟨{}, w⟩ ops)).Holds (rig.run ⟨{}, w⟩ ops).radio :=
  history_keeps Marking.Holds (fun s op marking => next_marking marking s op) ops {}
    ⟨rfl, nofun, nofun⟩

/-- A fetch without the marker reports an error. -/
theorem turn_unmarked {s : Station σ} (hfetches : (rig.turn s .processInterrupt).Fetches)
    (h : ¬s.radio.packet.Marked) : (rig.turn s .processInterrupt).events = [.rxError] := by
  obtain ⟨status, hstatus, hmeaning⟩ := Option.map_eq_some_iff.mp hfetches
  obtain ⟨s₁, found, s₂, meant, hserves⟩ := serves_of_status hstatus
  obtain ⟨time, hradio⟩ := hserves.radio
  have hresult := hserves.result
  have hs : ¬s₁.radio.packet.Marked := by
    rw [hradio]
    exact h
  rw [hmeaning, act, receiveFsk_unmarked hs] at hresult
  obtain ⟨rfl, -⟩ := Prod.mk.inj hresult
  exact hserves.events

/-- The chip is asked for a packet whose marker is there and whose header is one that can be. -/
theorem turn_asks_iff {s : Station σ} (hfetches : (rig.turn s .processInterrupt).Fetches) :
    .readRxBufferStatus ∈ (rig.turn s .processInterrupt).given ↔
      s.radio.packet.Marked ∧ checkHeader s.radio.packet.header = .ok () := by
  obtain ⟨status, hstatus, hmeaning⟩ := Option.map_eq_some_iff.mp hfetches
  obtain ⟨s₁, found, s₂, meant, hserves⟩ := serves_of_status hstatus
  obtain ⟨time, hradio⟩ := hserves.radio
  have hlays := hserves.of_logs (hmeaning ▸ ends_act_fsk)
  rw [hserves.mem_given id, hlays.asks, hradio]
  rfl

/-- **A fetch goes by the bytes that were delivered.** A fetch gets past the check of the marker
exactly if the marker stands at its place, as the bytes that the chip delivered before and the sync
steps that succeeded have left it. The chip is then asked for the packet, if its header is one that
can be, and otherwise an error is reported. So a fetch is one after a sync step of its own, unless
bytes of packets form the marker or a sync step that failed has left that of one before. In a run
whose turns do neither, no fetch passes without a sync step of its own. -/
theorem passes_iff_marked (rig : Rig σ) (w : σ) (ops : List Operation) :
    let t := rig.turn (rig.run ⟨{}, w⟩ ops) .processInterrupt
    let marking := Marking.after (rig.history ⟨{}, w⟩ ops)
    (t.Passes ↔ t.Fetches ∧ marking.Marked) ∧
      (t.Fetches → (.readRxBufferStatus ∈ t.given ↔
        marking.Marked ∧ checkHeader marking.header = .ok ())) ∧
      (t.Fetches → ¬marking.Marked → t.events = [.rxError]) ∧
      ((t.Passes → marking.synced = some true) ↔
        ¬(t.Fetches ∧ (marking.Forged ∨ marking.Stale))) ∧
      (Marking.orderly {} (rig.history ⟨{}, w⟩ ops) →
        (t.Passes → marking.synced = some true) ∧
          (t.Fetches → marking.synced ≠ some true → t.events = [.rxError])) := by
  intro t marking
  have h : marking.Holds t.before := after_marking w ops
  have hpasses : t.Passes ↔ t.Fetches ∧ marking.Marked := and_congr_right fun _ => h.marked_iff
  have hasks (hfetches : t.Fetches) : .readRxBufferStatus ∈ t.given ↔
      marking.Marked ∧ checkHeader marking.header = .ok () := by
    rw [← h.marked_iff, ← h.header]
    exact turn_asks_iff hfetches
  have hunmarked (hfetches : t.Fetches) (hmarked : ¬marking.Marked) : t.events = [.rxError] :=
    turn_unmarked hfetches fun hbefore => hmarked (h.marked_iff.mp hbefore)
  refine ⟨hpasses, hasks, hunmarked, ?_, fun horderly => ?_⟩
  · rw [hpasses]
    constructor
    · rintro hsynced ⟨hfetches, hforged | hstale⟩
      · exact ((h.synced_iff hforged.1).mp (hsynced ⟨hfetches, hforged.1⟩)).1 hforged
      · exact ((h.synced_iff hstale.1).mp (hsynced ⟨hfetches, hstale.1⟩)).2 hstale
    · rintro hneither ⟨hfetches, hmarked⟩
      exact (h.synced_iff hmarked).mpr ⟨fun hforged => hneither ⟨hfetches, .inl hforged⟩,
        fun hstale => hneither ⟨hfetches, .inr hstale⟩⟩
  · have hsound : marking.Sound := Marking.sound_after Marking.sound_start horderly
    exact ⟨fun h => hsound.left (hsound.marked (hpasses.mp h).2), fun hfetches hsynced =>
      hunmarked hfetches fun hmarked => hsynced (hsound.left (hsound.marked hmarked))⟩

/-- A packet in a run that forms no other marker. It is fetched after its sync step, and the
interrupt that follows without one is an error. -/
theorem passes_iff_marked_plain :
    let rig := Bench.rig { bytes := [24, 5, 14, 114, 176, 14, 114] }
    let s : Station (List InterruptSet) := ⟨{}, [{.syncWordValid}, {.rxDone}, {.rxDone}]⟩
    let ops := [.setModem .fsk, .standby, .startRx 1000, .processInterrupt]
    (rig.turn (rig.run s ops) .processInterrupt).Passes ∧
      (Marking.after (rig.history s ops)).synced = some true ∧
      (rig.turn (rig.run s (ops ++ [.processInterrupt])) .processInterrupt).events = [.rxError] := by
  intro rig s ops
  obtain ⟨hpasses, -, -, -, hsynced⟩ := passes_iff_marked rig s.world ops
  obtain ⟨-, -, -, -, hnot⟩ := passes_iff_marked rig s.world (ops ++ [.processInterrupt])
  have h : (rig.turn (rig.run s ops) .processInterrupt).Passes :=
    hpasses.mpr ⟨by decide +kernel, by decide +kernel⟩
  exact ⟨h, (hsynced (by decide +kernel)).1 h,
    (hnot (by decide +kernel)).2 (by decide +kernel) (by decide +kernel)⟩

/-- The payload of a packet looks like a header followed by the marker. Once it was received, the
next packet is taken without a sync step: it is reported as received, not as an error. -/
theorem passes_unsynced :
    let rig := Bench.rig { bytes := [0x10, 6, 0x10, 6, 0xAB, 0xBA, 0x6E, 0x12] }
    let s : Station (List InterruptSet) := ⟨{}, [{.syncWordValid}, {.rxDone}, {.rxDone}]⟩
    let ops := [.setModem .fsk, .standby, .startRx 1000, .processInterrupt, .processInterrupt]
    let t := rig.turn (rig.run s ops) .processInterrupt
    let marking := Marking.after (rig.history s ops)
    t.Passes ∧ marking.synced = none ∧ t.events = [.rxDone] := by
  decide +kernel

end Rig

end Transceiver
