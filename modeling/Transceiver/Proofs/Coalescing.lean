import Transceiver.Proofs.Arming
import Transceiver.Proofs.Window

/-! Interrupts that coalesce. The status is read and cleared at once, so what an earlier branch of
the dispatch leaves undone is lost. A packet that is complete is delivered in LoRa whatever else is
in the status; in FSK it is lost if the status also tells of a preamble or of a sync word. -/

namespace Transceiver

/-- No conclusion that both modems know is in the status. -/
structure InterruptSet.LeftToModem (status : InterruptSet) : Prop where
  txDone : .txDone ∉ status
  crcError : .crcError ∉ status
  timeout : .timeout ∉ status
  headerError : .headerError ∉ status

section Meaning
variable {r : Radio} {status : InterruptSet}

theorem Meaning.of_lora (h : status.LeftToModem) (hmodem : r.modem = .lora) :
    Meaning.of r status = .lora status := by
  rw [of, if_neg h.txDone, if_neg h.crcError, if_neg h.timeout, if_neg h.headerError, hmodem]

theorem Meaning.of_fsk (h : status.LeftToModem) (hmodem : r.modem = .fsk) :
    Meaning.of r status = .fsk status := by
  rw [of, if_neg h.txDone, if_neg h.crcError, if_neg h.timeout, if_neg h.headerError, hmodem]

theorem Meaning.lora_eq_packet (hcad : .cadDone ∉ status) (hdone : .rxDone ∈ status) :
    Meaning.lora status = .packet .lora := by
  rw [lora, if_neg hcad, if_pos hdone]

theorem Meaning.fsk_eq_sync (h : .syncWordValid ∈ status) : Meaning.fsk status = .sync := by
  rw [fsk, if_pos h]

theorem Meaning.fsk_eq_preamble (hsync : .syncWordValid ∉ status)
    (hpreamble : .preambleDetected ∈ status) : Meaning.fsk status = .preamble := by
  rw [fsk, if_neg hsync, if_pos hpreamble]

theorem Meaning.fsk_eq_packet (hsync : .syncWordValid ∉ status)
    (hpreamble : .preambleDetected ∉ status) (hdone : .rxDone ∈ status) :
    Meaning.fsk status = .packet .fsk := by
  rw [fsk, if_neg hsync, if_neg hpreamble, if_pos hdone]

end Meaning

/-- The log tells of a status that the chip reported. -/
def Station.Reported {σ : Type} (s : Station (σ × List Exchange)) : Prop :=
  ∃ status, .command .takeInterrupts (.ok status) ∈ s.log

namespace Rig

open Station Transceiver.Action

variable {σ α β : Type} {rig : Rig σ}

/-! ## Steps that succeed exactly if nothing is refused -/

/-- The step succeeds exactly if the chip refuses none of its commands. -/
def Candid (x : Action (Station (σ × List Exchange)) α) : Prop :=
  ∀ s, x.Ends s fun r s' => ∃ xs, s'.log = s.log ++ xs ∧ (r.isOk = true ↔ Smooth xs)

namespace Candid
variable {x : Action (Station (σ × List Exchange)) α}

/-- A step that gives the chip no command, and does not fail. -/
theorem of_silent (h : ∀ s, x.Ends s fun r s' => r.isOk = true ∧ s'.log = s.log) : Candid x :=
  fun s => (h s).mono fun _ _ ⟨hok, hlog⟩ =>
    ⟨[], hlog.trans (List.append_nil _).symm, iff_of_true hok (List.forall_mem_nil _)⟩

protected theorem pure (a : α) : Candid (pure a : Action (Station (σ × List Exchange)) α) :=
  of_silent fun _ => ⟨rfl, rfl⟩

theorem current : Candid (Station.current (σ := σ × List Exchange)) :=
  of_silent fun _ => ⟨rfl, rfl⟩

theorem update (f : Radio → Radio) : Candid (Station.update (σ := σ × List Exchange) f) :=
  of_silent fun _ => ⟨rfl, rfl⟩

theorem tell (c : Command) : Candid (rig.recording.tell c) := fun s =>
  ends_recording_tell fun r w => ⟨[.command c r], rfl, by cases r <;> simp [Smooth, Exchange.fails,
    Except.isOk, Except.toBool]⟩

theorem reporting (hx : Candid x) (f : Fault) : Candid (Action.reporting f x) := fun s => by
  refine ends_reporting.mpr <| (hx s).mono fun r s' ⟨xs, hlog, hok⟩ => ⟨xs, hlog, ?_⟩
  rw [← hok]
  cases r <;> rfl

protected theorem ite {c : Prop} {_ : Decidable c} {y : Action (Station (σ × List Exchange)) α}
    (hx : Candid x) (hy : Candid y) : Candid (if c then x else y) := by
  split
  · exact hx
  · exact hy

protected theorem bind {f : α → Action (Station (σ × List Exchange)) β} (hx : Candid x)
    (hf : ∀ a, Candid (f a)) : Candid (x >>= f) := fun s => by
  refine ends_bind.mpr <| (hx s).mono fun r s₁ ⟨xs, hlog, hok⟩ => ?_
  cases r with
  | error e => exact ⟨xs, hlog, hok⟩
  | ok a =>
    refine (hf a s₁).mono fun r s' ⟨ys, hlog', hok'⟩ => ⟨xs ++ ys, ?_, ?_⟩
    · rw [hlog', hlog, List.append_assoc]
    · exact hok'.trans ((and_iff_right (hok.mp rfl)).symm.trans List.forall_mem_append.symm)

end Candid

theorem candid_fetchLora : Candid rig.recording.fetchLora := by
  refine (Candid.tell _).bind fun buffer => (Candid.tell _).bind fun bytes => ?_
  refine (Candid.update _).bind fun _ => (Candid.tell _).bind fun raw => ?_
  exact ((Candid.tell _).reporting _).bind fun _ => .update _

theorem candid_readPsdu (header : Fsk.Header) : Candid (rig.recording.readPsdu header) := by
  refine .reporting ((Candid.tell _).bind fun buffer => (Candid.tell _).bind fun bytes => ?_) _
  exact (Candid.update _).bind fun _ => .pure _

theorem candid_fetchFrame (header : Fsk.Header) : Candid (rig.recording.fetchFrame header) := by
  refine (candid_readPsdu header).bind fun psdu => (Candid.update _).bind fun _ => ?_
  cases (header.check psdu).outcome with
  | error rejection => exact .pure _
  | ok length =>
    exact ((Candid.tell _).reporting _).bind fun raw => (Candid.update _).bind fun _ => .pure _

/-- A packet that is rejected was fetched all the same. -/
theorem candid_fetchFsk : Candid rig.recording.fetchFsk := by
  refine Candid.current.bind fun r => .ite (.pure _) <| (Candid.update _).bind fun _ => ?_
  cases checkHeader r.packet.header with
  | error rejection => exact .pure _
  | ok => exact candid_fetchFrame _

/-! ## Packets that are received -/

section Receive
variable {s : Station (σ × List Exchange)}

/-- A LoRa packet is delivered, unless the chip refuses a command. -/
theorem ends_receiveLora : rig.recording.receiveLora.Ends s fun r s' =>
    ∃ xs, s'.log = s.log ++ xs ∧
      (Smooth xs ∧ r = .ok (some .rxDone) ∨ ¬Smooth xs ∧ r = .ok none) := by
  refine ends_bind.mpr <| ends_attempt.mpr <| (candid_fetchLora s).mono fun r s' h => ?_
  obtain ⟨xs, hlog, hok⟩ := h
  rcases r with e | ⟨⟩
  · exact ⟨xs, hlog, .inr ⟨fun hsmooth => (nomatch hok.mpr hsmooth), rfl⟩⟩
  · exact ⟨xs, hlog, .inl ⟨hok.mp rfl, rfl⟩⟩

/-- An FSK packet is delivered or rejected, unless the chip refuses a command. -/
theorem ends_receiveFsk : rig.recording.receiveFsk.Ends s fun r s' =>
    ∃ xs, s'.log = s.log ++ xs ∧
      (Smooth xs ∧ (r = .ok (some .rxDone) ∨ r = .ok (some .rxError)) ∨
        ¬Smooth xs ∧ r = .ok none) := by
  refine ends_bind.mpr <| ends_attempt.mpr <| (candid_fetchFsk s).mono fun r s' h => ?_
  obtain ⟨xs, hlog, hok⟩ := h
  rcases r with e | rejection | ⟨⟩
  · exact ⟨xs, hlog, .inr ⟨fun hsmooth => (nomatch hok.mpr hsmooth), rfl⟩⟩
  · exact ⟨xs, hlog, .inl ⟨hok.mp rfl, .inr rfl⟩⟩
  · exact ⟨xs, hlog, .inl ⟨hok.mp rfl, .inl rfl⟩⟩

theorem smooth_receiveLora :
    rig.recording.receiveLora.Ends s fun r s' => Smooth s'.log → r = .ok (some .rxDone) := by
  refine Ends.mono ends_receiveLora fun r s' ⟨xs, hlog, h⟩ hsmooth => ?_
  rw [hlog] at hsmooth
  exact (h.resolve_right fun hnot => hnot.1 (List.forall_mem_append.mp hsmooth).2).2

theorem smooth_receiveFsk :
    rig.recording.receiveFsk.Ends s fun r s' =>
      Smooth s'.log → r = .ok (some .rxDone) ∨ r = .ok (some .rxError) := by
  refine Ends.mono ends_receiveFsk fun r s' ⟨xs, hlog, h⟩ hsmooth => ?_
  rw [hlog] at hsmooth
  exact (h.resolve_right fun hnot => hnot.1 (List.forall_mem_append.mp hsmooth).2).2

end Receive

/-! ## The status -/

section Status
variable {s : Station (σ × List Exchange)}

theorem reported_of_recorded {gives : Command → Prop} {parts : List Part}
    {x : Action (Station (σ × List Exchange)) α} {y : Action (Station σ) α}
    (h : Recorded rig gives parts x y) : x.Keeps Reported := by
  rintro s ⟨status, hstatus⟩
  obtain ⟨xs, hlog, -⟩ := (h s).2.log
  refine ⟨status, ?_⟩
  rw [hlog]
  exact List.mem_append_left _ hstatus

/-- A radio that no scan owns reads the status, if the chip refuses nothing. -/
theorem reported_processInterrupt (hscan : s.radio.state ≠ .scan) :
    rig.recording.processInterrupt.Ends s fun _ s' => Smooth s'.log → s'.Reported := by
  have dispatched : rig.recording.dispatch.Ends s fun _ s' => Smooth s'.log → s'.Reported := by
    refine smooth_tell_bind fun _ _ => smooth_tell_bind fun status _ => ?_
    have attend : Recorded rig anything [.packet] (rig.recording.attend status)
      (rig.attend status) := recorded_attend status (by simp) trivial
    have rest : Keeps Reported (do
        rig.recording.attend status
        rig.recording.act (.of (← current) status)) :=
      (reported_of_recorded attend).bind fun _ => keeps_current.bind fun _ =>
        reported_of_recorded (recorded_act _)
    exact (rest _ ⟨status, by simp [log]⟩).mono fun _ _ h _ => h
  refine ends_bind.mpr <| ends_current.mpr <| ends_ite.mpr <| (if_neg hscan).mpr ?_
  refine ends_bind.mpr <| ends_attempt.mpr <| dispatched.mono fun found s₁ h₁ => ?_
  have conclude : Recorded rig anything [.listener] (rig.recording.conclude found)
    (rig.conclude found) := recorded_conclude _ (fun _ => trivial) (by simp)
  obtain ⟨xs, hlog, -⟩ := (conclude s₁).2.log
  intro hsmooth
  rw [hlog] at hsmooth
  exact reported_of_recorded conclude s₁ (h₁ hsmooth.of_append)

end Status

/-! ## Turns -/

section Turns
variable {s : Station σ} {status : InterruptSet}

theorem turn_reads (hscan : s.radio.state ≠ .scan)
    (hsmooth : (rig.turn s .processInterrupt).IsSmooth) :
    ∃ status, (rig.turn s .processInterrupt).status? = some status := by
  have hends : rig.recording.processInterrupt.Ends s.recorded fun _ s' =>
      Smooth s'.log → s'.Reported := reported_processInterrupt hscan
  obtain ⟨status, hstatus⟩ := hends hsmooth
  have hfound : status ∈ (rig.turn s .processInterrupt).exchanges.filterMap Exchange.status? :=
    List.mem_filterMap.mpr ⟨_, hstatus, rfl⟩
  exact ⟨_, List.head?_eq_some_head (List.ne_nil_of_mem hfound)⟩

/-- What a turn in which nothing is refused makes of a status is what the status means. -/
theorem serves_smooth (hsmooth : (rig.turn s .processInterrupt).IsSmooth)
    (hstatus : (rig.turn s .processInterrupt).status? = some status) :
    ∃ time world, (rig.recording.act (.of s.radio status)).Ends
      ⟨s.radio.receivedAt time, world⟩ fun found s' => Smooth s'.log ∧
        (rig.turn s .processInterrupt).after = s'.radio ∧
        (rig.turn s .processInterrupt).events = announced found := by
  obtain ⟨s₁, found, s₂, meant, h⟩ := serves_of_status hstatus
  obtain ⟨time, hradio⟩ := h.radio
  have hradio : s₁.radio = s.radio.receivedAt time := hradio
  have hresult : (rig.recording.act (.of s.radio status)).result s₁ = (found, s₂) := h.result
  refine ⟨time, s₁.world, ?_⟩
  rw [← hradio, Action.Ends, hresult]
  obtain ⟨rest, hrest⟩ := h.passed
  have hsmooth : Smooth (rig.turn s .processInterrupt).exchanges := hsmooth
  rw [← hrest] at hsmooth
  exact ⟨hsmooth.of_append, h.after, h.events⟩

end Turns

end Rig

namespace Turn

/-- A packet was delivered or rejected in this turn. -/
def FinishesPacket (t : Turn) : Prop := t.events = [.rxDone] ∨ t.events = [.rxError]

instance (t : Turn) : Decidable t.FinishesPacket := inferInstanceAs (Decidable (_ ∨ _))

theorem not_finishesPacket {t : Turn} (h : t.events = []) : ¬t.FinishesPacket := by
  rintro (hdone | herror)
  · rw [h] at hdone
    cases hdone
  · rw [h] at herror
    cases herror

end Turn

namespace Rig

open Station Transceiver.Action

variable {σ : Type} {rig : Rig σ} {s : Station σ} {status : InterruptSet}

/-- A LoRa packet that is complete is delivered, whatever else the status tells, unless an activity
detection is done as well. -/
theorem turn_finishes_lora (hmodem : s.radio.modem = .lora)
    (hsmooth : (rig.turn s .processInterrupt).IsSmooth)
    (hstatus : (rig.turn s .processInterrupt).status? = some status) (hleft : status.LeftToModem)
    (hcad : .cadDone ∉ status) (hdone : .rxDone ∈ status) :
    (rig.turn s .processInterrupt).events = [.rxDone] := by
  obtain ⟨time, world, hact⟩ := serves_smooth hsmooth hstatus
  rw [Meaning.of_lora hleft hmodem, Meaning.lora_eq_packet hcad hdone] at hact
  obtain ⟨hsmooth, -, hevents⟩ := hact
  have hfound : rig.recording.receiveLora.Ends ⟨s.radio.receivedAt time, world⟩ fun r s' =>
      Smooth s'.log → r = .ok (some .rxDone) := smooth_receiveLora
  rw [hevents]
  exact congrArg announced (hfound hsmooth)

section Fsk
-- an FSK radio that serves an interrupt which neither modem takes for a conclusion
variable (hmodem : s.radio.modem = .fsk) (hsmooth : (rig.turn s .processInterrupt).IsSmooth)
  (hstatus : (rig.turn s .processInterrupt).status? = some status) (hleft : status.LeftToModem)
include hmodem hsmooth hstatus hleft

/-- A sync word is all that is served, and nothing is reported. -/
theorem turn_sync (hsync : .syncWordValid ∈ status) :
    (rig.turn s .processInterrupt).events = [] ∧
      (rig.turn s .processInterrupt).after.cadExit = s.radio.cadExit := by
  obtain ⟨time, world, hact⟩ := serves_smooth hsmooth hstatus
  rw [Meaning.of_fsk hleft hmodem, Meaning.fsk_eq_sync hsync] at hact
  obtain ⟨-, hafter, hevents⟩ := hact
  have hfound : (rig.recording.act .sync).Ends ⟨s.radio.receivedAt time, world⟩
      fun found _ => found = .ok none :=
    ends_bind.mpr <| ends_discard.mpr <| ends_attempt.mpr <| Ends.mono (Q := fun _ _ => True)
      trivial fun _ _ _ => rfl
  have hkept : (rig.recording.act .sync).Ends ⟨s.radio.receivedAt time, world⟩ fun _ s' =>
      (s.radio.receivedAt time).AgreesBut [.packet, .storage] s'.radio := act_of_not_concludes nofun
  rw [hevents, hafter]
  exact ⟨congrArg announced hfound, hkept .cadExit (by simp)⟩

/-- A preamble is not reported outside of a carrier sense window, and concludes one otherwise. -/
theorem turn_preamble (hsync : .syncWordValid ∉ status) (hpreamble : .preambleDetected ∈ status) :
    (s.radio.cadExit = .none → (rig.turn s .processInterrupt).events = []) ∧
      (s.radio.cadExit ≠ .none → (rig.turn s .processInterrupt).after.cadExit = .none ∧
        (rig.turn s .processInterrupt).after.mask = .fskDefault) := by
  obtain ⟨time, world, hact⟩ := serves_smooth hsmooth hstatus
  rw [Meaning.of_fsk hleft hmodem, Meaning.fsk_eq_preamble hsync hpreamble] at hact
  obtain ⟨-, hafter, hevents⟩ := hact
  constructor
  · intro hidle
    have hfound : (rig.recording.act .preamble).Ends ⟨s.radio.receivedAt time, world⟩
        fun found _ => found = .ok none := by
      refine ends_bind.mpr <| ends_current.mpr ?_
      dsimp only [Radio.receivedAt]
      rw [hidle]
      exact rfl
    rw [hevents]
    exact congrArg announced hfound
  · intro hwindow
    have hconcludes : Meaning.concludes s.radio.cadExit .preamble = true := decide_eq_true hwindow
    have hended : (rig.recording.act .preamble).Ends ⟨s.radio.receivedAt time, world⟩ fun _ s' =>
      s'.radio.cadExit = .none ∧ s'.radio.mask = .defaultFor s.radio.modem :=
      act_of_concludes hconcludes
    rw [hmodem] at hended
    rw [hafter]
    exact hended

/-- A packet that is complete is delivered or rejected, if the status tells of nothing before. -/
theorem turn_finishes (hsync : .syncWordValid ∉ status) (hpreamble : .preambleDetected ∉ status)
    (hdone : .rxDone ∈ status) : (rig.turn s .processInterrupt).FinishesPacket := by
  obtain ⟨time, world, hact⟩ := serves_smooth hsmooth hstatus
  rw [Meaning.of_fsk hleft hmodem, Meaning.fsk_eq_packet hsync hpreamble hdone] at hact
  obtain ⟨hsmooth, -, hevents⟩ := hact
  have hfound : rig.recording.receiveFsk.Ends ⟨s.radio.receivedAt time, world⟩ fun r s' =>
      Smooth s'.log → r = .ok (some .rxDone) ∨ r = .ok (some .rxError) := smooth_receiveFsk
  rw [Turn.FinishesPacket, hevents]
  exact (hfound hsmooth).imp (congrArg announced) (congrArg announced)

theorem turn_finishes_iff (hidle : s.radio.cadExit = .none) (hdone : .rxDone ∈ status) :
    ((rig.turn s .processInterrupt).FinishesPacket ↔
        .syncWordValid ∉ status ∧ .preambleDetected ∉ status) ∧
      ((rig.turn s .processInterrupt).events = [] ↔
        .syncWordValid ∈ status ∨ .preambleDetected ∈ status) := by
  by_cases hearlier : .syncWordValid ∈ status ∨ .preambleDetected ∈ status
  · have hnothing : (rig.turn s .processInterrupt).events = [] := by
      by_cases hsync : .syncWordValid ∈ status
      · exact (turn_sync hmodem hsmooth hstatus hleft hsync).1
      · have hpreamble := hearlier.resolve_left hsync
        exact (turn_preamble hmodem hsmooth hstatus hleft hsync hpreamble).1 hidle
    refine ⟨iff_of_false (Turn.not_finishesPacket hnothing) ?_, iff_of_true hnothing hearlier⟩
    intro ⟨hsync, hpreamble⟩
    exact hearlier.elim hsync hpreamble
  · obtain ⟨hsync, hpreamble⟩ := not_or.mp hearlier
    have hfinishes := turn_finishes hmodem hsmooth hstatus hleft hsync hpreamble hdone
    refine ⟨iff_of_true hfinishes ⟨hsync, hpreamble⟩, iff_of_false ?_ hearlier⟩
    exact fun hnothing => Turn.not_finishesPacket hnothing hfinishes

theorem turn_ends_window_iff (hwindow : s.radio.cadExit ≠ .none)
    (hpreamble : .preambleDetected ∈ status) :
    (rig.turn s .processInterrupt).after.cadExit = .none ∧
      (rig.turn s .processInterrupt).after.mask = .fskDefault ↔ .syncWordValid ∉ status := by
  constructor
  · intro ⟨hexit, _⟩ hsync
    have hkept := (turn_sync hmodem hsmooth hstatus hleft hsync).2
    exact hwindow (hkept.symm.trans hexit)
  · intro hsync
    exact (turn_preamble hmodem hsmooth hstatus hleft hsync hpreamble).2 hwindow

end Fsk

/-- What an FSK radio makes of interrupts that coalesce, if the chip refuses nothing. Outside of a
carrier sense window a packet that is complete is delivered or rejected exactly if neither a sync
word nor a preamble is in the same status, and otherwise nothing is reported at all. In a window a
preamble concludes it exactly if no sync word is in the same status. -/
theorem finishes_iff_alone (rig : Rig σ) (s : Station σ) (hmodem : s.radio.modem = .fsk)
    (hscan : s.radio.state ≠ .scan) (hsmooth : (rig.turn s .processInterrupt).IsSmooth) :
    ∃ status, (rig.turn s .processInterrupt).status? = some status ∧ (status.LeftToModem →
      (s.radio.cadExit = .none → .rxDone ∈ status →
        ((rig.turn s .processInterrupt).FinishesPacket ↔
          .syncWordValid ∉ status ∧ .preambleDetected ∉ status) ∧
        ((rig.turn s .processInterrupt).events = [] ↔
          .syncWordValid ∈ status ∨ .preambleDetected ∈ status)) ∧
      (s.radio.cadExit ≠ .none → .preambleDetected ∈ status →
        ((rig.turn s .processInterrupt).after.cadExit = .none ∧
          (rig.turn s .processInterrupt).after.mask = .fskDefault ↔ .syncWordValid ∉ status))) := by
  obtain ⟨status, hstatus⟩ := turn_reads hscan hsmooth
  refine ⟨status, hstatus, fun hleft => ⟨?_, ?_⟩⟩
  · exact turn_finishes_iff hmodem hsmooth hstatus hleft
  · exact turn_ends_window_iff hmodem hsmooth hstatus hleft

/-- A packet that is complete while no carrier sense is in progress. -/
theorem finishes_iff_alone_receiving :
    let rig := Bench.rig {}
    let s := rig.run ⟨{}, [{.rxDone}]⟩ [.powerUp, .setModem .fsk, .startRx 1000]
    s.radio.modem = .fsk ∧ s.radio.cadExit = .none ∧
      (rig.turn s .processInterrupt).FinishesPacket := by
  intro rig s
  have hmodem : s.radio.modem = .fsk := by decide +kernel
  have hidle : s.radio.cadExit = .none := by decide +kernel
  have hread : (rig.turn s .processInterrupt).status? = some {.rxDone} := by decide +kernel
  obtain ⟨status, hstatus, hturn⟩ :=
    finishes_iff_alone rig s hmodem (by decide +kernel) (by decide +kernel)
  obtain rfl : status = {.rxDone} := Option.some.inj (hstatus.symm.trans hread)
  have hleft : InterruptSet.LeftToModem {.rxDone} :=
    ⟨by decide, by decide, by decide, by decide⟩
  exact ⟨hmodem, hidle, ((hturn hleft).1 hidle (by decide)).1.mpr ⟨by decide, by decide⟩⟩

/-- Three radios that lose what they were told: a packet beside a sync word, a packet beside a
preamble, and a preamble beside a sync word in a carrier sense window. -/
theorem lost_beside :
    let rig := Bench.rig {}
    let receiving (statuses : List InterruptSet) : Station (List InterruptSet) :=
      rig.run ⟨{}, statuses⟩ [.powerUp, .setModem .fsk, .startRx 1000]
    let sensing (statuses : List InterruptSet) : Station (List InterruptSet) :=
      rig.run ⟨{}, statuses⟩ [.powerUp, .setModem .fsk, .startCarrierSense ⟨1000, -80⟩ .csRx]
    let synced := rig.turn (receiving [{.rxDone, .syncWordValid}]) .processInterrupt
    let preceded := rig.turn (receiving [{.rxDone, .preambleDetected}]) .processInterrupt
    let sensed := rig.turn (sensing [{.preambleDetected, .syncWordValid}]) .processInterrupt
    (synced.IsSmooth ∧ synced.status? = some {.rxDone, .syncWordValid} ∧
        synced.before.modem = .fsk ∧ synced.before.cadExit = .none ∧ synced.events = []) ∧
      (preceded.IsSmooth ∧ preceded.status? = some {.rxDone, .preambleDetected} ∧
        preceded.before.modem = .fsk ∧ preceded.before.cadExit = .none ∧ preceded.events = []) ∧
      (sensed.IsSmooth ∧ sensed.status? = some {.preambleDetected, .syncWordValid} ∧
        sensed.before.modem = .fsk ∧ sensed.before.cadExit = .csRx ∧
        sensed.after.cadExit = .csRx ∧ sensed.after.mask = .carrierSense) := by
  decide +kernel

end Rig

end Transceiver
