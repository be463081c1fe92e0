import Transceiver.Proofs.Coalescing
import Transceiver.Proofs.Rearming

/-! Conclusions that are accounted for. The status is cleared as it is read, so a conclusion that a
dispatch drops is not told again: the dispatch should fail, report an event, or transmit on the
quiet channel that it found. Two conclusions are dropped in silence: a packet that the chip refuses
to give away, and a transmission on a quiet channel that is not started. -/

namespace Transceiver

/-- The status tells a radio with this modem that something ended. -/
def InterruptSet.HasConclusion (status : InterruptSet) (modem : Modem) : Prop :=
  .txDone ∈ status ∨ .crcError ∈ status ∨ .timeout ∈ status ∨ .headerError ∈ status ∨
    match modem with
    | .lora => .cadDone ∈ status ∨ .rxDone ∈ status
    | .fsk => .rxDone ∈ status ∧ .syncWordValid ∉ status ∧ .preambleDetected ∉ status

/-- The interrupt tells that something ended. -/
def Meaning.isConclusion : Meaning → Bool
  | .event _ | .quiet _ | .detected | .packet _ => true
  | .nothing | .preamble | .sync => false

/-- The interrupt tells that a packet is complete. -/
def Meaning.isReception : Meaning → Bool
  | .packet _ => true
  | _ => false

section Meaning
variable (r : Radio) (status : InterruptSet)

theorem Meaning.isConclusion_lora :
    (Meaning.lora status).isConclusion ↔ .cadDone ∈ status ∨ .rxDone ∈ status := by
  unfold lora
  by_cases hcad : .cadDone ∈ status
  · by_cases hdetected : .cadDetected ∈ status <;> simp [hcad, hdetected, isConclusion]
  · by_cases hdone : .rxDone ∈ status <;> simp [hcad, hdone, isConclusion]

theorem Meaning.isConclusion_fsk : (Meaning.fsk status).isConclusion ↔
    .rxDone ∈ status ∧ .syncWordValid ∉ status ∧ .preambleDetected ∉ status := by
  unfold fsk
  by_cases hsync : .syncWordValid ∈ status
  · simp [hsync, isConclusion]
  by_cases hpreamble : .preambleDetected ∈ status
  · simp [hsync, hpreamble, isConclusion]
  by_cases hdone : .rxDone ∈ status <;> simp [hsync, hpreamble, hdone, isConclusion]

theorem Meaning.isConclusion_of_iff :
    (Meaning.of r status).isConclusion ↔ status.HasConclusion r.modem := by
  unfold Meaning.of InterruptSet.HasConclusion
  by_cases htx : .txDone ∈ status
  · simp [htx, isConclusion]
  by_cases hcrc : .crcError ∈ status
  · simp [hcrc, htx, isConclusion]
  by_cases htimeout : .timeout ∈ status
  · by_cases hstate : r.state = .tx <;> simp [htx, hcrc, htimeout, hstate, isConclusion]
  by_cases hheader : .headerError ∈ status
  · simp [htx, hcrc, htimeout, hheader, isConclusion]
  simp only [htx, hcrc, htimeout, hheader, if_false, false_or]
  cases r.modem with
  | lora => exact isConclusion_lora status
  | fsk => exact isConclusion_fsk status

end Meaning

/-! ## Commands that are refused -/

instance (c : Command) : Decidable c.IsService := by
  unfold Command.IsService
  split <;> infer_instance

/-- The command that was given and refused. -/
def Exchange.refused? : Exchange → Option Command
  | .command c (.error _) => some c
  | _ => none

theorem Exchange.given_of_refused {x : Exchange} {c : Command} (h : x.refused? = some c) :
    x.given? = some c := by
  rcases x with ⟨_, _ | _⟩ | _ | _ | _ | _ <;> cases h
  rfl

theorem smooth_iff {xs : List Exchange} : Smooth xs ↔ xs.filterMap Exchange.refused? = [] := by
  rw [List.filterMap_eq_nil_iff]
  refine forall_congr' fun x => imp_congr_right fun _ => ?_
  rcases x with ⟨_, _ | _⟩ | _ | _ | _ | _ <;> simp [Exchange.fails, Exchange.refused?]

theorem not_smooth_iff {xs : List Exchange} :
    ¬Smooth xs ↔ ∃ c, c ∈ xs.filterMap Exchange.refused? := by
  rw [smooth_iff]
  exact ⟨List.exists_mem_of_ne_nil _, fun ⟨_, hc⟩ => List.ne_nil_of_mem hc⟩

namespace Turn

/-- The chip refused a command of this turn that depends on what the interrupt meant. -/
def IsRefused (t : Turn) : Prop := ∃ c ∈ t.exchanges.filterMap Exchange.refused?, ¬c.IsService

/-- This turn found that a packet is complete. -/
def FindsPacket (t : Turn) : Prop := t.meaning?.any (·.isReception) = true

/-- This turn found that the channel stayed quiet for a policy that then transmits. -/
def FindsLeave (t : Turn) : Prop := t.FindsQuiet ∧ t.before.cadExit.listensBeforeTalk

/-- A transmission on the quiet channel that this turn found is in progress. -/
def Talks (t : Turn) : Prop :=
  t.FindsLeave ∧ (∃ ticks, .setTx ticks ∈ t.accepted) ∧ t.after.state = .tx

/-- A packet is complete, and a command on the way to it was refused. -/
def MissesPacket (t : Turn) : Prop := t.FindsPacket ∧ t.IsRefused

/-- The channel stayed quiet, and the transmission was not admitted or a command of it refused. -/
def MissesTransmission (t : Turn) : Prop :=
  t.FindsLeave ∧ (¬t.before.state.isAwake ∨ t.IsRefused)

instance (t : Turn) : Decidable t.IsRefused := inferInstanceAs (Decidable (∃ c ∈ _, _))

instance (t : Turn) : Decidable t.FindsPacket := inferInstanceAs (Decidable (_ = true))

end Turn

namespace Rig

open Station Transceiver.Action

variable {σ : Type} {rig : Rig σ}

/-! ## Conclusions -/

theorem not_isService_of_reception {c : Command} (h : c.topic ∈ [.reception]) : ¬c.IsService := by
  cases c with
  | armInterrupts | takeInterrupts | takeErrors => simp at h
  | _ => exact id

theorem unserviced_startTx (timeout : UInt32) : Recorded rig (¬·.IsService) [.state]
    (rig.recording.startTx timeout) (rig.startTx timeout) := by
  refine (recorded_ensure _).bind fun _ => recorded_current.bind fun _ => ?_
  refine (recorded_tell _ id).bind fun _ => (recorded_tell _ id).bind fun _ => ?_
  exact (recorded_order _ id).bind fun _ => recorded_enter _ (by simp)

/-- All that the chip is told on a conclusion depends on what the conclusion is. -/
theorem unserviced_act {meaning : Meaning} (h : meaning.isConclusion) :
    Recorded rig (¬·.IsService) dispatched (rig.recording.act meaning) (rig.act meaning) := by
  have close : Recorded rig (¬·.IsService) dispatched endWindow endWindow :=
    recorded_endWindow (by decide) (by decide)
  cases meaning with
  | nothing | preamble | sync => cases h
  | event event => exact .pure _
  | detected => exact close.bind fun _ => .pure _
  | packet modem =>
    exact (recorded_reception (.inr ⟨modem, rfl⟩)).mono (fun _ => not_isService_of_reception)
      (by decide)
  | quiet event =>
    refine recorded_current.bind fun _ => close.bind fun _ => .ite ?_ (.pure _)
    refine .ite (.pure _) (recorded_current.bind fun _ => ?_)
    exact ((unserviced_startTx _).widen (by decide)).attempt.discard.bind fun _ => .pure _

section Act
variable {s : Station (σ × List Exchange)}

/-- A transmission is in progress exactly if the radio was awake and no command was refused. -/
theorem ends_startTx (timeout : UInt32) : (rig.recording.startTx timeout).Ends s fun _ s' =>
    ∃ xs, s'.log = s.log ++ xs ∧
      ((∃ ticks, .setTx ticks ∈ xs.filterMap Exchange.accepted?) ∧ s'.radio.state = .tx ↔
        s.radio.state.isAwake ∧ Smooth xs) := by
  refine ends_bind.mpr <| ends_ensure.mpr ?_
  split
  · rename_i hstate
    exact ⟨[], (List.append_nil _).symm, by simp [hstate, RadioState.isAwake]⟩
  split
  case isFalse hasleep => exact ⟨[], (List.append_nil _).symm, by simp [hasleep]⟩
  case isTrue hawake =>
    refine ends_bind.mpr <| ends_current.mpr <| ends_tell_bind (fun e w => ?_) fun _ w => ?_
    · exact ⟨_, rfl, by simp [Exchange.accepted?, Exchange.fails, Smooth]⟩
    refine ends_tell_bind (fun e w => ?_) fun _ w => ?_
    · exact ⟨_, List.append_assoc .., by simp [Exchange.accepted?, Exchange.fails, Smooth]⟩
    refine ends_order_bind (fun e w => ?_) fun _ w => ends_enter.mpr ?_
    all_goals
      refine ⟨_, (List.append_assoc ..).trans (List.append_assoc ..), ?_⟩
      simp [Exchange.accepted?, Exchange.fails, Smooth, hawake]

/-- A packet is reported exactly if the chip gives it away. -/
theorem act_packet (modem : Modem) : (rig.recording.act (.packet modem)).Ends s fun found s' =>
    ∃ xs, s'.log = s.log ++ xs ∧ ((announced found).length = 1 ↔ Smooth xs) := by
  cases modem with
  | lora =>
    have hreceive : rig.recording.receiveLora.Ends s _ := ends_receiveLora
    refine hreceive.mono fun found s' ⟨xs, hlog, h⟩ => ⟨xs, hlog, ?_⟩
    rcases h with ⟨hsmooth, rfl⟩ | ⟨hsmooth, rfl⟩
    · exact iff_of_true rfl hsmooth
    · exact iff_of_false nofun hsmooth
  | fsk =>
    have hreceive : rig.recording.receiveFsk.Ends s _ := ends_receiveFsk
    refine hreceive.mono fun found s' ⟨xs, hlog, h⟩ => ⟨xs, hlog, ?_⟩
    rcases h with ⟨hsmooth, rfl | rfl⟩ | ⟨hsmooth, rfl⟩
    · exact iff_of_true rfl hsmooth
    · exact iff_of_true rfl hsmooth
    · exact iff_of_false nofun hsmooth

/-- Under a policy that transmits, a quiet channel is not reported, and a transmission is in
progress exactly if the radio was awake and no command was refused. -/
theorem act_quiet (event : Event) (hpolicy : s.radio.cadExit.listensBeforeTalk)
    (hconfig : rig.config.reportQuietChannel = false) :
    (rig.recording.act (.quiet event)).Ends s fun found s' => announced found = [] ∧
      ∃ xs, s'.log = s.log ++ xs ∧
        ((∃ ticks, .setTx ticks ∈ xs.filterMap Exchange.accepted?) ∧ s'.radio.state = .tx ↔
          s.radio.state.isAwake ∧ Smooth xs) := by
  refine ends_bind.mpr <| ends_current.mpr <| ends_bind.mpr <| ends_update.mpr <| ends_ite.mpr ?_
  refine (if_pos hpolicy).mpr <| ends_ite.mpr ?_
  rw [config_recording, if_neg (by simp [hconfig])]
  refine ends_bind.mpr <| ends_current.mpr <| ends_bind.mpr <| ends_discard.mpr <|
    ends_attempt.mpr ?_
  exact Ends.mono (ends_startTx _) fun _ _ h => ⟨rfl, h⟩

/-- Every other conclusion is reported. -/
theorem act_conclusion {meaning : Meaning} (h : meaning.isConclusion)
    (hpacket : ¬meaning.isReception)
    (hquiet : ¬(meaning.isQuiet ∧ s.radio.cadExit.listensBeforeTalk ∧
      rig.config.reportQuietChannel = false)) :
    (rig.recording.act meaning).Ends s fun found _ => (announced found).length = 1 := by
  cases meaning with
  | event | detected => rfl
  | packet => exact absurd rfl hpacket
  | nothing | preamble | sync => cases h
  | quiet event =>
    refine ends_bind.mpr <| ends_current.mpr <| ends_bind.mpr <| ends_update.mpr <| ends_ite.mpr ?_
    split
    · rename_i hpolicy
      refine ends_ite.mpr ?_
      split
      · rfl
      · rename_i hconfig
        exact absurd ⟨rfl, hpolicy, Bool.eq_false_iff.mpr hconfig⟩ hquiet
    · rfl

end Act

/-! ## Turns -/

section Serves
variable {t : Turn} {status : InterruptSet} {s s' : Station (σ × List Exchange)}
  {found : Except Fault (Option Event)} {meant : List Exchange}

/-- What was refused in a turn that concludes was refused while the status was interpreted. -/
theorem Serves.isRefused_iff (h : rig.Serves t status s found s' meant)
    (hconclusion : (Meaning.of t.before status).isConclusion) : t.IsRefused ↔ ¬Smooth meant := by
  have hact : Recorded rig (¬·.IsService) dispatched (rig.recording.act (.of t.before status))
      (rig.act (.of t.before status)) := unserviced_act hconclusion
  have hwithin : ∀ x ∈ meant, x.Within (¬·.IsService) dispatched :=
    h.of_logs (Q := fun _ _ xs => ∀ x ∈ xs, x.Within (¬·.IsService) dispatched) (hact s).2.log
  obtain ⟨opening, closing, hexchanges, hopening, hclosing⟩ := h.exchanges
  have hmem {c : Command} (hc : ¬c.IsService) :
      c ∈ t.exchanges.filterMap Exchange.refused? ↔ c ∈ meant.filterMap Exchange.refused? := by
    rw [hexchanges]
    exact mem_filterMap_meant (fun _ => Exchange.given_of_refused) hc hopening hclosing
  rw [not_smooth_iff]
  constructor
  · rintro ⟨c, hc, hservice⟩
    exact ⟨c, (hmem hservice).mp hc⟩
  · rintro ⟨c, hc⟩
    obtain ⟨x, hx, hrefused⟩ := List.mem_filterMap.mp hc
    have hservice : ¬c.IsService := gives_of_mem_given hwithin
      (List.mem_filterMap.mpr ⟨x, hx, Exchange.given_of_refused hrefused⟩)
    exact ⟨c, (hmem hservice).mpr hc, hservice⟩

/-- A turn that finds a packet reports it exactly if nothing is refused. -/
theorem Serves.reports_packet_iff (h : rig.Serves t status s found s' meant) {modem : Modem}
    (hmeaning : Meaning.of t.before status = .packet modem) :
    t.events.length = 1 ↔ ¬t.IsRefused := by
  have hreports := h.of_logs (Q := fun found _ xs => (announced found).length = 1 ↔ Smooth xs)
    (hmeaning ▸ act_packet modem)
  rw [h.events, hreports, h.isRefused_iff (hmeaning ▸ rfl), Classical.not_not]

/-- A turn that finds leave to transmit reports nothing, and transmits exactly if the radio is awake
and nothing is refused. -/
theorem Serves.talks_iff (h : rig.Serves t status s found s' meant) {event : Event}
    (hmeaning : Meaning.of t.before status = .quiet event)
    (hpolicy : t.before.cadExit.listensBeforeTalk)
    (hconfig : rig.config.reportQuietChannel = false) :
    t.events = [] ∧ ((∃ ticks, .setTx ticks ∈ t.accepted) ∧ t.after.state = .tx ↔
      t.before.state.isAwake ∧ ¬t.IsRefused) := by
  obtain ⟨time, hradio⟩ := h.radio
  have hpolicy : s.radio.cadExit.listensBeforeTalk := hradio ▸ hpolicy
  obtain ⟨hsilent, xs, hlog, htalks⟩ :=
    h.of_ends (hmeaning ▸ act_quiet event hpolicy hconfig)
  obtain rfl : xs = meant := List.append_cancel_left (hlog.symm.trans h.log)
  have haccepted : (∃ ticks, .setTx ticks ∈ t.accepted) ↔
      ∃ ticks, .setTx ticks ∈ xs.filterMap Exchange.accepted? :=
    exists_congr fun _ => h.mem_accepted id
  refine ⟨h.events.trans hsilent, ?_⟩
  rw [haccepted, h.after, htalks, hradio, h.isRefused_iff (hmeaning ▸ rfl), Classical.not_not]
  rfl

/-- A turn that finds any other conclusion reports it. -/
theorem Serves.reports (h : rig.Serves t status s found s' meant)
    (hmeaning : (Meaning.of t.before status).isConclusion)
    (hpacket : ¬(Meaning.of t.before status).isReception)
    (hquiet : ¬((Meaning.of t.before status).isQuiet ∧ t.before.cadExit.listensBeforeTalk ∧
      rig.config.reportQuietChannel = false)) : t.events.length = 1 := by
  obtain ⟨time, hradio⟩ := h.radio
  rw [h.events]
  exact h.of_ends (act_conclusion hmeaning hpacket (hradio ▸ hquiet))

end Serves

variable {s : Station σ}

/-- A turn that reads no status although no scan owns the radio fails. -/
theorem not_succeeds_of_reads_nothing (hscan : s.radio.state ≠ .scan)
    (hreads : (rig.turn s .processInterrupt).status? = none) :
    ¬(rig.turn s .processInterrupt).Succeeds := by
  have hfaults : ∃ e, rig.Faults s e := by
    rcases hdisarm : (rig.chip.perform (.armInterrupts ∅)).result s.world with ⟨e | ⟨⟩, w⟩
    · exact ⟨e, .disarm (by rw [result_tell, hdisarm])⟩
    rcases htake : (rig.chip.perform .takeInterrupts).result w with ⟨e | status, w'⟩
    · have harmed : (rig.tell (.armInterrupts ∅)).result s = (.ok (), { s with world := w }) := by
        rw [result_tell, hdisarm]
      exact ⟨e, .status harmed (by rw [result_tell, htake])⟩
    · rw [turn_status hscan hdisarm htake] at hreads
      cases hreads
  obtain ⟨e, hfaults⟩ := hfaults
  obtain ⟨-, closing, -, hcloses⟩ := @turn_of_dispatch σ rig s hscan
  rw [dispatch_eq_error_iff.mpr hfaults] at hcloses
  rw [Turn.Succeeds, hcloses.outcome_of_error]
  nofun

/-- **Conclusions are accounted for** in any state but Scan and with any failures: a turn that is
told of a conclusion fails, reports one event, or transmits on the quiet channel that it found. The
exceptions are the turns that succeed although a packet was not given away, or although the
transmission on the quiet channel was not admitted or was refused. -/
theorem accounted_iff_not_missed (rig : Rig σ) (s : Station σ) (hscan : s.radio.state ≠ .scan)
    (hconclusion : ∀ status ∈ (rig.turn s .processInterrupt).status?,
      status.HasConclusion s.radio.modem) :
    let t := rig.turn s .processInterrupt
    ¬t.Succeeds ∨ t.events.length = 1 ∨ rig.config.reportQuietChannel = false ∧ t.Talks ↔
      ¬(t.Succeeds ∧
        (t.MissesPacket ∨ rig.config.reportQuietChannel = false ∧ t.MissesTransmission)) := by
  intro t
  by_cases hsucceeds : t.Succeeds
  case neg => exact iff_of_true (.inl hsucceeds) fun h => hsucceeds h.1
  rcases processInterrupt_cases rig s with hnothing | ⟨status, s₁, found, s₂, meant, h⟩
  · exact absurd hsucceeds (not_succeeds_of_reads_nothing hscan hnothing.reads)
  have hserves : rig.Serves t status s₁ found s₂ meant := h
  have hmeaning : (Meaning.of t.before status).isConclusion :=
    (Meaning.isConclusion_of_iff ..).mpr (hconclusion status h.reads)
  have hpacket : t.FindsPacket ↔ (Meaning.of t.before status).isReception := by
    simp [Turn.FindsPacket, Turn.meaning?, hserves.reads]
  have hquiet : t.FindsQuiet ↔ (Meaning.of t.before status).isQuiet := by
    simp [Turn.FindsQuiet, Turn.meaning?, hserves.reads]
  simp only [Turn.Talks, Turn.MissesPacket, Turn.MissesTransmission, Turn.FindsLeave, hpacket,
    hquiet, hsucceeds, not_true, false_or, true_and]
  cases hm : Meaning.of t.before status with
  | packet modem => simp [Meaning.isReception, Meaning.isQuiet, hserves.reports_packet_iff hm]
  | nothing | preamble | sync => simp [hm, Meaning.isConclusion] at hmeaning
  | event | detected =>
    have hreports : t.events.length = 1 := hserves.reports hmeaning
      (by simp [hm, Meaning.isReception]) (by simp [hm, Meaning.isQuiet])
    simp [Meaning.isReception, Meaning.isQuiet, hreports]
  | quiet event =>
    by_cases htalk : t.before.cadExit.listensBeforeTalk ∧ rig.config.reportQuietChannel = false
    · obtain ⟨hpolicy, hconfig⟩ := htalk
      obtain ⟨hsilent, htalks⟩ := hserves.talks_iff hm hpolicy hconfig
      simp [Meaning.isReception, Meaning.isQuiet, hpolicy, hconfig, hsilent, htalks]
    · have hreports : t.events.length = 1 :=
        hserves.reports hmeaning (by simp [hm, Meaning.isReception]) fun h => htalk h.2
      refine iff_of_true (.inl hreports) ?_
      rintro (⟨hpacket, -⟩ | ⟨hconfig, ⟨-, hpolicy⟩, -⟩)
      · cases hpacket
      · exact htalk ⟨hpolicy, hconfig⟩

/-- A LoRa packet that the chip gives away. -/
theorem accounted_iff_not_missed_received :
    let rig := Bench.rig {}
    let s := rig.run ⟨{}, [{.rxDone}]⟩ [.powerUp, .startRx 1000]
    let t := rig.turn s .processInterrupt
    s.radio.state ≠ .scan ∧ t.status? = some {.rxDone} ∧
      (¬t.Succeeds ∨ t.events.length = 1 ∨ rig.config.reportQuietChannel = false ∧ t.Talks) := by
  intro rig s t
  have hscan : s.radio.state ≠ .scan := by decide +kernel
  have hstatus : t.status? = some {.rxDone} := by decide +kernel
  have hmodem : s.radio.modem = .lora := by decide +kernel
  have hclear : ¬t.IsRefused := by decide +kernel
  have hawake : t.before.state.isAwake = true := by decide +kernel
  have hconclusion : ∀ status ∈ t.status?, status.HasConclusion s.radio.modem := by
    rw [hstatus, hmodem]
    rintro status ⟨⟩
    exact .inr (.inr (.inr (.inr (.inr (by decide)))))
  refine ⟨hscan, hstatus, (accounted_iff_not_missed rig s hscan hconclusion).mpr ?_⟩
  rintro ⟨-, ⟨-, hrefused⟩ | ⟨-, -, hasleep | hrefused⟩⟩
  · exact hclear hrefused
  · exact hasleep hawake
  · exact hclear hrefused

end Rig

/-- A rig on the bench whose chip gives no packet away and starts no transmission. -/
def Bench.reticent : Rig (List InterruptSet) :=
  let rig := Bench.rig {}
  { rig with chip := { rig.chip with
      perform := fun
        | .readRxBufferStatus, statuses => .error .io statuses
        | .setTx _, statuses => .error .io statuses
        | c, statuses => rig.chip.perform c statuses } }

/-- Two conclusions that are dropped in silence: a LoRa packet, and the end of a carrier sense
window after which the radio was to transmit. -/
theorem Rig.dropped_in_silence :
    let rig := Bench.reticent
    let received := rig.turn (rig.run ⟨{}, [{.rxDone}]⟩ [.powerUp, .startRx 1000]) .processInterrupt
    let sensed := rig.turn (rig.run ⟨{}, [{.timeout}]⟩ [.powerUp, .setModem .fsk,
      .startCarrierSense ⟨1000, -80⟩ .csLbt]) .processInterrupt
    rig.config.reportQuietChannel = false ∧
      (received.status? = some {.rxDone} ∧ received.before.state = .rx ∧
        received.before.modem = .lora ∧ received.Succeeds ∧ received.events = [] ∧
        received.after.state ≠ .tx) ∧
      (sensed.status? = some {.timeout} ∧ sensed.before.state = .rx ∧
        sensed.before.cadExit = .csLbt ∧ sensed.Succeeds ∧ sensed.events = [] ∧
        sensed.after.state ≠ .tx) := by
  decide +kernel

end Transceiver
