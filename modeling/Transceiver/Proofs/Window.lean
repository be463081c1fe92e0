import Transceiver.Proofs.Dispatch

/-! Windows in which the channel is listened to. A policy is noted when the activity detection is
programmed or a carrier sense is started, and is dropped by the dispatch that concludes a window.
A dispatch transmits exactly if it finds that the channel stayed quiet under a policy that listens
before it talks. -/

namespace Transceiver

/-- The dispatch of such an interrupt concludes the window of a policy. -/
def Meaning.concludes (policy : CadExit) : Meaning → Bool
  | .quiet _ | .detected => true
  | .preamble => policy ≠ .none
  | .event _ | .nothing | .sync | .packet _ => false

/-- The interrupt tells that the channel stayed quiet. -/
def Meaning.isQuiet : Meaning → Bool
  | .quiet _ => true
  | _ => false

theorem Meaning.isQuiet_lora (status : InterruptSet) :
    (Meaning.lora status).isQuiet ↔ .cadDone ∈ status ∧ .cadDetected ∉ status := by
  unfold Meaning.lora
  by_cases hdone : .cadDone ∈ status
  · by_cases hdetected : .cadDetected ∈ status <;> simp [hdone, hdetected, isQuiet]
  · by_cases hrx : .rxDone ∈ status <;> simp [hdone, hrx, isQuiet]

theorem Meaning.isQuiet_fsk (status : InterruptSet) : ¬(Meaning.fsk status).isQuiet := by
  unfold Meaning.fsk
  split
  · exact nofun
  split
  · exact nofun
  split <;> exact nofun

theorem Meaning.concludes_lora (policy : CadExit) (status : InterruptSet) :
    (Meaning.lora status).concludes policy ↔ .cadDone ∈ status := by
  unfold Meaning.lora
  by_cases hdone : .cadDone ∈ status
  · by_cases hdetected : .cadDetected ∈ status <;> simp [hdone, hdetected, concludes]
  · by_cases hrx : .rxDone ∈ status <;> simp [hdone, hrx, concludes]

theorem Meaning.concludes_fsk (policy : CadExit) (status : InterruptSet) :
    (Meaning.fsk status).concludes policy ↔
      .syncWordValid ∉ status ∧ .preambleDetected ∈ status ∧ policy ≠ .none := by
  unfold Meaning.fsk
  by_cases hsync : .syncWordValid ∈ status
  · simp [hsync, concludes]
  by_cases hpreamble : .preambleDetected ∈ status
  · simp [hsync, hpreamble, concludes]
  by_cases hrx : .rxDone ∈ status <;> simp [hsync, hpreamble, hrx, concludes]

/-- What it takes for an interrupt to tell that the channel stayed quiet. A timeout is enough,
except that of a transmission; without one an activity detection must be done that detected
none. -/
theorem Meaning.isQuiet_of_iff (r : Radio) (status : InterruptSet) :
    (Meaning.of r status).isQuiet ↔ .txDone ∉ status ∧ .crcError ∉ status ∧
      if .timeout ∈ status then r.state ≠ .tx
      else .headerError ∉ status ∧ r.modem = .lora ∧ .cadDone ∈ status ∧ .cadDetected ∉ status := by
  unfold Meaning.of
  by_cases htx : .txDone ∈ status
  · simp [htx, isQuiet]
  by_cases hcrc : .crcError ∈ status
  · simp [htx, hcrc, isQuiet]
  by_cases htimeout : .timeout ∈ status
  · by_cases hstate : r.state = .tx <;> simp [htx, hcrc, htimeout, hstate, isQuiet]
  by_cases hheader : .headerError ∈ status
  · simp [htx, hcrc, htimeout, hheader, isQuiet]
  simp only [htx, hcrc, htimeout, hheader, if_false, not_false_eq_true, true_and]
  cases r.modem with
  | lora => simp [isQuiet_lora]
  | fsk => simp [isQuiet_fsk]

/-- What it takes for an interrupt to conclude a window under a policy. Without a timeout it is an
activity detection that is done, or a preamble on an FSK channel before its sync word. -/
theorem Meaning.concludes_of_iff (policy : CadExit) (r : Radio) (status : InterruptSet) :
    (Meaning.of r status).concludes policy ↔ .txDone ∉ status ∧ .crcError ∉ status ∧
      if .timeout ∈ status then r.state ≠ .tx
      else .headerError ∉ status ∧ ((r.modem = .lora ∧ .cadDone ∈ status) ∨
        (r.modem = .fsk ∧ .syncWordValid ∉ status ∧ .preambleDetected ∈ status ∧
          policy ≠ .none)) := by
  unfold Meaning.of
  by_cases htx : .txDone ∈ status
  · simp [htx, concludes]
  by_cases hcrc : .crcError ∈ status
  · simp [htx, hcrc, concludes]
  by_cases htimeout : .timeout ∈ status
  · by_cases hstate : r.state = .tx <;> simp [htx, hcrc, htimeout, hstate, concludes]
  by_cases hheader : .headerError ∈ status
  · simp [htx, hcrc, htimeout, hheader, concludes]
  simp only [htx, hcrc, htimeout, hheader, if_false, not_false_eq_true, true_and]
  cases r.modem with
  | lora => simp [concludes_lora]
  | fsk => simp [concludes_fsk]

/-- The command starts the transmission of a frame. -/
def Command.isSetTx : Command → Bool
  | .setTx _ => true
  | _ => false

theorem not_isService_of_isSetTx {c : Command} (h : c.isSetTx) : ¬c.IsService := by
  cases c with
  | setTx ticks => exact id
  | _ => cases h

namespace Rig

open Station Transceiver.Action

variable {σ : Type} {rig : Rig σ} {s s' : Station (σ × List Exchange)}
  {found : Except Fault (Option Event)}

/-! ## Conclusions -/

/-- A dispatch that concludes no window changes the packet at most. -/
theorem act_of_not_concludes {meaning : Meaning} (h : ¬meaning.concludes s.radio.cadExit) :
    (rig.recording.act meaning).Ends s fun _ s' =>
      s.radio.AgreesBut [.packet, .storage] s'.radio := by
  have fetched {x : Action (Station (σ × List Exchange)) (Option Event)}
      {y : Action (Station σ) (Option Event)} {gives : Command → Prop}
      (hx : Recorded rig gives [.packet, .storage] x y) :
      x.Ends s fun _ s' => s.radio.AgreesBut [.packet, .storage] s'.radio := (hx s).2.radio
  cases meaning with
  | event event => exact .refl _
  | nothing => exact .refl _
  | quiet event => exact absurd rfl h
  | detected => exact absurd rfl h
  | preamble =>
    have hpolicy : s.radio.cadExit = .none := by simpa [Meaning.concludes] using h
    refine ends_bind.mpr <| ends_current.mpr ?_
    dsimp only
    rw [hpolicy]
    exact .refl _
  | sync => exact fetched (recorded_reception (.inl rfl))
  | packet modem => exact fetched (recorded_reception (.inr ⟨modem, rfl⟩))

/-- The RSSI is noted without fail, since one that cannot be read is left out. -/
theorem ends_noteRssi : rig.recording.noteRssi.Ends s fun r _ => r = .ok () := by
  refine ends_bind.mpr <| ends_attempt.mpr ?_
  refine Ends.mono (show rig.recording.rssi.Ends s fun _ _ => True from trivial) fun r s _ => ?_
  cases r with
  | ok rssi => exact ends_update.mpr rfl
  | error e => exact ends_pure.mpr rfl

/-- A dispatch that concludes a window drops its policy and its narrow mask. -/
theorem act_of_concludes {meaning : Meaning} (h : meaning.concludes s.radio.cadExit) :
    (rig.recording.act meaning).Ends s fun _ s' =>
      s'.radio.cadExit = .none ∧ s'.radio.mask = .defaultFor s.radio.modem := by
  have after {x : Action (Station (σ × List Exchange)) (Option Event)}
      {y : Action (Station σ) (Option Event)} {gives : Command → Prop}
      (hx : Recorded rig gives [.state] x y) {s₁ : Station (σ × List Exchange)}
      (h₁ : s₁.radio.cadExit = .none ∧ s₁.radio.mask = .defaultFor s.radio.modem) :
      x.Ends s₁ fun _ s' =>
        s'.radio.cadExit = .none ∧ s'.radio.mask = .defaultFor s.radio.modem :=
    ⟨((hx s₁).2.radio .cadExit (by simp)).trans h₁.1,
      ((hx s₁).2.radio .mask (by simp)).trans h₁.2⟩
  cases meaning with
  | event | nothing | sync | packet => exact absurd h nofun
  | detected => exact ⟨rfl, rfl⟩
  | quiet event =>
    refine ends_bind.mpr <| ends_current.mpr <| ends_bind.mpr <| ends_update.mpr <| ends_ite.mpr ?_
    split
    · exact after recorded_transmitOnQuiet ⟨rfl, rfl⟩
    · exact ⟨rfl, rfl⟩
  | preamble =>
    refine ends_bind.mpr <| ends_current.mpr ?_
    dsimp only
    cases hpolicy : s.radio.cadExit with
    | none => simp [Meaning.concludes, hpolicy] at h
    | csRx | edRx => exact ⟨rfl, rfl⟩
    | csOnly | csLbt | edOnly | edLbt =>
      have note : Recorded rig (·.topic ∈ [.measuring]) [.packet] rig.recording.noteRssi
        rig.noteRssi := recorded_noteRssi (by simp) (by simp)
      have rest : Recorded rig anything [.state] rig.recording.standby rig.standby :=
        recorded_standby (by simp) trivial (fun _ => trivial) trivial trivial fun _ => trivial
      have hnote : rig.recording.noteRssi.Ends s fun r s' =>
          r = .ok () ∧ s'.radio.modem = s.radio.modem :=
        ⟨ends_noteRssi, (note s).2.radio .modem (by simp)⟩
      refine ends_bind.mpr <| hnote.mono ?_
      rintro _ s₁ ⟨rfl, hmodem⟩
      refine ends_bind.mpr <| ends_update.mpr ?_
      exact after (rest.bind fun _ => .pure _) ⟨rfl, congrArg InterruptSet.defaultFor hmodem⟩

/-- Only a quiet channel makes a dispatch transmit. -/
theorem not_setTx_of_not_isQuiet {meaning : Meaning} (h : ¬meaning.isQuiet) :
    Recorded rig (¬·.isSetTx) dispatched (rig.recording.act meaning) (rig.act meaning) := by
  have received {m : Meaning} (hm : m = .sync ∨ ∃ modem, m = .packet modem) :
      Recorded rig (¬·.isSetTx) dispatched (rig.recording.act m) (rig.act m) := by
    refine (recorded_reception hm).mono (fun c hc hset => ?_) (by decide)
    cases c with
    | setTx ticks => simp at hc
    | _ => cases hset
  cases meaning with
  | event event => exact .pure _
  | nothing => exact .pure _
  | quiet event => exact absurd rfl h
  | detected => exact (recorded_endWindow (by decide) (by decide)).bind fun _ => .pure _
  | preamble =>
    exact recorded_concludeActivity (by decide) (by decide) (by decide) (by decide) nofun nofun
      (fun _ => nofun) nofun nofun fun _ => nofun
  | sync => exact received (.inl rfl)
  | packet modem => exact received (.inr ⟨modem, rfl⟩)

theorem not_setTx_of_reaches {parts : List Part} (h : s.Reaches rig (¬·.isSetTx) parts s')
    {meant : List Exchange} (hlog : s'.log = s.log ++ meant) :
    ¬∃ c ∈ meant.filterMap Exchange.given?, c.isSetTx := by
  obtain ⟨xs, hxs, hwithin⟩ := h.log
  rw [hlog, List.append_cancel_left_eq] at hxs
  rintro ⟨c, hc, hset⟩
  exact gives_of_mem_given hwithin (hxs ▸ hc) hset

/-- A transmission is started if the radio is awake and the two commands before it are accepted. -/
theorem startTx_transmits (timeout : UInt32) :
    (rig.recording.startTx timeout).Ends s fun _ s' => ∀ meant, s'.log = s.log ++ meant →
      ((∃ c ∈ meant.filterMap Exchange.given?, c.isSetTx) ↔ s.radio.state.isAwake ∧
        .setAntenna (txPath s.radio.pa) ∈ meant.filterMap Exchange.accepted? ∧
        .clearInterrupts .all ∈ meant.filterMap Exchange.accepted?) := by
  have stop {s' : Station (σ × List Exchange)} {xs : List Exchange} (h : s'.log = s.log ++ xs)
      {P : List Exchange → Prop} (hxs : P xs) : ∀ meant, s'.log = s.log ++ meant → P meant := by
    intro meant hmeant
    rw [h, List.append_cancel_left_eq] at hmeant
    exact hmeant ▸ hxs
  refine ends_bind.mpr <| ends_ensure.mpr ?_
  split
  · rename_i hstate
    refine stop (List.append_nil _).symm ?_
    simp [hstate, RadioState.isAwake]
  split
  case isFalse hawake => exact stop (List.append_nil _).symm (by simp [hawake])
  case isTrue hawake =>
    refine ends_bind.mpr <| ends_current.mpr <| ends_tell_bind (fun e w => ?_) fun _ w => ?_
    · exact stop rfl (by simp [Exchange.given?, Exchange.accepted?, Command.isSetTx])
    refine ends_tell_bind (fun e w => ?_) fun _ w => ?_
    · refine stop (List.append_assoc ..) ?_
      simp [Exchange.given?, Exchange.accepted?, Command.isSetTx]
    refine ends_order_bind (fun e w => ?_) fun _ w => ends_enter.mpr ?_
    all_goals
      refine stop (List.append_assoc .. |>.trans (List.append_assoc ..)) ?_
      simp [Exchange.given?, Exchange.accepted?, Command.isSetTx, hawake]

/-- What a dispatch transmits: the frame in the chip's buffer, if the channel stayed quiet under a
policy that listens before it talks, and the radio is awake. The two commands before the
transmission may stop it. -/
theorem act_transmits (hconfig : rig.config.reportQuietChannel = false) (meaning : Meaning) :
    (rig.recording.act meaning).Ends s fun _ s' => ∀ meant, s'.log = s.log ++ meant →
      ((∃ c ∈ meant.filterMap Exchange.given?, c.isSetTx) ↔
        meaning.isQuiet ∧ s.radio.cadExit.listensBeforeTalk ∧ s.radio.state.isAwake ∧
          .setAntenna (txPath s.radio.pa) ∈ meant.filterMap Exchange.accepted? ∧
          .clearInterrupts .all ∈ meant.filterMap Exchange.accepted?) := by
  by_cases hquiet : meaning.isQuiet
  case neg =>
    have hsilent : Recorded rig (¬·.isSetTx) dispatched (rig.recording.act meaning) (rig.act meaning) :=
      not_setTx_of_not_isQuiet hquiet
    intro meant hmeant
    exact iff_of_false (not_setTx_of_reaches (hsilent s).2 hmeant) fun h => hquiet h.1
  obtain ⟨event, rfl⟩ : ∃ event, meaning = .quiet event := by
    cases meaning with
    | quiet event => exact ⟨event, rfl⟩
    | _ => cases hquiet
  refine ends_bind.mpr <| ends_current.mpr <| ends_bind.mpr <| ends_update.mpr <| ends_ite.mpr ?_
  split
  · rename_i hpolicy
    simp only [hquiet, hpolicy, true_and]
    refine ends_ite.mpr ?_
    rw [config_recording, if_neg (by simp [hconfig])]
    refine ends_bind.mpr <| ends_current.mpr <| ends_bind.mpr <| ends_discard.mpr <|
      ends_attempt.mpr ?_
    exact startTx_transmits _
  · rename_i hpolicy
    refine ends_pure.mpr fun meant hmeant => ?_
    have hnone : meant = [] := List.append_cancel_left (hmeant.symm.trans (List.append_nil _).symm)
    simp [hnone, hpolicy]

end Rig

/-! ## Turns -/

namespace Turn

/-- This turn concluded the window of the policy on record. -/
def Concludes (t : Turn) : Prop := t.meaning?.any (·.concludes t.before.cadExit) = true

/-- This turn found that the channel stayed quiet. -/
def FindsQuiet (t : Turn) : Prop := t.meaning?.any (·.isQuiet) = true

/-- This turn told the chip to transmit a frame. -/
def Transmits (t : Turn) : Prop := ∃ c ∈ t.given, c.isSetTx

/-- Nothing in this turn kept a transmission from being started. -/
def IsClear (t : Turn) : Prop :=
  t.before.state.isAwake ∧ .setAntenna (Rig.txPath t.before.pa) ∈ t.accepted ∧
    .clearInterrupts .all ∈ t.accepted

instance (t : Turn) : Decidable t.Concludes := inferInstanceAs (Decidable (_ = true))

instance (t : Turn) : Decidable t.Transmits := inferInstanceAs (Decidable (∃ c ∈ t.given, _))

end Turn

namespace Rig

open Station Transceiver.Action

variable {σ : Type} {rig : Rig σ} {s : Station σ}

/-- A turn that serves the interrupt transmits exactly if it finds that the channel stayed quiet,
the policy on record listens before it talks, and nothing keeps the transmission back. -/
theorem transmits_iff (hconfig : rig.config.reportQuietChannel = false) :
    (rig.turn s .processInterrupt).Transmits ↔ (rig.turn s .processInterrupt).FindsQuiet ∧
      s.radio.cadExit.listensBeforeTalk ∧ (rig.turn s .processInterrupt).IsClear := by
  generalize ht : rig.turn s .processInterrupt = t
  have hbefore : t.before = s.radio := ht ▸ rfl
  rw [← hbefore]
  rcases ht ▸ processInterrupt_cases rig s with h | ⟨status, s₁, found, s₂, meant, h⟩
  · refine iff_of_false ?_ fun hquiet => ?_
    · rintro ⟨c, hc, hset⟩
      exact not_isService_of_isSetTx hset (h.given c hc)
    · simp [Turn.FindsQuiet, Turn.meaning?, h.reads] at hquiet
  · obtain ⟨time, hradio⟩ := h.radio
    have hiff := h.of_ends (act_transmits hconfig _) meant h.log
    rw [hradio] at hiff
    have hgiven : t.Transmits ↔ ∃ c ∈ meant.filterMap Exchange.given?, c.isSetTx := by
      exact exists_congr fun c => and_congr_left fun hset =>
        h.mem_given (not_isService_of_isSetTx hset)
    rw [hgiven, hiff, ← h.mem_accepted id, ← h.mem_accepted id]
    simp [Turn.FindsQuiet, Turn.IsClear, Turn.meaning?, h.reads, Radio.receivedAt]

/-! ## Operations that note a policy or open a window -/

section Notes
variable (rig : Rig σ) (s : Station (σ × List Exchange))

theorem ends_setCadParams (params : Lora.CadParams) :
    (rig.recording.setCadParams params).Ends s fun r s' =>
      (r.isOk = true → s'.radio = { s.radio with cadExit := params.exit }) ∧
        (¬r.isOk = true → s'.radio = s.radio) := by
  refine ends_bind.mpr <| ends_ensureNotScanning.mpr ?_
  split
  · exact ⟨nofun, fun _ => rfl⟩
  refine ends_ite.mpr ?_
  split
  · exact ends_order_bind (fun _ _ => ⟨nofun, fun _ => rfl⟩) fun _ _ =>
      ⟨fun _ => rfl, fun h => absurd rfl h⟩
  · exact ⟨nofun, fun _ => rfl⟩

theorem ends_startCarrierSense (params : Fsk.CarrierSense) (exit : CadExit) :
    (rig.recording.startCarrierSense params exit).Ends s fun r s' =>
      (r.isOk = true → s'.radio.cadExit = exit ∧ s'.radio.modem = .fsk ∧ s'.radio.state = .rx ∧
          s'.radio.mask = .carrierSense) ∧
        (¬r.isOk = true → s.radio.AgreesBut [.mask] s'.radio) := by
  refine ends_bind.mpr <| ends_ensure.mpr ?_
  split
  · exact ⟨nofun, fun _ => .refl _⟩
  split
  case isFalse => exact ⟨nofun, fun _ => .refl _⟩
  refine ends_bind.mpr <| ends_current.mpr <| ends_ite.mpr ?_
  split
  · exact ⟨nofun, fun _ => .refl _⟩
  rename_i hparams
  have hmodem : s.radio.modem = .fsk := Decidable.of_not_not fun h => hparams (.inl h)
  refine ends_order_bind (fun _ _ => ⟨nofun, fun _ => .refl _⟩) fun _ _ => ?_
  refine ends_tell_bind (fun _ _ => ⟨nofun, fun _ => .refl _⟩) fun _ _ => ?_
  refine ends_tell_bind (fun _ _ => ⟨nofun, fun _ => .refl _⟩) fun _ _ => ?_
  -- From here on the narrow mask is on record, even if the chip takes no further command.
  have hmask (r : Radio) : r.AgreesBut [.mask] { r with mask := .carrierSense } := by
    simp [Radio.agreesBut_iff]
  refine ends_bind.mpr <| ends_update.mpr ?_
  refine ends_tell_bind (fun _ _ => ⟨nofun, fun _ => hmask _⟩) fun _ _ => ?_
  refine ends_order_bind (fun _ _ => ⟨nofun, fun _ => hmask _⟩) fun _ _ => ?_
  exact ⟨fun _ => ⟨rfl, hmodem, rfl, rfl⟩, fun h => absurd rfl h⟩

theorem ends_startCad : rig.recording.startCad.Ends s fun r s' =>
    (r.isOk = true → s'.radio.modem = .lora ∧ s'.radio.state = .cad) ∧
      (¬r.isOk = true → s'.radio = s.radio) := by
  refine ends_bind.mpr <| ends_ensure.mpr ?_
  split
  · exact ⟨nofun, fun _ => rfl⟩
  split
  case isFalse => exact ⟨nofun, fun _ => rfl⟩
  refine ends_bind.mpr <| ends_current.mpr <| ends_ite.mpr ?_
  split
  · exact ⟨nofun, fun _ => rfl⟩
  rename_i hmodem
  refine ends_tell_bind (fun _ _ => ⟨nofun, fun _ => rfl⟩) fun _ _ => ?_
  refine ends_tell_bind (fun _ _ => ⟨nofun, fun _ => rfl⟩) fun _ _ => ?_
  refine ends_order_bind (fun _ _ => ⟨nofun, fun _ => rfl⟩) fun _ _ => ?_
  exact ⟨fun _ => ⟨Decidable.of_not_not hmodem, rfl⟩, fun h => absurd rfl h⟩

theorem ends_powerUp (hlog : s.log = []) : rig.recording.powerUp.Ends s fun _ s' =>
    (.reset ∈ s'.log.filterMap Exchange.accepted? → s'.radio.cadExit = .none ∧
        s'.radio.modem = .lora ∧ s'.radio.mask = .loraDefault) ∧
      (.reset ∉ s'.log.filterMap Exchange.accepted? → s.radio.AgreesBut [.limits] s'.radio) := by
  have hlimits (limits : Option RegionalLimits) :
      s.radio.AgreesBut [.limits] { s.radio with limits } := by simp [Radio.agreesBut_iff]
  -- The record loses its policy once the chip accepts the reset, which the log then shows.
  have refused {s' : Station (σ × List Exchange)}
      (hradio : s.radio.AgreesBut [.limits] s'.radio)
      (h : .reset ∉ s'.log.filterMap Exchange.accepted?) :
      (.reset ∈ s'.log.filterMap Exchange.accepted? → s'.radio.cadExit = .none ∧
        s'.radio.modem = .lora ∧ s'.radio.mask = .loraDefault) ∧
      (.reset ∉ s'.log.filterMap Exchange.accepted? → s.radio.AgreesBut [.limits] s'.radio) :=
    ⟨fun h' => absurd h' h, fun _ => hradio⟩
  refine ends_bind.mpr <| ends_ensureNotScanning.mpr ?_
  split
  · exact refused (.refl _) (by simp [hlog])
  refine ends_bind.mpr <| ends_update.mpr <| ends_tell_bind (fun e w => ?_) fun _ w => ?_
  · refine refused (hlimits _) ?_
    show _ ∉ (s.log ++ _).filterMap _
    simp [hlog, Exchange.accepted?]
  refine ends_tell_bind (fun e w => refused (hlimits _) ?_) fun _ w => ?_
  · show _ ∉ (s.log ++ _ ++ _).filterMap _
    simp [hlog, Exchange.accepted?]
  refine ends_bind.mpr <| ends_update.mpr <| ((recorded_configure _).ends _).mono ?_
  rintro - s' ⟨⟨xs, hxs, -⟩, hradio, -⟩
  refine ⟨fun _ => ⟨hradio .cadExit (by simp), hradio .modem (by simp), hradio .mask (by simp)⟩,
    fun h => absurd ?_ h⟩
  rw [hxs]
  show _ ∈ (s.log ++ _ ++ _ ++ xs).filterMap _
  simp [Exchange.accepted?]

end Notes

theorem turn_setCadParams (s : Station σ) (params : Lora.CadParams) :
    ((rig.turn s (.setCadParams params)).Succeeds →
        (rig.turn s (.setCadParams params)).after = { s.radio with cadExit := params.exit }) ∧
      (¬(rig.turn s (.setCadParams params)).Succeeds →
        (rig.turn s (.setCadParams params)).after = s.radio) :=
  ends_setCadParams rig s.recorded params

theorem turn_startCarrierSense (s : Station σ) (params : Fsk.CarrierSense) (exit : CadExit) :
    ((rig.turn s (.startCarrierSense params exit)).Succeeds →
        (rig.turn s (.startCarrierSense params exit)).after.cadExit = exit ∧
        (rig.turn s (.startCarrierSense params exit)).after.modem = .fsk ∧
        (rig.turn s (.startCarrierSense params exit)).after.state = .rx ∧
        (rig.turn s (.startCarrierSense params exit)).after.mask = .carrierSense) ∧
      (¬(rig.turn s (.startCarrierSense params exit)).Succeeds →
        s.radio.AgreesBut [.mask] (rig.turn s (.startCarrierSense params exit)).after) :=
  ends_startCarrierSense rig s.recorded params exit

theorem turn_startCad (s : Station σ) :
    ((rig.turn s .startCad).Succeeds →
        (rig.turn s .startCad).after.modem = .lora ∧ (rig.turn s .startCad).after.state = .cad) ∧
      (¬(rig.turn s .startCad).Succeeds → (rig.turn s .startCad).after = s.radio) :=
  ends_startCad rig s.recorded

theorem turn_powerUp (s : Station σ) :
    (.reset ∈ (rig.turn s .powerUp).accepted → (rig.turn s .powerUp).after.cadExit = .none ∧
        (rig.turn s .powerUp).after.modem = .lora ∧
        (rig.turn s .powerUp).after.mask = .loraDefault) ∧
      (.reset ∉ (rig.turn s .powerUp).accepted →
        s.radio.AgreesBut [.limits] (rig.turn s .powerUp).after) :=
  ends_powerUp rig s.recorded rfl

/-! ## The policy on record -/

/-- A dispatch drops the policy and the narrow mask of a window that it concludes, and changes the
packet at most if it concludes none. -/
theorem turn_processInterrupt (rig : Rig σ) (s : Station σ) :
    ((rig.turn s .processInterrupt).Concludes →
        (rig.turn s .processInterrupt).after.cadExit = .none ∧
          (rig.turn s .processInterrupt).after.mask = .defaultFor s.radio.modem) ∧
      (¬(rig.turn s .processInterrupt).Concludes →
        s.radio.AgreesBut [.packet, .storage] (rig.turn s .processInterrupt).after) := by
  generalize ht : rig.turn s .processInterrupt = t
  have hbefore : t.before = s.radio := ht ▸ rfl
  rw [← hbefore]
  rcases ht ▸ processInterrupt_cases rig s with h | ⟨status, s₁, found, s₂, meant, h⟩
  · have hnot : ¬t.Concludes := by simp [Turn.Concludes, Turn.meaning?, h.reads]
    exact ⟨fun hc => absurd hc hnot, fun _ => h.after ▸ .refl _⟩
  · obtain ⟨time, hradio⟩ := h.radio
    have hconcludes : t.Concludes ↔ (Meaning.of t.before status).concludes t.before.cadExit := by
      simp [Turn.Concludes, Turn.meaning?, h.reads]
    rw [hconcludes, h.after]
    refine ⟨fun hc => ?_, fun hc => ?_⟩
    · have hact := h.of_ends (act_of_concludes (by rw [hradio]; exact hc))
      rw [hradio] at hact
      exact hact
    · have hact := h.of_ends (act_of_not_concludes (by rw [hradio]; exact hc))
      rw [hradio] at hact
      have hattend : t.before.AgreesBut [.packet, .storage] (t.before.receivedAt time) := by
        simp [Radio.agreesBut_iff, Radio.receivedAt]
      exact hattend.trans hact

end Rig

end Transceiver
