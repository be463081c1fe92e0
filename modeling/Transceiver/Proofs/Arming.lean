import Transceiver.Proofs.Bench
import Transceiver.Proofs.History

/-! The interrupts that are armed, against the mask on record. As long as the chip refuses nothing,
each operation that changes either changes the other with it, with two exceptions: sleep may disarm
the interrupts, and so does the service of an interrupt that finds the radio asleep and leaves it
so. What rouses the radio arms the interrupts again after the one, but not after the other. -/

namespace Transceiver

/-- The interrupts that were armed. -/
def Exchange.armed? : Exchange → Option InterruptSet
  | .command (.armInterrupts mask) _ => some mask
  | _ => none

theorem Exchange.armed?_of_within {topics : List Topic} {parts : List Part} {x : Exchange}
    (h : x.Within (·.topic ∈ topics) parts) (htopics : .arming ∉ topics) : x.armed? = none := by
  unfold armed?
  split
  · exact absurd h htopics
  · rfl

namespace Station

variable {σ : Type}

/-- What the chip was told to arm last is the mask on record. -/
def Armed (last : Option InterruptSet) (s : Station (σ × List Exchange)) : Prop :=
  lastFound Exchange.armed? last s.log = some s.radio.mask

/-- Unless the chip refused a command, what it was told to arm last is the mask on record. -/
def Synced (last : Option InterruptSet) (s : Station (σ × List Exchange)) : Prop :=
  Smooth s.log → s.Armed last

/-- The same, but for a radio that sleeps where sleep disarms it. -/
def Settled (disarms : Bool) (last : Option InterruptSet) (s : Station (σ × List Exchange)) :
    Prop :=
  Smooth s.log → s.radio.state = .sleep ∧ disarms = true ∨ s.Armed last

theorem Synced.settled {last : Option InterruptSet} {s : Station (σ × List Exchange)}
    (h : s.Synced last) (disarms : Bool) : s.Settled disarms last := fun hsmooth => .inr (h hsmooth)

/-- Unless the chip refused a command, it was told to arm nothing if the radio still sleeps. -/
def Disarmed (s : Station (σ × List Exchange)) : Prop :=
  Smooth s.log → s.radio.state = .sleep → lastFound Exchange.armed? none s.log = some ∅

/-- Unless the chip refused a command, it was told to arm what is on record, or nothing if the radio
sleeps. -/
def Served (s : Station (σ × List Exchange)) : Prop :=
  Smooth s.log → lastFound Exchange.armed? none s.log =
    some (if s.radio.state = .sleep then ∅ else s.radio.mask)

/-- The mask on record is not empty. -/
def Masked (s : Station (σ × List Exchange)) : Prop := s.radio.mask ≠ ∅

end Station

/-- The amplifier has settings for the highest power of the default region. -/
def Config.PowersUp (config : Config) : Prop :=
  ∀ limits, config.limits? config.defaultRegion = some limits →
    (config.paFor (limits.maxTxPower.get DataRate.kbps50.index)).isSome

namespace Rig

open Station Transceiver.Action

variable {σ α : Type} {rig : Rig σ} {last : Option InterruptSet}

/-- What standby does with a chip that is awake. -/
def rest (rig : Rig σ) : Action (Station σ) Unit := do
  rig.order (.clearInterrupts .all)
  rig.tell (.setAntenna .off)
  rig.pause standbyDelay
  rig.order (.setStandby rig.config.standbyOnCrystal)
  enter .standby

/-- What sleep does once it is announced. -/
def fallAsleep (rig : Rig σ) : Action (Station σ) Unit := do
  rig.order (.clearInterrupts .all)
  rig.tell (.setAntenna .off)
  if rig.config.disarmInSleep then rig.tell (.armInterrupts ∅)
  match ← Action.attempt (rig.tell (.setSleep true)) with
  | .ok () => enter .sleep
  | .error _ =>
    if rig.config.disarmInSleep then rig.rearm
    throw .hardware

section Smooth
variable {c : Command} {s : Station (σ × List Exchange)}
  {Q : Except Fault α → Station (σ × List Exchange) → Prop}

/-- Where only what happens without a refusal matters, a command is taken to be accepted. -/
theorem smooth_tell_bind {f : c.Reply → Action (Station (σ × List Exchange)) α}
    (h : ∀ a w, (f a).Ends { s with world := (w, s.log ++ [.command c (.ok a)]) }
      fun r s' => Smooth s'.log → Q r s') :
    (rig.recording.tell c >>= f).Ends s fun r s' => Smooth s'.log → Q r s' :=
  ends_tell_bind (fun _ _ hsmooth => absurd hsmooth not_smooth_concat) h

theorem smooth_order_bind {f : c.Reply → Action (Station (σ × List Exchange)) α}
    (h : ∀ a w, (f a).Ends { s with world := (w, s.log ++ [.command c (.ok a)]) }
      fun r s' => Smooth s'.log → Q r s') :
    (rig.recording.order c >>= f).Ends s fun r s' => Smooth s'.log → Q r s' :=
  ends_order_bind (fun _ _ hsmooth => absurd hsmooth not_smooth_concat) h

end Smooth

/-! ## Operations that keep the chip in step with the record -/

section Synced
variable {topics : List Topic} {parts : List Part}
  {x : Action (Station (σ × List Exchange)) α} {y : Action (Station σ) α}

theorem synced_of_recorded (h : Recorded rig (·.topic ∈ topics) parts x y)
    (htopics : .arming ∉ topics) (hparts : .mask ∉ parts) : x.Keeps (Synced last) := by
  intro s hs hsmooth
  obtain ⟨xs, hlog, hxs⟩ := (h s).2.log
  have hmask : (x.result s).2.radio.mask = s.radio.mask := (h s).2.radio .mask hparts
  rw [hlog] at hsmooth
  rw [Armed, hlog, lastFound_append,
    lastFound_of_none _ fun x hx => Exchange.armed?_of_within (hxs x hx) htopics, hmask]
  exact hs hsmooth.of_append

theorem synced_tell {c : Command} (hc : c.topic ≠ .arming) :
    (rig.recording.tell c).Keeps (Synced last) := by
  have h : Recorded rig (·.topic ∈ [c.topic]) [] (rig.recording.tell c) (rig.tell c) :=
    recorded_tell c (.head _)
  exact synced_of_recorded h (by simpa using hc.symm) List.not_mem_nil

theorem synced_order {c : Command} (hc : c.topic ≠ .arming) :
    (rig.recording.order c).Keeps (Synced last) := (synced_tell hc).reporting _

theorem synced_enter (state : RadioState) :
    (enter (σ := σ × List Exchange) state).Keeps (Synced last) := fun _ hs => hs

end Synced

section Steps
variable {s : Station (σ × List Exchange)}

/-- The interrupts on record are armed, whatever was armed before. -/
theorem armed_tell {mask : InterruptSet} (h : s.radio.mask = mask) :
    (rig.recording.tell (.armInterrupts mask)).Ends s fun _ => Armed last := by
  refine ends_recording_tell fun r w => ?_
  show lastFound _ _ (s.log ++ [_]) = some s.radio.mask
  rw [lastFound_concat, h]
  rfl

theorem synced_arm {mask : InterruptSet} (h : s.radio.mask = mask) :
    (rig.recording.tell (.armInterrupts mask)).Ends s fun _ => Synced last :=
  (armed_tell h).mono fun _ _ harmed _ => harmed

theorem synced_armOrder {mask : InterruptSet} (h : s.radio.mask = mask) :
    (rig.recording.order (.armInterrupts mask)).Ends s fun _ => Synced last :=
  ends_reporting.mpr (synced_arm h)

theorem armed_rearm : rig.recording.rearm.Ends s fun _ => Armed last :=
  ends_bind.mpr <| ends_current.mpr <| armed_tell rfl

theorem synced_rearm : rig.recording.rearm.Ends s fun _ => Synced last :=
  armed_rearm.mono fun _ _ harmed _ => harmed

theorem synced_wake (slept : Bool) : (rig.recording.wake slept).Keeps (Synced last) := by
  refine (synced_tell (by simp)).attempt.bind fun r => ?_
  rcases r with e | ⟨⟩
  · exact (synced_enter _).bind fun _ => .throw _
  refine .ite (fun _ => .ite (fun _ s _ => ?_) fun _ => synced_enter _) fun _ => .pure _
  exact ends_bind.mpr <| ends_current.mpr <| Keeps.after (synced_armOrder rfl) fun _ => synced_enter _

/-- A radio that sleep disarmed is armed again when it wakes. -/
theorem synced_wake_disarmed (hconfig : rig.config.disarmInSleep = true) :
    (rig.recording.wake true).Ends s fun _ => Synced last := by
  refine ends_bind.mpr <| ends_attempt.mpr <| ends_recording_tell fun r w => ?_
  cases r with
  | error e => exact fun hsmooth => absurd hsmooth not_smooth_concat
  | ok =>
    refine ends_ite.mpr <| (if_pos rfl).mpr <| ends_ite.mpr <| (if_pos hconfig).mpr ?_
    exact ends_bind.mpr <| ends_current.mpr <| Keeps.after (synced_armOrder rfl) fun _ => synced_enter _

/-- What standby does with a chip that is awake keeps what its parts keep. -/
theorem keeps_rest {P : Station (σ × List Exchange) → Prop}
    (htell : ∀ c, c.topic ≠ .arming → (rig.recording.tell c).Keeps P)
    (hpause : (rig.recording.pause standbyDelay).Keeps P)
    (henter : (enter (σ := σ × List Exchange) .standby).Keeps P) : rig.recording.rest.Keeps P := by
  refine ((htell _ (by simp)).reporting _).bind fun _ => (htell _ (by simp)).bind fun _ => ?_
  exact hpause.bind fun _ => ((htell _ (by simp)).reporting _).bind fun _ => henter

theorem synced_rest : rig.recording.rest.Keeps (Synced last) := by
  have pause : Recorded rig (·.topic ∈ []) [] (rig.recording.pause standbyDelay)
    (rig.pause standbyDelay) := recorded_pause _
  exact keeps_rest (fun _ => synced_tell) (synced_of_recorded pause (by simp) (by simp))
    (synced_enter _)

theorem synced_standby : rig.recording.standby.Keeps (Synced last) := by
  refine keeps_current.bind fun _ => .optionally (fun _ => .throw _) ?_
  exact .ite (fun _ => .pure _) fun _ => .optionally (fun _ => synced_wake _) synced_rest

theorem synced_standby_disarmed (hstate : s.radio.state = .sleep)
    (hconfig : rig.config.disarmInSleep = true) :
    rig.recording.standby.Ends s fun _ => Synced last := by
  refine ends_bind.mpr <| ends_current.mpr ?_
  simp only [hstate, reduceCtorEq, if_false, if_true, true_or, decide_true]
  exact Keeps.after (synced_wake_disarmed hconfig) fun _ => synced_rest

/-- A radio that sleep disarms is armed again if the chip refuses to sleep. -/
theorem settled_fallAsleep (hs : s.Synced last) :
    rig.recording.fallAsleep.Ends s fun _ => Settled rig.config.disarmInSleep last := by
  refine ends_bind.mpr <| (synced_order (by simp) s hs).mono fun r s hs => ?_
  rcases r with e | ⟨⟩
  · exact hs.settled _
  refine ends_bind.mpr <| (synced_tell (by simp) s hs).mono fun r s hs => ?_
  rcases r with e | ⟨⟩
  · exact hs.settled _
  refine ends_ite.mpr ?_
  split
  · rename_i hconfig
    refine smooth_tell_bind fun _ w => ends_bind.mpr <| ends_attempt.mpr ?_
    refine ends_recording_tell fun r w => ?_
    rcases r with e | ⟨⟩
    · exact (Keeps.after synced_rearm fun _ => .throw _).mono fun _ _ hs => hs.settled _
    · exact fun _ => .inl ⟨rfl, hconfig⟩
  · refine ends_bind.mpr <| ends_attempt.mpr <| (synced_tell (by simp) s hs).mono fun r s hs => ?_
    rcases r with e | ⟨⟩
    · exact hs.settled _
    · exact Synced.settled (s := { s with radio := { s.radio with state := .sleep } }) hs _

theorem settled_sleep (duration : UInt32) (hs : s.Synced last) :
    (rig.recording.sleep duration).Ends s fun _ => Settled rig.config.disarmInSleep last := by
  have announce (wakeAt : UInt64) : Recorded rig (·.topic ∈ []) []
      (rig.recording.announceSleep wakeAt) (rig.announceSleep wakeAt) := recorded_announceSleep _
  have now : Recorded rig (·.topic ∈ []) [] rig.recording.now rig.now := recorded_now
  refine ends_bind.mpr <| ends_current.mpr <| ends_ite.mpr ?_
  split
  · exact hs.settled _
  refine ends_ite.mpr ?_
  split
  · exact hs.settled _
  refine ends_ite.mpr ?_
  split
  · refine ends_bind.mpr <| (synced_of_recorded now (by simp) (by simp) s hs).mono fun r s hs => ?_
    rcases r with e | time
    · exact hs.settled _
    refine ends_bind.mpr <| (synced_of_recorded (announce _) (by simp) (by simp) s hs).mono ?_
    rintro (e | ⟨⟩) s hs
    · exact hs.settled _
    · exact settled_fallAsleep hs
  · exact settled_fallAsleep hs

theorem synced_setModem (modem : Modem) : (rig.recording.setModem modem).Keeps (Synced last) := by
  refine keeps_ensureNotScanning.bind fun _ => (synced_order (by simp)).bind fun _ => ?_
  exact fun _ _ => ends_bind.mpr <| ends_update.mpr <| synced_armOrder rfl

theorem synced_endScan (state : RadioState) : (rig.recording.endScan state).Keeps (Synced last) := by
  have restore : rig.recording.restore.Keeps (Synced last) := fun s _ => by
    refine ends_bind.mpr <| ends_current.mpr <| ends_bind.mpr <| ends_attempt.mpr ?_
    refine ends_recording_tell fun modem w => ?_
    refine Keeps.after (ends_attempt.mpr (synced_arm rfl)) fun _ => ?_
    exact .bind (.settle _) fun _ => .settle _
  exact restore.attempt.bind fun _ => (synced_enter _).bind fun _ => .settle _

theorem synced_scanInterrupt (status : InterruptSet) :
    (rig.recording.scanInterrupt status).Keeps (Synced last) := by
  refine keeps_ensureScanning.bind fun _ => .ite (fun _ => synced_endScan _) fun _ => ?_
  exact .bind (fun _ hs => hs) fun _ => .ite (fun _ => synced_endScan _) fun _ => .pure _

theorem synced_setFrequency (frequency : UInt32) :
    (rig.recording.setFrequency frequency).Keeps (Synced last) := by
  have h : Recorded rig (·.topic ∈ [.tuning]) [.frequency] (rig.recording.setFrequency frequency)
      (rig.setFrequency frequency) :=
    recorded_setFrequency _ (fun _ => by simp) (fun _ => by simp) fun _ => by simp
  exact synced_of_recorded h (by simp) (by simp)

theorem synced_setTxPower (power : Int8) :
    (rig.recording.setTxPower power).Keeps (Synced last) := by
  have h : Recorded rig (·.topic ∈ [.amplifier]) [.pa] (rig.recording.setTxPower power)
      (rig.setTxPower power) :=
    recorded_setTxPower _ (fun _ => by simp) fun _ _ => by simp
  exact synced_of_recorded h (by simp) (by simp)

theorem synced_startCarrier (frequency : UInt32) (power : Int8) :
    (rig.recording.startCarrier frequency power).Keeps (Synced last) := by
  refine (keeps_ensure _).bind fun _ => synced_standby.bind fun _ => ?_
  refine (synced_setFrequency _).bind fun _ => (synced_setTxPower _).bind fun _ => ?_
  refine keeps_current.bind fun _ => (synced_tell (by simp)).bind fun _ => ?_
  refine (synced_tell (by simp)).bind fun _ => (synced_order (by simp)).bind fun _ => ?_
  exact synced_enter _

theorem synced_startCarrierSense (params : Fsk.CarrierSense) (exit : CadExit) :
    (rig.recording.startCarrierSense params exit).Keeps (Synced last) := by
  refine (keeps_ensure _).bind fun _ => keeps_current.bind fun _ => ?_
  refine .optionally (fun _ => .throw _) ((synced_order (by simp)).bind fun _ => ?_)
  refine (synced_tell (by simp)).bind fun _ => (synced_tell (by simp)).bind fun _ => fun s _ => ?_
  refine ends_bind.mpr <| ends_update.mpr <| Keeps.after (synced_arm rfl) fun _ => ?_
  refine (synced_order (by simp)).bind fun _ => .bind (fun _ hs => hs) fun _ => ?_
  exact synced_enter _

/-- The interrupts are disarmed for a random number, and armed again even if there is none. -/
theorem synced_random : rig.recording.random.Keeps (Synced last) := by
  refine keeps_ensureNotScanning.bind fun _ => fun s _ => smooth_tell_bind fun _ w => ?_
  refine ends_bind.mpr <| ends_attempt.mpr <| ends_reporting.mpr <| ends_recording_tell fun r w => ?_
  exact Keeps.after synced_rearm fun _ => .settle _

theorem synced_measure {x : Action (Station (σ × List Exchange)) α} (frequency : UInt32) :
    (rig.recording.measure frequency x).Keeps (Synced last) := by
  refine (synced_setFrequency _).bind fun _ => fun s _ => smooth_tell_bind fun _ w => ?_
  refine ends_bind.mpr <| ends_attempt.mpr <| Ends.mono (Q := fun _ _ => True) trivial ?_
  intro result s _
  refine Keeps.after (ends_attempt.mpr synced_rearm) fun _ => synced_standby.attempt.bind fun _ => ?_
  exact .bind (.settle _) fun _ => .bind (.settle _) fun _ => .bind (.settle _) fun _ => .pure _

/-! ## Power-up -/

/-- Standby is reached, or some command was refused on the way. -/
theorem ends_standby (hstate : s.radio.state ≠ .scan) :
    rig.recording.standby.Ends s fun r s' => match r with
      | .ok _ => s'.radio.state = .standby
      | .error _ => ¬Smooth s'.log := by
  have rest {s : Station (σ × List Exchange)} : rig.recording.rest.Ends s fun r s' => match r with
      | .ok _ => s'.radio.state = .standby
      | .error _ => ¬Smooth s'.log := by
    refine ends_order_bind (fun _ _ => not_smooth_concat) fun _ _ => ?_
    refine ends_tell_bind (fun _ _ => not_smooth_concat) fun _ _ => ?_
    refine ends_bind.mpr <| ends_recording_pause.mpr ?_
    exact ends_order_bind (fun _ _ => not_smooth_concat) fun _ _ => rfl
  refine ends_bind.mpr <| ends_current.mpr <| ends_ite.mpr <| (if_neg hstate).mpr ?_
  refine ends_ite.mpr ?_
  split
  · assumption
  refine ends_ite.mpr ?_
  split
  case isFalse => exact rest
  refine ends_bind.mpr <| ends_bind.mpr <| ends_attempt.mpr <| ends_recording_tell fun r w => ?_
  rcases r with e | ⟨⟩
  · exact not_smooth_concat
  refine ends_ite.mpr ?_
  split
  case isFalse => exact rest
  refine ends_ite.mpr ?_
  split
  case isFalse => exact rest
  refine ends_bind.mpr <| ends_current.mpr ?_
  exact ends_order_bind (fun _ _ => not_smooth_concat) fun _ _ => rest

theorem ends_setTxPower {power : Int8} (hstate : s.radio.state = .standby)
    (hconfig : (rig.config.paFor power).isSome) :
    (rig.recording.setTxPower power).Ends s fun r s' => r.isOk = true ∨ ¬Smooth s'.log := by
  obtain ⟨pa, hpa⟩ := Option.isSome_iff_exists.mp hconfig
  refine ends_bind.mpr <| ends_ensure.mpr ?_
  simp only [hstate, reduceCtorEq, if_false, decide_true, if_true]
  dsimp only [config_recording]
  rw [hpa]
  refine ends_tell_bind (fun _ _ => .inr not_smooth_concat) fun _ _ => ?_
  exact ends_tell_bind (fun _ _ => .inr not_smooth_concat) fun _ _ => .inl rfl

/-- The configuration after a reset is armed with at the end, and whatever comes before it fails
only by a refusal of the chip. -/
theorem synced_configure {limits : Option RegionalLimits} (hstate : s.radio.state ≠ .scan)
    (hconfig : ∀ l, limits = some l →
      (rig.config.paFor (l.maxTxPower.get DataRate.kbps50.index)).isSome) :
    (rig.recording.configure limits).Ends s fun _ => Synced last := by
  have refused {s : Station (σ × List Exchange)} (h : ¬Smooth s.log) : s.Synced last :=
    fun hsmooth => absurd hsmooth h
  refine ends_bind.mpr <| (ends_standby hstate).mono fun r s hs => ?_
  cases r with
  | error e => exact refused hs
  | ok =>
    refine smooth_order_bind fun _ _ => ends_bind.mpr <| ends_current.mpr <| smooth_tell_bind ?_
    intro _ _
    cases limits with
    | none => exact synced_rearm
    | some limits =>
      refine ends_bind.mpr <| Ends.mono (ends_setTxPower ?_ (hconfig _ rfl)) fun r s hs => ?_
      · exact hs
      cases r with
      | error e => exact refused (hs.resolve_left nofun)
      | ok => exact synced_rearm

theorem synced_powerUp (hpowers : rig.config.PowersUp) (hstate : s.radio.state ≠ .scan) :
    rig.recording.powerUp.Ends s fun _ => Synced last := by
  refine ends_bind.mpr <| ends_ensureNotScanning.mpr <| (if_neg hstate).mpr ?_
  refine ends_bind.mpr <| ends_update.mpr <| smooth_tell_bind fun _ _ => smooth_tell_bind ?_
  exact fun _ _ => ends_bind.mpr <| ends_update.mpr <| synced_configure nofun hpowers

theorem ends_setTxPower_isOk {power : Int8} :
    (rig.recording.setTxPower power).Ends s fun r _ =>
      r.isOk = true → (rig.config.paFor power).isSome := by
  refine ends_bind_isOk fun _ s => ?_
  dsimp only [config_recording]
  cases rig.config.paFor power with
  | none => exact nofun
  | some => exact fun _ => rfl

/-- A power-up that succeeds leaves the mask on record armed, and shows that the amplifier has
settings for the highest power of the default region. -/
theorem ends_powerUp_isOk : rig.recording.powerUp.Ends s fun r s' =>
    r.isOk = true → s'.Armed last ∧ rig.config.PowersUp := by
  refine ends_bind_isOk fun _ s => ends_bind_isOk fun _ s => ends_bind_isOk fun _ s => ?_
  refine ends_bind_isOk fun _ s => ends_bind_isOk fun _ s => ?_
  -- From here on the chip is configured.
  refine ends_bind_isOk fun _ s => ends_bind_isOk fun _ s => ends_bind_isOk fun _ s => ?_
  refine ends_bind_isOk fun _ s => ?_
  dsimp only [config_recording]
  cases hlimits : rig.config.limits? rig.config.defaultRegion with
  | none =>
    have hpowers : rig.config.PowersUp := fun l hl => absurd (hlimits.symm.trans hl) nofun
    exact armed_rearm.mono fun _ _ harmed _ => ⟨harmed, hpowers⟩
  | some limits =>
    refine ends_bind.mpr <| ends_setTxPower_isOk.mono fun r s hpa => ?_
    cases r with
    | error e => exact nofun
    | ok =>
      have hpowers : rig.config.PowersUp := fun l hl => by
        obtain rfl : limits = l := Option.some.inj (hlimits.symm.trans hl)
        exact hpa rfl
      exact armed_rearm.mono fun _ _ harmed _ => ⟨harmed, hpowers⟩

/-! ## Operations of a radio that sleeps -/

theorem ends_ensure_bind_asleep {allowed : RadioState → Bool}
    {f : Unit → Action (Station (σ × List Exchange)) α}
    {Q : Except Fault α → Station (σ × List Exchange) → Prop} (hstate : s.radio.state = .sleep)
    (hallowed : allowed .sleep = false) :
    (ensure allowed >>= f).Ends s Q ↔ Q (.error .invalidState) s := by
  simp only [ends_bind, ends_ensure, hstate, reduceCtorEq, if_false, hallowed, Bool.false_eq_true]

/-- What takes a radio out of the sleep that disarmed it arms the interrupts. -/
theorem synced_perform_disarmed {op : Operation} (hop : op ≠ .processInterrupt)
    (hstate : s.radio.state = .sleep) (hconfig : rig.config.disarmInSleep = true)
    (hpowers : rig.config.PowersUp) :
    (rig.recording.perform op).Ends s fun _ s' => s'.radio.state = .sleep ∨ s'.Synced none := by
  by_cases hparts : .state ∈ op.parts
  case neg => exact .inl (((recorded_perform op).ends s).radio .state hparts |>.trans hstate)
  cases op with
  | powerUp =>
    have hawake : s.radio.state ≠ .scan := by simp [hstate]
    exact (synced_powerUp hpowers hawake).mono fun _ _ hs => .inr hs
  | standby => exact (synced_standby_disarmed hstate hconfig).mono fun _ _ hs => .inr hs
  | setBusy | startTx | startCarrier | startRx | startContinuousRx | startCarrierSense
  | startCad => exact (ends_ensure_bind_asleep hstate rfl).mpr (.inl hstate)
  | isChannelFree | channelNoise =>
    exact ends_bind.mpr <| (ends_ensure_bind_asleep hstate rfl).mpr (.inl hstate)
  | startRxDutyCycle rx sleep =>
    refine ends_ite.mpr ?_
    split
    · exact .inl hstate
    · exact (ends_ensure_bind_asleep hstate rfl).mpr (.inl hstate)
  | sleep duration =>
    refine ends_bind.mpr <| ends_current.mpr ?_
    simp only [hstate, reduceCtorEq, if_false, if_true]
    exact .inl hstate
  | holdScan =>
    refine ends_bind.mpr <| ends_get.mpr <| ends_ite.mpr ?_
    split
    case isFalse => exact .inl hstate
    refine ends_tell_bind (fun _ _ => .inl hstate) fun line _ => ends_ite.mpr ?_
    split
    · exact .inl hstate
    refine ends_bind.mpr <| ends_current.mpr <| ends_ite.mpr ?_
    rw [if_pos (by simp [hstate])]
    exact .inl hstate
  | releaseScan | scanInterrupt =>
    refine ends_bind.mpr <| ends_bind.mpr <| ends_current.mpr <| ends_ite.mpr ?_
    rw [if_pos (by simp [hstate])]
    exact .inl hstate
  | processInterrupt => exact absurd rfl hop
  | _ => simp [Operation.parts] at hparts

/-- An operation other than the service of an interrupt keeps the chip in step with the record, or
puts a radio to sleep that sleep disarms. -/
theorem settled_perform {op : Operation} (hop : op ≠ .processInterrupt)
    (hpowers : rig.config.PowersUp) (hs : s.Synced last) :
    (rig.recording.perform op).Ends s fun _ => Settled rig.config.disarmInSleep last := by
  have kept {x : Action (Station (σ × List Exchange)) op.Reply} (h : x.Keeps (Synced last)) :
      x.Ends s fun _ => Settled rig.config.disarmInSleep last :=
    (h s hs).mono fun _ _ hs => hs.settled _
  by_cases harming : .arming ∈ op.topics ∨ .mask ∈ op.parts
  case neg =>
    rw [not_or] at harming
    exact kept (synced_of_recorded (recorded_perform op) harming.1 harming.2)
  cases op with
  | powerUp =>
    by_cases hstate : s.radio.state = .scan
    · exact ends_bind.mpr <| ends_ensureNotScanning.mpr <| (if_pos hstate).mpr <| hs.settled _
    · exact (synced_powerUp hpowers hstate).mono fun _ _ hs => hs.settled _
  | setModem modem => exact kept (synced_setModem _)
  | standby => exact kept synced_standby
  | sleep duration => exact settled_sleep duration hs
  | releaseScan => exact kept <| keeps_ensureScanning.bind fun _ => synced_endScan _
  | scanInterrupt status => exact kept (synced_scanInterrupt _)
  | startCarrier frequency power => exact kept (synced_startCarrier _ _)
  | startCarrierSense params exit => exact kept (synced_startCarrierSense _ _)
  | isChannelFree frequency threshold duration => exact kept (synced_measure _)
  | channelNoise frequency => exact kept (synced_measure _)
  | random => exact kept synced_random
  | processInterrupt => exact absurd rfl hop
  | _ => simp [Operation.topics, Operation.parts] at harming

/-! ## The service of an interrupt -/

section Disarmed
variable {topics : List Topic} {parts : List Part}
  {x : Action (Station (σ × List Exchange)) α} {y : Action (Station σ) α}

theorem disarmed_of_recorded (h : Recorded rig (·.topic ∈ topics) parts x y)
    (htopics : .arming ∉ topics) (hparts : .state ∉ parts) : x.Keeps Disarmed := by
  intro s hs hsmooth hasleep
  obtain ⟨xs, hlog, hxs⟩ := (h s).2.log
  rw [hlog] at hsmooth
  rw [(h s).2.radio .state hparts] at hasleep
  rw [hlog, lastFound_append,
    lastFound_of_none _ fun x hx => Exchange.armed?_of_within (hxs x hx) htopics]
  exact hs hsmooth.of_append hasleep

theorem disarmed_tell {c : Command} (hc : c.topic ≠ .arming) :
    (rig.recording.tell c).Keeps Disarmed := by
  have h : Recorded rig (·.topic ∈ [c.topic]) [] (rig.recording.tell c) (rig.tell c) :=
    recorded_tell c (.head _)
  exact disarmed_of_recorded h (by simpa using hc.symm) List.not_mem_nil

theorem disarmed_order {c : Command} (hc : c.topic ≠ .arming) :
    (rig.recording.order c).Keeps Disarmed := (disarmed_tell hc).reporting _

/-- A radio that is awake claims nothing. -/
theorem disarmed_enter {state : RadioState} (h : state ≠ .sleep) :
    (enter (σ := σ × List Exchange) state).Keeps Disarmed := fun _ _ _ hasleep => absurd hasleep h

theorem disarmed_update {f : Radio → Radio} (h : ∀ r, (f r).state = r.state) :
    (update (σ := σ × List Exchange) f).Keeps Disarmed := fun s hs hsmooth hasleep =>
  hs hsmooth ((h s.radio).symm.trans hasleep)

end Disarmed

theorem disarmed_startTx (timeout : UInt32) :
    (rig.recording.startTx timeout).Keeps Disarmed := by
  refine (keeps_ensure _).bind fun _ => keeps_current.bind fun _ => ?_
  refine (disarmed_tell (by simp)).bind fun _ => ?_
  refine (disarmed_tell (by simp)).bind fun _ => (disarmed_order (by simp)).bind fun _ => ?_
  exact disarmed_enter (by simp)

/-- A radio that wakes is armed as on record, and is no longer asleep. -/
theorem disarmed_wake (slept : Bool) : (rig.recording.wake slept).Keeps Disarmed := by
  refine (disarmed_tell (by simp)).attempt.bind fun r => ?_
  rcases r with e | ⟨⟩
  · exact (disarmed_enter (by simp)).bind fun _ => .throw _
  refine .ite (fun _ => .ite (fun _ => ?_) fun _ => disarmed_enter (by simp)) fun _ => .pure _
  refine keeps_current.bind fun _ => fun s _ => ?_
  exact ends_order_bind (fun _ _ hsmooth => absurd hsmooth not_smooth_concat)
    fun _ _ _ => nofun

theorem disarmed_standby : rig.recording.standby.Keeps Disarmed := by
  have pause : Recorded rig (·.topic ∈ []) [] (rig.recording.pause standbyDelay)
    (rig.pause standbyDelay) := recorded_pause _
  refine keeps_current.bind fun _ => .optionally (fun _ => .throw _) ?_
  refine .ite (fun _ => .pure _) fun _ => .optionally (fun _ => disarmed_wake _) ?_
  refine (disarmed_order (by simp)).bind fun _ => (disarmed_tell (by simp)).bind fun _ => ?_
  refine (disarmed_of_recorded pause (by simp) (by simp)).bind fun _ => ?_
  exact (disarmed_order (by simp)).bind fun _ => disarmed_enter (by simp)

theorem disarmed_act (meaning : Meaning) : (rig.recording.act meaning).Keeps Disarmed := by
  have note : Recorded rig (·.topic ∈ [.measuring]) [.packet] rig.recording.noteRssi rig.noteRssi :=
    recorded_noteRssi (by simp) (by simp)
  refine keeps_act_of (disarmed_update fun _ => rfl) disarmed_startTx
    (disarmed_of_recorded note (by simp) (by simp)) disarmed_standby (fun _ h => ?_) meaning
  exact disarmed_of_recorded (recorded_reception h) (by simp) (by simp)

theorem disarmed_dispatch : rig.recording.dispatch.Ends s fun _ => Disarmed := by
  refine ends_tell_bind (fun _ _ hsmooth => absurd hsmooth not_smooth_concat) fun _ w => ?_
  have attend (status : InterruptSet) : Recorded rig (·.topic ∈ [.status]) [.packet]
      (rig.recording.attend status) (rig.attend status) := recorded_attend status (by simp) (by simp)
  have rest : Keeps Disarmed (do
      let status ← rig.recording.tell .takeInterrupts
      rig.recording.attend status
      rig.recording.act (.of (← current) status)) := by
    refine (disarmed_tell (by simp)).bind fun status => ?_
    refine (disarmed_of_recorded (attend status) (by simp) (by simp)).bind fun _ => ?_
    exact keeps_current.bind fun r => disarmed_act _
  refine rest _ fun _ _ => ?_
  show lastFound _ none (s.log ++ [_]) = some ∅
  rw [lastFound_concat]
  rfl

theorem served_conclude (found : Except Fault (Option Event)) (hs : s.Disarmed) :
    (rig.recording.conclude found).Ends s fun _ => Served := by
  have rest (s : Station (σ × List Exchange)) (hs : s.Disarmed) : Ends (do
      let armed ← Action.attempt do
        if (← current).state ≠ .sleep then rig.recording.rearm
      discard <| Action.settle found
      Action.settle armed) s fun _ => Served := by
    refine Keeps.after ?_ fun armed => (Keeps.settle found).discard.bind fun _ => .settle armed
    refine ends_attempt.mpr <| ends_bind.mpr <| ends_current.mpr <| ends_ite.mpr ?_
    split
    · rename_i hawake
      refine ends_bind.mpr <| ends_current.mpr <| ends_recording_tell fun r w _ => ?_
      show lastFound _ none (s.log ++ [_]) = some (if s.radio.state = .sleep then _ else _)
      rw [lastFound_concat, if_neg hawake]
      rfl
    · rename_i hasleep
      have hasleep : s.radio.state = .sleep := Decidable.of_not_not hasleep
      refine ends_pure.mpr fun hsmooth => ?_
      rw [if_pos hasleep]
      exact hs hsmooth hasleep
  rcases found with e | _ | event
  · exact rest s hs
  · exact rest s hs
  · refine ends_bind.mpr <| rest _ fun hsmooth hasleep => ?_
    show lastFound _ none (s.log ++ [_]) = some ∅
    rw [lastFound_concat]
    exact hs (Smooth.of_append hsmooth) hasleep

/-- Serving an interrupt leaves the mask on record armed, or nothing if the radio sleeps. -/
theorem served_processInterrupt (hstate : s.radio.state ≠ .scan) :
    rig.recording.processInterrupt.Ends s fun _ => Served := by
  refine ends_bind.mpr <| ends_current.mpr <| ends_ite.mpr <| (if_neg hstate).mpr ?_
  refine ends_bind.mpr <| ends_attempt.mpr <| disarmed_dispatch.mono fun found s hs => ?_
  exact served_conclude found hs

/-! ## The mask on record -/

theorem masked_of_recorded {gives : Command → Prop} {parts : List Part}
    {x : Action (Station (σ × List Exchange)) α} {y : Action (Station σ) α}
    (h : Recorded rig gives parts x y) (hparts : .mask ∉ parts) : x.Keeps Masked := fun s hs => by
  rw [Ends, Masked, (h s).2.radio .mask hparts]
  exact hs

theorem masked_defaultFor (modem : Modem) : InterruptSet.defaultFor modem ≠ ∅ := by
  cases modem <;> decide

/-- Power-up sets the mask as soon as the chip is reset. -/
theorem masked_powerUp : rig.recording.powerUp.Ends s fun r s' =>
    s.Masked ∨ r.isOk = true → s'.Masked := by
  have refused {e : Fault} {s' : Station (σ × List Exchange)} (h : s'.radio.mask = s.radio.mask) :
      s.Masked ∨ (Except.error e : Except Fault Unit).isOk = true → s'.Masked := fun hs => by
    rw [Masked, h]
    exact hs.resolve_right nofun
  have configure (limits : Option RegionalLimits) : (rig.recording.configure limits).Keeps Masked :=
    masked_of_recorded (recorded_configure limits) (by simp)
  refine ends_bind.mpr <| ends_ensureNotScanning.mpr ?_
  split
  · exact refused rfl
  refine ends_bind.mpr <| ends_update.mpr <| ends_tell_bind (fun _ _ => refused rfl) fun _ _ => ?_
  refine ends_tell_bind (fun _ _ => refused rfl) fun _ _ => ends_bind.mpr <| ends_update.mpr ?_
  refine Ends.mono (configure _ _ ?_) fun _ _ hs _ => hs
  exact masked_defaultFor .lora

theorem masked_setModem (modem : Modem) : (rig.recording.setModem modem).Keeps Masked := by
  intro s hs
  refine ends_bind.mpr <| ends_ensureNotScanning.mpr ?_
  split
  · exact hs
  refine ends_order_bind (fun _ _ => hs) fun _ _ => ends_bind.mpr <| ends_update.mpr ?_
  exact ends_reporting.mpr <| ends_recording_tell fun _ _ => masked_defaultFor modem

theorem masked_startCarrierSense (params : Fsk.CarrierSense) (exit : CadExit) :
    (rig.recording.startCarrierSense params exit).Keeps Masked := by
  intro s hs
  have hnarrow : InterruptSet.carrierSense ≠ ∅ := by decide
  refine ends_bind.mpr <| ends_ensure.mpr ?_
  split
  · exact hs
  split
  case isFalse => exact hs
  refine ends_bind.mpr <| ends_current.mpr <| ends_ite.mpr ?_
  split
  · exact hs
  refine ends_order_bind (fun _ _ => hs) fun _ _ => ends_tell_bind (fun _ _ => hs) fun _ _ => ?_
  refine ends_tell_bind (fun _ _ => hs) fun _ _ => ends_bind.mpr <| ends_update.mpr ?_
  refine ends_tell_bind (fun _ _ => hnarrow) fun _ _ => ?_
  exact ends_order_bind (fun _ _ => hnarrow) fun _ _ => hnarrow

theorem masked_act (meaning : Meaning) : (rig.recording.act meaning).Keeps Masked := by
  have start (timeout : UInt32) : Recorded rig (·.topic ∈ [.antenna, .status, .mode]) [.state]
      (rig.recording.startTx timeout) (rig.startTx timeout) := recorded_startTx _
  have note : Recorded rig anything [.packet] rig.recording.noteRssi rig.noteRssi :=
    recorded_noteRssi (by simp) trivial
  have standby : Recorded rig anything [.state] rig.recording.standby rig.standby :=
    recorded_standby (by simp) trivial (fun _ => trivial) trivial trivial fun _ => trivial
  have close : Keeps Masked (endWindow (σ := σ × List Exchange)) := fun _ _ => masked_defaultFor _
  refine keeps_act_of close (fun _ => masked_of_recorded (start _) (by simp))
    (masked_of_recorded note (by simp)) (masked_of_recorded standby (by simp)) (fun _ h => ?_)
    meaning
  exact masked_of_recorded (recorded_reception h) (by simp)

theorem masked_processInterrupt : rig.recording.processInterrupt.Keeps Masked := by
  have tell (c : Command) : (rig.recording.tell c).Keeps Masked := by
    have h : Recorded rig anything [] (rig.recording.tell c) (rig.tell c) := recorded_tell c trivial
    exact masked_of_recorded h (by simp)
  refine keeps_current.bind fun _ => .ite (fun _ => .pure _) fun _ => .bind (.attempt ?_) fun found => ?_
  · have attend (status : InterruptSet) : Recorded rig anything [.packet]
        (rig.recording.attend status) (rig.attend status) := recorded_attend _ (by simp) trivial
    refine (tell _).bind fun _ => (tell _).bind fun status => ?_
    refine (masked_of_recorded (attend status) (by simp)).bind fun _ => ?_
    exact keeps_current.bind fun _ => masked_act _
  · have conclude : Recorded rig anything [.listener] (rig.recording.conclude found)
        (rig.conclude found) := recorded_conclude _ (fun _ => trivial) (by simp)
    exact masked_of_recorded conclude (by simp)

theorem masked_perform (op : Operation) : (rig.recording.perform op).Keeps Masked := by
  by_cases hparts : .mask ∈ op.parts
  case neg => exact masked_of_recorded (recorded_perform op) hparts
  cases op with
  | powerUp => exact fun s hs => masked_powerUp.mono fun _ _ h => h (.inl hs)
  | setModem modem => exact masked_setModem modem
  | startCarrierSense params exit => exact masked_startCarrierSense params exit
  | processInterrupt => exact masked_processInterrupt
  | _ => simp [Operation.parts] at hparts

end Steps

end Rig

/-! ## Runs -/

namespace Turn

/-- The chip was told in this turn which interrupts to arm. -/
def Arms (t : Turn) : Prop := ∃ x ∈ t.exchanges, x.armed?.isSome

instance (t : Turn) : Decidable t.Arms := inferInstanceAs (Decidable (∃ x ∈ t.exchanges, _))

/-- The chip refused nothing in this turn. -/
def IsSmooth (t : Turn) : Prop := Smooth t.exchanges

instance (t : Turn) : Decidable t.IsSmooth := inferInstanceAs (Decidable (∀ x ∈ t.exchanges, _))

/-- An interrupt was served in this turn, and the radio sleeps on. -/
def Dozes (t : Turn) : Prop := t.operation = .processInterrupt ∧ t.after.state = .sleep

instance (t : Turn) : Decidable t.Dozes := inferInstanceAs (Decidable (_ ∧ _))

end Turn

/-- What the chip was last told to arm in these turns. -/
def lastArmed (ts : List Turn) : Option InterruptSet :=
  lastFound Exchange.armed? none (ts.flatMap Turn.exchanges)

/-- The last turn in which the chip was told what to arm served an interrupt of a radio that slept
on. -/
def Dozing (ts : List Turn) : Prop := ∃ t, (ts.filter (·.Arms)).getLast? = some t ∧ t.Dozes

section Concat
variable {ts : List Turn} {t : Turn}

theorem lastArmed_concat :
    lastArmed (ts ++ [t]) = lastFound Exchange.armed? (lastArmed ts) t.exchanges := by
  simp [lastArmed, lastFound_append]

theorem dozing_concat_of_arms (h : t.Arms) : Dozing (ts ++ [t]) ↔ t.Dozes := by
  simp [Dozing, h]

theorem dozing_concat_of_not_arms (h : ¬t.Arms) : Dozing (ts ++ [t]) ↔ Dozing ts := by
  simp [Dozing, h]

end Concat

/-- What the turns so far say about the interrupts that are armed, where `disarms` tells whether
sleep disarms the radio. -/
structure InStep (disarms : Bool) (ts : List Turn) (r : Radio) : Prop where
  masked : r.mask ≠ ∅
  dozing : Dozing ts → lastArmed ts = some ∅ ∧ (disarms = true → r.state = .sleep)
  awake : ¬Dozing ts → r.state = .sleep ∧ disarms = true ∨ lastArmed ts = some r.mask

namespace Rig

open Station Transceiver.Action

variable {σ : Type} {rig : Rig σ} {s : Station σ} {op : Operation} {ts : List Turn}

theorem turn_arms_of_lastFound {mask : InterruptSet}
    (h : lastFound Exchange.armed? none (rig.turn s op).exchanges = some mask) :
    (rig.turn s op).Arms := by
  refine Decidable.byContradiction fun hnot => ?_
  have hnone : ∀ x ∈ (rig.turn s op).exchanges, x.armed? = none := by
    simpa [Turn.Arms] using hnot
  rw [lastFound_of_none _ hnone] at h
  cases h

/-- What a scan keeps from being served changes nothing. -/
theorem turn_processInterrupt_scan (hstate : s.radio.state = .scan) :
    (rig.turn s .processInterrupt).exchanges = [] ∧
      (rig.turn s .processInterrupt).after = s.radio := by
  have h : rig.recording.processInterrupt.Ends s.recorded fun _ s' =>
      s'.log = [] ∧ s'.radio = s.radio := by
    refine ends_bind.mpr <| ends_current.mpr <| ends_ite.mpr <| (if_pos ?_).mpr ⟨rfl, rfl⟩
    exact hstate
  exact h

/-- Serving an interrupt keeps step, where a radio that sleeps on counts as dozing. -/
theorem inStep_processInterrupt (hsmooth : (rig.turn s .processInterrupt).IsSmooth)
    (h : InStep rig.config.disarmInSleep ts s.radio) :
    InStep rig.config.disarmInSleep (ts ++ [rig.turn s .processInterrupt])
      (rig.turn s .processInterrupt).after := by
  by_cases hstate : s.radio.state = .scan
  · obtain ⟨hexchanges, hafter⟩ : (rig.turn s .processInterrupt).exchanges = [] ∧ _ :=
      turn_processInterrupt_scan hstate
    have hnot : ¬(rig.turn s .processInterrupt).Arms := by simp [Turn.Arms, hexchanges]
    have hlast : lastArmed (ts ++ [rig.turn s .processInterrupt]) = lastArmed ts := by
      rw [lastArmed_concat, hexchanges, lastFound_of_none _ (by simp)]
    rw [hafter]
    refine ⟨h.masked, ?_, ?_⟩
    all_goals rw [dozing_concat_of_not_arms hnot, hlast]
    · exact h.dozing
    · exact h.awake
  have hserved : rig.recording.processInterrupt.Ends s.recorded fun _ => Served :=
    served_processInterrupt hstate
  have hlast : lastFound Exchange.armed? none (rig.turn s .processInterrupt).exchanges =
      some (if (rig.turn s .processInterrupt).after.state = .sleep then ∅
        else (rig.turn s .processInterrupt).after.mask) := hserved hsmooth
  have harms := turn_arms_of_lastFound hlast
  have hconcat : lastArmed (ts ++ [rig.turn s .processInterrupt]) =
      lastFound Exchange.armed? none (rig.turn s .processInterrupt).exchanges := by
    rw [lastArmed_concat, lastFound_of_isSome _ harms]
  refine ⟨masked_perform .processInterrupt s.recorded h.masked, fun hdozing => ?_, fun hawake => ?_⟩
  · obtain ⟨-, hasleep⟩ := (dozing_concat_of_arms harms).mp hdozing
    rw [hconcat, hlast, if_pos hasleep]
    exact ⟨rfl, fun _ => hasleep⟩
  · rw [dozing_concat_of_arms harms] at hawake
    have hnot : (rig.turn s .processInterrupt).after.state ≠ .sleep := fun hasleep =>
      hawake ⟨rfl, hasleep⟩
    rw [hconcat, hlast, if_neg hnot]
    exact .inr rfl

/-- So does every other operation. -/
theorem inStep_turn (hpowers : rig.config.PowersUp) (hsmooth : (rig.turn s op).IsSmooth)
    (h : InStep rig.config.disarmInSleep ts s.radio) :
    InStep rig.config.disarmInSleep (ts ++ [rig.turn s op]) (rig.turn s op).after := by
  by_cases hop : op = .processInterrupt
  · subst hop
    exact inStep_processInterrupt hsmooth h
  have hwake : ¬(rig.turn s op).Dozes := fun hdozes => hop hdozes.1
  -- What the turn makes of a chip that is armed with the mask on record.
  have hsettled : (rig.recording.perform op).Ends s.recorded fun _ =>
      Settled rig.config.disarmInSleep (some s.radio.mask) :=
    settled_perform hop hpowers fun _ => rfl
  have hsettled := hsettled hsmooth
  have hmasked : (rig.turn s op).after.mask ≠ ∅ := masked_perform op s.recorded h.masked
  by_cases harms : (rig.turn s op).Arms
  · refine ⟨hmasked, fun hdozing => ?_, fun _ => ?_⟩
    · exact absurd ((dozing_concat_of_arms harms).mp hdozing) hwake
    · rw [lastArmed_concat, lastFound_of_isSome _ harms, ← lastFound_of_isSome (some s.radio.mask) harms]
      exact hsettled
  have hnone : ∀ x ∈ (rig.turn s op).exchanges, x.armed? = none := by
    simpa [Turn.Arms] using harms
  have hasleep (hslept : s.radio.state = .sleep) (hconfig : rig.config.disarmInSleep = true) :
      (rig.turn s op).after.state = .sleep := by
    have hroused : (rig.recording.perform op).Ends s.recorded fun _ s' =>
        s'.radio.state = .sleep ∨ s'.Synced none :=
      synced_perform_disarmed hop hslept hconfig hpowers
    exact hroused.resolve_right fun hsynced => harms (turn_arms_of_lastFound (hsynced hsmooth))
  have hmask : (rig.turn s op).after.state = .sleep ∧ rig.config.disarmInSleep = true ∨
      s.radio.mask = (rig.turn s op).after.mask := by
    refine hsettled.imp_right fun harmed => ?_
    have harmed : lastFound Exchange.armed? (some s.radio.mask) (rig.turn s op).exchanges =
      some (rig.turn s op).after.mask := harmed
    rw [lastFound_of_none _ hnone] at harmed
    exact Option.some.inj harmed
  refine ⟨hmasked, ?_, ?_⟩
  all_goals rw [dozing_concat_of_not_arms harms, lastArmed_concat, lastFound_of_none _ hnone]
  · intro hdozing
    obtain ⟨hlast, hslept⟩ := h.dozing hdozing
    exact ⟨hlast, fun hconfig => hasleep (hslept hconfig) hconfig⟩
  · intro hawake
    rcases h.awake hawake with ⟨hslept, hconfig⟩ | hlast
    · exact .inl ⟨hasleep hslept hconfig, hconfig⟩
    · refine hmask.imp_right fun hmask => ?_
      rw [hlast, hmask]

theorem inStep_history (hpowers : rig.config.PowersUp) (ops : List Operation)
    (hsmooth : ∀ t ∈ rig.history s ops, t.IsSmooth)
    (h : InStep rig.config.disarmInSleep ts s.radio) :
    InStep rig.config.disarmInSleep (ts ++ rig.history s ops) (rig.run s ops).radio := by
  induction ops generalizing s ts with
  | nil => simpa [history] using h
  | cons op ops ih =>
    obtain ⟨hturn, hrest⟩ := List.forall_mem_cons.mp hsmooth
    have hstep := inStep_turn hpowers hturn h
    rw [turn_after] at hstep
    rw [history, List.append_cons]
    exact ih hrest hstep

theorem inStep_powerUp (h : (rig.turn s .powerUp).Succeeds) : rig.config.PowersUp ∧
    InStep rig.config.disarmInSleep [rig.turn s .powerUp] (rig.step s .powerUp).radio := by
  have hends : rig.recording.powerUp.Ends s.recorded fun r s' =>
      r.isOk = true → s'.Armed none ∧ rig.config.PowersUp := ends_powerUp_isOk
  have hmasked : rig.recording.powerUp.Ends s.recorded fun r s' =>
      s.recorded.Masked ∨ r.isOk = true → s'.Masked := masked_powerUp
  obtain ⟨harmed, hpowers⟩ := hends h
  have hlast : lastFound Exchange.armed? none (rig.turn s .powerUp).exchanges =
      some (rig.turn s .powerUp).after.mask := harmed
  rw [← turn_after]
  refine ⟨hpowers, hmasked (.inr h), fun hdozing => ?_, fun _ => .inr ?_⟩
  · have hdozing : Dozing ([] ++ [rig.turn s .powerUp]) := hdozing
    exact absurd ((dozing_concat_of_arms (turn_arms_of_lastFound hlast)).mp hdozing).1 nofun
  · rw [lastArmed, List.flatMap_singleton]
    exact hlast

/-- In a run that starts with a power-up, and in which the chip refuses nothing, the interrupts
armed last are those on record whenever the radio does not sleep, exactly unless the last turn that
had any armed or disarmed served an interrupt of a radio that slept on. -/
theorem armed_iff_not_dozing (rig : Rig σ) (s : Station σ) (ops : List Operation)
    (hinit : (rig.turn s .powerUp).Succeeds)
    (hsmooth : ∀ t ∈ rig.history (rig.step s .powerUp) ops, t.IsSmooth)
    (hstate : (rig.run s (.powerUp :: ops)).radio.state ≠ .sleep) :
    (((rig.history s (.powerUp :: ops)).flatMap Turn.exchanges).filterMap
        Exchange.armed?).getLast? = some (rig.run s (.powerUp :: ops)).radio.mask ↔
      ¬Dozing (rig.history s (.powerUp :: ops)) := by
  obtain ⟨hpowers, hstart⟩ := inStep_powerUp hinit
  have hrun : InStep _ (rig.history s (.powerUp :: ops)) (rig.run s (.powerUp :: ops)).radio :=
    inStep_history hpowers ops hsmooth hstart
  have hlast : (((rig.history s (.powerUp :: ops)).flatMap Turn.exchanges).filterMap
      Exchange.armed?).getLast? = lastArmed (rig.history s (.powerUp :: ops)) :=
    (Option.or_none ..).symm
  rw [hlast]
  constructor
  · intro harmed hdozing
    rw [(hrun.dozing hdozing).1] at harmed
    exact hrun.masked (Option.some.inj harmed).symm
  · intro hawake
    exact (hrun.awake hawake).resolve_left fun hslept => hstate hslept.1

/-- A board that disarms the interrupts in sleep finds them armed whenever the radio is awake. -/
theorem armed_of_disarmInSleep (rig : Rig σ) (s : Station σ) (ops : List Operation)
    (hconfig : rig.config.disarmInSleep = true) (hinit : (rig.turn s .powerUp).Succeeds)
    (hsmooth : ∀ t ∈ rig.history (rig.step s .powerUp) ops, t.IsSmooth)
    (hstate : (rig.run s (.powerUp :: ops)).radio.state ≠ .sleep) :
    lastArmed (rig.history s (.powerUp :: ops)) =
      some (rig.run s (.powerUp :: ops)).radio.mask := by
  obtain ⟨hpowers, hstart⟩ := inStep_powerUp hinit
  have hrun : InStep _ (rig.history s (.powerUp :: ops)) (rig.run s (.powerUp :: ops)).radio :=
    inStep_history hpowers ops hsmooth hstart
  have hawake : ¬Dozing (rig.history s (.powerUp :: ops)) := fun hdozing =>
    hstate ((hrun.dozing hdozing).2 hconfig)
  exact (hrun.awake hawake).resolve_left fun hslept => hstate hslept.1

/-- A radio that is armed for FSK, and serves an interrupt. -/
theorem armed_iff_not_dozing_fsk :
    let rig := Bench.rig {}
    let ops := [.setModem .fsk, .processInterrupt]
    (((rig.history ⟨{}, []⟩ (.powerUp :: ops)).flatMap Turn.exchanges).filterMap
        Exchange.armed?).getLast? = some (rig.run ⟨{}, []⟩ (.powerUp :: ops)).radio.mask ↔
      ¬Dozing (rig.history ⟨{}, []⟩ (.powerUp :: ops)) :=
  armed_iff_not_dozing (Bench.rig {}) ⟨{}, []⟩ [.setModem .fsk, .processInterrupt]
    (by decide +kernel) (by decide +kernel) (by decide +kernel)

/-- A board that does not disarm the interrupts in sleep: one that is served asleep leaves the radio
deaf in standby. -/
theorem disarmed_in_standby :
    let rig := Bench.rig {}
    let ops := [.sleep 0, .processInterrupt, .standby]
    (rig.turn ⟨{}, []⟩ .powerUp).Succeeds ∧
      (∀ t ∈ rig.history (rig.step ⟨{}, []⟩ .powerUp) ops, t.IsSmooth) ∧
      (rig.run ⟨{}, []⟩ (.powerUp :: ops)).radio.state = .standby ∧
      (rig.run ⟨{}, []⟩ (.powerUp :: ops)).radio.mask = .loraDefault ∧
      (((rig.history ⟨{}, []⟩ (.powerUp :: ops)).flatMap Turn.exchanges).filterMap
        Exchange.armed?).getLast? = some ∅ := by
  decide +kernel

end Rig

end Transceiver
