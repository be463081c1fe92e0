import Transceiver.Proofs.Bench
import Transceiver.Proofs.History

/-! The state on record against the commands that the chip accepted. Whenever the state on record
is one that a command brings the chip to, the last such command that the chip accepted is the one
for that state. A scan begins in standby and ends in it without a command, so the command for
standby is also the last one of a radio that a scan owns. -/

namespace Transceiver

/-- The state that an accepted command brought the chip to. -/
def Exchange.target? : Exchange → Option RadioState
  | .command c (.ok _) => c.target?
  | _ => none

/-- The state that the chip was last brought to, if it was `last` before these exchanges. -/
def lastTarget (last : Option RadioState) (xs : List Exchange) : Option RadioState :=
  (xs.filterMap Exchange.target?).getLast?.or last

theorem lastTarget_append (last : Option RadioState) (xs ys : List Exchange) :
    lastTarget last (xs ++ ys) = lastTarget (lastTarget last xs) ys :=
  lastFound_append last xs ys

theorem lastTarget_of_none {xs : List Exchange} (last : Option RadioState)
    (h : ∀ x ∈ xs, x.target? = none) : lastTarget last xs = last :=
  lastFound_of_none last h

/-- The state on record is borne out by the state that the chip was last brought to. A radio that
is reserved, or in no known state, claims nothing; a scan is entered from standby. -/
def Follows : RadioState → Option RadioState → Prop
  | .unknown, _ | .busy, _ => True
  | .scan, last => last = some .standby
  | state, last => last = some state

theorem Follows.of_target {c : Command} {state : RadioState} (h : c.target? = some state) :
    Follows state (some state) := by
  cases c <;> cases h <;> trivial

/-- The state on record is borne out by what the log adds to the state before it. -/
def Station.Follows {σ : Type} (last : Option RadioState) (s : Station (σ × List Exchange)) :
    Prop :=
  Transceiver.Follows s.radio.state (lastTarget last s.log)

namespace Rig

open Station Transceiver.Action

variable {σ α : Type} {rig : Rig σ} {last : Option RadioState}

/-! ## Steps that make no transition -/

section Quiet
variable {parts : List Part}
  {x : Action (Station (σ × List Exchange)) α} {y : Action (Station σ) α}

/-- A program that gives quiet commands leaves the chip in the state that it is in. -/
theorem lastTarget_of_recorded (h : Recorded rig Command.IsQuiet parts x y)
    (s : Station (σ × List Exchange)) :
    lastTarget last (x.result s).2.log = lastTarget last s.log := by
  obtain ⟨xs, hlog, hxs⟩ := (h s).2.log
  rw [hlog, lastTarget_append, lastTarget_of_none]
  intro x hx
  cases x with
  | command c r =>
    cases r with
    | error e => rfl
    | ok a => exact hxs _ hx
  | _ => rfl

/-- A program that neither brings the chip to a state nor changes the state on record. -/
theorem keeps_of_recorded (h : Recorded rig Command.IsQuiet parts x y) (hp : .state ∉ parts) :
    x.Keeps (Station.Follows last) := fun s hs => by
  rw [Ends, Station.Follows, lastTarget_of_recorded h, (h s).2.radio .state hp]
  exact hs

end Quiet

/-- A program that brings the chip to no state and leaves the record of the radio alone. -/
theorem keeps_quiet {x : Action (Station (σ × List Exchange)) α} {y : Action (Station σ) α}
    (h : Recorded rig Command.IsQuiet [] x y) : x.Keeps (Station.Follows last) :=
  keeps_of_recorded h (by simp)

theorem keeps_tell {c : Command} (hc : c.target? = none) :
    (rig.recording.tell c).Keeps (Station.Follows last) := keeps_quiet (recorded_tell c hc)

theorem keeps_order {c : Command} (hc : c.target? = none) :
    (rig.recording.order c).Keeps (Station.Follows last) := (keeps_tell hc).reporting _

theorem keeps_rearm : rig.recording.rearm.Keeps (Station.Follows last) :=
  keeps_quiet (recorded_rearm fun _ => rfl)

/-- A change of the record that leaves the state alone. -/
theorem keeps_update {f : Radio → Radio} (h : ∀ r, (f r).state = r.state) :
    (update (σ := σ × List Exchange) f).Keeps (Station.Follows last) := fun s hs => by
  rw [ends_update, Station.Follows, h]
  exact hs

theorem keeps_enter_unknown :
    (enter (σ := σ × List Exchange) .unknown).Keeps (Station.Follows last) := fun _ _ => trivial

/-! ## Transitions -/

/-- A command that leads to a state has led there, or is refused and changes nothing. -/
theorem tell_target {c : Command} {state : RadioState} (hc : c.target? = some state)
    {s : Station (σ × List Exchange)} (hs : s.Follows last) :
    (rig.recording.tell c).Ends s fun r s' => match r with
      | .ok _ => lastTarget last s'.log = some state
      | .error _ => s'.Follows last := by
  refine ends_recording_tell fun r w => ?_
  cases r with
  | ok a => simp [log, lastTarget, Exchange.target?, hc]
  | error e =>
    rw [Station.Follows, log, lastTarget_append]
    exact hs

/-- The state that the chip was brought to may be noted. -/
theorem note_target {c : Command} {state : RadioState} (hc : c.target? = some state)
    {s : Station (σ × List Exchange)} (hs : lastTarget last s.log = some state) :
    (enter state).Ends s fun _ => Station.Follows last := by
  show Transceiver.Follows state (lastTarget last s.log)
  rw [hs]
  exact .of_target hc

/-- A command that leads to a state, and a note of the state. -/
theorem keeps_transition {c : Command} {state : RadioState} (hc : c.target? = some state) :
    (rig.recording.order c >>= fun _ => enter state).Keeps (Station.Follows last) := fun _ hs =>
  ends_bind.mpr <| ends_reporting.mpr <| (tell_target hc hs).mono fun
    | .ok _, _, h => note_target hc h
    | .error _, _, h => h

theorem keeps_wake (slept : Bool) :
    (rig.recording.wake slept).Keeps (Station.Follows last) := by
  refine (keeps_tell rfl).attempt.bind fun r => ?_
  rcases r with e | ⟨⟩
  · exact keeps_enter_unknown.bind fun _ => .throw _
  · refine .ite (fun _ => .ite (fun _ => ?_) fun _ => keeps_enter_unknown) fun _ => .pure _
    exact keeps_current.bind fun _ => (keeps_order rfl).bind fun _ => keeps_enter_unknown

theorem keeps_standby : rig.recording.standby.Keeps (Station.Follows last) := by
  refine keeps_current.bind fun _ => .optionally (fun _ => .throw _) ?_
  refine .ite (fun _ => .pure _) fun _ => .optionally (fun _ => keeps_wake _) ?_
  refine (keeps_order rfl).bind fun _ => (keeps_tell rfl).bind fun _ => ?_
  exact (keeps_quiet (recorded_pause _)).bind fun _ => keeps_transition rfl

theorem keeps_sleep (duration : UInt32) :
    (rig.recording.sleep duration).Keeps (Station.Follows last) := by
  refine keeps_current.bind fun _ => .optionally (fun _ => .throw _) ?_
  refine .ite (fun _ => .pure _) fun _ => .iteRest ?_ fun rest =>
    (keeps_quiet recorded_now).bind fun _ => (keeps_quiet (recorded_announceSleep _)).bind
      fun _ => rest
  refine (keeps_order rfl).bind fun _ => (keeps_tell rfl).bind fun _ => ?_
  refine .optionally (fun _ => keeps_tell rfl) fun s hs => ?_
  have refused : Keeps (Station.Follows (σ := σ) last) (do
      if rig.recording.config.disarmInSleep then rig.recording.rearm
      throw (α := Unit) Fault.hardware) := .optionally (fun _ => keeps_rearm) (.throw _)
  exact ends_bind.mpr <| ends_attempt.mpr <| (tell_target rfl hs).mono fun
    | .ok ⟨⟩, _, h => note_target (c := .setSleep true) rfl h
    | .error _, s, h => refused s h

/-! ## Tuning and starts -/

theorem keeps_setFrequency (frequency : UInt32) :
    (rig.recording.setFrequency frequency).Keeps (Station.Follows last) :=
  keeps_of_recorded (recorded_setFrequency frequency (fun _ => rfl) (fun _ => rfl) fun _ => rfl)
    (by simp)

theorem keeps_setTxPower (power : Int8) :
    (rig.recording.setTxPower power).Keeps (Station.Follows last) :=
  keeps_of_recorded (recorded_setTxPower power (fun _ => rfl) fun _ _ => rfl) (by simp)

theorem keeps_startTx (timeout : UInt32) :
    (rig.recording.startTx timeout).Keeps (Station.Follows last) := by
  refine (keeps_ensure _).bind fun _ => keeps_current.bind fun _ => ?_
  exact (keeps_tell rfl).bind fun _ => (keeps_tell rfl).bind fun _ => keeps_transition rfl

theorem keeps_startCarrier (frequency : UInt32) (power : Int8) :
    (rig.recording.startCarrier frequency power).Keeps (Station.Follows last) := by
  refine (keeps_ensure _).bind fun _ => keeps_standby.bind fun _ => ?_
  refine (keeps_setFrequency _).bind fun _ => (keeps_setTxPower _).bind fun _ => ?_
  refine keeps_current.bind fun _ => (keeps_tell rfl).bind fun _ => ?_
  exact (keeps_tell rfl).bind fun _ => keeps_transition rfl

theorem keeps_receiveFor (ticks : UInt32) :
    (rig.recording.receiveFor ticks).Keeps (Station.Follows last) := by
  refine keeps_current.bind fun _ => (keeps_order rfl).bind fun _ => ?_
  exact (keeps_tell rfl).bind fun _ => (keeps_tell rfl).bind fun _ => keeps_transition rfl

theorem keeps_startRx (timeout : UInt32) :
    (rig.recording.startRx timeout).Keeps (Station.Follows last) :=
  (keeps_ensure _).bind fun _ => keeps_receiveFor _

theorem keeps_startContinuousRx :
    rig.recording.startContinuousRx.Keeps (Station.Follows last) :=
  (keeps_ensure _).bind fun _ => keeps_receiveFor _

theorem keeps_startCarrierSense (params : Fsk.CarrierSense) (exit : CadExit) :
    (rig.recording.startCarrierSense params exit).Keeps (Station.Follows last) := by
  refine (keeps_ensure _).bind fun _ => keeps_current.bind fun _ => ?_
  refine .optionally (fun _ => .throw _) ((keeps_order rfl).bind fun _ => ?_)
  refine (keeps_tell rfl).bind fun _ => (keeps_tell rfl).bind fun _ => ?_
  refine .bind (keeps_update fun _ => rfl) fun _ => ?_
  refine (keeps_tell rfl).bind fun _ => fun s hs => ?_
  -- The policy is noted between the command and its state.
  exact ends_bind.mpr <| ends_reporting.mpr <| (tell_target rfl hs).mono fun
    | .ok _, _, h => ends_bind.mpr <| note_target (c := .setRx 0) rfl h
    | .error _, _, h => h

theorem keeps_startRxDutyCycle (rx sleep : UInt32) :
    (rig.recording.startRxDutyCycle rx sleep).Keeps (Station.Follows last) := by
  unfold startRxDutyCycle
  refine .optionally (fun _ => .throw _) ((keeps_ensure _).bind fun _ => ?_)
  exact (keeps_tell rfl).bind fun _ => (keeps_tell rfl).bind fun _ => keeps_transition rfl

theorem keeps_startCad : rig.recording.startCad.Keeps (Station.Follows last) := by
  refine (keeps_ensure _).bind fun _ => keeps_current.bind fun _ => ?_
  refine .optionally (fun _ => .throw _) ((keeps_tell rfl).bind fun _ => ?_)
  exact (keeps_tell rfl).bind fun _ => keeps_transition rfl

theorem keeps_measure {x : Action (Station (σ × List Exchange)) α} (frequency : UInt32)
    (h : x.Keeps (Station.Follows last)) :
    (rig.recording.measure frequency x).Keeps (Station.Follows last) := by
  refine (keeps_setFrequency _).bind fun _ => (keeps_tell rfl).bind fun _ => ?_
  refine h.attempt.bind fun _ => keeps_rearm.attempt.bind fun _ => ?_
  refine keeps_standby.attempt.bind fun _ => .bind (.settle _) fun _ => ?_
  exact .bind (.settle _) fun _ => .bind (.settle _) fun _ => .pure _

theorem keeps_sampleChannel (threshold : Int16) (window : UInt32) :
    (rig.recording.sampleChannel threshold window).Keeps (Station.Follows last) := by
  refine keeps_startContinuousRx.bind fun _ => (keeps_quiet recorded_now).bind fun _ => ?_
  have hread : Command.IsQuiet .readRssi := rfl
  exact keeps_quiet (recorded_watchChannel hread _ _ _ _)

theorem keeps_sampleNoise : rig.recording.sampleNoise.Keeps (Station.Follows last) := by
  refine keeps_startContinuousRx.bind fun _ => ?_
  have hread : Command.IsQuiet .readRssi := rfl
  exact (keeps_quiet (recorded_sumNoise hread _ _)).bind fun _ => .pure _

/-! ## Reservations, scans and power-up -/

theorem keeps_setBusy : (setBusy (σ := σ × List Exchange)).Keeps (Station.Follows last) :=
  (keeps_ensure _).bind fun _ => fun _ _ => trivial

theorem keeps_holdScan : rig.recording.holdScan.Keeps (Station.Follows last) := by
  refine .bind (fun _ h => h) fun s => .unlessThen (fun _ => .throw _) ?_
  refine (keeps_tell rfl).bind fun line => .optionally (fun _ => .throw _) fun s hs => ?_
  refine ends_bind.mpr <| ends_current.mpr ?_
  dsimp only
  refine ends_ite.mpr ?_
  split
  · exact hs
  · rename_i hstate
    have hstate : s.radio.state = .standby := Decidable.of_not_not hstate
    rw [Station.Follows, hstate] at hs
    exact hs

/-- A scan that ends leaves the chip in standby, as it was before the scan. -/
theorem ends_endScan {state : RadioState} (hstate : state = .standby ∨ state = .busy)
    {s : Station (σ × List Exchange)} (hs : lastTarget last s.log = some .standby) :
    (rig.recording.endScan state).Ends s fun _ => Station.Follows last := by
  have hrestore : rig.recording.restore.Ends s fun _ s =>
      lastTarget last s.log = some .standby := by
    rw [← hs]
    have h : Recorded rig Command.IsQuiet [] rig.recording.restore rig.restore :=
      recorded_restore (fun _ => rfl) fun _ => rfl
    exact lastTarget_of_recorded h s
  refine ends_bind.mpr <| ends_attempt.mpr <| hrestore.mono fun r s hs => ?_
  refine ends_bind.mpr <| ends_enter.mpr <| ends_settle.mpr ?_
  rcases hstate with rfl | rfl
  · exact hs
  · trivial

/-- What follows once it is sure that a scan owns the radio. -/
theorem keeps_ensureScanning_bind {f : Unit → Action (Station (σ × List Exchange)) α}
    (hf : ∀ s, s.Follows last → lastTarget last s.log = some .standby →
      (f ()).Ends s fun _ => Station.Follows last) :
    (ensureScanning >>= f).Keeps (Station.Follows last) := by
  intro s hs
  refine ends_bind.mpr <| ends_bind.mpr <| ends_current.mpr <| ends_ite.mpr ?_
  split
  · exact hs
  · rename_i hstate
    have hstate : s.radio.state = .scan := Decidable.of_not_not hstate
    refine hf s hs ?_
    rw [Station.Follows, hstate] at hs
    exact hs

theorem keeps_releaseScan : rig.recording.releaseScan.Keeps (Station.Follows last) :=
  keeps_ensureScanning_bind fun _ _ => ends_endScan (.inl rfl)

theorem keeps_scanInterrupt (status : InterruptSet) :
    (rig.recording.scanInterrupt status).Keeps (Station.Follows last) := by
  refine keeps_ensureScanning_bind fun s hs hlast => ends_ite.mpr ?_
  split
  · exact ends_endScan (.inr rfl) hlast
  · refine ends_bind.mpr <| ends_get.mpr <| ends_ite.mpr ?_
    split
    · exact ends_endScan (.inl rfl) hlast
    · exact hs

theorem keeps_configure (limits : Option RegionalLimits) :
    (rig.recording.configure limits).Keeps (Station.Follows last) := by
  refine keeps_standby.bind fun _ => (keeps_order rfl).bind fun _ => ?_
  refine keeps_current.bind fun _ => (keeps_tell rfl).bind fun _ => ?_
  cases limits with
  | none => exact keeps_rearm
  | some limits => exact (keeps_setTxPower _).bind fun _ => keeps_rearm

theorem keeps_powerUp : rig.recording.powerUp.Keeps (Station.Follows last) := by
  refine keeps_ensureNotScanning.bind fun _ => ?_
  refine .bind (keeps_update fun _ => rfl) fun _ => (keeps_tell rfl).bind fun _ => fun s hs => ?_
  refine ends_bind.mpr <| (tell_target rfl hs).mono fun
    | .ok _, s, _ => ?_
    | .error _, _, h => h
  -- After the reset the state on record is unknown, which is true of any chip.
  exact ends_bind.mpr <| ends_update.mpr <| keeps_configure _ _ trivial

/-! ## Dispatch of interrupts -/

theorem keeps_reception {meaning : Meaning} (h : meaning = .sync ∨ ∃ m, meaning = .packet m) :
    (rig.recording.act meaning).Keeps (Station.Follows last) := by
  have quiet (c : Command) (hc : c.topic ∈ [.reception]) : c.IsQuiet := by
    rw [Command.isQuiet_iff, List.mem_singleton.mp hc]
    decide
  exact keeps_of_recorded ((recorded_reception h).mono quiet fun _ => id) (by simp)

theorem keeps_act (meaning : Meaning) :
    (rig.recording.act meaning).Keeps (Station.Follows last) := by
  have note : Recorded rig Command.IsQuiet [.packet] rig.recording.noteRssi rig.noteRssi :=
    recorded_noteRssi (by simp) rfl
  exact keeps_act_of (keeps_update fun _ => rfl) keeps_startTx (keeps_of_recorded note (by simp))
    keeps_standby (fun _ h => keeps_reception h) meaning

theorem keeps_dispatch : rig.recording.dispatch.Keeps (Station.Follows last) := by
  refine (keeps_tell rfl).bind fun _ => (keeps_tell rfl).bind fun status => ?_
  have attend : Recorded rig Command.IsQuiet [.packet] (rig.recording.attend status)
      (rig.attend status) := recorded_attend status (by simp) rfl
  refine (keeps_of_recorded attend (by simp)).bind fun _ => ?_
  exact keeps_current.bind fun _ => keeps_act _

theorem keeps_conclude (found : Except Fault (Option Event)) :
    (rig.recording.conclude found).Keeps (Station.Follows last) := by
  have h : Recorded rig Command.IsQuiet [.listener] (rig.recording.conclude found)
      (rig.conclude found) := recorded_conclude _ (fun _ => rfl) (by simp)
  exact keeps_of_recorded h (by simp)

theorem keeps_processInterrupt :
    rig.recording.processInterrupt.Keeps (Station.Follows last) :=
  keeps_current.bind fun _ => .ite (fun _ => .pure _) fun _ => keeps_dispatch.attempt.bind fun _ =>
    keeps_conclude _

/-! ## Runs -/

/-- An operation keeps the state on record borne out. -/
theorem keeps_perform (op : Operation) :
    (rig.recording.perform op).Keeps (Station.Follows last) := by
  by_cases hop : .state ∈ op.parts
  · cases op with
    | powerUp => exact keeps_powerUp
    | standby => exact keeps_standby
    | sleep duration => exact keeps_sleep _
    | setBusy => exact keeps_setBusy
    | holdScan => exact keeps_holdScan
    | releaseScan => exact keeps_releaseScan
    | startTx timeout => exact keeps_startTx _
    | startCarrier frequency power => exact keeps_startCarrier _ _
    | startRx timeout => exact keeps_startRx _
    | startContinuousRx => exact keeps_startContinuousRx
    | startCarrierSense params exit => exact keeps_startCarrierSense _ _
    | startRxDutyCycle rx sleep => exact keeps_startRxDutyCycle _ _
    | startCad => exact keeps_startCad
    | isChannelFree frequency threshold duration =>
      exact keeps_measure _ (keeps_sampleChannel _ _)
    | channelNoise frequency => exact keeps_measure _ keeps_sampleNoise
    | processInterrupt => exact keeps_processInterrupt
    | scanInterrupt status => exact keeps_scanInterrupt _
    | _ => simp [Operation.parts] at hop
  · exact keeps_of_recorded
      ((recorded_perform op).mono (fun _ hc => hc.isQuiet hop) fun _ => id) hop

theorem lastTarget_history (s : Station σ) (ops : List Operation) :
    (rig.history s ops).foldl (fun last t => lastTarget last t.exchanges) last =
      lastTarget last ((rig.history s ops).flatMap Turn.exchanges) := by
  induction rig.history s ops generalizing last with
  | nil => rfl
  | cons t ts ih => rw [List.foldl_cons, List.flatMap_cons, lastTarget_append, ih]

/-- A run keeps the state on record borne out by the commands accepted so far. -/
theorem follows_run (s : Station σ) (ops : List Operation) (h : Follows s.radio.state last) :
    Follows (rig.run s ops).radio.state
      (lastTarget last ((rig.history s ops).flatMap Turn.exchanges)) := by
  rw [← lastTarget_history]
  refine history_keeps (fun last r => Follows r.state last) (fun s op last h => ?_) ops _ h
  have hop : (rig.recording.perform op).Keeps (Station.Follows last) := keeps_perform op
  exact hop s.recorded h

/-- Whenever the state on record is one that a command of the chip leads to, it is the state of the
last such command that the chip accepted. -/
theorem last_accepted_target (rig : Rig σ) (w : σ) (ops : List Operation)
    (h : (rig.run ⟨{}, w⟩ ops).radio.state ∈
      [RadioState.standby, .sleep, .rx, .tx, .cad, .rxDutyCycle]) :
    (((rig.history ⟨{}, w⟩ ops).flatMap Turn.exchanges).filterMap Exchange.target?).getLast? =
      some (rig.run ⟨{}, w⟩ ops).radio.state := by
  have hrun : Follows (rig.run ⟨{}, w⟩ ops).radio.state (lastTarget none _) :=
    follows_run ⟨{}, w⟩ ops trivial
  rw [lastTarget, Option.or_none] at hrun
  revert h hrun
  cases (rig.run ⟨{}, w⟩ ops).radio.state with
  | unknown | busy | scan => simp
  | standby | sleep | rx | tx | cad | rxDutyCycle => exact fun _ hlast => hlast

/-- A radio that is measured with and then put to receive. -/
theorem last_accepted_target_receiving :
    let rig := Bench.rig {}
    let ops := [.standby, .setFrequency 868100000, .channelNoise 868300000, .startRx 0]
    (((rig.history ⟨{}, []⟩ ops).flatMap Turn.exchanges).filterMap Exchange.target?).getLast? =
      some (rig.run ⟨{}, []⟩ ops).radio.state :=
  last_accepted_target (Bench.rig {}) []
    [.standby, .setFrequency 868100000, .channelNoise 868300000, .startRx 0] (by decide +kernel)

end Rig

end Transceiver
