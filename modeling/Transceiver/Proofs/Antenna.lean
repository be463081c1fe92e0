import Transceiver.Proofs.Arming
import Transceiver.Proofs.Mode
import Transceiver.Proofs.Scan

/-! The antenna switch in standby. The way to standby switches the antenna off, and a radio that is
in standby already is left as it is. A start selects its path before the command that starts it, so
a start from standby that is interrupted after the selection leaves the radio in standby with the
antenna on. Nothing else does. -/

namespace Transceiver

/-- The antenna path that was selected. -/
def Exchange.selected? : Exchange → Option AntennaPath
  | .command (.setAntenna path) (.ok _) => some path
  | _ => none

/-- The exchange neither selects an antenna path nor brings the chip to a state. -/
structure Exchange.IsPlain (x : Exchange) : Prop where
  selected : x.selected? = none
  target : x.target? = none

/-- The command selects an antenna path, or brings the chip to a state. -/
def Command.disturbs (c : Command) : Bool := c.topic = .antenna || c.target?.isSome

theorem Command.disturbs_eq_false {c : Command} :
    c.disturbs = false ↔ c.topic ≠ .antenna ∧ c.target? = none := by
  rw [disturbs, Bool.or_eq_false_iff, decide_eq_false_iff_not, Option.isSome_eq_false_iff,
    Option.isNone_iff_eq_none]

theorem Exchange.selected?_of_within {parts : List Part} {x : Exchange}
    (h : x.Within (·.topic ≠ .antenna) parts) : x.selected? = none := by
  unfold selected?
  split
  · exact absurd rfl h
  · rfl

theorem Exchange.isPlain_of_within {parts : List Part} {x : Exchange}
    (h : x.Within (·.disturbs = false) parts) : x.IsPlain := by
  cases x with
  | command c r =>
    have hc : c.topic ≠ .antenna ∧ c.target? = none := Command.disturbs_eq_false.mp h
    have hwithin : (Exchange.command c r).Within (·.topic ≠ .antenna) parts := hc.1
    refine ⟨Exchange.selected?_of_within hwithin, ?_⟩
    cases r with
    | error e => rfl
    | ok a => exact hc.2
  | _ => exact ⟨rfl, rfl⟩

theorem Exchange.isPlain_refused (c : Command) (e : Fault) :
    (Exchange.command c (.error e)).IsPlain := by
  cases c <;> exact ⟨rfl, rfl⟩

/-- A path was selected, and the chip has accepted what it was told since, which brought it to no
state. -/
def Swung (xs : List Exchange) : Prop :=
  ∃ pre path mid, xs = pre ++ .command (.setAntenna path) (.ok ()) :: mid ∧ path ≠ .off ∧
    (∀ y ∈ mid, y.fails = false) ∧ ∀ y ∈ mid, y.IsPlain

/-- A path was selected, and the chip refused a command after it. No path was selected since, and
the chip was brought to no state. -/
def Stranded (xs : List Exchange) : Prop :=
  ∃ pre path mid c e post,
    xs = pre ++ .command (.setAntenna path) (.ok ()) :: (mid ++ .command c (.error e) :: post) ∧
    path ≠ .off ∧ (∀ y ∈ mid, y.fails = false) ∧ ∀ y ∈ mid ++ post, y.IsPlain

/-- The antenna was switched off last, or was left on by a start that was interrupted. -/
def Rested (xs : List Exchange) : Prop :=
  lastFound Exchange.selected? none xs = some .off ∨ Stranded xs

section Lists
variable {xs ys : List Exchange} {c : Command}

theorem Swung.select (xs : List Exchange) {path : AntennaPath} (hpath : path ≠ .off) :
    Swung (xs ++ [.command (.setAntenna path) (.ok ())]) :=
  ⟨xs, path, [], rfl, hpath, by simp, by simp⟩

theorem Swung.accept (h : Swung xs) (hc : c.disturbs = false) (a : c.Reply) :
    Swung (xs ++ [.command c (.ok a)]) := by
  obtain ⟨pre, path, mid, rfl, hpath, hmid, hplain⟩ := h
  have hwithin : (Exchange.command c (.ok a)).Within (·.disturbs = false) [] := hc
  have hlast : (Exchange.command c (.ok a)).IsPlain := Exchange.isPlain_of_within hwithin
  refine ⟨pre, path, mid ++ [.command c (.ok a)], by simp, hpath, ?_, ?_⟩
  · simpa [or_imp, forall_and, Exchange.fails] using hmid
  · simpa [or_imp, forall_and, hlast] using hplain

theorem Swung.refuse (h : Swung xs) (c : Command) (e : Fault) :
    Stranded (xs ++ [.command c (.error e)]) := by
  obtain ⟨pre, path, mid, rfl, hpath, hmid, hplain⟩ := h
  exact ⟨pre, path, mid, c, e, [], by simp, hpath, hmid, by simpa using hplain⟩

theorem Stranded.append (h : Stranded xs) (hys : ∀ y ∈ ys, y.IsPlain) : Stranded (xs ++ ys) := by
  obtain ⟨pre, path, mid, c, e, post, rfl, hpath, hmid, hplain⟩ := h
  refine ⟨pre, path, mid, c, e, post ++ ys, by simp, hpath, hmid, ?_⟩
  rw [← List.append_assoc]
  exact List.forall_mem_append.mpr ⟨hplain, hys⟩

theorem Stranded.not_off (h : Stranded xs) : lastFound Exchange.selected? none xs ≠ some .off := by
  obtain ⟨pre, path, mid, c, e, post, rfl, hpath, -, hplain⟩ := h
  have hnone : ∀ y ∈ mid ++ .command c (.error e) :: post, y.selected? = none := by
    intro y hy
    rcases List.mem_append.mp hy with hmid | hrest
    · exact (hplain y (List.mem_append_left _ hmid)).selected
    · rcases List.mem_cons.mp hrest with rfl | hpost
      · exact (Exchange.isPlain_refused c e).selected
      · exact (hplain y (List.mem_append_right _ hpost)).selected
  rw [lastFound_append, ← List.singleton_append, lastFound_append, lastFound_of_none _ hnone]
  intro hoff
  exact hpath (Option.some.inj hoff)

theorem Rested.append (h : Rested xs) (hys : ∀ y ∈ ys, y.IsPlain) : Rested (xs ++ ys) := by
  refine h.imp (fun hoff => ?_) fun hstranded => hstranded.append hys
  rw [lastFound_append, lastFound_of_none _ fun y hy => (hys y hy).selected]
  exact hoff

theorem Rested.refuse (h : Rested xs) (c : Command) (e : Fault) :
    Rested (xs ++ [.command c (.error e)]) :=
  h.append (List.forall_mem_singleton.mpr (Exchange.isPlain_refused c e))

theorem Rested.off_iff (h : Rested xs) :
    lastFound Exchange.selected? none xs = some .off ↔ ¬Stranded xs :=
  ⟨fun hoff hstranded => hstranded.not_off hoff, fun hnot => h.resolve_right hnot⟩

end Lists

/-- In standby, and while a scan owns the radio, the antenna is at rest. -/
def Resting (xs : List Exchange) (r : Radio) : Prop :=
  r.state = .standby ∨ r.state = .scan → Rested xs

namespace Station

variable {σ : Type} (pre : List Exchange) (s : Station (σ × List Exchange))

/-- After these exchanges and those of the log the antenna is off. -/
def Off : Prop := lastFound Exchange.selected? none (pre ++ s.log) = some .off

/-- The antenna is at rest where it has to be, after these exchanges and those of the log. -/
def Rests : Prop := Resting (pre ++ s.log) s.radio

variable {pre s}

theorem Off.rests (h : s.Off pre) : s.Rests pre := fun _ => .inl h

end Station

namespace Rig

open Station Transceiver.Action

variable {σ α : Type} {rig : Rig σ} {pre : List Exchange}

/-! ## Steps that leave the antenna alone -/

section Steps
variable {parts : List Part} {x : Action (Station (σ × List Exchange)) α}
  {y : Action (Station σ) α}

theorem off_of_recorded (h : Recorded rig (·.topic ≠ .antenna) parts x y) :
    x.Keeps (Off pre) := by
  intro s hs
  obtain ⟨xs, hlog, hxs⟩ := (h s).2.log
  rw [Ends, Off, hlog, ← List.append_assoc, lastFound_append, lastFound_of_none]
  · exact hs
  · exact fun x hx => Exchange.selected?_of_within (hxs x hx)

theorem rests_of_recorded (h : Recorded rig (·.disturbs = false) parts x y) (hparts : .state ∉ parts) :
    x.Keeps (Rests pre) := by
  intro s hs hstate
  obtain ⟨xs, hlog, hxs⟩ := (h s).2.log
  rw [(h s).2.radio .state hparts] at hstate
  rw [hlog, ← List.append_assoc]
  exact (hs hstate).append fun x hx => Exchange.isPlain_of_within (hxs x hx)

theorem rests_among {topics : List Topic} (h : Recorded rig (·.topic ∈ topics) parts x y)
    (htopics : .antenna ∉ topics ∧ .mode ∉ topics ∧ .sleep ∉ topics ∧ .reset ∉ topics)
    (hparts : .state ∉ parts) : x.Keeps (Rests pre) := by
  obtain ⟨hantenna, hmode, hsleep, hreset⟩ := htopics
  refine rests_of_recorded (h.mono (fun c hc => ?_) fun _ => id) hparts
  have hquiet : c.target? = none := Command.isQuiet_iff.mpr
    ⟨fun h => hmode (h ▸ hc), fun h => hsleep (h ▸ hc), fun h => hreset (h ▸ hc)⟩
  exact Command.disturbs_eq_false.mpr ⟨fun h => hantenna (h ▸ hc), hquiet⟩

end Steps

theorem off_tell {c : Command} (hc : c.topic ≠ .antenna) :
    (rig.recording.tell c).Keeps (Off pre) := by
  have h : Recorded rig (·.topic ≠ .antenna) [] (rig.recording.tell c) (rig.tell c) :=
    recorded_tell c hc
  exact off_of_recorded h

theorem off_order {c : Command} (hc : c.topic ≠ .antenna) :
    (rig.recording.order c).Keeps (Off pre) :=
  (off_tell hc).reporting _

theorem rests_tell {c : Command} (hc : c.disturbs = false) :
    (rig.recording.tell c).Keeps (Rests pre) := by
  have h : Recorded rig (·.disturbs = false) [] (rig.recording.tell c) (rig.tell c) :=
    recorded_tell c hc
  exact rests_of_recorded h (by simp)

theorem rests_order {c : Command} (hc : c.disturbs = false) : (rig.recording.order c).Keeps (Rests pre) :=
  (rests_tell hc).reporting _

theorem rests_rearm : rig.recording.rearm.Keeps (Rests pre) := by
  have h : Recorded rig (·.disturbs = false) [] rig.recording.rearm rig.rearm :=
    recorded_rearm fun _ => rfl
  exact rests_of_recorded h (by simp)

theorem rests_update {f : Radio → Radio} (h : ∀ r, (f r).state = r.state) :
    (update (σ := σ × List Exchange) f).Keeps (Rests pre) := by
  intro s hs
  rw [ends_update, Rests, Resting, h]
  exact hs

theorem ends_enter_other {state : RadioState} (h : state ≠ .standby ∧ state ≠ .scan)
    {s : Station (σ × List Exchange)} : (enter state).Ends s fun _ => Rests pre :=
  ends_enter.mpr fun hstate => (hstate.elim h.1 h.2).elim

/-! ## Standby, sleep and power-up -/

section SwitchOff
variable {s : Station (σ × List Exchange)}

theorem ends_switch_off_bind {f : Unit → Action (Station (σ × List Exchange)) α}
    (hs : s.Rests pre) (hf : ∀ s, s.Off pre → (f ()).Ends s fun _ => Rests pre) :
    (rig.recording.tell (.setAntenna .off) >>= f).Ends s fun _ => Rests pre := by
  refine ends_tell_bind (fun e w hstate => ?_) fun _ w => hf _ ?_
  · rw [log, ← List.append_assoc]
    exact (hs hstate).refuse _ e
  · rw [Off, log, ← List.append_assoc, lastFound_concat]
    rfl

theorem rests_of_off {x : Action (Station (σ × List Exchange)) α} (h : x.Keeps (Off pre))
    (hs : s.Off pre) : x.Ends s fun _ => Rests pre :=
  (h s hs).mono fun _ _ => Off.rests

end SwitchOff

theorem rests_wake (slept : Bool) : (rig.recording.wake slept).Keeps (Rests pre) := by
  have unknown : (enter (σ := σ × List Exchange) .unknown).Keeps (Rests pre) := fun _ _ =>
    ends_enter_other (by simp)
  refine (rests_tell rfl).attempt.bind fun r => ?_
  rcases r with e | ⟨⟩
  · exact unknown.bind fun _ => .throw _
  · refine .ite (fun _ => .ite (fun _ => ?_) fun _ => unknown) fun _ => .pure _
    exact keeps_current.bind fun _ => (rests_order rfl).bind fun _ => unknown

theorem rests_standby : rig.recording.standby.Keeps (Rests pre) := by
  refine keeps_current.bind fun _ => .optionally (fun _ => .throw _) ?_
  refine .ite (fun _ => .pure _) fun _ => .optionally (fun _ => rests_wake _) ?_
  have pause : Recorded rig (·.topic ≠ .antenna) [] (rig.recording.pause standbyDelay)
      (rig.pause standbyDelay) := recorded_pause _
  refine (rests_order rfl).bind fun _ s hs => ends_switch_off_bind hs fun s => rests_of_off ?_
  exact (off_of_recorded pause).bind fun _ => (off_order (by simp)).bind fun _ => fun _ h => h

theorem rests_sleep (duration : UInt32) : (rig.recording.sleep duration).Keeps (Rests pre) := by
  refine keeps_current.bind fun _ => .optionally (fun _ => .throw _) (.ite (fun _ => .pure _) ?_)
  have now : Recorded rig (·.disturbs = false) [] rig.recording.now rig.now := recorded_now
  have announce (wakeAt : UInt64) : Recorded rig (·.disturbs = false) []
      (rig.recording.announceSleep wakeAt) (rig.announceSleep wakeAt) := recorded_announceSleep _
  refine fun _ => .iteRest ?_ fun rest => (rests_of_recorded now (by simp)).bind fun _ =>
    (rests_of_recorded (announce _) (by simp)).bind fun _ => rest
  have rearm : Recorded rig (·.topic ≠ .antenna) [] rig.recording.rearm rig.rearm :=
    recorded_rearm fun _ => by simp
  refine (rests_order rfl).bind fun _ s hs => ends_switch_off_bind hs fun s => rests_of_off ?_
  refine .optionally (fun _ => off_tell (by simp)) ((off_tell (by simp)).attempt.bind fun r => ?_)
  rcases r with e | ⟨⟩
  · exact .optionally (fun _ => off_of_recorded rearm) (.throw _)
  · exact fun _ h => h

theorem rests_setTxPower (power : Int8) : (rig.recording.setTxPower power).Keeps (Rests pre) :=
  rests_of_recorded (recorded_setTxPower power (fun _ => rfl) fun _ _ => rfl)
    (by simp)

theorem rests_setFrequency (frequency : UInt32) :
    (rig.recording.setFrequency frequency).Keeps (Rests pre) :=
  rests_of_recorded (recorded_setFrequency frequency (fun _ => rfl)
    (fun _ => rfl) fun _ => rfl) (by simp)

theorem rests_configure (limits : Option RegionalLimits) :
    (rig.recording.configure limits).Keeps (Rests pre) := by
  refine rests_standby.bind fun _ => (rests_order rfl).bind fun _ => ?_
  refine keeps_current.bind fun _ => (rests_tell rfl).bind fun _ => ?_
  cases limits with
  | none => exact rests_rearm
  | some limits => exact (rests_setTxPower _).bind fun _ => rests_rearm

theorem rests_powerUp : rig.recording.powerUp.Keeps (Rests pre) := by
  refine keeps_ensureNotScanning.bind fun _ => .bind (rests_update fun _ => rfl) fun _ s hs => ?_
  refine ends_switch_off_bind hs fun s hoff => ?_
  have reset : (rig.recording.tell .reset).Keeps (Off pre) := off_tell (by simp)
  refine ends_bind.mpr <| (reset s hoff).mono fun r s hoff => ?_
  cases r with
  | error e => exact hoff.rests
  | ok =>
    -- After the reset the state on record is unknown.
    exact ends_bind.mpr <| ends_update.mpr <| rests_configure _ _ fun hstate => hstate.elim nofun nofun

/-! ## Starts

A start selects its path, sends some parameters and then launches. A fault at the selection changes
nothing; a fault after it leaves the radio stranded in the state that it was in. -/

section Starts
variable {s : Station (σ × List Exchange)}

theorem ends_select_bind {path : AntennaPath} (hpath : path ≠ .off)
    {f : Unit → Action (Station (σ × List Exchange)) α} (hs : s.Rests pre)
    (hf : ∀ s, Swung (pre ++ s.log) → (f ()).Ends s fun _ => Rests pre) :
    (rig.recording.tell (.setAntenna path) >>= f).Ends s fun _ => Rests pre := by
  refine ends_tell_bind (fun e w hstate => ?_) fun _ w => hf _ ?_
  · rw [log, ← List.append_assoc]
    exact (hs hstate).refuse _ e
  · rw [log, ← List.append_assoc]
    exact .select _ hpath

theorem ends_prepare_bind {c : Command} (hc : c.disturbs = false)
    {f : c.Reply → Action (Station (σ × List Exchange)) α} (hs : Swung (pre ++ s.log))
    (hf : ∀ a s, Swung (pre ++ s.log) → (f a).Ends s fun _ => Rests pre) :
    (rig.recording.tell c >>= f).Ends s fun _ => Rests pre := by
  refine ends_tell_bind (fun e w _ => ?_) fun a w => hf a _ ?_
  · rw [log, ← List.append_assoc]
    exact .inr (hs.refuse c e)
  · rw [log, ← List.append_assoc]
    exact hs.accept hc a

theorem ends_launch_bind {c : Command} {f : c.Reply → Action (Station (σ × List Exchange)) α}
    (hs : Swung (pre ++ s.log)) (hf : ∀ a s, (f a).Ends s fun _ => Rests pre) :
    (rig.recording.order c >>= f).Ends s fun _ => Rests pre := by
  refine ends_order_bind (fun e w _ => ?_) fun a w => hf a _
  rw [log, ← List.append_assoc]
  exact .inr (hs.refuse c e)

end Starts

theorem txPath_ne_off (pa : PaConfig) : txPath pa ≠ .off := by
  unfold txPath
  split <;> nofun

theorem rests_startTx (timeout : UInt32) : (rig.recording.startTx timeout).Keeps (Rests pre) := by
  refine (keeps_ensure _).bind fun _ => keeps_current.bind fun _ s hs => ?_
  refine ends_select_bind (txPath_ne_off _) hs fun s hs => ends_prepare_bind rfl hs ?_
  exact fun _ s hs => ends_launch_bind hs fun _ _ => ends_enter_other (by simp)

theorem rests_startCarrier (frequency : UInt32) (power : Int8) :
    (rig.recording.startCarrier frequency power).Keeps (Rests pre) := by
  refine (keeps_ensure _).bind fun _ => rests_standby.bind fun _ => ?_
  refine (rests_setFrequency _).bind fun _ => (rests_setTxPower _).bind fun _ => ?_
  refine keeps_current.bind fun _ s hs => ends_select_bind (txPath_ne_off _) hs fun s hs => ?_
  refine ends_prepare_bind rfl hs fun _ s hs => ends_launch_bind hs fun _ _ => ?_
  exact ends_enter_other (by simp)

theorem rests_receiveFor (ticks : UInt32) :
    (rig.recording.receiveFor ticks).Keeps (Rests pre) := by
  refine keeps_current.bind fun _ => (rests_order rfl).bind fun _ s hs => ?_
  refine ends_select_bind (by simp) hs fun s hs => ends_prepare_bind rfl hs fun _ s hs => ?_
  exact ends_launch_bind hs fun _ _ => ends_enter_other (by simp)

theorem rests_startRx (timeout : UInt32) : (rig.recording.startRx timeout).Keeps (Rests pre) :=
  (keeps_ensure _).bind fun _ => rests_receiveFor _

theorem rests_startContinuousRx : rig.recording.startContinuousRx.Keeps (Rests pre) :=
  (keeps_ensure _).bind fun _ => rests_receiveFor _

theorem rests_startCarrierSense (params : Fsk.CarrierSense) (exit : CadExit) :
    (rig.recording.startCarrierSense params exit).Keeps (Rests pre) := by
  refine (keeps_ensure _).bind fun _ => keeps_current.bind fun _ => ?_
  refine .optionally (fun _ => .throw _) ((rests_order rfl).bind fun _ s hs => ?_)
  refine ends_select_bind (by simp) hs fun s hs => ends_prepare_bind rfl hs fun _ s hs => ?_
  refine ends_bind.mpr <| ends_update.mpr <| ends_prepare_bind rfl hs fun _ s hs => ?_
  refine ends_launch_bind hs fun _ s => ends_bind.mpr <| ends_update.mpr ?_
  exact ends_enter_other (by simp)

theorem rests_startRxDutyCycle (rx sleep : UInt32) :
    (rig.recording.startRxDutyCycle rx sleep).Keeps (Rests pre) := by
  unfold startRxDutyCycle
  refine .optionally (fun _ => .throw _) ((keeps_ensure _).bind fun _ s hs => ?_)
  refine ends_select_bind (by simp) hs fun s hs => ends_prepare_bind rfl hs fun _ s hs => ?_
  exact ends_launch_bind hs fun _ _ => ends_enter_other (by simp)

theorem rests_startCad : rig.recording.startCad.Keeps (Rests pre) := by
  refine (keeps_ensure _).bind fun _ => keeps_current.bind fun _ => ?_
  refine .optionally (fun _ => .throw _) fun s hs => ends_select_bind (by simp) hs fun s hs => ?_
  refine ends_prepare_bind rfl hs fun _ s hs => ends_launch_bind hs fun _ _ => ?_
  exact ends_enter_other (by simp)

/-! ## Measurements, scans and dispatch -/

theorem rests_measure {x : Action (Station (σ × List Exchange)) α} (frequency : UInt32)
    (h : x.Keeps (Rests pre)) : (rig.recording.measure frequency x).Keeps (Rests pre) := by
  refine (rests_setFrequency _).bind fun _ => (rests_tell rfl).bind fun _ => ?_
  refine h.attempt.bind fun _ => rests_rearm.attempt.bind fun _ => ?_
  refine rests_standby.attempt.bind fun _ => .bind (.settle _) fun _ => ?_
  exact .bind (.settle _) fun _ => .bind (.settle _) fun _ => .pure _

theorem rests_sampleChannel (threshold : Int16) (window : UInt32) :
    (rig.recording.sampleChannel threshold window).Keeps (Rests pre) := by
  have watch (start : UInt64) (n : Nat) : Recorded rig (·.topic ∈ [.measuring]) []
      (rig.recording.watchChannel threshold window start n)
      (rig.watchChannel threshold window start n) := recorded_watchChannel (by simp) _ _ _ _
  have now : Recorded rig (·.disturbs = false) [] rig.recording.now rig.now := recorded_now
  refine rests_startContinuousRx.bind fun _ => (rests_of_recorded now (by simp)).bind fun _ => ?_
  exact rests_among (watch _ _) (by simp) (by simp)

theorem rests_sampleNoise : rig.recording.sampleNoise.Keeps (Rests pre) := by
  have sum (n : Nat) : Recorded rig (·.topic ∈ [.measuring]) [] (rig.recording.sumNoise 0 n)
      (rig.sumNoise 0 n) := recorded_sumNoise (by simp) _ _
  refine rests_startContinuousRx.bind fun _ => ?_
  exact (rests_among (sum _) (by simp) (by simp)).bind fun _ => .pure _

theorem rests_holdScan : rig.recording.holdScan.Keeps (Rests pre) := by
  refine .bind (fun _ h => h) fun s => .unlessThen (fun _ => .throw _) ?_
  refine (rests_tell rfl).bind fun line => .optionally (fun _ => .throw _) fun s hs => ?_
  refine ends_bind.mpr <| ends_current.mpr <| ends_ite.mpr ?_
  split
  · exact hs
  · rename_i hstate
    exact ends_enter.mpr fun _ => hs (.inl (Decidable.of_not_not hstate))

theorem ends_endScan_rested (state : RadioState) {s : Station (σ × List Exchange)}
    (hs : Rested (pre ++ s.log)) :
    (rig.recording.endScan state).Ends s fun _ => Rests pre := by
  have restore : Recorded rig (·.disturbs = false) [] rig.recording.restore rig.restore :=
    recorded_restore (fun _ => rfl) fun _ => rfl
  have hrested : rig.recording.restore.Ends s fun _ s => Rested (pre ++ s.log) := by
    obtain ⟨xs, hlog, hxs⟩ := (restore s).2.log
    rw [Ends, hlog, ← List.append_assoc]
    exact hs.append fun x hx => Exchange.isPlain_of_within (hxs x hx)
  -- Whether or not it restores the mask, it ends in the state it is told to end in.
  refine ends_bind.mpr <| ends_attempt.mpr <| hrested.mono fun _ _ h => ?_
  exact ends_bind.mpr <| ends_enter.mpr <| ends_settle.mpr fun _ => h

theorem rests_ensureScanning_bind {f : Unit → Action (Station (σ × List Exchange)) α}
    (hf : ∀ s, s.Rests pre → Rested (pre ++ s.log) → (f ()).Ends s fun _ => Rests pre) :
    (ensureScanning >>= f).Keeps (Rests pre) := by
  intro s hs
  refine ends_bind.mpr <| ends_bind.mpr <| ends_current.mpr <| ends_ite.mpr ?_
  split
  · exact hs
  · rename_i hstate
    exact hf s hs (hs (.inr (Decidable.of_not_not hstate)))

theorem rests_scanInterrupt (status : InterruptSet) :
    (rig.recording.scanInterrupt status).Keeps (Rests pre) := by
  refine rests_ensureScanning_bind fun s hs hrested => ends_ite.mpr ?_
  split
  · exact ends_endScan_rested _ hrested
  · refine ends_bind.mpr <| ends_get.mpr <| ends_ite.mpr ?_
    split
    · exact ends_endScan_rested _ hrested
    · exact hs

theorem rests_processInterrupt : rig.recording.processInterrupt.Keeps (Rests pre) := by
  have note : Recorded rig (·.topic ∈ [.measuring]) [.packet] rig.recording.noteRssi
      rig.noteRssi := recorded_noteRssi (by simp) (by simp)
  have attend (status : InterruptSet) : Recorded rig (·.topic ∈ [.status]) [.packet]
      (rig.recording.attend status) (rig.attend status) := recorded_attend _ (by simp) (by simp)
  have conclude (found : Except Fault (Option Event)) : Recorded rig (·.topic ∈ [.arming])
      [.listener] (rig.recording.conclude found) (rig.conclude found) :=
    recorded_conclude _ (fun _ => by simp) (by simp)
  have act (meaning : Meaning) : (rig.recording.act meaning).Keeps (Rests pre) :=
    keeps_act_of (rests_update fun _ => rfl) rests_startTx (rests_among note (by simp) (by simp))
      rests_standby (fun _ h => rests_among (recorded_reception h) (by simp) (by simp)) meaning
  have dispatch : rig.recording.dispatch.Keeps (Rests pre) :=
    (rests_tell rfl).bind fun _ => (rests_tell rfl).bind fun _ =>
      (rests_among (attend _) (by simp) (by simp)).bind fun _ => keeps_current.bind fun _ => act _
  refine keeps_current.bind fun _ => .ite (fun _ => .pure _) fun _ => dispatch.attempt.bind ?_
  exact fun _ => rests_among (conclude _) (by simp) (by simp)

/-! ## Runs -/

theorem rests_perform (op : Operation) : (rig.recording.perform op).Keeps (Rests pre) := by
  -- What leaves the state on record alone has no business with the antenna either.
  by_cases hop : .state ∈ op.parts
  case neg =>
    have htopics : .antenna ∉ op.topics ∧ .mode ∉ op.topics ∧ .sleep ∉ op.topics ∧
        .reset ∉ op.topics := by
      cases op <;> simp [Operation.parts, Operation.topics, dispatched] at hop ⊢
    exact rests_among (recorded_perform op) htopics hop
  cases op with
  | powerUp => exact rests_powerUp
  | standby => exact rests_standby
  | sleep duration => exact rests_sleep _
  | setBusy =>
    exact (keeps_ensure _).bind fun _ _ _ => ends_enter_other (by simp)
  | holdScan => exact rests_holdScan
  | releaseScan => exact rests_ensureScanning_bind fun _ _ => ends_endScan_rested _
  | startTx timeout => exact rests_startTx _
  | startCarrier frequency power => exact rests_startCarrier _ _
  | startRx timeout => exact rests_startRx _
  | startContinuousRx => exact rests_startContinuousRx
  | startCarrierSense params exit => exact rests_startCarrierSense _ _
  | startRxDutyCycle rx sleep => exact rests_startRxDutyCycle _ _
  | startCad => exact rests_startCad
  | isChannelFree frequency threshold duration => exact rests_measure _ (rests_sampleChannel _ _)
  | channelNoise frequency => exact rests_measure _ rests_sampleNoise
  | processInterrupt => exact rests_processInterrupt
  | scanInterrupt status => exact rests_scanInterrupt _
  | _ => simp [Operation.parts] at hop

theorem resting_history (s : Station σ) (ops : List Operation) {xs : List Exchange}
    (h : Resting xs s.radio) :
    Resting (xs ++ (rig.history s ops).flatMap Turn.exchanges) (rig.run s ops).radio := by
  refine history_extends (fun s op xs h => ?_) ops h
  have hperform : (rig.recording.perform op).Keeps (Rests xs) := rests_perform op
  exact hperform s.recorded (by simpa [Rests] using h)

theorem standby_of_succeeds {s : Station σ} (h : (rig.turn s .standby).Succeeds) :
    (rig.step s .standby).radio.state = .standby := by
  have hends : rig.recording.standby.Ends s.recorded fun r s' =>
      r.isOk = true → s'.radio.state = .standby := by
    by_cases hscan : s.recorded.radio.state = .scan
    · exact (ends_standby_scan hscan).mpr nofun
    · refine (ends_standby hscan).mono fun r s' hr hok => ?_
      cases r with
      | error e => cases hok
      | ok => exact hr
  rw [← turn_after]
  exact hends h

/-- Over every run from power-off, with any failures of the chip: a radio that was asked for standby,
and did not refuse, was brought there by the chip, and its antenna was switched off last, exactly
unless in standby a start has selected another path and was then interrupted. -/
theorem off_iff_not_stranded (rig : Rig σ) (w : σ) (ops : List Operation)
    (h : (rig.turn (rig.run ⟨{}, w⟩ ops) .standby).Succeeds) :
    let xs := (rig.history ⟨{}, w⟩ (ops ++ [.standby])).flatMap Turn.exchanges
    lastTarget none xs = some .standby ∧
      (lastFound Exchange.selected? none xs = some .off ↔ ¬Stranded xs) := by
  intro xs
  have hstate : (rig.run ⟨{}, w⟩ (ops ++ [.standby])).radio.state = .standby := by
    rw [run_append]
    exact standby_of_succeeds h
  have start : Resting [] {} := fun h => h.elim nofun nofun
  have hrested : Rested ([] ++ xs) := resting_history ⟨{}, w⟩ _ start (.inl hstate)
  have hfollows : Follows _ (lastTarget none xs) := follows_run ⟨{}, w⟩ (ops ++ [.standby]) trivial
  rw [hstate] at hfollows
  exact ⟨hfollows, hrested.off_iff⟩

/-- A radio that receives and then rests. -/
theorem off_iff_not_stranded_received :
    let rig := Bench.rig {}
    let xs := (rig.history ⟨{}, []⟩ [.powerUp, .startRx 0, .standby]).flatMap Turn.exchanges
    lastFound Exchange.selected? none xs = some .off ∧ ¬Stranded xs := by
  intro rig xs
  have hoff : lastFound Exchange.selected? none xs = some .off := by decide +kernel
  obtain ⟨-, hiff⟩ := off_iff_not_stranded rig [] [.powerUp, .startRx 0] (by decide +kernel)
  exact ⟨hoff, hiff.mp hoff⟩

end Rig

/-- A rig on the bench whose chip refuses to transmit. -/
def Bench.jammed : Rig (List InterruptSet) :=
  let rig := Bench.rig {}
  { rig with chip := { rig.chip with
      perform := fun
        | .setTx _, statuses => .error .io statuses
        | c, statuses => rig.chip.perform c statuses } }

namespace Rig

/-- A transmission that the chip refuses leaves the radio in standby with the antenna on, and what
is asked for standby then has nothing to do. -/
theorem on_in_standby :
    let s := Bench.jammed.run ⟨{}, []⟩ [.powerUp, .startTx 0]
    (Bench.jammed.turn s .standby).Succeeds ∧ (Bench.jammed.turn s .standby).given = [] ∧
      lastFound Exchange.selected? none ((Bench.jammed.history ⟨{}, []⟩
        [.powerUp, .startTx 0, .standby]).flatMap Turn.exchanges) = some .tx := by
  decide +kernel

end Rig

end Transceiver
