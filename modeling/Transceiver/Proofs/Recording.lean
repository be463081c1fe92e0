import Transceiver.Proofs.Action
import Transceiver.Rig.Operation

/-! Recording what passes between the driver and its surroundings. A rig is given a world that
keeps a log beside the world it had. -/

namespace Transceiver

/-- What passes between the driver and its surroundings. -/
inductive Exchange where
  /-- A command, and how the chip answered it. -/
  | command (c : Command) (outcome : Except Fault c.Reply)
  | pause (us : UInt32)
  /-- A reading of the clock. -/
  | clock (time : UInt64)
  | event (event : Event)
  | sleepStart (wakeAt : UInt64)

/-- The chip, with all that is asked of it written to a log. -/
def Chip.recording {σ : Type} (chip : Chip σ) : Chip (σ × List Exchange) where
  tickRate := chip.tickRate
  oscillatorStartup := chip.oscillatorStartup
  supportsScan s := chip.supportsScan s.1
  busStatus s := chip.busStatus s.1
  pause us s := (chip.pause us s.1, s.2 ++ [.pause us])
  perform c s :=
    let (outcome, w) := (chip.perform c).result s.1
    Action.settle outcome (w, s.2 ++ [.command c outcome])

/-- The host, with all that it tells and is told written to a log. -/
def Host.recording {σ : Type} (host : Host σ) : Host (σ × List Exchange) where
  now s := let (time, w) := host.now s.1; (time, (w, s.2 ++ [.clock time]))
  onEvent event s := (host.onEvent event s.1, s.2 ++ [.event event])
  onSleepStart wakeAt s := (host.onSleepStart wakeAt s.1, s.2 ++ [.sleepStart wakeAt])

/-- The rig, with a log. -/
def Rig.recording {σ : Type} (rig : Rig σ) : Rig (σ × List Exchange) where
  chip := rig.chip.recording
  host := rig.host.recording
  config := rig.config

/-- What an exchange makes of the world. -/
def Rig.Moves {σ : Type} (rig : Rig σ) (w : σ) : Exchange → σ → Prop
  | .command c r, w' => (rig.chip.perform c).result w = (r, w')
  | .pause us, w' => rig.chip.pause us w = w'
  | .clock time, w' => rig.host.now w = (time, w')
  | .event event, w' => rig.host.onEvent event w = w'
  | .sleepStart wakeAt, w' => rig.host.onSleepStart wakeAt w = w'

/-- The exchanges lead from one world to another. -/
inductive Rig.Leads {σ : Type} (rig : Rig σ) : σ → List Exchange → σ → Prop
  | nil (w : σ) : Rig.Leads rig w [] w
  | cons {w w₁ w' : σ} {x : Exchange} {xs : List Exchange} :
    rig.Moves w x w₁ → Rig.Leads rig w₁ xs w' → Rig.Leads rig w (x :: xs) w'

namespace Rig.Leads

variable {σ : Type} {rig : Rig σ} {w w₁ w' : σ} {x : Exchange} {xs ys : List Exchange}

theorem single (h : rig.Moves w x w') : rig.Leads w [x] w' := .cons h (.nil w')

theorem append (h : rig.Leads w xs w₁) (h' : rig.Leads w₁ ys w') : rig.Leads w (xs ++ ys) w' := by
  induction h with
  | nil => exact h'
  | cons hx _ ih => exact .cons hx (ih h')

/-- What holds of a world still holds where exchanges lead to that keep it. -/
theorem keeps {P : σ → Prop} (h : rig.Leads w xs w') (hw : P w)
    (hkeep : ∀ x ∈ xs, ∀ w w', rig.Moves w x w' → P w → P w') : P w' := by
  induction h with
  | nil => exact hw
  | cons hx _ ih =>
    have hhead := hkeep _ (by simp) _ _ hx hw
    exact ih hhead fun y hy => hkeep y (by simp [hy])

/-- What a world holds grows by what each exchange on the way there adds. -/
theorem accumulates {β : Type} {f : σ → List β} {added : Exchange → List β}
    (h : rig.Leads w xs w')
    (hadds : ∀ x ∈ xs, ∀ w w', rig.Moves w x w' → f w' = f w ++ added x) :
    f w' = f w ++ xs.flatMap added := by
  induction h with
  | nil => simp
  | cons hx _ ih =>
    have hhead := hadds _ (by simp) _ _ hx
    rw [ih fun y hy => hadds y (by simp [hy]), hhead, List.flatMap_cons, List.append_assoc]

/-- The same where an exchange adds at most one thing. -/
theorem collects {β : Type} {f : σ → List β} {found : Exchange → Option β}
    (h : rig.Leads w xs w')
    (hfinds : ∀ x ∈ xs, ∀ w w', rig.Moves w x w' → f w' = f w ++ (found x).toList) :
    f w' = f w ++ xs.filterMap found := by
  have hflat (xs : List Exchange) : xs.flatMap (fun x => (found x).toList) = xs.filterMap found := by
    induction xs with
    | nil => rfl
    | cons x xs ih => cases hx : found x <;> simp [hx, ih]
  rw [← hflat]
  exact h.accumulates hfinds

end Rig.Leads

namespace Station

variable {σ : Type}

/-- The log of a recorded station. -/
def log (s : Station (σ × List Exchange)) : List Exchange := s.world.2

/-- A recorded station without its log. -/
def erased (s : Station (σ × List Exchange)) : Station σ := { s with world := s.world.1 }

/-- A station that is recorded from now on. -/
def recorded (s : Station σ) : Station (σ × List Exchange) := { s with world := (s.world, []) }

@[simp] theorem erased_recorded (s : Station σ) : s.recorded.erased = s := rfl

@[simp] theorem log_recorded (s : Station σ) : s.recorded.log = [] := rfl

@[simp] theorem radio_erased (s : Station (σ × List Exchange)) : s.erased.radio = s.radio := rfl

@[simp] theorem radio_recorded (s : Station σ) : s.recorded.radio = s.radio := rfl

section Ends
variable {α : Type} {s : Station σ}

theorem ends_current {Q : Except Fault Radio → Station σ → Prop} :
    current.Ends s Q ↔ Q (.ok s.radio) s := .rfl

variable {Q : Except Fault Unit → Station σ → Prop}

theorem ends_update {f : Radio → Radio} :
    (update f).Ends s Q ↔ Q (.ok ()) { s with radio := f s.radio } := .rfl

theorem ends_enter {state : RadioState} :
    (enter state).Ends s Q ↔ Q (.ok ()) { s with radio := { s.radio with state } } := .rfl

theorem ends_ensureNotScanning : ensureNotScanning.Ends s Q ↔
    if s.radio.state = .scan then Q (.error .busy) s else Q (.ok ()) s := by
  simp only [ensureNotScanning, Action.ends_bind, ends_current, Action.ends_ite,
    Action.ends_throw, Action.ends_pure]

theorem ends_ensure {allowed : RadioState → Bool} : (ensure allowed).Ends s Q ↔
    if s.radio.state = .scan then Q (.error .busy) s
    else if allowed s.radio.state then Q (.ok ()) s else Q (.error .invalidState) s := by
  simp only [ensure, Action.ends_bind, ends_current, Action.ends_ite, Action.ends_throw,
    Action.ends_pure]

end Ends

section Keeps
variable {P : Station σ → Prop}

/-- Looking at the record changes nothing. -/
theorem keeps_current : (current (σ := σ)).Keeps P := fun _ hs => hs

theorem keeps_ensureNotScanning : (ensureNotScanning (σ := σ)).Keeps P :=
  keeps_current.bind fun _ => .ite (fun _ => .throw _) fun _ => .pure _

theorem keeps_ensure (allowed : RadioState → Bool) : (ensure (σ := σ) allowed).Keeps P :=
  keeps_current.bind fun _ =>
    .optionally (fun _ => .throw _) (.ite (fun _ => .pure _) fun _ => .throw _)

end Keeps

end Station

namespace Rig

variable {σ : Type} {rig : Rig σ}

@[simp] theorem config_recording : rig.recording.config = rig.config := rfl

/-! ## Exchanges -/

theorem result_tell (c : Command) (s : Station σ) :
    (rig.tell c).result s =
      (((rig.chip.perform c).result s.world).1,
        { s with world := ((rig.chip.perform c).result s.world).2 }) := by
  simp only [Action.result, tell, Action.onPart]
  cases rig.chip.perform c s.world <;> rfl

theorem ends_tell {c : Command} {s : Station σ} {Q : Except Fault c.Reply → Station σ → Prop} :
    (rig.tell c).Ends s Q ↔
      (rig.chip.perform c).Ends s.world fun r w => Q r { s with world := w } := by
  rw [Action.Ends, result_tell]
  rfl

theorem result_recording_perform (c : Command) (s : σ × List Exchange) :
    (rig.recording.chip.perform c).result s =
      (((rig.chip.perform c).result s.1).1,
        (((rig.chip.perform c).result s.1).2,
          s.2 ++ [.command c ((rig.chip.perform c).result s.1).1])) :=
  Action.result_settle _ (_, _)

theorem result_recording_tell (c : Command) (s : Station (σ × List Exchange)) :
    (rig.recording.tell c).result s =
      (((rig.chip.perform c).result s.world.1).1,
        { s with world := (((rig.chip.perform c).result s.world.1).2,
            s.log ++ [.command c ((rig.chip.perform c).result s.world.1).1]) }) := by
  rw [result_tell, result_recording_perform]
  rfl

/-- A command of a recorded rig ends as wanted if it does so for whatever the chip answers. -/
theorem ends_recording_tell {c : Command} {s : Station (σ × List Exchange)}
    {Q : Except Fault c.Reply → Station (σ × List Exchange) → Prop}
    (h : ∀ r w, Q r { s with world := (w, s.log ++ [.command c r]) }) :
    (rig.recording.tell c).Ends s Q := by
  rw [Action.Ends, result_recording_tell]
  exact h _ _

section Bind
variable {α : Type} {c : Command} {f : c.Reply → Action (Station (σ × List Exchange)) α}
  {s : Station (σ × List Exchange)} {Q : Except Fault α → Station (σ × List Exchange) → Prop}

/-- A command and what follows it, which is nothing if the command is refused. -/
theorem ends_tell_bind
    (hrefused : ∀ e w, Q (.error e) { s with world := (w, s.log ++ [.command c (.error e)]) })
    (haccepted : ∀ a w, (f a).Ends { s with world := (w, s.log ++ [.command c (.ok a)]) } Q) :
    (rig.recording.tell c >>= f).Ends s Q := by
  refine Action.ends_bind.mpr <| ends_recording_tell fun r w => ?_
  cases r with
  | ok a => exact haccepted a w
  | error e => exact hrefused e w

theorem ends_order_bind
    (hrefused : ∀ e w, Q (.error .hardware) { s with
      world := (w, s.log ++ [.command c (.error e)]) })
    (haccepted : ∀ a w, (f a).Ends { s with world := (w, s.log ++ [.command c (.ok a)]) } Q) :
    (rig.recording.order c >>= f).Ends s Q := by
  refine Action.ends_bind.mpr <| Action.ends_reporting.mpr <| ends_recording_tell fun r w => ?_
  cases r with
  | ok a => exact haccepted a w
  | error e => exact hrefused e w

end Bind

/-- A reading of the clock ends as wanted if it does so for every time. -/
theorem ends_recording_now {s : Station (σ × List Exchange)}
    {Q : Except Fault UInt64 → Station (σ × List Exchange) → Prop}
    (h : ∀ time w, Q (.ok time) { s with world := (w, s.log ++ [.clock time]) }) :
    rig.recording.now.Ends s Q := h _ _

theorem ends_recording_pause {us : UInt32} {s : Station (σ × List Exchange)}
    {Q : Except Fault Unit → Station (σ × List Exchange) → Prop} :
    (rig.recording.pause us).Ends s Q ↔
      Q (.ok ()) { s with world := (rig.chip.pause us s.world.1, s.log ++ [.pause us]) } := .rfl

section Keeps
open Station Transceiver.Action
variable {P : Station σ → Prop}

theorem keeps_ensureScanning : (ensureScanning (σ := σ)).Keeps P :=
  keeps_current.bind fun _ => .ite (fun _ => .throw _) fun _ => .pure _

/-- What an interrupt calls for keeps what its parts keep. -/
theorem keeps_act_of (hclose : endWindow.Keeps P) (hstart : ∀ timeout, (rig.startTx timeout).Keeps P)
    (hnote : rig.noteRssi.Keeps P) (hstandby : rig.standby.Keeps P)
    (hreception : ∀ m, m = .sync ∨ (∃ modem, m = .packet modem) → (rig.act m).Keeps P)
    (meaning : Meaning) : (rig.act meaning).Keeps P := by
  cases meaning with
  | event | nothing => exact .pure _
  | detected => exact hclose.bind fun _ => .pure _
  | quiet event =>
    refine keeps_current.bind fun _ => hclose.bind fun _ => .ite (fun _ => ?_) fun _ => .pure _
    refine .ite (fun _ => .pure _) fun _ => keeps_current.bind fun _ => ?_
    exact (hstart _).attempt.discard.bind fun _ => .pure _
  | preamble =>
    refine keeps_current.bind fun r => ?_
    cases r.cadExit with
    | none => exact .pure _
    | csRx | edRx => exact hclose.bind fun _ => .pure _
    | csOnly | csLbt | edOnly | edLbt =>
      refine hnote.bind fun _ => hclose.bind fun _ => ?_
      exact hstandby.bind fun _ => .pure _
  | sync => exact hreception _ (.inl rfl)
  | packet modem => exact hreception _ (.inr ⟨modem, rfl⟩)

end Keeps

end Rig

end Transceiver
