import Transceiver.Proofs.Arming
import Transceiver.Proofs.Device
import Transceiver.Proofs.Dispatch
import Transceiver.Proofs.FailedStart
import Transceiver.Proofs.Guards
import Transceiver.Proofs.Mode

/-! The state Sleep against what passed over the bus. The bus wakes a sleeping chip for any
exchange, without a word to the state machine above it, so the state on record says no more than
that the chip was put to sleep once. It still sleeps exactly if no operation since has called on
it: an operation that does rouses the chip if it succeeds, and one that fails does so if it got
through to the chip before. The host's flag, which the state machine does not look at, knows. -/

namespace Transceiver

open Bus

/-- Only the command for sleep brings the chip to sleep. -/
theorem Command.topic_of_target? {c : Command} (h : c.target? = some .sleep) : c.topic = .sleep := by
  cases c with
  | setSleep warmStart => rfl
  | _ => cases h

/-! ## Commands on the bus -/

/-- The second link comes from the first by an exchange: the flag is no less honest, and set only if
the chip accepted the command for sleep, or was brought to no state at all. -/
structure Bus.Link.Through {σ : Type} (protocol : Protocol) (x : Exchange)
    (l l' : Link (σ × List Signal)) : Prop where
  honest : l.Honest protocol → l'.Honest protocol
  awake : x.target? ≠ some .sleep → l'.sleeping = true → x.target? = none ∧ l.sleeping = true

namespace Bus.Link.Through

variable {σ : Type} {protocol : Protocol} {x : Exchange} {l l' : Link (σ × List Signal)}

theorem of_calm (h : l.Calm protocol l') (hx : x.target? = none) :
    Through protocol x l l' where
  honest := h.honest
  awake _ hsleeping := ⟨hx, by
    cases hl : l.sleeping with
    | true => rfl
    | false => exact absurd (h.roused hl) (by simp [hsleeping])⟩

theorem of_serves {c : Command} {r : Except Fault c.Reply} (h : Endpoint.Serves protocol l r l') :
    Through protocol (.command c r) l l' := by
  cases r with
  | error e => exact of_calm h.1 rfl
  | ok a =>
    have hawake : l'.sleeping = false := h.2 rfl
    exact ⟨h.1.honest, fun _ hsleeping => by simp [hawake] at hsleeping⟩

theorem of_retires {warmStart : Bool} {r : Except Fault Unit}
    (h : Endpoint.Retires protocol l r l') :
    Through protocol (.command (.setSleep warmStart) r) l l' := by
  cases r with
  | error e => exact of_calm h rfl
  | ok a => exact ⟨fun _ => h.2, fun hne => absurd rfl hne⟩

end Bus.Link.Through

namespace Device

open Transceiver.Action Bus.Endpoint

variable {σ : Type} {device : Device σ} {l l₀ : Link (σ × List Signal)}

theorem keeps_plain {c : Command} (hc : c.IsPlain) :
    (device.recording.chip.perform c).Keeps (l₀.Calm device.protocol) := by
  cases device with
  | sx126x device =>
    have h : device.recording.bus.Preserves (l₀.Calm .singleShot) := preserves_calm device.bus
    exact Sx126x.Device.keeps_perform h.toCarries hc fun _ _ => Board.keeps_select (h.drive _) _
  | lr11xx device =>
    have h : device.recording.bus.Preserves (l₀.Calm .twoPhase) := preserves_calm device.bus
    exact Lr11xx.Device.keeps_perform h.toCarries hc fun _ _ => Board.keeps_select (h.drive _) _

theorem ends_setSleep (warmStart : Bool) :
    (device.recording.chip.perform (.setSleep warmStart)).Ends l (Retires device.protocol l) := by
  cases device with
  | sx126x device => exact device.ends_setSleep _
  | lr11xx device => exact device.ends_setSleep _

theorem ends_target {c : Command} {state : RadioState} (hc : c.target? = some state)
    (hne : state ≠ .sleep) :
    (device.recording.chip.perform c).Ends l (Serves device.protocol l) := by
  cases device with
  | sx126x device => exact device.ends_target hc hne
  | lr11xx device => exact device.ends_target hc hne

theorem keeps_abort :
    (device.recording.chip.perform .abort).Keeps (AwakeSince device.protocol l) := by
  cases device with
  | sx126x device => exact .throw _
  | lr11xx device => exact device.keeps_abort

/-- A command that takes an exchange leaves the chip awake. -/
theorem awakens_call {c : Command} (hc : c.Calls) : Awakens (device.recording.chip.perform c) := by
  cases device with
  | sx126x device => exact device.awakens_call hc
  | lr11xx device => exact device.awakens_call hc

/-- A command is calm that does not put the chip to sleep, if only a chip that is awake is
interrupted. -/
theorem calm_perform {c : Command} (hsleep : c.topic ≠ .sleep)
    (habort : c = .abort → l.sleeping = false) :
    (device.recording.chip.perform c).Ends l fun _ l' => l.Calm device.protocol l' := by
  have plain (hc : c.IsPlain) : (device.recording.chip.perform c).Ends l fun _ l' =>
      l.Calm device.protocol l' := keeps_plain hc l (.refl l)
  cases c with
  | setSleep warmStart => exact absurd rfl hsleep
  | abort => exact (keeps_abort l ⟨.refl l, habort rfl⟩).mono fun _ _ h => h.1
  | reset => exact (ends_target (c := .reset) rfl nofun).mono fun _ _ h => h.1
  | _ => exact plain trivial

/-- A command is told by the flag, if only a chip that is awake is interrupted. -/
theorem through_perform {c : Command} (habort : c = .abort → l.sleeping = false) :
    (device.recording.chip.perform c).Ends l fun r l' =>
      l.Through device.protocol (.command c r) l' := by
  by_cases hsleep : c.topic = .sleep
  · cases c with
    | setSleep warmStart => exact (ends_setSleep _).mono fun _ _ h => .of_retires h
    | _ => cases hsleep
  · cases htarget : c.target? with
    | some state =>
      have hne : state ≠ .sleep := by
        rintro rfl
        exact hsleep (Command.topic_of_target? htarget)
      exact (ends_target htarget hne).mono fun _ _ h => .of_serves h
    | none =>
      refine (calm_perform hsleep habort).mono fun r _ h => .of_calm h ?_
      cases r with
      | ok a => exact htarget
      | error e => rfl

end Device

/-! ## Runs -/

/-- The flag after some exchanges: it says what the signals say, and it is set only if the chip was
last brought to sleep. -/
structure Bus.Link.Rests {σ : Type} (protocol : Protocol) (xs : List Exchange)
    (l : Link (σ × List Signal)) : Prop where
  honest : l.Honest protocol
  last : l.sleeping = true → lastTarget none xs = some .sleep

theorem Bus.Link.Rests.through {σ : Type} {protocol : Protocol} {xs : List Exchange} {x : Exchange}
    {l l' : Link (σ × List Signal)} (h : l.Rests protocol xs) (hx : l.Through protocol x l') :
    l'.Rests protocol (xs ++ [x]) := by
  have hlast : lastTarget none (xs ++ [x]) = x.target?.or (lastTarget none xs) :=
    lastFound_concat none xs x
  refine ⟨hx.honest h.honest, fun hsleeping => ?_⟩
  by_cases htarget : x.target? = some .sleep
  · rw [hlast, htarget]
    rfl
  · obtain ⟨hnone, hbefore⟩ := hx.awake htarget hsleeping
    rw [hlast, hnone]
    exact h.last hbefore

/-- What is no command leaves the flag alone: the host's clock, its listener and the pauses. -/
theorem Device.calm_uncommanded {σ : Type} {device : Device σ} {host : Host σ} {config : Config}
    {x : Exchange} {l l' : Link (σ × List Signal)}
    (h : (device.recordedRig host config).Moves l x l') (hx : x.given? = none) :
    l.Calm device.protocol l' := by
  cases x with
  | command c r => cases hx
  | pause us =>
    subst h
    cases device with
    | sx126x | lr11xx => exact .noting_quiet (x := .delayMicros us) rfl rfl
  | clock time =>
    have hl : ((device.recordedRig host config).host.now l).2 = l' := congrArg Prod.snd h
    subst hl
    exact .of_same rfl rfl
  | event | sleepStart =>
    subst h
    exact .of_same rfl rfl

/-- How a command ends is how it moves the world. -/
theorem Rig.Moves.of_ends {σ : Type} {rig : Rig σ} {c : Command} {r : Except Fault c.Reply}
    {w w' : σ} {Q : Except Fault c.Reply → σ → Prop} (h : rig.Moves w (.command c r) w')
    (hends : (rig.chip.perform c).Ends w Q) : Q r w' := by
  have hresult : (rig.chip.perform c).result w = (r, w') := h
  rwa [Action.Ends, hresult] at hends

/-- An exchange is told by the flag, if only a chip that is awake is interrupted. -/
theorem Device.through_moves {σ : Type} {device : Device σ} {host : Host σ} {config : Config}
    {x : Exchange} {l l' : Link (σ × List Signal)}
    (h : (device.recordedRig host config).Moves l x l')
    (habort : x.given? = some .abort → l.sleeping = false) :
    l.Through device.protocol x l' := by
  cases x with
  | command c r => exact h.of_ends (through_perform fun hc => habort (congrArg some hc))
  | pause | clock | event | sleepStart => exact .of_calm (calm_uncommanded h rfl) rfl

section Runs
variable {σ : Type} {device : Device σ} {host : Host σ} {config : Config}

/-- Exchanges that interrupt only a chip which was last brought to another state than sleep. -/
theorem Device.rests_leads {xs ys : List Exchange} {l l' : Link (σ × List Signal)}
    (h : (device.recordedRig host config).Leads l ys l')
    (hrests : l.Rests device.protocol xs)
    (habort : ∀ pre r post, ys = pre ++ .command .abort r :: post →
      lastTarget none (xs ++ pre) ≠ some .sleep) :
    l'.Rests device.protocol (xs ++ ys) := by
  induction h generalizing xs with
  | nil => simpa using hrests
  | @cons l l₁ l' x ys hx _ ih =>
    have hawake (hgiven : x.given? = some .abort) : l.sleeping = false := by
      refine Bool.eq_false_iff.mpr fun hsleeping => ?_
      obtain ⟨r, rfl⟩ : ∃ r, x = .command .abort r := by
        cases x with
        | command c r => cases hgiven; exact ⟨r, rfl⟩
        | _ => cases hgiven
      have hlast := habort [] r ys rfl
      rw [List.append_nil] at hlast
      exact hlast (hrests.last hsleeping)
    have hstep := hrests.through (through_moves hx hawake)
    rw [← List.singleton_append, ← List.append_assoc]
    refine ih hstep fun pre r post hsplit => ?_
    rw [List.append_assoc]
    exact habort (x :: pre) r post (congrArg _ hsplit)

end Runs

namespace Rig

open Station Transceiver.Action

variable {σ : Type} {rig : Rig σ} {s : Station σ} {last : Option RadioState}

/-- A chip is interrupted in a scan only, and a scan begins in standby. -/
theorem lastTarget_before_abort {op : Operation} (h : Follows s.radio.state last)
    {pre post : List Exchange} {r : Except Fault Unit}
    (hsplit : (rig.turn s op).exchanges = pre ++ .command .abort r :: post) :
    lastTarget last pre ≠ some .sleep := by
  have hwithin : ∀ x ∈ (rig.turn s op).exchanges, x.Within op.Gives op.parts := turn_within.1
  have hgives : op.Gives .abort := hwithin (.command .abort r) (by simp [hsplit])
  obtain rfl : op = .abortScan := by
    cases op <;> simp [Operation.Gives, Operation.topics, measured, serviced] at hgives ⊢
  by_cases hscan : s.radio.state = .scan
  · rw [hscan] at h
    have hstandby : last = some .standby := h
    rw [lastTarget_of_none, hstandby]
    · decide
    · intro x hx
      have hx : x.Within Operation.abortScan.Gives Operation.abortScan.parts :=
        hwithin x (hsplit ▸ List.mem_append_left _ hx)
      cases x with
      | command c r =>
        obtain rfl : c = .abort := by
          cases c <;> simp [Exchange.Within, Operation.Gives, Operation.topics] at hx ⊢
        cases r with
        | ok | error => rfl
      | _ => rfl
  · have hlog : rig.recording.abortScan.Ends s.recorded fun _ s' => s'.log = [] :=
      ends_bind.mpr <| ends_bind.mpr <| ends_current.mpr <| ends_ite.mpr <| (if_pos hscan).mpr rfl
    have hnil : (rig.turn s .abortScan).exchanges = [] := hlog
    rw [hnil] at hsplit
    cases pre with
    | nil | cons => cases hsplit

end Rig

namespace Device

variable {σ : Type} {device : Device σ} {host : Host σ} {config : Config}

theorem rests_history {xs : List Exchange} (s : Station (Link (σ × List Signal)))
    (ops : List Operation) (hrests : s.world.Rests device.protocol xs)
    (hfollows : Follows s.radio.state (lastTarget none xs)) :
    let rig := device.recordedRig host config
    (rig.run s ops).world.Rests device.protocol
      (xs ++ (rig.history s ops).flatMap Turn.exchanges) := by
  intro rig
  induction ops generalizing s xs with
  | nil => simpa [Rig.history] using hrests
  | cons op ops ih =>
    have hturn : (rig.step s op).world.Rests device.protocol (xs ++ (rig.turn s op).exchanges) := by
      refine rests_leads Rig.turn_leads hrests fun pre r post hsplit => ?_
      rw [lastTarget_append]
      exact Rig.lastTarget_before_abort hfollows hsplit
    have hnext : Follows (rig.step s op).radio.state
        (lastTarget none (xs ++ (rig.turn s op).exchanges)) := by
      rw [lastTarget_append, ← Rig.turn_after]
      have hop : (rig.recording.perform op).Keeps (Station.Follows (lastTarget none xs)) :=
        Rig.keeps_perform op
      exact hop s.recorded hfollows
    rw [Rig.history, List.flatMap_cons, ← List.append_assoc]
    exact ih _ hturn hnext

end Device

/-! ## Operations of a radio that sleeps -/

/-- The operations that call on the chip while the state on record is Sleep. The others are refused,
look at the interrupt line at most, or have nothing to tell the chip. -/
def Operation.calls : Operation → Bool
  | .powerUp | .setModem _ | .standby | .rssi | .random | .setLoraModulation _ | .setLoraPacket _
  | .setLoraSyncWord _ | .setLoraSymbolTimeout _ | .setFskModulation _ | .setFskPacket _
  | .setFskSyncWord _ | .processInterrupt => true
  | .setTxPayload payload => !payload.isEmpty
  | .setCadParams params => params.exit = .csOnly || params.exit = .csRx || params.exit = .csLbt
  | _ => false

/-- The exchange neither puts the chip to sleep nor interrupts it. -/
def Exchange.IsGentle (x : Exchange) : Prop :=
  ∀ c, x.given? = some c → c.topic ≠ .sleep ∧ c.topic ≠ .abort

/-- The chip accepted a command that takes an exchange with it. -/
def Station.Heard {σ : Type} (s : Station (σ × List Exchange)) : Prop :=
  ∃ c ∈ s.log.filterMap Exchange.accepted?, c.Calls

namespace Rig

open Station Transceiver.Action

variable {σ α β : Type} {rig : Rig σ}

/-- `P` holds of each operation of a run, at the station that it meets. -/
def Throughout (rig : Rig σ) (P : Station σ → Operation → Prop) : Station σ → List Operation → Prop
  | _, [] => True
  | s, op :: ops => P s op ∧ Throughout rig P (rig.step s op) ops

section Uncalled
variable {s : Station (σ × List Exchange)}

/-- A radio that sleeps lets an operation through to the interrupt line at most, if the operation does
not call on the chip. -/
theorem uncalled_perform {op : Operation} (hstate : s.radio.state = .sleep)
    (hop : op.calls = false) : (rig.recording.perform op).Ends s fun _ s' =>
      ∃ xs, s'.log = s.log ++ xs ∧ ∀ x ∈ xs, ∀ c, x.given? = some c → c.topic = .line := by
  have silent : ∃ xs, s.log = s.log ++ xs ∧ ∀ x ∈ xs, ∀ c, x.given? = some c → c.topic = .line :=
    ⟨[], by simp, by simp⟩
  have lined {α : Type} {topics : List Topic} {parts : List Part}
      {x : Action (Station (σ × List Exchange)) α} {y : Action (Station σ) α}
      (h : Recorded rig (·.topic ∈ topics) parts x y) (htopics : ∀ t ∈ topics, t = .line) :
      x.Ends s fun _ s' =>
        ∃ xs, s'.log = s.log ++ xs ∧ ∀ x ∈ xs, ∀ c, x.given? = some c → c.topic = .line := by
    obtain ⟨xs, hlog, hxs⟩ := (h s).2.log
    refine ⟨xs, hlog, fun x hx c hc => htopics _ ?_⟩
    cases x with
    | command c' r =>
      cases hc
      exact hxs _ hx
    | _ => cases hc
  cases op with
  | release | setRegion | setBusy | holdScan | awaitInterrupt =>
    exact lined (recorded_perform _) (by simp [Operation.topics])
  | setFrequency | setTxPower | startTx | startRx | startContinuousRx | startCarrierSense
  | startCad | startCarrier => exact (ends_ensure_bind_asleep hstate rfl).mpr silent
  | isChannelFree | channelNoise =>
    exact ends_bind.mpr <| (ends_ensure_bind_asleep hstate rfl).mpr silent
  | startRxDutyCycle rx sleep =>
    refine ends_ite.mpr ?_
    split
    · exact silent
    · exact (ends_ensure_bind_asleep hstate rfl).mpr silent
  | sleep duration =>
    refine ends_bind.mpr <| ends_current.mpr ?_
    simp only [hstate, reduceCtorEq, if_false, if_true]
    exact silent
  | releaseScan | abortScan | scanInterrupt =>
    refine ends_bind.mpr <| ends_bind.mpr <| ends_current.mpr <| ends_ite.mpr ?_
    rw [if_pos (by simp [hstate])]
    exact silent
  | setTxPayload payload =>
    have hop : (!payload.isEmpty) = false := hop
    refine ends_ite.mpr <| (if_pos ?_).mpr silent
    simpa using hop
  | setCadParams params =>
    have hop : (params.exit = .csOnly || params.exit = .csRx || params.exit = .csLbt) = false := hop
    refine ends_bind.mpr <| ends_ensureNotScanning.mpr ?_
    rw [if_neg (by simp [hstate])]
    refine ends_ite.mpr <| (if_neg ?_).mpr silent
    simpa [and_assoc] using hop
  | _ => cases hop

end Uncalled

theorem uncalled_turn {s : Station σ} {op : Operation} (hstate : s.radio.state = .sleep)
    (hop : op.calls = false) : ∀ c ∈ (rig.turn s op).given, c.topic = .line := by
  have hends : (rig.recording.perform op).Ends s.recorded _ := uncalled_perform hstate hop
  obtain ⟨xs, hlog, hxs⟩ := hends
  intro c hc
  obtain ⟨x, hx, hgiven⟩ := List.mem_filterMap.mp hc
  have hexchanges : (rig.turn s op).exchanges = xs := hlog
  exact hxs x (hexchanges ▸ hx) c hgiven

/-- No operation puts a radio to sleep that sleeps, or interrupts it. -/
theorem gentle_turn {s : Station σ} {op : Operation} (hstate : s.radio.state = .sleep) :
    ∀ x ∈ (rig.turn s op).exchanges, x.IsGentle := by
  intro x hx c hgiven
  have hc : c ∈ (rig.turn s op).given := List.mem_filterMap.mpr ⟨x, hx, hgiven⟩
  cases hop : op.calls with
  | false =>
    rw [uncalled_turn hstate hop c hc]
    decide
  | true =>
    have hgives : c.topic ∈ op.topics := gives_of_mem_given turn_within.1 hc
    have htopics : .sleep ∉ op.topics ∧ .abort ∉ op.topics := by
      cases op with
      | powerUp | setModem | standby | rssi | random | setLoraModulation | setLoraPacket
      | setLoraSyncWord | setLoraSymbolTimeout | setFskModulation | setFskPacket | setFskSyncWord
      | processInterrupt | setTxPayload | setCadParams => simp [Operation.topics, serviced]
      | _ => cases hop
    exact ⟨fun h => htopics.1 (h ▸ hgives), fun h => htopics.2 (h ▸ hgives)⟩

/-! ### Operations that the chip has heard of -/

/-- A step that succeeds has been heard by the chip. -/
def Hears (x : Action (Station (σ × List Exchange)) α) : Prop :=
  ∀ s, x.Ends s fun r s' => r.isOk = true → s'.Heard

namespace Hears

theorem tell {c : Command} (hc : c.Calls) : Hears (rig.recording.tell c) := by
  refine fun s => ends_recording_tell fun r w => ?_
  cases r with
  | error e => exact nofun
  | ok a => exact fun _ => ⟨c, List.mem_filterMap.mpr ⟨.command c (.ok a), by simp [log], rfl⟩, hc⟩

theorem order {c : Command} (hc : c.Calls) : Hears (rig.recording.order c) := fun s =>
  ends_reporting.mpr <| (tell hc s).mono fun
    | .ok _, _, h => h
    | .error _, _, _ => nofun

theorem rearm : Hears rig.recording.rearm := fun _ =>
  ends_bind.mpr <| ends_current.mpr <| tell (c := .armInterrupts _) trivial _

/-- It is enough that the last step has been heard. -/
theorem after {x : Action (Station (σ × List Exchange)) α}
    {f : α → Action (Station (σ × List Exchange)) β} (hf : ∀ a, Hears (f a)) : Hears (x >>= f) :=
  fun _ => ends_bind_isOk fun a s => hf a s

/-- What has been heard by then stays so. -/
theorem before {x : Action (Station (σ × List Exchange)) α}
    {f : α → Action (Station (σ × List Exchange)) β} (hx : Hears x)
    (hf : ∀ a, (f a).Keeps Heard) : Hears (x >>= f) := fun s => ends_bind.mpr <| (hx s).mono fun
  | .ok a, s', h => (hf a s' (h rfl)).mono fun _ _ h _ => h
  | .error _, _, _ => nofun

end Hears

theorem heard_of_recorded {gives : Command → Prop} {parts : List Part}
    {x : Action (Station (σ × List Exchange)) α} {y : Action (Station σ) α}
    (h : Recorded rig gives parts x y) : x.Keeps Heard := by
  rintro s ⟨c, hc, hcalls⟩
  obtain ⟨xs, hlog, -⟩ := (h s).2.log
  refine ⟨c, ?_, hcalls⟩
  rw [hlog, List.filterMap_append]
  exact List.mem_append_left _ hc

theorem hears_rest : Hears rig.recording.rest :=
  .after fun _ => .after fun _ => .after fun _ =>
    (Hears.order (c := .setStandby _) trivial).before fun _ _ hs => hs

theorem hears_configure (limits : Option RegionalLimits) : Hears (rig.recording.configure limits) := by
  refine .after fun _ => .after fun _ => .after fun _ => .after fun _ => ?_
  cases limits with
  | none => exact .rearm
  | some limits => exact .after fun _ => .rearm

/-- Interrupts are disarmed before their status is read. -/
theorem hears_dispatch : Hears rig.recording.dispatch := by
  refine (Hears.tell (c := .armInterrupts ∅) trivial).before fun _ => ?_
  have take : Recorded rig anything [] (rig.recording.tell .takeInterrupts)
    (rig.tell .takeInterrupts) := recorded_tell _ trivial
  have attend (status : InterruptSet) : Recorded rig anything [.packet]
    (rig.recording.attend status) (rig.attend status) := recorded_attend status (by simp) trivial
  refine (heard_of_recorded take).bind fun status => (heard_of_recorded (attend status)).bind fun _ => ?_
  exact keeps_current.bind fun _ => heard_of_recorded (recorded_act _)

/-- An interrupt is served successfully only if its dispatch was. -/
theorem hears_conclude {found : Except Fault (Option Event)}
    {s : Station (σ × List Exchange)} (h : found.isOk = true → s.Heard) :
    (rig.recording.conclude found).Ends s fun r s' => r.isOk = true → s'.Heard := by
  cases found with
  | error e =>
    refine (ends_conclude (.error e)).mono ?_
    rintro r s' ⟨-, xs, -, hcloses⟩ hok
    rw [hcloses.outcome_of_error] at hok
    cases hok
  | ok event =>
    have conclude : Recorded rig anything [.listener] (rig.recording.conclude (.ok event))
      (rig.conclude (.ok event)) := recorded_conclude _ (fun _ => trivial) (by simp)
    exact (heard_of_recorded conclude s (h rfl)).mono fun _ _ h _ => h

/-- An operation that calls on the chip of a radio that sleeps has been heard, if it succeeds. -/
theorem hears_perform {op : Operation} {s : Station (σ × List Exchange)}
    (hstate : s.radio.state = .sleep) (hop : op.calls = true) :
    (rig.recording.perform op).Ends s fun r s' => r.isOk = true → s'.Heard := by
  cases op with
  | powerUp =>
    have h : Hears rig.recording.powerUp :=
      .after fun _ => .after fun _ => .after fun _ => .after fun _ => .after fun _ => hears_configure _
    exact h s
  | setModem modem =>
    have h : Hears (rig.recording.setModem modem) :=
      .after fun _ => .after fun _ => .after fun _ => .order trivial
    exact h s
  | standby =>
    refine ends_bind.mpr <| ends_current.mpr ?_
    simp only [hstate, reduceCtorEq, if_false, if_true, true_or]
    have h : Hears (rig.recording.wake (decide True) >>= fun _ => rig.recording.rest) :=
      .after fun _ => hears_rest
    exact h s
  | rssi =>
    have h : Hears rig.recording.rssi :=
      .after fun _ => (Hears.tell (c := .readRssi) trivial).before fun _ => .pure _
    exact h s
  | random =>
    have h : Hears rig.recording.random :=
      .after fun _ => .after fun _ => .after fun _ => Hears.rearm.before fun _ => .settle _
    exact h s
  | setTxPayload payload =>
    have h : Hears (ensureNotScanning >>= fun _ => rig.recording.tell (.writeBuffer 0 payload)) :=
      .after fun _ => .tell trivial
    refine ends_ite.mpr ?_
    split
    · exact nofun
    · exact h s
  | setCadParams params =>
    have h : Hears (rig.recording.order (.setCadParams params) >>= fun _ =>
        update fun r => { r with cadExit := params.exit }) :=
      (Hears.order (c := .setCadParams params) trivial).before fun _ _ hs => hs
    refine ends_bind_isOk fun _ s => ends_ite.mpr ?_
    split
    · exact h s
    · exact nofun
  | setLoraModulation | setLoraPacket | setLoraSyncWord | setLoraSymbolTimeout
  | setFskModulation | setFskPacket | setFskSyncWord =>
    exact ends_bind_isOk fun _ s => Hears.tell (by trivial) s
  | processInterrupt =>
    refine ends_bind.mpr <| ends_current.mpr <| ends_ite.mpr <| (if_neg (by simp [hstate])).mpr ?_
    exact ends_bind.mpr <| ends_attempt.mpr <| (hears_dispatch s).mono fun _ _ h => hears_conclude h
  | _ => cases hop

/-! ### Falling asleep -/

/-- Only sleep takes a radio to Sleep. -/
theorem eq_sleep_of_falls {s : Station σ} {op : Operation} (hbefore : s.radio.state ≠ .sleep)
    (hafter : (rig.step s op).radio.state = .sleep) : ∃ duration, op = .sleep duration := by
  -- The state on record follows whatever state the chip was in before, and it was not Sleep.
  obtain ⟨last, hfollows, hlast⟩ :
      ∃ last, Follows s.radio.state last ∧ last ≠ some RadioState.sleep := by
    cases hstate : s.radio.state with
    | sleep => exact absurd hstate hbefore
    | scan => exact ⟨some .standby, rfl, by decide⟩
    | unknown | busy => exact ⟨none, trivial, nofun⟩
    | standby | rx | tx | cad | rxDutyCycle => exact ⟨_, rfl, by decide⟩
  have hkeeps : (rig.recording.perform op).Keeps (Station.Follows last) := keeps_perform op
  have hasleep : Follows (rig.turn s op).after.state (lastTarget last (rig.turn s op).exchanges) :=
    hkeeps s.recorded hfollows
  rw [turn_after, hafter] at hasleep
  have hfound : .sleep ∈ (rig.turn s op).exchanges.filterMap Exchange.target? := by
    have hasleep : lastTarget last (rig.turn s op).exchanges = some .sleep := hasleep
    rw [lastTarget] at hasleep
    cases hlater : ((rig.turn s op).exchanges.filterMap Exchange.target?).getLast? with
    | none => exact absurd (by simpa [hlater] using hasleep) hlast
    | some state =>
      obtain rfl : state = .sleep := by simpa [hlater] using hasleep
      exact List.mem_of_getLast? hlater
  obtain ⟨x, hx, htarget⟩ := List.mem_filterMap.mp hfound
  obtain ⟨c, a, rfl, hc⟩ : ∃ c a, x = .command c (.ok a) ∧ c.topic = .sleep := by
    rcases x with ⟨c, _ | a⟩ | _ | _ | _ | _ <;> try cases htarget
    exact ⟨c, a, rfl, Command.topic_of_target? htarget⟩
  have hgives : c.topic ∈ op.topics := turn_within.1 _ hx
  rw [hc] at hgives
  cases op <;> simp [Operation.topics, measured, serviced] at hgives ⊢

/-- Sleep is on record wherever one of the operations begins. -/
def SleepsThroughout (rig : Rig σ) (s : Station σ) (ops : List Operation) : Prop :=
  rig.Throughout (fun s _ => s.radio.state = .sleep) s ops

/-- A run that ends in Sleep either is in Sleep from its start on, or entered it by the operation for
sleep and was in Sleep from then on. -/
theorem sleepsThroughout_or_falls {s : Station σ} {ops : List Operation}
    (h : (rig.run s ops).radio.state = .sleep) :
    (s.radio.state = .sleep ∧ rig.SleepsThroughout s ops) ∨
      ∃ pre duration post, ops = pre ++ .sleep duration :: post ∧
        (rig.run s pre).radio.state ≠ .sleep ∧
        (rig.step (rig.run s pre) (.sleep duration)).radio.state = .sleep ∧
        rig.SleepsThroughout (rig.step (rig.run s pre) (.sleep duration)) post := by
  induction ops generalizing s with
  | nil => exact .inl ⟨h, trivial⟩
  | cons op ops ih =>
    rcases ih h with ⟨hafter, hlater⟩ | ⟨pre, duration, post, rfl, hfalls⟩
    · by_cases hbefore : s.radio.state = .sleep
      · exact .inl ⟨hbefore, hbefore, hlater⟩
      · obtain ⟨duration, rfl⟩ := eq_sleep_of_falls hbefore hafter
        exact .inr ⟨[], duration, ops, rfl, hbefore, hafter, hlater⟩
    · exact .inr ⟨op :: pre, duration, post, rfl, hfalls⟩

/-- A radio that sleeps already is put to sleep without a word to the chip. -/
theorem result_sleep_asleep {s : Station σ} {duration : UInt32} (hstate : s.radio.state = .sleep) :
    (rig.perform (.sleep duration)).result s = (.ok (), s) := by
  have hends : (rig.sleep duration).Ends s fun r s' => (r, s') = (.ok (), s) := by
    refine Action.ends_bind.mpr <| ends_current.mpr ?_
    simp only [hstate, reduceCtorEq, if_false, if_true]
    rfl
  exact hends

/-- An operation of a radio that sleeps rouses the chip: it calls on the chip, and it succeeds, or
something got through to the chip before it failed. -/
def Rouses {σ : Type} (rig : Rig (Link (σ × List Signal))) (s : Station (Link (σ × List Signal)))
    (op : Operation) : Prop :=
  op.calls = true ∧ ((rig.turn s op).Succeeds ∨ s.world.Roused (rig.step s op).world)

end Rig

namespace Device

open Transceiver.Action Bus.Endpoint

variable {σ : Type} {device : Device σ} {host : Host σ} {config : Config}

/-! ## The flag of a radio that sleeps -/

theorem calm_moves {x : Exchange} {l l' : Link (σ × List Signal)} (hx : x.IsGentle)
    (h : (device.recordedRig host config).Moves l x l') : l.Calm device.protocol l' := by
  cases x with
  | command c r =>
    obtain ⟨hsleep, habort⟩ := hx c rfl
    refine h.of_ends (calm_perform hsleep ?_)
    rintro rfl
    exact absurd rfl habort
  | pause | clock | event | sleepStart => exact calm_uncommanded h rfl

theorem calm_leads {xs : List Exchange} {l l' : Link (σ × List Signal)}
    (h : (device.recordedRig host config).Leads l xs l') (hxs : ∀ x ∈ xs, x.IsGentle) :
    l.Calm device.protocol l' :=
  h.keeps (P := l.Calm device.protocol) (.refl l) fun x hx _ _ hmoves hl =>
    hl.trans (calm_moves (hxs x hx) hmoves)

/-- What the chip has heard has roused it, and nothing gentle puts it back to sleep. -/
theorem awake_of_heard {xs : List Exchange} {l l' : Link (σ × List Signal)}
    (h : (device.recordedRig host config).Leads l xs l') (hxs : ∀ x ∈ xs, x.IsGentle)
    (hheard : ∃ c ∈ xs.filterMap Exchange.accepted?, c.Calls) : l'.sleeping = false := by
  induction h with
  | nil => simp at hheard
  | @cons l l₁ l' x xs hmoves hrest ih =>
    obtain ⟨c, hc, hcalls⟩ := hheard
    obtain ⟨y, hy, haccepted⟩ := List.mem_filterMap.mp hc
    rcases List.mem_cons.mp hy with rfl | hy
    · obtain ⟨a, rfl⟩ := Exchange.eq_of_accepted haccepted
      have hawake : l₁.sleeping = false := hmoves.of_ends (awakens_call hcalls l) rfl
      exact (calm_leads hrest fun z hz => hxs z (.tail _ hz)).roused hawake
    · exact ih (fun z hz => hxs z (.tail _ hz)) ⟨c, List.mem_filterMap.mpr ⟨y, hy, haccepted⟩, hcalls⟩

/-- A look at the interrupt line does not touch the chip. -/
theorem keeps_sleeping {c : Command} (hc : c.topic = .line) :
    (device.recording.chip.perform c).Keeps (·.sleeping = true) := by
  have outside {τ α : Type} (f : Fault) (x : StateM τ (Option α)) :
      (Link.outside f x).Keeps (·.sleeping = true) := by
    intro l hl
    simp only [Action.Ends, Action.result, Link.outside, Action.onPart, Action.ofOption]
    rcases x l.world with ⟨_ | a, w⟩ <;> exact hl
  cases device with
  | sx126x device | lr11xx device =>
    cases c with
    | readInterruptLine | awaitInterrupt => exact outside _ _
    | _ => simp at hc

theorem sleeping_of_lined {xs : List Exchange} {l l' : Link (σ × List Signal)}
    (h : (device.recordedRig host config).Leads l xs l')
    (hxs : ∀ c ∈ xs.filterMap Exchange.given?, c.topic = .line) (hl : l.sleeping = true) :
    l'.sleeping = true := by
  refine h.keeps (P := (·.sleeping = true)) hl fun x hx l l' hmoves hl => ?_
  cases x with
  | command c r =>
    have hc : c.topic = .line := hxs c (List.mem_filterMap.mpr ⟨_, hx, rfl⟩)
    exact hmoves.of_ends (keeps_sleeping hc l hl)
  | pause us =>
    cases device with
    | sx126x | lr11xx => exact hmoves ▸ hl
  | clock time =>
    have hl' : ((device.recordedRig host config).host.now l).2 = l' := congrArg Prod.snd hmoves
    exact hl' ▸ hl
  | event | sleepStart => exact hmoves ▸ hl

section Runs
variable {s : Station (Link (σ × List Signal))}

/-- One operation of a radio that sleeps: the flag stays set exactly if the operation does not rouse
the chip, and says what passed over the wires. -/
theorem sleeping_turn {op : Operation} (hstate : s.radio.state = .sleep)
    (hhonest : s.world.Honest device.protocol) :
    let rig := device.recordedRig host config
    ((rig.step s op).world.sleeping = true ↔ s.world.sleeping = true ∧ ¬rig.Rouses s op) ∧
      (rig.step s op).world.Honest device.protocol := by
  intro rig
  have hleads : rig.Leads s.world (rig.turn s op).exchanges (rig.step s op).world := Rig.turn_leads
  have hgentle : ∀ x ∈ (rig.turn s op).exchanges, x.IsGentle := Rig.gentle_turn hstate
  have hcalm : s.world.Calm device.protocol (rig.step s op).world := calm_leads hleads hgentle
  refine ⟨?_, hcalm.honest hhonest⟩
  cases hop : op.calls with
  | false =>
    have hquiet : ¬rig.Rouses s op := fun h => Bool.false_ne_true (hop.symm.trans h.1)
    refine ⟨fun hafter => ⟨?_, hquiet⟩, fun h =>
      sleeping_of_lined hleads (Rig.uncalled_turn hstate hop) h.1⟩
    exact ((hcalm.sleeping_iff hhonest).mp hafter).1
  | true =>
    by_cases hsucceeds : (rig.turn s op).Succeeds
    · have hends : (rig.recording.perform op).Ends s.recorded fun r s' => r.isOk = true → s'.Heard :=
        Rig.hears_perform hstate hop
      have hawake : (rig.step s op).world.sleeping = false :=
        awake_of_heard hleads hgentle (hends hsucceeds)
      exact ⟨fun h => by simp [hawake] at h, fun h => absurd ⟨hop, .inl hsucceeds⟩ h.2⟩
    · have hrouses : rig.Rouses s op ↔ s.world.Roused (rig.step s op).world :=
        ⟨fun h => h.2.resolve_left hsucceeds, fun h => ⟨hop, .inr h⟩⟩
      rw [hrouses]
      exact hcalm.sleeping_iff hhonest

/-- The operations of a radio that sleeps, one after the other. -/
theorem sleeping_run {ops : List Operation}
    (hstate : (device.recordedRig host config).SleepsThroughout s ops)
    (hhonest : s.world.Honest device.protocol) :
    ((device.recordedRig host config).run s ops).world.sleeping = true ↔
      s.world.sleeping = true ∧ (device.recordedRig host config).Throughout
        (fun s op => ¬(device.recordedRig host config).Rouses s op) s ops := by
  let rig := device.recordedRig host config
  induction ops generalizing s with
  | nil => exact ⟨fun h => ⟨h, trivial⟩, And.left⟩
  | cons op ops ih =>
    obtain ⟨hnow, hlater⟩ := hstate
    obtain ⟨hturn, hnext⟩ : (_ ↔ _) ∧ (rig.step s op).world.Honest device.protocol :=
      sleeping_turn hnow hhonest
    have hrest : (rig.run (rig.step s op) ops).world.sleeping = true ↔ _ := ih hlater hnext
    rw [Rig.run_cons, hrest, hturn, Rig.Throughout, and_assoc]

/-- Where a step leaves the state Sleep on record, it succeeded and left the flag set. -/
def Falls (r : Except Fault Unit) (s : Station (Link (σ × List Signal))) : Prop :=
  s.radio.state = .sleep → r.isOk = true ∧ s.world.sleeping = true

/-- Until the chip is told to sleep the state on record is another one. -/
theorem falls_bind {α : Type} {x : Action (Station (Link (σ × List Signal))) α}
    {f : α → Action (Station (Link (σ × List Signal))) Unit} (hs : s.radio.state ≠ .sleep)
    (hx : x.Keeps (·.radio = s.radio))
    (hf : ∀ a s, s.radio.state ≠ .sleep → (f a).Ends s Falls) : (x >>= f).Ends s Falls := by
  refine ends_bind.mpr <| (hx s rfl).mono fun r s' h => ?_
  have hs' : s'.radio.state ≠ .sleep := h ▸ hs
  cases r with
  | error e => exact fun h => absurd h hs'
  | ok a => exact hf a s' hs'

theorem falls_throw {fault : Fault} (s : Station (Link (σ × List Signal)))
    (hs : s.radio.state ≠ .sleep) : Ends (throw fault) s Falls := fun h => absurd h hs

/-- The state Sleep is noted once the chip accepted the command for it. -/
theorem falls_retire {f : Except Fault Unit → Action (Station (Link (σ × List Signal))) Unit}
    (hok : f (.ok ()) = Station.enter .sleep)
    (herror : ∀ e s, s.radio.state ≠ .sleep → (f (.error e)).Ends s Falls)
    (s : Station (Link (σ × List Signal))) (hs : s.radio.state ≠ .sleep) :
    (Action.attempt ((device.recordedRig host config).tell (.setSleep true)) >>= f).Ends s
      Falls := by
  refine ends_bind.mpr <| ends_attempt.mpr <| Rig.ends_tell.mpr <|
    (ends_setSleep true).mono fun r l h => ?_
  rcases r with e | ⟨⟩
  · exact herror e _ hs
  · show (f (.ok ())).Ends _ Falls
    rw [hok]
    exact fun _ => ⟨rfl, h.1⟩

/-- A radio that falls asleep does so by a command for sleep that the chip accepted. -/
theorem sleeping_of_falls {duration : UInt32} (hbefore : s.radio.state ≠ .sleep) :
    ((device.recordedRig host config).sleep duration).Ends s Falls := by
  let rig := device.recordedRig host config
  have tell {c : Command} {r : Radio} : (rig.tell c).Keeps (·.radio = r) := Rig.keeps_radio_tell c
  have falls (s : Station (Link (σ × List Signal))) (hs : s.radio.state ≠ .sleep) :
      rig.fallAsleep.Ends s Falls := by
    refine falls_bind hs (tell.reporting _) fun _ s hs => falls_bind hs tell fun _ s hs =>
      ends_ite.mpr ?_
    split
    · refine falls_bind hs tell fun _ => falls_retire rfl fun _ s hs => ?_
      exact falls_bind hs (Station.keeps_current.bind fun _ => tell) fun _ => falls_throw
    · exact falls_retire rfl (fun _ => falls_throw) s hs
  show (rig.sleep duration).Ends s Falls
  refine ends_bind.mpr <| Station.ends_current.mpr <| ends_ite.mpr ?_
  split
  · exact falls_throw s hbefore
  refine ends_ite.mpr ?_
  split
  · exact falls_bind hbefore (fun _ h => h) fun _ s hs =>
      falls_bind hs (fun _ h => h) fun _ => falls
  · exact falls s hbefore

end Runs

/-! ## The state on record -/

/-- Over every run of either family from power-off, with any failures on the bus and its lines: where
the state on record is Sleep, it was entered by an operation for sleep that succeeded and left the
flag set, and has been on record since. The flag is still set exactly if none of the operations since
roused the chip, and says what passed over the wires. Putting the radio to sleep again succeeds
without a look at it, and does nothing. -/
theorem asleep_iff_not_roused (device : Device σ) (host : Host σ) (config : Config) (w : σ)
    (ops : List Operation) (h : (device.ran host config w ops).radio.state = .sleep) :
    let rig := device.recordedRig host config
    let s := device.ran host config w ops
    ∃ pre duration post, ops = pre ++ .sleep duration :: post ∧
      (rig.turn (device.ran host config w pre) (.sleep duration)).Succeeds ∧
      (device.ran host config w (pre ++ [.sleep duration])).world.sleeping = true ∧
      rig.SleepsThroughout (device.ran host config w (pre ++ [.sleep duration])) post ∧
      (s.world.sleeping = true ↔ rig.Throughout (fun s op => ¬rig.Rouses s op)
        (device.ran host config w (pre ++ [.sleep duration])) post) ∧
      s.world.sleeping = asleep device.protocol s.world.signals ∧
      ∀ duration, (rig.perform (.sleep duration)).result s = (.ok (), s) := by
  intro rig s
  let start : Station (Link (σ × List Signal)) := ⟨{}, { world := (w, []) }⟩
  have honest (ops : List Operation) : (rig.run start ops).world.Honest device.protocol := by
    have hrests : (rig.run start ops).world.Rests device.protocol
        ([] ++ (rig.history start ops).flatMap Turn.exchanges) :=
      rests_history start ops ⟨rfl, nofun⟩ trivial
    exact hrests.honest
  rcases Rig.sleepsThroughout_or_falls h with ⟨hstart, -⟩ |
    ⟨pre, duration, post, rfl, hbefore, hafter, hthroughout⟩
  · cases hstart
  have hslept : rig.run start (pre ++ [.sleep duration]) =
      rig.step (rig.run start pre) (.sleep duration) := Rig.run_append ..
  obtain ⟨hsucceeds, hsleeping⟩ : (rig.turn (rig.run start pre) (.sleep duration)).Succeeds ∧
      (rig.step (rig.run start pre) (.sleep duration)).world.sleeping = true := by
    have hfalls : (rig.sleep duration).Ends (rig.run start pre) Falls := sleeping_of_falls hbefore
    rw [Rig.step_eq_result] at hafter ⊢
    rw [Turn.Succeeds, Rig.turn_outcome]
    exact hfalls hafter
  have hrun : s = rig.run (rig.step (rig.run start pre) (.sleep duration)) post :=
    Rig.run_append ..
  refine ⟨pre, duration, post, rfl, hsucceeds, ?_, ?_, ?_, honest _, fun _ =>
    Rig.result_sleep_asleep h⟩
  · show (rig.run start _).world.sleeping = true
    rw [hslept]
    exact hsleeping
  · show rig.SleepsThroughout (rig.run start _) post
    rw [hslept]
    exact hthroughout
  · show s.world.sleeping = true ↔ rig.Throughout _ (rig.run start _) post
    rw [hslept, hrun, sleeping_run hthroughout (hslept ▸ honest _)]
    exact and_iff_right hsleeping

/-- A radio on the bench that is put to sleep, and then asked for a transmission. -/
theorem asleep_iff_not_roused_bench :
    (Bench.device.ran Bench.host (Bench.rig {}).config ()
      [.powerUp, .sleep 0, .startTx 0]).radio.state = .sleep ∧
    (Bench.device.ran Bench.host (Bench.rig {}).config ()
      [.powerUp, .sleep 0, .startTx 0]).world.sleeping = true := by
  have hlast {pre post : List Operation} {duration : UInt32}
      (h : [.powerUp, .sleep 0, .startTx 0] = pre ++ .sleep duration :: post) :
      post = [.startTx 0] := by
    rcases pre with _ | ⟨_, _ | ⟨_, _ | ⟨_, pre⟩⟩⟩ <;> simp at h
    exact h.2.2.symm
  have hsleep : (Bench.device.ran Bench.host (Bench.rig {}).config ()
      [.powerUp, .sleep 0, .startTx 0]).radio.state = .sleep := by
    decide +kernel
  obtain ⟨pre, duration, post, hops, -, -, -, hflag, -⟩ := asleep_iff_not_roused Bench.device
    Bench.host (Bench.rig {}).config () [.powerUp, .sleep 0, .startTx 0] hsleep
  obtain rfl : post = [.startTx 0] := hlast hops
  exact ⟨hsleep, hflag.mpr ⟨fun h => Bool.false_ne_true h.1, trivial⟩⟩

/-- A reading of the RSSI wakes a radio that sleeps, and its state on record stays Sleep. Putting it
to sleep again succeeds, and sends nothing. -/
theorem roused_in_sleep :
    let rig := Bench.device.recordedRig Bench.host (Bench.rig {}).config
    let ops := [.powerUp, .sleep 0, .rssi]
    let s := Bench.device.ran Bench.host (Bench.rig {}).config () ops
    (∀ t ∈ rig.history ⟨{}, { world := ((), []) }⟩ ops, t.Succeeds) ∧ s.radio.state = .sleep ∧
      s.world.sleeping = false ∧ (rig.turn s (.sleep 0)).Succeeds ∧
      (rig.step s (.sleep 0)).world.sleeping = false ∧
      (rig.step s (.sleep 0)).world.signals = s.world.signals := by
  decide +kernel

end Device

end Transceiver
