import Transceiver.Proofs.Recording

/-! What an operation can touch: which parts of the record of the radio it changes, and which
commands it gives. The same induction over the programs shows that a log changes nothing: the
recorded rig does what the rig does. -/

namespace Transceiver

/-- What a command is about. -/
inductive Topic where
  /-- The interrupt line, which is looked at without a word to the chip. -/
  | line
  | reset
  | setUp
  | wake
  | antenna
  | abort
  | modem
  /-- The interrupts that may raise the line. -/
  | arming
  /-- The interrupts and errors that the chip reports. -/
  | status
  /-- The state that the chip is in, but for sleep. -/
  | mode
  | sleep
  | tuning
  | amplifier
  | reception
  | measuring
  | settings
  deriving DecidableEq

@[simp] def Command.topic : Command → Topic
  | .readInterruptLine | .awaitInterrupt => .line
  | .reset => .reset
  | .setUp => .setUp
  | .wake => .wake
  | .setAntenna _ => .antenna
  | .abort => .abort
  | .setModem _ => .modem
  | .armInterrupts _ => .arming
  | .takeInterrupts | .clearInterrupts _ | .takeErrors => .status
  | .setStandby _ | .setTx _ | .setTxCarrier | .setRx _ | .setRxDutyCycle .. | .setCad => .mode
  | .setSleep _ => .sleep
  | .calibrateImage _ | .setFrequency _ | .compensateBandEdge _ => .tuning
  | .setPa _ | .setTxParams .. => .amplifier
  | .readBuffer .. | .readRxBufferStatus | .readLoraQuality | .readFskQuality | .readLoraCrcFlag
  | .readFskFillLevel | .setFskPayloadLength _ => .reception
  | .readRssi | .readRandom => .measuring
  | .setCadParams _ | .stopTimerOnPreamble _ | .writeBuffer .. | .setLoraModulation _
  | .setLoraPacket _ | .setLoraSyncWord _ | .setLoraSymbolTimeout _ | .setFskModulation _
  | .setFskPacket _ | .setFskSyncWord _ => .settings

/-- What an operation can touch: a part of the record of the radio, or the listener. -/
inductive Part where
  | state
  | modem
  | mask
  | cadExit
  | packet
  /-- The storage of the packet. -/
  | storage
  | carrierSense
  | limits
  | pa
  | frequency
  | listener
  deriving DecidableEq

/-- Two records have the same part. -/
def Part.Same : Part → Radio → Radio → Prop
  | .state, r, r' => r'.state = r.state
  | .modem, r, r' => r'.modem = r.modem
  | .mask, r, r' => r'.mask = r.mask
  | .cadExit, r, r' => r'.cadExit = r.cadExit
  | .packet, r, r' => r'.packet = r.packet
  | .storage, r, r' => r'.packet.storage = r.packet.storage
  | .carrierSense, r, r' => r'.carrierSense = r.carrierSense
  | .limits, r, r' => r'.limits = r.limits
  | .pa, r, r' => r'.pa = r.pa
  | .frequency, r, r' => r'.frequency = r.frequency
  | .listener, _, _ => True

/-- The second record differs from the first in the given parts at most. -/
def Radio.AgreesBut (parts : List Part) (r r' : Radio) : Prop :=
  ∀ p, p ∉ parts → p.Same r r'

namespace Radio.AgreesBut

variable {parts : List Part} {r r' r'' : Radio}

theorem refl (r : Radio) : r.AgreesBut parts r := fun p _ => by cases p <;> trivial

theorem trans (h : r.AgreesBut parts r') (h' : r'.AgreesBut parts r'') :
    r.AgreesBut parts r'' := fun p hp => by
  have h₁ := h p hp
  have h₂ := h' p hp
  cases p with
  | listener => trivial
  | _ => exact h₂.trans h₁

theorem mono {more : List Part} (h : r.AgreesBut parts r') (hsub : parts ⊆ more) :
    r.AgreesBut more r' := fun p hp => h p fun hm => hp (hsub hm)

end Radio.AgreesBut

/-- Two records agree in each part that is not among those excepted. -/
theorem Radio.agreesBut_iff {parts : List Part} {r r' : Radio} :
    r.AgreesBut parts r' ↔
      (.state ∉ parts → r'.state = r.state) ∧ (.modem ∉ parts → r'.modem = r.modem) ∧
      (.mask ∉ parts → r'.mask = r.mask) ∧ (.cadExit ∉ parts → r'.cadExit = r.cadExit) ∧
      (.packet ∉ parts → r'.packet = r.packet) ∧
      (.storage ∉ parts → r'.packet.storage = r.packet.storage) ∧
      (.carrierSense ∉ parts → r'.carrierSense = r.carrierSense) ∧
      (.limits ∉ parts → r'.limits = r.limits) ∧ (.pa ∉ parts → r'.pa = r.pa) ∧
      (.frequency ∉ parts → r'.frequency = r.frequency) := by
  refine ⟨fun h => ⟨h _, h _, h _, h _, h _, h _, h _, h _, h _, h _⟩, fun h p => ?_⟩
  obtain ⟨hstate, hmodem, hmask, hexit, hpacket, hstorage, hsense, hlimits, hpa, hfrequency⟩ := h
  cases p with
  | listener => exact fun _ => trivial
  | _ => assumption

theorem Radio.AgreesBut.eq {r r' : Radio} (h : r.AgreesBut [] r') : r' = r := by
  cases r
  cases r'
  simp_all [Radio.agreesBut_iff]

/-- The exchange is a command that satisfies `gives`, or one that the given parts allow. -/
def Exchange.Within (gives : Command → Prop) (parts : List Part) : Exchange → Prop
  | .command c _ => gives c
  | .event _ => .listener ∈ parts
  | .pause _ | .clock _ | .sleepStart _ => True

/-- A recorded station comes from another by giving commands that satisfy `gives` and touching the
given parts, and the exchanges lead from the one world to the other. -/
structure Station.Reaches {σ : Type} (rig : Rig σ) (gives : Command → Prop) (parts : List Part)
    (s s' : Station (σ × List Exchange)) : Prop where
  log : ∃ xs, s'.log = s.log ++ xs ∧ ∀ x ∈ xs, x.Within gives parts
  radio : s.radio.AgreesBut parts s'.radio
  world : ∃ xs, s'.log = s.log ++ xs ∧ rig.Leads s.erased.world xs s'.erased.world

namespace Station.Reaches

variable {σ : Type} {rig : Rig σ} {gives : Command → Prop} {parts : List Part}
  {s s' s'' : Station (σ × List Exchange)}

theorem refl (s : Station (σ × List Exchange)) : s.Reaches rig gives parts s :=
  ⟨⟨[], by simp, by simp⟩, .refl _, [], by simp, .nil _⟩

/-- A single exchange, which leaves the record of the radio alone. -/
theorem single {x : Exchange} {w : σ} (hmoves : rig.Moves s.erased.world x w)
    (hwithin : x.Within gives parts) :
    s.Reaches rig gives parts { s with world := (w, s.log ++ [x]) } := by
  refine ⟨⟨[x], rfl, ?_⟩, .refl _, [x], rfl, .single hmoves⟩
  intro y hy
  rw [List.mem_singleton.mp hy]
  exact hwithin

theorem trans (h : s.Reaches rig gives parts s') (h' : s'.Reaches rig gives parts s'') :
    s.Reaches rig gives parts s'' := by
  obtain ⟨⟨xs, hlog, hxs⟩, hradio, hworld⟩ := h
  obtain ⟨⟨ys, hlog', hys⟩, hradio', hworld'⟩ := h'
  refine ⟨⟨xs ++ ys, by rw [hlog', hlog, List.append_assoc], fun x hx => ?_⟩,
    hradio.trans hradio', ?_⟩
  · exact (List.mem_append.mp hx).elim (hxs x) (hys x)
  · obtain ⟨xs, hlog, hleads⟩ := hworld
    obtain ⟨ys, hlog', hleads'⟩ := hworld'
    exact ⟨xs ++ ys, by rw [hlog', hlog, List.append_assoc], hleads.append hleads'⟩

theorem mono {gives' : Command → Prop} {more : List Part}
    (h : s.Reaches rig gives parts s') (hg : ∀ c, gives c → gives' c) (hp : parts ⊆ more) :
    s.Reaches rig gives' more s' := by
  obtain ⟨⟨xs, hlog, hxs⟩, hradio, hworld⟩ := h
  refine ⟨⟨xs, hlog, fun x hx => ?_⟩, hradio.mono hp, hworld⟩
  have hx := hxs x hx
  cases x with
  | command c r => exact hg c hx
  | event e => exact hp hx
  | _ => trivial

end Station.Reaches

/-- The program `x` of a recorded rig does what `y` does without the log, gives only commands
that satisfy `gives`, and touches only the given parts. -/
def Recorded {σ α : Type} (rig : Rig σ) (gives : Command → Prop) (parts : List Part)
    (x : Action (Station (σ × List Exchange)) α) (y : Action (Station σ) α) : Prop :=
  ∀ s, y.result s.erased = ((x.result s).1, (x.result s).2.erased) ∧
    s.Reaches rig gives parts (x.result s).2

namespace Recorded

variable {σ α β : Type} {rig : Rig σ} {gives : Command → Prop} {parts : List Part}
  {x : Action (Station (σ × List Exchange)) α} {y : Action (Station σ) α}

/-- A program with a footprint ends within it. -/
theorem ends (h : Recorded rig gives parts x y) (s : Station (σ × List Exchange)) :
    x.Ends s fun _ s' => s.Reaches rig gives parts s' := (h s).2

theorem mono {gives' : Command → Prop} {more : List Part} (h : Recorded rig gives parts x y)
    (hg : ∀ c, gives c → gives' c) (hp : parts ⊆ more) : Recorded rig gives' more x y :=
  fun s => ⟨(h s).1, (h s).2.mono hg hp⟩

theorem widen {more : List Part} (h : Recorded rig gives parts x y) (hp : parts ⊆ more) :
    Recorded rig gives more x y :=
  h.mono (fun _ => id) hp

theorem among {topics more : List Topic} {parts' : List Part}
    (h : Recorded rig (·.topic ∈ topics) parts x y) (ht : topics ⊆ more) (hp : parts ⊆ parts') :
    Recorded rig (·.topic ∈ more) parts' x y :=
  h.mono (fun _ hc => ht hc) hp

protected theorem pure (a : α) : Recorded rig gives parts (pure a) (pure a) := fun s =>
  ⟨rfl, .refl s⟩

protected theorem throw (e : Fault) :
    Recorded (α := α) rig gives parts (throw e) (throw e) := fun s => ⟨rfl, .refl s⟩

protected theorem settle (r : Except Fault α) :
    Recorded rig gives parts (Action.settle r) (Action.settle r) := fun s => by
  simp only [Action.result_settle]
  exact ⟨trivial, .refl s⟩

protected theorem bind {f : α → Action (Station (σ × List Exchange)) β}
    {g : α → Action (Station σ) β} (hx : Recorded rig gives parts x y)
    (hf : ∀ a, Recorded rig gives parts (f a) (g a)) :
    Recorded rig gives parts (x >>= f) (y >>= g) := fun s => by
  obtain ⟨hr, hs⟩ := hx s
  rw [Action.result_bind, Action.result_bind, hr]
  rcases h : x.result s with ⟨_ | a, s'⟩ <;> rw [h] at hs
  · exact ⟨rfl, hs⟩
  · exact ⟨(hf a s').1, hs.trans (hf a s').2⟩

protected theorem ite {c : Prop} {_ : Decidable c}
    {x' : Action (Station (σ × List Exchange)) α} {y' : Action (Station σ) α}
    (h : Recorded rig gives parts x y) (h' : Recorded rig gives parts x' y') :
    Recorded rig gives parts (if c then x else x') (if c then y else y') := by
  split
  · exact h
  · exact h'

/-- A branch whose first case goes on as the second does. -/
protected theorem iteRest {c : Prop} {_ : Decidable c}
    {x' : Action (Station (σ × List Exchange)) α} {y' : Action (Station σ) α}
    (h' : Recorded rig gives parts x' y') (h : Recorded rig gives parts x' y' → Recorded rig gives parts x y) :
    Recorded rig gives parts (if c then x else x') (if c then y else y') :=
  .ite (h h') h'

/-- A step that is taken under a condition, before a step that is taken either way. -/
protected theorem optionally {c : Prop} {_ : Decidable c}
    {x : Action (Station (σ × List Exchange)) Unit} {y : Action (Station σ) Unit}
    {f : Unit → Action (Station (σ × List Exchange)) β} {g : Unit → Action (Station σ) β}
    (h : Recorded rig gives parts x y) (hf : Recorded rig gives parts (f ()) (g ())) :
    Recorded rig gives parts (if c then x >>= f else f ()) (if c then y >>= g else g ()) :=
  .ite (h.bind fun _ => hf) hf

/-- A step that is left out under a condition, before a step that is taken either way. -/
protected theorem unlessThen {c : Prop} {_ : Decidable c}
    {x : Action (Station (σ × List Exchange)) Unit} {y : Action (Station σ) Unit}
    {f : Unit → Action (Station (σ × List Exchange)) β} {g : Unit → Action (Station σ) β}
    (h : Recorded rig gives parts x y) (hf : Recorded rig gives parts (f ()) (g ())) :
    Recorded rig gives parts (if c then f () else x >>= f) (if c then g () else y >>= g) :=
  .ite hf (h.bind fun _ => hf)

protected theorem attempt (h : Recorded rig gives parts x y) :
    Recorded rig gives parts x.attempt y.attempt := fun s => by
  simp only [Action.result_attempt, (h s).1]
  exact ⟨trivial, (h s).2⟩

protected theorem reporting (f : Fault) (h : Recorded rig gives parts x y) :
    Recorded rig gives parts (Action.reporting f x) (Action.reporting f y) := fun s => by
  simp only [Action.result_reporting, (h s).1]
  exact ⟨trivial, (h s).2⟩

protected theorem discard (h : Recorded rig gives parts x y) :
    Recorded rig gives parts (discard x) (discard y) := h.bind fun _ => .pure ()

end Recorded

namespace Rig

open Station

variable {σ α : Type} {rig : Rig σ} {gives : Command → Prop} {parts : List Part}

/-! ## Elementary steps -/

theorem recorded_current : Recorded rig gives parts current current := fun s =>
  ⟨rfl, .refl s⟩

theorem recorded_get_bind {f : Station (σ × List Exchange) → Action (Station (σ × List Exchange)) α}
    {g : Station σ → Action (Station σ) α} (h : ∀ s, Recorded rig gives parts (f s) (g s.erased)) :
    Recorded rig gives parts (get >>= f) (get >>= g) := fun s => h s s

theorem recorded_update {f : Radio → Radio} (h : ∀ r, Radio.AgreesBut parts r (f r)) :
    Recorded rig gives parts (update f) (update f) := fun s =>
  ⟨rfl, ⟨[], (List.append_nil _).symm, by simp⟩, h _, [], (List.append_nil _).symm, .nil _⟩

theorem recorded_enter (state : RadioState) (h : .state ∈ parts) :
    Recorded rig gives parts (enter state) (enter state) :=
  recorded_update fun r => by simp [Radio.agreesBut_iff, h]

theorem recorded_tell (c : Command) (h : gives c) :
    Recorded rig gives parts (rig.recording.tell c) (rig.tell c) := fun s => by
  rw [result_tell, result_recording_tell]
  exact ⟨rfl, .single rfl h⟩

theorem recorded_order (c : Command) (h : gives c) :
    Recorded rig gives parts (rig.recording.order c) (rig.order c) :=
  (recorded_tell c h).reporting _

theorem recorded_pause (us : UInt32) :
    Recorded rig gives parts (rig.recording.pause us) (rig.pause us) := fun _ =>
  ⟨rfl, .single (x := .pause us) rfl trivial⟩

theorem recorded_now : Recorded rig gives parts rig.recording.now rig.now := fun s =>
  ⟨rfl, .single (x := .clock (rig.host.now s.world.1).1) rfl trivial⟩

theorem recorded_report (event : Event) (h : .listener ∈ parts) :
    Recorded rig gives parts (rig.recording.report event) (rig.report event) := fun _ =>
  ⟨rfl, .single (x := .event event) rfl h⟩

theorem recorded_announceSleep (wakeAt : UInt64) :
    Recorded rig gives parts (rig.recording.announceSleep wakeAt) (rig.announceSleep wakeAt) :=
  fun _ => ⟨rfl, .single (x := .sleepStart wakeAt) rfl trivial⟩

theorem recorded_ensureNotScanning :
    Recorded rig gives parts ensureNotScanning ensureNotScanning :=
  recorded_current.bind fun _ => .ite (.throw _) (.pure _)

theorem recorded_ensure (allowed : RadioState → Bool) :
    Recorded rig gives parts (ensure allowed) (ensure allowed) :=
  recorded_current.bind fun _ => .optionally (.throw _) (.ite (.pure _) (.throw _))

theorem recorded_rearm (h : ∀ mask, gives (.armInterrupts mask)) :
    Recorded rig gives parts rig.recording.rearm rig.rearm :=
  recorded_current.bind fun _ => recorded_tell _ (h _)

/-! ## Standby, sleep and tuning -/

theorem recorded_wake (slept : Bool) (hstate : .state ∈ parts) (hwake : gives .wake)
    (harm : ∀ mask, gives (.armInterrupts mask)) :
    Recorded rig gives parts (rig.recording.wake slept) (rig.wake slept) := by
  refine (recorded_tell _ hwake).attempt.bind fun r => ?_
  rcases r with e | ⟨⟩
  · exact (recorded_enter _ hstate).bind fun _ => .throw _
  · refine .ite (.ite ?_ (recorded_enter _ hstate)) (.pure _)
    refine recorded_current.bind fun _ => (recorded_order _ (harm _)).bind fun _ => ?_
    exact recorded_enter _ hstate

theorem recorded_standby (hstate : .state ∈ parts) (hwake : gives .wake)
    (harm : ∀ mask, gives (.armInterrupts mask)) (hclear : gives (.clearInterrupts .all))
    (hoff : gives (.setAntenna .off)) (hrest : ∀ crystal, gives (.setStandby crystal)) :
    Recorded rig gives parts rig.recording.standby rig.standby := by
  refine recorded_current.bind fun _ => .optionally (.throw _) (.ite (.pure _) ?_)
  refine .optionally (recorded_wake _ hstate hwake harm) ?_
  refine (recorded_order _ hclear).bind fun _ => (recorded_tell _ hoff).bind fun _ => ?_
  refine (recorded_pause _).bind fun _ => (recorded_order _ (hrest _)).bind fun _ => ?_
  exact recorded_enter _ hstate

/-- Any command. -/
def anything : Command → Prop := fun _ => True

theorem recorded_sleep (duration : UInt32) :
    Recorded rig (·.topic ∈ [.arming, .status, .antenna, .sleep]) [.state]
      (rig.recording.sleep duration) (rig.sleep duration) := by
  refine recorded_current.bind fun _ => .optionally (.throw _) (.ite (.pure _) ?_)
  refine .iteRest ?_ fun rest =>
    recorded_now.bind fun _ => (recorded_announceSleep _).bind fun _ => rest
  refine (recorded_order _ (by simp)).bind fun _ => (recorded_tell _ (by simp)).bind fun _ => ?_
  refine .optionally (recorded_tell _ (by simp)) ?_
  refine (recorded_tell _ (by simp)).attempt.bind fun r => ?_
  rcases r with e | ⟨⟩
  · exact .optionally (recorded_rearm fun _ => by simp) (.throw _)
  · exact recorded_enter _ (by simp)

theorem recorded_setFrequency (frequency : UInt32) (himage : ∀ f, gives (.calibrateImage f))
    (hedge : ∀ f, gives (.compensateBandEdge f)) (hset : ∀ f, gives (.setFrequency f)) :
    Recorded rig gives [.frequency] (rig.recording.setFrequency frequency)
      (rig.setFrequency frequency) := by
  refine (recorded_ensure _).bind fun _ => ?_
  cases FrequencyBand.of? frequency with
  | none => exact .throw _
  | some band =>
    refine recorded_current.bind fun _ => .optionally (recorded_order _ (himage _)) ?_
    refine .optionally (recorded_tell _ (hedge _)) ((recorded_order _ (hset _)).bind fun _ => ?_)
    exact recorded_update fun r => by simp [Radio.agreesBut_iff]

theorem recorded_setTxPower (power : Int8) (hpa : ∀ pa, gives (.setPa pa))
    (hparams : ∀ power ramp, gives (.setTxParams power ramp)) :
    Recorded rig gives [.pa] (rig.recording.setTxPower power) (rig.setTxPower power) := by
  unfold setTxPower
  rw [config_recording]
  refine (recorded_ensure _).bind fun _ => ?_
  cases rig.config.paFor power with
  | none => exact .throw _
  | some found =>
    refine (recorded_tell _ (hpa _)).bind fun _ => (recorded_tell _ (hparams _ _)).bind fun _ => ?_
    exact recorded_update fun r => by simp [Radio.agreesBut_iff]

/-! ## Starts -/

theorem recorded_startTx (timeout : UInt32) :
    Recorded rig (·.topic ∈ [.antenna, .status, .mode]) [.state] (rig.recording.startTx timeout)
      (rig.startTx timeout) := by
  refine (recorded_ensure _).bind fun _ => recorded_current.bind fun _ => ?_
  refine (recorded_tell _ (by simp)).bind fun _ => (recorded_tell _ (by simp)).bind fun _ => ?_
  exact (recorded_order _ (by simp)).bind fun _ => recorded_enter _ (by simp)

theorem recorded_startCarrier (frequency : UInt32) (power : Int8) :
    Recorded rig
      (·.topic ∈ [.wake, .arming, .status, .antenna, .mode, .tuning, .amplifier])
      [.state, .frequency, .pa] (rig.recording.startCarrier frequency power)
      (rig.startCarrier frequency power) := by
  refine (recorded_ensure _).bind fun _ => ?_
  refine (recorded_standby (by simp) (by simp) (fun _ => by simp) (by simp) (by simp)
    fun _ => by simp).bind fun _ => ?_
  refine ((recorded_setFrequency _ (fun _ => by simp) (fun _ => by simp) fun _ => by simp).widen
    (by simp)).bind fun _ => ?_
  refine ((recorded_setTxPower _ (fun _ => by simp) fun _ _ => by simp).widen
    (by simp)).bind fun _ => ?_
  refine recorded_current.bind fun _ => (recorded_tell _ (by simp)).bind fun _ => ?_
  refine (recorded_tell _ (by simp)).bind fun _ => (recorded_order _ (by simp)).bind fun _ => ?_
  exact recorded_enter _ (by simp)

theorem recorded_receiveFor (ticks : UInt32) :
    Recorded rig (·.topic ∈ [.settings, .antenna, .status, .mode]) [.state]
      (rig.recording.receiveFor ticks) (rig.receiveFor ticks) := by
  refine recorded_current.bind fun _ => (recorded_order _ (by simp)).bind fun _ => ?_
  refine (recorded_tell _ (by simp)).bind fun _ => (recorded_tell _ (by simp)).bind fun _ => ?_
  exact (recorded_order _ (by simp)).bind fun _ => recorded_enter _ (by simp)

theorem recorded_startRx (timeout : UInt32) :
    Recorded rig (·.topic ∈ [.settings, .antenna, .status, .mode]) [.state]
      (rig.recording.startRx timeout) (rig.startRx timeout) :=
  (recorded_ensure _).bind fun _ => recorded_receiveFor _

theorem recorded_startContinuousRx :
    Recorded rig (·.topic ∈ [.settings, .antenna, .status, .mode]) [.state]
      rig.recording.startContinuousRx rig.startContinuousRx :=
  (recorded_ensure _).bind fun _ => recorded_receiveFor _

theorem recorded_startCarrierSense (params : Fsk.CarrierSense) (exit : CadExit) :
    Recorded rig (·.topic ∈ [.settings, .antenna, .status, .arming, .mode])
      [.state, .mask, .cadExit, .carrierSense]
      (rig.recording.startCarrierSense params exit) (rig.startCarrierSense params exit) := by
  refine (recorded_ensure _).bind fun _ => recorded_current.bind fun _ => ?_
  refine .optionally (.throw _) ((recorded_order _ (by simp)).bind fun _ => ?_)
  refine (recorded_tell _ (by simp)).bind fun _ => (recorded_tell _ (by simp)).bind fun _ => ?_
  refine .bind (recorded_update fun r => ?_) fun _ => (recorded_tell _ (by simp)).bind fun _ => ?_
  · simp [Radio.agreesBut_iff]
  refine (recorded_order _ (by simp)).bind fun _ => .bind (recorded_update fun r => ?_) fun _ => ?_
  · simp [Radio.agreesBut_iff]
  exact recorded_enter _ (by simp)

theorem recorded_startRxDutyCycle (rx sleep : UInt32) :
    Recorded rig (·.topic ∈ [.antenna, .status, .mode]) [.state]
      (rig.recording.startRxDutyCycle rx sleep) (rig.startRxDutyCycle rx sleep) := by
  unfold startRxDutyCycle
  refine .optionally (.throw _) ((recorded_ensure _).bind fun _ => ?_)
  refine (recorded_tell _ (by simp)).bind fun _ => (recorded_tell _ (by simp)).bind fun _ => ?_
  exact (recorded_order _ (by simp)).bind fun _ => recorded_enter _ (by simp)

theorem recorded_startCad :
    Recorded rig (·.topic ∈ [.antenna, .status, .mode]) [.state] rig.recording.startCad
      rig.startCad := by
  refine (recorded_ensure _).bind fun _ => recorded_current.bind fun _ => ?_
  refine .optionally (.throw _) ((recorded_tell _ (by simp)).bind fun _ => ?_)
  refine (recorded_tell _ (by simp)).bind fun _ => (recorded_order _ (by simp)).bind fun _ => ?_
  exact recorded_enter _ (by simp)

/-! ## Measurements -/

theorem recorded_rssi (h : gives .readRssi) :
    Recorded rig gives parts rig.recording.rssi rig.rssi :=
  recorded_ensureNotScanning.bind fun _ => (recorded_tell _ h).bind fun _ => .pure _

theorem recorded_watchChannel (h : gives .readRssi) (threshold : Int16) (window : UInt32)
    (start : UInt64) (n : Nat) :
    Recorded rig gives parts (rig.recording.watchChannel threshold window start n)
      (rig.watchChannel threshold window start n) := by
  induction n with
  | zero => exact .pure _
  | succ n ih =>
    refine (recorded_pause _).bind fun _ => (recorded_rssi h).bind fun _ => ?_
    exact .ite (.pure _) (recorded_now.bind fun _ => .ite (.pure _) ih)

theorem recorded_sumNoise (h : gives .readRssi) (sum : Int32) (n : Nat) :
    Recorded rig gives parts (rig.recording.sumNoise sum n) (rig.sumNoise sum n) := by
  induction n generalizing sum with
  | zero => exact .pure _
  | succ n ih => exact (recorded_pause _).bind fun _ => (recorded_rssi h).bind fun _ => ih _

/-- What a measurement that tunes the radio may tell the chip. -/
def measured : List Topic :=
  [.wake, .arming, .status, .antenna, .mode, .tuning, .settings, .measuring]

theorem recorded_sampleChannel (threshold : Int16) (window : UInt32) :
    Recorded rig (·.topic ∈ [.settings, .antenna, .status, .mode, .measuring]) [.state]
      (rig.recording.sampleChannel threshold window) (rig.sampleChannel threshold window) := by
  refine (recorded_startContinuousRx.among (by decide) (by decide)).bind fun _ => ?_
  exact recorded_now.bind fun _ => recorded_watchChannel (by simp) _ _ _ _

theorem recorded_sampleNoise :
    Recorded rig (·.topic ∈ [.settings, .antenna, .status, .mode, .measuring]) [.state]
      rig.recording.sampleNoise rig.sampleNoise := by
  refine (recorded_startContinuousRx.among (by decide) (by decide)).bind fun _ => ?_
  exact (recorded_sumNoise (by simp) _ _).bind fun _ => .pure _

theorem recorded_measure {x : Action (Station (σ × List Exchange)) α} {y : Action (Station σ) α}
    (frequency : UInt32) (h : Recorded rig (·.topic ∈ measured) [.state] x y) :
    Recorded rig (·.topic ∈ measured) [.state, .frequency] (rig.recording.measure frequency x)
      (rig.measure frequency y) := by
  refine ((recorded_setFrequency _ (fun _ => by simp [measured]) (fun _ => by simp [measured])
    fun _ => by simp [measured]).widen (by simp)).bind fun _ => ?_
  refine (recorded_tell _ (by simp [measured])).bind fun _ => ?_
  refine (h.widen (by simp)).attempt.bind fun _ => ?_
  refine (recorded_rearm fun _ => by simp [measured]).attempt.bind fun _ => ?_
  refine (recorded_standby (by simp) (by simp [measured]) (fun _ => by simp [measured])
    (by simp [measured]) (by simp [measured]) fun _ => by simp [measured]).attempt.bind fun _ => ?_
  exact .bind (.settle _) fun _ => .bind (.settle _) fun _ => .bind (.settle _) fun _ => .pure _

theorem recorded_isChannelFree (frequency : UInt32) (threshold : Int16) (duration : UInt32) :
    Recorded rig (·.topic ∈ measured) [.state, .frequency]
      (rig.recording.isChannelFree frequency threshold duration)
      (rig.isChannelFree frequency threshold duration) :=
  recorded_measure _ ((recorded_sampleChannel _ _).among (by decide) (by decide))

theorem recorded_channelNoise (frequency : UInt32) :
    Recorded rig (·.topic ∈ measured) [.state, .frequency] (rig.recording.channelNoise frequency)
      (rig.channelNoise frequency) :=
  recorded_measure _ (recorded_sampleNoise.among (by decide) (by decide))

theorem recorded_random (hread : gives .readRandom) (harm : ∀ mask, gives (.armInterrupts mask)) :
    Recorded rig gives parts rig.recording.random rig.random := by
  refine recorded_ensureNotScanning.bind fun _ => (recorded_tell _ (harm _)).bind fun _ => ?_
  refine (recorded_order _ hread).attempt.bind fun _ => ?_
  exact (recorded_rearm harm).bind fun _ => .settle _

/-! ## Settings, scans and power-up -/

/-- An operation that only needs the radio not to be scanned with. -/
theorem recorded_guarded (c : Command) (h : gives c) :
    Recorded rig gives parts (ensureNotScanning >>= fun _ => rig.recording.tell c)
      (ensureNotScanning >>= fun _ => rig.tell c) :=
  recorded_ensureNotScanning.bind fun _ => recorded_tell c h

theorem recorded_setModem (modem : Modem) (hset : gives (.setModem modem))
    (harm : ∀ mask, gives (.armInterrupts mask)) :
    Recorded rig gives [.modem, .mask] (rig.recording.setModem modem) (rig.setModem modem) := by
  refine recorded_ensureNotScanning.bind fun _ => (recorded_order _ hset).bind fun _ => ?_
  refine .bind (recorded_update fun r => ?_) fun _ => recorded_order _ (harm _)
  simp [Radio.agreesBut_iff]

theorem recorded_setRegion (region : Region) :
    Recorded rig gives [.limits] (rig.recording.setRegion region) (rig.setRegion region) := by
  unfold setRegion
  rw [config_recording]
  refine recorded_ensureNotScanning.bind fun _ => ?_
  cases rig.config.limits? region with
  | none => exact .throw _
  | some limits => exact recorded_update fun r => by simp [Radio.agreesBut_iff]

theorem recorded_setTxPayload (payload : List UInt8) (h : gives (.writeBuffer 0 payload)) :
    Recorded rig gives parts (rig.recording.setTxPayload payload) (rig.setTxPayload payload) := by
  unfold setTxPayload
  exact .optionally (.throw _) (recorded_guarded _ h)

theorem recorded_setCadParams (params : Lora.CadParams) (h : gives (.setCadParams params)) :
    Recorded rig gives [.cadExit] (rig.recording.setCadParams params) (rig.setCadParams params) := by
  refine recorded_ensureNotScanning.bind fun _ => .unlessThen (.throw _) ?_
  refine (recorded_order _ h).bind fun _ => recorded_update fun r => ?_
  simp [Radio.agreesBut_iff]

theorem recorded_setBusy (hstate : .state ∈ parts) : Recorded rig gives parts setBusy setBusy :=
  (recorded_ensure _).bind fun _ => recorded_enter _ hstate

theorem recorded_holdScan (hstate : .state ∈ parts) (hline : gives .readInterruptLine) :
    Recorded rig gives parts rig.recording.holdScan rig.holdScan := by
  unfold holdScan
  refine recorded_get_bind fun s => .unlessThen (.throw _) ?_
  refine (recorded_tell _ hline).bind fun line => .optionally (.throw _) ?_
  exact recorded_current.bind fun _ => .optionally (.throw _) (recorded_enter _ hstate)

theorem recorded_restore (hmodem : ∀ modem, gives (.setModem modem))
    (harm : ∀ mask, gives (.armInterrupts mask)) :
    Recorded rig gives parts rig.recording.restore rig.restore := by
  refine recorded_current.bind fun _ => (recorded_tell _ (hmodem _)).attempt.bind fun _ => ?_
  exact (recorded_tell _ (harm _)).attempt.bind fun _ => .bind (.settle _) fun _ => .settle _

theorem recorded_endScan (state : RadioState) (hstate : .state ∈ parts)
    (hmodem : ∀ modem, gives (.setModem modem)) (harm : ∀ mask, gives (.armInterrupts mask)) :
    Recorded rig gives parts (rig.recording.endScan state) (rig.endScan state) :=
  (recorded_restore hmodem harm).attempt.bind fun _ =>
    (recorded_enter _ hstate).bind fun _ => .settle _

theorem recorded_ensureScanning :
    Recorded rig gives parts ensureScanning ensureScanning :=
  recorded_current.bind fun _ => .ite (.throw _) (.pure _)

theorem recorded_scanInterrupt (status : InterruptSet) (hstate : .state ∈ parts)
    (hmodem : ∀ modem, gives (.setModem modem)) (harm : ∀ mask, gives (.armInterrupts mask)) :
    Recorded rig gives parts (rig.recording.scanInterrupt status) (rig.scanInterrupt status) := by
  refine recorded_ensureScanning.bind fun _ => .ite (recorded_endScan _ hstate hmodem harm) ?_
  exact recorded_get_bind fun s => .ite (recorded_endScan _ hstate hmodem harm) (.pure _)

theorem recorded_configure (limits : Option RegionalLimits) :
    Recorded rig
      (·.topic ∈ [.wake, .arming, .status, .antenna, .mode, .setUp, .modem, .amplifier])
      [.state, .pa] (rig.recording.configure limits) (rig.configure limits) := by
  refine (recorded_standby (by simp) (by simp) (fun _ => by simp) (by simp) (by simp)
    fun _ => by simp).bind fun _ => (recorded_order _ (by simp)).bind fun _ => ?_
  refine recorded_current.bind fun _ => (recorded_tell _ (by simp)).bind fun _ => ?_
  cases limits with
  | none => exact recorded_rearm fun _ => by simp
  | some limits =>
    refine ((recorded_setTxPower _ (fun _ => by simp) fun _ _ => by simp).widen
      (by simp)).bind fun _ => ?_
    exact recorded_rearm fun _ => by simp

theorem recorded_powerUp :
    Recorded rig
      (·.topic ∈ [.reset, .wake, .arming, .status, .antenna, .mode, .setUp, .modem, .amplifier])
      [.state, .modem, .mask, .cadExit, .limits, .pa] rig.recording.powerUp rig.powerUp := by
  refine recorded_ensureNotScanning.bind fun _ => .bind (recorded_update fun r => ?_) fun _ => ?_
  · simp [Radio.agreesBut_iff]
  refine (recorded_tell _ (by simp)).bind fun _ => (recorded_tell _ (by simp)).bind fun _ => ?_
  refine .bind (recorded_update fun r => ?_) fun _ =>
    (recorded_configure _).among (by decide) (by decide)
  simp [Radio.agreesBut_iff]

/-! ## Reception -/

/-- A change of the received packet alone. -/
theorem recorded_updatePacket {f : Radio → RxPacket} (hpacket : .packet ∈ parts)
    (hstorage : .storage ∈ parts) :
    Recorded rig gives parts (update fun r => { r with packet := f r })
      (update fun r => { r with packet := f r }) :=
  recorded_update fun r => by simp [Radio.agreesBut_iff, hpacket, hstorage]

/-- A change of what is noted of the received packet, but not of its bytes. -/
theorem recorded_updateNotes {f : Radio → RxPacket} (hpacket : .packet ∈ parts)
    (hf : ∀ r, (f r).storage = r.packet.storage) :
    Recorded rig gives parts (update fun r => { r with packet := f r })
      (update fun r => { r with packet := f r }) :=
  recorded_update fun r => by simp [Radio.agreesBut_iff, hpacket, hf]

theorem recorded_fetchLora (hpacket : .packet ∈ parts) (hstorage : .storage ∈ parts)
    (hstatus : gives .readRxBufferStatus)
    (hread : ∀ offset n, gives (.readBuffer offset n)) (hquality : gives .readLoraQuality)
    (hcrc : gives .readLoraCrcFlag) :
    Recorded rig gives parts rig.recording.fetchLora rig.fetchLora := by
  refine (recorded_tell _ hstatus).bind fun _ => (recorded_tell _ (hread _ _)).bind fun _ => ?_
  refine (recorded_updatePacket hpacket hstorage).bind fun _ => ?_
  refine (recorded_tell _ hquality).bind fun _ => ?_
  exact ((recorded_tell _ hcrc).reporting _).bind fun _ => recorded_updatePacket hpacket hstorage

theorem recorded_awaitHeader (n : Nat) (hlevel : gives .readFskFillLevel) :
    Recorded rig gives parts (rig.recording.awaitHeader n) (rig.awaitHeader n) := by
  induction n with
  | zero => exact .throw _
  | succ n ih => exact (recorded_tell _ hlevel).bind fun _ => .ite ih (.pure _)

theorem recorded_syncFsk (hpacket : .packet ∈ parts) (hstorage : .storage ∈ parts)
    (hlevel : gives .readFskFillLevel)
    (hstatus : gives .readRxBufferStatus) (hread : ∀ offset n, gives (.readBuffer offset n))
    (hlength : ∀ n, gives (.setFskPayloadLength n)) :
    Recorded rig gives parts rig.recording.syncFsk rig.syncFsk := by
  refine (recorded_awaitHeader _ hlevel).bind fun _ => (recorded_tell _ hstatus).bind fun _ => ?_
  refine (recorded_tell _ (hread _ _)).bind fun _ => ?_
  refine (recorded_updatePacket hpacket hstorage).bind fun _ => ?_
  exact (recorded_tell _ (hlength _)).bind fun _ => recorded_updatePacket hpacket hstorage

theorem recorded_readPsdu (header : Fsk.Header) (hpacket : .packet ∈ parts)
    (hstorage : .storage ∈ parts) (hstatus : gives .readRxBufferStatus)
    (hread : ∀ offset n, gives (.readBuffer offset n)) :
    Recorded rig gives parts (rig.recording.readPsdu header) (rig.readPsdu header) := by
  refine .reporting _ <| (recorded_tell _ hstatus).bind fun _ => ?_
  refine (recorded_tell _ (hread _ _)).bind fun _ => ?_
  exact (recorded_updatePacket hpacket hstorage).bind fun _ => .pure _

theorem recorded_fetchFrame (header : Fsk.Header) (hpacket : .packet ∈ parts)
    (hstorage : .storage ∈ parts) (hstatus : gives .readRxBufferStatus)
    (hread : ∀ offset n, gives (.readBuffer offset n))
    (hquality : gives .readFskQuality) :
    Recorded rig gives parts (rig.recording.fetchFrame header) (rig.fetchFrame header) := by
  refine (recorded_readPsdu header hpacket hstorage hstatus hread).bind fun bytes => ?_
  refine (recorded_updatePacket hpacket hstorage).bind fun _ => ?_
  cases (header.check bytes).outcome with
  | error rejection => exact .pure _
  | ok length =>
    refine ((recorded_tell _ hquality).reporting _).bind fun _ => ?_
    exact (recorded_updatePacket hpacket hstorage).bind fun _ => .pure _

theorem recorded_fetchFsk (hpacket : .packet ∈ parts) (hstorage : .storage ∈ parts)
    (hstatus : gives .readRxBufferStatus)
    (hread : ∀ offset n, gives (.readBuffer offset n)) (hquality : gives .readFskQuality) :
    Recorded rig gives parts rig.recording.fetchFsk rig.fetchFsk := by
  refine recorded_current.bind fun r => .ite (.pure _) ?_
  refine (recorded_updatePacket hpacket hstorage).bind fun _ => ?_
  cases checkHeader r.packet.header with
  | error rejection => exact .pure _
  | ok => exact recorded_fetchFrame _ hpacket hstorage hstatus hread hquality

/-! ## Dispatch of interrupts -/

theorem recorded_endWindow (hexit : .cadExit ∈ parts) (hmask : .mask ∈ parts) :
    Recorded rig gives parts endWindow endWindow :=
  recorded_update fun r => by simp [Radio.agreesBut_iff, hexit, hmask]

/-- The parts of the record that a dispatch changes. -/
def dispatched : List Part := [.state, .mask, .cadExit, .packet, .storage]

/-- What a dispatch may tell the chip. -/
def serviced : List Topic :=
  [.wake, .arming, .status, .antenna, .mode, .measuring, .reception]

theorem recorded_transmitOnQuiet :
    Recorded rig (·.topic ∈ [.antenna, .status, .mode]) [.state] rig.recording.transmitOnQuiet
      rig.transmitOnQuiet := by
  refine .ite (.pure _) <| recorded_current.bind fun _ => ?_
  exact (recorded_startTx _).attempt.discard.bind fun _ => .pure _

theorem recorded_concludeQuiet (event : Event) :
    Recorded rig (·.topic ∈ [.antenna, .status, .mode]) [.state, .mask, .cadExit]
      (rig.recording.concludeQuiet event) (rig.concludeQuiet event) := by
  refine recorded_current.bind fun _ => ?_
  refine (recorded_endWindow (by decide) (by decide)).bind fun _ => ?_
  exact .ite (recorded_transmitOnQuiet.widen (by decide)) (.pure _)

theorem recorded_noteRssi (hpacket : .packet ∈ parts) (hrssi : gives .readRssi) :
    Recorded rig gives parts rig.recording.noteRssi rig.noteRssi := by
  refine (recorded_rssi hrssi).attempt.bind fun r => ?_
  cases r with
  | ok rssi => exact recorded_updateNotes hpacket fun _ => rfl
  | error e => exact .pure _

theorem recorded_concludeActivity (hstate : .state ∈ parts) (hmask : .mask ∈ parts)
    (hexit : .cadExit ∈ parts) (hpacket : .packet ∈ parts) (hrssi : gives .readRssi)
    (hwake : gives .wake) (harm : ∀ mask, gives (.armInterrupts mask))
    (hclear : gives (.clearInterrupts .all)) (hoff : gives (.setAntenna .off))
    (hrest : ∀ crystal, gives (.setStandby crystal)) :
    Recorded rig gives parts rig.recording.concludeActivity rig.concludeActivity := by
  refine recorded_current.bind fun r => ?_
  cases r.cadExit with
  | none => exact .pure _
  | csRx | edRx => exact (recorded_endWindow hexit hmask).bind fun _ => .pure _
  | csOnly | csLbt | edOnly | edLbt =>
    refine (recorded_noteRssi hpacket hrssi).bind fun _ => ?_
    refine (recorded_endWindow hexit hmask).bind fun _ => ?_
    exact (recorded_standby hstate hwake harm hclear hoff hrest).bind fun _ => .pure _

theorem recorded_receiveLora (hpacket : .packet ∈ parts) (hstorage : .storage ∈ parts)
    (hstatus : gives .readRxBufferStatus)
    (hread : ∀ offset n, gives (.readBuffer offset n)) (hquality : gives .readLoraQuality)
    (hcrc : gives .readLoraCrcFlag) :
    Recorded rig gives parts rig.recording.receiveLora rig.receiveLora := by
  refine (recorded_fetchLora hpacket hstorage hstatus hread hquality hcrc).attempt.bind fun r => ?_
  rcases r with e | ⟨⟩
  · exact .pure _
  · exact .bind (recorded_updateNotes hpacket fun _ => rfl) fun _ => .pure _

theorem recorded_receiveFsk (hpacket : .packet ∈ parts) (hstorage : .storage ∈ parts)
    (hstatus : gives .readRxBufferStatus)
    (hread : ∀ offset n, gives (.readBuffer offset n)) (hquality : gives .readFskQuality) :
    Recorded rig gives parts rig.recording.receiveFsk rig.receiveFsk := by
  refine (recorded_fetchFsk hpacket hstorage hstatus hread hquality).attempt.bind fun r => ?_
  rcases r with e | e | ⟨⟩
  · exact .pure _
  · exact .pure _
  · exact .bind (recorded_updateNotes hpacket fun _ => rfl) fun _ => .pure _

/-- What is received is read from the chip, and only the packet changes. -/
theorem recorded_reception {meaning : Meaning} (h : meaning = .sync ∨ ∃ m, meaning = .packet m) :
    Recorded rig (·.topic ∈ [.reception]) [.packet, .storage] (rig.recording.act meaning)
      (rig.act meaning) := by
  rcases h with rfl | ⟨modem, rfl⟩
  · exact (recorded_syncFsk (by simp) (by simp) (by simp) (by simp) (fun _ _ => by simp)
      fun _ => by simp).attempt.discard.bind fun _ => .pure _
  cases modem with
  | lora =>
    exact recorded_receiveLora (by simp) (by simp) (by simp) (fun _ _ => by simp) (by simp)
      (by simp)
  | fsk =>
    exact recorded_receiveFsk (by simp) (by simp) (by simp) (fun _ _ => by simp) (by simp)

theorem recorded_act (meaning : Meaning) :
    Recorded rig (·.topic ∈ serviced) dispatched (rig.recording.act meaning) (rig.act meaning) := by
  have told (c : Command) (h : c.topic ∈ serviced := by simp [serviced]) : c.topic ∈ serviced := h
  cases meaning with
  | event event => exact .pure _
  | nothing => exact .pure _
  | quiet event => exact (recorded_concludeQuiet _).among (by decide) (by decide)
  | detected => exact (recorded_endWindow (by decide) (by decide)).bind fun _ => .pure _
  | preamble =>
    exact recorded_concludeActivity (by decide) (by decide) (by decide) (by decide) (told _)
      (told _) (fun _ => told _) (told _) (told _) fun _ => told _
  | sync => exact (recorded_reception (.inl rfl)).among (by decide) (by decide)
  | packet modem => exact (recorded_reception (.inr ⟨_, rfl⟩)).among (by decide) (by decide)

theorem recorded_attend (status : InterruptSet) (hpacket : .packet ∈ parts)
    (herrors : gives .takeErrors) :
    Recorded rig gives parts (rig.recording.attend status) (rig.attend status) := by
  refine .iteRest ?_ fun rest =>
    recorded_now.bind fun _ => .bind (recorded_updateNotes hpacket fun _ => rfl) fun _ => rest
  exact .ite (recorded_tell _ herrors).attempt.discard (.pure _)

theorem recorded_dispatch :
    Recorded rig (·.topic ∈ serviced) dispatched rig.recording.dispatch rig.dispatch := by
  refine (recorded_tell _ (by simp [serviced])).bind fun _ => ?_
  refine (recorded_tell _ (by simp [serviced])).bind fun status => ?_
  refine (recorded_attend _ (by decide) (by simp [serviced])).bind fun _ => ?_
  exact recorded_current.bind fun _ => recorded_act _

theorem recorded_conclude (found : Except Fault (Option Event))
    (harm : ∀ mask, gives (.armInterrupts mask)) (hlistener : .listener ∈ parts) :
    Recorded rig gives parts (rig.recording.conclude found) (rig.conclude found) := by
  have rearmed : Recorded rig gives parts
      (do if (← current).state ≠ .sleep then rig.recording.rearm)
      (do if (← current).state ≠ .sleep then rig.rearm) :=
    recorded_current.bind fun _ => .ite (recorded_rearm harm) (.pure _)
  have rest := rearmed.attempt.bind fun armed => (Recorded.settle found).discard.bind fun _ =>
    .settle armed
  rcases found with e | _ | event
  · exact rest
  · exact rest
  · exact (recorded_report _ hlistener).bind fun _ => rest

theorem recorded_processInterrupt :
    Recorded rig (·.topic ∈ serviced) (dispatched ++ [.listener]) rig.recording.processInterrupt
      rig.processInterrupt := by
  refine recorded_current.bind fun _ => .ite (.pure _) ?_
  refine (recorded_dispatch.widen (List.subset_append_left ..)).attempt.bind fun _ => ?_
  exact recorded_conclude _ (fun _ => by simp [serviced]) (by simp)

end Rig

/-! ## Operations -/

/-- What an operation may touch. -/
def Operation.parts : Operation → List Part
  | .powerUp => [.state, .modem, .mask, .cadExit, .limits, .pa]
  | .setModem _ => [.modem, .mask]
  | .setRegion _ => [.limits]
  | .setFrequency _ => [.frequency]
  | .setTxPower _ => [.pa]
  | .setCadParams _ => [.cadExit]
  | .startCarrier .. => [.state, .frequency, .pa]
  | .startCarrierSense .. => [.state, .mask, .cadExit, .carrierSense]
  | .isChannelFree .. | .channelNoise _ => [.state, .frequency]
  | .processInterrupt => Rig.dispatched ++ [.listener]
  | .standby | .sleep _ | .setBusy | .holdScan | .releaseScan | .startTx _ | .startRx _
  | .startContinuousRx | .startRxDutyCycle .. | .startCad | .scanInterrupt _ => [.state]
  | .release | .abortScan | .setTxPayload _ | .rssi | .random | .setLoraModulation _
  | .setLoraPacket _ | .setLoraSyncWord _ | .setLoraSymbolTimeout _ | .setFskModulation _
  | .setFskPacket _ | .setFskSyncWord _ | .awaitInterrupt => []

/-- The state that a command brings the chip to, once it is accepted. -/
def Command.target? : Command → Option RadioState
  | .reset => some .unknown
  | .setStandby _ => some .standby
  | .setSleep _ => some .sleep
  | .setRx _ => some .rx
  | .setTx _ | .setTxCarrier => some .tx
  | .setCad => some .cad
  | .setRxDutyCycle .. => some .rxDutyCycle
  | _ => none

/-- The command brings the chip to no state of its own. -/
def Command.IsQuiet (c : Command) : Prop := c.target? = none

/-- What the commands of an operation may be about. -/
def Operation.topics : Operation → List Topic
  | .powerUp => [.reset, .wake, .arming, .status, .antenna, .mode, .setUp, .modem, .amplifier]
  | .setModem _ | .releaseScan | .scanInterrupt _ => [.modem, .arming]
  | .standby => [.wake, .arming, .status, .antenna, .mode]
  | .sleep _ => [.arming, .status, .antenna, .sleep]
  | .holdScan | .awaitInterrupt => [.line]
  | .abortScan => [.abort]
  | .setFrequency _ => [.tuning]
  | .setTxPower _ => [.amplifier]
  | .startTx _ | .startRxDutyCycle .. | .startCad => [.antenna, .status, .mode]
  | .startCarrier .. => [.wake, .arming, .status, .antenna, .mode, .tuning, .amplifier]
  | .startRx _ | .startContinuousRx => [.settings, .antenna, .status, .mode]
  | .startCarrierSense .. => [.settings, .antenna, .status, .arming, .mode]
  | .rssi => [.measuring]
  | .random => [.measuring, .arming]
  | .isChannelFree .. | .channelNoise _ => Rig.measured
  | .processInterrupt => Rig.serviced
  | .setTxPayload _ | .setCadParams _ | .setLoraModulation _ | .setLoraPacket _
  | .setLoraSyncWord _ | .setLoraSymbolTimeout _ | .setFskModulation _ | .setFskPacket _
  | .setFskSyncWord _ => [.settings]
  | .release | .setRegion _ | .setBusy => []

/-- What an operation may tell the chip. -/
def Operation.Gives (op : Operation) (c : Command) : Prop := c.topic ∈ op.topics

theorem Command.isQuiet_iff {c : Command} :
    c.IsQuiet ↔ c.topic ≠ .mode ∧ c.topic ≠ .sleep ∧ c.topic ≠ .reset := by
  unfold IsQuiet target? topic
  cases c <;> simp

/-- An operation that leaves the state on record alone gives quiet commands only. -/
theorem Operation.Gives.isQuiet {op : Operation} {c : Command} (h : op.Gives c)
    (hop : .state ∉ op.parts) : c.IsQuiet := by
  have htopics : .mode ∉ op.topics ∧ .sleep ∉ op.topics ∧ .reset ∉ op.topics := by
    cases op <;> simp [parts, topics, Rig.dispatched] at hop ⊢
  obtain ⟨hmode, hsleep, hreset⟩ := htopics
  exact Command.isQuiet_iff.mpr
    ⟨fun hc => hmode (hc ▸ h), fun hc => hsleep (hc ▸ h), fun hc => hreset (hc ▸ h)⟩

namespace Rig

variable {σ : Type} {rig : Rig σ}

/-- An operation of a recorded rig does what it does without the log, and touches no more than is
said of the operation. -/
theorem recorded_perform (op : Operation) :
    Recorded rig op.Gives op.parts (rig.recording.perform op) (rig.perform op) := by
  cases op with
  | powerUp => exact recorded_powerUp
  | release => exact .pure _
  | setModem modem => exact recorded_setModem _ (.head _) fun _ => .tail _ (.head _)
  | setRegion region => exact recorded_setRegion _
  | standby =>
    have told (c : Command) (h : c.topic ∈ Operation.standby.topics := by simp [Operation.topics]) :
      Operation.standby.Gives c := h
    exact recorded_standby (.head _) (told _) (fun _ => told _) (told _) (told _) fun _ => told _
  | sleep duration => exact recorded_sleep _
  | setBusy => exact recorded_setBusy (.head _)
  | holdScan => exact recorded_holdScan (.head _) (.head _)
  | releaseScan =>
    exact recorded_ensureScanning.bind fun _ =>
      recorded_endScan _ (.head _) (fun _ => .head _) fun _ => .tail _ (.head _)
  | abortScan => exact recorded_ensureScanning.bind fun _ => recorded_tell _ (.head _)
  | setFrequency frequency =>
    exact recorded_setFrequency _ (fun _ => .head _) (fun _ => .head _) fun _ => .head _
  | setTxPower power => exact recorded_setTxPower _ (fun _ => .head _) fun _ _ => .head _
  | setTxPayload payload => exact recorded_setTxPayload _ (.head _)
  | startTx timeout => exact recorded_startTx _
  | startCarrier frequency power => exact recorded_startCarrier _ _
  | startRx timeout => exact recorded_startRx _
  | startContinuousRx => exact recorded_startContinuousRx
  | startCarrierSense params exit => exact recorded_startCarrierSense _ _
  | startRxDutyCycle rx sleep => exact recorded_startRxDutyCycle _ _
  | startCad => exact recorded_startCad
  | setCadParams params => exact recorded_setCadParams _ (.head _)
  | rssi => exact recorded_rssi (.head _)
  | isChannelFree frequency threshold duration => exact recorded_isChannelFree _ _ _
  | channelNoise frequency => exact recorded_channelNoise _
  | random => exact recorded_random (.head _) fun _ => .tail _ (.head _)
  | setLoraModulation | setLoraPacket | setLoraSyncWord | setLoraSymbolTimeout
  | setFskModulation | setFskPacket | setFskSyncWord =>
    exact recorded_guarded _ (.head _)
  | awaitInterrupt => exact recorded_tell _ (.head _)
  | processInterrupt => exact recorded_processInterrupt
  | scanInterrupt status =>
    exact recorded_scanInterrupt _ (.head _) (fun _ => .head _) fun _ => .tail _ (.head _)

end Rig

end Transceiver
