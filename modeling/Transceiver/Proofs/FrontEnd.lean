import Mathlib.Data.List.Infix
import Transceiver.Proofs.Device
import Transceiver.Proofs.History
import Transceiver.Proofs.SharedBuffer

/-! The front end of the SX126x while a random number is drawn. Its amplifier and its mixer are
detached, so that nothing but noise is received, and attached again once the number is read. A
transfer that fails in between ends the draw, and what was detached by then stays so. -/

namespace Transceiver.Bus

open Transceiver.Action Link Endpoint

/-! ## Failures on the bus -/

/-- These signals are a failure on the bus: a transfer that did not get through, a chip that could
not be selected, or a wait for it that was in vain. -/
inductive Endpoint.Fails {σ : Type} (bus : Endpoint σ) : List Signal → Prop
  | transfer (sent : List UInt8) : bus.Fails [.transfer sent none]
  | hold (ns : UInt32) : bus.Fails [.hold ns false]
  | wait (w : σ) (samples : Nat) (e : Fault) (xs : List Signal)
    (h : bus.Waits bus.sampleBusy w bus.handshake.busyBudget samples (.error e) xs) : bus.Fails xs

/-- From the first link to the second some signals passed. A step that failed ended with a failure
on the bus. -/
def Stops {σ α : Type} (bus : Endpoint σ) (l : Link (σ × List Signal)) (r : Except Fault α)
    (l' : Link (σ × List Signal)) : Prop :=
  ∃ xs, l'.signals = l.signals ++ xs ∧
    (r.isOk = false → ∃ more last, xs = more ++ last ∧ bus.Fails last)

section Stops
variable {σ α β : Type} {bus : Endpoint σ} {l : Link (σ × List Signal)}

theorem stops_ok {l' : Link (σ × List Signal)} (a : α) (h : l'.signals = l.signals) :
    Stops bus l (.ok a) l' := ⟨[], by rw [h, List.append_nil], nofun⟩

theorem stops_bind {x : Action (Link (σ × List Signal)) α}
    {f : α → Action (Link (σ × List Signal)) β} (hx : x.Ends l (Stops bus l))
    (hf : ∀ a l', (f a).Ends l' (Stops bus l')) : (x >>= f).Ends l (Stops bus l) :=
  ends_bind.mpr <| hx.mono fun
    | .error _, _, h => h
    | .ok a, l₁, ⟨xs, hxs, _⟩ => (hf a l₁).mono fun _ _ ⟨ys, hys, hfails⟩ => by
      refine ⟨xs ++ ys, by rw [hys, hxs, List.append_assoc], fun hr => ?_⟩
      obtain ⟨more, last, rfl, hlast⟩ := hfails hr
      exact ⟨xs ++ more, last, (List.append_assoc ..).symm, hlast⟩

theorem stops_ready : bus.recording.ready.Ends l (Stops bus l) :=
  (ends_awaitReady bus _).mono fun
    | .ok _, _, ⟨_, xs, hxs, _⟩ => ⟨xs, hxs, nofun⟩
    | .error e, _, ⟨samples, xs, hxs, hwaits⟩ =>
      ⟨xs, hxs, fun _ => ⟨[], xs, rfl, .wait _ samples e xs hwaits⟩⟩

theorem stops_prepare : bus.recording.prepare.Ends l (Stops bus l) := by
  refine ends_bind.mpr <| ends_get.mpr <| ends_ite.mpr ?_
  split
  · refine stops_bind (ends_hold (fun w => ?_) fun w => ⟨_, rfl, nofun⟩) fun _ l' =>
      stops_bind (ends_modify.mpr (stops_ok () rfl)) fun _ _ => stops_ready
    exact ⟨_, rfl, fun _ => ⟨[], _, rfl, .hold _⟩⟩
  · exact stops_ready

theorem stops_exchange (sent : List UInt8) :
    (bus.recording.exchange sent).Ends l (Stops bus l) :=
  ends_exchange (fun _ => ⟨_, rfl, fun _ => ⟨[], _, rfl, .transfer sent⟩⟩) fun _ _ => ⟨_, rfl, nofun⟩

theorem stops_send (bus : Endpoint σ) {cmd data : List UInt8}
    (h : cmd.length + data.length ≤ maxTransfer) :
    (bus.recording.send cmd data).Ends l (Stops bus l) := by
  refine ends_ite.mpr <| (if_neg (Nat.not_lt.mpr h)).mpr ?_
  exact stops_bind stops_prepare fun _ _ => stops_bind (stops_exchange _) fun _ _ =>
    ends_modify.mpr (stops_ok () rfl)

theorem stops_readSingleShot (bus : Endpoint σ) {cmd : List UInt8} {n : Nat}
    (h : cmd.length + n ≤ maxTransfer) :
    (bus.recording.readSingleShot cmd n).Ends l (Stops bus l) := by
  refine ends_ite.mpr <| (if_neg (Nat.not_lt.mpr h)).mpr ?_
  exact stops_bind stops_prepare fun _ _ => stops_bind (stops_exchange _) fun _ _ =>
    stops_bind (ends_modify.mpr (stops_ok () rfl)) fun _ _ => ends_pure.mpr (stops_ok _ rfl)

end Stops

end Transceiver.Bus

namespace Transceiver.Sx126x

open Bus

/-- The stages of the front end, each attached by a register. -/
inductive Stage where
  | amplifier
  | mixer
  deriving DecidableEq

namespace Stage

def register : Stage → Register
  | amplifier => .analogLna
  | mixer => .analogMixer

/-- What the register holds while the stage is detached, if it held `value` before. -/
def detached (value : UInt8) : Stage → UInt8
  | amplifier => value &&& 0xFE
  | mixer => value &&& 0x7F

/-- What is sent to read the register. -/
def reading (stage : Stage) : List UInt8 :=
  Opcode.readRegister.byte :: BigEndian.bytes16 stage.register.address ++ [0, 0]

/-- What is sent to write the register. -/
def writing (stage : Stage) (value : UInt8) : List UInt8 :=
  Opcode.writeRegister.byte :: BigEndian.bytes16 stage.register.address ++ [value]

end Stage

/-- What is sent arms interrupts. -/
def Arms (sent : List UInt8) : Prop := sent.head? = some Opcode.setDioIrqParams.byte

/-- What the registers of the front end hold. -/
abbrev FrontEnd := Stage → UInt8

namespace FrontEnd

/-- What they hold after these bytes: what is written is stored from an address on. -/
def after (front : FrontEnd) : List UInt8 → FrontEnd
  | op :: hi :: lo :: data =>
    if op = Opcode.writeRegister.byte then fun stage =>
      data[(stage.register.address - BigEndian.word16 hi lo).toNat]?.getD (front stage)
    else front
  | _ => front

/-- What they hold after these transfers, of which some got through and some did not. -/
def afterAll (front : FrontEnd) (ts : List (List UInt8 × Bool)) : FrontEnd :=
  ts.foldl (fun front t => if t.2 then front.after t.1 else front) front

/-- The stage is attached: its register is not what it is while the stage is detached. -/
def Attaches (front : FrontEnd) (stage : Stage) : Prop :=
  stage.detached (front stage) ≠ front stage

theorem afterAll_append (front : FrontEnd) (ts us : List (List UInt8 × Bool)) :
    front.afterAll (ts ++ us) = (front.afterAll ts).afterAll us := List.foldl_append

/-- Arming interrupts changes nothing in the front end. -/
theorem afterAll_arming (front : FrontEnd) {ts : List (List UInt8 × Bool)}
    (h : ∀ t ∈ ts, Arms t.1) : front.afterAll ts = front := by
  induction ts with
  | nil => rfl
  | cons t ts ih =>
    obtain ⟨harms, hts⟩ := List.forall_mem_cons.mp h
    have hafter : front.after t.1 = front := by
      unfold after
      split
      · rename_i hsent
        rw [Arms, hsent] at harms
        rw [if_neg (by rw [Option.some.inj harms]; decide)]
      · rfl
    rw [afterAll, List.foldl_cons, hafter, ite_self]
    exact ih hts

end FrontEnd

/-- The steps in which a random number is drawn, each of them one transfer. -/
inductive DrawStep where
  | read (stage : Stage)
  | detach (stage : Stage)
  | receive
  /-- Read the number. -/
  | draw
  | rest
  | attach (stage : Stage)
  deriving DecidableEq

namespace DrawStep

/-- The steps in their order. -/
def all : List DrawStep :=
  [.read .amplifier, .detach .amplifier, .read .mixer, .detach .mixer, .receive, .draw, .rest,
    .attach .amplifier, .attach .mixer]

/-- What the step sends in a draw that found the front end like this. -/
def frame (front : FrontEnd) : DrawStep → List UInt8
  | read stage => stage.reading
  | detach stage => stage.writing (stage.detached (front stage))
  | receive => Opcode.setRx.byte :: BigEndian.bytes24 Ticks.continuous
  | draw =>
    Opcode.readRegister.byte :: BigEndian.bytes16 Register.randomNumber.address ++ [0, 0, 0, 0, 0]
  | rest => [Opcode.setStandby.byte, 0]
  | attach stage => stage.writing (front stage)

/-- The transfers of a draw in which the steps `done` got through, and `lost` did not. -/
def transfers (front : FrontEnd) (done : List DrawStep) (lost : Option DrawStep) :
    List (List UInt8 × Bool) :=
  done.map (fun step => (step.frame front, true)) ++
    lost.toList.map fun step => (step.frame front, false)

end DrawStep

/-- A stage that was detached and not attached again stays detached. Any other is as it was. -/
theorem FrontEnd.afterAll_transfers (front : FrontEnd) {done : List DrawStep}
    {lost : Option DrawStep} (h : done ++ lost.toList <+: DrawStep.all) (stage : Stage) :
    front.afterAll (DrawStep.transfers front done lost) stage =
      if .detach stage ∈ done ∧ .attach stage ∉ done then stage.detached (front stage)
      else front stage := by
  have hlost (front' : FrontEnd) :
      front'.afterAll (lost.toList.map fun step => (step.frame front, false)) = front' := by
    cases lost <;> rfl
  rw [DrawStep.transfers, afterAll_append, hlost]
  have hdone : done ∈ DrawStep.all.inits :=
    (List.mem_inits ..).mpr ((List.prefix_append ..).trans h)
  simp only [DrawStep.all, List.inits, List.map_cons, List.map_nil, List.mem_cons,
    List.not_mem_nil, or_false] at hdone
  rcases hdone with rfl | rfl | rfl | rfl | rfl | rfl | rfl | rfl | rfl | rfl <;>
    cases stage <;> rfl

/-! ## A chip that stores what is written -/

/-- Behind the wires is a chip with the front end `front`. It stores what is written, and answers
with what it stored. A transfer that fails does not reach it. -/
structure Stores {σ : Type} (wire : Wire σ) (front : σ → FrontEnd) : Prop where
  lost : ∀ sent w, (wire.transfer sent w).1 = none → front (wire.transfer sent w).2 = front w
  stored : ∀ sent w received, (wire.transfer sent w).1 = some received →
    front (wire.transfer sent w).2 = (front w).after sent
  answered : ∀ stage w received, (wire.transfer (Stage.reading stage) w).1 = some received →
    received.toList[4]? = some (front w stage)
  hold : ∀ ns w, front (wire.hold ns w).2 = front w
  busy : ∀ w, front (wire.busy w).2 = front w
  delayMicros : ∀ us w, front (wire.delayMicros us w) = front w

/-- From the first link to the second these transfers were made, and the front end stored what got
through. -/
structure Passed {σ : Type} (front : σ → FrontEnd) (l l' : Link (σ × List Signal))
    (ts : List (List UInt8 × Bool)) : Prop where
  transferred : ∃ us, l.Transferred l' us ∧ us.map (Prod.map id Option.isSome) = ts
  front : front l'.world.1 = (front l.world.1).afterAll ts

namespace Passed

variable {σ : Type} {front : σ → FrontEnd} {l l₁ l₂ : Link (σ × List Signal)}
  {ts us : List (List UInt8 × Bool)}

theorem refl (l : Link (σ × List Signal)) : Passed front l l [] := ⟨⟨[], .refl l, rfl⟩, rfl⟩

theorem trans (h : Passed front l l₁ ts) (h' : Passed front l₁ l₂ us) :
    Passed front l l₂ (ts ++ us) := by
  obtain ⟨ts, hts, rfl⟩ := h.transferred
  obtain ⟨us, hus, rfl⟩ := h'.transferred
  refine ⟨⟨ts ++ us, hts.trans hus, List.map_append⟩, ?_⟩
  rw [h'.front, h.front, FrontEnd.afterAll_append]

/-- What the host notes for itself does not pass. -/
theorem of_world (h : Passed front l l₁ ts) (hworld : l₂.world = l₁.world) :
    Passed front l l₂ ts := by
  obtain ⟨us, ⟨xs, hxs, hus⟩, hts⟩ := h.transferred
  have hsignals : l₂.signals = l₁.signals := congrArg Prod.snd hworld
  exact ⟨⟨us, ⟨xs, hsignals.trans hxs, hus⟩, hts⟩, by rw [hworld, h.front]⟩

/-- What is no transfer, and changes nothing in the chip. -/
theorem quiet {w : σ} {x : Signal} (hx : x.transfer? = none) (hfront : front w = front l.world.1)
    (h : Passed front l₁ l []) : Passed front l₁ (l.noting w x) [] := by
  have htransferred := Link.Transferred.noting (l := l) w x
  rw [hx] at htransferred
  exact h.trans ⟨⟨[], htransferred, rfl⟩, hfront⟩

end Passed

section Steps

open Transceiver.Action

variable {σ α : Type} {bus : Endpoint σ} {front : σ → FrontEnd} {l l₀ : Link (σ × List Signal)}

/-- The step makes one transfer, or none if the chip does not get ready. If the transfer gets
through, what the step returns satisfies `fits`. -/
def Crosses (front : σ → FrontEnd) (sent : List UInt8) (fits : α → Prop)
    (l : Link (σ × List Signal)) (x : Action (Link (σ × List Signal)) α) : Prop :=
  x.Ends l fun r l' => match r with
    | .ok a => Passed front l l' [(sent, true)] ∧ fits a
    | .error _ => Passed front l l' [] ∨ Passed front l l' [(sent, false)]

/-- What is refused makes no transfer. -/
theorem crosses_guarded {c : Prop} {_ : Decidable c} {e : Fault} {sent : List UInt8}
    {fits : α → Prop} {f : Unit → Action (Link (σ × List Signal)) α}
    (h : Crosses front sent fits l (f ())) :
    Crosses front sent fits l (if c then throw e >>= f else f ()) := by
  split
  · exact .inl (.refl l)
  · exact h

variable (h : Stores bus.wire front)
include h

theorem passed_prepare : bus.recording.prepare.Keeps (Passed front l₀ · []) :=
  Endpoint.waits_prepare (fun _ hl => hl.quiet rfl (h.busy _))
    (fun _ _ hl => hl.quiet rfl (h.delayMicros ..)) fun _ _ _ hl =>
      (hl.quiet rfl (h.hold ..)).of_world rfl

/-- A transfer once the chip is ready, and what follows it without a failure. -/
theorem crosses_exchange {sent : List UInt8} {fits : α → Prop}
    {f : Vector UInt8 sent.length → Action (Link (σ × List Signal)) α}
    (hf : ∀ received l', (∀ stage, sent = stage.reading →
        received.toList[4]? = some (front l.world.1 stage)) →
      (f received).Ends l' fun r l'' => ∃ a, r = .ok a ∧ l''.world = l'.world ∧ fits a) :
    Crosses front sent fits l (bus.recording.prepare >>= fun _ =>
      bus.recording.exchange sent >>= f) := by
  refine ends_bind.mpr <| (passed_prepare h l (.refl l)).mono fun
    | .error _, _, hl => .inl hl
    | .ok _, l₁, hl => ?_
  have hfront : front l₁.world.1 = front l.world.1 := hl.front
  have crossed (received : Option (List UInt8)) (hw : front (bus.wire.transfer sent l₁.world.1).2 =
      (front l₁.world.1).afterAll [(sent, received.isSome)]) :
      Passed front l (l₁.noting (bus.wire.transfer sent l₁.world.1).2 (.transfer sent received))
        [(sent, received.isSome)] :=
    hl.trans ⟨⟨_, .noting _ _, rfl⟩, hw⟩
  refine ends_bind.mpr <| Endpoint.ends_exchange_of
    (fun hr => .inr (crossed none (h.lost _ _ hr))) fun received hr => ?_
  have hcrossed := crossed (some received.toList) (h.stored _ _ _ hr)
  refine (hf received _ fun stage hstage => ?_).mono fun r l₂ ⟨a, hra, hworld, hfits⟩ => ?_
  · subst hstage
    rw [h.answered stage _ _ hr, hfront]
  · subst hra
    exact ⟨hcrossed.of_world hworld, hfits⟩

omit h in
theorem crosses_send (bus : Endpoint σ) (h : Stores bus.wire front) (cmd data : List UInt8) :
    Crosses front (cmd ++ data) (fun _ => True) l (bus.recording.send cmd data) := by
  unfold Endpoint.send
  exact crosses_guarded <| crosses_exchange h fun _ _ _ => ⟨(), rfl, rfl, trivial⟩

omit h in
/-- The answer to a command of four bytes starts with what the register holds that is asked for. -/
theorem crosses_readSingleShot (bus : Endpoint σ) (h : Stores bus.wire front) (cmd : List UInt8)
    (n : Nat) :
    Crosses front (cmd ++ .replicate n 0)
      (fun answer => ∀ stage, cmd ++ .replicate n 0 = stage.reading → cmd.length = 4 →
        answer.toList[0]? = some (front l.world.1 stage))
      l (bus.recording.readSingleShot cmd n) := by
  unfold Endpoint.readSingleShot
  refine crosses_guarded <| crosses_exchange h fun received l' hreceived =>
    ⟨_, rfl, rfl, fun stage hstage hcmd => ?_⟩
  rw [Vector.toList_cast, Vector.toList_drop, List.getElem?_drop, hcmd]
  exact hreceived stage hstage

end Steps

/-- From the first link to the second nothing was transferred but to arm interrupts. -/
def Arming {σ : Type} (front : σ → FrontEnd) (l l' : Link (σ × List Signal)) : Prop :=
  ∃ ts, Passed front l l' ts ∧ ∀ t ∈ ts, Arms t.1

theorem Arming.exists_signals {σ : Type} {front : σ → FrontEnd} {l l' : Link (σ × List Signal)}
    (h : Arming front l l') : ∃ xs, l'.signals = l.signals ++ xs ∧
      ∀ t ∈ xs.filterMap Signal.transfer?, Arms t.1 := by
  obtain ⟨ts, hpassed, harms⟩ := h
  obtain ⟨us, ⟨xs, hxs, rfl⟩, rfl⟩ := hpassed.transferred
  exact ⟨xs, hxs, fun t ht => harms _ (List.mem_map_of_mem ht)⟩

/-- From the first link to the second these steps of a draw got through. -/
def Drawing {σ : Type} (front : σ → FrontEnd) (l : Link (σ × List Signal)) (done : List DrawStep)
    (l' : Link (σ × List Signal)) : Prop :=
  Passed front l l' (DrawStep.transfers (front l.world.1) done none)

/-- From the first link to the second a random number was drawn, or at least the steps `done` were
taken and `lost` was tried. -/
def Drawn {σ α : Type} (front : σ → FrontEnd) (l : Link (σ × List Signal)) (r : Except Fault α)
    (l' : Link (σ × List Signal)) : Prop :=
  ∃ done lost, done ++ lost.toList <+: DrawStep.all ∧ (r.isOk = true → done = DrawStep.all) ∧
    Passed front l l' (DrawStep.transfers (front l.world.1) done lost)

/-- A step that is taken next, and what follows it. -/
theorem ends_step_bind {σ α β : Type} {front : σ → FrontEnd} {l l₀ : Link (σ × List Signal)}
    (step : DrawStep) {done : List DrawStep} {fits : α → Prop}
    {x : Action (Link (σ × List Signal)) α} {f : α → Action (Link (σ × List Signal)) β}
    (hsteps : done ++ [step] <+: DrawStep.all) (hl : Drawing front l₀ done l)
    (hx : Crosses front (step.frame (front l₀.world.1)) fits l x)
    (hf : ∀ a l', fits a → Drawing front l₀ (done ++ [step]) l' →
      (f a).Ends l' (Drawn front l₀)) :
    (x >>= f).Ends l (Drawn front l₀) := by
  refine Action.ends_bind.mpr <| Action.Ends.mono hx fun
    | .ok a, l', ⟨hstep, hfits⟩ => hf a l' hfits ?_
    | .error e, l', hstep => ?_
  · have hpassed := hl.trans hstep
    simp only [DrawStep.transfers, Option.toList_none, List.map_nil, List.append_nil] at hpassed
    simpa [Drawing, DrawStep.transfers] using hpassed
  · obtain hstep | hstep := hstep
    · refine ⟨done, none, ?_, nofun, ?_⟩
      · rw [Option.toList_none, List.append_nil]
        exact (List.prefix_append ..).trans hsteps
      · simpa using hl.trans hstep
    · refine ⟨done, some step, hsteps, nofun, ?_⟩
      simpa [DrawStep.transfers] using hl.trans hstep

namespace Device

open Transceiver.Action

variable {σ : Type} {device : Device σ} {front : σ → FrontEnd} {l : Link (σ × List Signal)}
  (h : Stores device.wire front)
include h

theorem crosses_command (op : Opcode) (args : List UInt8) :
    Crosses front (op.byte :: args) (fun _ => True) l (device.recording.command op args) := by
  have hsend : Crosses front (op.byte :: args ++ []) _ l _ :=
    crosses_send device.bus h (op.byte :: args) []
  rwa [List.append_nil] at hsend

theorem crosses_reading (stage : Stage) :
    Crosses front stage.reading (fun value => value = front l.world.1 stage) l
      (device.recording.readByte stage.register) := by
  let cmd := Opcode.readRegister.byte :: BigEndian.bytes16 stage.register.address ++ [0]
  have hread : (device.bus.recording.readSingleShot cmd 1).Ends l _ :=
    crosses_readSingleShot device.bus h cmd 1
  refine ends_bind.mpr <| hread.mono fun
    | .error _, _, hl => hl
    | .ok answer, _, ⟨hl, hanswer⟩ => ⟨hl, ?_⟩
  have hvalue := hanswer stage rfl rfl
  rw [Vector.getElem?_toList] at hvalue
  exact Option.some.inj hvalue

/-- A draw goes through its steps, up to the one at which it fails. -/
theorem ends_readRandom :
    device.recording.readRandom.Ends l (Drawn front l) := by
  have write (stage : Stage) (value : UInt8) (l' : Link (σ × List Signal)) :
      Crosses front (stage.writing value) (fun _ => True) l'
        (device.recording.writeRegister stage.register [value]) :=
    crosses_send device.bus h _ [value]
  let cmd := Opcode.readRegister.byte :: BigEndian.bytes16 Register.randomNumber.address ++ [0]
  have draw (l' : Link (σ × List Signal)) : Crosses front (DrawStep.draw.frame (front l.world.1)) _
      l' (device.recording.readRegister .randomNumber 4) :=
    crosses_readSingleShot device.bus h cmd 4
  have start : Drawing front l [] l := .refl l
  -- What the registers are found to hold is what they hold before the draw.
  refine ends_step_bind (.read .amplifier) (by decide) start (crosses_reading h .amplifier) ?_
  rintro _ l₁ rfl hl
  refine ends_step_bind (.detach .amplifier) (by decide) hl (write ..) fun _ l₂ _ hl => ?_
  refine ends_step_bind (.read .mixer) (by decide) hl (crosses_reading h .mixer) ?_
  rintro mixer l₃ hmixer hl'
  obtain rfl : mixer = front l.world.1 .mixer := hmixer.trans (congrFun hl.front .mixer)
  refine ends_step_bind (.detach .mixer) (by decide) hl' (write ..) fun _ l₄ _ hl => ?_
  refine ends_step_bind .receive (by decide) hl (crosses_command h .setRx _) fun _ l₅ _ hl => ?_
  refine ends_step_bind .draw (by decide) hl (draw l₅) fun number l₆ _ hl => ?_
  refine ends_step_bind .rest (by decide) hl (crosses_command h .setStandby _) fun _ l₇ _ hl => ?_
  refine ends_step_bind (.attach .amplifier) (by decide) hl (write ..) fun _ l₈ _ hl => ?_
  refine ends_step_bind (.attach .mixer) (by decide) hl (write ..) fun _ l₉ _ hl => ?_
  exact ⟨_, none, List.prefix_refl _, fun _ => rfl, hl⟩

omit h in
theorem stops_command (device : Device σ) (op : Opcode) {args : List UInt8}
    (hargs : args.length + 1 ≤ maxTransfer) :
    (device.recording.command op args).Ends l (Stops device.bus l) :=
  stops_send device.bus hargs

omit h in
/-- A draw fails only where something fails on the bus. -/
theorem stops_readRandom (device : Device σ) :
    device.recording.readRandom.Ends l (Stops device.bus l) := by
  have read (r : Register) (n : Nat) (hn : 4 + n ≤ maxTransfer) (l : Link (σ × List Signal)) :
      (device.recording.readRegister r n).Ends l (Stops device.bus l) :=
    stops_readSingleShot device.bus hn
  have readByte (r : Register) (l : Link (σ × List Signal)) :
      (device.recording.readByte r).Ends l (Stops device.bus l) :=
    stops_bind (read r 1 (by decide) l) fun _ _ => ends_pure.mpr (stops_ok _ rfl)
  have write (r : Register) (value : UInt8) (l : Link (σ × List Signal)) :
      (device.recording.writeRegister r [value]).Ends l (Stops device.bus l) :=
    stops_send device.bus (show 3 + 1 ≤ maxTransfer by decide)
  refine stops_bind (readByte ..) fun lna _ => stops_bind (write ..) fun _ _ => ?_
  refine stops_bind (readByte ..) fun mixer _ => stops_bind (write ..) fun _ _ => ?_
  refine stops_bind (stops_command device .setRx (by decide)) fun _ _ => ?_
  refine stops_bind (read .randomNumber 4 (by decide) _) fun number _ => ?_
  refine stops_bind (stops_command device .setStandby (by decide)) fun _ _ => ?_
  refine stops_bind (write ..) fun _ _ => stops_bind (write ..) fun _ _ => ?_
  exact ends_pure.mpr (stops_ok _ rfl)

/-- The interrupts are armed by one transfer at most. -/
theorem ends_armInterrupts (mask : InterruptSet) :
    (device.recording.armInterrupts mask).Ends l fun _ l' => Arming front l l' := by
  refine Ends.mono (crosses_command h .setDioIrqParams _) fun
    | .ok _, l', ⟨hl, _⟩ => ⟨_, hl, List.forall_mem_singleton.mpr rfl⟩
    | .error _, l', hl => ?_
  obtain hl | hl := hl
  · exact ⟨_, hl, nofun⟩
  · exact ⟨_, hl, List.forall_mem_singleton.mpr rfl⟩

end Device

/-! ## The operation -/

/-- From the first link to the second nothing was transferred but to arm interrupts, and in between
to draw a random number: the steps `done` got through, and the transfer for `lost` failed. -/
structure Draws {σ : Type} (front : σ → FrontEnd) (l : Link (σ × List Signal))
    (done : List DrawStep) (lost : Option DrawStep) (l' : Link (σ × List Signal)) : Prop where
  steps : done ++ lost.toList <+: DrawStep.all
  passed : ∃ opening closing,
    Passed front l l' (opening ++ DrawStep.transfers (front l.world.1) done lost ++ closing) ∧
      ∀ t ∈ opening ++ closing, Arms t.1

theorem Draws.front {σ : Type} {front : σ → FrontEnd} {l l' : Link (σ × List Signal)}
    {done : List DrawStep} {lost : Option DrawStep} (h : Draws front l done lost l')
    (stage : Stage) : front l'.world.1 stage =
      if .detach stage ∈ done ∧ .attach stage ∉ done then
        stage.detached (front l.world.1 stage)
      else front l.world.1 stage := by
  obtain ⟨opening, closing, hpassed, harms⟩ := h.passed
  obtain ⟨hopening, hclosing⟩ := List.forall_mem_append.mp harms
  rw [hpassed.front, FrontEnd.afterAll_append, FrontEnd.afterAll_append,
    FrontEnd.afterAll_arming _ hclosing, FrontEnd.afterAll_arming _ hopening]
  exact FrontEnd.afterAll_transfers _ h.steps stage

end Transceiver.Sx126x

namespace Transceiver.Rig

open Bus Sx126x Station Transceiver.Action

variable {σ : Type} {device : Sx126x.Device σ} {host : Host σ} {config : Config}
  {front : σ → FrontEnd} {s : Station (Link (σ × List Signal))}

/-- A draw that ended early was refused in a scan, or something failed on the bus, and nothing was
transferred after that but to arm interrupts. -/
def CutShort (device : Sx126x.Device σ) (s s' : Station (Link (σ × List Signal))) : Prop :=
  s.radio.state = .scan ∨ ∃ more last rest,
    s'.world.signals = s.world.signals ++ (more ++ last) ++ rest ∧ device.bus.Fails last ∧
      ∀ t ∈ rest.filterMap Signal.transfer?, Arms t.1

theorem draws_random (h : Stores device.wire front) :
    ((Transceiver.Device.sx126x device).recordedRig host config).random.Ends s fun r s' =>
      ∃ done lost, Draws front s.world done lost s'.world ∧
        (r.isOk = true → done = DrawStep.all) ∧ (done ≠ DrawStep.all → CutShort device s s') := by
  let rig := (Transceiver.Device.sx126x device).recordedRig host config
  have arm (mask : InterruptSet) (s : Station (Link (σ × List Signal))) :
      (rig.tell (.armInterrupts mask)).Ends s fun r s' =>
        Arming front s.world s'.world ∧ Stops device.bus s.world r s'.world :=
    ends_tell.mpr ((Device.ends_armInterrupts h mask).and
      (Device.stops_command device .setDioIrqParams (show 8 + 1 ≤ maxTransfer by decide)))
  have draw (s : Station (Link (σ × List Signal))) :
      (rig.tell .readRandom).Ends s fun r s' =>
        Drawn front s.world r s'.world ∧ Stops device.bus s.world r s'.world :=
    ends_tell.mpr ((Device.ends_readRandom h).and (Device.stops_readRandom device))
  refine ends_bind.mpr <| ends_ensureNotScanning.mpr ?_
  split
  · rename_i hscan
    exact ⟨[], none, ⟨List.nil_prefix, [], [], .refl _, nofun⟩, nofun, fun _ => .inl hscan⟩
  refine ends_bind.mpr <| (arm ∅ s).mono fun
    | .error e, s₁, ⟨⟨opening, hopening, harms⟩, xs, hxs, hfails⟩ => ?_
    | .ok _, s₁, ⟨⟨opening, hopening, harms⟩, xs, hxs, _⟩ => ?_
  · refine ⟨[], none, ⟨List.nil_prefix, opening, [], ?_, ?_⟩, nofun, fun _ => .inr ?_⟩
    · simpa [DrawStep.transfers] using hopening
    · simpa using harms
    · obtain ⟨more, last, rfl, hlast⟩ := hfails rfl
      exact ⟨more, last, [], hxs.trans (List.append_nil _).symm, hlast, nofun⟩
  have hfront : front s₁.world.world.1 = front s.world.world.1 := by
    rw [hopening.front, FrontEnd.afterAll_arming _ harms]
  refine ends_bind.mpr <| ends_attempt.mpr <| ends_reporting.mpr <| (draw s₁).mono ?_
  rintro number s₂ ⟨⟨done, lost, hsteps, hwhole, hdrawn⟩, ys, hys, hfails⟩
  rw [hfront] at hdrawn
  refine ends_bind.mpr <| ends_bind.mpr <| ends_current.mpr <| (arm _ s₂).mono ?_
  rintro armed s₃ ⟨hrearmed, -⟩
  obtain ⟨rest, hrest, hrestarms⟩ := hrearmed.exists_signals
  obtain ⟨closing, hclosing, harms'⟩ := hrearmed
  have hdraws : Draws front s.world done lost s₃.world :=
    ⟨hsteps, opening, closing, (hopening.trans hdrawn).trans hclosing,
      List.forall_mem_append.mpr ⟨harms, harms'⟩⟩
  have hshort (hdone : done ≠ DrawStep.all) : CutShort device s s₃ := by
    have hfailed : number.isOk = false := Bool.eq_false_iff.mpr fun hok => hdone (hwhole hok)
    obtain ⟨more, last, rfl, hlast⟩ := hfails hfailed
    refine .inr ⟨xs ++ more, last, rest, ?_, hlast, hrestarms⟩
    rw [hrest, hys, hxs, List.append_assoc s.world.signals, List.append_assoc xs]
  cases armed with
  | error e => exact ⟨done, lost, hdraws, nofun, hshort⟩
  | ok =>
    refine ends_settle.mpr ⟨done, lost, hdraws, fun hok => hwhole ?_, hshort⟩
    cases number with
    | error e => cases hok
    | ok n => rfl

/-- **The front end after a random number is drawn**, with any failures on the way. A stage is as it
was before, exactly unless it was attached, the draw detached it, and did not attach it again. So it
is, or its own attaching was the transfer that failed, exactly unless in addition another transfer
or the wait for the chip ended the draw in between. Nothing else ends a draw, once it is begun. -/
theorem front_end_after_random (device : Sx126x.Device σ) (host : Host σ) (config : Config)
    {front : σ → FrontEnd} (h : Stores device.wire front)
    (s : Station (Link (σ × List Signal))) :
    let rig := (Transceiver.Device.sx126x device).recordedRig host config
    let found := front s.world.world.1
    let left := front (rig.step s .random).world.world.1
    ∃ done lost, Draws front s.world done lost (rig.step s .random).world ∧
      ((rig.turn s .random).Succeeds → done = DrawStep.all) ∧
      (done ≠ DrawStep.all → CutShort device s (rig.step s .random)) ∧
      ∀ stage,
        (left stage = found stage ↔
          ¬(found.Attaches stage ∧ .detach stage ∈ done ∧ .attach stage ∉ done)) ∧
        (left stage = found stage ∨ lost = some (.attach stage) ↔
          ¬(found.Attaches stage ∧ .detach stage ∈ done ∧ .attach stage ∉ done ∧
            lost ≠ some (.attach stage))) := by
  intro rig found left
  have hends : (rig.perform .random).Ends s _ := draws_random h
  obtain ⟨done, lost, hdraws, hwhole, hshort⟩ := hends
  rw [← step_eq_result] at hdraws hshort
  refine ⟨done, lost, hdraws, fun hsucceeds => hwhole (turn_outcome ▸ hsucceeds), hshort,
    fun stage => ?_⟩
  have hkept : left stage = found stage ↔
      ¬(found.Attaches stage ∧ .detach stage ∈ done ∧ .attach stage ∉ done) := by
    rw [show left stage = _ from hdraws.front stage, FrontEnd.Attaches]
    split
    · rename_i hdetached
      simp [found, hdetached]
    · rename_i hattached
      exact iff_of_true rfl fun h => hattached h.2
  refine ⟨hkept, ?_⟩
  rw [hkept]
  by_cases hlost : lost = some (.attach stage) <;> simp [hlost]

end Transceiver.Rig

namespace Transceiver.Bench

open Bus Sx126x

/-- What the register holds that is asked for, and zero if none is. -/
def asked (front : FrontEnd) (sent : List UInt8) : UInt8 :=
  if sent = Stage.amplifier.reading then front .amplifier
  else if sent = Stage.mixer.reading then front .mixer else 0

/-- Wires on which some transfers are lost, and the others reach a chip that stores what is
written. -/
def storing (lost : List UInt8 → Bool) : Wire FrontEnd where
  transfer sent front := if lost sent then (none, front) else
    (some (.ofFn fun i => if i.val = 4 then asked front sent else 0), front.after sent)
  hold _ front := (some (), front)
  busy front := (some false, front)
  interrupt front := (some false, front)
  awaitInterrupt front := (some (), front)
  drive _ _ front := (some (), front)
  delayMicros _ front := front
  delayMillis _ front := front

theorem stores_storing (lost : List UInt8 → Bool) : Stores (storing lost) id where
  lost sent front h := by
    simp only [storing] at h ⊢
    split at h
    · rw [if_pos ‹_›]
    · cases h
  stored sent front received h := by
    simp only [storing] at h ⊢
    split at h
    · cases h
    · rw [if_neg ‹_›]
      rfl
  answered stage front received h := by
    simp only [storing] at h
    split at h
    · cases h
    · cases h
      cases stage <;> rfl
  hold _ _ := rfl
  busy _ := rfl
  delayMicros _ _ := rfl

/-- A chip at the end of such wires. -/
def frontEnd (lost : List UInt8 → Bool) : Sx126x.Device FrontEnd where
  wire := storing lost
  board := ⟨false, false, false⟩
  config := { variant := .sx1262, tcxo := none, useDcdc := false, rxBoost := false }

/-- A rig with the chip. -/
def drawing (lost : List UInt8 → Bool) : Rig (Link (FrontEnd × List Signal)) :=
  (Device.sx126x (frontEnd lost)).recordedRig ⟨fun w => (0, w), fun _ w => w, fun _ w => w⟩
    (rig {}).config

end Transceiver.Bench

namespace Transceiver.Rig

open Bus Sx126x

/-- A draw on which nothing is lost. -/
theorem front_end_after_random_whole :
    let rig := Bench.drawing fun _ => false
    let s := rig.run ⟨{}, { world := (fun _ => 0xFF, []) }⟩ [.powerUp]
    (rig.turn s .random).Succeeds ∧
      ∀ stage, (rig.step s .random).world.world.1 stage = s.world.world.1 stage := by
  intro rig s
  have hsucceeds : (rig.turn s .random).Succeeds := by decide +kernel
  clear_value s
  obtain ⟨done, lost, -, hwhole, -, hstages⟩ :=
    front_end_after_random (Bench.frontEnd _) _ _ (Bench.stores_storing fun _ => false) s
  obtain rfl : done = DrawStep.all := hwhole hsucceeds
  refine ⟨hsucceeds, fun stage => (hstages stage).1.mpr fun ⟨_, _, hleft⟩ => hleft ?_⟩
  cases stage <;> decide

/-- One transfer is lost, the reading of the mixer's register, and the amplifier stays detached. -/
theorem amplifier_left_detached :
    let rig := Bench.drawing (· = Stage.mixer.reading)
    let s := rig.run ⟨{}, { world := (fun _ => 0xFF, []) }⟩ [.powerUp]
    let after := rig.step s .random
    s.radio.state = .standby ∧ ¬(rig.turn s .random).Succeeds ∧
      (after.world.signals.filterMap Signal.transfer?).filter (·.2.isNone) =
        [(Stage.mixer.reading, none)] ∧
      s.world.world.1 .amplifier = 0xFF ∧ after.world.world.1 .amplifier = 0xFE := by
  decide +kernel

end Transceiver.Rig
