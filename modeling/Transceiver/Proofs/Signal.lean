import Transceiver.Bus.Board
import Transceiver.Lr11xx.Encoding
import Transceiver.Proofs.Action
import Transceiver.Sx126x.Encoding

/-! What passes over the wires of a bus, and what it says about a chip that was put to sleep: the
chip sleeps until it is selected, reset, or sent something. The host's flag for sleep says the same
after each exchange with the chip. -/

namespace Transceiver.Bus

/-- What passes over the wires. A failure leaves no reading behind. -/
inductive Signal where
  | transfer (sent : List UInt8) (received : Option (List UInt8))
  /-- The chip is held selected for a number of nanoseconds. -/
  | hold (ns : UInt32) (done : Bool)
  /-- A sample of the busy line. -/
  | busy (level : Option Bool)
  /-- A sample of the interrupt line. -/
  | interrupt (level : Option Bool)
  /-- The end of a wait for the interrupt line. -/
  | awaited (done : Bool)
  | drive (line : Line) (high done : Bool)
  | delayMicros (us : UInt32)
  | delayMillis (ms : UInt32)
  deriving DecidableEq

/-- What happens in the outside world, with the signal it makes. -/
def noted {σ α : Type} (x : StateM σ (Option α)) (signal : Option α → Signal) :
    StateM (σ × List Signal) (Option α) := fun s =>
  let (r, w) := x s.1
  (r, w, s.2 ++ [signal r])

/-- The wires, with all that passes over them written to a list. -/
def Wire.recording {σ : Type} (wire : Wire σ) : Wire (σ × List Signal) where
  transfer sent := noted (wire.transfer sent) fun r => .transfer sent (r.map Vector.toList)
  hold ns := noted (wire.hold ns) fun r => .hold ns r.isSome
  busy := noted wire.busy .busy
  interrupt := noted wire.interrupt .interrupt
  awaitInterrupt := noted wire.awaitInterrupt fun r => .awaited r.isSome
  drive line high := noted (wire.drive line high) fun r => .drive line high r.isSome
  delayMicros us s := (wire.delayMicros us s.1, s.2 ++ [.delayMicros us])
  delayMillis ms s := (wire.delayMillis ms s.1, s.2 ++ [.delayMillis ms])

/-- The bus, with all that passes over its wires written to a list. -/
def Endpoint.recording {σ : Type} (bus : Endpoint σ) : Endpoint (σ × List Signal) :=
  ⟨bus.wire.recording, bus.handshake⟩

/-! ## Sleep on the wires -/

/-- The opcode of the command for sleep. -/
def Protocol.sleepOpcode : Protocol → UInt16
  | .singleShot => Sx126x.Opcode.setSleep.byte.toUInt16
  | .twoPhase => Lr11xx.Opcode.setSleep.word

/-- What starts with these bytes is not the command for sleep. -/
def Protocol.Plain (protocol : Protocol) (cmd : List UInt8) : Prop :=
  ∀ more, protocol.opcode (cmd ++ more) ≠ protocol.sleepOpcode

/-- What is sent for an answer to be read is no command. -/
theorem Protocol.opcode_zeros (protocol : Protocol) (n : Nat) :
    protocol.opcode (.replicate n 0) = 0 := by
  cases protocol <;> rcases n with _ | _ | n <;> rfl

theorem Protocol.opcode_zeros_ne_sleepOpcode (protocol : Protocol) (n : Nat) :
    protocol.opcode (.replicate n 0) ≠ protocol.sleepOpcode := by
  rw [protocol.opcode_zeros]
  cases protocol <;> decide

namespace Signal

/-- The command for sleep, transferred. -/
def sleeps (protocol : Protocol) : Signal → Bool
  | .transfer sent received => received.isSome && protocol.opcode sent == protocol.sleepOpcode
  | _ => false

/-- Whatever wakes a chip: a transfer, being selected, or the end of a reset pulse. -/
def rouses : Signal → Bool
  | .transfer _ received => received.isSome
  | .hold _ done => done
  | .drive .reset true done => done
  | _ => false

/-- What passes while the chip is waited for. -/
def polls : Signal → Bool
  | .busy _ | .delayMicros _ => true
  | _ => false

/-- A line of the antenna switch is driven, or that of the external amplifier. -/
def switches : Signal → Bool
  | .drive .reset .. => false
  | .drive .. => true
  | _ => false

/-- The signal drives no line of the antenna switch, and what it sends, if it is a transfer, is
quiet. -/
structure Hushed (quiet : List UInt8 → Prop) (x : Signal) : Prop where
  switches : x.switches = false
  sent : ∀ sent received, x = .transfer sent received → quiet sent

theorem Hushed.transfer {quiet : List UInt8 → Prop} {sent : List UInt8} (h : quiet sent)
    (received : Option (List UInt8)) : Hushed quiet (.transfer sent received) := by
  refine ⟨rfl, fun _ _ hx => ?_⟩
  cases hx
  exact h

theorem Hushed.of_polls {quiet : List UInt8 → Prop} {x : Signal} (h : x.polls = true) :
    Hushed quiet x := by
  cases x with
  | busy | delayMicros => exact ⟨rfl, nofun⟩
  | _ => cases h

/-- Whether the chip is asleep after a signal, if `asleep` says so of it before. -/
def leavesAsleep (protocol : Protocol) (asleep : Bool) (x : Signal) : Bool :=
  x.sleeps protocol || asleep && !x.rouses

end Signal

/-- After these signals the chip is asleep. -/
def asleep (protocol : Protocol) (xs : List Signal) : Bool :=
  xs.foldl (Signal.leavesAsleep protocol) false

section Asleep
variable {protocol : Protocol}

theorem asleep_concat (xs : List Signal) (x : Signal) :
    asleep protocol (xs ++ [x]) = (x.sleeps protocol || asleep protocol xs && !x.rouses) :=
  List.foldl_append

/-- Without another command for sleep, a chip stays asleep until it is roused. -/
theorem foldl_leavesAsleep {xs : List Signal} (h : ∀ x ∈ xs, x.sleeps protocol = false)
    (before : Bool) :
    xs.foldl (Signal.leavesAsleep protocol) before = (before && xs.all (!·.rouses)) := by
  induction xs generalizing before with
  | nil => simp
  | cons x xs ih =>
    rw [List.foldl_cons, ih fun y hy => h y (.tail x hy), Signal.leavesAsleep, h x (.head xs),
      Bool.false_or, List.all_cons, Bool.and_assoc]

/-- The second list of signals goes on from the first without another command for sleep. -/
def SleepFree (protocol : Protocol) (xs ys : List Signal) : Prop :=
  ∃ more, ys = xs ++ more ∧ ∀ y ∈ more, y.sleeps protocol = false

namespace SleepFree

variable {xs ys zs : List Signal}

theorem refl (xs : List Signal) : SleepFree protocol xs xs := ⟨[], by simp, by simp⟩

theorem trans (h : SleepFree protocol xs ys) (h' : SleepFree protocol ys zs) :
    SleepFree protocol xs zs := by
  obtain ⟨more, rfl, hmore⟩ := h
  obtain ⟨last, rfl, hlast⟩ := h'
  exact ⟨more ++ last, List.append_assoc .., List.forall_mem_append.mpr ⟨hmore, hlast⟩⟩

theorem concat (xs : List Signal) {x : Signal} (h : x.sleeps protocol = false) :
    SleepFree protocol xs (xs ++ [x]) := ⟨[x], rfl, by simpa using h⟩

end SleepFree

end Asleep

/-! ## The host's flag -/

namespace Link

variable {σ α : Type} {protocol : Protocol} {l l' l'' : Link (σ × List Signal)}

/-- The signals so far. -/
def signals (l : Link (σ × List Signal)) : List Signal := l.world.2

/-- The link after one more signal. -/
def noting (l : Link (σ × List Signal)) (w : σ) (x : Signal) : Link (σ × List Signal) :=
  { l with world := (w, l.signals ++ [x]) }

@[simp] theorem sleeping_noting (w : σ) (x : Signal) : (l.noting w x).sleeping = l.sleeping := rfl

@[simp] theorem signals_noting (w : σ) (x : Signal) : (l.noting w x).signals = l.signals ++ [x] :=
  rfl

/-- The flag says what the signals say. -/
def Honest (protocol : Protocol) (l : Link (σ × List Signal)) : Prop :=
  l.sleeping = asleep protocol l.signals

/-- The second link comes from the first by signals among which the chip is not put to sleep, and
its flag is no less honest. -/
structure Calm (protocol : Protocol) (l l' : Link (σ × List Signal)) : Prop where
  honest : l.Honest protocol → l'.Honest protocol
  roused : l.sleeping = false → l'.sleeping = false
  signals : SleepFree protocol l.signals l'.signals

namespace Calm

theorem refl (l : Link (σ × List Signal)) : l.Calm protocol l := ⟨id, id, .refl _⟩

theorem trans (h : l.Calm protocol l') (h' : l'.Calm protocol l'') : l.Calm protocol l'' :=
  ⟨h'.honest ∘ h.honest, h'.roused ∘ h.roused, h.signals.trans h'.signals⟩

theorem of_same (hsleeping : l'.sleeping = l.sleeping) (hsignals : l'.signals = l.signals) :
    l.Calm protocol l' where
  honest h := by rw [Honest, hsleeping, hsignals, h]
  roused h := hsleeping.trans h
  signals := hsignals ▸ .refl _

/-- A signal that is no command for sleep, and that wakes no chip which is taken to sleep. -/
theorem noting {w : σ} {x : Signal} (hsleeps : x.sleeps protocol = false)
    (hrouses : x.rouses = true → l.sleeping = false) : l.Calm protocol (l.noting w x) where
  honest h := by
    rw [Honest, sleeping_noting, signals_noting, asleep_concat, hsleeps, ← h]
    cases hr : x.rouses with
    | false => simp
    | true => simp [hrouses hr]
  roused := id
  signals := .concat _ hsleeps

theorem noting_quiet {w : σ} {x : Signal} (hsleeps : x.sleeps protocol = false)
    (hrouses : x.rouses = false) : l.Calm protocol (l.noting w x) :=
  .noting hsleeps fun h => absurd h (by simp [hrouses])

/-- A chip that was roused, and is noted as awake. -/
theorem of_awake (h : SleepFree protocol l.signals l'.signals) (hsleeping : l'.sleeping = false)
    (hasleep : asleep protocol l'.signals = false) : l.Calm protocol l' :=
  ⟨fun _ => hsleeping.trans hasleep.symm, fun _ => hsleeping, h⟩

end Calm

/-- Between the two links something got through that wakes the chip. -/
def Roused (l l' : Link (σ × List Signal)) : Prop :=
  ∃ more, l'.signals = l.signals ++ more ∧ ∃ y ∈ more, y.rouses = true

/-- An honest flag stays set as long as nothing gets through to the chip. -/
theorem Calm.sleeping_iff (h : l.Calm protocol l') (hhonest : l.Honest protocol) :
    l'.sleeping = true ↔ l.sleeping = true ∧ ¬l.Roused l' := by
  obtain ⟨more, hmore, hsleeps⟩ := h.signals
  have hroused : l.Roused l' ↔ ∃ y ∈ more, y.rouses = true := by
    refine ⟨?_, fun h => ⟨more, hmore, h⟩⟩
    rintro ⟨more', hmore', h⟩
    rwa [List.append_cancel_left (hmore'.symm.trans hmore)] at h
  have hlater : l'.sleeping = (l.sleeping && more.all (!·.rouses)) := by
    rw [h.honest hhonest, hhonest, hmore, asleep, List.foldl_append, foldl_leavesAsleep hsleeps]
    rfl
  rw [hlater, hroused]
  simp

/-- Something in the outside world ends as wanted if it does so with what comes of it there. -/
theorem ends_noted_of {f : Fault} {x : StateM σ (Option α)} {signal : Option α → Signal}
    {Q : Except Fault α → Link (σ × List Signal) → Prop}
    (hfails : (x l.world.1).1 = none → Q (.error f) (l.noting (x l.world.1).2 (signal none)))
    (hdone : ∀ a, (x l.world.1).1 = some a →
      Q (.ok a) (l.noting (x l.world.1).2 (signal (some a)))) :
    (outside f (noted x signal)).Ends l Q := by
  simp only [Action.Ends, Action.result, outside, Action.onPart, Action.ofOption, noted]
  rcases hx : x l.world.1 with ⟨_ | a, w⟩ <;> rw [hx] at hfails hdone
  · exact hfails rfl
  · exact hdone a rfl

/-- Something in the outside world ends as wanted if it does so whatever comes of it. -/
theorem ends_noted {f : Fault} {x : StateM σ (Option α)} {signal : Option α → Signal}
    {Q : Except Fault α → Link (σ × List Signal) → Prop}
    (hfails : ∀ w, Q (.error f) (l.noting w (signal none)))
    (hdone : ∀ a w, Q (.ok a) (l.noting w (signal (some a)))) :
    (outside f (noted x signal)).Ends l Q := ends_noted_of (fun _ => hfails _) fun a _ => hdone a _

/-- A signal that neither puts a chip to sleep nor wakes it. -/
theorem keeps_noted {l₀ : Link (σ × List Signal)} {f : Fault} {x : StateM σ (Option α)}
    {signal : Option α → Signal} (hsleeps : ∀ r, (signal r).sleeps protocol = false)
    (hrouses : ∀ r, (signal r).rouses = false) :
    (outside f (noted x signal)).Keeps (l₀.Calm protocol) := by
  have calm (l : Link (σ × List Signal)) (w : σ) (r : Option α) :
      l.Calm protocol (l.noting w (signal r)) :=
    .noting_quiet (hsleeps r) (hrouses r)
  exact fun l hl => ends_noted (fun w => hl.trans (calm l w _)) fun a w => hl.trans (calm l w _)

end Link

/-! ## The use of the bus -/

/-- What passes over the bus keeps `P`, where each command starts with bytes that fit. -/
structure Endpoint.Conveys {σ : Type} (bus : Endpoint σ) (fits : List UInt8 → Prop)
    (P : Link σ → Prop) : Prop where
  send : ∀ cmd data, fits cmd → (bus.send cmd data).Keeps P
  read : ∀ cmd n, fits cmd → (bus.read cmd n).Keeps P
  readDirect : ∀ n, (bus.readDirect n).Keeps P
  wake : bus.wake.Keeps P
  readInterruptLine : bus.readInterruptLine.Keeps P
  awaitInterrupt : bus.awaitInterrupt.Keeps P

/-- What passes over the bus keeps `P`, but for putting the chip to sleep and interrupting it. -/
structure Endpoint.Carries {σ : Type} (bus : Endpoint σ) (P : Link σ → Prop) : Prop where
  send : ∀ cmd data, bus.handshake.protocol.Plain cmd → (bus.send cmd data).Keeps P
  read : ∀ cmd n, bus.handshake.protocol.Plain cmd → (bus.read cmd n).Keeps P
  readDirect : ∀ n, (bus.readDirect n).Keeps P
  wake : bus.wake.Keeps P
  readInterruptLine : bus.readInterruptLine.Keeps P
  awaitInterrupt : bus.awaitInterrupt.Keeps P

theorem Endpoint.Carries.conveys {σ : Type} {bus : Endpoint σ} {P : Link σ → Prop}
    (h : bus.Carries P) : bus.Conveys bus.handshake.protocol.Plain P where
  send := h.send
  read := h.read
  readDirect := h.readDirect
  wake := h.wake
  readInterruptLine := h.readInterruptLine
  awaitInterrupt := h.awaitInterrupt

/-- What the bus is used for keeps `P`, but for putting the chip to sleep, resetting it and
interrupting it. -/
structure Endpoint.Preserves {σ : Type} (bus : Endpoint σ) (P : Link σ → Prop) : Prop
    extends bus.Carries P where
  drive : ∀ (board : Board) line high, line ≠ .reset → (board.drive bus line high).Keeps P

namespace Endpoint

open Transceiver.Action Link

variable {σ α : Type} {bus : Endpoint σ} {l₀ l : Link (σ × List Signal)} {protocol : Protocol}

theorem ends_delayMicros {us : UInt32}
    {Q : Except Fault Unit → Link (σ × List Signal) → Prop} :
    (bus.recording.delayMicros us).Ends l Q ↔
      Q (.ok ()) (l.noting (bus.wire.delayMicros us l.world.1) (.delayMicros us)) := .rfl

theorem ends_delayMillis {ms : UInt32}
    {Q : Except Fault Unit → Link (σ × List Signal) → Prop} :
    (bus.recording.delayMillis ms).Ends l Q ↔
      Q (.ok ()) (l.noting (bus.wire.delayMillis ms l.world.1) (.delayMillis ms)) := .rfl

theorem keeps_awaitReady (budget : Nat) :
    (bus.recording.awaitReady budget).Keeps (l₀.Calm protocol) := by
  induction budget with
  | zero => exact .throw _
  | succ budget ih =>
    refine .bind (keeps_noted (fun _ => rfl) fun _ => rfl) fun busy => ?_
    refine .ite (fun _ => .bind (fun l hl => ?_) fun _ => ih) fun _ => .pure _
    exact ends_delayMicros.mpr (hl.trans (.noting_quiet rfl rfl))

theorem keeps_ready : bus.recording.ready.Keeps (l₀.Calm protocol) := keeps_awaitReady _

/-- A step ended calmly, and left the chip awake if it succeeded. -/
def Serves (protocol : Protocol) (l : Link (σ × List Signal)) (r : Except Fault α)
    (l' : Link (σ × List Signal)) : Prop :=
  l.Calm protocol l' ∧ (r.isOk = true → l'.sleeping = false)

/-- A chip that is awake, after signals that were calm. -/
def AwakeSince (protocol : Protocol) (l l' : Link (σ × List Signal)) : Prop :=
  l.Calm protocol l' ∧ l'.sleeping = false

theorem keeps_awakeSince {x : Action (Link (σ × List Signal)) α}
    (hx : ∀ l₀, x.Keeps (Calm protocol l₀)) : x.Keeps (AwakeSince protocol l) := fun l' hl' =>
  (hx l' l' (.refl l')).mono fun _ _ h => ⟨hl'.1.trans h, h.roused hl'.2⟩

/-- What keeps a chip awake serves one that is awake. -/
theorem ends_serves {x : Action (Link (σ × List Signal)) α} {l' : Link (σ × List Signal)}
    (hx : x.Keeps (AwakeSince protocol l)) (h : AwakeSince protocol l l') :
    x.Ends l' (Serves protocol l) := (hx l' h).mono fun _ _ h => ⟨h.1, fun _ => h.2⟩

theorem ends_hold_of {ns : UInt32} {Q : Except Fault Unit → Link (σ × List Signal) → Prop}
    (hfails : (bus.wire.hold ns l.world.1).1 = none →
      Q (.error .io) (l.noting (bus.wire.hold ns l.world.1).2 (.hold ns false)))
    (hdone : (bus.wire.hold ns l.world.1).1 = some () →
      Q (.ok ()) (l.noting (bus.wire.hold ns l.world.1).2 (.hold ns true))) :
    (outside .io (bus.recording.wire.hold ns)).Ends l Q := by
  show (outside .io (noted (bus.wire.hold ns) fun r => .hold ns r.isSome)).Ends l Q
  exact ends_noted_of hfails fun _ => hdone

theorem ends_hold {ns : UInt32} {Q : Except Fault Unit → Link (σ × List Signal) → Prop}
    (hfails : ∀ w, Q (.error .io) (l.noting w (.hold ns false)))
    (hdone : ∀ w, Q (.ok ()) (l.noting w (.hold ns true))) :
    (outside .io (bus.recording.wire.hold ns)).Ends l Q :=
  ends_hold_of (fun _ => hfails _) fun _ => hdone _

/-- Waking the chip ends its sleep. -/
theorem ends_wake : bus.recording.wake.Ends l (Serves protocol l) := by
  refine ends_bind.mpr <| ends_hold (fun w => ⟨.noting_quiet rfl rfl, nofun⟩) fun w => ?_
  refine ends_bind.mpr <| ends_modify.mpr <| ends_serves (keeps_awakeSince fun _ => keeps_ready) ?_
  refine ⟨.of_awake (.concat _ rfl) rfl ?_, rfl⟩
  exact (asleep_concat ..).trans (by simp [Signal.sleeps, Signal.rouses])

theorem ends_prepare : bus.recording.prepare.Ends l (Serves protocol l) := by
  refine ends_bind.mpr <| ends_get.mpr <| ends_ite.mpr ?_
  split
  · exact ends_wake
  · rename_i hawake
    exact ends_serves (keeps_awakeSince fun _ => keeps_ready)
      ⟨.refl l, Bool.eq_false_iff.mpr hawake⟩

/-- What is done once the chip is ready, and keeps it awake. -/
theorem ends_prepare_bind {f : Unit → Action (Link (σ × List Signal)) α}
    (hf : (f ()).Keeps (AwakeSince protocol l)) :
    (bus.recording.prepare >>= f).Ends l (Serves protocol l) :=
  ends_bind.mpr <| ends_prepare.mono fun
    | .ok _, _, h => ends_serves hf ⟨h.1, h.2 rfl⟩
    | .error _, _, h => ⟨h.1, nofun⟩

theorem ends_exchange_of {sent : List UInt8}
    {Q : Except Fault (Vector UInt8 sent.length) → Link (σ × List Signal) → Prop}
    (hfails : (bus.wire.transfer sent l.world.1).1 = none → Q (.error .io)
      (l.noting (bus.wire.transfer sent l.world.1).2 (.transfer sent none)))
    (hdone : ∀ received, (bus.wire.transfer sent l.world.1).1 = some received → Q (.ok received)
      (l.noting (bus.wire.transfer sent l.world.1).2 (.transfer sent (some received.toList)))) :
    (bus.recording.exchange sent).Ends l Q := by
  show (outside .io (noted (bus.wire.transfer sent) fun r =>
    .transfer sent (r.map Vector.toList))).Ends l Q
  exact ends_noted_of hfails hdone

theorem ends_exchange {sent : List UInt8}
    {Q : Except Fault (Vector UInt8 sent.length) → Link (σ × List Signal) → Prop}
    (hfails : ∀ w, Q (.error .io) (l.noting w (.transfer sent none)))
    (hdone : ∀ received w, Q (.ok received) (l.noting w (.transfer sent (some received.toList)))) :
    (bus.recording.exchange sent).Ends l Q :=
  ends_exchange_of (fun _ => hfails _) fun received _ => hdone received _

/-- A transfer that is no command for sleep leaves a chip that is awake so. -/
theorem keeps_exchange {sent : List UInt8} (h : protocol.opcode sent ≠ protocol.sleepOpcode) :
    (bus.recording.exchange sent).Keeps (AwakeSince protocol l) := by
  intro l' hl'
  refine ends_exchange (fun w => ⟨hl'.1.trans (.noting_quiet rfl rfl), hl'.2⟩) fun received w => ?_
  exact ⟨hl'.1.trans (.noting (by simp [Signal.sleeps, h]) fun _ => hl'.2), hl'.2⟩

theorem keeps_record (cmd received : List UInt8) :
    (bus.recording.record cmd received).Keeps (AwakeSince protocol l) := fun _ hl' =>
  ⟨hl'.1.trans (.of_same rfl rfl), hl'.2⟩

theorem ends_send (bus : Endpoint σ) {cmd data : List UInt8}
    (h : protocol.opcode (cmd ++ data) ≠ protocol.sleepOpcode) :
    (bus.recording.send cmd data).Ends l (Serves protocol l) := by
  refine ends_ite.mpr ?_
  split
  · exact ⟨.refl l, nofun⟩
  · exact ends_prepare_bind ((keeps_exchange h).bind fun _ => keeps_record _ _)

theorem ends_readSingleShot {cmd : List UInt8} (n : Nat) (h : protocol.Plain cmd) :
    (bus.recording.readSingleShot cmd n).Ends l (Serves protocol l) := by
  refine ends_ite.mpr ?_
  split
  · exact ⟨.refl l, nofun⟩
  · refine ends_prepare_bind <| (keeps_exchange (h _)).bind fun _ => ?_
    exact (keeps_record _ _).bind fun _ => .pure _

theorem ends_readTwoPhase {cmd : List UInt8} (n : Nat) (h : protocol.Plain cmd) :
    (bus.recording.readTwoPhase cmd n).Ends l (Serves protocol l) := by
  have hcmd : protocol.opcode cmd ≠ protocol.sleepOpcode := by simpa using h []
  refine ends_ite.mpr ?_
  split
  · exact ⟨.refl l, nofun⟩
  · refine ends_prepare_bind <| (keeps_exchange hcmd).bind fun _ => ?_
    refine (keeps_record _ _).bind fun _ => (keeps_awakeSince fun _ => keeps_ready).bind fun _ => ?_
    exact (keeps_exchange (protocol.opcode_zeros_ne_sleepOpcode _)).bind fun _ => .pure _

theorem ends_read {cmd : List UInt8} (n : Nat) (h : protocol.Plain cmd) :
    (bus.recording.read cmd n).Ends l (Serves protocol l) := by
  unfold read
  split
  · exact ends_readSingleShot n h
  · exact ends_readTwoPhase n h

theorem ends_readDirect (n : Nat) :
    (bus.recording.readDirect n).Ends l (Serves protocol l) :=
  ends_prepare_bind <| (keeps_exchange (protocol.opcode_zeros_ne_sleepOpcode n)).bind fun _ => .pure _

theorem ends_drive {board : Board} {line : Line} {high : Bool}
    {Q : Except Fault Unit → Link (σ × List Signal) → Prop}
    (habsent : board.has line = false → Q (.ok ()) l)
    (hfails : ∀ f w, Q (.error f) (l.noting w (.drive line high false)))
    (hdone : ∀ w, Q (.ok ()) (l.noting w (.drive line high true))) :
    (board.drive bus.recording line high).Ends l Q := by
  refine ends_ite.mpr ?_
  split
  · show (outside (Board.faultOf line)
      (noted (bus.wire.drive line high) fun r => .drive line high r.isSome)).Ends l Q
    exact ends_noted (hfails _) fun _ => hdone
  · rename_i hhas
    exact habsent (Bool.eq_false_iff.mpr hhas)

/-- What the bus is used for leaves the flag honest. -/
theorem preserves_calm (bus : Endpoint σ) :
    bus.recording.Preserves (l₀.Calm bus.handshake.protocol) where
  send cmd data hplain l hl := (ends_send bus (hplain data)).mono fun _ _ h => hl.trans h.1
  read cmd n hplain l hl := (ends_read n hplain).mono fun _ _ h => hl.trans h.1
  readDirect n l hl := (ends_readDirect n).mono fun _ _ h => hl.trans h.1
  wake l hl := ends_wake.mono fun _ _ h => hl.trans h.1
  drive board line high hline l hl := by
    have calm (w : σ) (done : Bool) :
        l.Calm bus.handshake.protocol (l.noting w (.drive line high done)) :=
      .noting rfl fun h => by cases line <;> cases high <;> simp [Signal.rouses] at h hline
    exact ends_drive (fun _ => hl) (fun _ w => hl.trans (calm w _)) fun w => hl.trans (calm w _)
  readInterruptLine := keeps_noted (fun _ => rfl) fun _ => rfl
  awaitInterrupt := by
    show (outside .interruptLine
      (noted bus.wire.awaitInterrupt fun r => .awaited r.isSome)).Keeps _
    exact keeps_noted (fun _ => rfl) fun _ => rfl

/-! ## Sleep, reset and abort -/

/-- The command for sleep, if it gets through, leaves the chip asleep and noted so. -/
def Retires (protocol : Protocol) (l : Link (σ × List Signal)) (r : Except Fault α)
    (l' : Link (σ × List Signal)) : Prop :=
  match r with
  | .ok _ => l'.sleeping = true ∧ l'.Honest protocol
  | .error _ => l.Calm protocol l'

theorem ends_writeSleep (bus : Endpoint σ) {cmd : List UInt8}
    (h : protocol.opcode cmd = protocol.sleepOpcode) :
    (bus.recording.writeSleep cmd).Ends l (Retires protocol l) := by
  refine ends_bind.mpr <| ends_ite.mpr ?_
  split
  · exact .refl l
  refine ends_bind.mpr <| ends_prepare.mono fun
    | .error _, _, hl => hl.1
    | .ok _, l', hl => ?_
  refine ends_bind.mpr <| ends_exchange (fun w => hl.1.trans (.noting_quiet rfl rfl)) fun _ w => ?_
  refine ends_modify.mpr <| ends_modify.mpr ⟨rfl, Eq.symm ?_⟩
  exact (asleep_concat ..).trans (by simp [Signal.sleeps, h])

/-- A delay leaves the chip as it is. -/
theorem ends_writeSleep_delay (bus : Endpoint σ) {cmd : List UInt8} (ms : UInt32)
    (h : protocol.opcode cmd = protocol.sleepOpcode) :
    Ends (do bus.recording.writeSleep cmd; bus.recording.delayMillis ms) l
      (Retires protocol l) := by
  refine ends_bind.mpr <| (ends_writeSleep bus h).mono fun
    | .error _, _, hl => hl
    | .ok _, l', hl => ends_delayMillis.mpr ?_
  refine ⟨hl.1, ?_⟩
  exact (Calm.noting_quiet rfl rfl : l'.Calm protocol (l'.noting _ (.delayMillis ms))).honest hl.2

/-- A pulse on the reset line wakes the chip, though not in the host's notes. -/
theorem ends_reset (bus : Endpoint σ) (board : Board) :
    (board.reset bus.recording).Ends l fun r l' => match r with
      | .ok _ => asleep protocol l'.signals = false ∧ SleepFree protocol l.signals l'.signals
      | .error _ => l.Calm protocol l' := by
  have millis (l' : Link (σ × List Signal)) (w : σ) (ms : UInt32) :
      l'.Calm protocol (l'.noting w (.delayMillis ms)) := .noting_quiet rfl rfl
  have drive (l' : Link (σ × List Signal)) (w : σ) (high : Bool) (done : Bool)
      (h : (high && done) = false) : l'.Calm protocol (l'.noting w (.drive .reset high done)) :=
    .noting rfl fun hr => by cases high <;> simp_all [Signal.rouses]
  refine ends_bind.mpr <| ends_delayMillis.mpr ?_
  refine ends_bind.mpr <| ends_drive nofun (fun _ w => ?_) fun w => ?_
  · exact (millis ..).trans (drive _ _ _ _ rfl)
  refine ends_bind.mpr <| ends_delayMillis.mpr ?_
  refine ends_bind.mpr <| ends_drive nofun (fun _ w => ?_) fun w => ?_
  · exact (millis ..).trans ((drive _ _ _ _ rfl).trans ((millis ..).trans (drive _ _ _ _ rfl)))
  refine ends_delayMillis.mpr ⟨?_, ?_⟩
  · rw [signals_noting, asleep_concat, signals_noting, asleep_concat]
    simp [Signal.sleeps, Signal.rouses]
  · exact (SleepFree.concat _ rfl).trans <| (SleepFree.concat _ rfl).trans <|
      (SleepFree.concat _ rfl).trans <| (SleepFree.concat _ rfl).trans (.concat _ rfl)

/-- A chip that a pulse on the reset line woke is noted as awake. -/
theorem ends_afterReset (bus : Endpoint σ) {l' : Link (σ × List Signal)}
    (hasleep : asleep protocol l'.signals = false)
    (hsignals : SleepFree protocol l.signals l'.signals) :
    Ends (do afterReset; bus.recording.ready) l' (Serves protocol l) := by
  refine ends_bind.mpr <| ends_modify.mpr <| ends_serves (keeps_awakeSince fun _ => keeps_ready) ?_
  exact ⟨.of_awake hsignals rfl hasleep, rfl⟩

/-- An abort does not wake the chip, so it takes a chip that is awake. -/
theorem keeps_abort (bus : Endpoint σ) :
    bus.recording.abort.Keeps (AwakeSince protocol l) := by
  refine (keeps_exchange (protocol.opcode_zeros_ne_sleepOpcode 4)).discard.bind fun _ => ?_
  refine (keeps_awakeSince fun _ => keeps_awaitReady _).bind fun _ => ?_
  exact fun _ hl' => ⟨hl'.1.trans (.of_same rfl rfl), hl'.2⟩

/-! ## Waiting and waking -/

section Waits
variable {P : Link (σ × List Signal) → Prop}
  (hbusy : ∀ l, P l →
    P (l.noting (bus.wire.busy l.world.1).2 (.busy (bus.wire.busy l.world.1).1)))
  (hdelay : ∀ l us, P l → P (l.noting (bus.wire.delayMicros us l.world.1) (.delayMicros us)))
include hbusy hdelay

/-- A wait keeps what its samples and its delays keep. -/
theorem waits_awaitReady (budget : Nat) : (bus.recording.awaitReady budget).Keeps P := by
  induction budget with
  | zero => exact .throw _
  | succ budget ih =>
    refine .bind (fun l hl => ends_noted_of (fun hr => ?_) fun level hr => ?_) fun busy =>
      .ite (fun _ => ?_) fun _ => .pure _
    · exact hr ▸ hbusy l hl
    · exact hr ▸ hbusy l hl
    · exact .bind (fun l hl => ends_delayMicros.mpr (hdelay l _ hl)) fun _ => ih

/-- Selecting the chip ends its sleep, if that succeeds. -/
theorem waits_wake (hhold : ∀ ns, P { l.noting (bus.wire.hold ns l.world.1).2
      (.hold ns (bus.wire.hold ns l.world.1).1.isSome) with
        sleeping := !(bus.wire.hold ns l.world.1).1.isSome && l.sleeping }) :
    bus.recording.wake.Ends l fun _ => P := by
  have hheld := hhold (nanos bus.recording.handshake.wakeSettle)
  refine ends_bind.mpr <| ends_hold_of (fun hr => ?_) fun hr => ?_ <;> rw [hr] at hheld
  · exact hheld
  · exact ends_bind.mpr <| ends_modify.mpr <| waits_awaitReady hbusy hdelay _ _ hheld

theorem waits_prepare (hhold : ∀ l ns, l.sleeping = true → P l →
      P { l.noting (bus.wire.hold ns l.world.1).2
        (.hold ns (bus.wire.hold ns l.world.1).1.isSome) with
          sleeping := !(bus.wire.hold ns l.world.1).1.isSome && l.sleeping }) :
    bus.recording.prepare.Keeps P := by
  refine fun l hl => ends_bind.mpr <| ends_get.mpr <| ends_ite.mpr ?_
  split
  · rename_i hsleeping
    exact waits_wake hbusy hdelay fun ns => hhold l ns hsleeping hl
  · exact waits_awaitReady hbusy hdelay _ l hl

end Waits

section Polls
variable {P : Link (σ × List Signal) → Prop}
  (h : ∀ l w x, x.polls = true → P l → P (l.noting w x))
include h

/-- A wait keeps what the signals of a wait keep. -/
theorem polls_awaitReady (budget : Nat) : (bus.recording.awaitReady budget).Keeps P :=
  waits_awaitReady (fun l => h l _ _ rfl) (fun l _ => h l _ _ rfl) budget

theorem polls_wake
    (hhold : ∀ w ns done, P { l.noting w (.hold ns done) with sleeping := !done && l.sleeping }) :
    bus.recording.wake.Ends l fun _ => P :=
  waits_wake (fun l => h l _ _ rfl) (fun l _ => h l _ _ rfl) fun ns => hhold _ ns _

theorem polls_prepare (hhold : ∀ l w ns done, l.sleeping = true → P l →
      P { l.noting w (.hold ns done) with sleeping := !done && l.sleeping }) :
    bus.recording.prepare.Keeps P :=
  waits_prepare (fun l => h l _ _ rfl) (fun l _ => h l _ _ rfl) fun l ns => hhold l _ ns _

end Polls

/-! ## Signals that are quiet -/

section Hushed
variable {P : List Signal → Prop} {quiet : List UInt8 → Prop}
  (h : ∀ xs x, x.Hushed quiet → P xs → P (xs ++ [x]))
include h

/-- A signal from one of the other lines. -/
theorem hushed_noted {f : Fault} {x : StateM σ (Option α)} {signal : Option α → Signal}
    (hsignal : ∀ r, (signal r).Hushed quiet) :
    (outside f (noted x signal)).Keeps (P ·.signals) := fun _ hl =>
  ends_noted (fun _ => h _ _ (hsignal _) hl) fun _ _ => h _ _ (hsignal _) hl

theorem hushed_exchange {sent : List UInt8} (hsent : quiet sent) :
    (bus.recording.exchange sent).Keeps (P ·.signals) := fun _ hl =>
  ends_exchange (fun _ => h _ _ (.transfer hsent _) hl) fun _ _ => h _ _ (.transfer hsent _) hl

/-- A signal of a wait. -/
theorem hushed_polls (l : Link (σ × List Signal)) (w : σ) (x : Signal) (hx : x.polls = true)
    (hl : P l.signals) : P (l.noting w x).signals :=
  h _ _ (.of_polls hx) hl

theorem hushed_awaitReady (budget : Nat) :
    (bus.recording.awaitReady budget).Keeps (P ·.signals) :=
  polls_awaitReady (P := (P ·.signals)) (hushed_polls h) budget

theorem hushed_wake : bus.recording.wake.Keeps (P ·.signals) :=
  fun _ hl => polls_wake (P := (P ·.signals)) (hushed_polls h) fun _ _ _ =>
    h _ _ ⟨rfl, nofun⟩ hl

theorem hushed_prepare : bus.recording.prepare.Keeps (P ·.signals) :=
  polls_prepare (P := (P ·.signals)) (hushed_polls h) fun _ _ _ _ _ hl => h _ _ ⟨rfl, nofun⟩ hl

omit h in
theorem bears_record (cmd received : List UInt8) :
    (bus.recording.record cmd received).Keeps (P ·.signals) := fun _ hl => hl

theorem hushed_send {cmd data : List UInt8} (hsent : quiet (cmd ++ data)) :
    (bus.recording.send cmd data).Keeps (P ·.signals) := by
  unfold send
  refine .optionally (fun _ => .throw _) <| (hushed_prepare h).bind fun _ => ?_
  exact (hushed_exchange h hsent).bind fun _ => bears_record _ _

theorem hushed_writeSleep {cmd : List UInt8} (hsent : quiet (cmd ++ [])) :
    (bus.recording.writeSleep cmd).Keeps (P ·.signals) :=
  (hushed_send h hsent).bind fun _ _ hl => hl

theorem hushed_delayMillis (ms : UInt32) : (bus.recording.delayMillis ms).Keeps (P ·.signals) :=
  fun _ hl => ends_delayMillis.mpr (h _ _ ⟨rfl, nofun⟩ hl)

theorem hushed_reset (board : Board) : (board.reset bus.recording).Keeps (P ·.signals) := by
  have drive (high : Bool) : (board.drive bus.recording .reset high).Keeps (P ·.signals) :=
    fun _ hl => ends_drive (fun _ => hl) (fun _ _ => h _ _ ⟨rfl, nofun⟩ hl) fun _ =>
      h _ _ ⟨rfl, nofun⟩ hl
  refine (hushed_delayMillis h _).bind fun _ => (drive false).bind fun _ => ?_
  refine (hushed_delayMillis h _).bind fun _ => (drive true).bind fun _ => hushed_delayMillis h _

section Zeros
variable (hzeros : ∀ n, quiet (.replicate n 0))
include hzeros

theorem hushed_read {cmd : List UInt8} (n : Nat) (hcmd : ∀ more, quiet (cmd ++ more)) :
    (bus.recording.read cmd n).Keeps (P ·.signals) := by
  unfold read
  split
  · unfold readSingleShot
    refine .optionally (fun _ => .throw _) <| (hushed_prepare h).bind fun _ => ?_
    exact (hushed_exchange h (hcmd _)).bind fun _ => (bears_record _ _).bind fun _ => .pure _
  · unfold readTwoPhase
    have halone : quiet cmd := by simpa using hcmd []
    refine .optionally (fun _ => .throw _) <| (hushed_prepare h).bind fun _ => ?_
    refine (hushed_exchange h halone).bind fun _ => (bears_record _ _).bind fun _ => ?_
    exact (hushed_awaitReady h _).bind fun _ => (hushed_exchange h (hzeros _)).bind fun _ => .pure _

theorem hushed_readDirect (n : Nat) : (bus.recording.readDirect n).Keeps (P ·.signals) :=
  (hushed_prepare h).bind fun _ => (hushed_exchange h (hzeros n)).bind fun _ => .pure _

theorem hushed_abort : bus.recording.abort.Keeps (P ·.signals) :=
  (hushed_exchange h (hzeros 4)).discard.bind fun _ => (hushed_awaitReady h _).bind fun _ _ hl => hl

/-- What passes over the bus is quiet if the commands are, however they go on. -/
theorem conveys_signals (bus : Endpoint σ) :
    bus.recording.Conveys (fun cmd => ∀ more, quiet (cmd ++ more)) (P ·.signals) where
  send cmd data hcmd := hushed_send h (hcmd data)
  read cmd n hcmd := hushed_read h hzeros n hcmd
  readDirect := hushed_readDirect h hzeros
  wake := hushed_wake h
  readInterruptLine := hushed_noted h fun _ => ⟨rfl, nofun⟩
  awaitInterrupt := by
    show (outside .interruptLine
      (noted bus.wire.awaitInterrupt fun r => .awaited r.isSome)).Keeps _
    exact hushed_noted h fun _ => ⟨rfl, nofun⟩

end Zeros

end Hushed

/-! ## Lines left alone -/

section Bears
variable {P : List Signal → Prop} (h : ∀ xs x, x.switches = false → P xs → P (xs ++ [x]))
include h

theorem bears_exchange (sent : List UInt8) :
    (bus.recording.exchange sent).Keeps (P ·.signals) := by
  have hushed (xs : List Signal) (x : Signal) (hx : x.Hushed fun _ => True) :
      P xs → P (xs ++ [x]) := h xs x hx.switches
  exact hushed_exchange hushed trivial

theorem bears_awaitReady (budget : Nat) :
    (bus.recording.awaitReady budget).Keeps (P ·.signals) := by
  have hushed (xs : List Signal) (x : Signal) (hx : x.Hushed fun _ => True) :
      P xs → P (xs ++ [x]) := h xs x hx.switches
  exact hushed_awaitReady hushed budget

end Bears

end Endpoint

end Transceiver.Bus
