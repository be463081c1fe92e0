import Transceiver.Proofs.Transfer

/-! The commands on the wires that bring the chip to a state. An operation that leaves the state on
record alone sends none of them, with one exception: the SX126x draws a random number from the noise
of its receiver, and goes to standby after it, whatever the state on record is. -/

namespace Transceiver

/-- The opcodes of the SX126x family that bring the chip to a state. -/
def Sx126x.modes : List (Opcode × RadioState) :=
  [(.setStandby, .standby), (.setSleep, .sleep), (.setRx, .rx), (.setTx, .tx),
    (.setTxContinuousWave, .tx), (.setRxDutyCycle, .rxDutyCycle), (.setCad, .cad)]

/-- The opcodes of the LR11xx family that do. -/
def Lr11xx.modes : List (Opcode × RadioState) :=
  [(.setStandby, .standby), (.setSleep, .sleep), (.setRx, .rx), (.setTx, .tx), (.setTxCarrier, .tx),
    (.setRxDutyCycle, .rxDutyCycle), (.setCad, .cad)]

namespace Bus

def Protocol.modes : Protocol → List (UInt16 × RadioState)
  | .singleShot => Sx126x.modes.map fun mode => (mode.1.byte.toUInt16, mode.2)
  | .twoPhase => Lr11xx.modes.map fun mode => (mode.1.word, mode.2)

/-- The state that the chip is brought to by what was sent. -/
def Protocol.mode? (protocol : Protocol) (sent : List UInt8) : Option RadioState :=
  protocol.modes.lookup (protocol.opcode sent)

/-- The states that the chip was sent to so far. -/
def Link.modes {σ : Type} (protocol : Protocol) (l : Link (σ × List Signal)) : List RadioState :=
  l.sent.filterMap protocol.mode?

end Bus

open Bus

theorem Sx126x.fits_no_mode {op : Opcode} (h : op ∉ modes.map Prod.fst) :
    op.Fits (Protocol.singleShot.mode? · = none) := by
  intro args
  show Protocol.singleShot.modes.lookup op.byte.toUInt16 = none
  cases op <;> first | rfl | simp [modes] at h

theorem Lr11xx.fits_no_mode {op : Opcode} (h : op ∉ modes.map Prod.fst) :
    op.Fits (Protocol.twoPhase.mode? · = none) := by
  intro args
  show Protocol.twoPhase.modes.lookup
    (BigEndian.word16 (op.word >>> 8).toUInt8 op.word.toUInt8) = none
  cases op <;> first | rfl | simp [modes] at h

theorem Bus.Protocol.mode?_zeros (protocol : Protocol) (n : Nat) :
    protocol.mode? (.replicate n 0) = none := by
  rw [Protocol.mode?, Protocol.opcode_zeros]
  cases protocol <;> rfl

/-- The command is made of no opcode that brings the chip to a state, leaving aside how the SX126x
draws a random number. -/
def Command.IsStill (c : Command) : Prop := c.topic ≠ .mode ∧ c.topic ≠ .sleep ∧ c ≠ .setUp

/-- The operations that leave the state on record alone while they use the chip. -/
def Operation.keepsState : Operation → Bool
  | .rssi | .random | .setTxPayload _ | .setModem _ | .setCadParams _ | .setLoraModulation _
  | .setLoraPacket _ | .setLoraSyncWord _ | .setLoraSymbolTimeout _ | .setFskModulation _
  | .setFskPacket _ | .setFskSyncWord _ => true
  | _ => false

namespace Sx126x.Device

variable {σ : Type}

/-- The SX126x receives to draw a random number, and is in standby afterwards. -/
theorem adds_readRandom (device : Device σ) :
    Adds Protocol.singleShot.mode? [.rx, .standby] device.recording.readRandom := by
  -- All but two of the steps read and write registers, which brings the chip to no state.
  have conveys (ys : List RadioState) : device.recording.bus.Conveys
      (fun cmd => ∀ more, Protocol.singleShot.mode? (cmd ++ more) = none)
      fun l => l.sent.filterMap Protocol.singleShot.mode? = ys :=
    Endpoint.conveys_signals (hushed_read_sent ys) Protocol.singleShot.mode?_zeros device.bus
  have fits {op : Opcode} (h : op.Fits (Protocol.singleShot.mode? · = none)) :
      op.Fits fun cmd => ∀ more, Protocol.singleShot.mode? (cmd ++ more) = none :=
    fun args more => h (args ++ more)
  have read : Opcode.readRegister.Fits fun cmd =>
      ∀ more, Protocol.singleShot.mode? (cmd ++ more) = none := fits (fits_no_mode (by decide))
  have write : Opcode.writeRegister.Fits fun cmd =>
      ∀ more, Protocol.singleShot.mode? (cmd ++ more) = none := fits (fits_no_mode (by decide))
  have readByte (r : Register) : Adds Protocol.singleShot.mode? [] (device.recording.readByte r) :=
    .of_keeps fun ys => keeps_readByte (conveys ys) read r
  have writeRegister (r : Register) (data : List UInt8) :
      Adds Protocol.singleShot.mode? [] (device.recording.writeRegister r data) :=
    .of_keeps fun ys => keeps_writeRegister (conveys ys) write r data
  have number : Adds Protocol.singleShot.mode? []
      (device.recording.readRegister .randomNumber 4) :=
    .of_keeps fun ys => keeps_readRegister (conveys ys) read _ _
  have receive : Adds Protocol.singleShot.mode? [.rx]
      (device.recording.command .setRx (BigEndian.bytes24 Ticks.continuous)) :=
    .send device.bus (Opcode.setRx.byte :: BigEndian.bytes24 Ticks.continuous) []
  have standby : Adds Protocol.singleShot.mode? [.standby] (device.recording.setStandby false) :=
    .send device.bus [Opcode.setStandby.byte, 0] []
  have restore (lna mixer : UInt8) (n : UInt32) : Adds Protocol.singleShot.mode? [.standby] (do
      device.recording.setStandby false
      device.recording.writeRegister .analogLna [lna]
      device.recording.writeRegister .analogMixer [mixer]
      return n) :=
    standby.bind fun _ => (writeRegister _ _).bind fun _ => (writeRegister _ _).bind fun _ => .pure _
  refine (readByte _).bind fun _ => (writeRegister _ _).bind fun _ => (readByte _).bind fun _ => ?_
  refine (writeRegister _ _).bind fun _ => ?_
  exact receive.bind fun _ => number.bind fun _ => restore _ _ _

end Sx126x.Device

namespace Device

variable {σ : Type}

theorem hushes_still (device : Device σ) {c : Command} (hc : c.IsStill)
    (hdraw : device.protocol = .singleShot → c ≠ .readRandom) :
    device.Hushes (device.protocol.mode? · = none) c := by
  obtain ⟨hmode, hsleep, hsetUp⟩ := hc
  -- Command by command: what is not about the mode is made of other opcodes.
  cases device with
  | sx126x device =>
    have hrandom : c ≠ .readRandom := hdraw rfl
    refine fun op hop => Sx126x.fits_no_mode ?_
    cases c <;> first | exact absurd rfl hmode | exact absurd rfl hsleep |
      exact absurd rfl hsetUp | exact absurd rfl hrandom | (revert op; simp [Sx126x.opcodes, Sx126x.modes])
  | lr11xx device =>
    refine fun op hop => Lr11xx.fits_no_mode ?_
    cases c <;> first | exact absurd rfl hmode | exact absurd rfl hsleep |
      exact absurd rfl hsetUp | (revert op; simp [Lr11xx.opcodes, Lr11xx.modes])

/-- The operation draws a number from the noise of the receiver. -/
def DrawsNoise (device : Device σ) (op : Operation) : Prop :=
  device.protocol = .singleShot ∧ op = .random

instance (device : Device σ) (op : Operation) : Decidable (device.DrawsNoise op) :=
  inferInstanceAs (Decidable (_ ∧ _))

/-- The states that an exchange of an operation sends the chip to, which leaves the state on record
alone. -/
def passes (device : Device σ) : Exchange → List RadioState
  | .command .readRandom (.ok _) => if device.protocol = .singleShot then [.rx, .standby] else []
  | _ => []

theorem adds_readRandom (device : Device σ) : Adds device.protocol.mode?
    (if device.protocol = .singleShot then [.rx, .standby] else [])
    (device.recording.chip.perform .readRandom) := by
  cases device with
  | sx126x device => exact device.adds_readRandom
  | lr11xx device =>
    have hstill : Command.readRandom.IsStill := ⟨nofun, nofun, nofun⟩
    exact .of_keeps fun ys =>
      keeps_sent Protocol.twoPhase.mode?_zeros (hushes_still (.lr11xx device) hstill nofun) ys

end Device

namespace Rig

open Station Transceiver.Action

variable {σ : Type} {rig : Rig σ}

theorem recorded_still {op : Operation} (hkeeps : op.keepsState) (hop : op ≠ .random) :
    Recorded rig (fun c => c.IsStill ∧ c ≠ .readRandom) op.parts (rig.recording.perform op)
      (rig.perform op) := by
  cases op with
  | random => exact absurd rfl hop
  | rssi => exact recorded_rssi (by simp [Command.IsStill])
  | setTxPayload | setModem | setCadParams | setLoraModulation | setLoraPacket | setLoraSyncWord
  | setLoraSymbolTimeout | setFskModulation | setFskPacket | setFskSyncWord =>
    refine (recorded_perform _).mono (fun c hc => ?_) fun _ => id
    cases c <;> simp [Operation.Gives, Operation.topics, Command.IsStill] at hc ⊢
  | _ => cases hkeeps

theorem ends_random {s : Station (σ × List Exchange)} :
    rig.recording.random.Ends s fun r s' => r.isOk = true → ∃ n, s'.log = s.log ++
      [.command (.armInterrupts ∅) (.ok ()), .command .readRandom (.ok n),
        .command (.armInterrupts s.radio.mask) (.ok ())] := by
  refine ends_bind.mpr <| ends_ensureNotScanning.mpr ?_
  split
  · exact nofun
  refine ends_tell_bind (fun _ _ => nofun) fun _ w => ends_bind.mpr <| ends_attempt.mpr <|
    ends_reporting.mpr <| ends_recording_tell fun number w => ?_
  refine ends_bind.mpr <| ends_bind.mpr <| ends_current.mpr <| ends_recording_tell fun armed w => ?_
  cases armed with
  | error e => exact nofun
  | ok _ =>
    refine ends_settle.mpr ?_
    cases number with
    | error e => exact nofun
    | ok n => exact fun _ => ⟨n, by simp [log]⟩

theorem turn_random {s : Station σ} (h : (rig.turn s .random).Succeeds) :
    ∃ n, (rig.turn s .random).exchanges = [.command (.armInterrupts ∅) (.ok ()),
      .command .readRandom (.ok n), .command (.armInterrupts s.radio.mask) (.ok ())] := by
  have hends : rig.recording.random.Ends s.recorded fun r s' => r.isOk = true → ∃ n, s'.log =
      s.recorded.log ++ [.command (.armInterrupts ∅) (.ok ()), .command .readRandom (.ok n),
        .command (.armInterrupts s.recorded.radio.mask) (.ok ())] := ends_random
  exact hends h

/-- An operation that leaves the state on record alone, and succeeds, gives no command for a state,
and reads random numbers that the chip has. -/
theorem still_turn {s : Station σ} {op : Operation} (hkeeps : op.keepsState)
    (hsucceeds : (rig.turn s op).Succeeds) {c : Command} {r : Except Fault c.Reply}
    (h : .command c r ∈ (rig.turn s op).exchanges) :
    c.IsStill ∧ (c = .readRandom → op = .random ∧ r.isOk = true) := by
  by_cases hop : op = .random
  case neg =>
    obtain ⟨hstill, hother⟩ := (turn_within_of (recorded_still hkeeps hop)).1 _ h
    exact ⟨hstill, fun hc => absurd hc hother⟩
  subst hop
  obtain ⟨n, hexchanges⟩ := turn_random hsucceeds
  rw [hexchanges] at h
  simp only [List.mem_cons, List.not_mem_nil, or_false] at h
  rcases h with h | h | h <;> cases h <;> exact ⟨⟨nofun, nofun, nofun⟩, fun _ => ⟨rfl, rfl⟩⟩

end Rig

namespace Device

variable {σ : Type} (device : Device σ) {host : Host σ} {config : Config}
  {s : Station (Link (σ × List Signal))} {op : Operation}

theorem modes_turn (hkeeps : op.keepsState)
    (hsucceeds : ((device.recordedRig host config).turn s op).Succeeds) :
    ((device.recordedRig host config).step s op).world.modes device.protocol =
      s.world.modes device.protocol ++
        ((device.recordedRig host config).turn s op).exchanges.flatMap device.passes := by
  refine Rig.turn_leads.accumulates fun x hx _ _ hmoves => ?_
  refine adds_of_moves device.protocol.mode?_zeros device.passes (fun hx => ?_)
    (fun c r hcommand => ?_) hmoves
  · cases x with
    | command c r => cases hx
    | _ => rfl
  subst hcommand
  obtain ⟨hstill, hread⟩ := Rig.still_turn hkeeps hsucceeds hx
  by_cases hc : c = .readRandom
  case neg => exact .inl ⟨device.hushes_still hstill fun _ => hc, by simp [passes, hc]⟩
  subst hc
  cases r with
  | error e => cases (hread rfl).2
  | ok n => exact .inr ⟨rfl, device.adds_readRandom⟩

theorem passes_turn (hkeeps : op.keepsState)
    (hsucceeds : ((device.recordedRig host config).turn s op).Succeeds) :
    ((device.recordedRig host config).turn s op).exchanges.flatMap device.passes =
      if device.DrawsNoise op then [.rx, .standby] else [] := by
  by_cases hop : op = .random
  · subst hop
    obtain ⟨n, hexchanges⟩ := Rig.turn_random hsucceeds
    rw [hexchanges]
    simp [passes, DrawsNoise]
  · refine (List.flatMap_eq_nil_iff.mpr fun x hx => ?_).trans (if_neg fun h => hop h.2).symm
    cases x with
    | command c r =>
      have hc : c ≠ .readRandom := fun hc => hop ((Rig.still_turn hkeeps hsucceeds hx).2 hc).1
      simp [passes, hc]
    | _ => rfl

/-- An operation that leaves the state on record alone, and succeeds, sends the chip to no state
but that on record, exactly if the chip does not draw a random number from noise. It leaves the
chip in another state exactly if it draws one, and the state on record is not standby. -/
theorem sent_to_state_iff (hkeeps : op.keepsState)
    (hsucceeds : ((device.recordedRig host config).turn s op).Succeeds) :
    let after := (device.recordedRig host config).step s op
    after.radio.state = s.radio.state ∧
      ∃ sent, after.world.modes device.protocol = s.world.modes device.protocol ++ sent ∧
        (device.DrawsNoise op → sent = [.rx, .standby]) ∧
        ((∀ state ∈ sent, state = after.radio.state) ↔ ¬device.DrawsNoise op) ∧
        ((∀ state, sent.getLast? = some state → state = after.radio.state) ↔
          ¬(device.DrawsNoise op ∧ s.radio.state ≠ .standby)) := by
  have hparts : .state ∉ op.parts := by
    cases op <;> simp [Operation.parts, Operation.keepsState] at hkeeps ⊢
  have hstate : ((device.recordedRig host config).step s op).radio.state = s.radio.state := by
    rw [← Rig.turn_after]
    exact Rig.turn_within.2 .state hparts
  refine ⟨hstate, _, device.modes_turn hkeeps hsucceeds, ?_⟩
  rw [hstate, passes_turn device hkeeps hsucceeds]
  by_cases hop : device.DrawsNoise op
  · rw [if_pos hop]
    refine ⟨fun _ => rfl, iff_of_false (fun h => ?_) (not_not_intro hop), ?_⟩
    · exact absurd ((h .rx (.head _)).trans (h .standby (.tail _ (.head _))).symm) (by decide)
    · simp [hop, eq_comm]
  · rw [if_neg hop]
    exact ⟨fun h => absurd h hop, iff_of_true (List.forall_mem_nil _) hop,
      iff_of_true (fun _ h => absurd h (by simp)) fun h => hop h.1⟩

theorem sent_to_state_iff_standby :
    let rig := Bench.device.recordedRig Bench.host (Bench.rig {}).config
    let s := rig.run ⟨{}, { world := ((), []) }⟩ [.powerUp]
    Operation.random.keepsState = true ∧ (rig.turn s .random).Succeeds ∧
      (rig.step s .random).radio.state = s.radio.state ∧
      ∃ sent, (rig.step s .random).world.modes .singleShot = s.world.modes .singleShot ++ sent ∧
        sent = [.rx, .standby] ∧ sent.getLast? = some s.radio.state := by
  intro rig s
  have hkeeps : Operation.random.keepsState = true := rfl
  have hsucceeds : (rig.turn s .random).Succeeds := by decide +kernel
  have hstate : s.radio.state = .standby := by decide +kernel
  clear_value s
  obtain ⟨hafter, sent, hmodes, hdraws, -⟩ := sent_to_state_iff Bench.device hkeeps hsucceeds
  have hsent : sent = [.rx, .standby] := hdraws ⟨rfl, rfl⟩
  refine ⟨rfl, hsucceeds, hafter, sent, hmodes, hsent, ?_⟩
  rw [hsent, hstate]
  rfl

/-- A receiver that draws a random number is in standby afterwards, and still noted as
receiving. -/
theorem standby_in_reception :
    let rig := Bench.device.recordedRig Bench.host (Bench.rig {}).config
    let s := rig.run ⟨{}, { world := ((), []) }⟩ [.powerUp, .startRx 0]
    s.radio.state = .rx ∧ (rig.turn s .random).Succeeds ∧
      (rig.step s .random).radio.state = .rx ∧
      ((rig.step s .random).world.modes .singleShot).getLast? = some .standby := by
  decide +kernel

end Device

end Transceiver
