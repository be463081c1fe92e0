import Transceiver.Lr11xx.Device
import Transceiver.Proofs.Footprint
import Transceiver.Proofs.Signal
import Transceiver.Sx126x.Device

/-! What the chip families use their bus for. Whatever a command needs is put together from single
exchanges with the chip, so what each of these keeps, the commands keep. -/

namespace Transceiver

/-- The command neither puts the chip to sleep, nor resets or interrupts it. -/
def Command.IsPlain : Command → Prop
  | .reset | .setSleep _ | .abort => False
  | _ => True

/-- The command takes an exchange with the chip to succeed. These are the ones by which an operation
that a sleeping radio allows comes to its end. -/
def Command.Calls : Command → Prop
  | .armInterrupts _ | .setStandby _ | .writeBuffer .. | .setCadParams _ | .readRssi
  | .setLoraModulation _ | .setLoraPacket _ | .setLoraSyncWord _ | .setLoraSymbolTimeout _
  | .setFskModulation _ | .setFskPacket _ | .setFskSyncWord _ => True
  | _ => False

namespace Bus.Endpoint

open Transceiver.Action

variable {σ α β : Type} {protocol : Protocol} {l : Link (σ × List Signal)}

/-- A step that succeeds leaves the chip awake. -/
def Awakens (x : Action (Link σ) α) : Prop :=
  ∀ l, x.Ends l fun r l' => r.isOk = true → l'.sleeping = false

namespace Awakens

theorem of_serves {x : Action (Link (σ × List Signal)) α}
    (h : ∀ l, x.Ends l (Serves protocol l)) : Awakens x := fun l => (h l).mono fun _ _ h => h.2

/-- It is enough that the last step does. -/
theorem after {x : Action (Link σ) α} {f : α → Action (Link σ) β} (hf : ∀ a, Awakens (f a)) :
    Awakens (x >>= f) := fun _ => ends_bind_isOk fun a l => hf a l

/-- What only puts together an answer changes nothing. -/
theorem answer {x : Action (Link σ) α} (hx : Awakens x) (f : α → β) :
    Awakens (x >>= fun a => pure (f a)) := fun l => ends_bind.mpr <| (hx l).mono fun
  | .ok _, _, h => fun _ => h rfl
  | .error _, _, _ => nofun

theorem iteThrow {c : Prop} [Decidable c] {e : Fault} {x : Action (Link σ) α} (hx : Awakens x) :
    Awakens (if c then throw e else x) := fun l => ends_ite.mpr <| by
  split
  · exact nofun
  · exact hx l

end Awakens

end Bus.Endpoint

namespace Bus.Board

open Transceiver.Action

variable {σ : Type} {bus : Endpoint σ} {P : Link σ → Prop}

theorem keeps_select {board : Board}
    (h : ∀ line high, line ≠ .reset → (board.drive bus line high).Keeps P) (path : AntennaPath) :
    (board.select bus path).Keeps P := by
  cases path with
  | rx => exact (h _ _ (by decide)).bind fun _ => h _ _ (by decide)
  | off | tx | txExternal =>
    refine (h _ _ (by decide)).bind fun _ => (h _ _ (by decide)).bind fun _ => ?_
    exact h _ _ (by decide)

end Bus.Board

namespace Sx126x

open Bus Transceiver.Action

/-- No other command starts as the one for sleep does. -/
theorem plain_opcode {op : Opcode} (h : op ≠ .setSleep) (args : List UInt8) :
    handshake.protocol.Plain (op.byte :: args) := by
  intro more
  show op.byte.toUInt16 ≠ Opcode.setSleep.byte.toUInt16
  cases op <;> first | exact absurd rfl h | decide

/-- What starts with this opcode fits. -/
def Opcode.Fits (fits : List UInt8 → Prop) (op : Opcode) : Prop := ∀ args, fits (op.byte :: args)

/-- The opcodes that a command may need. -/
def opcodes : Command → List Opcode
  | .setUp => [.setDio2AsRfSwitch, .setRegulatorMode, .setBufferBaseAddress, .writeRegister,
    .readRegister, .clearDeviceErrors, .setTcxoMode, .calibrate, .getDeviceErrors, .setStandby]
  | .setModem _ => [.setPacketType]
  | .armInterrupts _ => [.setDioIrqParams]
  | .takeInterrupts => [.getIrqStatus, .clearIrqStatus]
  | .clearInterrupts _ => [.clearIrqStatus]
  | .takeErrors => [.getDeviceErrors, .clearDeviceErrors]
  | .setStandby _ => [.setStandby]
  | .setSleep _ => [.setSleep]
  | .calibrateImage _ => [.calibrateImage]
  | .setFrequency _ => [.setRfFrequency]
  | .compensateBandEdge _ | .setFskPayloadLength _ | .setFskSyncWord _ => [.writeRegister]
  | .setPa _ => [.setPaConfig, .writeRegister, .readRegister]
  | .setTxParams .. => [.setTxParams]
  | .setTx _ => [.setTx]
  | .setTxCarrier => [.setTxContinuousWave]
  | .setRx _ => [.setRx]
  | .setRxDutyCycle .. => [.setRxDutyCycle]
  | .setCad => [.setCad]
  | .setCadParams _ => [.setCadParams]
  | .stopTimerOnPreamble _ => [.stopTimerOnPreamble]
  | .writeBuffer .. => [.writeBuffer]
  | .readBuffer .. => [.readBuffer]
  | .readRxBufferStatus => [.getRxBufferStatus]
  | .readLoraQuality | .readFskQuality => [.getPacketStatus]
  | .readLoraCrcFlag | .readFskFillLevel => [.readRegister]
  | .readRssi => [.getRssiInst]
  | .readRandom => [.readRegister, .writeRegister, .setRx, .setStandby]
  | .setLoraModulation _ => [.setModulationParams, .readRegister, .writeRegister]
  | .setLoraPacket _ => [.setPacketParams, .readRegister, .writeRegister]
  | .setLoraSyncWord _ => [.readRegister, .writeRegister]
  | .setLoraSymbolTimeout _ => [.setLoraSymbolTimeout, .writeRegister]
  | .setFskModulation _ => [.setModulationParams]
  | .setFskPacket _ => [.setPacketParams]
  | .readInterruptLine | .awaitInterrupt | .reset | .wake | .setAntenna _ | .abort => []

/-- A command that does not put the chip to sleep has no need of the opcode that does. -/
theorem ne_setSleep_of_mem_opcodes {c : Command} (hc : c.IsPlain) {op : Opcode}
    (h : op ∈ opcodes c) : op ≠ .setSleep := by
  rintro rfl
  cases c <;> simp [opcodes, Command.IsPlain] at h hc

namespace Device

variable {σ : Type} {device : Device σ} {fits : List UInt8 → Prop} {P : Link σ → Prop}
  (h : device.bus.Conveys fits P)
include h

theorem keeps_command {op : Opcode} (hop : op.Fits fits) (args : List UInt8) :
    (device.command op args).Keeps P := h.send _ _ (hop _)

theorem keeps_query {op : Opcode} (hop : op.Fits fits) (n : Nat) :
    (device.query op n).Keeps P := h.read _ _ (hop _)

theorem keeps_readRegister (hread : Opcode.readRegister.Fits fits) (r : Register) (n : Nat) :
    (device.readRegister r n).Keeps P := h.read _ _ (hread _)

theorem keeps_writeRegister (hwrite : Opcode.writeRegister.Fits fits) (r : Register)
    (data : List UInt8) : (device.writeRegister r data).Keeps P := h.send _ _ (hwrite _)

theorem keeps_readByte (hread : Opcode.readRegister.Fits fits) (r : Register) :
    (device.readByte r).Keeps P :=
  (keeps_readRegister h hread _ _).bind fun _ => .pure _

theorem keeps_retain (hread : Opcode.readRegister.Fits fits)
    (hwrite : Opcode.writeRegister.Fits fits) (r : Register) : (device.retain r).Keeps P := by
  refine (keeps_readRegister h hread _ _).bind fun list => .ite (fun _ => .pure _) fun _ => ?_
  exact .optionally (fun _ => .throw _) (keeps_writeRegister h hwrite _ _)

theorem keeps_clearErrors (hclear : Opcode.clearDeviceErrors.Fits fits) :
    device.clearErrors.Keeps P := keeps_command h hclear _

theorem keeps_readErrors (hget : Opcode.getDeviceErrors.Fits fits) : device.readErrors.Keeps P :=
  (keeps_query h hget _).bind fun _ => .pure _

theorem keeps_setStandby (hstandby : Opcode.setStandby.Fits fits) (crystal : Bool) :
    (device.setStandby crystal).Keeps P := keeps_command h hstandby _

theorem keeps_setUp (hops : ∀ op ∈ opcodes .setUp, op.Fits fits) : device.setUp.Keeps P := by
  have hread : Opcode.readRegister.Fits fits := hops _ (by decide)
  have hwrite : Opcode.writeRegister.Fits fits := hops _ (by decide)
  have hclear : Opcode.clearDeviceErrors.Fits fits := hops _ (by decide)
  have hget : Opcode.getDeviceErrors.Fits fits := hops _ (by decide)
  have hstandby : Opcode.setStandby.Fits fits := hops _ (by decide)
  have setTcxo (voltage : TcxoVoltage) : (device.setTcxo voltage).Keeps P := by
    refine (keeps_clearErrors h hclear).bind fun _ => ?_
    refine (keeps_command h (hops _ (by decide)) _).bind fun _ => ?_
    refine (keeps_command h (hops _ (by decide)) _).bind fun _ => ?_
    exact (keeps_readErrors h hget).discard.bind fun _ => keeps_clearErrors h hclear
  have setTrim (trim : UInt16) : (device.setTrim trim).Keeps P :=
    (keeps_setStandby h hstandby _).bind fun _ => (keeps_writeRegister h hwrite _ _).bind fun _ =>
      keeps_setStandby h hstandby _
  have updateRetention : device.updateRetention.Keeps P :=
    (keeps_retain h hread hwrite _).bind fun _ => keeps_retain h hread hwrite _
  unfold setUp
  refine .optionally (fun _ => keeps_command h (hops _ (by decide)) _) ?_
  refine .optionally (fun _ => keeps_command h (hops _ (by decide)) _) ?_
  refine (keeps_command h (hops _ (by decide)) _).bind fun _ => ?_
  refine (keeps_writeRegister h hwrite _ _).bind fun _ => ?_
  cases device.config.tcxo with
  | some voltage => exact (setTcxo _).bind fun _ => updateRetention
  | none => exact (setTrim _).bind fun _ => updateRetention

theorem keeps_armInterrupts (harm : Opcode.setDioIrqParams.Fits fits) (mask : InterruptSet) :
    (device.armInterrupts mask).Keeps P := by
  unfold armInterrupts
  exact keeps_command h harm _

theorem keeps_clearInterrupts (hclear : Opcode.clearIrqStatus.Fits fits) (mask : InterruptSet) :
    (device.clearInterrupts mask).Keeps P := keeps_command h hclear _

theorem keeps_takeInterrupts (hops : ∀ op ∈ opcodes .takeInterrupts, op.Fits fits) :
    device.takeInterrupts.Keeps P := by
  refine (keeps_query h (hops _ (by decide)) _).bind fun status => ?_
  exact .optionally (fun _ => keeps_command h (hops _ (by decide)) _) (.pure _)

theorem keeps_takeErrors (hops : ∀ op ∈ opcodes .takeErrors, op.Fits fits) :
    device.takeErrors.Keeps P :=
  (keeps_readErrors h (hops _ (by decide))).bind fun _ =>
    (keeps_clearErrors h (hops _ (by decide))).bind fun _ => .pure _

theorem keeps_setPa {pa : PaConfig} (hops : ∀ op ∈ opcodes (.setPa pa), op.Fits fits) :
    (device.setPa pa).Keeps P := by
  have hwrite : Opcode.writeRegister.Fits fits := hops _ (by simp [opcodes])
  refine (keeps_command h (hops _ (by simp [opcodes])) _).bind fun _ => ?_
  refine (keeps_writeRegister h hwrite _ _).bind fun _ => .ite (fun _ => ?_) fun _ => .pure _
  exact (keeps_readByte h (hops _ (by simp [opcodes])) _).bind fun _ =>
    keeps_writeRegister h hwrite _ _

theorem keeps_readRandom (hops : ∀ op ∈ opcodes .readRandom, op.Fits fits) :
    device.readRandom.Keeps P := by
  have hread : Opcode.readRegister.Fits fits := hops _ (by decide)
  have hwrite : Opcode.writeRegister.Fits fits := hops _ (by decide)
  refine (keeps_readByte h hread _).bind fun _ => (keeps_writeRegister h hwrite _ _).bind fun _ => ?_
  refine (keeps_readByte h hread _).bind fun _ => (keeps_writeRegister h hwrite _ _).bind fun _ => ?_
  refine (keeps_command h (hops _ (by decide)) _).bind fun _ => ?_
  refine (keeps_readRegister h hread _ _).bind fun _ => ?_
  refine (keeps_setStandby h (hops _ (by decide)) _).bind fun _ => ?_
  refine (keeps_writeRegister h hwrite _ _).bind fun _ => ?_
  exact (keeps_writeRegister h hwrite _ _).bind fun _ => .pure _

theorem keeps_setLoraModulation {m : Lora.Modulation}
    (hops : ∀ op ∈ opcodes (.setLoraModulation m), op.Fits fits) :
    (device.setLoraModulation m).Keeps P := by
  refine (Keeps.settle _).bind fun _ => (keeps_command h (hops _ (by simp [opcodes])) _).bind ?_
  exact fun _ => (keeps_readByte h (hops _ (by simp [opcodes])) _).bind fun _ =>
    keeps_writeRegister h (hops _ (by simp [opcodes])) _ _

theorem keeps_setLoraPacket {p : Lora.Packet}
    (hops : ∀ op ∈ opcodes (.setLoraPacket p), op.Fits fits) : (device.setLoraPacket p).Keeps P :=
  (keeps_command h (hops _ (by simp [opcodes])) _).bind fun _ =>
    (keeps_readByte h (hops _ (by simp [opcodes])) _).bind fun _ =>
      keeps_writeRegister h (hops _ (by simp [opcodes])) _ _

theorem keeps_setLoraSymbolTimeout {symbols : UInt8}
    (hops : ∀ op ∈ opcodes (.setLoraSymbolTimeout symbols), op.Fits fits) :
    (device.setLoraSymbolTimeout symbols).Keeps P :=
  (keeps_command h (hops _ (by simp [opcodes])) _).bind fun _ =>
    .ite (fun _ => keeps_writeRegister h (hops _ (by simp [opcodes])) _ _) fun _ => .pure _

theorem keeps_setFskModulation {m : Fsk.Modulation}
    (hops : ∀ op ∈ opcodes (.setFskModulation m), op.Fits fits) :
    (device.setFskModulation m).Keeps P := by
  unfold setFskModulation
  exact .optionally (fun _ => .throw _) (keeps_command h (hops _ (by simp [opcodes])) _)

/-- What passes over the bus keeps, a command keeps whose opcodes fit, if the antenna switch does. -/
theorem conveys_perform {c : Command} (hc : c.IsPlain) (hops : ∀ op ∈ opcodes c, op.Fits fits)
    (hselect : ∀ path, c = .setAntenna path → (device.board.select device.bus path).Keeps P) :
    (device.perform c).Keeps P := by
  have hop {op : Opcode} (hmem : op ∈ opcodes c) : op.Fits fits := hops op hmem
  cases c with
  | readInterruptLine => exact h.readInterruptLine
  | awaitInterrupt => exact h.awaitInterrupt
  | reset | setSleep | abort => exact hc.elim
  | setUp => exact keeps_setUp h hops
  | wake => exact h.wake
  | setAntenna path => exact hselect path rfl
  | armInterrupts mask => exact keeps_armInterrupts h (hop (.head _)) _
  | takeInterrupts => exact keeps_takeInterrupts h hops
  | clearInterrupts mask => exact keeps_clearInterrupts h (hop (.head _)) _
  | setStandby crystal => exact keeps_setStandby h (hop (.head _)) _
  | takeErrors => exact keeps_takeErrors h hops
  | compensateBandEdge frequency =>
    exact .ite (fun _ => keeps_writeRegister h (hop (.head _)) _ _) fun _ => .pure _
  | setPa pa => exact keeps_setPa h hops
  | readRandom => exact keeps_readRandom h hops
  | setLoraModulation m => exact keeps_setLoraModulation h hops
  | setLoraPacket p => exact keeps_setLoraPacket h hops
  | setLoraSyncWord word =>
    exact (keeps_readRegister h (hop (.head _)) _ _).bind fun _ =>
      keeps_writeRegister h (hop (.tail _ (.head _))) _ _
  | setLoraSymbolTimeout symbols => exact keeps_setLoraSymbolTimeout h hops
  | setFskModulation m => exact keeps_setFskModulation h hops
  | setFskSyncWord word =>
    exact (Keeps.settle _).bind fun _ => keeps_writeRegister h (hop (.head _)) _ _
  | writeBuffer offset data => exact h.send _ _ (hop (.head _) _)
  | readBuffer offset length => exact h.read _ _ (hop (.head _) _)
  | readRxBufferStatus | readLoraQuality | readFskQuality | readRssi =>
    exact (keeps_query h (hop (.head _)) _).bind fun _ => .pure _
  | readLoraCrcFlag => exact (keeps_readRegister h (hop (.head _)) _ _).bind fun _ => .pure _
  | readFskFillLevel => exact keeps_readByte h (hop (.head _)) _
  | setFskPayloadLength length => exact keeps_writeRegister h (hop (.head _)) _ _
  | _ => exact keeps_command h (hop (.head _)) _

omit h in
/-- What passes over the bus keeps, the commands keep, if the antenna switch does. -/
theorem keeps_perform (h : device.bus.Carries P) {c : Command} (hc : c.IsPlain)
    (hselect : ∀ path, c = .setAntenna path → (device.board.select device.bus path).Keeps P) :
    (device.perform c).Keeps P :=
  conveys_perform h.conveys hc
    (fun _ hop args => plain_opcode (ne_setSleep_of_mem_opcodes hc hop) args) hselect

/-- The device, with all that passes over its wires written to a list. -/
def recording (device : Device σ) : Device (σ × List Signal) :=
  ⟨device.wire.recording, device.board, device.config⟩

section Hushed
omit h
variable {P : List Signal → Prop} {quiet : List UInt8 → Prop}

/-- A command is quiet if whatever starts with its opcodes is, and the antenna switch is left
alone. -/
theorem hushed_perform (device : Device σ)
    (hP : ∀ xs x, x.Hushed quiet → P xs → P (xs ++ [x])) (hzeros : ∀ n, quiet (.replicate n 0))
    {c : Command} (hops : ∀ op ∈ opcodes c, op.Fits quiet)
    (hselect : ∀ path, c = .setAntenna path →
      (device.board.select device.bus.recording path).Keeps (P ·.signals)) :
    (device.recording.perform c).Keeps (P ·.signals) := by
  have hconveys : device.recording.bus.Conveys (fun cmd => ∀ more, quiet (cmd ++ more))
      (P ·.signals) := Endpoint.conveys_signals hP hzeros device.bus
  have hplain (hc' : c.IsPlain) : (device.recording.perform c).Keeps (P ·.signals) :=
    conveys_perform hconveys hc' (fun op hop args more => hops op hop (args ++ more)) hselect
  cases c with
  | reset =>
    have hreset : (device.board.reset device.bus.recording).Keeps (P ·.signals) :=
      Endpoint.hushed_reset hP _
    have hready : device.bus.recording.ready.Keeps (P ·.signals) := Endpoint.hushed_awaitReady hP _
    exact hreset.bind fun _ => Keeps.bind (fun _ hl => hl) fun _ => hready
  | setSleep warmStart =>
    have hsleep : (device.bus.recording.writeSleep
        [Opcode.setSleep.byte, warmStart.toUInt8 <<< 2]).Keeps (P ·.signals) :=
      Endpoint.hushed_writeSleep hP (hops _ (.head _) _)
    have hdelay : (device.bus.recording.delayMillis 2).Keeps (P ·.signals) :=
      Endpoint.hushed_delayMillis hP 2
    exact hsleep.bind fun _ => hdelay
  | abort => exact .throw _
  | _ => exact hplain trivial

/-- Only a selection of an antenna path drives the lines of the antenna switch. -/
theorem bears_perform (device : Device σ) {P : List Signal → Prop}
    (hP : ∀ xs x, x.switches = false → P xs → P (xs ++ [x])) {c : Command}
    (hc : ∀ path, c ≠ .setAntenna path) :
    (device.recording.perform c).Keeps (P ·.signals) := by
  have hushed (xs : List Signal) (x : Signal) (hx : x.Hushed fun _ => True) :
      P xs → P (xs ++ [x]) := hP xs x hx.switches
  exact hushed_perform device hushed (fun _ => trivial) (fun _ _ _ => trivial)
    fun path h => absurd h (hc path)

end Hushed

section Sleep
omit h
variable {l : Link (σ × List Signal)}

open Endpoint

theorem ends_setSleep (device : Device σ) (warmStart : Bool) :
    (device.recording.setSleep warmStart).Ends l (Retires .singleShot l) :=
  ends_writeSleep_delay device.bus 2 rfl

theorem ends_reset (device : Device σ) :
    device.recording.reset.Ends l (Serves .singleShot l) :=
  ends_bind.mpr <| (Endpoint.ends_reset device.bus device.board).mono fun
    | .error _, _, h => ⟨h, nofun⟩
    | .ok _, _, h => ends_afterReset device.bus h.1 h.2

theorem serves_command (device : Device σ) (op : Opcode) (hop : op ≠ .setSleep)
    (args : List UInt8) : (device.recording.command op args).Ends l (Serves .singleShot l) :=
  ends_send device.bus (plain_opcode hop args [])

/-- A command that brings the chip to another state than sleep wakes it. -/
theorem ends_target (device : Device σ) {c : Command} {state : RadioState}
    (hc : c.target? = some state) (hne : state ≠ .sleep) :
    (device.recording.perform c).Ends l (Serves .singleShot l) := by
  cases c with
  | reset => exact device.ends_reset
  | setStandby crystal => exact device.serves_command .setStandby (by decide) [crystal.toUInt8]
  | setTx | setTxCarrier | setRx | setRxDutyCycle | setCad =>
    exact device.serves_command _ (by decide) _
  | setSleep => exact absurd (Option.some.inj hc).symm hne
  | _ => cases hc

/-- A command that takes an exchange leaves the chip awake. -/
theorem awakens_call (device : Device σ) {c : Command} (hc : c.Calls) :
    Awakens (device.recording.perform c) := by
  have command (op : Opcode) (hop : op ≠ .setSleep) (args : List UInt8) :
      Awakens (device.recording.command op args) :=
    .of_serves fun _ => device.serves_command op hop args
  have send (op : Opcode) (hop : op ≠ .setSleep) (args data : List UInt8) :
      Awakens (device.bus.recording.send (op.byte :: args) data) :=
    .of_serves fun _ => ends_send device.bus (plain_opcode hop args data)
  cases c with
  | armInterrupts mask =>
    show Awakens (device.recording.armInterrupts mask)
    unfold armInterrupts
    exact command .setDioIrqParams (by decide) _
  | setStandby crystal => exact command .setStandby (by decide) [crystal.toUInt8]
  | setCadParams params => exact command .setCadParams (by decide) _
  | setFskPacket p => exact command .setPacketParams (by decide) _
  | writeBuffer offset data => exact send .writeBuffer (by decide) _ _
  | readRssi =>
    have hplain : handshake.protocol.Plain [Opcode.getRssiInst.byte, 0] :=
      plain_opcode (by decide) [0]
    have query : Awakens (device.bus.recording.read [Opcode.getRssiInst.byte, 0] 1) :=
      .of_serves fun _ => ends_read 1 hplain
    exact query.answer _
  | setLoraModulation m => exact .after fun _ => .after fun _ => .after fun _ => send _ (by decide) _ _
  | setLoraPacket p => exact .after fun _ => .after fun _ => send _ (by decide) _ _
  | setLoraSyncWord word => exact .after fun _ => send _ (by decide) _ _
  | setLoraSymbolTimeout symbols =>
    -- A register is written for long timeouts only, so the chip is awake from the first step on.
    intro l
    refine ends_bind.mpr <| (command .setLoraSymbolTimeout (by decide) [symbols] l).mono fun
      | .error _, _, _ => nofun
      | .ok _, l', h => ends_ite.mpr ?_
    split
    · exact send _ (by decide) _ _ l'
    · exact fun _ => h rfl
  | setFskModulation m =>
    have set (args : List UInt8) := command .setModulationParams (by decide) args
    exact .iteThrow (set _)
  | setFskSyncWord word => exact .after fun _ => send _ (by decide) _ _
  | _ => exact hc.elim

end Sleep

end Device

end Sx126x

namespace Lr11xx

open Bus Transceiver.Action

/-- No other command starts as the one for sleep does. -/
theorem plain_opcode {op : Opcode} (h : op ≠ .setSleep) (args : List UInt8) :
    Protocol.twoPhase.Plain (BigEndian.bytes16 op.word ++ args) := by
  intro more
  show BigEndian.word16 (op.word >>> 8).toUInt8 op.word.toUInt8 ≠ Opcode.setSleep.word
  cases op <;> first | exact absurd rfl h | decide

/-- What starts with this opcode fits. -/
def Opcode.Fits (fits : List UInt8 → Prop) (op : Opcode) : Prop :=
  ∀ args, fits (BigEndian.bytes16 op.word ++ args)

/-- The opcodes that a command may need. -/
def opcodes : Command → List Opcode
  | .setUp => [.setTcxoMode, .calibrate, .setFallbackMode, .setStandby, .setRegulatorMode,
    .setDioAsRfSwitch, .setRxBoosted, .clearIrq, .getErrors, .clearErrors, .driveDioInSleep]
  | .setModem _ => [.setPacketType]
  | .armInterrupts _ => [.setDioIrqParams]
  | .takeInterrupts | .clearInterrupts _ => [.clearIrq]
  | .takeErrors => [.getErrors, .clearErrors]
  | .setStandby _ => [.setStandby]
  | .setSleep _ => [.setSleep]
  | .calibrateImage _ => [.calibrateImage]
  | .setFrequency _ => [.setRfFrequency]
  | .compensateBandEdge _ | .setFskPayloadLength _ => [.writeMemoryMask]
  | .setPa _ => [.setPaConfig]
  | .setTxParams .. => [.setTxParams]
  | .setTx _ => [.setTx]
  | .setTxCarrier => [.setTxCarrier]
  | .setRx _ => [.setRx]
  | .setRxDutyCycle .. => [.setRxDutyCycle]
  | .setCad => [.setCad]
  | .setCadParams _ => [.setCadParams]
  | .stopTimerOnPreamble _ => [.stopTimeoutOnPreamble]
  | .writeBuffer .. => [.writeBuffer]
  | .readBuffer .. => [.readBuffer]
  | .readRxBufferStatus => [.getRxBufferStatus]
  | .readLoraQuality | .readFskQuality => [.getPacketStatus]
  | .readLoraCrcFlag => [.getLoraRxInfo]
  | .readFskFillLevel => [.readMemory]
  | .readRssi => [.getRssiInst]
  | .readRandom => [.getRandom]
  | .setLoraModulation _ | .setFskModulation _ => [.setModulationParams]
  | .setLoraPacket _ | .setFskPacket _ => [.setPacketParams]
  | .setLoraSyncWord _ => [.setLoraSyncWord]
  | .setLoraSymbolTimeout _ => [.setLoraSyncTimeout]
  | .setFskSyncWord _ => [.setFskSyncWord]
  | .readInterruptLine | .awaitInterrupt | .reset | .wake | .setAntenna _ | .abort => []

/-- A command that does not put the chip to sleep has no need of the opcode that does. -/
theorem ne_setSleep_of_mem_opcodes {c : Command} (hc : c.IsPlain) {op : Opcode}
    (h : op ∈ opcodes c) : op ≠ .setSleep := by
  rintro rfl
  cases c <;> simp [opcodes, Command.IsPlain] at h hc

namespace Device

variable {σ : Type} {device : Device σ} {fits : List UInt8 → Prop} {P : Link σ → Prop}
  (h : device.bus.Conveys fits P)
include h

theorem keeps_command {op : Opcode} (hop : op.Fits fits) (args : List UInt8) :
    (device.command op args).Keeps P := h.send _ _ (hop _)

theorem keeps_query {op : Opcode} (hop : op.Fits fits) (args : List UInt8) (n : Nat) :
    (device.query op args n).Keeps P := h.read _ _ (hop _)

theorem keeps_writeField (hwrite : Opcode.writeMemoryMask.Fits fits) (field : Field)
    (value : UInt32) : (device.writeField field value).Keeps P := keeps_command h hwrite _

theorem keeps_setStandby (hstandby : Opcode.setStandby.Fits fits) (crystal : Bool) :
    (device.setStandby crystal).Keeps P := keeps_command h hstandby _

theorem keeps_armInterrupts (harm : Opcode.setDioIrqParams.Fits fits) (mask : InterruptSet) :
    (device.armInterrupts mask).Keeps P := keeps_command h harm _

theorem keeps_clearInterrupts (hclear : Opcode.clearIrq.Fits fits) (mask : InterruptSet) :
    (device.clearInterrupts mask).Keeps P := keeps_command h hclear _

theorem keeps_takeInterrupts (hclear : Opcode.clearIrq.Fits fits) :
    device.takeInterrupts.Keeps P := by
  refine (h.readDirect _).bind fun status => ?_
  exact .optionally (fun _ => keeps_command h hclear _) (.pure _)

theorem keeps_takeErrors (hget : Opcode.getErrors.Fits fits)
    (hclear : Opcode.clearErrors.Fits fits) : device.takeErrors.Keeps P :=
  (keeps_query h hget _ _).bind fun _ => (keeps_command h hclear _).bind fun _ => .pure _

theorem keeps_setUp (hops : ∀ op ∈ opcodes .setUp, op.Fits fits) : device.setUp.Keeps P := by
  have setTcxo (voltage : TcxoVoltage) : (device.setTcxo voltage).Keeps P :=
    (keeps_command h (hops _ (by decide)) _).bind fun _ =>
      (keeps_command h (hops _ (by decide)) _).bind fun _ =>
        keeps_command h (hops _ (by decide)) _
  unfold setUp
  cases device.config.tcxo
  case' some voltage => refine (setTcxo _).bind fun _ => ?_
  all_goals
    refine (keeps_setStandby h (hops _ (by decide)) _).bind fun _ => ?_
    refine (keeps_command h (hops _ (by decide)) _).bind fun _ => ?_
    cases device.config.antennaSwitch
    case' some levels =>
      refine (keeps_command h (hops .setDioAsRfSwitch (by decide)) _).bind fun _ => ?_
    all_goals
      refine (keeps_command h (hops _ (by decide)) _).bind fun _ => ?_
      refine (keeps_takeInterrupts h (hops _ (by decide))).discard.bind fun _ => ?_
      refine (keeps_takeErrors h (hops _ (by decide)) (hops _ (by decide))).discard.bind fun _ => ?_
      exact keeps_command h (hops _ (by decide)) _

theorem keeps_writeBuffer (hwrite : Opcode.writeBuffer.Fits fits) (offset : UInt8)
    (data : List UInt8) : (device.writeBuffer offset data).Keeps P := by
  have hcmd : fits (BigEndian.bytes16 Opcode.writeBuffer.word) := by simpa using hwrite []
  unfold writeBuffer
  exact .optionally (fun _ => .throw _) (h.send _ _ hcmd)

theorem keeps_readBuffer (hread : Opcode.readBuffer.Fits fits) (offset : UInt8) (length : Nat) :
    (device.readBuffer offset length).Keeps P := by
  unfold readBuffer
  exact .optionally (fun _ => .throw _) (keeps_query h hread _ _)

theorem keeps_setFskModulation (hset : Opcode.setModulationParams.Fits fits) (m : Fsk.Modulation) :
    (device.setFskModulation m).Keeps P := by
  unfold setFskModulation
  exact .optionally (fun _ => .throw _) (keeps_command h hset _)

/-- What passes over the bus keeps, a command keeps whose opcodes fit, if the antenna switch does. -/
theorem conveys_perform {c : Command} (hc : c.IsPlain) (hops : ∀ op ∈ opcodes c, op.Fits fits)
    (hselect : ∀ path, c = .setAntenna path → (device.board.select device.bus path).Keeps P) :
    (device.perform c).Keeps P := by
  have hop {op : Opcode} (hmem : op ∈ opcodes c) : op.Fits fits := hops op hmem
  cases c with
  | readInterruptLine => exact h.readInterruptLine
  | awaitInterrupt => exact h.awaitInterrupt
  | reset | setSleep | abort => exact hc.elim
  | setUp => exact keeps_setUp h hops
  | wake => exact h.wake
  | setAntenna path => exact hselect path rfl
  | armInterrupts mask => exact keeps_armInterrupts h (hop (.head _)) _
  | takeInterrupts => exact keeps_takeInterrupts h (hop (.head _))
  | clearInterrupts mask => exact keeps_clearInterrupts h (hop (.head _)) _
  | setStandby crystal => exact keeps_setStandby h (hop (.head _)) _
  | takeErrors => exact keeps_takeErrors h (hop (.head _)) (hop (.tail _ (.head _)))
  | compensateBandEdge frequency =>
    exact .ite (fun _ => keeps_writeField h (hop (.head _)) _ _) fun _ => .pure _
  | writeBuffer offset data => exact keeps_writeBuffer h (hop (.head _)) _ _
  | readBuffer offset length => exact keeps_readBuffer h (hop (.head _)) _ _
  | readRxBufferStatus | readLoraQuality | readFskQuality | readLoraCrcFlag | readRssi
  | readRandom =>
    exact (keeps_query h (hop (.head _)) _ _).bind fun _ => .pure _
  | readFskFillLevel =>
    exact ((keeps_query h (hop (.head _)) _ _).bind fun _ => .pure _).bind fun _ => .pure _
  | setFskPayloadLength length => exact keeps_writeField h (hop (.head _)) _ _
  | setLoraModulation m =>
    exact (Keeps.settle _).bind fun _ => keeps_command h (hop (.head _)) _
  | setFskModulation m => exact keeps_setFskModulation h (hop (.head _)) _
  | setFskSyncWord word =>
    exact (Keeps.settle _).bind fun _ => keeps_command h (hop (.head _)) _
  | _ => exact keeps_command h (hop (.head _)) _

omit h in
/-- What passes over the bus keeps, the commands keep, if the antenna switch does. -/
theorem keeps_perform (h : device.bus.Carries P) {c : Command} (hc : c.IsPlain)
    (hselect : ∀ path, c = .setAntenna path → (device.board.select device.bus path).Keeps P) :
    (device.perform c).Keeps P :=
  conveys_perform h.conveys hc
    (fun _ hop args => plain_opcode (ne_setSleep_of_mem_opcodes hc hop) args) hselect

/-- The device, with all that passes over its wires written to a list. -/
def recording (device : Device σ) : Device (σ × List Signal) :=
  ⟨device.wire.recording, device.board, device.config⟩

section Hushed
omit h
variable {P : List Signal → Prop} {quiet : List UInt8 → Prop}

/-- A command is quiet if whatever starts with its opcodes is, and the antenna switch is left
alone. -/
theorem hushed_perform (device : Device σ)
    (hP : ∀ xs x, x.Hushed quiet → P xs → P (xs ++ [x])) (hzeros : ∀ n, quiet (.replicate n 0))
    {c : Command} (hops : ∀ op ∈ opcodes c, op.Fits quiet)
    (hselect : ∀ path, c = .setAntenna path →
      (device.board.select device.bus.recording path).Keeps (P ·.signals)) :
    (device.recording.perform c).Keeps (P ·.signals) := by
  have hconveys : device.recording.bus.Conveys (fun cmd => ∀ more, quiet (cmd ++ more))
      (P ·.signals) := Endpoint.conveys_signals hP hzeros device.bus
  have hplain (hc' : c.IsPlain) : (device.recording.perform c).Keeps (P ·.signals) := by
    refine conveys_perform hconveys hc' (fun op hop args more => ?_) hselect
    rw [List.append_assoc]
    exact hops op hop (args ++ more)
  have hdelay (ms : UInt32) : (device.bus.recording.delayMillis ms).Keeps (P ·.signals) :=
    Endpoint.hushed_delayMillis hP ms
  cases c with
  | reset =>
    have hreset : (device.board.reset device.bus.recording).Keeps (P ·.signals) :=
      Endpoint.hushed_reset hP _
    have hready : device.bus.recording.ready.Keeps (P ·.signals) := Endpoint.hushed_awaitReady hP _
    exact hreset.bind fun _ => (hdelay _).bind fun _ => Keeps.bind (fun _ hl => hl) fun _ => hready
  | setSleep warmStart =>
    have hsleep : (device.bus.recording.writeSleep (BigEndian.bytes16 Opcode.setSleep.word ++
        [0x02 ||| warmStart.toUInt8, 0xFF, 0xFF, 0xFF, 0xFF])).Keeps (P ·.signals) :=
      Endpoint.hushed_writeSleep hP (by rw [List.append_nil]; exact hops _ (.head _) _)
    exact hsleep.bind fun _ => hdelay _
  | abort =>
    have habort : device.bus.recording.abort.Keeps (P ·.signals) := Endpoint.hushed_abort hP hzeros
    exact .unlessThen (fun _ => .throw _) habort
  | _ => exact hplain trivial

/-- Only a selection of an antenna path drives the lines of the antenna switch. -/
theorem bears_perform (device : Device σ) {P : List Signal → Prop}
    (hP : ∀ xs x, x.switches = false → P xs → P (xs ++ [x])) {c : Command}
    (hc : ∀ path, c ≠ .setAntenna path) :
    (device.recording.perform c).Keeps (P ·.signals) := by
  have hushed (xs : List Signal) (x : Signal) (hx : x.Hushed fun _ => True) :
      P xs → P (xs ++ [x]) := hP xs x hx.switches
  exact hushed_perform device hushed (fun _ => trivial) (fun _ _ _ => trivial)
    fun path h => absurd h (hc path)

end Hushed

section Sleep
omit h
variable {l : Link (σ × List Signal)}

open Endpoint

theorem ends_setSleep (device : Device σ) (warmStart : Bool) :
    (device.recording.setSleep warmStart).Ends l (Retires .twoPhase l) :=
  ends_writeSleep_delay device.bus 2 rfl

theorem ends_reset (device : Device σ) :
    device.recording.reset.Ends l (Serves .twoPhase l) := by
  refine ends_bind.mpr <| (Endpoint.ends_reset device.bus device.board).mono fun
    | .error _, _, h => ⟨h, nofun⟩
    | .ok _, l', h => ?_
  obtain ⟨hasleep, hsignals⟩ := h
  have hbooted (w : σ) (ms : UInt32) :
      asleep .twoPhase (l'.noting w (.delayMillis ms)).signals = false := by
    rw [Link.signals_noting, asleep_concat, hasleep]
    rfl
  exact ends_bind.mpr <|
    ends_afterReset device.bus (hbooted _ _) (hsignals.trans (.concat _ rfl))

theorem serves_command (device : Device σ) (op : Opcode) (hop : op ≠ .setSleep)
    (args : List UInt8) : (device.recording.command op args).Ends l (Serves .twoPhase l) :=
  ends_send device.bus (plain_opcode hop args [])

/-- A command that brings the chip to another state than sleep wakes it. -/
theorem ends_target (device : Device σ) {c : Command} {state : RadioState}
    (hc : c.target? = some state) (hne : state ≠ .sleep) :
    (device.recording.perform c).Ends l (Serves .twoPhase l) := by
  cases c with
  | reset => exact device.ends_reset
  | setStandby crystal => exact device.serves_command .setStandby (by decide) [crystal.toUInt8]
  | setTx | setTxCarrier | setRx | setRxDutyCycle | setCad =>
    exact device.serves_command _ (by decide) _
  | setSleep => exact absurd (Option.some.inj hc).symm hne
  | _ => cases hc

/-- A command that takes an exchange leaves the chip awake. -/
theorem awakens_call (device : Device σ) {c : Command} (hc : c.Calls) :
    Awakens (device.recording.perform c) := by
  have command (op : Opcode) (hop : op ≠ .setSleep) (args : List UInt8) :
      Awakens (device.recording.command op args) :=
    .of_serves fun _ => device.serves_command op hop args
  cases c with
  | armInterrupts mask =>
    show Awakens (device.recording.armInterrupts mask)
    unfold armInterrupts
    exact command .setDioIrqParams (by decide) _
  | setStandby crystal => exact command .setStandby (by decide) [crystal.toUInt8]
  | setCadParams params => exact command .setCadParams (by decide) _
  | setFskPacket p => exact command .setPacketParams (by decide) _
  | setLoraPacket p => exact command .setPacketParams (by decide) _
  | setLoraSyncWord word => exact command .setLoraSyncWord (by decide) _
  | setLoraSymbolTimeout symbols => exact command .setLoraSyncTimeout (by decide) _
  | writeBuffer offset data =>
    have send : Awakens (device.bus.recording.send (BigEndian.bytes16 Opcode.writeBuffer.word)
        data) := .of_serves fun _ => ends_send device.bus (plain_opcode (by decide) [] data)
    exact send.iteThrow
  | readRssi =>
    have hplain : Protocol.twoPhase.Plain (BigEndian.bytes16 Opcode.getRssiInst.word ++ []) :=
      plain_opcode (by decide) []
    have query : Awakens (device.bus.recording.read
        (BigEndian.bytes16 Opcode.getRssiInst.word ++ []) 1) := .of_serves fun _ => ends_read 1 hplain
    exact query.answer _
  | setLoraModulation m => exact .after fun _ => command .setModulationParams (by decide) _
  | setFskModulation m =>
    have set (args : List UInt8) := command .setModulationParams (by decide) args
    exact .iteThrow (set _)
  | setFskSyncWord word => exact .after fun _ => command .setFskSyncWord (by decide) _
  | _ => exact hc.elim

theorem keeps_abort (device : Device σ) :
    device.recording.abort.Keeps (AwakeSince .twoPhase l) :=
  .unlessThen (fun _ => .throw _) (Endpoint.keeps_abort device.bus)

end Sleep

end Device

end Lr11xx

end Transceiver
