import Transceiver.Lr11xx.Device
import Transceiver.Proofs.Action
import Transceiver.Sx126x.Device

/-! Faults that a step never fails with. Each command of the two chip families is put together from
transfers whose lengths are known, so none of them exceeds the room for a transfer, but for frames
that the application gives and reads that it asks for. -/

namespace Transceiver

namespace Action

variable {σ τ α β : Type} {f g : Fault} {x : Action σ α}

/-- Steps that do the same and come to the same are the same. -/
theorem ext_result {x y : Action σ α} (h : ∀ s, x.result s = y.result s) : x = y := by
  funext s
  have hs := h s
  unfold result at hs
  rcases hx : x s with ⟨a, sx⟩ | ⟨e, sx⟩ <;> rcases hy : y s with ⟨b, sy⟩ | ⟨e', sy⟩ <;>
    simp [hx, hy] at hs ⊢ <;> exact hs

/-- The step never fails with this fault. -/
def Avoids (f : Fault) (x : Action σ α) : Prop := ∀ s, (x.result s).1 ≠ .error f

namespace Avoids

protected theorem pure (a : α) : Avoids f (pure a : Action σ α) := fun _ => nofun

protected theorem get : Avoids f (get : Action σ σ) := fun _ => nofun

protected theorem modify (change : σ → σ) : Avoids f (modify change : Action σ Unit) :=
  fun _ => nofun

protected theorem throw (h : g ≠ f) : Avoids f (throw g : Action σ α) := by
  rintro s ⟨⟩
  exact h rfl

protected theorem bind {next : α → Action σ β} (hx : Avoids f x) (hnext : ∀ a, Avoids f (next a)) :
    Avoids f (x >>= next) := by
  intro s
  have hs := hx s
  rw [result_bind]
  rcases hr : x.result s with ⟨_ | a, s'⟩
  · rw [hr] at hs
    exact fun h => hs (congrArg _ (Except.error.inj h))
  · exact hnext a s'

/-- The outcome that an attempt hands on is none of this fault. -/
protected theorem attempt {next : Except Fault α → Action σ β} (hx : Avoids f x)
    (hnext : ∀ r, r ≠ .error f → Avoids f (next r)) : Avoids f (x.attempt >>= next) := by
  intro s
  rw [result_bind, result_attempt]
  exact hnext _ (hx s) _

/-- An attempt never fails. -/
protected theorem attempted (x : Action σ α) : Avoids f x.attempt := by
  intro s
  rw [result_attempt]
  exact nofun

protected theorem reporting (h : g ≠ f) (x : Action σ α) : Avoids f (reporting g x) := by
  intro s
  rw [result_reporting]
  cases (x.result s).1 with
  | ok a => exact nofun
  | error e => exact fun he => h (Except.error.inj he)

protected theorem settle {r : Except Fault α} (h : r ≠ .error f) :
    Avoids f (settle r : Action σ α) := by
  intro s
  rw [result_settle]
  exact h

/-- What follows a settled outcome need only go well with the value that it has. -/
protected theorem settled {r : Except Fault α} {next : α → Action σ β} (h : r ≠ .error f)
    (hnext : ∀ a, r = .ok a → Avoids f (next a)) :
    Avoids f ((Action.settle r : Action σ α) >>= next) := by
  cases r with
  | ok a => exact hnext a rfl
  | error e => exact .throw fun he => h (congrArg _ he)

protected theorem discard (hx : Avoids f x) : Avoids f (discard x) :=
  hx.bind fun _ => .pure _

protected theorem ite {c : Prop} {_ : Decidable c} {y : Action σ α} (hx : c → Avoids f x)
    (hy : ¬c → Avoids f y) : Avoids f (if c then x else y) := by
  split <;> rename_i h
  · exact hx h
  · exact hy h

/-- A step that is taken under a condition, before a step that is taken either way. -/
protected theorem optionally {c : Prop} {_ : Decidable c} {x : Action σ Unit}
    {next : Unit → Action σ β} (hx : Avoids f x) (hnext : Avoids f (next ())) :
    Avoids f (if c then x >>= next else next ()) :=
  .ite (fun _ => hx.bind fun _ => hnext) fun _ => hnext

/-- A branch whose first case goes on as the second does. -/
protected theorem iteRest {c : Prop} {_ : Decidable c} {y : Action σ α} (hy : Avoids f y)
    (hx : Avoids f y → Avoids f x) : Avoids f (if c then x else y) :=
  .ite (fun _ => hx hy) fun _ => hy

/-- A step that is refused under a condition. -/
protected theorem guarded {c : Prop} {_ : Decidable c} {next : Unit → Action σ β} (hg : g ≠ f)
    (hnext : Avoids f (next ())) :
    Avoids f (if c then (throw g : Action σ Unit) >>= next else next ()) :=
  .optionally (.throw hg) hnext

protected theorem onPart {get : τ → σ} {set : τ → σ → τ} (hx : Avoids f x) :
    Avoids f (onPart get set x) := by
  intro t
  have ht := hx (get t)
  unfold result at ht ⊢
  unfold onPart
  cases hr : x (get t) with
  | ok a s => exact nofun
  | error e s =>
    rw [hr] at ht
    exact fun h => ht (congrArg _ (Except.error.inj h))

end Avoids

end Action

open Transceiver.Action

namespace Bus

variable {σ : Type} {f : Fault}

theorem Link.avoids_outside {α : Type} {g : Fault} (h : g ≠ f) (x : StateM σ (Option α)) :
    (Link.outside g x).Avoids f := by
  refine .onPart fun w => ?_
  unfold result ofOption
  rcases x w with ⟨_ | a, w'⟩
  · exact fun he => h (Except.error.inj he)
  · exact nofun

namespace Endpoint

variable (bus : Endpoint σ)

theorem avoids_awaitReady (n : Nat) : (bus.awaitReady n).Avoids .noMemory := by
  induction n with
  | zero => exact .throw (by decide)
  | succ n ih =>
    refine .bind (Link.avoids_outside (by decide) _) fun busy => ?_
    refine .ite (fun _ => ?_) fun _ => .pure _
    exact .bind (.modify _) fun _ => ih

theorem avoids_wake : bus.wake.Avoids .noMemory := by
  refine .bind (Link.avoids_outside (by decide) _) fun _ => ?_
  exact .bind (.modify _) fun _ => bus.avoids_awaitReady _

theorem avoids_prepare : bus.prepare.Avoids .noMemory :=
  .bind .get fun _ => .ite (fun _ => bus.avoids_wake) fun _ => bus.avoids_awaitReady _

theorem avoids_exchange (sent : List UInt8) : (bus.exchange sent).Avoids .noMemory :=
  Link.avoids_outside (by decide) _

theorem avoids_send {cmd data : List UInt8} (h : cmd.length + data.length ≤ maxTransfer) :
    (bus.send cmd data).Avoids .noMemory := by
  unfold send
  rw [if_neg (Nat.not_lt.mpr h)]
  refine bus.avoids_prepare.bind fun _ => (bus.avoids_exchange _).bind fun received => ?_
  exact .modify _

theorem avoids_write {cmd : List UInt8} (h : cmd.length ≤ maxTransfer) :
    (bus.write cmd).Avoids .noMemory := bus.avoids_send h

theorem avoids_readSingleShot {cmd : List UInt8} {n : Nat} (h : cmd.length + n ≤ maxTransfer) :
    (bus.readSingleShot cmd n).Avoids .noMemory := by
  unfold readSingleShot
  rw [if_neg (Nat.not_lt.mpr h)]
  refine bus.avoids_prepare.bind fun _ => (bus.avoids_exchange _).bind fun received => ?_
  exact .bind (.modify _) fun _ => .pure _

theorem avoids_readTwoPhase {cmd : List UInt8} {n : Nat} (hcmd : cmd.length ≤ maxTransfer)
    (hn : n + 1 ≤ maxTransfer) : (bus.readTwoPhase cmd n).Avoids .noMemory := by
  unfold readTwoPhase
  rw [if_neg (by omega)]
  refine bus.avoids_prepare.bind fun _ => (bus.avoids_exchange _).bind fun received => ?_
  refine .bind (.modify _) fun _ => (bus.avoids_awaitReady _).bind fun _ => ?_
  exact (bus.avoids_exchange _).bind fun _ => .pure _

/-- A read fits if its command does together with the answer and a status byte. -/
theorem avoids_read {cmd : List UInt8} {n : Nat} (h : cmd.length + (n + 1) ≤ maxTransfer) :
    (bus.read cmd n).Avoids .noMemory := by
  unfold read
  cases bus.handshake.protocol with
  | singleShot => exact bus.avoids_readSingleShot (by omega)
  | twoPhase => exact bus.avoids_readTwoPhase (by omega) (by omega)

theorem avoids_readDirect (n : Nat) : (bus.readDirect n).Avoids .noMemory :=
  bus.avoids_prepare.bind fun _ => (bus.avoids_exchange _).bind fun _ => .pure _

theorem avoids_writeSleep {cmd : List UInt8} (h : cmd.length ≤ maxTransfer) :
    (bus.writeSleep cmd).Avoids .noMemory := (bus.avoids_write h).bind fun _ => .modify _

theorem avoids_abort : bus.abort.Avoids .noMemory :=
  (bus.avoids_exchange _).discard.bind fun _ => (bus.avoids_awaitReady _).bind fun _ =>
    .modify _

end Endpoint

namespace Board

variable (board : Board) (bus : Endpoint σ)

theorem avoids_drive (line : Line) (high : Bool) :
    (board.drive bus line high).Avoids .noMemory := by
  refine .ite (fun _ => Link.avoids_outside ?_ _) fun _ => .pure _
  cases line <;> decide

theorem avoids_select (path : AntennaPath) : (board.select bus path).Avoids .noMemory := by
  have drive (line : Line) (high : Bool) : (board.drive bus line high).Avoids .noMemory :=
    board.avoids_drive bus line high
  cases path with
  | rx => exact (drive _ _).bind fun _ => drive _ _
  | off | tx | txExternal =>
    exact (drive _ _).bind fun _ => (drive _ _).bind fun _ => drive _ _

theorem avoids_reset : (board.reset bus).Avoids .noMemory := by
  refine .bind (.modify _) fun _ => (board.avoids_drive bus _ _).bind fun _ => ?_
  refine .bind (.modify _) fun _ => (board.avoids_drive bus _ _).bind fun _ => ?_
  exact .modify _

end Board

end Bus

theorem Lora.Modulation.encode_ne_noMemory (m : Lora.Modulation) : m.encode ≠ .error .noMemory := by
  unfold encode
  cases m.bandwidth <;> cases m.codingRate <;> cases m.longInterleaver <;> exact nofun

theorem Lora.Modulation.length_encode {m : Lora.Modulation} {bytes : List UInt8}
    (h : m.encode = .ok bytes) : bytes.length = 4 := by
  unfold encode at h
  cases hbandwidth : m.bandwidth.code <;> cases hrate : m.codingRate.code m.longInterleaver <;>
    rw [hbandwidth, hrate] at h <;> cases h
  rfl

theorem Fsk.padSyncWord_ne_noMemory (word : List UInt8) : padSyncWord word ≠ .error .noMemory := by
  unfold padSyncWord
  split <;> exact nofun

theorem Fsk.length_padSyncWord {word bytes : List UInt8} (h : padSyncWord word = .ok bytes) :
    bytes.length = maxSyncWordLength := by
  unfold padSyncWord at h
  split at h
  · cases h
  · cases h
    rw [List.length_append, List.length_replicate]
    omega

/-- There is room for the bytes that the command takes or gives. -/
def Command.Fits : Command → Prop
  | .writeBuffer _ data => data.length ≤ 262
  | .readBuffer _ n => n ≤ 255
  | _ => True

namespace Sx126x

open Bus

theorem length_imageCalibration (frequency : UInt32) : (imageCalibration frequency).length = 2 := by
  unfold imageCalibration
  repeat' split
  all_goals rfl

namespace Device

variable {σ : Type} (device : Device σ)

theorem avoids_command (op : Opcode) {args : List UInt8} (h : args.length ≤ 263) :
    (device.command op args).Avoids .noMemory := device.bus.avoids_write (Nat.succ_le_succ h)

theorem avoids_query (op : Opcode) {n : Nat} (h : n ≤ 255) :
    (device.query op n).Avoids .noMemory := by
  refine device.bus.avoids_read ?_
  simp only [List.length_cons, List.length_nil, maxTransfer]
  omega

theorem avoids_readRegister (r : Register) {n : Nat} (h : n ≤ 255) :
    (device.readRegister r n).Avoids .noMemory := by
  refine device.bus.avoids_read ?_
  simp only [List.length_append, List.length_cons, List.length_nil, BigEndian.length_bytes16,
    maxTransfer]
  omega

theorem avoids_writeRegister (r : Register) {data : List UInt8} (h : data.length ≤ 255) :
    (device.writeRegister r data).Avoids .noMemory := by
  refine device.bus.avoids_send ?_
  simp only [List.length_cons, BigEndian.length_bytes16, maxTransfer]
  omega

theorem avoids_readByte (r : Register) : (device.readByte r).Avoids .noMemory :=
  (device.avoids_readRegister r (by decide)).bind fun _ => .pure _

theorem avoids_retain (r : Register) : (device.retain r).Avoids .noMemory := by
  refine (device.avoids_readRegister _ (by decide)).bind fun list => ?_
  refine .ite (fun _ => .pure _) fun _ => ?_
  exact .guarded (by decide) (device.avoids_writeRegister _ (by simp))

theorem avoids_setStandby (crystal : Bool) : (device.setStandby crystal).Avoids .noMemory :=
  device.avoids_command _ (by simp)

theorem avoids_armInterrupts (mask : InterruptSet) :
    (device.armInterrupts mask).Avoids .noMemory := by
  unfold armInterrupts
  exact device.avoids_command _ (by simp)

theorem avoids_clearInterrupts (mask : InterruptSet) :
    (device.clearInterrupts mask).Avoids .noMemory := by
  unfold clearInterrupts
  exact device.avoids_command _ (by simp)

theorem avoids_setTcxo (voltage : TcxoVoltage) : (device.setTcxo voltage).Avoids .noMemory := by
  refine (device.avoids_command _ (by simp)).bind fun _ => ?_
  refine (device.avoids_command _ (by simp)).bind fun _ => ?_
  refine (device.avoids_command _ (by simp)).bind fun _ => ?_
  refine ((device.avoids_query _ (by decide)).bind fun _ => .pure _).discard.bind fun _ => ?_
  exact device.avoids_command _ (by simp)

theorem avoids_setUp : device.setUp.Avoids .noMemory := by
  have finish : device.updateRetention.Avoids .noMemory :=
    (device.avoids_retain _).bind fun _ => device.avoids_retain _
  unfold setUp
  refine .optionally (device.avoids_command _ (by simp)) ?_
  refine .optionally (device.avoids_command _ (by simp)) ?_
  refine (device.avoids_command _ (by simp)).bind fun _ => ?_
  refine (device.avoids_writeRegister _ (by simp)).bind fun _ => ?_
  cases device.config.tcxo with
  | some voltage => exact (device.avoids_setTcxo voltage).bind fun _ => finish
  | none =>
    have trim : (device.setTrim device.config.trim).Avoids .noMemory :=
      (device.avoids_setStandby _).bind fun _ =>
        (device.avoids_writeRegister _ (by simp)).bind fun _ => device.avoids_setStandby _
    exact trim.bind fun _ => finish

theorem avoids_setPa (pa : PaConfig) : (device.setPa pa).Avoids .noMemory := by
  refine (device.avoids_command _ (by simp)).bind fun _ => ?_
  refine (device.avoids_writeRegister _ (by simp)).bind fun _ => .ite (fun _ => ?_) fun _ => .pure _
  exact (device.avoids_readByte _).bind fun _ => device.avoids_writeRegister _ (by simp)

theorem avoids_readRandom : device.readRandom.Avoids .noMemory := by
  refine (device.avoids_readByte _).bind fun _ => ?_
  refine (device.avoids_writeRegister _ (by simp)).bind fun _ => ?_
  refine (device.avoids_readByte _).bind fun _ => ?_
  refine (device.avoids_writeRegister _ (by simp)).bind fun _ => ?_
  refine (device.avoids_command _ (by simp)).bind fun _ => ?_
  refine (device.avoids_readRegister _ (by decide)).bind fun _ => ?_
  refine (device.avoids_setStandby _).bind fun _ => ?_
  refine (device.avoids_writeRegister _ (by simp)).bind fun _ => ?_
  exact (device.avoids_writeRegister _ (by simp)).bind fun _ => .pure _

theorem avoids_setLoraModulation (m : Lora.Modulation) :
    (device.setLoraModulation m).Avoids .noMemory := by
  refine .settled m.encode_ne_noMemory fun bytes h => ?_
  have hfits : bytes.length ≤ 263 := by
    rw [Lora.Modulation.length_encode h]
    decide
  refine (device.avoids_command _ hfits).bind fun _ => (device.avoids_readByte _).bind fun _ => ?_
  exact device.avoids_writeRegister _ (by simp)

theorem avoids_setFskModulation (m : Fsk.Modulation) :
    (device.setFskModulation m).Avoids .noMemory := by
  unfold setFskModulation
  exact .guarded (by decide) (device.avoids_command _ (by simp))

/-- A command of the family runs out of room only with bytes that do not fit. -/
theorem avoids_perform {c : Command} (hc : c.Fits) : (device.perform c).Avoids .noMemory := by
  cases c with
  | readInterruptLine | awaitInterrupt => exact Link.avoids_outside (by decide) _
  | reset =>
    refine (device.board.avoids_reset _).bind fun _ => .bind (.modify _) fun _ => ?_
    exact device.bus.avoids_awaitReady _
  | setUp => exact device.avoids_setUp
  | wake => exact device.bus.avoids_wake
  | setAntenna path => exact device.board.avoids_select _ path
  | abort => exact .throw (by decide)
  | armInterrupts mask => exact device.avoids_armInterrupts mask
  | clearInterrupts mask => exact device.avoids_clearInterrupts mask
  | setStandby crystal => exact device.avoids_setStandby crystal
  | takeInterrupts =>
    refine (device.avoids_query _ (by decide)).bind fun status => ?_
    exact .optionally (device.avoids_command _ (by simp)) (.pure _)
  | takeErrors =>
    refine .bind ((device.avoids_query _ (by decide)).bind fun _ => .pure _) fun _ => ?_
    exact (device.avoids_command _ (by simp)).bind fun _ => .pure _
  | setSleep warmStart =>
    have hsleep : [Opcode.setSleep.byte, warmStart.toUInt8 <<< 2].length ≤ maxTransfer := by
      simp [maxTransfer]
    exact (device.bus.avoids_writeSleep hsleep).bind fun _ => .modify _
  | calibrateImage frequency =>
    exact device.avoids_command _ (by rw [length_imageCalibration]; decide)
  | compensateBandEdge frequency =>
    exact .ite (fun _ => device.avoids_writeRegister _ (by simp)) fun _ => .pure _
  | setPa pa => exact device.avoids_setPa pa
  | writeBuffer offset data => exact device.bus.avoids_send (Nat.add_le_add_left hc 2)
  | readBuffer offset n =>
    have hc : n ≤ 255 := hc
    refine device.bus.avoids_read ?_
    simp only [List.length_cons, List.length_nil, maxTransfer]
    omega
  | readRxBufferStatus | readLoraQuality | readFskQuality | readRssi =>
    exact (device.avoids_query _ (by decide)).bind fun _ => .pure _
  | readLoraCrcFlag => exact (device.avoids_readRegister _ (by decide)).bind fun _ => .pure _
  | readFskFillLevel => exact device.avoids_readByte _
  | setFskPayloadLength length => exact device.avoids_writeRegister _ (by simp)
  | readRandom => exact device.avoids_readRandom
  | setLoraModulation m => exact device.avoids_setLoraModulation m
  | setLoraPacket p =>
    refine (device.avoids_command _ (by simp [Lora.Packet.encode])).bind fun _ => ?_
    exact (device.avoids_readByte _).bind fun _ => device.avoids_writeRegister _ (by simp)
  | setLoraSyncWord word =>
    refine (device.avoids_readRegister _ (by decide)).bind fun _ => ?_
    exact device.avoids_writeRegister _ (by simp)
  | setLoraSymbolTimeout symbols =>
    refine (device.avoids_command _ (by simp)).bind fun _ => .ite (fun _ => ?_) fun _ => .pure _
    exact device.avoids_writeRegister _ (by simp)
  | setFskModulation m => exact device.avoids_setFskModulation m
  | setFskPacket p => exact device.avoids_command _ (by simp [Fsk.Packet.encode])
  | setFskSyncWord word =>
    refine .settled (Fsk.padSyncWord_ne_noMemory word) fun bytes h => ?_
    exact device.avoids_writeRegister _ (by rw [Fsk.length_padSyncWord h]; decide)
  | setCadParams params => exact device.avoids_command _ (by simp [Lora.CadParams.encode])
  | _ => exact device.avoids_command _ (by simp)

end Device

end Sx126x

namespace Lr11xx.Device

open Bus

variable {σ : Type} (device : Device σ)

theorem avoids_command (op : Opcode) {args : List UInt8} (h : args.length ≤ 262) :
    (device.command op args).Avoids .noMemory := by
  refine device.bus.avoids_write ?_
  rw [List.length_append, BigEndian.length_bytes16]
  exact Nat.add_le_add_left h 2

theorem avoids_query (op : Opcode) {args : List UInt8} {n : Nat} (hargs : args.length ≤ 6)
    (h : n ≤ 255) : (device.query op args n).Avoids .noMemory := by
  refine device.bus.avoids_read ?_
  rw [List.length_append, BigEndian.length_bytes16, maxTransfer]
  omega

theorem avoids_writeField (field : Field) (value : UInt32) :
    (device.writeField field value).Avoids .noMemory := by
  unfold writeField
  exact device.avoids_command _ (by simp)

theorem avoids_readField (field : Field) : (device.readField field).Avoids .noMemory :=
  (device.avoids_query _ (by simp) (by decide)).bind fun _ => .pure _

theorem avoids_setStandby (crystal : Bool) : (device.setStandby crystal).Avoids .noMemory :=
  device.avoids_command _ (by simp)

theorem avoids_armInterrupts (mask : InterruptSet) :
    (device.armInterrupts mask).Avoids .noMemory := by
  unfold armInterrupts
  exact device.avoids_command _ (by simp)

theorem avoids_clearInterrupts (mask : InterruptSet) :
    (device.clearInterrupts mask).Avoids .noMemory := by
  unfold clearInterrupts
  exact device.avoids_command _ (by simp)

theorem avoids_takeInterrupts : device.takeInterrupts.Avoids .noMemory := by
  refine (device.bus.avoids_readDirect 6).bind fun answer => ?_
  exact .optionally (device.avoids_command _ (by simp)) (.pure _)

theorem avoids_takeErrors : device.takeErrors.Avoids .noMemory := by
  refine (device.avoids_query _ (by simp) (by decide)).bind fun _ => ?_
  exact (device.avoids_command _ (by simp)).bind fun _ => .pure _

theorem avoids_setTcxo (voltage : TcxoVoltage) : (device.setTcxo voltage).Avoids .noMemory := by
  refine (device.avoids_command _ (by simp)).bind fun _ => ?_
  refine (device.avoids_command _ (by simp)).bind fun _ => ?_
  exact device.avoids_command _ (by simp)

theorem avoids_setUp : device.setUp.Avoids .noMemory := by
  unfold setUp
  cases device.config.tcxo
  case' some voltage => refine (device.avoids_setTcxo voltage).bind fun _ => ?_
  all_goals
    refine (device.avoids_setStandby _).bind fun _ => ?_
    refine (device.avoids_command _ (by simp)).bind fun _ => ?_
    cases device.config.antennaSwitch
    case' some levels => refine (device.avoids_command _ (by simp)).bind fun _ => ?_
    all_goals
      refine (device.avoids_command _ (by simp)).bind fun _ => ?_
      refine device.avoids_takeInterrupts.discard.bind fun _ => ?_
      exact device.avoids_takeErrors.discard.bind fun _ => device.avoids_command _ (by simp)

theorem avoids_setFskModulation (m : Fsk.Modulation) :
    (device.setFskModulation m).Avoids .noMemory := by
  unfold setFskModulation
  exact .guarded (by decide) (device.avoids_command _ (by simp))

theorem avoids_writeBuffer (offset : UInt8) {data : List UInt8} (h : data.length ≤ 262) :
    (device.writeBuffer offset data).Avoids .noMemory := by
  unfold writeBuffer
  refine .guarded (by decide) (device.bus.avoids_send ?_)
  exact Nat.add_le_add_left h 2

theorem avoids_readBuffer (offset : UInt8) {n : Nat} (h : n ≤ 255) :
    (device.readBuffer offset n).Avoids .noMemory := by
  unfold readBuffer
  rw [if_neg (Nat.not_lt.mpr h)]
  exact device.avoids_query _ (by simp) h

/-- A command of the family runs out of room only with bytes that do not fit. -/
theorem avoids_perform {c : Command} (hc : c.Fits) : (device.perform c).Avoids .noMemory := by
  cases c with
  | readInterruptLine | awaitInterrupt => exact Link.avoids_outside (by decide) _
  | reset =>
    refine (device.board.avoids_reset _).bind fun _ => .bind (.modify _) fun _ => ?_
    exact .bind (.modify _) fun _ => device.bus.avoids_awaitReady _
  | setUp => exact device.avoids_setUp
  | wake => exact device.bus.avoids_wake
  | setAntenna path => exact device.board.avoids_select _ path
  | abort =>
    show device.abort.Avoids .noMemory
    unfold abort
    refine .ite (fun _ => device.bus.avoids_abort) fun _ => .throw (by decide)
  | armInterrupts mask => exact device.avoids_armInterrupts mask
  | takeInterrupts => exact device.avoids_takeInterrupts
  | clearInterrupts mask => exact device.avoids_clearInterrupts mask
  | takeErrors => exact device.avoids_takeErrors
  | setStandby crystal => exact device.avoids_setStandby crystal
  | setSleep warmStart =>
    refine (device.bus.avoids_writeSleep ?_).bind fun _ => .modify _
    simp [maxTransfer]
  | calibrateImage frequency =>
    have hlength : (imageCalibration frequency).length = 2 := rfl
    exact device.avoids_command _ (by rw [hlength]; decide)
  | compensateBandEdge frequency =>
    exact .ite (fun _ => device.avoids_writeField _ _) fun _ => .pure _
  | writeBuffer offset data => exact device.avoids_writeBuffer offset hc
  | readBuffer offset n => exact device.avoids_readBuffer offset hc
  | readRxBufferStatus | readLoraQuality | readFskQuality | readLoraCrcFlag | readRssi
  | readRandom => exact (device.avoids_query _ (by simp) (by decide)).bind fun _ => .pure _
  | readFskFillLevel => exact (device.avoids_readField _).bind fun _ => .pure _
  | setFskPayloadLength length => exact device.avoids_writeField _ _
  | setLoraModulation m =>
    refine .settled m.encode_ne_noMemory fun bytes h => ?_
    exact device.avoids_command _ (by rw [Lora.Modulation.length_encode h]; decide)
  | setLoraPacket p => exact device.avoids_command _ (by simp [Lora.Packet.encode])
  | setFskModulation m => exact device.avoids_setFskModulation m
  | setFskPacket p => exact device.avoids_command _ (by simp [Fsk.Packet.encode])
  | setFskSyncWord word =>
    refine .settled (Fsk.padSyncWord_ne_noMemory word) fun bytes h => ?_
    exact device.avoids_command _ (by rw [Fsk.length_padSyncWord h]; decide)
  | setCadParams params => exact device.avoids_command _ (by simp [Lora.CadParams.encode])
  | _ => exact device.avoids_command _ (by simp)

end Lr11xx.Device

end Transceiver
