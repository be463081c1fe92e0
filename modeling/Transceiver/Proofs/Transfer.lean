import Transceiver.Proofs.Device
import Transceiver.Proofs.History

/-! What a device sends over its wires. A reading picks out of the transfers what some commands say.
A command of the driver adds nothing to a reading that none of its opcodes means anything to, and
one that succeeds adds what its steps add. -/

namespace Transceiver

namespace Bus

def Signal.sent? : Signal → Option (List UInt8)
  | .transfer sent _ => some sent
  | _ => none

/-- The bytes sent so far, transfer by transfer. -/
def Link.sent {σ : Type} (l : Link (σ × List Signal)) : List (List UInt8) :=
  l.signals.filterMap Signal.sent?

section Readings
variable {σ α β γ : Type} {f : List UInt8 → Option γ}

theorem hushed_read_sent (ys : List γ) (xs : List Signal) (x : Signal) (hx : x.Hushed (f · = none))
    (hxs : (xs.filterMap Signal.sent?).filterMap f = ys) :
    ((xs ++ [x]).filterMap Signal.sent?).filterMap f = ys := by
  rw [List.filterMap_append, List.filterMap_append, hxs]
  cases x with
  | transfer sent received =>
    have hnone : f sent = none := hx.sent sent received rfl
    simp [Signal.sent?, hnone]
  | _ => simp [Signal.sent?]

/-- A step that succeeds adds `ys` to what is read. -/
def Adds (f : List UInt8 → Option γ) (ys : List γ) (x : Action (Link (σ × List Signal)) α) : Prop :=
  ∀ l, x.Ends l fun r l' => r.isOk = true → l'.sent.filterMap f = l.sent.filterMap f ++ ys

namespace Adds

open Transceiver.Action

variable {x : Action (Link (σ × List Signal)) α} {ys zs : List γ} {bus : Endpoint σ}

protected theorem pure (a : α) : Adds (σ := σ) f [] (pure a) := fun _ _ => (List.append_nil _).symm

theorem of_keeps (h : ∀ ys, x.Keeps fun l => l.sent.filterMap f = ys) : Adds f [] x := fun l =>
  (h _ l rfl).mono fun _ _ hsent _ => by rw [hsent, List.append_nil]

protected theorem bind {g : α → Action (Link (σ × List Signal)) β} (hx : Adds f ys x)
    (hg : ∀ a, Adds f zs (g a)) : Adds f (ys ++ zs) (x >>= g) := fun l =>
  ends_bind.mpr <| (hx l).mono fun
    | .ok a, l', h => (hg a l').mono fun _ _ h' hok => by
        rw [h' hok, h rfl, List.append_assoc]
    | .error _, _, _ => nofun

theorem send (bus : Endpoint σ) (cmd data : List UInt8) :
    Adds f (f (cmd ++ data)).toList (bus.recording.send cmd data) := by
  have prepared (ys : List γ) :
      bus.recording.prepare.Keeps fun l => l.sent.filterMap f = ys :=
    Endpoint.hushed_prepare (hushed_read_sent ys)
  intro l
  refine ends_ite.mpr ?_
  split
  · exact nofun
  refine ends_bind.mpr <| (prepared _ l rfl).mono fun
    | .error _, _, _ => nofun
    | .ok _, l', hl => ?_
  refine ends_bind.mpr <| Endpoint.ends_exchange (fun _ => nofun) fun received w => ?_
  refine ends_modify.mpr fun _ => ?_
  have hsent : (l'.noting w (.transfer (cmd ++ data) (some received.toList))).sent.filterMap f =
      l'.sent.filterMap f ++ (f (cmd ++ data)).toList := by
    simp only [Link.sent, Link.signals_noting, List.filterMap_append]
    cases hread : f (cmd ++ data) <;> simp [Signal.sent?, hread]
  rw [← hl]
  exact hsent

theorem write (bus : Endpoint σ) {cmd : List UInt8} {y : γ} (h : f cmd = some y) :
    Adds f [y] (bus.recording.write cmd) := by
  have hadds := send (f := f) bus cmd []
  rw [List.append_nil, h] at hadds
  exact hadds

end Adds

end Readings

end Bus

namespace Device

open Bus Transceiver.Action

variable {σ α γ : Type} {device : Device σ} {host : Host σ} {config : Config}
  {f : List UInt8 → Option γ}

/-- Whatever starts with an opcode of the command is quiet. -/
def Hushes (device : Device σ) (quiet : List UInt8 → Prop) (c : Command) : Prop :=
  match device with
  | .sx126x _ => ∀ op ∈ Sx126x.opcodes c, op.Fits quiet
  | .lr11xx _ => ∀ op ∈ Lr11xx.opcodes c, op.Fits quiet

/-- The zeros that are sent for an answer to be read mean nothing. -/
def IgnoresZeros (f : List UInt8 → Option γ) : Prop := ∀ n, f (.replicate n 0) = none

theorem keeps_sent (hzeros : IgnoresZeros f) {c : Command} (hc : device.Hushes (f · = none) c)
    (ys : List γ) :
    (device.recording.chip.perform c).Keeps fun l => l.sent.filterMap f = ys := by
  have select (board : Board) (bus : Endpoint σ) (path : AntennaPath) :
      (board.select bus.recording path).Keeps fun l => l.sent.filterMap f = ys := by
    refine Board.keeps_select (fun line high _ l hl => ?_) path
    have driven (w : σ) (done : Bool) :
        (l.noting w (.drive line high done)).sent.filterMap f = ys := by
      rw [← hl, Link.sent, Link.signals_noting, List.filterMap_append]
      simp [Signal.sent?, Link.sent]
    exact Endpoint.ends_drive (fun _ => hl) (fun _ w => driven w _) fun w => driven w _
  cases device with
  | sx126x device | lr11xx device =>
    exact device.hushed_perform (hushed_read_sent ys) hzeros hc fun path _ =>
      select device.board device.bus path

theorem sent_of_moves {x : Exchange} {l l' : Link (σ × List Signal)} (hx : x.given? = none)
    (h : (device.recordedRig host config).Moves l x l') : l'.sent = l.sent := by
  cases x with
  | command c r => cases hx
  | pause us =>
    subst h
    cases device with
    | sx126x device | lr11xx device =>
      show (l.noting _ (.delayMicros us)).sent = l.sent
      rw [Link.sent, Link.signals_noting, List.filterMap_append]
      exact List.append_nil _
  | clock time =>
    have hl : ((device.recordedRig host config).host.now l).2 = l' := congrArg Prod.snd h
    subst hl
    rfl
  | event | sleepStart =>
    subst h
    rfl

/-- An exchange adds nothing to a reading if its command means nothing to it, and what the steps of
the command add if it was accepted. -/
theorem adds_of_moves (hzeros : IgnoresZeros f) (added : Exchange → List γ) {x : Exchange}
    (hnone : x.given? = none → added x = [])
    (hcommand : ∀ c r, x = .command c r → device.Hushes (f · = none) c ∧ added x = [] ∨
      r.isOk = true ∧ Adds f (added x) (device.recording.chip.perform c))
    {l l' : Link (σ × List Signal)} (h : (device.recordedRig host config).Moves l x l') :
    l'.sent.filterMap f = l.sent.filterMap f ++ added x := by
  cases hx : x.given? with
  | none => rw [sent_of_moves hx h, hnone hx, List.append_nil]
  | some c =>
    cases x with
    | command c r =>
      have hresult : (device.recording.chip.perform c).result l = (r, l') := h
      rcases hcommand c r rfl with ⟨hc, hadded⟩ | ⟨hok, hadds⟩
      · have hkept := keeps_sent hzeros hc _ l rfl
        rw [Ends, hresult] at hkept
        rw [hkept, hadded, List.append_nil]
      · have hends := hadds l
        rw [Ends, hresult] at hends
        exact hends hok
    | _ => cases hx

end Device

end Transceiver
