import Mathlib.Algebra.Order.Field.Rat
import Mathlib.Tactic.FieldSimp
import Mathlib.Tactic.Linarith
import Transceiver.Proofs.ModeCommand

/-! Timeouts, from the durations that are asked for to the bytes on the wires. A timer value of zero
stops the timer and the largest of 24 bits keeps it from ending, so no duration may come to one of
these markers on the way that is not the marker itself. -/

namespace Transceiver

namespace Ticks

variable {us us' ticks rate : UInt32}

/-- What a duration comes to in ticks, rounded down. -/
def wholeTicks (us rate : UInt32) : Nat := us.toNat * rate.toNat / 1000000

theorem ofMicros_marker (h : us = disabled ∨ us = continuous) : ofMicros us rate = us := if_pos h

/-- A duration that is no marker is rounded down, and clamped to what lies between the markers. -/
theorem toNat_ofMicros (h : ¬(us = disabled ∨ us = continuous)) :
    (ofMicros us rate).toNat = min (max (wholeTicks us rate) 1) 0xFFFFFE := by
  have hticks : (us.toUInt64 * rate.toUInt64 / 1000000).toNat = wholeTicks us rate := by
    have hproduct : us.toNat * rate.toNat < 2 ^ 64 :=
      calc us.toNat * rate.toNat < 2 ^ 32 * 2 ^ 32 :=
            Nat.mul_lt_mul_of_lt_of_lt us.toNat_lt rate.toNat_lt
        _ = 2 ^ 64 := by decide
    rw [UInt64.toNat_div, UInt64.toNat_mul, UInt32.toNat_toUInt64, UInt32.toNat_toUInt64,
      Nat.mod_eq_of_lt hproduct]
    rfl
  unfold ofMicros
  rw [if_neg h]
  dsimp only
  generalize us.toUInt64 * rate.toUInt64 / 1000000 = whole at hticks
  rw [← hticks]
  split
  case isTrue hshort =>
    have hshort : whole.toNat < 1 := hshort
    show 1 = _
    omega
  split
  case isTrue hlong =>
    have hlong : 0xFFFFFE < whole.toNat := hlong
    show 0xFFFFFE = _
    omega
  case isFalse hshort hlong =>
    have hshort : ¬whole.toNat < 1 := hshort
    have hlong : ¬0xFFFFFE < whole.toNat := hlong
    rw [UInt64.toNat_toUInt32]
    omega

/-- A timer value has 24 bits. -/
theorem toNat_ofMicros_lt (us rate : UInt32) : (ofMicros us rate).toNat < 0x1000000 := by
  by_cases h : us = disabled ∨ us = continuous
  · rw [ofMicros_marker h]
    rcases h with rfl | rfl <;> decide
  · rw [toNat_ofMicros h]
    omega

/-- No other duration comes to a marker. -/
theorem ofMicros_eq_marker_iff {marker : UInt32}
    (hmarker : marker = disabled ∨ marker = continuous) :
    ofMicros us rate = marker ↔ us = marker := by
  constructor
  · intro h
    by_cases hus : us = disabled ∨ us = continuous
    · rwa [ofMicros_marker hus] at h
    · have hclamped : (ofMicros us rate).toNat = min (max (wholeTicks us rate) 1) 0xFFFFFE :=
        toNat_ofMicros hus
      have hends : marker.toNat = 0 ∨ marker.toNat = 0xFFFFFF :=
        hmarker.imp (congrArg UInt32.toNat) (congrArg UInt32.toNat)
      rw [h] at hclamped
      omega
  · rintro rfl
    exact ofMicros_marker hmarker

/-- A longer duration takes no fewer ticks; the largest marker is no duration. -/
theorem ofMicros_mono (h : us ≤ us') (hus : us ≠ continuous) (hus' : us' ≠ continuous) :
    ofMicros us rate ≤ ofMicros us' rate := by
  by_cases hzero : us = disabled
  · rw [ofMicros_marker (.inl hzero), hzero, UInt32.le_iff_toNat_le]
    exact Nat.zero_le _
  have hzero' : us' ≠ disabled := by
    rintro rfl
    have h : us.toNat ≤ 0 := h
    exact hzero (UInt32.toNat_inj.mp (Nat.le_zero.mp h))
  have hwhole : wholeTicks us rate ≤ wholeTicks us' rate :=
    Nat.div_le_div_right (Nat.mul_le_mul_right _ h)
  rw [UInt32.le_iff_toNat_le, toNat_ofMicros (not_or.mpr ⟨hzero, hus⟩),
    toNat_ofMicros (not_or.mpr ⟨hzero', hus'⟩)]
  omega

theorem toNat_toMicros (hrate : rate ≠ 0) (hfits : ticks.toNat * 1000000 / rate.toNat < 2 ^ 32) :
    (toMicros ticks rate).toNat = ticks.toNat * 1000000 / rate.toNat := by
  have hproduct : ticks.toNat * 1000000 < 2 ^ 64 :=
    calc ticks.toNat * 1000000 < 2 ^ 32 * 2 ^ 32 :=
          Nat.mul_lt_mul_of_lt_of_lt ticks.toNat_lt (by decide)
      _ = 2 ^ 64 := by decide
  have hmicros : (ticks.toUInt64 * 1000000 / rate.toUInt64).toNat =
      ticks.toNat * 1000000 / rate.toNat := by
    rw [UInt64.toNat_div, UInt64.toNat_mul, UInt32.toNat_toUInt64, UInt32.toNat_toUInt64]
    exact congrArg (· / rate.toNat) (Nat.mod_eq_of_lt hproduct)
  unfold toMicros
  rw [if_neg hrate]
  dsimp only
  rw [if_neg, UInt64.toNat_toUInt32, hmicros, Nat.mod_eq_of_lt hfits]
  intro h
  have h : 0xFFFFFFFF < (ticks.toUInt64 * 1000000 / rate.toUInt64).toNat := h
  omega

/-- Where the clamp does not act, a duration is given back but for what the two roundings lose: less
than a tick, and less than a microsecond. -/
theorem toMicros_ofMicros (h : ¬(us = disabled ∨ us = continuous)) (hpos : 1 ≤ wholeTicks us rate)
    (hmax : wholeTicks us rate ≤ 0xFFFFFE) :
    (us.toNat : ℚ) - 1000000 / rate.toNat - 1 < (toMicros (ofMicros us rate) rate).toNat ∧
      toMicros (ofMicros us rate) rate ≤ us := by
  have hticks : (ofMicros us rate).toNat = wholeTicks us rate := by
    rw [toNat_ofMicros h]
    omega
  have hrate : 0 < rate.toNat := by
    refine Nat.pos_of_ne_zero fun hzero => ?_
    rw [wholeTicks, hzero] at hpos
    simp at hpos
  have hwhole : wholeTicks us rate * 1000000 ≤ us.toNat * rate.toNat := Nat.div_mul_le_self _ _
  have hrest : us.toNat * rate.toNat < 1000000 * (wholeTicks us rate + 1) :=
    Nat.lt_mul_div_succ _ (by decide)
  have hrest' := Nat.lt_mul_div_succ (wholeTicks us rate * 1000000) hrate
  have hle : wholeTicks us rate * 1000000 / rate.toNat ≤ us.toNat :=
    Nat.div_le_of_le_mul (hwhole.trans_eq (Nat.mul_comm _ _))
  have hback : (toMicros (ofMicros us rate) rate).toNat =
      wholeTicks us rate * 1000000 / rate.toNat := by
    have hne : rate ≠ 0 := by
      rintro rfl
      exact absurd hrate (by decide)
    rw [toNat_toMicros hne, hticks]
    rw [hticks]
    exact Nat.lt_of_le_of_lt hle us.toNat_lt
  constructor
  case right => exact UInt32.le_iff_toNat_le.mpr (hback.trans_le hle)
  rw [hback]
  generalize wholeTicks us rate * 1000000 / rate.toNat = micros at hrest'
  have hlost : us.toNat * rate.toNat < (micros + 1) * rate.toNat + 1000000 := by
    rw [Nat.mul_comm (micros + 1)]
    omega
  have hlost : (us.toNat : ℚ) * rate.toNat < (micros + 1) * rate.toNat + 1000000 := by
    exact_mod_cast hlost
  have hrate : (0 : ℚ) < rate.toNat := by exact_mod_cast hrate
  have hquotient : (us.toNat : ℚ) < micros + 1 + 1000000 / rate.toNat := by
    refine lt_of_mul_lt_mul_right ?_ hrate.le
    rwa [add_mul, div_mul_cancel₀ _ hrate.ne']
  linarith

/-- Durations become timer values and back at this rate: a marker for a marker, and anything else
rounded down and clamped to what lies between the markers. -/
structure Converts (rate : UInt32) : Prop where
  disabled_iff : ∀ us, ofMicros us rate = disabled ↔ us = disabled
  continuous_iff : ∀ us, ofMicros us rate = continuous ↔ us = continuous
  clamped : ∀ us, us ≠ disabled → us ≠ continuous →
    (ofMicros us rate).toNat = min (max (us.toNat * rate.toNat / 1000000) 1) 0xFFFFFE
  mono : ∀ us us', us ≤ us' → us ≠ continuous → us' ≠ continuous →
    ofMicros us rate ≤ ofMicros us' rate
  back : ∀ us, us ≠ disabled → us ≠ continuous → 1 ≤ us.toNat * rate.toNat / 1000000 →
    us.toNat * rate.toNat / 1000000 ≤ 0xFFFFFE →
      (us.toNat : ℚ) - 1000000 / rate.toNat - 1 < (toMicros (ofMicros us rate) rate).toNat ∧
        toMicros (ofMicros us rate) rate ≤ us

theorem converts (rate : UInt32) : Converts rate where
  disabled_iff _ := ofMicros_eq_marker_iff (.inl rfl)
  continuous_iff _ := ofMicros_eq_marker_iff (.inr rfl)
  clamped _ hdisabled hcontinuous := toNat_ofMicros (not_or.mpr ⟨hdisabled, hcontinuous⟩)
  mono _ _ := ofMicros_mono
  back _ hdisabled hcontinuous := toMicros_ofMicros (not_or.mpr ⟨hdisabled, hcontinuous⟩)

end Ticks

/-! ## On the wires -/

namespace Bus

/-- The numbers of 24 bits that arguments spell. -/
def words24 : List UInt8 → List Nat
  | hi :: mid :: lo :: more => BigEndian.value [hi, mid, lo] :: words24 more
  | _ => []

def Protocol.opcodeLength : Protocol → Nat
  | .singleShot => 1
  | .twoPhase => 2

/-- The state that the chip is brought to by what was sent, and the numbers that go with it. -/
def Protocol.timed? (protocol : Protocol) (sent : List UInt8) : Option (RadioState × List Nat) :=
  (protocol.mode? sent).map fun state => (state, words24 (sent.drop protocol.opcodeLength))

/-- The states that the chip was sent to so far, and the numbers that went with them. -/
def Link.timed {σ : Type} (protocol : Protocol) (l : Link (σ × List Signal)) :
    List (RadioState × List Nat) :=
  l.sent.filterMap protocol.timed?

theorem Protocol.timed?_eq_none {protocol : Protocol} {sent : List UInt8}
    (h : protocol.mode? sent = none) : protocol.timed? sent = none := by
  rw [timed?, h]
  rfl

end Bus

/-- The state that a command with timer values brings the chip to, and the values. -/
def Command.timed? : Command → Option (RadioState × List UInt32)
  | .setTx ticks => some (.tx, [ticks])
  | .setRx ticks => some (.rx, [ticks])
  | .setRxDutyCycle rxTicks sleepTicks => some (.rxDutyCycle, [rxTicks, sleepTicks])
  | _ => none

/-- The same for the low 24 bits of the values of a command that the chip accepted. -/
def Exchange.timed : Exchange → List (RadioState × List Nat)
  | .command c (.ok _) =>
    (c.timed?.map fun timed => (timed.1, timed.2.map (·.toNat % 0x1000000))).toList
  | _ => []

/-- The state that an operation with timeouts brings the radio to, and the durations. -/
def Operation.timed? : Operation → Option (RadioState × List UInt32)
  | .startTx timeout => some (.tx, [timeout])
  | .startRx timeout => some (.rx, [timeout])
  | .startRxDutyCycle rx rest => some (.rxDutyCycle, [rx, rest])
  | _ => none

theorem Exchange.timed_of_timed? {c : Command} {r : c.Reply} {timed : RadioState × List UInt32}
    (hc : c.timed? = some timed) :
    (Exchange.command c (.ok r)).timed = [(timed.1, timed.2.map (·.toNat % 0x1000000))] := by
  rw [Exchange.timed, hc]
  rfl

open Bus

theorem Sx126x.Device.adds_mode {σ : Type} (device : Sx126x.Device σ) (op : Opcode)
    {state : RadioState} (h : modes.find? (·.1 = op) = some (op, state)) (args : List UInt8) :
    Adds Protocol.singleShot.timed? [(state, words24 args)] (device.recording.command op args) := by
  have hread : Protocol.singleShot.timed? (op.byte :: args) = some (state, words24 args) := by
    cases op <;> cases h <;> rfl
  exact Adds.write device.bus hread

theorem Lr11xx.Device.adds_mode {σ : Type} (device : Lr11xx.Device σ) (op : Opcode)
    {state : RadioState} (h : modes.find? (·.1 = op) = some (op, state)) (args : List UInt8) :
    Adds Protocol.twoPhase.timed? [(state, words24 args)] (device.recording.command op args) := by
  have hread : Protocol.twoPhase.timed? (BigEndian.bytes16 op.word ++ args) =
      some (state, words24 args) := by
    cases op <;> cases h <;> rfl
  exact Adds.write device.bus hread

namespace Device

variable {σ : Type} (device : Device σ)

theorem hushes_timed {c : Command} (hc : c.IsStill) (hdraw : c ≠ .readRandom) :
    device.Hushes (device.protocol.timed? · = none) c := by
  have hstill : device.Hushes (device.protocol.mode? · = none) c :=
    device.hushes_still hc fun _ => hdraw
  cases device with
  | sx126x device | lr11xx device =>
    exact fun op hop args => Protocol.timed?_eq_none (hstill op hop args)

theorem adds_timed {c : Command} {timed : RadioState × List UInt32} (hc : c.timed? = some timed) :
    Adds device.protocol.timed? [(timed.1, timed.2.map (·.toNat % 0x1000000))]
      (device.recording.chip.perform c) := by
  cases c with
  | setTx ticks =>
    cases hc
    simp only [List.map_cons, List.map_nil, ← BigEndian.value_bytes24]
    cases device with
    | sx126x device | lr11xx device =>
      exact device.adds_mode .setTx rfl (BigEndian.bytes24 ticks)
  | setRx ticks =>
    cases hc
    simp only [List.map_cons, List.map_nil, ← BigEndian.value_bytes24]
    cases device with
    | sx126x device | lr11xx device =>
      exact device.adds_mode .setRx rfl (BigEndian.bytes24 ticks)
  | setRxDutyCycle rxTicks restTicks =>
    cases hc
    simp only [List.map_cons, List.map_nil, ← BigEndian.value_bytes24]
    cases device with
    | sx126x device =>
      exact device.adds_mode .setRxDutyCycle rfl
        (BigEndian.bytes24 rxTicks ++ BigEndian.bytes24 restTicks)
    | lr11xx device =>
      exact device.adds_mode .setRxDutyCycle rfl
        (BigEndian.bytes24 rxTicks ++ BigEndian.bytes24 restTicks ++ [0])
  | _ => cases hc

end Device

theorem Command.IsStill.timed_eq_nil {c : Command} (h : c.IsStill) (r : Except Fault c.Reply) :
    (Exchange.command c r).timed = [] := by
  have hnone : c.timed? = none := by
    have htopic := h.1
    cases c <;> first | rfl | exact absurd rfl htopic
  cases r <;> simp [Exchange.timed, hnone]

/-- Commands that bring the chip to no state, and then one with timer values, which the chip
accepted. -/
inductive Starts (timed : RadioState × List UInt32) : List Exchange → Prop
  | last {c : Command} {r : c.Reply} : c.timed? = some timed → Starts timed [.command c (.ok r)]
  | told {c : Command} {r : Except Fault c.Reply} {xs : List Exchange} : c.IsStill →
    c ≠ .readRandom → Starts timed xs → Starts timed (.command c r :: xs)

namespace Starts

variable {timed : RadioState × List UInt32} {xs : List Exchange}

theorem flatMap_timed (h : Starts timed xs) :
    xs.flatMap Exchange.timed = [(timed.1, timed.2.map (·.toNat % 0x1000000))] := by
  induction h with
  | last hc => exact (List.append_nil _).trans (Exchange.timed_of_timed? hc)
  | @told c r xs hstill _ _ ih =>
    rw [List.flatMap_cons, hstill.timed_eq_nil, List.nil_append, ih]

theorem mem (h : Starts timed xs) {x : Exchange} (hx : x ∈ xs) :
    ∃ c r, x = .command c r ∧
      (c.IsStill ∧ c ≠ .readRandom ∨ r.isOk = true ∧ c.timed? = some timed) := by
  induction h with
  | @last c r hc =>
    cases List.mem_singleton.mp hx
    exact ⟨c, .ok r, rfl, .inr ⟨rfl, hc⟩⟩
  | @told c r xs hstill hdraw _ ih =>
    rcases List.mem_cons.mp hx with rfl | hx
    · exact ⟨c, r, rfl, .inl ⟨hstill, hdraw⟩⟩
    · exact ih hx

/-- A command before the others. -/
theorem after {log log' : List Exchange} {c : Command} {r : Except Fault c.Reply} (hc : c.IsStill)
    (hdraw : c ≠ .readRandom)
    (h : ∃ xs, log' = log ++ [.command c r] ++ xs ∧ Starts timed xs) :
    ∃ xs, log' = log ++ xs ∧ Starts timed xs := by
  obtain ⟨xs, hlog, hxs⟩ := h
  exact ⟨.command c r :: xs, hlog.trans (List.append_assoc _ _ _), .told hc hdraw hxs⟩

end Starts

namespace Rig

open Station Transceiver.Action

variable {σ α : Type} {rig : Rig σ}

/-- A step that starts the chip with these timer values, if it succeeds. -/
def Starting (timed : RadioState × List UInt32) (x : Action (Station (σ × List Exchange)) α) :
    Prop :=
  ∀ s, x.Ends s fun r s' => r.isOk = true → ∃ xs, s'.log = s.log ++ xs ∧ Starts timed xs

section Starting
variable {timed : RadioState × List UInt32} {c : Command}
  {f : c.Reply → Action (Station (σ × List Exchange)) α}

theorem starting_ensure {allowed : RadioState → Bool}
    {f : Unit → Action (Station (σ × List Exchange)) α} (h : Starting timed (f ())) :
    Starting timed (ensure allowed >>= f) := by
  intro s
  refine ends_bind.mpr <| ends_ensure.mpr ?_
  split
  · exact nofun
  split
  · exact h s
  · exact nofun

theorem starting_current {f : Radio → Action (Station (σ × List Exchange)) α}
    (h : ∀ r, Starting timed (f r)) : Starting timed (current >>= f) := fun s => h s.radio s

theorem starting_tell (hc : c.IsStill) (hdraw : c ≠ .readRandom) (h : ∀ a, Starting timed (f a)) :
    Starting timed (rig.recording.tell c >>= f) := by
  intro s
  refine ends_tell_bind (fun _ _ => nofun) fun a w => (h a _).mono fun r s' hstarts hok => ?_
  exact Starts.after hc hdraw (hstarts hok)

theorem starting_order (hc : c.IsStill) (hdraw : c ≠ .readRandom) (h : ∀ a, Starting timed (f a)) :
    Starting timed (rig.recording.order c >>= f) := by
  intro s
  refine ends_order_bind (fun _ _ => nofun) fun a w => (h a _).mono fun r s' hstarts hok => ?_
  exact Starts.after hc hdraw (hstarts hok)

theorem starting_last {state : RadioState} (hc : c.timed? = some timed) :
    Starting timed (rig.recording.order c >>= fun _ => enter state) := by
  intro s
  refine ends_order_bind (fun _ _ => nofun) fun a w => ends_enter.mpr fun _ => ?_
  exact ⟨[.command c (.ok a)], rfl, .last hc⟩

end Starting

theorem starting_startTx (timeout : UInt32) :
    Starting (.tx, [rig.ticks timeout]) (rig.recording.startTx timeout) := by
  refine starting_ensure <| starting_current fun r => ?_
  refine starting_tell (by simp [Command.IsStill]) (by simp) fun _ => ?_
  refine starting_tell (by simp [Command.IsStill]) (by simp) fun _ => ?_
  exact starting_last rfl

theorem starting_startRx (timeout : UInt32) :
    Starting (.rx, [rig.ticks timeout]) (rig.recording.startRx timeout) := by
  refine starting_ensure <| starting_current fun r => ?_
  refine starting_order (by simp [Command.IsStill]) (by simp) fun _ => ?_
  refine starting_tell (by simp [Command.IsStill]) (by simp) fun _ => ?_
  refine starting_tell (by simp [Command.IsStill]) (by simp) fun _ => ?_
  exact starting_last rfl

theorem starting_startRxDutyCycle (rx rest : UInt32) :
    Starting (.rxDutyCycle, [rig.ticks rx, rig.ticks rest])
      (rig.recording.startRxDutyCycle rx rest) := by
  intro s
  refine ends_ite.mpr ?_
  split
  · exact nofun
  revert s
  refine starting_ensure ?_
  refine starting_tell (by simp [Command.IsStill]) (by simp) fun _ => ?_
  refine starting_tell (by simp [Command.IsStill]) (by simp) fun _ => ?_
  exact starting_last rfl

/-- An operation with timeouts that succeeds starts the chip with them. -/
theorem turn_starts {s : Station σ} {op : Operation} {timed : RadioState × List UInt32}
    (hop : op.timed? = some timed) (h : (rig.turn s op).Succeeds) :
    Starts (timed.1, timed.2.map rig.ticks) (rig.turn s op).exchanges := by
  have hstarting : Starting (timed.1, timed.2.map rig.ticks) (rig.recording.perform op) := by
    cases op with
    | startTx timeout =>
      cases hop
      exact starting_startTx timeout
    | startRx timeout =>
      cases hop
      exact starting_startRx timeout
    | startRxDutyCycle rx rest =>
      cases hop
      exact starting_startRxDutyCycle rx rest
    | _ => cases hop
  obtain ⟨xs, hlog, hxs⟩ := hstarting s.recorded h
  rw [turn, hlog]
  exact hxs

end Rig

namespace Device

variable {σ : Type} (device : Device σ) {host : Host σ} {config : Config}
  {s : Station (Link (σ × List Signal))} {op : Operation}

theorem timed_turn {timed : RadioState × List UInt32} (hop : op.timed? = some timed)
    (hsucceeds : ((device.recordedRig host config).turn s op).Succeeds) :
    ((device.recordedRig host config).step s op).world.timed device.protocol =
      s.world.timed device.protocol ++
        ((device.recordedRig host config).turn s op).exchanges.flatMap Exchange.timed := by
  have hzeros : IgnoresZeros device.protocol.timed? := fun n =>
    Protocol.timed?_eq_none (device.protocol.mode?_zeros n)
  refine Rig.turn_leads.accumulates fun x hx _ _ hmoves => ?_
  obtain ⟨c, r, rfl, hc⟩ := (Rig.turn_starts hop hsucceeds).mem hx
  refine adds_of_moves hzeros Exchange.timed (fun hx => by cases hx) (fun _ _ hx => ?_) hmoves
  cases hx
  rcases hc with ⟨hstill, hdraw⟩ | ⟨hok, htimed⟩
  · exact .inl ⟨device.hushes_timed hstill hdraw, hstill.timed_eq_nil r⟩
  · cases r with
    | error e => cases hok
    | ok a =>
      rw [Exchange.timed_of_timed? htimed]
      exact .inr ⟨rfl, device.adds_timed htimed⟩

/-- An operation with timeouts that succeeds sends one command that brings the chip to a state, with
the durations in ticks. -/
theorem timeouts_on_the_wires {state : RadioState} {durations : List UInt32}
    (hop : op.timed? = some (state, durations))
    (hsucceeds : ((device.recordedRig host config).turn s op).Succeeds) :
    let rate := device.chip.tickRate
    ((device.recordedRig host config).step s op).world.timed device.protocol =
        s.world.timed device.protocol ++
          [(state, durations.map fun us => (Ticks.ofMicros us rate).toNat)] ∧
      rate = (match device with | .sx126x _ => 64000 | .lr11xx _ => 32768) ∧
      Ticks.Converts rate := by
  intro rate
  refine ⟨?_, ?_, Ticks.converts rate⟩
  · have hstarts := Rig.turn_starts hop hsucceeds
    have hrate : device.recording.chip.tickRate = rate := by cases device <;> rfl
    have hbytes (us : UInt32) :
        ((device.recordedRig host config).ticks us).toNat % 0x1000000 =
          (Ticks.ofMicros us rate).toNat := by
      rw [← hrate]
      exact Nat.mod_eq_of_lt (Ticks.toNat_ofMicros_lt _ _)
    rw [device.timed_turn hop hsucceeds, hstarts.flatMap_timed, List.map_map]
    exact congrArg (fun values => _ ++ [(state, values)])
      (List.map_congr_left fun us _ => hbytes us)
  · cases device <;> rfl

theorem timeouts_on_the_wires_duty_cycle :
    let rig := Bench.device.recordedRig Bench.host (Bench.rig {}).config
    let s := rig.run ⟨{}, { world := ((), []) }⟩ [.powerUp]
    let op := Operation.startRxDutyCycle 1000000 5000000
    op.timed? = some (.rxDutyCycle, [1000000, 5000000]) ∧ (rig.turn s op).Succeeds ∧
      (rig.step s op).world.timed .singleShot =
        s.world.timed .singleShot ++ [(.rxDutyCycle, [64000, 320000])] := by
  intro rig s op
  have hsucceeds : (rig.turn s op).Succeeds := by decide +kernel
  clear_value s
  obtain ⟨hsent, -, -⟩ := timeouts_on_the_wires Bench.device rfl hsucceeds
  exact ⟨rfl, hsucceeds, hsent⟩

end Device

end Transceiver
