import Transceiver.Proofs.Bench
import Transceiver.Proofs.History

/-! Ownership by a scan. From the operation that hands the radio to the scan subsystem until one
that takes it back, every operation leaves the record of the radio alone, the listener is told
nothing, and the chip is sent nothing but the abort that the scan subsystem asks for. An operation
that takes the radio back sets the modem and the interrupts again, whatever becomes of the first
of the two. -/

namespace Transceiver

/-- What an operation tells the chip while a scan owns the radio. -/
def Operation.toldInScan : Operation → List Command
  | .holdScan => [.readInterruptLine]
  | .awaitInterrupt => [.awaitInterrupt]
  | .abortScan => [.abort]
  | _ => []

/-- The command is sent to the chip, and does not just look at the interrupt line. -/
def Command.IsSent (c : Command) : Prop := c.topic ≠ .line

theorem Operation.isSent_toldInScan {op : Operation} {c : Command} (h : c ∈ op.toldInScan)
    (hsent : c.IsSent) : c = .abort ∧ op = .abortScan := by
  cases op with
  | abortScan => exact ⟨List.mem_singleton.mp h, rfl⟩
  | holdScan | awaitInterrupt =>
    rw [List.mem_singleton.mp h] at hsent
    exact absurd rfl hsent
  | _ => exact absurd h List.not_mem_nil

/-- The station goes on with the same record, after no more than these commands. -/
structure Station.Waits {σ : Type} (told : List Command) (s s' : Station (σ × List Exchange)) :
    Prop where
  radio : s'.radio = s.radio
  log : ∃ xs, s'.log = s.log ++ xs ∧ ∀ x ∈ xs, ∃ c ∈ told, ∃ r, x = .command c r

theorem Station.Waits.refl {σ : Type} {told : List Command} (s : Station (σ × List Exchange)) :
    s.Waits told s :=
  ⟨rfl, [], (List.append_nil _).symm, fun _ hx => absurd hx List.not_mem_nil⟩

/-- The modem and the interrupts on record are set again, with these outcomes. -/
def Radio.restoration (r : Radio) (modem armed : Except Fault Unit) : List Exchange :=
  [.command (.setModem r.modem) modem, .command (.armInterrupts r.mask) armed]

/-- The station has left the scan for another state, after the restoration and nothing else. -/
structure Station.Leaves {σ : Type} (s s' : Station (σ × List Exchange)) : Prop where
  state : s'.radio.state ≠ .scan
  radio : s'.radio = { s.radio with state := s'.radio.state }
  log : ∃ modem armed, s'.log = s.log ++ s.radio.restoration modem armed

/-- In this turn the record of the radio stayed the same, and nothing passed but commands: none was
sent to the chip but the abort that the turn was about. -/
structure Turn.IsIdle (r : Radio) (t : Turn) : Prop where
  before : t.before = r
  after : t.after = r
  events : t.events = []
  commands : ∀ x ∈ t.exchanges, ∃ c outcome, x = .command c outcome ∧
    (c.IsSent → c = .abort ∧ t.operation = .abortScan)

namespace Rig

open Station Transceiver.Action

variable {σ α : Type} {rig : Rig σ}

/-- The operation ends a scan: it takes the radio back, or it forwards that the scan is done or that
the chip rejected the command that started it. -/
def EndsScan (rig : Rig σ) (s : Station σ) : Operation → Prop
  | .releaseScan => True
  | .scanInterrupt status => .gnssScanDone ∈ status ∨ .wifiScanDone ∈ status ∨
      .commandError ∈ status ∧ (rig.chip.busStatus s.world).lastCommand ∈ [0x0409, 0x040A]
  | _ => False

/-- No operation of the run ends a scan. -/
def HoldsScan (rig : Rig σ) : Station σ → List Operation → Prop
  | _, [] => True
  | s, op :: ops => ¬rig.EndsScan s op ∧ HoldsScan rig (rig.step s op) ops

/-! ## Operations that a scan refuses -/

section Refused
variable {s : Station σ} {Q : Except Fault α → Station σ → Prop}

theorem ends_ensureNotScanning_bind {f : Unit → Action (Station σ) α}
    (h : s.radio.state = .scan) : (ensureNotScanning >>= f).Ends s Q ↔ Q (.error .busy) s := by
  rw [ends_bind, ends_ensureNotScanning, if_pos h]

theorem ends_ensure_bind {allowed : RadioState → Bool} {f : Unit → Action (Station σ) α}
    (h : s.radio.state = .scan) : (ensure allowed >>= f).Ends s Q ↔ Q (.error .busy) s := by
  rw [ends_bind, ends_ensure, if_pos h]

theorem ends_standby_scan {Q : Except Fault Unit → Station σ → Prop} (h : s.radio.state = .scan) :
    rig.standby.Ends s Q ↔ Q (.error .busy) s := by
  unfold standby
  simp only [ends_bind, ends_current, ends_ite, h, if_true, ends_throw]

theorem ends_sleep_scan {Q : Except Fault Unit → Station σ → Prop} {duration : UInt32}
    (h : s.radio.state = .scan) : (rig.sleep duration).Ends s Q ↔ Q (.error .busy) s := by
  unfold sleep
  simp only [ends_bind, ends_current, ends_ite, h, if_true, ends_throw]

end Refused

/-! ## Operations while a scan owns the radio -/

section Scanning
variable {s : Station (σ × List Exchange)}

theorem waits_tell {c : Command} {told : List Command} (hc : c ∈ told) :
    (rig.recording.tell c).Ends s fun _ => s.Waits told :=
  ends_recording_tell fun r _ =>
    ⟨rfl, [.command c r], rfl, fun _ hx => ⟨c, hc, r, List.mem_singleton.mp hx⟩⟩

theorem ends_ensureScanning_bind {f : Unit → Action (Station (σ × List Exchange)) α}
    {Q : Except Fault α → Station (σ × List Exchange) → Prop} (h : s.radio.state = .scan) :
    (ensureScanning >>= f).Ends s Q ↔ (f ()).Ends s Q := by
  simp only [ensureScanning, ends_bind, ends_current, h, ne_eq, not_true_eq_false, if_false,
    ends_pure]

theorem waits_holdScan (h : s.radio.state = .scan) :
    rig.recording.holdScan.Ends s fun _ => s.Waits [.readInterruptLine] := by
  unfold holdScan
  refine ends_bind.mpr <| ends_get.mpr <| ends_ite.mpr ?_
  split
  case isFalse => exact .refl s
  refine ends_bind.mpr <| (waits_tell (List.mem_singleton_self _)).mono fun r s' hwaits => ?_
  cases r with
  | error e => exact hwaits
  | ok line =>
    cases line with
    | true => exact hwaits
    | false =>
      refine ends_bind.mpr <| ends_current.mpr ?_
      simp only [hwaits.radio, h]
      exact hwaits

theorem waits_scanInterrupt {status : InterruptSet} (h : s.radio.state = .scan)
    (hends : ¬rig.EndsScan s.erased (.scanInterrupt status)) :
    (rig.recording.scanInterrupt status).Ends s fun _ => s.Waits [] := by
  obtain ⟨hgnss, hwifi, herror⟩ :
      .gnssScanDone ∉ status ∧ .wifiScanDone ∉ status ∧
        ¬(.commandError ∈ status ∧
          (rig.chip.busStatus s.erased.world).lastCommand ∈ [0x0409, 0x040A]) := by
    simpa only [EndsScan, not_or] using hends
  refine (ends_ensureScanning_bind h).mpr <| ends_ite.mpr ?_
  rw [if_neg (by simp [hgnss, hwifi])]
  exact ends_bind.mpr <| ends_get.mpr <| ends_ite.mpr <| (if_neg herror).mpr (.refl s)

/-- An operation that does not end the scan finds its guard shut, or tells the chip no more than a
scan allows. -/
theorem waits_perform (op : Operation) (h : s.radio.state = .scan)
    (hends : ¬rig.EndsScan s.erased op) :
    (rig.recording.perform op).Ends s fun _ => s.Waits op.toldInScan := by
  cases op with
  | release => exact .refl s
  | powerUp | setModem | setRegion | setCadParams | rssi | random | setLoraModulation
  | setLoraPacket | setLoraSyncWord | setLoraSymbolTimeout | setFskModulation | setFskPacket
  | setFskSyncWord => exact (ends_ensureNotScanning_bind h).mpr (.refl s)
  | setBusy | setFrequency | setTxPower | startTx | startCarrier | startRx | startContinuousRx
  | startCarrierSense | startCad => exact (ends_ensure_bind h).mpr (.refl s)
  -- The arguments of these two are checked before the state.
  | setTxPayload payload =>
    refine ends_ite.mpr ?_
    split
    · exact .refl s
    · exact (ends_ensureNotScanning_bind h).mpr (.refl s)
  | startRxDutyCycle rx sleep =>
    refine ends_ite.mpr ?_
    split
    · exact .refl s
    · exact (ends_ensure_bind h).mpr (.refl s)
  | isChannelFree | channelNoise => exact ends_bind.mpr <| (ends_ensure_bind h).mpr (.refl s)
  | standby => exact (ends_standby_scan h).mpr (.refl s)
  | sleep duration => exact (ends_sleep_scan h).mpr (.refl s)
  | processInterrupt =>
    refine ends_bind.mpr <| ends_current.mpr <| ends_ite.mpr ?_
    rw [if_pos h]
    exact .refl s
  | holdScan => exact waits_holdScan h
  | abortScan => exact (ends_ensureScanning_bind h).mpr <| waits_tell (List.mem_singleton_self _)
  | awaitInterrupt => exact waits_tell (List.mem_singleton_self _)
  | scanInterrupt status => exact waits_scanInterrupt h hends
  | releaseScan => exact absurd trivial hends

theorem ends_restore : rig.recording.restore.Ends s fun _ s' => s'.radio = s.radio ∧
    ∃ modem armed, s'.log = s.log ++ s.radio.restoration modem armed := by
  refine ends_bind.mpr <| ends_current.mpr <| ends_bind.mpr <| ends_attempt.mpr ?_
  refine ends_recording_tell fun modem _ => ends_bind.mpr <| ends_attempt.mpr ?_
  refine ends_recording_tell fun armed _ => ends_bind.mpr <| ends_settle.mpr ?_
  -- The interrupts were armed before the outcome of either command matters.
  cases modem with
  | error e => exact ⟨rfl, .error e, armed, List.append_assoc ..⟩
  | ok => exact ends_settle.mpr ⟨rfl, .ok (), armed, List.append_assoc ..⟩

theorem leaves_endScan {state : RadioState} (h : state ≠ .scan) :
    (rig.recording.endScan state).Ends s fun _ => s.Leaves := by
  refine ends_bind.mpr <| ends_attempt.mpr <| ends_restore.mono ?_
  rintro r s' ⟨hradio, hlog⟩
  refine ends_bind.mpr <| ends_enter.mpr <| ends_settle.mpr ⟨h, ?_, hlog⟩
  rw [hradio]

theorem leaves_perform {op : Operation} (h : s.radio.state = .scan)
    (hends : rig.EndsScan s.erased op) :
    (rig.recording.perform op).Ends s fun _ => s.Leaves := by
  cases op with
  | releaseScan => exact (ends_ensureScanning_bind h).mpr <| leaves_endScan nofun
  | scanInterrupt status =>
    refine (ends_ensureScanning_bind h).mpr <| ends_ite.mpr ?_
    split
    · exact leaves_endScan nofun
    rename_i hdone
    rw [not_or] at hdone
    have herror := (hends.resolve_left hdone.1).resolve_left hdone.2
    refine ends_bind.mpr <| ends_get.mpr <| ends_ite.mpr <| (if_pos herror).mpr ?_
    exact leaves_endScan nofun
  | _ => exact absurd hends id

theorem ends_holdScan : rig.recording.holdScan.Ends s fun r s' =>
    r.isOk = true → s'.radio = { s.radio with state := .scan } := by
  unfold holdScan
  refine ends_bind.mpr <| ends_get.mpr <| ends_ite.mpr ?_
  split
  case isFalse => exact nofun
  refine ends_tell_bind (fun _ _ => nofun) fun line _ => ends_ite.mpr ?_
  split
  · exact nofun
  refine ends_bind.mpr <| ends_current.mpr <| ends_ite.mpr ?_
  split
  · exact nofun
  · exact fun _ => rfl

end Scanning

/-! ## Runs -/

section Runs
variable {s : Station σ} {op : Operation}

theorem turn_holdScan (h : (rig.turn s .holdScan).Succeeds) :
    (rig.step s .holdScan).radio = { s.radio with state := .scan } := by
  have hends : rig.recording.holdScan.Ends s.recorded fun r s' =>
      r.isOk = true → s'.radio = { s.recorded.radio with state := .scan } := ends_holdScan
  rw [← turn_after]
  exact hends h

theorem turn_waits (h : s.radio.state = .scan) (hends : ¬rig.EndsScan s op) :
    (rig.turn s op).after = s.radio ∧
      ∀ x ∈ (rig.turn s op).exchanges, ∃ c ∈ op.toldInScan, ∃ r, x = .command c r := by
  have hwaits : (rig.recording.perform op).Ends s.recorded fun _ => s.recorded.Waits op.toldInScan :=
    waits_perform op h hends
  obtain ⟨xs, hlog, hxs⟩ := hwaits.log
  refine ⟨hwaits.radio, fun x hx => hxs x ?_⟩
  rw [turn, hlog] at hx
  exact hx

theorem turn_leaves (h : s.radio.state = .scan) (hends : rig.EndsScan s op) :
    (rig.turn s op).after.state ≠ .scan ∧
      ∃ modem armed, (rig.turn s op).exchanges = s.radio.restoration modem armed := by
  have hleaves : (rig.recording.perform op).Ends s.recorded fun _ => s.recorded.Leaves :=
    leaves_perform h hends
  exact ⟨hleaves.state, hleaves.log⟩

theorem turn_isIdle (h : s.radio.state = .scan) (hends : ¬rig.EndsScan s op) :
    (rig.turn s op).IsIdle s.radio := by
  obtain ⟨hafter, hcommands⟩ := turn_waits h hends
  refine ⟨rfl, hafter, ?_, fun x hx => ?_⟩
  · refine List.filterMap_eq_nil_iff.mpr fun x hx => ?_
    obtain ⟨c, -, r, rfl⟩ := hcommands x hx
    rfl
  · obtain ⟨c, hc, r, rfl⟩ := hcommands x hx
    exact ⟨c, r, rfl, Operation.isSent_toldInScan hc⟩

/-- A scan keeps the radio to itself for as long as no operation ends it. -/
theorem history_isIdle (ops : List Operation) (h : s.radio.state = .scan)
    (hops : rig.HoldsScan s ops) :
    (∀ t ∈ rig.history s ops, t.IsIdle s.radio) ∧ (rig.run s ops).radio = s.radio := by
  induction ops generalizing s with
  | nil => exact ⟨fun _ ht => absurd ht List.not_mem_nil, rfl⟩
  | cons op ops ih =>
    have hturn : (rig.turn s op).IsIdle s.radio := turn_isIdle h hops.1
    have hradio : (rig.step s op).radio = s.radio := turn_after.symm.trans hturn.after
    obtain ⟨hrest, hrun⟩ := ih (hradio ▸ h) hops.2
    rw [hradio] at hrest hrun
    exact ⟨List.forall_mem_cons.mpr ⟨hturn, hrest⟩, hrun⟩

/-- From the hold of a scan until an operation that ends it, nothing changes in the record of the
radio, and nothing passes but an abort. The operation that ends it sets the modem and the interrupts
again, and does so whatever becomes of the first of the two. -/
theorem scan_owns_radio (rig : Rig σ) (s : Station σ) (ops : List Operation)
    (hheld : (rig.turn s .holdScan).Succeeds) (hops : rig.HoldsScan (rig.step s .holdScan) ops) :
    let held := rig.step s .holdScan
    held.radio = { s.radio with state := .scan } ∧
      (∀ t ∈ rig.history held ops, t.IsIdle held.radio) ∧
      (rig.run held ops).radio = held.radio ∧
      ∀ op, let t := rig.turn (rig.run held ops) op
        (t.after.state ≠ .scan ↔ rig.EndsScan (rig.run held ops) op) ∧
          (t.after.state ≠ .scan →
            ∃ modem armed, t.exchanges = held.radio.restoration modem armed) := by
  intro held
  have hradio : held.radio = { s.radio with state := .scan } := turn_holdScan hheld
  have hstate : held.radio.state = .scan := congrArg Radio.state hradio
  obtain ⟨hturns, hrun⟩ := history_isIdle ops hstate hops
  refine ⟨hradio, hturns, hrun, fun op => ?_⟩
  rw [← hrun] at hstate ⊢
  by_cases hends : rig.EndsScan (rig.run held ops) op
  · obtain ⟨hleft, hexchanges⟩ := turn_leaves hstate hends
    exact ⟨iff_of_true hleft hends, fun _ => hexchanges⟩
  · have hkept : (rig.turn (rig.run held ops) op).after.state = .scan := by
      rw [(turn_isIdle hstate hends).after, hstate]
    exact ⟨iff_of_false (not_not_intro hkept) hends, fun hleft => absurd hkept hleft⟩

/-- A scan over which the application sleeps, starts and restarts the radio. -/
theorem scan_owns_radio_busy :
    let rig := Bench.rig {}
    let held := rig.step (rig.step ⟨{}, []⟩ .powerUp) .holdScan
    let ops := [.sleep 5, .startTx 0, .processInterrupt, .powerUp, .abortScan, .scanInterrupt ∅]
    (∀ t ∈ rig.history held ops, t.IsIdle held.radio) ∧
      ∃ modem armed, (rig.turn (rig.run held ops) .releaseScan).exchanges =
        held.radio.restoration modem armed := by
  intro rig held ops
  have hops (s : Station (List InterruptSet)) : rig.HoldsScan s ops := by
    simp [ops, HoldsScan, EndsScan, InterruptSet.not_mem_empty]
  obtain ⟨-, hturns, -, hexits⟩ :=
    scan_owns_radio rig (rig.step ⟨{}, []⟩ .powerUp) ops (by decide +kernel) (hops _)
  obtain ⟨hends, hexchanges⟩ := hexits .releaseScan
  exact ⟨hturns, hexchanges (hends.mpr trivial)⟩

end Runs

end Rig

end Transceiver
