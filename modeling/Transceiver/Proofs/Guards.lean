import Transceiver.Proofs.Scan

/-! The guards of the operations. An operation is meant for some states of the radio. In any other
state it is refused before the chip is sent anything, with the record of the radio as it was, and
with a fault that depends on the state alone. A hold while a scan already owns the radio is the one
refusal that reports another fault. -/

namespace Transceiver

/-- What the state has to be for an operation to go on. -/
inductive Guard where
  | inStandby
  | awake
  | unscanned
  deriving DecidableEq

/-- The states that a guard lets pass. -/
def Guard.states : Guard → List RadioState
  | .inStandby => [.standby]
  | .awake => [.standby, .rx, .tx, .cad, .rxDutyCycle]
  | .unscanned => [.unknown, .standby, .sleep, .rx, .tx, .cad, .rxDutyCycle, .busy]

/-- The guard of an operation. What ends or serves a scan, awaits or serves an interrupt, or lets
the radio go has none. -/
def Operation.guard? : Operation → Option Guard
  | .setFrequency _ | .setTxPower _ | .setBusy | .holdScan | .isChannelFree .. | .channelNoise _ =>
    some .inStandby
  | .startTx _ | .startRx _ | .startContinuousRx | .startCarrierSense .. | .startRxDutyCycle ..
  | .startCad | .startCarrier .. => some .awake
  | .standby | .sleep _ | .powerUp | .setModem _ | .setRegion _ | .setTxPayload _
  | .setCadParams _ | .rssi | .random | .setLoraModulation _ | .setLoraPacket _
  | .setLoraSyncWord _ | .setLoraSymbolTimeout _ | .setFskModulation _ | .setFskPacket _
  | .setFskSyncWord _ => some .unscanned
  | .release | .releaseScan | .abortScan | .awaitInterrupt | .processInterrupt
  | .scanInterrupt _ => none

/-- The fault that a guard reports in a state that it does not let pass. -/
def RadioState.refusal (state : RadioState) : Fault :=
  if state = .scan then .busy else .invalidState

/-- What an operation exchanges before it looks at the state: a hold makes sure that no interrupt is
pending. -/
def Operation.looks : Operation → List Exchange
  | .holdScan => [.command .readInterruptLine (.ok false)]
  | _ => []

theorem Operation.given_looks {op : Operation} :
    ∀ c ∈ op.looks.filterMap Exchange.given?, ¬c.IsSent := by
  cases op with
  | holdScan =>
    intro c hc hsent
    rw [List.mem_singleton.mp hc] at hsent
    exact hsent rfl
  | _ => exact fun _ hc => absurd hc List.not_mem_nil

namespace Rig

open Station Transceiver.Action

variable {σ α : Type} {rig : Rig σ}

/-- What an operation checks before it looks at the state is in order. -/
def Prepared (rig : Rig σ) (s : Station σ) : Operation → Prop
  | .setTxPayload payload => payload ≠ []
  | .startRxDutyCycle rx sleep => rx ≠ 0 ∧ sleep ≠ 0
  | .holdScan => rig.chip.supportsScan s.world = true ∧
      ((rig.chip.perform .readInterruptLine).result s.world).1 = .ok false
  | _ => True

/-! ## Guards that are shut -/

section Refused
variable {s : Station σ}

/-- A guard that does not let the state pass reports a fault that depends on the state alone. -/
theorem ends_ensure_refused {allowed : RadioState → Bool} {f : Unit → Action (Station σ) α}
    {Q : Except Fault α → Station σ → Prop} (h : allowed s.radio.state = false) :
    (ensure allowed >>= f).Ends s Q ↔ Q (.error s.radio.state.refusal) s := by
  have hshut : ¬allowed s.radio.state = true := by rw [h]; nofun
  rw [ends_bind, ends_ensure, if_neg hshut, RadioState.refusal]
  by_cases hscan : s.radio.state = .scan
  · simp only [if_pos hscan]
  · simp only [if_neg hscan]

theorem eq_scan_of_unscanned (h : s.radio.state ∉ Guard.unscanned.states) :
    s.radio.state = .scan := by
  cases hstate : s.radio.state with
  | scan => rfl
  | _ => simp [hstate, Guard.states] at h

theorem not_awake (h : s.radio.state ∉ Guard.awake.states) : s.radio.state.isAwake = false := by
  cases hstate : s.radio.state with
  | standby | rx | tx | cad | rxDutyCycle => simp [hstate, Guard.states] at h
  | _ => rfl

theorem not_inStandby (h : s.radio.state ∉ Guard.inStandby.states) :
    decide (s.radio.state = .standby) = false := by
  simpa [Guard.states] using h

end Refused

/-- What an operation exchanges, and what it reports, when its guard is shut. -/
structure Shut (op : Operation) (s : Station (σ × List Exchange)) (r : Except Fault op.Reply)
    (s' : Station (σ × List Exchange)) : Prop where
  radio : s'.radio = s.radio
  log : s'.log = s.log ++ op.looks
  fault : r = .error (if op = .holdScan then .invalidState else s.radio.state.refusal)

namespace Shut

variable {op : Operation} {s : Station (σ × List Exchange)}

theorem refused (hlooks : op.looks = []) (hop : op ≠ .holdScan) :
    Shut op s (.error s.radio.state.refusal) s where
  radio := rfl
  log := by rw [hlooks, List.append_nil]
  fault := by rw [if_neg hop]

theorem busy (hscan : s.radio.state = .scan) (hlooks : op.looks = []) (hop : op ≠ .holdScan) :
    Shut op s (.error .busy) s := by
  have hrefusal : s.radio.state.refusal = .busy := if_pos hscan
  rw [← hrefusal]
  exact .refused hlooks hop

end Shut

section Operations
variable {s : Station (σ × List Exchange)}

theorem shut_holdScan (hstate : s.radio.state ∉ Guard.inStandby.states)
    (hsupports : rig.chip.supportsScan s.erased.world = true)
    (hline : ((rig.chip.perform .readInterruptLine).result s.erased.world).1 = .ok false) :
    rig.recording.holdScan.Ends s (Shut .holdScan s) := by
  unfold holdScan
  refine ends_bind.mpr <| ends_get.mpr <| ends_ite.mpr <| (if_pos hsupports).mpr ?_
  have hlook : rig.recording.tell .readInterruptLine |>.Ends s fun r s' =>
      r = .ok false ∧ s'.radio = s.radio ∧ s'.log = s.log ++ Operation.holdScan.looks := by
    rw [Ends, result_recording_tell, ← hline]
    exact ⟨rfl, rfl, by rw [Operation.looks, ← hline]; rfl⟩
  refine ends_bind.mpr <| hlook.mono ?_
  rintro _ s' ⟨rfl, hradio, hlog⟩
  refine ends_ite.mpr <| (if_neg Bool.false_ne_true).mpr ?_
  refine ends_bind.mpr <| ends_current.mpr <| ends_ite.mpr ?_
  have hother : s'.radio.state ≠ .standby := by
    rw [hradio]
    exact of_decide_eq_false (not_inStandby hstate)
  rw [if_pos hother]
  exact ⟨hradio, hlog, rfl⟩

theorem shut_perform {op : Operation} {guard : Guard} (hguard : op.guard? = some guard)
    (hstate : s.radio.state ∉ guard.states) (hprepared : rig.Prepared s.erased op) :
    (rig.recording.perform op).Ends s (Shut op s) := by
  cases op with
  | holdScan =>
    obtain rfl : Guard.inStandby = guard := Option.some.inj hguard
    exact shut_holdScan hstate hprepared.1 hprepared.2
  | setFrequency | setTxPower | setBusy =>
    obtain rfl : Guard.inStandby = guard := Option.some.inj hguard
    exact (ends_ensure_refused (not_inStandby hstate)).mpr (.refused rfl nofun)
  | isChannelFree | channelNoise =>
    obtain rfl : Guard.inStandby = guard := Option.some.inj hguard
    exact ends_bind.mpr <| (ends_ensure_refused (not_inStandby hstate)).mpr (.refused rfl nofun)
  | startTx | startRx | startContinuousRx | startCarrierSense | startCad | startCarrier =>
    obtain rfl : Guard.awake = guard := Option.some.inj hguard
    exact (ends_ensure_refused (not_awake hstate)).mpr (.refused rfl nofun)
  -- The arguments of this one and of the payload are checked before the state.
  | startRxDutyCycle rx sleep =>
    obtain rfl : Guard.awake = guard := Option.some.inj hguard
    refine ends_ite.mpr <| (if_neg (not_or.mpr hprepared)).mpr ?_
    exact (ends_ensure_refused (not_awake hstate)).mpr (.refused rfl nofun)
  | setTxPayload payload =>
    obtain rfl : Guard.unscanned = guard := Option.some.inj hguard
    have hscan : s.radio.state = .scan := eq_scan_of_unscanned hstate
    refine ends_ite.mpr <| (if_neg hprepared).mpr <| (ends_ensureNotScanning_bind hscan).mpr ?_
    exact .busy hscan rfl nofun
  | standby =>
    obtain rfl : Guard.unscanned = guard := Option.some.inj hguard
    have hscan : s.radio.state = .scan := eq_scan_of_unscanned hstate
    exact (ends_standby_scan hscan).mpr (.busy hscan rfl nofun)
  | sleep duration =>
    obtain rfl : Guard.unscanned = guard := Option.some.inj hguard
    have hscan : s.radio.state = .scan := eq_scan_of_unscanned hstate
    exact (ends_sleep_scan hscan).mpr (.busy hscan rfl nofun)
  | powerUp | setModem | setRegion | setCadParams | rssi | random | setLoraModulation
  | setLoraPacket | setLoraSyncWord | setLoraSymbolTimeout | setFskModulation | setFskPacket
  | setFskSyncWord =>
    obtain rfl : Guard.unscanned = guard := Option.some.inj hguard
    have hscan : s.radio.state = .scan := eq_scan_of_unscanned hstate
    exact (ends_ensureNotScanning_bind hscan).mpr (.busy hscan rfl nofun)
  | _ => cases hguard

end Operations

/-- In every state that the guard of an operation does not let pass, with arguments in order, the
operation sends the chip nothing, leaves the record of the radio alone and is refused: as busy while
a scan owns the radio and as an invalid state otherwise, exactly unless it is a hold during a scan,
which is refused as an invalid state too. -/
theorem refused_uniformly_iff (rig : Rig σ) (s : Station σ) (op : Operation) (guard : Guard)
    (hguard : op.guard? = some guard) (hstate : s.radio.state ∉ guard.states)
    (hprepared : rig.Prepared s op) :
    let t := rig.turn s op
    t.exchanges = op.looks ∧ (∀ c ∈ t.given, ¬c.IsSent) ∧ t.after = s.radio ∧
      (t.outcome = .error s.radio.state.refusal ↔ ¬(op = .holdScan ∧ s.radio.state = .scan)) ∧
      (op = .holdScan → t.outcome = .error .invalidState) := by
  intro t
  have hshut : (rig.recording.perform op).Ends s.recorded (Shut op s.recorded) :=
    shut_perform hguard hstate hprepared
  have hexchanges : t.exchanges = op.looks := hshut.log
  have hfault : t.outcome =
      .error (if op = .holdScan then .invalidState else s.radio.state.refusal) := hshut.fault
  refine ⟨hexchanges, ?_, hshut.radio, ?_, fun hop => by rw [hfault, if_pos hop]⟩
  · rw [Turn.given, hexchanges]
    exact Operation.given_looks
  · rw [hfault, Except.error.injEq]
    by_cases hop : op = .holdScan
    · by_cases hscan : s.radio.state = .scan <;> simp [hop, hscan, RadioState.refusal]
    · simp [hop]

/-- A transmission that is asked of a radio that sleeps. -/
theorem refused_uniformly_iff_asleep :
    let rig := Bench.rig {}
    let s := rig.run ⟨{}, []⟩ [.powerUp, .sleep 0]
    s.radio.state ∉ Guard.awake.states ∧ (rig.turn s (.startTx 0)).exchanges = [] ∧
      (rig.turn s (.startTx 0)).outcome = .error .invalidState := by
  intro rig s
  have hstate : s.radio.state = .sleep := by decide +kernel
  have hguard : s.radio.state ∉ Guard.awake.states := by rw [hstate]; decide
  obtain ⟨hexchanges, -, -, houtcome, -⟩ :=
    refused_uniformly_iff rig s (.startTx 0) .awake rfl hguard trivial
  refine ⟨hguard, hexchanges, ?_⟩
  rw [houtcome.mpr nofun, hstate]
  rfl

/-- A hold while a scan owns the radio is not refused as busy. -/
theorem refused_otherwise :
    let rig := Bench.rig {}
    let s := rig.run ⟨{}, []⟩ [.powerUp, .holdScan]
    s.radio.state = .scan ∧ Operation.holdScan.guard? = some .inStandby ∧
      s.radio.state ∉ Guard.inStandby.states ∧ rig.Prepared s .holdScan ∧
      (rig.turn s .holdScan).outcome = .error .invalidState ∧ s.radio.state.refusal = .busy := by
  exact ⟨by decide +kernel, rfl, by decide +kernel, ⟨rfl, rfl⟩, rfl, by decide +kernel⟩

end Rig

end Transceiver
