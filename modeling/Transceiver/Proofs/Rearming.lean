import Transceiver.Proofs.Bench
import Transceiver.Proofs.Dispatch

/-! Interrupts are armed again after every dispatch. Whatever a dispatch found, or failed in, its
event is announced first, and then the interrupts on record are armed with the last command of the
turn; only a radio that sleeps is left alone. -/

namespace Transceiver

/-- The policy stops at the activity that it finds. -/
def CadExit.stops : CadExit → Bool
  | .csOnly | .csLbt | .edOnly | .edLbt => true
  | .none | .csRx | .edRx => false

namespace Rig

open Station Transceiver.Action

variable {σ : Type} {rig : Rig σ} {s : Station σ} {e : Fault}

/-- The steps that a dispatch fails in: the interrupts are not disarmed, the status is not read, or
after a preamble at which the policy stops the radio does not reach standby. -/
inductive Faults (rig : Rig σ) (s : Station σ) (e : Fault) : Prop
  | disarm {s₁ : Station σ} (h : (rig.tell (.armInterrupts ∅)).result s = (.error e, s₁))
  | status {s₁ s₂ : Station σ} (hdisarm : (rig.tell (.armInterrupts ∅)).result s = (.ok (), s₁))
    (h : (rig.tell .takeInterrupts).result s₁ = (.error e, s₂))
  | standby {s₁ s₂ s₃ s₄ s₅ : Station σ} {status : InterruptSet}
    (hdisarm : (rig.tell (.armInterrupts ∅)).result s = (.ok (), s₁))
    (hstatus : (rig.tell .takeInterrupts).result s₁ = (.ok status, s₂))
    (hattend : (rig.attend status).result s₂ = (.ok (), s₃))
    (hmeaning : Meaning.of s₃.radio status = .preamble) (hpolicy : s₃.radio.cadExit.stops = true)
    (hnote : Action.result (do rig.noteRssi; endWindow) s₃ = (.ok (), s₄))
    (h : rig.standby.result s₄ = (.error e, s₅))

/-! ## Steps that do not fail -/

theorem isOk_discard_attempt {α : Type} {x : Action (Station σ) α} :
    Ends (discard (Action.attempt x)) s fun r _ => r.isOk = true :=
  ends_discard.mpr <| ends_attempt.mpr rfl

theorem isOk_attend (rig : Rig σ) (s : Station σ) (status : InterruptSet) :
    (rig.attend status).Ends s fun r _ => r.isOk = true := by
  have errors (s : Station σ) : Ends (if .chipError ∈ status then
      discard (Action.attempt (rig.tell .takeErrors)) else pure ()) s
        fun r _ => r.isOk = true := by
    refine ends_ite.mpr ?_
    split
    · exact isOk_discard_attempt
    · rfl
  refine ends_ite.mpr ?_
  split
  · exact errors _
  · exact errors s

theorem isOk_noteRssi (rig : Rig σ) (s : Station σ) : rig.noteRssi.Ends s fun r _ => r.isOk = true := by
  refine ends_bind.mpr <| ends_attempt.mpr ?_
  unfold Ends
  rcases rig.rssi.result s with ⟨_ | rssi, s₁⟩ <;> rfl

/-- A preamble alone can make an interpretation fail. -/
theorem isOk_act (rig : Rig σ) (s : Station σ) {m : Meaning} (hm : m ≠ .preamble) :
    (rig.act m).Ends s fun r _ => r.isOk = true := by
  cases m with
  | event | nothing | detected => rfl
  | preamble => exact absurd rfl hm
  | quiet event =>
    refine ends_bind.mpr <| ends_current.mpr <| ends_bind.mpr <| ends_update.mpr <| ends_ite.mpr ?_
    split
    · refine ends_ite.mpr ?_
      split
      · rfl
      · refine ends_bind.mpr <| ends_current.mpr <| ends_bind.mpr <| isOk_discard_attempt.mono ?_
        rintro (_ | _) s₁ hok
        · cases hok
        · rfl
    · rfl
  | sync =>
    refine ends_bind.mpr <| isOk_discard_attempt.mono ?_
    rintro (_ | _) s₁ hok
    · cases hok
    · rfl
  | packet modem =>
    cases modem with
    | lora =>
      refine ends_bind.mpr <| ends_attempt.mpr ?_
      unfold Ends
      rcases rig.fetchLora.result s with ⟨_ | _, s₁⟩ <;> rfl
    | fsk =>
      refine ends_bind.mpr <| ends_attempt.mpr ?_
      unfold Ends
      rcases rig.fetchFsk.result s with ⟨_ | _ | _, s₁⟩ <;> rfl

/-! ## Faults -/

/-- Activity is concluded in vain if the policy stops at it, and standby is not reached. -/
theorem concludeActivity_eq_error_iff : (rig.concludeActivity.result s).1 = .error e ↔
    s.radio.cadExit.stops = true ∧ ∃ s₁ s₂,
      Action.result (do rig.noteRssi; endWindow) s = (.ok (), s₁) ∧
        rig.standby.result s₁ = (.error e, s₂) := by
  have stopping : (((do rig.noteRssi; endWindow; rig.standby; return some .csDone) :
      Action (Station σ) (Option Event)).result s).1 = .error e ↔ ∃ s₁ s₂,
        Action.result (do rig.noteRssi; endWindow) s = (.ok (), s₁) ∧
          rig.standby.result s₁ = (.error e, s₂) := by
    obtain ⟨⟨⟩, s₀, hnote⟩ := exists_result_ok (isOk_noteRssi rig s)
    have hclosed : ∃ s₁, Action.result endWindow s₀ = (.ok (), s₁) := ⟨_, rfl⟩
    obtain ⟨s₁, hclosed⟩ := hclosed
    rw [result_bind_ok hnote, result_bind_ok hclosed, result_bind_ok hnote, hclosed]
    constructor
    · intro h
      rcases hstandby : rig.standby.result s₁ with ⟨e' | ⟨⟩, s₂⟩
      · rw [result_bind_error hstandby] at h
        obtain rfl := Except.error.inj h
        exact ⟨s₁, s₂, rfl, hstandby⟩
      · rw [result_bind_ok hstandby] at h
        cases h
    · rintro ⟨_, s₂, ⟨⟩, hstandby⟩
      rw [result_bind_error hstandby]
  -- a policy that does not stop gives no command, and cannot fail
  unfold concludeActivity
  have hcurrent : current.result s = (.ok s.radio, s) := rfl
  rw [result_bind_ok hcurrent]
  cases hpolicy : s.radio.cadExit with
  | none | csRx | edRx =>
    constructor
    · intro h
      cases h
    · intro h
      cases h.1
  | csOnly | csLbt | edOnly | edLbt => simpa [CadExit.stops] using stopping

theorem dispatch_eq_error_iff : (rig.dispatch.result s).1 = .error e ↔ rig.Faults s e := by
  -- past the status only the interpretation is left, and only that of a preamble can fail
  have opened {s₁ s₂ s₃ : Station σ} {status : InterruptSet}
      (hdisarm : (rig.tell (.armInterrupts ∅)).result s = (.ok (), s₁))
      (hstatus : (rig.tell .takeInterrupts).result s₁ = (.ok status, s₂))
      (hattend : (rig.attend status).result s₂ = (.ok (), s₃)) :
      rig.dispatch.result s = (rig.act (.of s₃.radio status)).result s₃ := by
    rw [dispatch, result_bind_ok hdisarm, result_bind_ok hstatus, result_bind_ok hattend]
    exact result_bind_ok rfl
  constructor
  · intro h
    rcases hdisarm : (rig.tell (.armInterrupts ∅)).result s with ⟨e' | ⟨⟩, s₁⟩
    · rw [dispatch, result_bind_error hdisarm] at h
      obtain rfl := Except.error.inj h
      exact .disarm hdisarm
    rcases hstatus : (rig.tell .takeInterrupts).result s₁ with ⟨e' | status, s₂⟩
    · rw [dispatch, result_bind_ok hdisarm, result_bind_error hstatus] at h
      obtain rfl := Except.error.inj h
      exact .status hdisarm hstatus
    obtain ⟨⟨⟩, s₃, hattend⟩ := exists_result_ok (isOk_attend rig s₂ status)
    rw [opened hdisarm hstatus hattend] at h
    by_cases hmeaning : Meaning.of s₃.radio status = .preamble
    · rw [hmeaning] at h
      obtain ⟨hpolicy, s₄, s₅, hnote, hstandby⟩ := concludeActivity_eq_error_iff.mp h
      exact .standby hdisarm hstatus hattend hmeaning hpolicy hnote hstandby
    · obtain ⟨found, s₄, hact⟩ := exists_result_ok (isOk_act rig s₃ hmeaning)
      rw [hact] at h
      cases h
  · rintro (hdisarm | ⟨hdisarm, hstatus⟩ | ⟨hdisarm, hstatus, hattend, hmeaning, hpolicy, hnote, h⟩)
    · rw [dispatch, result_bind_error hdisarm]
    · rw [dispatch, result_bind_ok hdisarm, result_bind_error hstatus]
    · rw [opened hdisarm hstatus hattend, hmeaning]
      exact concludeActivity_eq_error_iff.mpr ⟨hpolicy, _, _, hnote, h⟩

/-! ## Every dispatch -/

theorem length_announced (found : Except Fault (Option Event)) : (announced found).length ≤ 1 := by
  rcases found with e | _ | event <;> simp [announced]

/-- A dispatch tells the listener nothing. -/
theorem dispatch_event?_eq_none :
    ∀ x ∈ (rig.recording.dispatch.result s.recorded).2.log, x.event? = none := by
  have hdispatch : Recorded rig (·.topic ∈ serviced) dispatched rig.recording.dispatch rig.dispatch :=
    recorded_dispatch
  obtain ⟨xs, hlog, hxs⟩ := (hdispatch s.recorded).2.log
  intro x hx
  have hwithin := hxs x (by simpa [hlog] using hx)
  cases x with
  | event event => exact absurd hwithin (by simp [Exchange.Within, dispatched])
  | _ => rfl

/-- A turn that serves the interrupt is a dispatch, the event that it found, and its close. -/
theorem turn_of_dispatch (h : s.radio.state ≠ .scan) :
    let t := rig.turn s .processInterrupt
    t.after = (rig.dispatch.result s).2.radio ∧ ∃ closing,
      t.exchanges = (rig.recording.dispatch.result s.recorded).2.log ++
        (announced (rig.dispatch.result s).1).map .event ++ closing ∧
      Closes t.after (rig.dispatch.result s).1 t.outcome closing := by
  intro t
  have hdispatch : rig.dispatch.result s.recorded.erased =
      ((rig.recording.dispatch.result s.recorded).1,
        (rig.recording.dispatch.result s.recorded).2.erased) := (recorded_dispatch s.recorded).1
  rw [erased_recorded] at hdispatch
  have hends : rig.recording.processInterrupt.Ends s.recorded fun r s' =>
      s'.radio = (rig.dispatch.result s).2.radio ∧ ∃ closing,
        s'.log = (rig.recording.dispatch.result s.recorded).2.log ++
          (announced (rig.dispatch.result s).1).map .event ++ closing ∧
        Closes (rig.dispatch.result s).2.radio (rig.dispatch.result s).1 r closing := by
    rw [hdispatch]
    refine ends_bind.mpr <| ends_current.mpr <| ends_ite.mpr <| (if_neg h).mpr ?_
    exact ends_bind.mpr <| ends_attempt.mpr <| ends_conclude _
  obtain ⟨hafter, closing, hlog, hcloses⟩ := hends
  rw [← hafter] at hcloses
  exact ⟨hafter, closing, hlog, hcloses⟩

/-- **Every dispatch re-arms**, in any state but Scan and with any failures. What passed in the
dispatch comes first, then its event, if any, and then the interrupts on record are armed again with
the last command, unless the radio sleeps. A dispatch fails exactly if the interrupts are not
disarmed, the status is not read, or standby is not reached after a preamble; that is the outcome
then, and there is no event. -/
theorem rearms_after_dispatch (rig : Rig σ) (s : Station σ) (h : s.radio.state ≠ .scan) :
    let t := rig.turn s .processInterrupt
    let found := (rig.dispatch.result s).1
    let during := (rig.recording.dispatch.result s.recorded).2.log
    t.after = (rig.dispatch.result s).2.radio ∧
    (∃ closing, t.exchanges = during ++ (announced found).map .event ++ closing ∧
      (∀ x ∈ during, x.event? = none) ∧ Closes t.after found t.outcome closing) ∧
    t.events.length ≤ 1 ∧
    (t.after.state ≠ .sleep → t.given.getLast? = some (.armInterrupts t.after.mask)) ∧
    ∀ e, (found = .error e ↔ rig.Faults s e) ∧
      (rig.Faults s e → t.outcome = .error e ∧ t.events = []) := by
  intro t found during
  have hturn : t.after = (rig.dispatch.result s).2.radio ∧ ∃ closing,
      t.exchanges = during ++ (announced found).map .event ++ closing ∧
        Closes t.after found t.outcome closing := turn_of_dispatch h
  obtain ⟨hafter, closing, hexchanges, hcloses⟩ := hturn
  have hduring : ∀ x ∈ during, x.event? = none := dispatch_event?_eq_none
  have hevents : t.events = announced found := by
    have hclosing : ∀ x ∈ closing, x.event? = none := fun x hx => (hcloses.isArming x hx).event?
    rw [Turn.events, hexchanges, List.filterMap_append, List.filterMap_append,
      List.filterMap_eq_nil_iff.mpr hduring, List.filterMap_eq_nil_iff.mpr hclosing,
      List.filterMap_map, List.nil_append, List.append_nil]
    exact List.filterMap_some
  refine ⟨hafter, ⟨closing, hexchanges, hduring, hcloses⟩, hevents ▸ length_announced found,
    fun hawake => ?_, fun e => ⟨dispatch_eq_error_iff, fun hfaults => ?_⟩⟩
  · obtain ⟨armed, rfl⟩ := hcloses.awake hawake
    rw [Turn.given, hexchanges, List.filterMap_append, List.getLast?_append]
    rfl
  · have hfound : found = .error e := dispatch_eq_error_iff.mpr hfaults
    rw [hfound] at hevents hcloses
    exact ⟨hcloses.outcome_of_error, hevents⟩

end Rig

/-- A rig on the bench whose chip does not tell its status. -/
def Bench.mute : Rig (List InterruptSet) :=
  let rig := Bench.rig {}
  { rig with chip := { rig.chip with
      perform := fun
        | .takeInterrupts, statuses => .error .io statuses
        | c, statuses => rig.chip.perform c statuses } }

namespace Rig

/-- The interrupts are armed again though the status could not be read. -/
theorem rearms_after_dispatch_mute :
    let s : Station (List InterruptSet) := ⟨{ state := .rx }, []⟩
    let t := Bench.mute.turn s .processInterrupt
    s.radio.state ≠ .scan ∧ t.after.state ≠ .sleep ∧ Bench.mute.Faults s .io ∧
      t.given.getLast? = some (.armInterrupts t.after.mask) ∧ t.outcome = .error .io ∧
      t.events = [] := by
  intro s t
  have hscan : s.radio.state ≠ .scan := nofun
  have hawake : t.after.state ≠ .sleep := nofun
  have hfaults : Bench.mute.Faults s .io := .status rfl rfl
  obtain ⟨-, -, -, hlast, hfails⟩ := rearms_after_dispatch Bench.mute s hscan
  exact ⟨hscan, hawake, hfaults, hlast hawake, (hfails .io).2 hfaults⟩

end Rig

end Transceiver
