import Transceiver.Proofs.Bench
import Transceiver.Proofs.History

/-! Starts that fail. Each start gives its commands in full before it notes the new state, so one
that fails leaves the record as it was. A carrier sense window is the exception: it notes its narrow
mask before the command that arms it, and does not take the note back. -/

namespace Transceiver

/-- The operation starts to transmit, to receive or to detect activity, or prepares for that. -/
def Operation.isStart : Operation → Bool
  | .startTx _ | .startRx _ | .startContinuousRx | .startCarrierSense .. | .startRxDutyCycle ..
  | .startCad | .setCadParams _ => true
  | _ => false

/-- The chip was told in this turn to arm the narrow mask of a carrier sense window. -/
def Turn.Narrows (t : Turn) : Prop := .armInterrupts .carrierSense ∈ t.given

instance (t : Turn) : Decidable t.Narrows := inferInstanceAs (Decidable (_ ∈ _))

namespace Rig

open Station Transceiver.Action

variable {σ : Type} {rig : Rig σ}

/-! ## Starts that note nothing before they succeed -/

section Record
variable {r : Radio}

theorem spares_update {P : Station σ → Prop} {f : Radio → Radio} : (update f).Spares P :=
  .of_isOk fun _ => rfl

theorem keeps_radio_tell (c : Command) : (rig.tell c).Keeps (·.radio = r) := by
  intro s hs
  rw [Ends, result_tell]
  exact hs

theorem keeps_radio_order (c : Command) : (rig.order c).Keeps (·.radio = r) :=
  (keeps_radio_tell c).reporting _

theorem spares_startTx (timeout : UInt32) : (rig.startTx timeout).Spares (·.radio = r) :=
  .after (keeps_ensure _) fun _ => .after keeps_current fun _ => .after (keeps_radio_tell _) fun _ =>
    .after (keeps_radio_tell _) fun _ => .after (keeps_radio_order _) fun _ => spares_update

theorem spares_receiveFor (ticks : UInt32) : (rig.receiveFor ticks).Spares (·.radio = r) :=
  .after keeps_current fun _ => .after (keeps_radio_order _) fun _ =>
    .after (keeps_radio_tell _) fun _ => .after (keeps_radio_tell _) fun _ =>
      .after (keeps_radio_order _) fun _ => spares_update

theorem spares_startRxDutyCycle (rx sleep : UInt32) :
    (rig.startRxDutyCycle rx sleep).Spares (·.radio = r) := by
  refine .ite (.of_keeps (.throw _)) <| .after (keeps_ensure _) fun _ => ?_
  exact .after (keeps_radio_tell _) fun _ => .after (keeps_radio_tell _) fun _ =>
    .after (keeps_radio_order _) fun _ => spares_update

theorem spares_startCad : rig.startCad.Spares (·.radio = r) := by
  refine .after (keeps_ensure _) fun _ => .after keeps_current fun _ => ?_
  refine .ite (.of_keeps (.throw _)) <| .after (keeps_radio_tell _) fun _ => ?_
  exact .after (keeps_radio_tell _) fun _ => .after (keeps_radio_order _) fun _ => spares_update

theorem spares_setCadParams (params : Lora.CadParams) :
    (rig.setCadParams params).Spares (·.radio = r) := by
  refine .after keeps_ensureNotScanning fun _ => .ite ?_ (.of_keeps (.throw _))
  exact .after (keeps_radio_order _) fun _ => spares_update

end Record

end Rig

/-! ## The start of a carrier sense window -/

/-- The record `r`, with the narrow mask on it if the chip was told to arm that. -/
def Radio.narrowedBy (r : Radio) (given : List Command) : Radio :=
  { r with mask := if .armInterrupts .carrierSense ∈ given then .carrierSense else r.mask }

namespace Radio

variable {r : Radio} {given : List Command} {c : Command}

theorem narrowedBy_of_not_mem (h : .armInterrupts .carrierSense ∉ given) :
    r.narrowedBy given = r := by
  rw [narrowedBy, if_neg h]

theorem narrowedBy_of_mem (h : .armInterrupts .carrierSense ∈ given) :
    r.narrowedBy given = { r with mask := .carrierSense } := by
  rw [narrowedBy, if_pos h]

theorem narrowedBy_concat (hc : c ≠ .armInterrupts .carrierSense) :
    r.narrowedBy (given ++ [c]) = r.narrowedBy given := by
  simp [narrowedBy, hc.symm]

theorem narrowedBy_concat_arm :
    r.narrowedBy (given ++ [.armInterrupts .carrierSense]) =
      { r.narrowedBy given with mask := .carrierSense } := by
  simp [narrowedBy]

end Radio

/-- The record is `r`, narrowed by what was given so far. -/
def Station.NarrowedFrom {σ : Type} (r : Radio) (s : Station (σ × List Exchange)) : Prop :=
  s.radio = r.narrowedBy (s.log.filterMap Exchange.given?)

namespace Rig

open Station Transceiver.Action

variable {σ : Type} {rig : Rig σ} {r : Radio}

theorem narrowed_tell {c : Command} (hc : c ≠ .armInterrupts .carrierSense) :
    (rig.recording.tell c).Keeps (NarrowedFrom r) := fun s hs => ends_recording_tell fun r' w => by
  show s.radio = r.narrowedBy ((s.log ++ [_]).filterMap _)
  rw [List.filterMap_append]
  exact Eq.trans hs (Radio.narrowedBy_concat hc).symm

theorem narrowed_order {c : Command} (hc : c ≠ .armInterrupts .carrierSense) :
    (rig.recording.order c).Keeps (NarrowedFrom r) := (narrowed_tell hc).reporting _

theorem spares_startCarrierSense (params : Fsk.CarrierSense) (exit : CadExit) :
    (rig.recording.startCarrierSense params exit).Spares (NarrowedFrom r) := by
  refine .after (keeps_ensure _) fun _ => .after keeps_current fun _ => ?_
  refine .ite (.of_keeps (.throw _)) <| .after (narrowed_order nofun) fun _ => ?_
  refine .after (narrowed_tell nofun) fun _ => .after (narrowed_tell nofun) fun _ s hs => ?_
  -- The mask is noted here, before the chip is told of it: only both together keep the record so.
  have told (outcome : Except Fault Unit) (w : σ) :
      NarrowedFrom r (σ := σ) { radio := { s.radio with mask := .carrierSense }, world :=
        (w, s.log ++ [.command (.armInterrupts .carrierSense) outcome]) } := by
    show { s.radio with mask := .carrierSense } = r.narrowedBy ((s.log ++ [_]).filterMap _)
    rw [hs, List.filterMap_append]
    exact Radio.narrowedBy_concat_arm.symm
  refine ends_bind.mpr <| ends_update.mpr <| ends_tell_bind (fun e w => .inr (told _ w)) fun _ w => ?_
  have note : Spares (NarrowedFrom r (σ := σ)) (do
      update ({ · with carrierSense := some params, cadExit := exit })
      enter .rx) := .of_isOk fun _ => rfl
  refine Spares.after ?_ (fun _ => note) _ (told (.ok ()) w)
  exact narrowed_order nofun

/-! ## Turns -/

variable {s : Station σ} {op : Operation}

/-- Only the start of a carrier sense window arms the narrow mask. -/
theorem eq_startCarrierSense_of_narrows (hop : op.isStart) (h : (rig.turn s op).Narrows) :
    ∃ params exit, op = .startCarrierSense params exit := by
  have hgives : op.Gives (.armInterrupts .carrierSense) := gives_of_mem_given turn_within.1 h
  cases op with
  | startCarrierSense params exit => exact ⟨params, exit, rfl⟩
  | startTx | startRx | startContinuousRx | startRxDutyCycle | startCad | setCadParams =>
    simp [Operation.Gives, Operation.topics] at hgives
  | _ => cases hop

/-- A start that fails leaves the record as it was, but for the narrow mask if that was given. -/
theorem after_of_fails (hop : op.isStart) (hfails : ¬(rig.turn s op).Succeeds) :
    (rig.turn s op).after = s.radio.narrowedBy (rig.turn s op).given := by
  have kept (hspares : (rig.recording.perform op).Spares (·.radio = s.radio))
      (hnot : ¬∃ params exit, op = .startCarrierSense params exit) :
      (rig.turn s op).after = s.radio.narrowedBy (rig.turn s op).given := by
    rw [Radio.narrowedBy_of_not_mem fun h => hnot (eq_startCarrierSense_of_narrows hop h)]
    exact (hspares s.recorded rfl).resolve_left hfails
  cases op with
  | startTx timeout => exact kept (spares_startTx timeout) nofun
  | startRx timeout => exact kept (.after (keeps_ensure _) fun _ => spares_receiveFor _) nofun
  | startContinuousRx => exact kept (.after (keeps_ensure _) fun _ => spares_receiveFor _) nofun
  | startRxDutyCycle rx sleep => exact kept (spares_startRxDutyCycle rx sleep) nofun
  | startCad => exact kept spares_startCad nofun
  | setCadParams params => exact kept (spares_setCadParams params) nofun
  | startCarrierSense params exit =>
    have hnarrowed : s.recorded.NarrowedFrom s.radio :=
      (Radio.narrowedBy_of_not_mem List.not_mem_nil).symm
    exact (spares_startCarrierSense params exit s.recorded hnarrowed).resolve_left hfails
  | _ => cases hop

/-- A start that fails, whatever it is given and wherever the chip fails, leaves the whole record as
it was exactly unless it told the chip to arm the narrow mask, and that was not on record already.
The narrow mask is then all that it leaves, and the start is that of a carrier sense window. -/
theorem unchanged_iff_not_narrowed (rig : Rig σ) (s : Station σ) (op : Operation)
    (hop : op.isStart) (hfails : ¬(rig.turn s op).Succeeds) :
    let t := rig.turn s op
    (t.after = t.before ↔ (t.Narrows → t.before.mask = .carrierSense)) ∧
      (t.Narrows → t.after = { t.before with mask := .carrierSense } ∧
        ∃ params exit, op = .startCarrierSense params exit) := by
  intro t
  have hafter : t.after = t.before.narrowedBy t.given := after_of_fails hop hfails
  by_cases hnarrows : t.Narrows
  · have hmask : t.after = { t.before with mask := .carrierSense } :=
      hafter.trans (Radio.narrowedBy_of_mem hnarrows)
    refine ⟨?_, fun h => ⟨hmask, eq_startCarrierSense_of_narrows hop h⟩⟩
    rw [hmask, forall_prop_of_true hnarrows]
    exact ⟨fun h => (congrArg Radio.mask h).symm, fun h => by rw [← h]⟩
  · refine ⟨iff_of_true ?_ fun h => absurd h hnarrows, fun h => absurd h hnarrows⟩
    rw [hafter, Radio.narrowedBy_of_not_mem hnarrows]

end Rig

/-- A rig on the bench whose chip refuses to receive. -/
def Bench.unreceptive : Rig (List InterruptSet) :=
  let rig := Bench.rig {}
  { rig with chip := { rig.chip with
      perform := fun
        | .setRx _, statuses => .error .io statuses
        | c, statuses => rig.chip.perform c statuses } }

namespace Rig

/-- A reception that the chip refuses to start leaves the record as it was. -/
theorem unchanged_iff_not_narrowed_unreceptive :
    let s := Bench.unreceptive.run ⟨{}, []⟩ [.powerUp]
    let t := Bench.unreceptive.turn s (.startRx 0)
    ¬t.Succeeds ∧ t.after = t.before := by
  intro s t
  have hfails : ¬t.Succeeds := by decide +kernel
  obtain ⟨hiff, -⟩ := unchanged_iff_not_narrowed Bench.unreceptive s (.startRx 0) rfl hfails
  have hnot : ¬t.Narrows := by decide +kernel
  exact ⟨hfails, hiff.mpr fun h => absurd h hnot⟩

/-- A carrier sense window that the chip refuses to open leaves its narrow mask on record. -/
theorem narrowed_by_failed_start :
    let rig := Bench.unreceptive
    let s := rig.run ⟨{}, []⟩ [.powerUp, .setModem .fsk]
    let t := rig.turn s (.startCarrierSense { duration := 1000, threshold := -80 } .csLbt)
    ¬t.Succeeds ∧ t.before.mask = .fskDefault ∧ t.after.mask = .carrierSense ∧
      t.after.mask ≠ t.before.mask := by
  decide +kernel

end Rig

end Transceiver
