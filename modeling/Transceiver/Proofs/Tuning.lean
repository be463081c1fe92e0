import Transceiver.Proofs.History

/-! How the frequency is set. The chip is told to calibrate its image if the band changes, perhaps to
compensate for the edge of a band, and at last to tune. -/

namespace Transceiver

/-- The frequency that the chip was tuned to. -/
def Exchange.tuned? : Exchange → Option UInt32
  | .command (.setFrequency f) (.ok _) => some f
  | _ => none

theorem Exchange.tuned?_refused (c : Command) (e : Fault) :
    Exchange.tuned? (.command c (.error e)) = none := by
  cases c <;> rfl

theorem Exchange.tuned?_of_within {topics : List Topic} {parts : List Part} {x : Exchange}
    (h : x.Within (·.topic ∈ topics) parts) (htopics : .tuning ∉ topics) : x.tuned? = none := by
  unfold tuned?
  split
  · exact absurd h htopics
  · rfl

/-- The image was calibrated for a frequency, exactly unless its band is that of the frequency on
record. -/
def Images (f : UInt32) (r : Radio) (image : List Exchange) : Prop :=
  image = [.command (.calibrateImage f) (.ok ())] ∧
      FrequencyBand.of? r.frequency ≠ FrequencyBand.of? f ∨
    image = [] ∧ FrequencyBand.of? r.frequency = FrequencyBand.of? f

/-- The chip compensated for the edge of a band, if it was told to. -/
def Compensates (f : UInt32) (edge : List Exchange) : Prop :=
  edge = [] ∨ edge = [.command (.compensateBandEdge f) (.ok ())]

/-- The chip refused a command of a tuning. -/
def GivesUp (xs : List Exchange) : Prop :=
  ∃ c e, c.topic = .tuning ∧ Exchange.command c (.error e) ∈ xs

theorem GivesUp.not_smooth {xs : List Exchange} (h : GivesUp xs) : ¬Smooth xs := fun hsmooth => by
  obtain ⟨c, e, -, hmem⟩ := h
  exact absurd (hsmooth _ hmem) nofun

/-- How setting the frequency ends, with the exchanges and the record of the radio before and
after. -/
inductive Retunes (f : UInt32) (r r' : Radio) (xs : List Exchange) : Except Fault Unit → Prop
  /-- Nothing was asked of the chip, or it refused something. -/
  | refused (e : Fault) (htuned : ∀ x ∈ xs, x.tuned? = none) (hrefused : xs = [] ∨ GivesUp xs)
    (hradio : r' = r) : Retunes f r r' xs (.error e)
  | tuned (image edge : List Exchange) (hband : FrequencyBand.of? f ≠ none)
    (himage : Images f r image) (hedge : Compensates f edge)
    (hexchanges : xs = image ++ edge ++ [.command (.setFrequency f) (.ok ())])
    (hradio : r' = { r with frequency := f }) : Retunes f r r' xs (.ok ())

/-- The same for two stations, of which the first was told to set the frequency. -/
def Station.Retunes {σ : Type} (f : UInt32) (s : Station (σ × List Exchange))
    (outcome : Except Fault Unit) (s' : Station (σ × List Exchange)) : Prop :=
  ∃ xs, s'.log = s.log ++ xs ∧ Transceiver.Retunes f s.radio s'.radio xs outcome

section Tuned
variable {f : UInt32} {r : Radio} {image edge : List Exchange}

theorem Images.tuned? (h : Images f r image) : ∀ x ∈ image, x.tuned? = none := by
  rcases h with ⟨rfl, -⟩ | ⟨rfl, -⟩ <;> simp [Exchange.tuned?]

theorem Compensates.tuned? (h : Compensates f edge) : ∀ x ∈ edge, x.tuned? = none := by
  rcases h with rfl | rfl <;> simp [Exchange.tuned?]

end Tuned

namespace Rig

open Station Transceiver.Action

variable {σ α : Type} {rig : Rig σ} {f : UInt32} {s s' : Station (σ × List Exchange)}

theorem retunes_barred (e : Fault) : s.Retunes f (.error e) s :=
  ⟨[], (List.append_nil _).symm, .refused e (List.forall_mem_nil _) (.inl rfl) rfl⟩

theorem retunes_refused {xs : List Exchange} {c : Command} {e : Fault} (e' : Fault)
    (hc : c.topic = .tuning) (hxs : ∀ x ∈ xs, x.tuned? = none)
    (hlog : s'.log = s.log ++ xs ++ [.command c (.error e)]) (hradio : s'.radio = s.radio) :
    s.Retunes f (.error e') s' := by
  refine ⟨xs ++ [.command c (.error e)], by rw [hlog, List.append_assoc], ?_⟩
  refine .refused e' (fun x hx => ?_) (.inr ⟨c, e, hc, by simp⟩) hradio
  rcases List.mem_append.mp hx with hx | hx
  · exact hxs x hx
  · rw [List.mem_singleton.mp hx]
    exact Exchange.tuned?_refused c e

theorem retunes_rest (lora : Prop) [Decidable lora] {image : List Exchange}
    (hband : FrequencyBand.of? f ≠ none) (himage : Images f s.radio image)
    (hlog : s'.log = s.log ++ image) (hradio : s'.radio = s.radio) : Ends (do
      if lora then rig.recording.tell (.compensateBandEdge f)
      rig.recording.order (.setFrequency f)
      update ({ · with frequency := f })) s' (s.Retunes f) := by
  have last (edge : List Exchange) (hedge : Compensates f edge) {s' : Station (σ × List Exchange)}
      (hlog : s'.log = s.log ++ (image ++ edge)) (hradio : s'.radio = s.radio) : Ends (do
        rig.recording.order (.setFrequency f)
        update ({ · with frequency := f })) s' (s.Retunes f) := by
    have htuned : ∀ x ∈ image ++ edge, x.tuned? = none := fun x hx =>
      (List.mem_append.mp hx).elim (himage.tuned? x) (hedge.tuned? x)
    refine ends_order_bind (fun e w => ?_) fun _ w => ends_update.mpr ?_
    · exact retunes_refused _ rfl htuned (congrArg (· ++ _) hlog) hradio
    · refine ⟨image ++ edge ++ [.command (.setFrequency f) (.ok ())], ?_, ?_⟩
      · rw [← List.append_assoc, ← hlog]
        rfl
      · exact .tuned image edge hband himage hedge rfl (by rw [← hradio])
  refine ends_ite.mpr ?_
  split
  case isFalse => exact last [] (.inl rfl) (by rw [hlog, List.append_nil]) hradio
  refine ends_tell_bind (fun e w => ?_) fun _ w => last _ (.inr rfl) ?_ hradio
  · exact retunes_refused e rfl himage.tuned? (congrArg (· ++ _) hlog) hradio
  · rw [← List.append_assoc, ← hlog]
    rfl

/-- The frequency is set only if the chip is tuned to it, and the image is calibrated before unless
the band on record is the same. -/
theorem ends_setFrequency (f : UInt32) (s : Station (σ × List Exchange)) :
    (rig.recording.setFrequency f).Ends s (s.Retunes f) := by
  refine ends_bind.mpr <| ends_ensure.mpr ?_
  split
  · exact retunes_barred _
  split
  case isFalse => exact retunes_barred _
  dsimp only
  cases hband : FrequencyBand.of? f with
  | none => exact retunes_barred _
  | some band =>
    have hknown : FrequencyBand.of? f ≠ none := by simp [hband]
    refine ends_bind.mpr <| ends_current.mpr <| ends_ite.mpr ?_
    split
    · rename_i hother
      refine ends_order_bind (fun e w => ?_) fun _ w => ?_
      · have hlog : s.log ++ [Exchange.command (.calibrateImage f) (.error e)] =
            s.log ++ [] ++ [.command (.calibrateImage f) (.error e)] := by simp
        exact retunes_refused _ rfl (List.forall_mem_nil _) hlog rfl
      · exact retunes_rest _ hknown (.inl ⟨rfl, hband ▸ hother⟩) rfl rfl
    -- The band on record is that of the frequency, so there is no calibration.
    · rename_i hsame
      have himage : Images f s.radio [] := .inr ⟨rfl, hband ▸ Decidable.of_not_not hsame⟩
      exact retunes_rest _ hknown himage (List.append_nil _).symm rfl

theorem frequency_turn {s : Station σ} (h : (rig.turn s (.setFrequency f)).Succeeds) :
    FrequencyBand.of? f ≠ none ∧ (rig.step s (.setFrequency f)).radio.frequency = f := by
  have hends : (rig.recording.setFrequency f).Ends s.recorded fun outcome s' =>
      outcome.isOk = true → FrequencyBand.of? f ≠ none ∧ s'.radio.frequency = f :=
    (ends_setFrequency f s.recorded).mono fun _ _ ⟨_, _, htuned⟩ hok => by
      cases htuned with
      | refused => cases hok
      | tuned image edge hband himage hedge hexchanges hradio => exact ⟨hband, by rw [hradio]⟩
  rw [← turn_after]
  exact hends h

/-- A carrier is started by setting the power and sending, once the frequency is set. -/
theorem recorded_carry (rig : Rig σ) (power : Int8) :
    Recorded rig (·.topic ∈ [.amplifier, .antenna, .status, .mode]) [.pa, .state]
      (do
        rig.recording.setTxPower power
        rig.recording.tell (.setAntenna (txPath (← current).pa))
        rig.recording.tell (.clearInterrupts .all)
        rig.recording.order .setTxCarrier
        enter .tx)
      (do
        rig.setTxPower power
        rig.tell (.setAntenna (txPath (← current).pa))
        rig.tell (.clearInterrupts .all)
        rig.order .setTxCarrier
        enter .tx) := by
  have hpower : Recorded rig (·.topic ∈ [.amplifier, .antenna, .status, .mode]) [.pa]
      (rig.recording.setTxPower power) (rig.setTxPower power) :=
    recorded_setTxPower _ (fun _ => by simp) fun _ _ => by simp
  refine (hpower.widen (by simp)).bind fun _ => recorded_current.bind fun _ => ?_
  refine (recorded_tell _ (by simp)).bind fun _ => (recorded_tell _ (by simp)).bind fun _ => ?_
  exact (recorded_order _ (by simp)).bind fun _ => recorded_enter _ (by simp)

/-! ## What tuning keeps -/

/-- `P` is kept where the frequency is set, and by all that tunes nothing. -/
structure TuningKeeps (rig : Rig σ) (P : Station (σ × List Exchange) → Prop) : Prop where
  other : ∀ {α : Type} {topics : List Topic} {parts : List Part}
    {x : Action (Station (σ × List Exchange)) α} {y : Action (Station σ) α},
    Recorded rig (·.topic ∈ topics) parts x y → .tuning ∉ topics → .frequency ∉ parts → x.Keeps P
  setFrequency : ∀ f, (rig.recording.setFrequency f).Keeps P

/-- `P` is kept where the frequency is set, and by all that tunes nothing and leaves the modem
alone. -/
structure RetuningKeeps (rig : Rig σ) (P : Station (σ × List Exchange) → Prop) : Prop where
  other : ∀ {α : Type} {topics : List Topic} {parts : List Part}
    {x : Action (Station (σ × List Exchange)) α} {y : Action (Station σ) α},
    Recorded rig (·.topic ∈ topics) parts x y → .tuning ∉ topics → .frequency ∉ parts →
      .modem ∉ parts → x.Keeps P
  setFrequency : ∀ f, (rig.recording.setFrequency f).Keeps P

namespace RetuningKeeps

variable {P : Station (σ × List Exchange) → Prop} (h : rig.RetuningKeeps P)
include h

theorem tell {c : Command} (hc : c.topic ≠ .tuning) : (rig.recording.tell c).Keeps P := by
  have htell : Recorded rig (·.topic ∈ [c.topic]) [] (rig.recording.tell c) (rig.tell c) :=
    recorded_tell c (.head _)
  exact h.other htell (by simpa using hc.symm) (by simp) (by simp)

theorem standby : rig.recording.standby.Keeps P := by
  have hstandby : Recorded rig (·.topic ∈ [.wake, .arming, .status, .antenna, .mode]) [.state]
      rig.recording.standby rig.standby :=
    recorded_standby (by simp) (by simp) (fun _ => by simp) (by simp) (by simp) fun _ => by simp
  exact h.other hstandby (by simp) (by simp) (by simp)

theorem startCarrier (f : UInt32) (power : Int8) : (rig.recording.startCarrier f power).Keeps P := by
  refine (keeps_ensure _).bind fun _ => h.standby.bind fun _ => (h.setFrequency f).bind fun _ => ?_
  exact h.other (recorded_carry rig power) (by simp) (by simp) (by simp)

theorem measure {x : Action (Station (σ × List Exchange)) α} (f : UInt32) (hx : x.Keeps P) :
    (rig.recording.measure f x).Keeps P := by
  have hrearm : Recorded rig (·.topic ∈ [.arming]) [] rig.recording.rearm rig.rearm :=
    recorded_rearm fun _ => by simp
  have hrearms : rig.recording.rearm.Keeps P := h.other hrearm (by simp) (by simp) (by simp)
  refine (h.setFrequency f).bind fun _ => (h.tell (by simp)).bind fun _ => hx.attempt.bind fun _ => ?_
  refine hrearms.attempt.bind fun _ => h.standby.attempt.bind fun _ => ?_
  exact .bind (.settle _) fun _ => .bind (.settle _) fun _ => .bind (.settle _) fun _ => .pure _

theorem perform {op : Operation} (hop : .modem ∉ op.parts) :
    (rig.recording.perform op).Keeps P := by
  by_cases htuning : .tuning ∈ op.topics ∨ .frequency ∈ op.parts
  case neg =>
    rw [not_or] at htuning
    exact h.other (recorded_perform op) htuning.1 htuning.2 hop
  cases op with
  | setFrequency f => exact h.setFrequency f
  | startCarrier f power => exact h.startCarrier f power
  | isChannelFree f threshold duration =>
    exact h.measure f (h.other (recorded_sampleChannel _ _) (by simp) (by simp) (by simp))
  | channelNoise f =>
    exact h.measure f (h.other recorded_sampleNoise (by simp) (by simp) (by simp))
  | _ => simp [Operation.topics, Operation.parts, dispatched, serviced] at htuning

end RetuningKeeps

namespace TuningKeeps

variable {P : Station (σ × List Exchange) → Prop} (h : rig.TuningKeeps P)
include h

theorem retuning : rig.RetuningKeeps P := ⟨fun hx ht hf _ => h.other hx ht hf, h.setFrequency⟩

theorem perform (op : Operation) : (rig.recording.perform op).Keeps P := by
  by_cases hmodem : .modem ∈ op.parts
  case neg => exact h.retuning.perform hmodem
  have hperform : Recorded rig (·.topic ∈ op.topics) op.parts (rig.recording.perform op)
      (rig.perform op) := recorded_perform op
  cases op with
  | powerUp | setModem =>
    exact h.other hperform (by simp [Operation.topics]) (by simp [Operation.parts])
  | _ => simp [Operation.parts, dispatched] at hmodem

end TuningKeeps

end Rig

end Transceiver
