import Transceiver.Proofs.Recovery

/-! What a measurement on a channel leaves behind, over any failures of the chip. The radio is tuned
and its interrupts are disarmed before the channel is sampled. After that the interrupts on record
are armed again and the radio goes to standby, however the sampling went, and if it failed then its
fault is the one that is reported. -/

namespace Transceiver

/-- The exchanges from the first on that tells the chip what to arm. -/
def fromArming (xs : List Exchange) : List Exchange := xs.dropWhile (·.armed?.isNone)

/-- What a turn that measures does to restore the radio. It arms interrupts twice, none before it
samples the channel and those on record after that, so this begins where it does so again. -/
def Turn.restoring (t : Turn) : List Exchange := fromArming (fromArming t.exchanges).tail

section FromArming
variable {xs : List Exchange} (h : ∀ x ∈ xs, x.armed? = none)
include h

theorem fromArming_append (ys : List Exchange) : fromArming (xs ++ ys) = fromArming ys :=
  List.dropWhile_append_of_pos fun x hx => by rw [h x hx]; rfl

theorem fromArming_append_arm (mask : InterruptSet) (r : Except Fault Unit) (ys : List Exchange) :
    fromArming (xs ++ .command (.armInterrupts mask) r :: ys) =
      .command (.armInterrupts mask) r :: ys := fromArming_append h _

theorem lastFound_inForce?_append (last : Option InterruptSet) (ys : List Exchange) :
    lastFound Exchange.inForce? last (xs ++ ys) = lastFound Exchange.inForce? last ys := by
  rw [lastFound_append, lastFound_of_none _ fun x hx => Exchange.inForce?_of_armed? (h x hx)]

theorem lastFound_inForce?_arm (mask : InterruptSet) (last : Option InterruptSet) :
    lastFound Exchange.inForce? last (.command (.armInterrupts mask) (.ok ()) :: xs) =
      some mask := by
  have hnone : ∀ x ∈ xs, x.inForce? = none := fun x hx => Exchange.inForce?_of_armed? (h x hx)
  exact (lastFound_append last [_] xs).trans (lastFound_of_none _ hnone)

end FromArming

/-- The radio is in standby or receives, as it does while a channel is sampled. -/
def Radio.Samples (r : Radio) : Prop := r.state = .standby ∨ r.state = .rx

/-- After the exchanges `xs` the radio is as it was, but for the frequency, and so are the
interrupts in force, if they were those on record. -/
structure Radio.Restored (r r' : Radio) (xs : List Exchange) : Prop where
  radio : r' = { r with frequency := r'.frequency }
  inForce : lastFound Exchange.inForce? (some r.mask) xs = some r.mask

theorem Radio.AgreesBut.retuned {r r' : Radio} (h : r.AgreesBut [.frequency] r') :
    r' = { r with frequency := r'.frequency } := by
  cases r
  cases r'
  simp_all [Radio.agreesBut_iff]

theorem Radio.AgreesBut.rested {r r' : Radio} (h : r.AgreesBut [.state, .frequency] r')
    (hbefore : r.state = .standby) (hafter : r'.state = .standby) :
    r.AgreesBut [.frequency] r' := fun p hp => by
  by_cases hstate : p = .state
  · rw [hstate]
    exact hafter.trans hbefore.symm
  · exact h p (by simp_all)

/-- How a measurement ends that is left before it restores the radio, with the record of the radio
before and after, and the exchanges. -/
inductive Radio.Probed {α : Type} (r : Radio) :
    Except Fault (Except Fault α) → Radio → List Exchange → Prop
  /-- The radio was not tuned, or its interrupts were not disarmed. -/
  | abandoned (e : Fault) {r' : Radio} {xs : List Exchange} (hradio : r.AgreesBut [.frequency] r')
    (hforce : lastFound Exchange.inForce? (some r.mask) xs = some r.mask) :
    Probed r (.error e) r' xs
  | sampled (result : Except Fault α) {r' : Radio} {xs ys : List Exchange}
    (hradio : r.AgreesBut [.state, .frequency] r') (hsamples : r'.Samples)
    (hxs : ∀ x ∈ xs, x.armed? = none) (hys : ∀ y ∈ ys, y.armed? = none) :
    Probed r (.ok result) r' (xs ++ .command (.armInterrupts ∅) (.ok ()) :: ys)

namespace Rig

open Station Transceiver.Action

variable {σ α : Type} {rig : Rig σ}

/-- The operation samples the channel at a frequency. -/
inductive Samples (rig : Rig σ) :
    (op : Operation) → UInt32 → Action (Station σ) op.Reply → Prop
  | isChannelFree (f : UInt32) (threshold : Int16) (duration : UInt32) :
    Samples rig (.isChannelFree f threshold duration) f
      (rig.sampleChannel threshold (max duration samplePeriod))
  | channelNoise (f : UInt32) : Samples rig (.channelNoise f) f rig.sampleNoise

/-- A measurement up to the end of the sampling, with the outcome of that as a value. -/
def probe (rig : Rig σ) (frequency : UInt32) (sample : Action (Station σ) α) :
    Action (Station σ) (Except Fault α) := do
  rig.setFrequency frequency
  rig.tell (.armInterrupts ∅)
  Action.attempt sample

/-- What a measurement does once the channel was sampled. -/
def finish (rig : Rig σ) (result : Except Fault α) : Action (Station σ) α := do
  let armed ← Action.attempt rig.rearm
  let rested ← Action.attempt rig.standby
  let value ← Action.settle result
  Action.settle armed
  Action.settle rested
  return value

theorem measure_eq (f : UInt32) (sample : Action (Station σ) α) :
    rig.measure f sample = rig.probe f sample >>= rig.finish := by
  simp only [measure, probe, bind_assoc]
  rfl

theorem Samples.perform_eq {op : Operation} {f : UInt32} {sample : Action (Station σ) op.Reply}
    (h : rig.Samples op f sample) : rig.perform op = rig.probe f sample >>= rig.finish := by
  cases h <;> exact measure_eq _ _

/-- Of several faults the first is reported: that of the sampling before the others. -/
theorem outcome_finish (rig : Rig σ) (result : Except Fault α) (s : Station σ) :
    (rig.finish result).Ends s fun r _ => ∃ armed rested : Except Fault Unit, r = do
      let value ← result
      armed
      rested
      return value := by
  refine ends_bind.mpr <| ends_attempt.mpr <| Ends.mono (Q := fun _ _ => True) trivial ?_
  intro armed s _
  refine ends_bind.mpr <| ends_attempt.mpr <| Ends.mono (Q := fun _ _ => True) trivial ?_
  intro rested s _
  refine ⟨armed, rested, ?_⟩
  cases result <;> cases armed <;> cases rested <;> rfl

theorem recorded_finish (result : Except Fault α) :
    Recorded rig (·.topic ∈ [.wake, .arming, .status, .antenna, .mode]) [.state]
      (rig.recording.finish result) (rig.finish result) := by
  refine (recorded_rearm fun _ => by simp).attempt.bind fun _ => ?_
  refine (recorded_standby (by simp) (by simp) (fun _ => by simp) (by simp) (by simp)
    fun _ => by simp).attempt.bind fun _ => ?_
  exact .bind (.settle _) fun _ => .bind (.settle _) fun _ => .bind (.settle _) fun _ => .pure _

section Steps
variable {s : Station (σ × List Exchange)}

theorem samples_tell (c : Command) : (rig.recording.tell c).Keeps (·.radio.Samples) :=
  fun _ hs => ends_recording_tell fun _ _ => hs

theorem samples_rssi : rig.recording.rssi.Keeps (·.radio.Samples) :=
  keeps_ensureNotScanning.bind fun _ => (samples_tell _).bind fun _ => .pure _

theorem samples_startContinuousRx : rig.recording.startContinuousRx.Keeps (·.radio.Samples) := by
  refine (keeps_ensure _).bind fun _ => keeps_current.bind fun _ => ?_
  refine ((samples_tell _).reporting _).bind fun _ => (samples_tell _).bind fun _ => ?_
  refine (samples_tell _).bind fun _ => ((samples_tell _).reporting _).bind fun _ => ?_
  exact fun _ _ => .inr rfl

theorem samples_sampleChannel (threshold : Int16) (window : UInt32) :
    (rig.recording.sampleChannel threshold window).Keeps (·.radio.Samples) := by
  have watch (start : UInt64) (n : Nat) :
      (rig.recording.watchChannel threshold window start n).Keeps (·.radio.Samples) := by
    induction n with
    | zero => exact .pure _
    | succ n ih =>
      refine .bind (fun _ hs => hs) fun _ => samples_rssi.bind fun _ => ?_
      exact .ite (fun _ => .pure _) fun _ => .bind (fun _ hs => hs) fun _ =>
        .ite (fun _ => .pure _) fun _ => ih
  exact samples_startContinuousRx.bind fun _ => .bind (fun _ hs => hs) fun _ => watch _ _

theorem samples_sampleNoise : rig.recording.sampleNoise.Keeps (·.radio.Samples) := by
  have sum (sum : Int32) (n : Nat) : (rig.recording.sumNoise sum n).Keeps (·.radio.Samples) := by
    induction n generalizing sum with
    | zero => exact .pure _
    | succ n ih => exact .bind (fun _ hs => hs) fun _ => samples_rssi.bind fun _ => ih _
  exact samples_startContinuousRx.bind fun _ => (sum _ _).bind fun _ => .pure _

theorem recorded_rest : Recorded rig (·.topic ∈ [.status, .antenna, .mode]) [.state]
    rig.recording.rest rig.rest := by
  refine (recorded_order _ (by simp)).bind fun _ => (recorded_tell _ (by simp)).bind fun _ => ?_
  refine (recorded_pause _).bind fun _ => (recorded_order _ (by simp)).bind fun _ => ?_
  exact recorded_enter _ (by simp)

/-- A chip that is awake goes to standby, or the last command that it was given was refused. -/
theorem ends_rest : rig.recording.rest.Ends s fun _ s' => s'.radio.state = .standby ∨
    ∃ ys c e, s'.log = ys ++ [.command c (.error e)] ∧ s.log <+: ys := by
  refine ends_order_bind (fun e w => .inr ⟨_, _, e, rfl, List.prefix_rfl⟩) fun _ _ => ?_
  refine ends_tell_bind (fun e w => .inr ⟨_, _, e, rfl, List.prefix_append ..⟩) fun _ _ => ?_
  refine ends_bind.mpr <| ends_recording_pause.mpr ?_
  refine ends_order_bind (fun e w => .inr ⟨_, _, e, rfl, ?_⟩) fun _ _ => .inl rfl
  exact (List.prefix_append ..).trans ((List.prefix_append ..).trans (List.prefix_append ..))

/-- A radio that sampled a channel is in standby after this, if the chip refuses nothing. -/
theorem ends_standby_sampled (hs : s.radio.Samples) :
    rig.recording.standby.Ends s fun _ s' => ∃ xs, s'.log = s.log ++ xs ∧
      (∀ x ∈ xs, x.armed? = none) ∧ s.radio.AgreesBut [.state] s'.radio ∧
      (Smooth xs → s'.radio.state = .standby) := by
  refine ends_bind.mpr <| ends_current.mpr ?_
  obtain hstate | hstate := hs
  · simp only [hstate, reduceCtorEq, if_false, if_true]
    exact ⟨[], (List.append_nil _).symm, List.forall_mem_nil _, .refl _, fun _ => hstate⟩
  simp only [hstate, reduceCtorEq, if_false, or_self]
  obtain ⟨xs, hlog, hxs⟩ := (recorded_rest s).2.log
  refine ⟨xs, hlog, fun x hx => Exchange.armed?_of_within (hxs x hx) (by simp),
    (recorded_rest s).2.radio, fun hsmooth => ?_⟩
  have hrest : rig.recording.rest.Ends s _ := ends_rest
  obtain hstandby | ⟨_, c, e, hrefused, zs, rfl⟩ := hrest
  · exact hstandby
  · rw [hlog, List.append_assoc] at hrefused
    rw [List.append_cancel_left hrefused] at hsmooth
    exact absurd hsmooth not_smooth_concat

/-- What follows the sampling arms the interrupts on record and goes to standby. -/
theorem ends_finish (rig : Rig σ) (result : Except Fault α) (hs : s.radio.Samples) :
    (rig.recording.finish result).Ends s fun _ s' => ∃ r xs,
      s'.log = s.log ++ .command (.armInterrupts s.radio.mask) r :: xs ∧
      (∀ x ∈ xs, x.armed? = none) ∧ s.radio.AgreesBut [.state] s'.radio ∧
      (Smooth xs → s'.radio.state = .standby) := by
  refine ends_bind.mpr <| ends_attempt.mpr <| ends_bind.mpr <| ends_current.mpr ?_
  refine ends_recording_tell fun r w => ends_bind.mpr <| ends_attempt.mpr ?_
  have hstandby : rig.recording.standby.Ends
      { s with world := (w, s.log ++ [.command (.armInterrupts s.radio.mask) r]) } _ :=
    ends_standby_sampled hs
  refine hstandby.mono fun rested s' ⟨xs, hlog, hxs⟩ => ?_
  -- What is left decides on the outcome only.
  have settle (Q : Station (σ × List Exchange) → Prop) : Keeps Q (do
      let value ← Action.settle result
      Action.settle r
      Action.settle rested
      return value) :=
    .bind (.settle _) fun _ => .bind (.settle _) fun _ => .bind (.settle _) fun _ => .pure _
  exact settle _ s' ⟨r, xs, hlog.trans (List.append_assoc ..), hxs⟩

end Steps

section Measure
variable {x : Action (Station (σ × List Exchange)) α} {y : Action (Station σ) α} {f : UInt32}
  {topics : List Topic} {s : Station σ} (hx : Recorded rig (·.topic ∈ topics) [.state] x y)
  (htopics : .arming ∉ topics) (hsamples : x.Keeps (·.radio.Samples))
include hx htopics hsamples

/-- The sampling arms nothing. -/
theorem ends_sample {s : Station (σ × List Exchange)} (hs : s.radio.Samples) :
    x.Ends s fun _ s' => ∃ xs, s'.log = s.log ++ xs ∧ (∀ x ∈ xs, x.armed? = none) ∧
      s.radio.AgreesBut [.state] s'.radio ∧ s'.radio.Samples := by
  obtain ⟨xs, hlog, hxs⟩ := (hx s).2.log
  exact ⟨xs, hlog, fun x hx => Exchange.armed?_of_within (hxs x hx) htopics, (hx s).2.radio,
    hsamples s hs⟩

variable (hstate : s.radio.state = .standby)
include hstate

theorem probed_probe : (rig.recording.probe f x).Ends s.recorded fun r s₁ =>
    s.radio.Probed r s₁.radio s₁.log := by
  have htune : Recorded rig (·.topic ∈ [.tuning]) [.frequency] (rig.recording.setFrequency f)
      (rig.setFrequency f) :=
    recorded_setFrequency _ (fun _ => by simp) (fun _ => by simp) fun _ => by simp
  refine ends_bind.mpr <| (htune.ends s.recorded).mono fun r s₁ htuned => ?_
  obtain ⟨xs, hlog, hxs⟩ := htuned.log
  have hxs : ∀ x ∈ xs, x.armed? = none := fun x hx => Exchange.armed?_of_within (hxs x hx) (by simp)
  have hlog : s₁.log = xs := hlog
  cases r with
  | error e =>
    refine .abandoned e htuned.radio ?_
    rw [hlog]
    exact lastFound_of_none _ fun x hx => Exchange.inForce?_of_armed? (hxs x hx)
  | ok =>
    refine ends_tell_bind (fun e w => .abandoned e htuned.radio ?_) fun _ w => ?_
    · show lastFound _ _ (s₁.log ++ [_]) = _
      rw [hlog, lastFound_inForce?_append hxs]
      rfl
    have hs₁ : s₁.radio.Samples := .inl ((htuned.radio .state (by simp)).trans hstate)
    have hsample : x.Ends
        { s₁ with world := (w, s₁.log ++ [.command (.armInterrupts ∅) (.ok ())]) } _ :=
      ends_sample hx htopics hsamples hs₁
    refine ends_attempt.mpr <| hsample.mono fun result s₂ ⟨ys, hlog', hys, hradio, hs₂⟩ => ?_
    have hlog' : s₂.log = xs ++ .command (.armInterrupts ∅) (.ok ()) :: ys := by
      rw [hlog', ← hlog]
      exact List.append_assoc ..
    rw [hlog']
    exact .sampled result ((htuned.radio.mono (by simp)).trans (hradio.mono (by simp))) hs₂ hxs hys

/-- A measurement restores the radio, if the chip refuses nothing from the second arming on. -/
theorem restored_measure : (rig.recording.measure f x).Ends s.recorded fun _ s' =>
    Smooth (fromArming (fromArming s'.log).tail) → s.radio.Restored s'.radio s'.log := by
  have hprobed : s.radio.Probed ((rig.recording.probe f x).result s.recorded).1
      ((rig.recording.probe f x).result s.recorded).2.radio
      ((rig.recording.probe f x).result s.recorded).2.log :=
    probed_probe hx htopics hsamples hstate
  rw [measure_eq, Ends, result_bind]
  generalize (rig.recording.probe f x).result s.recorded = probed at hprobed ⊢
  obtain ⟨r, s₁⟩ := probed
  dsimp only at hprobed ⊢
  generalize hlog : s₁.log = before at hprobed
  cases hprobed with
  | abandoned e hradio hforce =>
    dsimp only
    rw [hlog]
    exact fun _ => ⟨hradio.retuned, hforce⟩
  | @sampled result _ xs ys hradio hs₁ hxs hys =>
    obtain ⟨r, zs, hlog', hzs, hradio', hrest⟩ := ends_finish rig result hs₁
    dsimp only
    generalize ((rig.recording.finish result).result s₁).2 = s' at *
    have hmask : s₁.radio.mask = s.radio.mask := hradio .mask (by simp)
    have hexchanges : s'.log = xs ++ .command (.armInterrupts ∅) (.ok ()) ::
        (ys ++ .command (.armInterrupts s.radio.mask) r :: zs) := by
      rw [hlog', hlog, hmask]
      simp
    have hrestoring : fromArming (fromArming s'.log).tail =
        .command (.armInterrupts s.radio.mask) r :: zs := by
      rw [hexchanges, fromArming_append_arm hxs, List.tail_cons, fromArming_append_arm hys]
    rw [hrestoring]
    intro hsmooth
    refine ⟨?_, ?_⟩
    · have hstandby : s'.radio.state = .standby := hrest fun x hx => hsmooth x (.tail _ hx)
      have hagrees : s.radio.AgreesBut [.state, .frequency] s'.radio :=
        hradio.trans (hradio'.mono (by simp))
      exact (hagrees.rested hstate hstandby).retuned
    · have haccepted : Exchange.fails (.command (.armInterrupts s.radio.mask) r) = false :=
        hsmooth _ (.head _)
      rcases r with e | ⟨⟩
      · cases haccepted
      rw [hexchanges, lastFound_inForce?_append hxs, ← List.cons_append, lastFound_append,
        lastFound_inForce?_arm hzs]

end Measure

section Samples
variable {s : Station σ} {op : Operation} {f : UInt32}

theorem Samples.recording {sample : Action (Station σ) op.Reply} (h : rig.Samples op f sample) :
    ∃ sample, rig.recording.Samples op f sample := by
  cases h
  · exact ⟨_, .isChannelFree ..⟩
  · exact ⟨_, .channelNoise _⟩

theorem restored_of_samples {sample : Action (Station (σ × List Exchange)) op.Reply}
    (hop : rig.recording.Samples op f sample) (hstate : s.radio.state = .standby) :
    let t := rig.turn s op
    Smooth t.restoring → s.radio.Restored t.after t.exchanges := by
  cases hop with
  | isChannelFree f threshold duration =>
    exact restored_measure (recorded_sampleChannel _ _) (by simp) (samples_sampleChannel _ _) hstate
  | channelNoise f =>
    exact restored_measure recorded_sampleNoise (by simp) samples_sampleNoise hstate

end Samples

/-- What a measurement on a channel leaves, begun in standby and with any failures of the chip. If
the chip refuses nothing of what is to restore the radio, from the second time on that interrupts
are armed, then of the record only the frequency has changed, and the interrupts in force are those
that were on record, if they were so before. If the sampling fails, its fault is the one reported,
whatever the chip refuses after it. -/
theorem measurement_restores (rig : Rig σ) (s : Station σ) {op : Operation} {f : UInt32}
    {sample : Action (Station σ) op.Reply} (hop : rig.Samples op f sample)
    (hstate : s.radio.state = .standby) :
    let t := rig.turn s op
    (Smooth t.restoring → t.after = { s.radio with frequency := t.after.frequency } ∧
      lastFound Exchange.inForce? (some s.radio.mask) t.exchanges = some s.radio.mask) ∧
    ∀ e, ((rig.probe f sample).result s).1 = .ok (.error e) → t.outcome = .error e := by
  intro t
  constructor
  · obtain ⟨sample', hop'⟩ := hop.recording
    intro hsmooth
    have hrestored : s.radio.Restored t.after t.exchanges :=
      restored_of_samples hop' hstate hsmooth
    exact ⟨hrestored.radio, hrestored.inForce⟩
  · intro e hfails
    have hprobe : (rig.probe f sample).result s = (.ok (.error e), _) := Prod.ext hfails rfl
    have hperform : ((rig.perform op).result s).1 = .error e := by
      rw [hop.perform_eq, result_bind_ok hprobe]
      obtain ⟨armed, rested, houtcome⟩ := outcome_finish rig (.error e) _
      exact houtcome
    exact turn_outcome.trans hperform

end Rig

/-- A rig on the bench whose chip cannot tell the RSSI, and refuses to go to standby while its
script lasts. -/
def Bench.numb : Rig (List InterruptSet) :=
  let rig := Bench.rig {}
  { rig with chip := { rig.chip with
      perform := fun
        | .readRssi, script => .error .io script
        | .setStandby _, _ :: script => .error .busy script
        | c, script => rig.chip.perform c script } }

namespace Rig

/-- A channel check that fails at its first sample, and one that fails to go to standby as well. -/
theorem measurement_restores_numb :
    let op := Operation.isChannelFree 868100000 (-80) 300
    let s : Station (List InterruptSet) := ⟨{ state := .standby }, []⟩
    let t := Bench.numb.turn s op
    (t.after = { s.radio with frequency := t.after.frequency } ∧
      lastFound Exchange.inForce? (some s.radio.mask) t.exchanges = some s.radio.mask) ∧
      t.outcome = .error .io ∧
      (Bench.numb.turn { s with world := [∅] } op).outcome = .error .io := by
  intro op s t
  let sample := Bench.numb.sampleChannel (-80) (max 300 samplePeriod)
  have hop : Bench.numb.Samples op 868100000 sample := .isChannelFree ..
  have hprobe : ((Bench.numb.probe 868100000 sample).result s).1 = .ok (.error .io) := rfl
  have hprobe' : ((Bench.numb.probe 868100000 sample).result { s with world := [∅] }).1 =
      .ok (.error .io) := rfl
  have hsmooth : Smooth t.restoring := show ∀ x ∈ t.restoring, x.fails = false by decide +kernel
  have hrestores := measurement_restores Bench.numb s hop rfl
  have hrestores' := measurement_restores Bench.numb { s with world := [∅] } hop rfl
  exact ⟨hrestores.1 hsmooth, hrestores.2 _ hprobe, hrestores'.2 _ hprobe'⟩

end Rig

end Transceiver
