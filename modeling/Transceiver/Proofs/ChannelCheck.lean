import Transceiver.Proofs.Measurement
import Transceiver.Proofs.Tuning

/-! What a check of a channel finds out. The RSSI is sampled until it exceeds the threshold, until
the clock says that the window is over, or until the delays between the samples add up to the
window. The clock is the host's: it may stand still, jump or run backwards. -/

namespace Transceiver

/-- The RSSI that the chip told, corrected by the gain of the receive path. -/
def Exchange.level? (gain : Int16) : Exchange → Option Int16
  | .command .readRssi (.ok raw) => some (raw - gain)
  | _ => none

/-- The pause that was made, microseconds. -/
def Exchange.pause? : Exchange → Option UInt32
  | .pause us => some us
  | _ => none

theorem Exchange.level?_of_within {topics : List Topic} {parts : List Part} {x : Exchange}
    (h : x.Within (·.topic ∈ topics) parts) (htopics : .measuring ∉ topics) (gain : Int16) :
    x.level? gain = none := by
  unfold level?
  split
  · exact absurd h htopics
  · rfl

/-- The samples of at most `n` rounds, begun at the time `start`, and whether the channel was found
free. -/
inductive Watches (gain threshold : Int16) (window : UInt32) (start : UInt64) :
    Nat → List Exchange → Bool → Prop
  /-- There are no rounds left. -/
  | ended : Watches gain threshold window start 0 [] true
  /-- The RSSI exceeds the threshold. -/
  | exceeded (n : Nat) (raw : Int16) (h : raw - gain > threshold) :
    Watches gain threshold window start (n + 1)
      [.pause Rig.samplePeriod, .command .readRssi (.ok raw)] false
  /-- The clock says that the window is over. -/
  | elapsed (n : Nat) (raw : Int16) (time : UInt64) (h : ¬raw - gain > threshold)
    (helapsed : Rig.elapsed start time ≥ window.toUInt64) :
    Watches gain threshold window start (n + 1)
      [.pause Rig.samplePeriod, .command .readRssi (.ok raw), .clock time] true
  | next {n : Nat} (raw : Int16) (time : UInt64) {xs : List Exchange} {free : Bool}
    (h : ¬raw - gain > threshold) (helapsed : ¬Rig.elapsed start time ≥ window.toUInt64)
    (hrest : Watches gain threshold window start n xs free) :
    Watches gain threshold window start (n + 1)
      (.pause Rig.samplePeriod :: .command .readRssi (.ok raw) :: .clock time :: xs) free

namespace Watches

variable {gain threshold : Int16} {window : UInt32} {start : UInt64} {n : Nat}
  {xs : List Exchange} {free : Bool} (h : Watches gain threshold window start n xs free)
include h

theorem levels_length_le : (xs.filterMap (Exchange.level? gain)).length ≤ n := by
  induction h with
  | ended => exact Nat.le_refl 0
  | exceeded n raw | elapsed n raw => exact Nat.succ_le_succ (Nat.zero_le n)
  | next raw time h helapsed hrest ih => exact Nat.succ_le_succ ih

theorem levels_ne_nil (hn : n ≠ 0) : xs.filterMap (Exchange.level? gain) ≠ [] := by
  cases h with
  | ended => exact absurd rfl hn
  | _ => exact List.cons_ne_nil _ _

theorem pauses : xs.filterMap Exchange.pause? =
    .replicate (xs.filterMap (Exchange.level? gain)).length Rig.samplePeriod := by
  induction h with
  | ended | exceeded | elapsed => rfl
  | next raw time h helapsed hrest ih => exact congrArg (Rig.samplePeriod :: ·) ih

/-- The channel is free exactly if no sample exceeds the threshold. -/
theorem free_iff :
    free = true ↔ ∀ level ∈ xs.filterMap (Exchange.level? gain), level ≤ threshold := by
  induction h with
  | ended => simp
  | exceeded n raw h => simpa [Exchange.level?] using h
  | elapsed n raw time h => simpa [Exchange.level?] using h
  | next raw time h helapsed hrest ih =>
    refine ih.trans ((List.forall_mem_cons (a := raw - gain)).trans ?_).symm
    exact and_iff_right (Int16.not_lt.mp h)

/-- No sample is taken after one that exceeds the threshold. -/
theorem dropLast_le :
    ∀ level ∈ (xs.filterMap (Exchange.level? gain)).dropLast, level ≤ threshold := by
  induction h with
  | ended | exceeded | elapsed => exact List.forall_mem_nil _
  | @next n raw time xs free h helapsed hrest ih =>
    show ∀ level ∈ ((raw - gain) :: xs.filterMap (Exchange.level? gain)).dropLast, _
    cases hlevels : xs.filterMap (Exchange.level? gain) with
    | nil => exact List.forall_mem_nil _
    | cons level levels =>
      rw [hlevels] at ih
      exact List.forall_mem_cons.mpr ⟨Int16.not_lt.mp h, ih⟩

/-- A channel is found free only when the rounds or the clock have come to the end of the window. -/
theorem covered (hfree : free = true) : n ≤ (xs.filterMap (Exchange.level? gain)).length ∨
    ∃ time, xs.getLast? = some (.clock time) ∧ Rig.elapsed start time ≥ window.toUInt64 := by
  induction h with
  | ended => exact .inl (Nat.le_refl 0)
  | exceeded => cases hfree
  | elapsed n raw time h helapsed => exact .inr ⟨time, rfl, helapsed⟩
  | next raw time h helapsed hrest ih =>
    refine (ih hfree).imp Nat.succ_le_succ fun ⟨last, hlast, hover⟩ => ⟨last, ?_, hover⟩
    simp [List.getLast?_cons, hlast]

end Watches

theorem Rig.elapsed_ge_iff {start time : UInt64} {window : UInt32} (h : 0 < window.toNat) :
    elapsed start time ≥ window.toUInt64 ↔ start.toNat + window.toNat ≤ time.toNat := by
  unfold elapsed
  rw [ge_iff_le, UInt64.le_iff_toNat_le, UInt32.toNat_toUInt64]
  split <;> rename_i hback
  · have hback : time.toNat < start.toNat := hback
    rw [UInt64.toNat_zero]
    omega
  · have hback : start.toNat ≤ time.toNat := Nat.le_of_not_lt hback
    rw [UInt64.toNat_sub_of_le _ _ hback]
    omega

/-- What a check of a channel has found out, in a window of microseconds that began at the time
`start`, with the levels that it sampled and all that passed meanwhile. -/
structure ChannelCheck (threshold : Int16) (window : Nat) (start : UInt64) (levels : List Int16)
    (xs : List Exchange) (free : Bool) : Prop where
  /-- The channel is free exactly if no sample exceeds the threshold. -/
  free_iff : free = true ↔ ∀ level ∈ levels, level ≤ threshold
  sampled : levels ≠ []
  /-- There is one delay of 30 microseconds for each sample. -/
  pauses : xs.filterMap Exchange.pause? = .replicate levels.length 30
  /-- A channel that is free was watched for the whole window, by the delays or by the clock. -/
  covered : free = true → window ≤ 30 * levels.length ∨
    ∃ time, xs.getLast? = some (.clock time) ∧ start.toNat + window ≤ time.toNat
  bounded : levels.length ≤ (window + 29) / 30
  /-- No sample is taken after one that exceeds the threshold. -/
  stops : ∀ level ∈ levels.dropLast, level ≤ threshold

/-- The rounds of a window are those that it takes the delays to add up to it. -/
theorem Watches.check {gain threshold : Int16} {window : UInt32} {start : UInt64}
    {xs : List Exchange} {free : Bool} (hwindow : 30 ≤ window.toNat)
    (h : Watches gain threshold window start (ceilDiv32 window Rig.samplePeriod).toNat xs free) :
    ChannelCheck threshold window.toNat start (xs.filterMap (Exchange.level? gain)) xs free := by
  have hrounds : (ceilDiv32 window Rig.samplePeriod).toNat = (window.toNat + 29) / 30 := by
    rw [toNat_ceilDiv32, show Rig.samplePeriod.toNat = 30 from rfl]
    split <;> omega
  rw [hrounds] at h
  refine ⟨h.free_iff, h.levels_ne_nil (by omega), h.pauses, fun hfree => ?_, h.levels_length_le,
    h.dropLast_le⟩
  obtain hall | ⟨time, hlast, helapsed⟩ := h.covered hfree
  · exact .inl (by omega)
  · exact .inr ⟨time, hlast, (Rig.elapsed_ge_iff (by omega)).mp helapsed⟩

namespace Rig

open Station Transceiver.Action

variable {σ α : Type} {rig : Rig σ}

section Run
variable {s : Station (σ × List Exchange)}

/-- A sample, where only what happens without a refusal matters. -/
theorem smooth_rssi_bind {f : Int16 → Action (Station (σ × List Exchange)) α}
    {Q : Except Fault α → Station (σ × List Exchange) → Prop} (hstate : s.radio.state ≠ .scan)
    (h : ∀ raw w, (f (raw - rig.config.lnaGain)).Ends
      { s with world := (w, s.log ++ [.command .readRssi (.ok raw)]) }
      fun r s' => Smooth s'.log → Q r s') :
    (rig.recording.rssi >>= f).Ends s fun r s' => Smooth s'.log → Q r s' := by
  refine ends_bind.mpr <| ends_bind.mpr <| ends_ensureNotScanning.mpr ?_
  rw [if_neg hstate]
  exact ends_tell_bind (fun _ _ hsmooth => absurd hsmooth not_smooth_concat) h

theorem watches_watchChannel (threshold : Int16) (window : UInt32) (start : UInt64) (n : Nat)
    (hstate : s.radio.state ≠ .scan) :
    (rig.recording.watchChannel threshold window start n).Ends s fun r s' => Smooth s'.log →
      ∃ free xs, r = .ok free ∧ s'.log = s.log ++ xs ∧
        Watches rig.config.lnaGain threshold window start n xs free := by
  induction n generalizing s with
  | zero => exact fun _ => ⟨true, [], rfl, (List.append_nil _).symm, .ended⟩
  | succ n ih =>
    refine ends_bind.mpr <| ends_recording_pause.mpr <| smooth_rssi_bind hstate fun raw w => ?_
    have hlog (xs : List Exchange) :
        s.log ++ [.pause samplePeriod] ++ [.command .readRssi (.ok raw)] ++ xs =
          s.log ++ .pause samplePeriod :: .command .readRssi (.ok raw) :: xs := by simp
    refine ends_ite.mpr ?_
    split
    · rename_i hexceeds
      exact fun _ => ⟨false, _, rfl, (List.append_nil _).symm.trans (hlog []),
        .exceeded n raw hexceeds⟩
    rename_i hbelow
    refine ends_bind.mpr <| ends_recording_now fun time w => ends_ite.mpr ?_
    split
    · rename_i hover
      exact fun _ => ⟨true, _, rfl, hlog [.clock time], .elapsed n raw time hbelow hover⟩
    · rename_i hrunning
      have hrest : (rig.recording.watchChannel threshold window start n).Ends { s with world := (w,
          s.log ++ [.pause samplePeriod] ++ [.command .readRssi (.ok raw)] ++ [.clock time]) } _ :=
        ih hstate
      refine hrest.mono fun r s' h hsmooth => ?_
      obtain ⟨free, xs, hr, hxs, hwatches⟩ := h hsmooth
      refine ⟨free, _, hr, hxs.trans ?_, .next raw time hbelow hrunning hwatches⟩
      exact (List.append_assoc ..).trans (hlog (.clock time :: xs))

/-- The last thing that the chip is told is to receive until told otherwise. -/
theorem ends_startContinuousRx (hstate : s.radio.state = .standby) :
    rig.recording.startContinuousRx.Ends s fun r s' => Smooth s'.log →
      r = .ok () ∧ s'.radio.state = .rx ∧
      ∃ xs, s'.log = xs ++ [.command (.setRx Ticks.continuous) (.ok ())] ∧ s.log <+: xs := by
  refine ends_bind.mpr <| ends_ensure.mpr ?_
  simp only [hstate, reduceCtorEq, if_false, RadioState.isAwake, if_true]
  refine ends_bind.mpr <| ends_current.mpr <| smooth_order_bind fun _ w₁ => ?_
  refine smooth_tell_bind fun _ w₂ => smooth_tell_bind fun _ w₃ => smooth_order_bind fun _ w₄ => ?_
  refine ends_enter.mpr fun _ => ⟨rfl, rfl, _, rfl, ?_⟩
  exact (List.prefix_append ..).trans ((List.prefix_append ..).trans (List.prefix_append ..))

/-- The receiver is switched on, and the channel is watched from then on. -/
theorem watches_sampleChannel (threshold : Int16) (window : UInt32)
    (hstate : s.radio.state = .standby) :
    (rig.recording.sampleChannel threshold window).Ends s fun r s' => s'.radio.Samples ∧
      (Smooth s'.log → ∃ starting start watched free, r = .ok free ∧
        s'.log = s.log ++ (starting ++ .command (.setRx Ticks.continuous) (.ok ()) ::
          .clock start :: watched) ∧
        (∀ x ∈ starting, x.level? rig.config.lnaGain = none) ∧
        Watches rig.config.lnaGain threshold window start (ceilDiv32 window samplePeriod).toNat
          watched free) := by
  refine Ends.and (samples_sampleChannel _ _ s (.inl hstate)) ?_
  have hstart : rig.recording.startContinuousRx.Ends s _ :=
    ((ends_startContinuousRx hstate).and (samples_startContinuousRx s (.inl hstate))).and
      (recorded_startContinuousRx.ends s)
  refine ends_bind.mpr <| hstart.mono fun r s₁ ⟨⟨hstart, hs₁⟩, hreaches⟩ => ?_
  rcases r with e | ⟨⟩
  · exact fun hsmooth => nomatch (hstart hsmooth).1
  have hscan : s₁.radio.state ≠ .scan := by rcases hs₁ with h | h <;> rw [h] <;> exact nofun
  refine ends_bind.mpr <| ends_recording_now fun start w => ?_
  refine Ends.mono (watches_watchChannel threshold window start _ hscan)
    fun r s' hwatch hsmooth => ?_
  obtain ⟨free, watched, hr, hlog', hwatches⟩ := hwatch hsmooth
  have hsmooth₁ : Smooth s₁.log := by
    rw [hlog'] at hsmooth
    exact hsmooth.of_append.of_append
  obtain ⟨-, -, _, hlast, starting, rfl⟩ := hstart hsmooth₁
  obtain ⟨xs, hlog, hxs⟩ := hreaches.log
  rw [hlast, List.append_assoc] at hlog
  rw [← List.append_cancel_left hlog] at hxs
  refine ⟨starting, start, watched, free, hr, ?_, fun x hx => ?_, hwatches⟩
  · rw [hlog']
    show s₁.log ++ [_] ++ _ = _
    rw [hlast]
    simp
  · exact Exchange.level?_of_within (hxs x (List.mem_append_left _ hx)) (by simp) _

/-- The frequency can be set in standby if it lies in a band. -/
theorem isOk_setFrequency {f : UInt32} (hstate : s.radio.state = .standby)
    (hband : (FrequencyBand.of? f).isSome) :
    (rig.recording.setFrequency f).Ends s fun r s' => Smooth s'.log → r.isOk = true := by
  obtain ⟨band, hband⟩ := Option.isSome_iff_exists.mp hband
  have last {s : Station (σ × List Exchange)} : Ends (do
      rig.recording.order (.setFrequency f)
      update ({ · with frequency := f })) s fun r s' => Smooth s'.log → r.isOk = true :=
    smooth_order_bind fun _ _ => ends_update.mpr fun _ => rfl
  have rest {s : Station (σ × List Exchange)} {lora : Prop} [Decidable lora] : Ends (do
      if lora then rig.recording.tell (.compensateBandEdge f)
      rig.recording.order (.setFrequency f)
      update ({ · with frequency := f })) s fun r s' => Smooth s'.log → r.isOk = true := by
    refine ends_ite.mpr ?_
    split
    · exact smooth_tell_bind fun _ _ => last
    · exact last
  refine ends_bind.mpr <| ends_ensure.mpr ?_
  simp only [hstate, reduceCtorEq, if_false, decide_true, if_true, hband]
  refine ends_bind.mpr <| ends_current.mpr <| ends_ite.mpr ?_
  split
  · exact smooth_order_bind fun _ _ => rest
  · exact rest

theorem smooth_standby (hstate : s.radio.state ≠ .scan) : rig.recording.standby.Ends s fun r s' =>
    (Smooth s'.log → r = .ok ()) ∧ s.log <+: s'.log := by
  have hrecorded : Recorded rig anything [.state] rig.recording.standby rig.standby :=
    recorded_standby (by simp) trivial (fun _ => trivial) trivial trivial fun _ => trivial
  have hstandby : rig.recording.standby.Ends s _ := (ends_standby hstate).and (hrecorded.ends s)
  refine hstandby.mono fun r s' ⟨hrested, hreaches⟩ => ⟨fun hsmooth => ?_, ?_⟩
  · rcases r with e | ⟨⟩
    · exact absurd hsmooth hrested
    · rfl
  · obtain ⟨xs, hlog, -⟩ := hreaches.log
    exact ⟨xs, hlog.symm⟩

/-- Where the chip refuses nothing, the outcome of the sampling is that of the measurement. -/
theorem smooth_finish (result : Except Fault α) (hstate : s.radio.state ≠ .scan) :
    (rig.recording.finish result).Ends s fun r s' => Smooth s'.log → r = result := by
  refine ends_bind.mpr <| ends_attempt.mpr <| ends_bind.mpr <| ends_current.mpr ?_
  refine ends_recording_tell fun armed w => ends_bind.mpr <| ends_attempt.mpr ?_
  refine Ends.mono (smooth_standby hstate) fun rested s' ⟨hrested, hlog⟩ => ?_
  rcases result with e | a
  · exact fun _ => rfl
  rcases armed with e | ⟨⟩
  · obtain ⟨xs, hxs⟩ := hlog
    intro hsmooth
    have hsmooth : Smooth s'.log := hsmooth
    rw [← hxs] at hsmooth
    exact absurd hsmooth.of_append not_smooth_concat
  rcases rested with e | ⟨⟩
  · exact fun hsmooth => nomatch hrested hsmooth
  · exact fun _ => rfl

/-- A check of a channel in which the chip refuses nothing: the radio is tuned and starts to
receive, the channel is watched, and the radio is restored. The RSSI is sampled only while the
channel is watched. -/
theorem watches_isChannelFree {f : UInt32} (threshold : Int16) (duration : UInt32) {s : Station σ}
    (hstate : s.radio.state = .standby) (hband : (FrequencyBand.of? f).isSome) :
    (rig.recording.isChannelFree f threshold duration).Ends s.recorded fun r s' => Smooth s'.log →
      ∃ opening start watched closing free, r = .ok free ∧
        s'.log = opening ++ .clock start :: (watched ++ closing) ∧
        opening.getLast? = some (.command (.setRx Ticks.continuous) (.ok ())) ∧
        (∀ x ∈ opening ++ closing, x.level? rig.config.lnaGain = none) ∧
        Watches rig.config.lnaGain threshold (max duration samplePeriod) start
          (ceilDiv32 (max duration samplePeriod) samplePeriod).toNat watched free := by
  have htune : Recorded rig (·.topic ∈ [.tuning]) [.frequency] (rig.recording.setFrequency f)
      (rig.setFrequency f) :=
    recorded_setFrequency _ (fun _ => by simp) (fun _ => by simp) fun _ => by simp
  have htuned : (rig.recording.setFrequency f).Ends s.recorded _ :=
    (isOk_setFrequency hstate hband).and (htune.ends s.recorded)
  refine ends_bind.mpr <| htuned.mono fun r s₁ ⟨htuned, hreaches⟩ => ?_
  rcases r with e | ⟨⟩
  · exact fun hsmooth => nomatch htuned hsmooth
  have hs₁ : s₁.radio.state = .standby := (hreaches.radio .state (by simp)).trans hstate
  refine smooth_tell_bind fun _ w => ends_bind.mpr <| ends_attempt.mpr ?_
  refine Ends.mono (watches_sampleChannel threshold _ hs₁) fun result s₂ ⟨hs₂, hsample⟩ => ?_
  have hscan : s₂.radio.state ≠ .scan := by rcases hs₂ with h | h <;> rw [h] <;> exact nofun
  have hfinish : (rig.recording.finish result).Ends s₂ _ :=
    (smooth_finish result hscan).and ((recorded_finish result).ends s₂)
  refine hfinish.mono fun r s' ⟨houtcome, hreaches'⟩ hsmooth => ?_
  obtain ⟨tuning, htuning, hxs⟩ := hreaches.log
  obtain ⟨closing, hclosing, hys⟩ := hreaches'.log
  have hsmooth₂ : Smooth s₂.log := by
    rw [hclosing] at hsmooth
    exact hsmooth.of_append
  obtain ⟨starting, start, watched, free, hresult, hlog, hstarting, hwatches⟩ := hsample hsmooth₂
  refine ⟨tuning ++ .command (.armInterrupts ∅) (.ok ()) :: starting ++
    [.command (.setRx Ticks.continuous) (.ok ())], start, watched, closing, free,
    (houtcome hsmooth).trans hresult, ?_, List.getLast?_concat, fun x hx => ?_, hwatches⟩
  · have htuning : s₁.log = tuning := htuning
    rw [hclosing, hlog]
    show s₁.log ++ [_] ++ _ ++ _ = _
    rw [htuning]
    simp
  · simp only [List.mem_append, List.mem_cons, List.not_mem_nil, or_false] at hx
    obtain ((hx | rfl | hx) | rfl) | hx := hx
    · exact Exchange.level?_of_within (hxs x hx) (by simp) _
    · rfl
    · exact hstarting x hx
    · rfl
    · exact Exchange.level?_of_within (hys x hx) (by simp) _

end Run

/-! ## A higher threshold -/

section Higher
variable {threshold higher : Int16} (hle : threshold ≤ higher)
include hle

/-- A channel that is free at a threshold is watched in the same way at a higher one. -/
theorem watchChannel_of_le {window : UInt32} {start : UInt64} {n : Nat} {s : Station σ}
    (hfree : ((rig.watchChannel threshold window start n).result s).1 = .ok true) :
    (rig.watchChannel higher window start n).result s =
      (rig.watchChannel threshold window start n).result s := by
  induction n generalizing s with
  | zero => rfl
  | succ n ih =>
    refine result_bind_congr (fun _ s hfree => ?_) hfree
    refine result_bind_congr (fun level s hfree => ?_) hfree
    by_cases hexceeds : level > threshold
    · rw [if_pos hexceeds] at hfree
      cases hfree
    have hbelow : ¬level > higher := fun h => hexceeds (Int16.lt_of_le_of_lt hle h)
    rw [if_neg hexceeds] at hfree ⊢
    rw [if_neg hbelow]
    refine result_bind_congr (fun time s hfree => ?_) hfree
    by_cases hover : elapsed start time ≥ window.toUInt64
    · rw [if_pos hover, if_pos hover]
    · rw [if_neg hover] at hfree ⊢
      rw [if_neg hover]
      exact ih hfree

theorem sampleChannel_of_le {window : UInt32} {s : Station σ}
    (hfree : ((rig.sampleChannel threshold window).result s).1 = .ok true) :
    (rig.sampleChannel higher window).result s = (rig.sampleChannel threshold window).result s :=
  result_bind_congr (fun _ _ => result_bind_congr fun _ _ => watchChannel_of_le hle) hfree

end Higher

theorem ok_of_finish {result : Except Fault α} {a : α} {s : Station σ}
    (h : ((rig.finish result).result s).1 = .ok a) : result = .ok a := by
  obtain ⟨armed, rested, houtcome⟩ := outcome_finish rig result s
  rw [houtcome] at h
  rcases result with e | b
  · cases h
  rcases armed with e | ⟨⟩
  · cases h
  rcases rested with e | ⟨⟩
  · cases h
  · exact h

/-- Measurements are alike if their samples are, where the first succeeds. -/
theorem measure_congr {f : UInt32} {x y : Action (Station σ) α} {a : α} {s : Station σ}
    (h : ∀ s, (x.result s).1 = .ok a → y.result s = x.result s)
    (hok : ((rig.measure f x).result s).1 = .ok a) :
    (rig.measure f y).result s = (rig.measure f x).result s := by
  refine result_bind_congr (fun _ s hok => ?_) hok
  refine result_bind_congr (fun _ s hok => ?_) hok
  have hfinish (x : Action (Station σ) α) :
      result (x.attempt >>= rig.finish) s = (rig.finish (x.result s).1).result (x.result s).2 := by
    rw [result_bind, result_attempt]
  have hok : (result (x.attempt >>= rig.finish) s).1 = .ok a := hok
  show result (y.attempt >>= rig.finish) s = result (x.attempt >>= rig.finish) s
  rw [hfinish] at hok
  rw [hfinish, hfinish, h s (ok_of_finish hok)]

theorem isSome_band {f : UInt32} (h : 430000000 < f) : (FrequencyBand.of? f).isSome := by
  unfold FrequencyBand.of?
  simp only [gt_iff_lt, h, if_true]
  repeat' split
  all_goals rfl

theorem toNat_max (a b : UInt32) : (max a b).toNat = max a.toNat b.toNat := by
  show (if a ≤ b then b else a).toNat = _
  split <;> rename_i h
  · exact (Nat.max_eq_right h).symm
  · exact (Nat.max_eq_left (Nat.le_of_not_le h)).symm

/-- What a channel check finds out, for every frequency above 430 MHz and whatever levels and times
the chip and the clock tell, if it begins in standby and the chip refuses nothing. The channel is
watched from when the receiver is on, and only then is the RSSI sampled. A channel that is free at a
threshold is free at every higher one. -/
theorem channel_checked (rig : Rig σ) (s : Station σ) {frequency : UInt32} (threshold : Int16)
    (duration : UInt32) (hstate : s.radio.state = .standby) (hfrequency : 430000000 < frequency)
    (hsmooth : (rig.turn s (.isChannelFree frequency threshold duration)).IsSmooth) :
    let t := rig.turn s (.isChannelFree frequency threshold duration)
    let levels := t.exchanges.filterMap (Exchange.level? rig.config.lnaGain)
    ∃ opening start watched closing, ∃ free : Bool, t.outcome = .ok free ∧
      t.exchanges = opening ++ .clock start :: (watched ++ closing) ∧
      opening.getLast? = some (.command (.setRx Ticks.continuous) (.ok ())) ∧
      (∀ x ∈ opening ++ closing, x.level? rig.config.lnaGain = none) ∧
      ChannelCheck threshold (max duration.toNat 30) start levels watched free ∧
      (free = true → ∀ higher ≥ threshold,
        (rig.turn s (.isChannelFree frequency higher duration)).outcome = .ok true) := by
  intro t levels
  obtain ⟨opening, start, watched, closing, free, houtcome, hexchanges, hlast, hnone, hwatches⟩ :=
    watches_isChannelFree threshold duration hstate (isSome_band hfrequency) hsmooth
  refine ⟨opening, start, watched, closing, free, houtcome, hexchanges, hlast, hnone, ?_, ?_⟩
  · have hwindow : (max duration samplePeriod).toNat = max duration.toNat 30 := toNat_max _ _
    have hlevels : levels = watched.filterMap (Exchange.level? rig.config.lnaGain) := by
      have hexchanges : t.exchanges = _ := hexchanges
      obtain ⟨hopening, hclosing⟩ := List.forall_mem_append.mp hnone
      show t.exchanges.filterMap _ = _
      rw [hexchanges, List.filterMap_append, List.filterMap_eq_nil_iff.mpr hopening,
        List.nil_append]
      show (watched ++ closing).filterMap _ = _
      rw [List.filterMap_append, List.filterMap_eq_nil_iff.mpr hclosing, List.append_nil]
    rw [hlevels, ← hwindow]
    exact hwatches.check (hwindow ▸ Nat.le_max_right ..)
  · rintro rfl higher hle
    have houtcome : t.outcome = .ok true := houtcome
    have hfree : ((rig.isChannelFree frequency threshold duration).result s).1 = .ok true :=
      turn_outcome.symm.trans houtcome
    have halike : (rig.isChannelFree frequency higher duration).result s =
        (rig.isChannelFree frequency threshold duration).result s :=
      measure_congr (fun _ => sampleChannel_of_le hle) hfree
    exact turn_outcome.trans ((congrArg Prod.fst halike).trans hfree)

/-- The clock stands still, so it takes four delays to make up a window of 100 microseconds. -/
theorem channel_checked_bench :
    let s : Station (List InterruptSet) := ⟨{ state := .standby }, []⟩
    let t := (Bench.rig {}).turn s (.isChannelFree 868100000 (-73) 100)
    t.exchanges.filterMap (Exchange.level? 3) = .replicate 4 (-73) ∧ t.outcome = .ok true ∧
      ((Bench.rig {}).turn s (.isChannelFree 868100000 (-60) 100)).outcome = .ok true := by
  intro s t
  have hsmooth : t.IsSmooth := by decide +kernel
  have hlevels : t.exchanges.filterMap (Exchange.level? 3) = .replicate 4 (-73) := by
    decide +kernel
  obtain ⟨opening, start, watched, closing, free, houtcome, hexchanges, hlast, hnone, hcheck,
    hhigher⟩ := channel_checked (Bench.rig {}) s (-73) 100 rfl (by decide) hsmooth
  have hfree : free = true := by
    refine hcheck.free_iff.mpr fun level hlevel => ?_
    have hlevel : level ∈ t.exchanges.filterMap (Exchange.level? 3) := hlevel
    rw [hlevels] at hlevel
    rw [List.eq_of_mem_replicate hlevel]
    exact Int16.le_refl _
  exact ⟨hlevels, hfree ▸ houtcome, hhigher hfree (-60) (by decide)⟩

end Rig

end Transceiver
