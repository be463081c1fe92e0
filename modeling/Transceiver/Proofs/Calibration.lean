import Transceiver.Proofs.Bench
import Transceiver.Proofs.Tuning

/-! The image calibration behind a tuned frequency. The radio calibrates the image when it is tuned
to another band than before, and relies on an earlier calibration otherwise. The record of the
frequency outlives a reset of the chip, and it does not follow a tuning that failed after its
calibration. Those two, and nothing else, leave a tuned frequency without the calibration of its
band. -/

namespace Transceiver

/-- What the chip's image was calibrated for, where a reset undoes what came before it. -/
def Exchange.imaged? : Exchange → Option (Option UInt32)
  | .command .reset (.ok _) => some none
  | .command (.calibrateImage f) (.ok _) => some (some f)
  | _ => none

/-- The image was calibrated since the last reset, at last for the band of this frequency. -/
def Calibrated (xs : List Exchange) (f : UInt32) : Prop :=
  ∃ g, lastFound Exchange.imaged? none xs = some (some g) ∧
    FrequencyBand.of? g = FrequencyBand.of? f

/-- The chip is tuned to the band of this frequency, but was reset since the calibration for it, or
calibrated for another band. -/
def Stale (xs : List Exchange) (f : UInt32) : Prop :=
  (lastFound Exchange.tuned? none xs).bind FrequencyBand.of? = FrequencyBand.of? f ∧
    ∃ image, lastFound Exchange.imaged? none xs = some image ∧
      image.bind FrequencyBand.of? ≠ FrequencyBand.of? f

/-- The chip gave up no tuning, and it was not reset after it was tuned. -/
structure Unspoiled (xs : List Exchange) : Prop where
  tuned : ¬GivesUp xs
  unreset : ∀ pre post, xs = pre ++ .command .reset (.ok ()) :: post → ∀ x ∈ pre, x.tuned? = none

theorem Unspoiled.of_append {xs ys : List Exchange} (h : Unspoiled (xs ++ ys)) : Unspoiled xs where
  tuned := fun ⟨c, e, hc, hmem⟩ => h.tuned ⟨c, e, hc, List.mem_append_left _ hmem⟩
  unreset pre post hsplit := h.unreset pre (post ++ ys) (by simp [hsplit])

theorem Unspoiled.append {xs ys : List Exchange} (h : ¬GivesUp (xs ++ ys))
    (hxs : ∀ x ∈ xs, x.tuned? = none) (hys : ∀ y ∈ ys, y.imaged? ≠ some none) :
    Unspoiled (xs ++ ys) where
  tuned := h
  unreset pre post hsplit := by
    rcases List.append_eq_append_iff.mp hsplit with ⟨zs, -, hzs⟩ | ⟨zs, rfl, -⟩
    · have hmem : Exchange.command .reset (.ok ()) ∈ ys := by simp [hzs]
      exact absurd rfl (hys _ hmem)
    · exact fun x hx => hxs x (List.mem_append_left _ hx)

/-- What follows a tuning neither resets nor calibrates the chip, if it belongs to no tuning. -/
theorem Unspoiled.imaged?_of_tuned {xs ys : List Exchange} (h : Unspoiled (xs ++ ys))
    (htuned : lastFound Exchange.tuned? none xs ≠ none)
    (hys : ∀ y ∈ ys, ∀ f, y ≠ .command (.calibrateImage f) (.ok ())) :
    ∀ y ∈ ys, y.imaged? = none := by
  intro y hy
  unfold Exchange.imaged?
  split
  · obtain ⟨pre, post, rfl⟩ := List.append_of_mem hy
    have hnone : ∀ x ∈ xs ++ pre, x.tuned? = none := h.unreset _ post (by simp)
    exact absurd (lastFound_of_none _ fun x hx => hnone x (List.mem_append_left _ hx)) htuned
  · exact absurd rfl (hys _ hy _)
  · rfl

/-- What the exchanges so far say about the record of the frequency. -/
structure Tuning (xs : List Exchange) (r : Radio) : Prop where
  frequency : r.frequency = (lastFound Exchange.tuned? none xs).getD 0
  imaged : lastFound Exchange.tuned? none xs ≠ none → lastFound Exchange.imaged? none xs ≠ none
  calibrated : Unspoiled xs → ∀ f, lastFound Exchange.tuned? none xs = some f → Calibrated xs f
  /-- So far each tuning found its band calibrated, or its calibration stale. -/
  tunings : ∀ pre f post, xs = pre ++ .command (.setFrequency f) (.ok ()) :: post →
    (Calibrated pre f ↔ ¬Stale pre f) ∧ (Unspoiled pre → Calibrated pre f)

theorem lastFound_ne_none_append {β : Type} {f : Exchange → Option β} {xs : List Exchange}
    (h : lastFound f none xs ≠ none) (ys : List Exchange) : lastFound f none (xs ++ ys) ≠ none := by
  obtain ⟨b, hb⟩ := Option.ne_none_iff_exists'.mp h
  rw [lastFound_append, hb, lastFound]
  cases (ys.filterMap f).getLast? with
  | none => exact Option.some_ne_none b
  | some c => exact Option.some_ne_none c

theorem Calibrated.append {xs ys : List Exchange} {f : UInt32} (h : Calibrated xs f)
    (hys : ∀ y ∈ ys, y.imaged? = none) : Calibrated (xs ++ ys) f := by
  obtain ⟨g, hg, hband⟩ := h
  exact ⟨g, by rw [lastFound_append, lastFound_of_none _ hys, hg], hband⟩

/-- The image is calibrated for the band of this frequency, or its calibration is stale. -/
structure Imaged (f : UInt32) (xs : List Exchange) : Prop where
  imaged : lastFound Exchange.imaged? none xs ≠ none
  fresh : Calibrated xs f ↔ ¬Stale xs f
  unspoiled : Unspoiled xs → Calibrated xs f

namespace Imaged

variable {xs : List Exchange} {f : UInt32}

theorem calibrated : Imaged f (xs ++ [.command (.calibrateImage f) (.ok ())]) := by
  have hlast : lastFound Exchange.imaged? none
      (xs ++ [.command (.calibrateImage f) (.ok ())]) = some (some f) := lastFound_concat ..
  have hcalibrated : Calibrated (xs ++ [.command (.calibrateImage f) (.ok ())]) f :=
    ⟨f, hlast, rfl⟩
  refine ⟨by simp [hlast], iff_of_true hcalibrated ?_, fun _ => hcalibrated⟩
  rintro ⟨-, image, himage, hother⟩
  obtain rfl : image = some f := Option.some.inj (himage.symm.trans hlast)
  exact hother rfl

/-- A radio that is tuned to the band was calibrated for it before. -/
theorem of_tuned {r : Radio} (h : Tuning xs r)
    (hband : FrequencyBand.of? r.frequency = FrequencyBand.of? f)
    (hknown : FrequencyBand.of? f ≠ none) : Imaged f xs := by
  obtain ⟨g, hg⟩ : ∃ g, lastFound Exchange.tuned? none xs = some g := by
    refine Option.ne_none_iff_exists'.mp fun hnone => hknown ?_
    rw [← hband, h.frequency, hnone]
    decide
  have hsame : FrequencyBand.of? g = FrequencyBand.of? f := by
    rw [← hband, h.frequency, hg, Option.getD_some]
  have htuned : (lastFound Exchange.tuned? none xs).bind FrequencyBand.of? =
      FrequencyBand.of? f := by
    rw [hg, Option.bind_some, hsame]
  have himaged := h.imaged (by simp [hg])
  refine ⟨himaged, ?_, fun hunspoiled => ?_⟩
  · obtain ⟨image, himage⟩ := Option.ne_none_iff_exists'.mp himaged
    by_cases hfresh : image.bind FrequencyBand.of? = FrequencyBand.of? f
    · refine iff_of_true ?_ ?_
      · cases image with
        | none => exact absurd hfresh.symm hknown
        | some g => exact ⟨g, himage, hfresh⟩
      · rintro ⟨-, image', himage', hother⟩
        obtain rfl : image' = image := Option.some.inj (himage'.symm.trans himage)
        exact hother hfresh
    · refine iff_of_false ?_ (not_not_intro ⟨htuned, image, himage, hfresh⟩)
      rintro ⟨g, hg, hband⟩
      obtain rfl : image = some g := Option.some.inj (himage.symm.trans hg)
      exact hfresh hband
  · obtain ⟨image, himage, hfresh⟩ := h.calibrated hunspoiled g hg
    exact ⟨image, himage, hfresh.trans hsame⟩

theorem append (h : Imaged f xs) {ys : List Exchange} (htuned : ∀ y ∈ ys, y.tuned? = none)
    (himaged : ∀ y ∈ ys, y.imaged? = none) : Imaged f (xs ++ ys) := by
  obtain ⟨hlast, hfresh, hunspoiled⟩ := h
  have hsame : lastFound Exchange.imaged? none (xs ++ ys) = lastFound Exchange.imaged? none xs := by
    rw [lastFound_append, lastFound_of_none _ himaged]
  refine ⟨by rwa [hsame], ?_, fun h => (hunspoiled h.of_append).append himaged⟩
  rwa [Calibrated, Stale, hsame, lastFound_append, lastFound_of_none _ htuned]

/-- A radio that is about to be tuned was calibrated for the band, now or before. -/
theorem prepared {r : Radio} (h : Tuning xs r) {image edge : List Exchange}
    (himage : Images f r image) (hedge : Compensates f edge)
    (hband : FrequencyBand.of? f ≠ none) : Imaged f (xs ++ image ++ edge) := by
  have himaged : Imaged f (xs ++ image) := by
    rcases himage with ⟨rfl, -⟩ | ⟨rfl, hsame⟩
    · exact .calibrated
    · rw [List.append_nil]
      exact .of_tuned h hsame hband
  refine himaged.append hedge.tuned? ?_
  rcases hedge with rfl | rfl <;> simp [Exchange.imaged?]

end Imaged

namespace Tuning

variable {xs ys : List Exchange} {r r' : Radio} {f : UInt32}

theorem start {r : Radio} (h : r.frequency = 0) : Tuning [] r where
  frequency := h
  imaged := fun hnone => absurd rfl hnone
  calibrated _ f hf := by cases hf
  tunings pre f post hsplit := by simp at hsplit

/-- Where a tuning is found, it stands before what was added without one. -/
theorem split_of_append (hys : ∀ y ∈ ys, y.tuned? = none) {pre post : List Exchange}
    (hsplit : xs ++ ys = pre ++ .command (.setFrequency f) (.ok ()) :: post) :
    ∃ more, xs = pre ++ .command (.setFrequency f) (.ok ()) :: more := by
  rcases List.append_eq_append_iff.mp hsplit with ⟨zs, -, hzs⟩ | ⟨zs, hpre, hzs⟩
  · have hmem : Exchange.command (.setFrequency f) (.ok ()) ∈ ys := by simp [hzs]
    exact absurd (hys _ hmem) nofun
  · cases zs with
    | nil =>
      have hhead : ys = .command (.setFrequency f) (.ok ()) :: post := hzs.symm
      have hmem : Exchange.command (.setFrequency f) (.ok ()) ∈ ys := by simp [hhead]
      exact absurd (hys _ hmem) nofun
    | cons z zs =>
      obtain ⟨rfl, -⟩ := List.cons.inj hzs
      exact ⟨zs, hpre⟩

/-- Whatever is not a tuning of the chip keeps the record of the frequency right. -/
theorem append (h : Tuning xs r) (hys : ∀ y ∈ ys, y.tuned? = none)
    (hcalibrates : Unspoiled (xs ++ ys) → ∀ y ∈ ys, ∀ f, y ≠ .command (.calibrateImage f) (.ok ()))
    (hfrequency : r'.frequency = r.frequency) : Tuning (xs ++ ys) r' where
  frequency := by rw [hfrequency, h.frequency, lastFound_append, lastFound_of_none _ hys]
  imaged htuned := by
    rw [lastFound_append, lastFound_of_none _ hys] at htuned
    exact lastFound_ne_none_append (h.imaged htuned) ys
  calibrated hunspoiled f hf := by
    rw [lastFound_append, lastFound_of_none _ hys] at hf
    have hnone : ∀ y ∈ ys, y.imaged? = none :=
      hunspoiled.imaged?_of_tuned (by simp [hf]) (hcalibrates hunspoiled)
    exact (h.calibrated hunspoiled.of_append f hf).append hnone
  tunings pre f post hsplit := by
    obtain ⟨more, hmore⟩ := split_of_append hys hsplit
    exact h.tunings pre f more hmore

/-- A radio that is tuned was calibrated for the band, unless its calibration is stale. -/
theorem tune (h : Tuning xs r) {image edge : List Exchange} (himage : Images f r image)
    (hedge : Compensates f edge) (hband : FrequencyBand.of? f ≠ none) :
    Tuning (xs ++ (image ++ edge ++ [.command (.setFrequency f) (.ok ())]))
      { r with frequency := f } := by
  have himaged : Imaged f (xs ++ image ++ edge) := .prepared h himage hedge hband
  have hnone : ∀ y ∈ image ++ edge, y.tuned? = none := fun y hy =>
    (List.mem_append.mp hy).elim (himage.tuned? y) (hedge.tuned? y)
  rw [← List.append_assoc, ← List.append_assoc]
  refine ⟨by rw [lastFound_concat]; rfl, fun _ => lastFound_ne_none_append himaged.imaged _,
    fun hunspoiled g hg => ?_, fun pre g post hsplit => ?_⟩
  · rw [lastFound_concat] at hg
    obtain rfl : f = g := Option.some.inj hg
    exact (himaged.unspoiled hunspoiled.of_append).append (by simp [Exchange.imaged?])
  · rcases List.eq_nil_or_concat post with rfl | ⟨post, x, rfl⟩
    · obtain ⟨rfl, hlast⟩ := List.append_inj' hsplit rfl
      cases hlast
      exact ⟨himaged.fresh, himaged.unspoiled⟩
    · rw [List.concat_eq_append, ← List.cons_append, ← List.append_assoc] at hsplit
      have hbefore : xs ++ (image ++ edge) = pre ++ .command (.setFrequency g) (.ok ()) :: post := by
        rw [← List.append_assoc]
        exact (List.append_inj' hsplit rfl).1
      obtain ⟨more, hmore⟩ := split_of_append hnone hbefore
      exact h.tunings pre g more hmore

end Tuning

/-- The record of the frequency is right after these exchanges and those of the log. -/
def Station.Tunes {σ : Type} (pre : List Exchange) (s : Station (σ × List Exchange)) : Prop :=
  Tuning (pre ++ s.log) s.radio

namespace Rig

open Station Transceiver.Action

variable {σ α : Type} {rig : Rig σ} {pre : List Exchange}

theorem tunes_among {topics : List Topic} {parts : List Part}
    {x : Action (Station (σ × List Exchange)) α} {y : Action (Station σ) α}
    (h : Recorded rig (·.topic ∈ topics) parts x y) (htopics : .tuning ∉ topics)
    (hparts : .frequency ∉ parts) : x.Keeps (Tunes pre) := by
  intro s hs
  obtain ⟨xs, hlog, hxs⟩ := (h s).2.log
  rw [Ends, Tunes, hlog, ← List.append_assoc]
  refine hs.append (fun x hx => Exchange.tuned?_of_within (hxs x hx) htopics) (fun _ x hx f => ?_)
    ((h s).2.radio .frequency hparts)
  rintro rfl
  exact htopics (hxs _ hx)

theorem tunes_setFrequency (f : UInt32) : (rig.recording.setFrequency f).Keeps (Tunes pre) :=
  fun s hs => (ends_setFrequency f s).mono fun _ s' ⟨xs, hlog, h⟩ => by
    rw [Tunes, hlog, ← List.append_assoc]
    cases h with
    | refused e htuned hrefused hradio =>
      refine hs.append htuned (fun hunspoiled => ?_) (by rw [hradio])
      rcases hrefused with rfl | ⟨c, e, hc, hmem⟩
      · exact List.forall_mem_nil _
      · exact absurd ⟨c, e, hc, List.mem_append_right _ hmem⟩ hunspoiled.tuned
    | tuned image edge hband himage hedge hexchanges hradio =>
      rw [hradio, hexchanges]
      exact hs.tune himage hedge hband

theorem tunes_perform (op : Operation) : (rig.recording.perform op).Keeps (Tunes pre) :=
  TuningKeeps.perform ⟨tunes_among, tunes_setFrequency⟩ op

/-! ## Runs -/

theorem tuning_history {xs : List Exchange} (s : Station σ) (ops : List Operation)
    (h : Tuning xs s.radio) :
    Tuning (xs ++ (rig.history s ops).flatMap Turn.exchanges) (rig.run s ops).radio := by
  refine history_extends (fun s op xs h => ?_) ops h
  have hperform : (rig.recording.perform op).Keeps (Tunes xs) := tunes_perform op
  exact hperform s.recorded (by simpa [Tunes] using h)

/-- Setting the frequency succeeds exactly if the chip accepts the command for it, which is the last
one. -/
theorem ends_setFrequency_isOk {s : Station (σ × List Exchange)} {f : UInt32} (hlog : s.log = []) :
    (rig.recording.setFrequency f).Ends s fun r s' =>
      r.isOk = true ↔ .setFrequency f ∈ s'.log.filterMap Exchange.accepted? := by
  refine (ends_setFrequency f s).mono fun _ s' ⟨xs, hxs, h⟩ => ?_
  rw [hxs, hlog, List.nil_append]
  cases h with
  | refused e htuned _ _ =>
    refine iff_of_false nofun fun hmem => ?_
    obtain ⟨x, hx, haccepted⟩ := List.mem_filterMap.mp hmem
    obtain ⟨r, rfl⟩ := Exchange.eq_of_accepted haccepted
    exact absurd (htuned _ hx) nofun
  | tuned image edge _ _ _ hexchanges _ =>
    exact iff_of_true rfl (by simp [hexchanges, Exchange.accepted?])

/-- Over every run from power-off: where the chip accepts a frequency, its image is calibrated for
the band, exactly unless the chip was tuned to the band before and was reset since, or calibrated
for another band. So it always is if the chip gave up no tuning before, and was not reset after it was
first tuned. The frequency is set exactly if the chip accepts it. -/
theorem calibrated_iff_not_stale (rig : Rig σ) (w : σ) (ops : List Operation)
    (pre post : List Exchange) (f : UInt32)
    (h : (rig.history ⟨{}, w⟩ ops).flatMap Turn.exchanges =
      pre ++ .command (.setFrequency f) (.ok ()) :: post) :
    (Calibrated pre f ↔ ¬Stale pre f) ∧ (Unspoiled pre → Calibrated pre f) ∧
      ∀ s : Station σ, (rig.turn s (.setFrequency f)).Succeeds ↔
        .setFrequency f ∈ (rig.turn s (.setFrequency f)).accepted := by
  have hrun : Tuning ([] ++ _) (rig.run ⟨{}, w⟩ ops).radio := tuning_history _ ops (.start rfl)
  obtain ⟨hfresh, hunspoiled⟩ := hrun.tunings pre f post h
  refine ⟨hfresh, hunspoiled, fun s => ?_⟩
  have hends : (rig.recording.setFrequency f).Ends s.recorded fun r s' =>
      r.isOk = true ↔ .setFrequency f ∈ s'.log.filterMap Exchange.accepted? :=
    ends_setFrequency_isOk rfl
  exact hends

/-- Tuned on inside its band, a radio skips the calibration, and has one. -/
theorem calibrated_iff_not_stale_tuned_on :
    let rig := Bench.rig {}
    let ops := [.powerUp, .setModem .fsk, .setFrequency 868100000]
    let turns := rig.history ⟨{}, []⟩ ops
    let turn := rig.turn (rig.run ⟨{}, []⟩ ops) (.setFrequency 868300000)
    (rig.history ⟨{}, []⟩ (ops ++ [.setFrequency 868300000])).flatMap Turn.exchanges =
        turns.flatMap Turn.exchanges ++ [.command (.setFrequency 868300000) (.ok ())] ∧
      turn.given = [.setFrequency 868300000] ∧
      Calibrated (turns.flatMap Turn.exchanges) 868300000 := by
  intro rig ops turns turn
  have hgiven : turn.given = [.setFrequency 868300000] := by decide +kernel
  have haccepted : turn.accepted = [.setFrequency 868300000] := by decide +kernel
  have hturn : turn.exchanges = [.command (.setFrequency 868300000) (.ok ())] := by
    obtain ⟨x, hx⟩ : ∃ x, turn.exchanges = [x] := List.length_eq_one_iff.mp (by decide +kernel)
    have hmem : .setFrequency 868300000 ∈ turn.accepted := by rw [haccepted]; exact .head _
    obtain ⟨y, hy, hset⟩ := List.mem_filterMap.mp hmem
    obtain rfl : y = x := by simpa [hx] using hy
    obtain ⟨r, rfl⟩ := Exchange.eq_of_accepted hset
    exact hx
  have hsplit : (rig.history ⟨{}, []⟩ (ops ++ [.setFrequency 868300000])).flatMap Turn.exchanges =
      turns.flatMap Turn.exchanges ++ [.command (.setFrequency 868300000) (.ok ())] := by
    rw [Rig.history_append, List.flatMap_append, ← hturn]
    exact congrArg (List.flatMap Turn.exchanges turns ++ ·) (List.append_nil turn.exchanges)
  refine ⟨hsplit, hgiven, (calibrated_iff_not_stale rig [] _ _ [] _ hsplit).2.1 ?_⟩
  have hsmooth : ∀ x ∈ turns.flatMap Turn.exchanges, x.fails = false := by decide +kernel
  have hunreset : ∀ x ∈ (turns.drop 1).flatMap Turn.exchanges, x.imaged? ≠ some none := by
    decide +kernel
  have huntuned : ∀ x ∈ (turns.take 1).flatMap Turn.exchanges, x.tuned? = none := by
    decide +kernel
  have hturns : turns.flatMap Turn.exchanges =
      (turns.take 1).flatMap Turn.exchanges ++ (turns.drop 1).flatMap Turn.exchanges := by
    rw [← List.flatMap_append, List.take_append_drop]
  rw [hturns] at hsmooth ⊢
  exact .append (fun hgives => hgives.not_smooth hsmooth) huntuned hunreset

/-- The record of the frequency outlives a reset: back in the same band, the radio is tuned without
a calibration. -/
theorem tuned_uncalibrated :
    let rig := Bench.rig {}
    let ops := [.powerUp, .setFrequency 868100000, .powerUp]
    (rig.turn (rig.run ⟨{}, []⟩ ops) (.setFrequency 868300000)).Succeeds ∧
      ¬Calibrated ((rig.history ⟨{}, []⟩ (ops ++ [.setFrequency 868300000])).flatMap Turn.exchanges)
        868300000 := by
  intro rig ops
  refine ⟨by decide +kernel, ?_⟩
  rintro ⟨g, hg, -⟩
  have hreset : lastFound Exchange.imaged? none ((rig.history ⟨{}, []⟩
      (ops ++ [.setFrequency 868300000])).flatMap Turn.exchanges) = some none := by
    decide +kernel
  exact absurd (hg.symm.trans hreset) nofun

end Rig

end Transceiver
