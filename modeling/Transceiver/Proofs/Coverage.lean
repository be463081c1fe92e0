import Transceiver.Proofs.Arming
import Transceiver.Proofs.Calibration
import Transceiver.Proofs.CalibrationBand
import Transceiver.Proofs.Transfer

/-! What the image calibration of an LR11xx reaches. The chip has calibration bands of its own, which
are narrower than those by which the radio decides whether to calibrate. So a radio that is tuned
inside its band goes by the calibration for the frequency that brought it there, which need not
reach as far as the one it is tuned to. -/

namespace Transceiver

/-- The frequency that the image was calibrated for. -/
def Exchange.calibrated? : Exchange → Option UInt32
  | .command (.calibrateImage f) (.ok _) => some f
  | _ => none

theorem Exchange.calibrated?_of_within {topics : List Topic} {parts : List Part} {x : Exchange}
    (h : x.Within (·.topic ∈ topics) parts) (htopics : .tuning ∉ topics) :
    x.calibrated? = none := by
  unfold calibrated?
  split
  · exact absurd h htopics
  · rfl

/-- A radio that is tuned to one frequency after another comes to a band by `g`: it was in another
band before, or in none, and keeps to the band after. -/
structure Enters (band : FrequencyBand) (pre : List UInt32) (g : UInt32) (post : List UInt32) :
    Prop where
  outside : ∀ f, pre.getLast? = some f → FrequencyBand.of? f ≠ some band
  inside : ∀ f ∈ g :: post, FrequencyBand.of? f = some band

/-- The frequency on record is the one that the chip was tuned to last, and the image was calibrated
last for the one by which the radio came to its band. -/
structure Entered (xs : List Exchange) (r : Radio) : Prop where
  frequency : r.frequency = (lastFound Exchange.tuned? none xs).getD 0
  calibrated : ∀ band, FrequencyBand.of? r.frequency = some band →
    ∃ pre g post, xs.filterMap Exchange.tuned? = pre ++ g :: post ∧ Enters band pre g post ∧
      lastFound Exchange.calibrated? none xs = some g

namespace Entered

variable {xs ys : List Exchange} {r : Radio} {f : UInt32}

theorem start (h : r.frequency = 0) : Entered [] r where
  frequency := h
  calibrated band hband := by
    have hnone : FrequencyBand.of? 0 = none := by decide
    rw [h, hnone] at hband
    cases hband

theorem append (h : Entered xs r) (htuned : ∀ y ∈ ys, y.tuned? = none)
    (hcalibrated : ∀ y ∈ ys, y.calibrated? = none) : Entered (xs ++ ys) r where
  frequency := by rw [h.frequency, lastFound_append, lastFound_of_none _ htuned]
  calibrated band hband := by
    have hnil : ys.filterMap Exchange.tuned? = [] := List.filterMap_eq_nil_iff.mpr htuned
    rw [List.filterMap_append, hnil, List.append_nil, lastFound_append,
      lastFound_of_none _ hcalibrated]
    exact h.calibrated band hband

/-- A radio that comes from another band is calibrated for the new frequency. -/
theorem enter (h : Entered xs r) {edge : List Exchange} (hedge : Compensates f edge)
    (hother : FrequencyBand.of? r.frequency ≠ FrequencyBand.of? f) :
    Entered (xs ++ [.command (.calibrateImage f) (.ok ())] ++ edge ++
      [.command (.setFrequency f) (.ok ())]) { r with frequency := f } where
  frequency := by rw [lastFound_concat]; rfl
  calibrated band hband := by
    refine ⟨xs.filterMap Exchange.tuned?, f, [], ?_, ⟨fun g hg => ?_, ?_⟩, ?_⟩
    · rcases hedge with rfl | rfl <;> simp <;> rfl
    · have hg : r.frequency = g := by rw [h.frequency, lastFound, Option.or_none, hg]; rfl
      rwa [← hg, ← hband]
    · simpa using hband
    · rcases hedge with rfl | rfl <;> simp [lastFound, Exchange.calibrated?] <;> rfl

/-- A radio that keeps to its band goes by the calibration it has. -/
theorem stay (h : Entered xs r) {edge : List Exchange} (hedge : Compensates f edge)
    (hsame : FrequencyBand.of? r.frequency = FrequencyBand.of? f) :
    Entered (xs ++ edge ++ [.command (.setFrequency f) (.ok ())]) { r with frequency := f } where
  frequency := by rw [lastFound_concat]; rfl
  calibrated band hband := by
    obtain ⟨pre, g, post, hsplit, henters, hlast⟩ := h.calibrated band (hsame.trans hband)
    refine ⟨pre, g, post ++ [f], ?_, ⟨henters.outside, fun f' hf' => ?_⟩, ?_⟩
    · have hnone : edge.filterMap Exchange.tuned? = [] := by
        rcases hedge with rfl | rfl <;> rfl
      rw [List.filterMap_append, List.filterMap_append, hnone, hsplit, List.append_nil]
      exact List.append_assoc ..
    · rw [← List.cons_append, List.mem_append, List.mem_singleton] at hf'
      rcases hf' with hf' | rfl
      · exact henters.inside f' hf'
      · exact hband
    · have hnone : ∀ y ∈ edge ++ [.command (.setFrequency f) (.ok ())],
          Exchange.calibrated? y = none := by
        rcases hedge with rfl | rfl <;> simp [Exchange.calibrated?]
      rw [List.append_assoc, lastFound_append, lastFound_of_none _ hnone, hlast]

end Entered

/-- The radio is where it came to by its calibration, unless the chip refused a command. -/
def Banded (xs : List Exchange) (r : Radio) : Prop := Smooth xs → Entered xs r

/-- It is, after these exchanges and those of the log. -/
def Station.Bands {σ : Type} (pre : List Exchange) (s : Station (σ × List Exchange)) : Prop :=
  Banded (pre ++ s.log) s.radio

namespace Rig

open Station Transceiver.Action

variable {σ α : Type} {rig : Rig σ} {pre : List Exchange}

theorem bands_among {topics : List Topic} {parts : List Part}
    {x : Action (Station (σ × List Exchange)) α} {y : Action (Station σ) α}
    (h : Recorded rig (·.topic ∈ topics) parts x y) (htopics : .tuning ∉ topics)
    (hparts : .frequency ∉ parts) : x.Keeps (Bands pre) := by
  intro s hs
  obtain ⟨xs, hlog, hxs⟩ := (h s).2.log
  have hfrequency : (x.result s).2.radio.frequency = s.radio.frequency :=
    (h s).2.radio .frequency hparts
  rw [Ends, Bands, hlog, ← List.append_assoc]
  intro hsmooth
  have hentered : Entered (pre ++ s.log ++ xs) s.radio := (hs hsmooth.of_append).append
    (fun x hx => Exchange.tuned?_of_within (hxs x hx) htopics)
    fun x hx => Exchange.calibrated?_of_within (hxs x hx) htopics
  exact ⟨hfrequency.trans hentered.frequency,
    fun band hband => hentered.calibrated band (hfrequency ▸ hband)⟩

theorem bands_setFrequency (f : UInt32) : (rig.recording.setFrequency f).Keeps (Bands pre) :=
  fun s hs => (ends_setFrequency f s).mono fun _ s' ⟨xs, hlog, h⟩ => by
    rw [Bands, hlog, ← List.append_assoc]
    intro hsmooth
    have hentered : Entered (pre ++ s.log) s.radio := hs hsmooth.of_append
    cases h with
    | refused e _ hrefused hradio =>
      rcases hrefused with rfl | hrefused
      · rwa [hradio, List.append_nil]
      · exact absurd (fun x hx => hsmooth x (List.mem_append_right _ hx)) hrefused.not_smooth
    | tuned image edge _ himage hedge hexchanges hradio =>
      rw [hradio, hexchanges, ← List.append_assoc, ← List.append_assoc]
      rcases himage with ⟨rfl, hother⟩ | ⟨rfl, hsame⟩
      · exact hentered.enter hedge hother
      · rw [List.append_nil]
        exact hentered.stay hedge hsame

theorem banded_history {xs : List Exchange} (s : Station σ) (ops : List Operation)
    (h : Banded xs s.radio) :
    Banded (xs ++ (rig.history s ops).flatMap Turn.exchanges) (rig.run s ops).radio := by
  refine history_extends (fun s op xs h => ?_) ops h
  have hperform : (rig.recording.perform op).Keeps (Bands xs) :=
    TuningKeeps.perform ⟨bands_among, bands_setFrequency⟩ op
  exact hperform s.recorded (by simpa [Bands] using h)

/-- Where the chip refuses nothing from power-off on, the image was calibrated last for the frequency
by which the radio came to the band that it is tuned in. -/
theorem entered_of_set {s : Station σ} (hs : s.radio.frequency = 0) {ops : List Operation}
    {f : UInt32} {xs : List Exchange}
    (hxs : (rig.history s (ops ++ [.setFrequency f])).flatMap Turn.exchanges = xs)
    (hsmooth : Smooth xs) (hset : (rig.turn (rig.run s ops) (.setFrequency f)).Succeeds) :
    ∃ band pre g post, FrequencyBand.of? f = some band ∧
      xs.filterMap Exchange.tuned? = pre ++ g :: post ∧ (g :: post).getLast? = some f ∧
      Enters band pre g post ∧ lastFound Exchange.calibrated? none xs = some g := by
  obtain ⟨hknown, hfrequency⟩ := frequency_turn hset
  have hbanded : Banded ([] ++ _) (rig.run s (ops ++ [.setFrequency f])).radio :=
    banded_history s (ops ++ [.setFrequency f]) fun _ => .start hs
  rw [List.nil_append, hxs, run_append] at hbanded
  obtain ⟨band, hband⟩ := Option.ne_none_iff_exists'.mp hknown
  have hrecord : FrequencyBand.of? (rig.step (rig.run s ops) (.setFrequency f)).radio.frequency =
      some band := by rw [hfrequency, hband]
  have hentered := hbanded hsmooth
  obtain ⟨pre, g, post, hsplit, henters, hlast⟩ := hentered.calibrated band hrecord
  refine ⟨band, pre, g, post, hband, hsplit, ?_, henters, hlast⟩
  have htuned : lastFound Exchange.tuned? none xs = (g :: post).getLast? := by
    rw [lastFound, hsplit, Option.or_none, List.getLast?_append, List.getLast?_cons, Option.some_or]
  have hf : f = (lastFound Exchange.tuned? none xs).getD 0 :=
    hfrequency.symm.trans hentered.frequency
  rw [hf, htuned, List.getLast?_cons, Option.getD_some]

end Rig

/-! ## The bands of the radio and those of the chip -/

/-- The part of a band that the chip calibrates as a whole, in hertz. -/
def FrequencyBand.whole : FrequencyBand → UInt32 × UInt32
  | .band430 => (430000000, 440000000)
  | .band460 => (470000000, 510000000)
  | .band770 => (779000000, 787000000)
  | .band850 => (863000000, 879000000)
  | .band900 => (902000000, 928000000)

/-- A calibration for a frequency `g` of a band reaches `f`. In the whole part of the band it goes as
far as that does, in steps of 4 MHz around it. Elsewhere it goes from the last step at or below `g` to
the one after it, or the second after it. -/
def FrequencyBand.Reaches (band : FrequencyBand) (g f : UInt32) : Prop :=
  if band.whole.1 ≤ g ∧ g ≤ band.whole.2 then
    band.whole.1.toNat / 4000000 * 4000000 ≤ f.toNat ∧
      f.toNat ≤ (band.whole.2.toNat + 3999999) / 4000000 * 4000000
  else
    g.toNat / 4000000 * 4000000 ≤ f.toNat ∧
      f.toNat ≤ (g.toNat / 4000000 + if g.toNat % 4000000 ≤ 1 then 1 else 2) * 4000000

/-! ## The calibrations on the wires -/

namespace Lr11xx

/-- The ends of the calibration that is asked for, in steps. -/
def calibration? : List UInt8 → Option (UInt8 × UInt8)
  | hi :: lo :: first :: last :: _ =>
    if BigEndian.word16 hi lo = Opcode.calibrateImage.word then some (first, last) else none
  | _ => none

theorem calibration?_zeros : Device.IgnoresZeros calibration? := by
  intro n
  rcases n with _ | _ | _ | _ | n
  case succ =>
    show (if BigEndian.word16 0 0 = Opcode.calibrateImage.word then some (0, 0) else none) = none
    exact if_neg (by decide)
  all_goals rfl

theorem fits_no_calibration {op : Opcode} (h : op ≠ .calibrateImage) :
    op.Fits (calibration? · = none) := by
  intro args
  rcases args with _ | ⟨first, _ | ⟨last, more⟩⟩
  · rfl
  · rfl
  · refine if_neg ?_
    cases op <;> first | exact absurd rfl h | decide

theorem ne_calibrateImage_of_mem_opcodes {c : Command} (hc : ∀ f, c ≠ .calibrateImage f)
    {op : Opcode} (h : op ∈ opcodes c) : op ≠ .calibrateImage := by
  rintro rfl
  cases c <;> simp [opcodes] at h hc

/-- The calibration between these steps reaches a frequency. -/
def Covers (steps : UInt8 × UInt8) (f : UInt32) : Prop :=
  steps.1.toNat * 4000000 ≤ f.toNat ∧ f.toNat ≤ steps.2.toNat * 4000000

instance (steps : UInt8 × UInt8) (f : UInt32) : Decidable (Covers steps f) :=
  inferInstanceAs (Decidable (_ ∧ _))

theorem whole_mem (band : FrequencyBand) : band.whole ∈ calibrationBands := by
  cases band <;> simp [FrequencyBand.whole, calibrationBands]

/-- In each of the bands of the radio the chip has one band of its own. -/
theorem eq_whole_of_band {band : FrequencyBand} {g : UInt32}
    (hband : FrequencyBand.of? g = some band) {part : UInt32 × UInt32}
    (hmem : part ∈ calibrationBands) (hstart : part.1 ≤ g) (hstop : g ≤ part.2) :
    part = band.whole := by
  simp only [calibrationBands, List.mem_cons, List.not_mem_nil, or_false] at hmem
  rcases hmem with rfl | rfl | rfl | rfl | rfl <;> grind [FrequencyBand.of?, FrequencyBand.whole]

theorem calibrationBand_of_not_whole {band : FrequencyBand} {g : UInt32}
    (hband : FrequencyBand.of? g = some band) (hout : ¬(band.whole.1 ≤ g ∧ g ≤ band.whole.2)) :
    calibrationBand g = (g, g + calibrationStep - 1) :=
  calibrationBand_of_outside fun part hmem ⟨hstart, hstop⟩ => by
    obtain rfl : part = band.whole := eq_whole_of_band hband hmem hstart hstop
    exact hout ⟨hstart, hstop⟩

/-- A byte that was cut off stands for 1020 MHz, which no frequency is to reach. -/
theorem covers_calibrationSteps_iff {band : FrequencyBand} {f g : UInt32} (hf : f < 1020000000)
    (hband : FrequencyBand.of? g = some band) :
    Covers (calibrationSteps g) f ↔ band.Reaches g f := by
  have hf : f.toNat < 1020000000 := hf
  unfold Covers FrequencyBand.Reaches
  rw [toNat_calibrationSteps_fst, toNat_calibrationSteps_snd]
  split
  case isTrue hwhole =>
    rw [calibrationBand_of_mem (whole_mem band) hwhole.1 hwhole.2]
    omega
  case isFalse hout =>
    rw [calibrationBand_of_not_whole hband hout]
    dsimp only
    by_cases hg : g < 1020000000
    · rw [toNat_add_calibrationStep_sub_one hg]
      have hg : g.toNat < 1020000000 := hg
      split <;> omega
    · have hg : 1020000000 ≤ g.toNat := UInt32.not_lt.mp hg
      exact iff_of_false (by omega) (by omega)

end Lr11xx

namespace Bus

def Link.calibrations {σ : Type} (l : Link (σ × List Signal)) : List (UInt8 × UInt8) :=
  l.sent.filterMap Lr11xx.calibration?

end Bus

namespace Lr11xx.Device

open Bus

variable {σ : Type} (device : Device σ) {host : Host σ} {config : Transceiver.Config}
  {l l' : Link (σ × List Signal)} {xs : List Exchange}

theorem calibrations_leads (hsmooth : Smooth xs)
    (h : ((Transceiver.Device.lr11xx device).recordedRig host config).Leads l xs l') :
    l'.calibrations =
      l.calibrations ++ (xs.filterMap Exchange.calibrated?).map calibrationSteps := by
  rw [List.map_filterMap]
  refine h.collects fun x hx _ _ hmoves => ?_
  refine Device.adds_of_moves calibration?_zeros
    (fun x => (x.calibrated?.map calibrationSteps).toList) (fun hnone => ?_)
    (fun c r hcommand => ?_) hmoves
  · cases x with
    | command c r => cases hnone
    | _ => rfl
  subst hcommand
  cases r with
  | error e => exact absurd (hsmooth _ hx) nofun
  | ok reply =>
    by_cases hc : ∃ f, c = .calibrateImage f
    · obtain ⟨f, rfl⟩ := hc
      have hsend : Adds calibration? [calibrationSteps f]
          (device.recording.command .calibrateImage (imageCalibration f)) :=
        .send device.bus (BigEndian.bytes16 Opcode.calibrateImage.word ++ imageCalibration f) []
      exact .inr ⟨rfl, hsend⟩
    · have hc : ∀ f, c ≠ .calibrateImage f := fun f hf => hc ⟨f, hf⟩
      refine .inl ⟨fun op hop => fits_no_calibration (ne_calibrateImage_of_mem_opcodes hc hop), ?_⟩
      cases c <;> first | rfl | exact absurd rfl (hc _)

/-- Where the chip refuses nothing in a run from power-off, a frequency `f` below 1020 MHz that is set
at last lies in a band to which the radio came by `g`: the frequencies that the chip was tuned to end
with `g` and others of the band, and the one before `g`, if any, is not of it. The last calibration on
the wires reaches `f` exactly if one for `g` does by the bands of the chip. So it does if the radio has
just come to the band, and it need not if it was tuned inside the band since. -/
theorem covers_iff_reaches (chip : Device σ) (host : Host σ) (config : Transceiver.Config) (w : σ)
    (ops : List Operation) (f : UInt32) (hf : f < 1020000000) :
    let device := Transceiver.Device.lr11xx chip
    let rig := device.recordedRig host config
    let start : Station (Link (σ × List Signal)) := ⟨{}, { world := (w, []) }⟩
    let turns := rig.history start (ops ++ [.setFrequency f])
    (∀ t ∈ turns, t.IsSmooth) →
    (rig.turn (device.ran host config w ops) (.setFrequency f)).Succeeds →
    ∃ band pre g post steps,
      FrequencyBand.of? f = some band ∧
      (turns.flatMap Turn.exchanges).filterMap Exchange.tuned? = pre ++ g :: post ∧
      (g :: post).getLast? = some f ∧ Enters band pre g post ∧
      (device.ran host config w (ops ++ [.setFrequency f])).world.calibrations.getLast? =
        some steps ∧
      (Covers steps f ↔ band.Reaches g f) ∧ (post = [] → Covers steps f) := by
  intro device rig start turns hsmooth hset
  generalize hxs : turns.flatMap Turn.exchanges = xs
  have hexchanges : Smooth xs := fun x hx => by
    obtain ⟨t, ht, hx⟩ := List.mem_flatMap.mp (hxs ▸ hx)
    exact hsmooth t ht x hx
  obtain ⟨band, pre, g, post, hband, hsplit, hend, henters, hg⟩ :=
    Rig.entered_of_set rfl hxs hexchanges hset
  have hleads : rig.Leads start.world xs (rig.run start (ops ++ [.setFrequency f])).world :=
    hxs ▸ Rig.history_leads (ops ++ [.setFrequency f])
  have hsteps : (rig.run start (ops ++ [.setFrequency f])).world.calibrations =
      [] ++ (xs.filterMap Exchange.calibrated?).map calibrationSteps :=
    calibrations_leads _ hexchanges hleads
  have hlast : (xs.filterMap Exchange.calibrated?).getLast? = some g := by
    rw [← hg, lastFound, Option.or_none]
  refine ⟨band, pre, g, post, calibrationSteps g, hband, hsplit, hend, henters, ?_,
    covers_calibrationSteps_iff hf (henters.inside g (.head _)), ?_⟩
  · show (rig.run start (ops ++ [.setFrequency f])).world.calibrations.getLast? = _
    rw [hsteps, List.nil_append, List.getLast?_map, hlast]
    rfl
  · rintro rfl
    obtain rfl : g = f := by simpa using hend
    exact calibrationSteps_around hf

end Lr11xx.Device

def Bench.lr1110 : Lr11xx.Device Unit where
  wire := wire
  board := ⟨false, false, false⟩
  config := { variant := .lr1110, tcxo := none, useDcdc := false, rxBoost := false }

namespace Lr11xx.Device

open Bus

/-- Tuned on inside its band, the radio goes by the calibration that it came by. -/
theorem covers_iff_reaches_tuned_on :
    let device := Transceiver.Device.lr11xx Bench.lr1110
    let rig := device.recordedRig Bench.host (Bench.rig {}).config
    let start : Station (Link (Unit × List Signal)) := ⟨{}, { world := ((), []) }⟩
    let ops := [.powerUp, .setFrequency 868100000]
    let s := device.ran Bench.host (Bench.rig {}).config () (ops ++ [.setFrequency 869500000])
    (869500000 : UInt32) < 1020000000 ∧
      (∀ t ∈ rig.history start (ops ++ [.setFrequency 869500000]), t.IsSmooth) ∧
      (rig.turn (rig.run start ops) (.setFrequency 869500000)).Succeeds ∧
      s.world.calibrations = [(215, 220)] ∧ Covers (215, 220) 869500000 := by
  intro device rig start ops s
  have hsmooth : ∀ t ∈ rig.history start (ops ++ [.setFrequency 869500000]), t.IsSmooth := by
    decide +kernel
  have hset : (rig.turn (rig.run start ops) (.setFrequency 869500000)).Succeeds := by
    decide +kernel
  have hsteps : s.world.calibrations = [(215, 220)] := by decide +kernel
  have htuned : ((rig.history start (ops ++ [.setFrequency 869500000])).flatMap
      Turn.exchanges).filterMap Exchange.tuned? = [868100000, 869500000] := by
    decide +kernel
  refine ⟨by decide, hsmooth, hset, hsteps, ?_⟩
  obtain ⟨band, pre, g, post, steps, hband, hsplit, -, henters, hlast, hcovers, -⟩ :=
    covers_iff_reaches Bench.lr1110 Bench.host (Bench.rig {}).config () ops 869500000 (by decide)
      hsmooth hset
  obtain rfl : steps = (215, 220) := by
    rw [hsteps] at hlast
    exact (Option.some.inj hlast).symm
  obtain rfl : band = .band850 := Option.some.inj (hband.symm.trans (by decide))
  -- The first tuning was the one that brought the radio to the band.
  have hg : g = 868100000 := by
    rw [htuned] at hsplit
    cases pre with
    | nil => exact (List.cons.inj hsplit).1.symm
    | cons f pre =>
      obtain ⟨rfl, hrest⟩ := List.cons.inj hsplit
      obtain rfl : pre = [] := by
        cases pre with
        | nil => rfl
        | cons => simp at hrest
      exact absurd (by decide) (henters.outside _ rfl)
  rw [hg] at hcovers
  exact hcovers.mpr (by simp [FrequencyBand.Reaches, FrequencyBand.whole])

/-- At 890 MHz a radio goes by the calibration for 868.1 MHz, which ends at 880 MHz. -/
theorem uncovered_inside_band :
    let device := Transceiver.Device.lr11xx Bench.lr1110
    let rig := device.recordedRig Bench.host (Bench.rig {}).config
    let start : Station (Link (Unit × List Signal)) := ⟨{}, { world := ((), []) }⟩
    let ops := [.powerUp, .setFrequency 868100000, .setFrequency 890000000]
    (∀ t ∈ rig.history start ops, t.IsSmooth ∧ t.Succeeds) ∧
      (device.ran Bench.host (Bench.rig {}).config () ops).world.calibrations.getLast? =
        some (215, 220) ∧
      ¬Covers (215, 220) 890000000 := by
  decide +kernel

end Lr11xx.Device

end Transceiver
