import Transceiver.Lr11xx.Encoding

/-! The steps of 4 MHz that an LR11xx calibrates for a frequency. A band of the table is rounded
outwards to whole steps. A frequency outside the table has a band of its own that already ends a
hertz short of a step above it; its end is rounded up as well, so that the band is one step wide
only around a frequency that is a multiple of 4 MHz or a hertz above one, and else two. -/

namespace Transceiver.Lr11xx

/-- The ends of the calibration for a frequency, in steps. -/
def calibrationSteps (f : UInt32) : UInt8 × UInt8 :=
  let band := calibrationBand f
  (saturateByte (band.1 / calibrationStep), saturateByte (ceilDiv32 band.2 calibrationStep))

theorem toNat_saturateByte (n : UInt32) : (saturateByte n).toNat = min n.toNat 255 := by
  unfold saturateByte
  split <;> rename_i h
  · have h : 255 < n.toNat := h
    exact (Nat.min_eq_right (Nat.le_of_lt h)).symm
  · have h : n.toNat ≤ 255 := Nat.le_of_not_lt h
    rw [UInt32.toNat_toUInt8, Nat.mod_eq_of_lt (by omega), Nat.min_eq_left h]

theorem toNat_ceilDiv32_calibrationStep (n : UInt32) :
    (ceilDiv32 n calibrationStep).toNat = (n.toNat + 3999999) / 4000000 := by
  rw [toNat_ceilDiv32, show calibrationStep.toNat = 4000000 from rfl]
  split <;> omega

theorem toNat_calibrationSteps_fst (f : UInt32) :
    (calibrationSteps f).1.toNat = min ((calibrationBand f).1.toNat / 4000000) 255 :=
  toNat_saturateByte _

theorem toNat_calibrationSteps_snd (f : UInt32) :
    (calibrationSteps f).2.toNat = min (((calibrationBand f).2.toNat + 3999999) / 4000000) 255 := by
  refine (toNat_saturateByte _).trans ?_
  rw [toNat_ceilDiv32_calibrationStep]

/-- The end of a band that goes around a frequency, one hertz short of a step above it. -/
theorem toNat_add_calibrationStep_sub_one {f : UInt32} (hf : f < 1020000000) :
    (f + calibrationStep - 1).toNat = f.toNat + 3999999 := by
  have hf : f.toNat < 1020000000 := hf
  have hstep : calibrationStep.toNat = 4000000 := rfl
  rw [UInt32.toNat_sub, UInt32.toNat_add, hstep, UInt32.toNat_one]
  omega

/-- The bands of the table hold no frequency in common, and end where the steps still fit a byte. -/
theorem calibrationBands_disjoint : ∀ band ∈ calibrationBands,
    band.2 < 1016000000 ∧ ∀ other ∈ calibrationBands,
      band = other ∨ band.2 < other.1 ∨ other.2 < band.1 := by
  simp [calibrationBands]

variable {f : UInt32} {band : UInt32 × UInt32}

/-- The band of a frequency is one of the table that holds it, or its own where none does. -/
theorem calibrationBand_cases (f : UInt32) :
    (calibrationBand f ∈ calibrationBands ∧
      (calibrationBand f).1 ≤ f ∧ f ≤ (calibrationBand f).2) ∨
    (∀ band ∈ calibrationBands, ¬(band.1 ≤ f ∧ f ≤ band.2)) ∧
      calibrationBand f = (f, f + calibrationStep - 1) := by
  unfold calibrationBand
  generalize hfind : calibrationBands.find? _ = found
  cases found with
  | none => exact .inr ⟨by simpa using List.find?_eq_none.mp hfind, rfl⟩
  | some band =>
    have hholds : band.1 ≤ f ∧ f ≤ band.2 := by simpa using List.find?_some hfind
    exact .inl ⟨List.mem_of_find?_eq_some hfind, hholds⟩

theorem calibrationBand_of_mem (hband : band ∈ calibrationBands) (hstart : band.1 ≤ f)
    (hstop : f ≤ band.2) : calibrationBand f = band := by
  obtain ⟨hmem, hholds⟩ | ⟨hout, -⟩ := calibrationBand_cases f
  · obtain heq | habove | hbelow := (calibrationBands_disjoint band hband).2 _ hmem
    · exact heq.symm
    · exact absurd (UInt32.le_trans hholds.1 hstop) (UInt32.not_le.mpr habove)
    · exact absurd (UInt32.le_trans hstart hholds.2) (UInt32.not_le.mpr hbelow)
  · exact absurd ⟨hstart, hstop⟩ (hout band hband)

theorem calibrationBand_of_outside
    (hout : ∀ band ∈ calibrationBands, ¬(band.1 ≤ f ∧ f ≤ band.2)) :
    calibrationBand f = (f, f + calibrationStep - 1) := by
  obtain ⟨hmem, hholds⟩ | ⟨-, hband⟩ := calibrationBand_cases f
  · exact absurd hholds (hout _ hmem)
  · exact hband

/-- The steps for a frequency below 1020 MHz reach around it. -/
theorem calibrationSteps_around (hf : f < 1020000000) :
    (calibrationSteps f).1.toNat * 4000000 ≤ f.toNat ∧
      f.toNat ≤ (calibrationSteps f).2.toNat * 4000000 := by
  have hlt : f.toNat < 1020000000 := hf
  have hband : (calibrationBand f).1.toNat ≤ f.toNat ∧ f.toNat ≤ (calibrationBand f).2.toNat := by
    obtain ⟨-, hholds⟩ | ⟨-, hband⟩ := calibrationBand_cases f
    · exact hholds
    · rw [hband]
      dsimp only
      rw [toNat_add_calibrationStep_sub_one hf]
      omega
  rw [toNat_calibrationSteps_fst, toNat_calibrationSteps_snd]
  omega

/-- The steps for a frequency of a band are those from the last at or below its start to the first
at or above its end. -/
theorem calibrationSteps_of_mem (hband : band ∈ calibrationBands) (hstart : band.1 ≤ f)
    (hstop : f ≤ band.2) :
    (calibrationSteps f).1.toNat = band.1.toNat / 4000000 ∧
      (calibrationSteps f).2.toNat = (band.2.toNat + 3999999) / 4000000 := by
  have hend : band.2.toNat < 1016000000 := (calibrationBands_disjoint band hband).1
  have hle : band.1.toNat ≤ band.2.toNat := UInt32.le_trans hstart hstop
  rw [toNat_calibrationSteps_fst, toNat_calibrationSteps_snd,
    calibrationBand_of_mem hband hstart hstop]
  omega

/-- Outside the table the band ends a hertz short of a step above the frequency. Rounding that up
goes one step on if the frequency is at most a hertz above a step, and else two. -/
theorem calibrationSteps_of_outside (hf : f < 1016000000)
    (hout : ∀ band ∈ calibrationBands, ¬(band.1 ≤ f ∧ f ≤ band.2)) :
    (calibrationSteps f).1.toNat = f.toNat / 4000000 ∧
      (calibrationSteps f).2.toNat =
        f.toNat / 4000000 + if f.toNat % 4000000 ≤ 1 then 1 else 2 := by
  have hlt : f.toNat < 1016000000 := hf
  rw [toNat_calibrationSteps_fst, toNat_calibrationSteps_snd, calibrationBand_of_outside hout,
    toNat_add_calibrationStep_sub_one (UInt32.lt_trans hf (by decide))]
  dsimp only
  split <;> omega

/-- The two steps that are sent for a frequency below 1016 MHz reach around it. Inside a band of the
table they are the ends of the band, rounded outwards. Elsewhere the first is the last one at or
below the frequency, and the second comes next after it exactly if the frequency is a step or a
hertz above one. In all other cases it is the one after that. -/
theorem imageCalibration_around (f : UInt32) (hf : f < 1016000000) :
    ∃ first last : UInt8, imageCalibration f = [first, last] ∧
      first.toNat * 4000000 ≤ f.toNat ∧ f.toNat ≤ last.toNat * 4000000 ∧
      (∀ band ∈ calibrationBands, band.1 ≤ f → f ≤ band.2 →
        first.toNat = band.1.toNat / 4000000 ∧ last.toNat = (band.2.toNat + 3999999) / 4000000) ∧
      ((∀ band ∈ calibrationBands, ¬(band.1 ≤ f ∧ f ≤ band.2)) →
        first.toNat = f.toNat / 4000000 ∧
          last.toNat = first.toNat + if f.toNat % 4000000 ≤ 1 then 1 else 2) := by
  obtain ⟨hfirst, hlast⟩ := calibrationSteps_around (UInt32.lt_trans hf (by decide))
  refine ⟨(calibrationSteps f).1, (calibrationSteps f).2, rfl, hfirst, hlast,
    fun band hband hstart hstop => calibrationSteps_of_mem hband hstart hstop, fun hout => ?_⟩
  obtain ⟨hfirst, hlast⟩ := calibrationSteps_of_outside hf hout
  exact ⟨hfirst, hlast.trans (by rw [hfirst])⟩

/-- Around 890 MHz, which is no multiple of 4 MHz, from 888 MHz to 896 MHz. -/
theorem imageCalibration_around_890 :
    (890000000 : UInt32) < 1016000000 ∧
      (∀ band ∈ calibrationBands, ¬(band.1 ≤ 890000000 ∧ 890000000 ≤ band.2)) ∧
      imageCalibration 890000000 = [222, 224] := by
  have hout : ∀ band ∈ calibrationBands, ¬(band.1 ≤ 890000000 ∧ 890000000 ≤ band.2) := by
    simp [calibrationBands]
  obtain ⟨first, last, hsteps, -, -, -, houtside⟩ := imageCalibration_around 890000000 (by decide)
  obtain ⟨hfirst, hlast⟩ := houtside hout
  obtain rfl : first = 222 := UInt8.toNat_inj.mp hfirst
  obtain rfl : last = 224 := UInt8.toNat_inj.mp hlast
  exact ⟨by decide, hout, hsteps⟩

/-- A band around 890 MHz that is one step wide would end at 892 MHz. -/
theorem two_steps_outside_table :
    ¬∀ f : UInt32, 430000000 < f → f < 1016000000 →
      (∀ band ∈ calibrationBands, ¬(band.1 ≤ f ∧ f ≤ band.2)) →
      ∃ first : UInt8, imageCalibration f = [first, first + 1] := by
  intro h
  obtain ⟨first, hfirst⟩ := h 890000000 (by decide) (by decide) (by simp [calibrationBands])
  have hsteps : imageCalibration 890000000 = [222, 224] := by decide
  rw [hsteps] at hfirst
  simp only [List.cons.injEq, and_true] at hfirst
  obtain ⟨rfl, hlast⟩ := hfirst
  exact absurd hlast (by decide)

end Transceiver.Lr11xx
