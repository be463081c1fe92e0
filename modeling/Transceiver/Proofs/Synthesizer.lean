import Mathlib.Algebra.Order.Field.Rat
import Mathlib.Algebra.Order.AbsoluteValue.Basic
import Mathlib.Tactic.FieldSimp
import Mathlib.Tactic.Linarith
import Transceiver.Proofs.Transfer
import Transceiver.Proofs.Tracked

/-! The synthesizer of the SX126x chips, which is told a frequency in steps. -/

namespace Transceiver.Sx126x

open FixedWidth Tracked

/-- A frequency in steps of the synthesizer, as a formula of tracked words. -/
def Formula.pllSteps (frequency : UInt32) : Tracked UInt32 :=
  (of frequency / of scaledStep) <<< 14
    + ((of frequency % of scaledStep) <<< 14 + of (scaledStep >>> 1)) / of scaledStep

namespace Formula

variable {frequency : UInt32}

theorem fits_pllSteps_iff : (pllSteps frequency).Fits ↔ frequency < 4096000000 := by
  have hstep : (of scaledStep).Within 15625 15625 := .of (by decide) (by decide)
  have hhalf : (of (scaledStep >>> 1)).Within 7812 7812 := .of (by decide) (by decide)
  have hword : frequency < 4096000000 ↔ (frequency.toNat : Int) < 4096000000 := Int.ofNat_lt.symm
  constructor
  · rintro ⟨⟨-, -, -, -, hle⟩, -⟩
    have hle : (frequency.toNat : Int).tdiv 15625 * 2 ^ 14 ≤ 2 ^ 32 - 1 := hle
    rw [Int.tdiv_eq_ediv_of_nonneg (Int.natCast_nonneg _)] at hle
    rw [hword]
    omega
  · intro hlt
    have hfrequency : (of frequency).Within 0 4095999999 :=
      .of (Int.natCast_nonneg _) (Int.le_sub_one_of_lt (hword.mp hlt))
    have hwhole := (hfrequency.div hstep (by decide)).shiftLeft (.literal 14) (by decide)
    have hrest := (hfrequency.mod hstep (by decide)).shiftLeft (.literal 14) (by decide)
    have hrounded := (hrest.add hhalf (by decide)).div hstep (by decide)
    exact (hwhole.add hrounded (by decide)).fits

theorem value_pllSteps : (pllSteps frequency).value = (frequency.toNat * 16384 + 7812) / 15625 := by
  show (frequency.toNat : Int).tdiv 15625 * 2 ^ 14 +
    ((frequency.toNat : Int).tmod 15625 * 2 ^ 14 + 7812).tdiv 15625 = _
  rw [Int.tdiv_eq_ediv_of_nonneg (Int.natCast_nonneg _),
    Int.tmod_eq_emod_of_nonneg (Int.natCast_nonneg _), Int.tdiv_eq_ediv_of_nonneg (by omega)]
  omega

end Formula

theorem toNat_pllSteps {frequency : UInt32} (h : frequency < 4096000000) :
    ((pllSteps frequency).toNat : Int) = (frequency.toNat * 16384 + 7812) / 15625 := by
  rw [← Formula.value_pllSteps]
  exact toInt_word _ (Formula.fits_pllSteps_iff.mpr h)

theorem pllSteps_mono {frequency frequency' : UInt32} (h : frequency' < 4096000000)
    (hle : frequency ≤ frequency') : pllSteps frequency ≤ pllSteps frequency' := by
  have hnat : frequency.toNat ≤ frequency'.toNat := hle
  have hsteps := toNat_pllSteps h
  have hsteps' := toNat_pllSteps (UInt32.lt_of_le_of_lt hle h)
  refine UInt32.le_iff_toNat_le.mpr ?_
  omega

/-- The step of the synthesizer, hertz. -/
def stepHertz : ℚ := 32000000 / 2 ^ 25

/-- Half of the divisor is rounded down, which makes no difference, since the divisor is odd. -/
theorem abs_pllSteps_sub_lt {frequency : UInt32} (h : frequency < 4096000000) :
    |((pllSteps frequency).toNat : ℚ) - frequency.toNat * 2 ^ 25 / 32000000| < 1 / 2 := by
  have hsteps := toNat_pllSteps h
  have hlo : 2 * 16384 * (frequency.toNat : Int) <
      15625 * (2 * (pllSteps frequency).toNat + 1) := by
    omega
  have hhi : 15625 * (2 * (pllSteps frequency).toNat - 1 : Int) < 2 * 16384 * frequency.toNat := by
    omega
  have hlo : 2 * 16384 * (frequency.toNat : ℚ) < 15625 * (2 * (pllSteps frequency).toNat + 1) := by
    exact_mod_cast hlo
  have hhi : 15625 * (2 * (pllSteps frequency).toNat - 1 : ℚ) < 2 * 16384 * frequency.toNat := by
    exact_mod_cast hhi
  rw [abs_sub_lt_iff]
  constructor <;> linarith

/-- Fewer than half a step from the frequency. -/
theorem abs_hertz_sub_lt {frequency : UInt32} (h : frequency < 4096000000) :
    |(pllSteps frequency).toNat * stepHertz - frequency.toNat| < stepHertz / 2 := by
  have hsteps := abs_pllSteps_sub_lt h
  rw [abs_sub_lt_iff] at hsteps ⊢
  unfold stepHertz
  constructor <;> linarith

/-! ### Transfers -/

/-- The frequency that a transfer tunes the synthesizer to, hertz. -/
def frequency? : List UInt8 → Option ℚ
  | [op, b₃, b₂, b₁, b₀] =>
    if op = Opcode.setRfFrequency.byte then some (BigEndian.value [b₃, b₂, b₁, b₀] * stepHertz)
    else none
  | _ => none

/-- The frequency deviation that a transfer sets, hertz. -/
def deviation? : List UInt8 → Option ℚ
  | [op, _, _, _, _, _, b₂, b₁, b₀] =>
    if op = Opcode.setModulationParams.byte then some (BigEndian.value [b₂, b₁, b₀] * stepHertz)
    else none
  | _ => none

namespace Device

open Bus

variable {σ : Type} (device : Device σ)

theorem adds_setFrequency (frequency : UInt32) :
    Adds frequency? [(pllSteps frequency).toNat * stepHertz]
      (device.recording.perform (.setFrequency frequency)) := by
  have hread : frequency? (Opcode.setRfFrequency.byte :: BigEndian.bytes32 (pllSteps frequency)) =
      some ((pllSteps frequency).toNat * stepHertz) := by
    rw [← BigEndian.value_bytes32]
    rfl
  exact Adds.write device.bus hread

theorem adds_setFskModulation {m : Fsk.Modulation} (h : (pllSteps m.deviation).toNat < 0x1000000) :
    Adds deviation? [(pllSteps m.deviation).toNat * stepHertz]
      (device.recording.perform (.setFskModulation m)) := by
  have hvalue := BigEndian.value_bytes24 (pllSteps m.deviation)
  rw [Nat.mod_eq_of_lt h] at hvalue
  have hread : deviation? (Opcode.setModulationParams.byte ::
      (BigEndian.bytes24 (1024000000 / m.bitRate) ++ [m.pulseShape.code, m.bandwidth.code]
        ++ BigEndian.bytes24 (pllSteps m.deviation))) =
      some ((pllSteps m.deviation).toNat * stepHertz) := by
    rw [← hvalue]
    rfl
  show Adds deviation? _ (device.recording.setFskModulation m)
  unfold setFskModulation
  split
  · exact fun l => nofun
  · exact Adds.write device.bus hread

/-- Below 4096 MHz, the synthesizer is told the nearest number of steps, without a step of the
computation that leaves its 32 bits, and higher frequencies are not fewer steps. Below 16 MHz, the
steps of a deviation fit three bytes. -/
theorem tunes_within_half_step :
    (∀ frequency < 4096000000,
      Exact (.ok (pllSteps frequency)) (.ok (Formula.pllSteps frequency)) ∧
      |((pllSteps frequency).toNat : ℚ) - frequency.toNat * 2 ^ 25 / 32000000| < 1 / 2 ∧
      (∀ lower ≤ frequency, pllSteps lower ≤ pllSteps frequency) ∧
      ∃ hertz, Adds frequency? [hertz] (device.recording.perform (.setFrequency frequency)) ∧
        |hertz - frequency.toNat| < stepHertz / 2) ∧
    ∀ m : Fsk.Modulation, m.deviation < 16000000 →
      ∃ hertz, Adds deviation? [hertz] (device.recording.perform (.setFskModulation m)) ∧
        |hertz - m.deviation.toNat| < stepHertz / 2 := by
  constructor
  · intro frequency h
    have hexact := exact_ok_iff.mpr (Formula.fits_pllSteps_iff.mpr h)
    have hsent := device.adds_setFrequency frequency
    exact ⟨hexact, abs_pllSteps_sub_lt h, fun _ => pllSteps_mono h, _, hsent, abs_hertz_sub_lt h⟩
  · intro m h
    have hlt : m.deviation.toNat < 16000000 := h
    have hdeviation : m.deviation < 4096000000 := UInt32.lt_of_lt_of_le h (by decide)
    have hsteps := toNat_pllSteps hdeviation
    exact ⟨_, device.adds_setFskModulation (by omega), abs_hertz_sub_lt hdeviation⟩

theorem tunes_within_half_step_bench :
    let device : Device Unit := {
      wire := Bench.wire
      board := ⟨false, false, false⟩
      config := { variant := .sx1262, tcxo := none, useDcdc := false, rxBoost := false } }
    let m : Fsk.Modulation := ⟨50000, 25000, .bw156200, .bt1⟩
    (868100000 : UInt32) < 4096000000 ∧ pllSteps 868100000 = 910268826 ∧
      ((device.recording.perform (.setFrequency 868100000)).result { world := ((), []) }).1.isOk ∧
      (∃ hertz, Adds frequency? [hertz] (device.recording.perform (.setFrequency 868100000)) ∧
        |hertz - (868100000 : UInt32).toNat| < stepHertz / 2) ∧
      m.deviation < 16000000 ∧
      ∃ hertz, Adds deviation? [hertz] (device.recording.perform (.setFskModulation m)) ∧
        |hertz - m.deviation.toNat| < stepHertz / 2 := by
  intro device m
  obtain ⟨htune, hdeviate⟩ := tunes_within_half_step device
  have hfrequency : (868100000 : UInt32) < 4096000000 := by decide
  have hdeviation : m.deviation < 16000000 := by decide
  obtain ⟨-, -, -, hsent⟩ := htune _ hfrequency
  exact ⟨hfrequency, by decide, by decide +kernel, hsent, hdeviation, hdeviate m hdeviation⟩

end Device

end Transceiver.Sx126x
