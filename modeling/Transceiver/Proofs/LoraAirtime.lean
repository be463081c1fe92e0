import Mathlib.Algebra.Order.Field.Rat
import Mathlib.Order.Bounds.Basic
import Mathlib.Tactic.FieldSimp
import Mathlib.Tactic.Ring
import Transceiver.Proofs.Durations

/-! The time on air of a LoRa packet, which grows with the packet and falls short of the air time by
at most a millisecond. -/

namespace Transceiver.Lora

open FixedWidth Tracked

/-- The second packet is the first one, but for a longer preamble, a longer payload or a checksum
that the first does not have. -/
structure Packet.Grows (p p' : Packet) : Prop where
  preamble : p.preambleLength ≤ p'.preambleLength
  implicitHeader : p.implicitHeader = p'.implicitHeader
  payload : p.payloadLength ≤ p'.payloadLength
  checksum : p.crcOn → p'.crcOn

theorem Packet.Grows.lengths {p p' : Packet} (h : p.Grows p') :
    p.payloadLength.toNat ≤ p'.payloadLength.toNat ∧ p.crcOn.toNat ≤ p'.crcOn.toNat := by
  refine ⟨h.payload, ?_⟩
  have hchecksum := h.checksum
  cases hcrc : p.crcOn with
  | false => exact Nat.zero_le _
  | true => rw [hchecksum hcrc]

/-- Bits that are sent for four bits of data. -/
def CodingRate.codedBits : CodingRate → Nat
  | .cr4_5 => 5
  | .cr4_6 => 6
  | .cr4_7 => 7
  | .cr4_8 => 8

/-- A rate has a code, unless it is the one that the long interleaver has no form of. -/
theorem CodingRate.exists_code {rate : CodingRate} {longInterleaver : Bool}
    (h : longInterleaver → rate ≠ .cr4_7) : ∃ cr, rate.code longInterleaver = .ok cr := by
  cases rate <;> cases longInterleaver <;> first | exact ⟨_, rfl⟩ | exact absurd rfl (h rfl)

namespace Formula

variable {m : Modulation} {p p' : Packet}

/-- Symbols suffice exactly if they have room for the bits. -/
theorem value_symbolsFor_le_iff {bits size : Tracked Int32} {n : Int} (hbits : 0 ≤ bits.value)
    (hsize : 0 < size.value) :
    (symbolsFor bits size).value ≤ n ↔ bits.value ≤ n * size.value := by
  show (bits.value + size.value - 1).tdiv size.value ≤ n ↔ _
  rw [Int.tdiv_eq_ediv_of_nonneg (by omega), ← Int.lt_add_one_iff, Int.ediv_lt_iff_lt_mul hsize,
    Int.add_mul]
  omega

theorem value_symbolsFor_mono {bits bits' size : Tracked Int32} (hbits : 0 ≤ bits.value)
    (h : bits.value ≤ bits'.value) (hsize : 0 < size.value) :
    (symbolsFor bits size).value ≤ (symbolsFor bits' size).value :=
  (value_symbolsFor_le_iff hbits hsize).mpr
    (h.trans ((value_symbolsFor_le_iff (hbits.trans h) hsize).mp le_rfl))

theorem value_symbolsFor_nonneg {bits size : Tracked Int32} (hbits : 0 ≤ bits.value)
    (hsize : 0 < size.value) : 0 ≤ (symbolsFor bits size).value :=
  Int.tdiv_nonneg (show 0 ≤ bits.value + size.value - 1 by omega) hsize.le

theorem value_max (x y : Tracked Int32) : (max x y).value = max x.value y.value :=
  max_def x.value y.value ▸ rfl

theorem value_payload (p : Packet) :
    toInt p.payloadLength.toUInt32.toInt32 = p.payloadLength.toNat := by
  have hlt : p.payloadLength.toNat < 256 := p.payloadLength.toNat_lt
  exact toInt_toInt32 (by rw [UInt8.toNat_toUInt32]; omega)

theorem value_totalBytes (p : Packet) : (totalBytes p).value = p.receivedBytes := by
  show toInt p.payloadLength.toUInt32.toInt32 + toInt (if p.crcOn then 2 else 0 : Int32) = _
  rw [value_payload, Packet.receivedBytes]
  cases p.crcOn <;> rfl

theorem value_totalBits_mono (h : p.Grows p') :
    (8 * totalBytes p).value ≤ (8 * totalBytes p').value := by
  obtain ⟨hpayload, hchecksum⟩ := h.lengths
  show 8 * (totalBytes p).value ≤ 8 * (totalBytes p').value
  rw [value_totalBytes, value_totalBytes, Packet.receivedBytes, Packet.receivedBytes]
  omega

theorem value_heldBits (p : Packet) : (heldBits m p).value =
    if (headerRoom m).value < 8 * (p.receivedBytes : Int) ∧
      8 * (p.payloadLength.toNat : Int) < (headerRoom m).value
    then 8 * (p.payloadLength.toNat : Int) else (headerRoom m).value := by
  rw [← value_totalBytes, ← value_payload]
  rfl

/-- Where the packet does not fill the symbols of the header, growing costs no more than the
checksum, which then does not fit there. -/
theorem value_uncovered_mono (h : p.Grows p') :
    (max (8 * totalBytes p - heldBits m p) 0).value ≤
      (max (8 * totalBytes p' - heldBits m p') 0).value := by
  obtain ⟨hpayload, hchecksum⟩ := h.lengths
  rw [value_max, value_max]
  show max (8 * (totalBytes p).value - (heldBits m p).value) 0 ≤
    max (8 * (totalBytes p').value - (heldBits m p').value) 0
  rw [value_totalBytes, value_totalBytes, value_heldBits, value_heldBits, Packet.receivedBytes,
    Packet.receivedBytes]
  split <;> split <;> omega

/-- No spreading factor has both two more sync symbols and the low data rate optimisation. -/
theorem fineSync_add_optimize_le (sf : SpreadingFactor) (bw : Bandwidth) :
    toInt (if sf.value.toUInt32.toInt32 ≤ 6 then 1 else 0 : Int32) +
      toInt (if lowDataRateOptimize sf bw then 1 else 0 : Int32) ≤ 1 := by
  cases sf <;> cases bw <;> decide

/-- The first eight symbols hold no more than the others. -/
theorem value_firstBits_le : (firstBits m).value ≤ (bitsPerSymbol m).value := by
  have hle := fineSync_add_optimize_le m.spreadingFactor m.bandwidth
  show toInt m.sf - 2 + 2 * toInt m.fineSync ≤
    toInt m.sf -
      2 * toInt (if lowDataRateOptimize m.spreadingFactor m.bandwidth then 1 else 0 : Int32)
  unfold Modulation.fineSync Modulation.sf
  omega

section
variable {r r' : CodingRate} {longInterleaver : Bool} {cr cr' : UInt8}
  (hcode : r.code longInterleaver = .ok cr) (hcode' : r'.code longInterleaver = .ok cr')
  (hrate : r.codedBits ≤ r'.codedBits)
include hcode hcode' hrate

theorem code_mono :
    toInt cr.toUInt32.toInt32 ≤ toInt cr'.toUInt32.toInt32 ∧
      (rate cr.toUInt32.toInt32).value ≤ (rate cr'.toUInt32.toInt32).value := by
  cases r <;> cases r' <;> cases longInterleaver <;> cases hcode <;> cases hcode' <;>
    first | decide | exact absurd hrate (by decide)

theorem value_plainSymbols_mono (hp : p.Grows p') :
    (plainSymbols m p cr.toUInt32.toInt32).value ≤
      (plainSymbols m p' cr'.toUInt32.toInt32).value := by
  have hheader : headerBits m p = headerBits m p' := by
    unfold headerBits
    rw [hp.implicitHeader]
  have hbits : (max (8 * totalBytes p - headerBits m p) 0).value ≤
      (max (8 * totalBytes p' - headerBits m p') 0).value := by
    rw [value_max, value_max, hheader]
    exact max_le_max (Int.sub_le_sub_right (value_totalBits_mono hp) _) le_rfl
  have hnonneg : 0 ≤ (max (8 * totalBytes p - headerBits m p) 0).value := by
    rw [value_max]
    exact le_max_right _ _
  have hsize : 0 < (4 * bitsPerSymbol m).value :=
    Int.lt_of_lt_of_le (by decide) within_size.le_value
  have hsymbols := value_symbolsFor_mono hnonneg hbits hsize
  have hcr : 0 ≤ toInt cr.toUInt32.toInt32 := (within_byte cr).le_value
  have hcodes := (code_mono hcode hcode' hrate).1
  refine Int.add_le_add_right (Int.mul_le_mul hsymbols ?_ ?_ ?_) 8
  · exact Int.add_le_add_right hcodes 4
  · exact Int.add_nonneg hcr (by decide)
  · exact (value_symbolsFor_nonneg hnonneg hsize).trans hsymbols

theorem value_codedBits_mono (hp : p.Grows p') :
    (codedBits p cr.toUInt32.toInt32).value ≤ (codedBits p' cr'.toUInt32.toInt32).value := by
  have hcr := within_rate (within_code (CodingRate.code_bounds hcode))
  refine Int.mul_le_mul (value_totalBits_mono hp) (code_mono hcode hcode' hrate).2 ?_ ?_
  · exact Int.le_trans (by decide) hcr.le_value
  · exact within_totalBits.le_value

/-- Where the first eight symbols do not hold the longer packet any more, it takes at least as many,
which is one more than the other one takes at most. -/
theorem value_implicitSymbols_mono (hp : p.Grows p') :
    (implicitSymbols m p cr.toUInt32.toInt32).value ≤
      (implicitSymbols m p' cr'.toUInt32.toInt32).value := by
  have hcoded := value_codedBits_mono hcode hcode' hrate hp
  have hcr := within_code (CodingRate.code_bounds hcode)
  have hnonneg := (within_codedBits (p := p) hcr).le_value
  have hfirst := (within_firstBits (m := m)).le_value
  have hfirst_le := value_firstBits_le (m := m)
  have hvalue (q : Packet) (c : UInt8) : (implicitSymbols m q c.toUInt32.toInt32).value =
      if (codedBits q c.toUInt32.toInt32).value ≤ 7 * 4 * (firstBits m).value
      then (symbolsFor (codedBits q c.toUInt32.toInt32) (4 * firstBits m)).value
      else (symbolsFor (paddedBits m q c.toUInt32.toInt32) (4 * bitsPerSymbol m)).value := rfl
  have hpadded (q : Packet) (c : UInt8) : (paddedBits m q c.toUInt32.toInt32).value =
      8 * 4 * (bitsPerSymbol m).value + (codedBits q c.toUInt32.toInt32).value
        - 4 * ((firstBits m).value * 8) := rfl
  rw [hvalue, hvalue]
  split <;> rename_i hshort <;> split <;> rename_i hshort'
  · exact value_symbolsFor_mono hnonneg hcoded (show 0 < 4 * (firstBits m).value by omega)
  · have hsize : 0 < 4 * (bitsPerSymbol m).value := by omega
    have hle : (symbolsFor (codedBits p cr.toUInt32.toInt32) (4 * firstBits m)).value ≤ 7 := by
      refine (value_symbolsFor_le_iff hnonneg (show 0 < 4 * (firstBits m).value by omega)).mpr ?_
      show _ ≤ 7 * (4 * (firstBits m).value)
      omega
    have hlt :
        ¬(symbolsFor (paddedBits m p' cr'.toUInt32.toInt32) (4 * bitsPerSymbol m)).value ≤ 7 := by
      rw [value_symbolsFor_le_iff (by rw [hpadded]; omega) hsize, hpadded]
      show ¬_ ≤ 7 * (4 * (bitsPerSymbol m).value)
      omega
    omega
  · exact absurd (hcoded.trans hshort') hshort
  · refine value_symbolsFor_mono ?_ ?_ (show 0 < 4 * (bitsPerSymbol m).value by omega)
    · rw [hpadded]
      omega
    · rw [hpadded, hpadded]
      omega

theorem value_explicitSymbols_mono (hp : p.Grows p') :
    (explicitSymbols m p cr.toUInt32.toInt32).value ≤
      (explicitSymbols m p' cr'.toUInt32.toInt32).value := by
  have hcr := within_rate (within_code (CodingRate.code_bounds hcode))
  have hnonneg (q : Packet) : 0 ≤ (max (8 * totalBytes q - heldBits m q) 0).value := by
    rw [value_max]
    exact le_max_right _ _
  have hrate' : 0 ≤ (rate cr.toUInt32.toInt32).value := Int.le_trans (by decide) hcr.le_value
  have hbits := Int.mul_le_mul (value_uncovered_mono (m := m) hp) (code_mono hcode hcode' hrate).2
    hrate' (hnonneg p')
  have hfull : 0 ≤ 8 * 4 * (bitsPerSymbol m).value := by
    have hle := (within_bitsPerSymbol (m := m)).le_value
    omega
  refine value_symbolsFor_mono ?_ ?_ ?_
  · exact Int.add_nonneg (Int.mul_nonneg (hnonneg p) hrate') hfull
  · exact Int.add_le_add_right hbits _
  · exact Int.lt_of_lt_of_le (by decide) within_size.le_value

end

/-- Symbols that carry data do not get fewer. -/
theorem value_dataSymbols_mono {r' : CodingRate} {cr cr' : UInt8}
    (hcode : m.codingRate.code m.longInterleaver = .ok cr)
    (hcode' : r'.code m.longInterleaver = .ok cr') (hrate : m.codingRate.codedBits ≤ r'.codedBits)
    (hp : p.Grows p') :
    (dataSymbols m p cr.toUInt32.toInt32).value ≤
      (dataSymbols m p' cr'.toUInt32.toInt32).value := by
  unfold dataSymbols
  rw [← hp.implicitHeader]
  split
  · split
    · exact value_implicitSymbols_mono hcode hcode' hrate hp
    · exact value_explicitSymbols_mono hcode hcode' hrate hp
  · exact value_plainSymbols_mono hcode hcode' hrate hp

theorem value_symbols (cr : Int32) : (symbols m p cr).value =
    p.preambleLength.toNat + 4 + 2 * toInt m.fineSync + (dataSymbols m p cr).value := by
  have hlt : p.preambleLength.toNat < 65536 := p.preambleLength.toNat_lt
  have hpreamble : toInt p.preambleLength.toUInt32.toInt32 = p.preambleLength.toNat :=
    toInt_toInt32 (by rw [UInt16.toNat_toUInt32]; omega)
  rw [← hpreamble]
  rfl

/-- The formula leaves out one of the units of one over the bandwidth that the packet takes. -/
theorem value_timeOnAirUnits (cr : Int32) : (timeOnAirUnits m p cr).value =
    (4 * (symbols m p cr).value + 1) * 2 ^ (m.spreadingFactor.value.toNat - 2) - 1 := by
  have hexponent : (toInt m.sf - 2).toNat = m.spreadingFactor.value.toNat - 2 := by
    unfold Modulation.sf
    cases m.spreadingFactor <;> rfl
  show (4 * (symbols m p cr).value + 1) * (1 * 2 ^ (toInt m.sf - 2).toNat) - 1 = _
  rw [hexponent, one_mul]

theorem value_timeOnAirUnits_mono {m' : Modulation} {cr cr' : Int32}
    (hsf : m'.spreadingFactor = m.spreadingFactor)
    (hpreamble : p.preambleLength ≤ p'.preambleLength)
    (hdata : (dataSymbols m p cr).value ≤ (dataSymbols m' p' cr').value) :
    (timeOnAirUnits m p cr).value ≤ (timeOnAirUnits m' p' cr').value := by
  have hpreamble : p.preambleLength.toNat ≤ p'.preambleLength.toNat := hpreamble
  have hsync : m'.fineSync = m.fineSync := by
    unfold Modulation.fineSync Modulation.sf
    rw [hsf]
  rw [value_timeOnAirUnits, value_timeOnAirUnits, value_symbols, value_symbols, hsf, hsync]
  refine Int.sub_le_sub_right (Int.mul_le_mul_of_nonneg_right ?_ ?_) 1
  · omega
  · exact Int.pow_nonneg (by decide)

/-- The time on air is there for every supported bandwidth and rate. -/
theorem exists_timeOnAir {cr : UInt8} {hertz : UInt32}
    (hcode : m.codingRate.code m.longInterleaver = .ok cr)
    (hhertz : m.bandwidth.hertz = .ok hertz) :
    ∃ time, Lora.timeOnAir m p = .ok time ∧ (time.toNat : Int) =
      -(-(1000 * (timeOnAirUnits m p cr.toUInt32.toInt32).value) / hertz.toNat) := by
  have hformula : timeOnAir m p =
      .ok (millis (timeOnAirUnits m p cr.toUInt32.toInt32) hertz) := by
    unfold timeOnAir
    rw [hcode, hhertz]
    rfl
  refine ⟨_, ?_, toInt_word _ (within_timeOnAir hformula).fits⟩
  rw [← word_timeOnAir, hformula]
  rfl

theorem supported_of_timeOnAir {time : UInt32} (h : Lora.timeOnAir m p = .ok time) :
    ∃ cr hertz, m.codingRate.code m.longInterleaver = .ok cr ∧ m.bandwidth.hertz = .ok hertz := by
  unfold Lora.timeOnAir Lora.timeOnAirUnits at h
  obtain ⟨units, hunits, h⟩ := exists_of_bind_eq_ok h
  obtain ⟨cr, hcode, -⟩ := exists_of_bind_eq_ok hunits
  obtain ⟨hertz, hhertz, -⟩ := exists_of_bind_eq_ok h
  exact ⟨cr, hertz, hcode, hhertz⟩

end Formula

/-- The time on air does not get shorter as the packet grows or its coding rate gets slower. -/
theorem timeOnAir_mono {m : Modulation} {p p' : Packet} {rate : CodingRate} {time : UInt32}
    (h : timeOnAir m p = .ok time) (hp : p.Grows p')
    (hslower : m.codingRate.codedBits ≤ rate.codedBits) (hform : m.longInterleaver → rate ≠ .cr4_7) :
    ∃ time', timeOnAir { m with codingRate := rate } p' = .ok time' ∧ time ≤ time' := by
  obtain ⟨cr, hertz, hcode, hhertz⟩ := Formula.supported_of_timeOnAir h
  obtain ⟨cr', hcode'⟩ := CodingRate.exists_code hform
  let m' : Modulation := { m with codingRate := rate }
  obtain ⟨_, htime, hvalue⟩ := Formula.exists_timeOnAir (p := p) hcode hhertz
  obtain ⟨time', htime', hvalue'⟩ := Formula.exists_timeOnAir (m := m') (p := p') hcode' hhertz
  cases h.symm.trans htime
  refine ⟨time', htime', Int.ofNat_le.mp ?_⟩
  have hunits : (Formula.timeOnAirUnits m p cr.toUInt32.toInt32).value ≤
      (Formula.timeOnAirUnits m' p' cr'.toUInt32.toInt32).value :=
    Formula.value_timeOnAirUnits_mono rfl hp.preamble
      (Formula.value_dataSymbols_mono hcode hcode' hslower hp)
  have hpos : (0 : Int) < hertz.toNat := by
    have hlo := (Bandwidth.hertz_bounds hhertz).1
    omega
  calc (time.toNat : Int) = _ := hvalue
    _ ≤ _ := Int.neg_le_neg (Int.ediv_le_ediv hpos (by omega))
    _ = time'.toNat := hvalue'.symm

theorem timeOnAir_mono_checksum :
    let m : Modulation := ⟨.sf9, .khz125, .cr4_5, true⟩
    let p : Packet := ⟨8, false, 1, false, false⟩
    let p' : Packet := ⟨12, false, 2, true, false⟩
    timeOnAir m p = .ok 83 ∧ p.Grows p' ∧ m.codingRate.codedBits ≤ CodingRate.cr4_8.codedBits ∧
      (m.longInterleaver → CodingRate.cr4_8 ≠ .cr4_7) ∧
      ∃ time', timeOnAir { m with codingRate := .cr4_8 } p' = .ok time' ∧ 83 ≤ time' := by
  intro m p p'
  have htime : timeOnAir m p = .ok 83 := by decide +kernel
  have hp : p.Grows p' := ⟨by decide, rfl, by decide, fun _ => rfl⟩
  have hslower : m.codingRate.codedBits ≤ CodingRate.cr4_8.codedBits := by decide
  have hform : m.longInterleaver → CodingRate.cr4_8 ≠ .cr4_7 := fun _ => nofun
  exact ⟨htime, hp, hslower, hform, timeOnAir_mono htime hp hslower hform⟩

/-! ## Rounding up -/

/-- Air time of a packet, milliseconds. -/
def airTime (m : Modulation) (p : Packet) : Except Fault ℚ := do
  let cr ← m.codingRate.code m.longInterleaver
  let hertz ← m.bandwidth.hertz
  let symbols : ℚ := p.preambleLength.toNat + 17 / 4
    + 2 * (if m.spreadingFactor.value ≤ 6 then 1 else 0)
    + (dataSymbols m p cr.toUInt32.toInt32).toInt
  return 1000 * (symbols * 2 ^ m.spreadingFactor.value.toNat / hertz.toNat)

/-- Units of one over the bandwidth in a millisecond. -/
def Bandwidth.kilohertz : Bandwidth → Nat
  | .khz125 => 125
  | .khz250 => 250
  | .khz500 => 500
  | _ => 0

theorem Bandwidth.hertz_eq {bw : Bandwidth} {hertz : UInt32} (h : bw.hertz = .ok hertz) :
    hertz.toNat = 1000 * bw.kilohertz ∧ 0 < bw.kilohertz := by
  cases bw <;> cases h <;> decide

/-- Air time of a packet in units of one over the bandwidth, which are the chips of its symbols. -/
def chips (m : Modulation) (p : Packet) (cr : Int32) : Int :=
  (4 * (Formula.symbols m p cr).value + 1) * 2 ^ (m.spreadingFactor.value.toNat - 2)

theorem airTime_eq {m : Modulation} {p : Packet} {cr : UInt8} {hertz : UInt32}
    (hcode : m.codingRate.code m.longInterleaver = .ok cr)
    (hhertz : m.bandwidth.hertz = .ok hertz) :
    airTime m p = .ok (chips m p cr.toUInt32.toInt32 / m.bandwidth.kilohertz) := by
  have hcr := Formula.within_code (CodingRate.code_bounds hcode)
  have hdata : (dataSymbols m p cr.toUInt32.toInt32).toInt =
      (Formula.dataSymbols m p cr.toUInt32.toInt32).value := by
    rw [← Formula.word_dataSymbols]
    exact toInt_word _ (Formula.within_dataSymbols hcr).fits
  have hpow : (2 : ℚ) ^ m.spreadingFactor.value.toNat =
      4 * 2 ^ (m.spreadingFactor.value.toNat - 2) := by
    have hsf : m.spreadingFactor.value.toNat = m.spreadingFactor.value.toNat - 2 + 2 := by
      cases m.spreadingFactor <;> rfl
    rw [hsf, pow_add, Nat.add_sub_cancel, mul_comm]
    norm_num
  have hsync : toInt m.fineSync = if m.spreadingFactor.value ≤ 6 then 1 else 0 := by
    unfold Modulation.fineSync Modulation.sf
    cases m.spreadingFactor <;> rfl
  obtain ⟨hkilo, hpos⟩ := Bandwidth.hertz_eq hhertz
  unfold airTime
  rw [hcode, hhertz]
  refine congrArg Except.ok ?_
  rw [hdata, hpow, hkilo, chips, Formula.value_symbols, hsync]
  push_cast
  have hne : (m.bandwidth.kilohertz : ℚ) ≠ 0 := by exact_mod_cast hpos.ne'
  field_simp
  ring

/-- The time on air is what one unit less takes, in whole milliseconds. -/
theorem timeOnAir_le_iff {m : Modulation} {p : Packet} {cr : UInt8} {hertz time : UInt32}
    (h : timeOnAir m p = .ok time) (hcode : m.codingRate.code m.longInterleaver = .ok cr)
    (hhertz : m.bandwidth.hertz = .ok hertz) (n : Nat) :
    time.toNat ≤ n ↔ chips m p cr.toUInt32.toInt32 ≤ n * m.bandwidth.kilohertz + 1 := by
  obtain ⟨_, htime, hvalue⟩ := Formula.exists_timeOnAir (p := p) hcode hhertz
  cases h.symm.trans htime
  obtain ⟨hkilo, hpos⟩ := Bandwidth.hertz_eq hhertz
  have hkilo : (hertz.toNat : Int) = 1000 * m.bandwidth.kilohertz := by exact_mod_cast hkilo
  calc time.toNat ≤ n ↔ (time.toNat : Int) ≤ n := Int.ofNat_le.symm
    _ ↔ -n * (hertz.toNat : Int) ≤ -(1000 * (chips m p cr.toUInt32.toInt32 - 1)) := by
      rw [hvalue, Formula.value_timeOnAirUnits, ← Int.le_ediv_iff_mul_le (by omega)]
      exact neg_le
    _ ↔ chips m p cr.toUInt32.toInt32 ≤ n * m.bandwidth.kilohertz + 1 := by
      rw [hkilo, Int.neg_mul, Int.mul_left_comm]
      omega

/-- A number of chips is even. -/
theorem two_dvd_chips (m : Modulation) (p : Packet) (cr : Int32) : 2 ∣ chips m p cr := by
  refine Dvd.dvd.mul_left (dvd_pow_self 2 ?_) _
  cases m.spreadingFactor <;> decide

/-- A number is a fraction of one over `parts` above a natural number. -/
def Overhangs (parts : ℕ) (x : ℚ) : Prop := ∃ n : ℕ, x = n + 1 / parts

section
variable {units : ℤ} {parts time : ℕ} (hparts : 0 < parts)
  (htime : ∀ n : ℕ, time ≤ n ↔ units ≤ n * parts + 1)
include hparts

theorem div_le_iff_le_mul (n : ℕ) : (units / parts : ℚ) ≤ n ↔ units ≤ n * parts := by
  have hpos : (0 : ℚ) < parts := by exact_mod_cast hparts
  rw [div_le_iff₀ hpos]
  exact_mod_cast Iff.rfl

theorem overhangs_iff : Overhangs parts (units / parts) ↔ ∃ n : ℕ, units = n * parts + 1 := by
  have hne : (parts : ℚ) ≠ 0 := by exact_mod_cast hparts.ne'
  refine exists_congr fun n => ?_
  rw [div_eq_iff hne, add_mul, one_div_mul_cancel hne]
  exact_mod_cast Iff.rfl

include htime

/-- What one unit less takes is what all take, unless they are one above whole parts. -/
theorem isLeast_iff_not_overhangs :
    IsLeast {n : ℕ | (units / parts : ℚ) ≤ n} time ↔ ¬Overhangs parts (units / parts) := by
  rw [overhangs_iff hparts]
  constructor
  · rintro ⟨hmem, -⟩ ⟨n, hn⟩
    have hmem := (div_le_iff_le_mul hparts _).mp hmem
    have hle := Nat.mul_le_mul_right parts ((htime n).mpr hn.le)
    zify at hle
    omega
  · intro hno
    constructor
    · have hle := (htime time).mp le_rfl
      have hne : units ≠ time * parts + 1 := fun heq => hno ⟨time, heq⟩
      exact (div_le_iff_le_mul hparts _).mpr (by omega)
    · intro n hn
      exact (htime n).mpr (((div_le_iff_le_mul hparts n).mp hn).trans (by omega))

theorem isLeast_succ_of_overhangs (h : Overhangs parts (units / parts)) :
    IsLeast {n : ℕ | (units / parts : ℚ) ≤ n} (time + 1) := by
  obtain ⟨n, hn⟩ := (overhangs_iff hparts).mp h
  have hle : time ≤ n := (htime n).mpr hn.le
  have hmul : n * parts ≤ time * parts := by
    have hle := (htime time).mp le_rfl
    zify
    omega
  obtain rfl := Nat.le_antisymm hle (Nat.le_of_mul_le_mul_right hmul hparts)
  constructor
  · refine (div_le_iff_le_mul hparts _).mpr ?_
    push_cast
    rw [hn, add_mul]
    omega
  · intro k hk
    have hk := (div_le_iff_le_mul hparts k).mp hk
    have hlt : time * parts < k * parts := by
      zify
      omega
    exact Nat.lt_of_mul_lt_mul_right hlt

end

/-- The time on air is the air time rounded up, unless the unit of one over the bandwidth that the
formula leaves out is all that the air time is above whole milliseconds. Then it is one millisecond
less. With the wider bandwidths, the number of units is even, and this does not happen. -/
theorem isLeast_timeOnAir_iff {m : Modulation} {p : Packet} {time : UInt32}
    (h : timeOnAir m p = .ok time) : ∃ air, airTime m p = .ok air ∧
      (IsLeast {n : ℕ | air ≤ n} time.toNat ↔ ¬Overhangs m.bandwidth.kilohertz air) ∧
      (Overhangs m.bandwidth.kilohertz air →
        m.bandwidth = .khz125 ∧ IsLeast {n : ℕ | air ≤ n} (time.toNat + 1)) := by
  obtain ⟨cr, hertz, hcode, hhertz⟩ := Formula.supported_of_timeOnAir h
  obtain ⟨-, hpos⟩ := Bandwidth.hertz_eq hhertz
  have htime := timeOnAir_le_iff h hcode hhertz
  refine ⟨_, airTime_eq hcode hhertz, isLeast_iff_not_overhangs hpos htime, fun hover => ⟨?_, ?_⟩⟩
  · obtain ⟨n, hn⟩ := (overhangs_iff hpos).mp hover
    have heven := two_dvd_chips m p cr.toUInt32.toInt32
    cases hbw : m.bandwidth with
    | khz125 => rfl
    | khz250 | khz500 =>
      rw [hn, hbw, Bandwidth.kilohertz] at heven
      omega
    | khz7 | khz10 | khz15 | khz20 | khz31 | khz41 | khz62 =>
      rw [hbw] at hpos
      cases hpos
  · exact isLeast_succ_of_overhangs hpos htime hover

theorem isLeast_timeOnAir_iff_sf7 :
    let m : Modulation := ⟨.sf7, .khz125, .cr4_5, false⟩
    let p : Packet := ⟨8, false, 10, true, false⟩
    timeOnAir m p = .ok 42 ∧ airTime m p = .ok (5152 / 125) ∧
      IsLeast {n : ℕ | (5152 / 125 : ℚ) ≤ n} 42 := by
  intro m p
  have htime : timeOnAir m p = .ok 42 := by decide +kernel
  have hair : airTime m p = .ok (5152 / 125) := by decide +kernel
  obtain ⟨air, hair', hleast, -⟩ := isLeast_timeOnAir_iff htime
  cases hair.symm.trans hair'
  refine ⟨htime, hair, hleast.mpr ?_⟩
  show ¬Overhangs 125 ((5152 : ℤ) / (125 : ℕ))
  rw [overhangs_iff (by decide)]
  rintro ⟨n, hn⟩
  omega

/-- A preamble of 41 symbols makes the air time 75.008 milliseconds. The time on air is given as
75. -/
theorem millisecond_missing :
    let m : Modulation := ⟨.sf7, .khz125, .cr4_5, false⟩
    let p : Packet := ⟨41, false, 10, true, false⟩
    timeOnAir m p = .ok 75 ∧ airTime m p = .ok (9376 / 125) ∧
      ¬IsLeast {n : ℕ | (9376 / 125 : ℚ) ≤ n} 75 := by
  refine ⟨by decide +kernel, by decide +kernel, ?_⟩
  rintro ⟨hmem, -⟩
  have hlt : ¬(9376 / 125 : ℚ) ≤ (75 : ℕ) := by decide +kernel
  exact hlt hmem

end Transceiver.Lora
