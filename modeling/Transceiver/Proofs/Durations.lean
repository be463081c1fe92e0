import Transceiver.Proofs.Formula

/-! Durations against their formulas over the integers. -/

namespace Transceiver

open FixedWidth Tracked

theorem toInt_toInt32 {n : UInt32} (h : n.toNat < 2 ^ 31) : n.toInt32.toInt = n.toNat := by
  have hmod : n.toInt32.toInt = (n.toNat : Int).bmod (2 ^ 32) := BitVec.toInt_eq_toNat_bmod _
  rw [hmod, bmod_of_mem] <;> omega

namespace Tracked

theorem within_greatest (n : UInt32) : (of n).Within 0 (2 ^ 32 - 1) :=
  .of (Int.natCast_nonneg _) (Int.le_sub_one_of_lt (Int.ofNat_lt.mpr n.toNat_lt))

theorem within_of_fits {x : Tracked UInt16} (h : x.Fits) : x.Within 0 65535 := by
  have hlt : x.word.toNat < 65536 := x.word.toNat_lt
  have hword : (x.word.toNat : Int) = x.value := x.toInt_word h
  exact ⟨h, by omega, by omega⟩

/-- A byte among signed words. -/
theorem within_byte (n : UInt8) : (of n.toUInt32.toInt32).Within 0 255 := by
  have hlt : n.toNat < 256 := n.toNat_lt
  have hbyte : toInt n.toUInt32.toInt32 = n.toNat :=
    toInt_toInt32 (by rw [UInt8.toNat_toUInt32]; omega)
  exact .of (by omega) (by omega)

theorem within_word {n : UInt32} {lo hi : Nat} (hlo : lo ≤ n.toNat) (hhi : n.toNat ≤ hi) :
    (of n).Within lo hi :=
  .of (Int.ofNat_le.mpr hlo) (Int.ofNat_le.mpr hhi)

theorem holds_wide {n : Int} (h : Holds UInt32 n) : Holds UInt64 n := ⟨h.1, h.2.trans (by decide)⟩

theorem within_millis {units : Tracked UInt32} {rate : UInt32} {b c d : Int}
    (hunits : units.Within 0 b) (hrate : (of rate).Within c d)
    (h : 0 < c ∧ Holds UInt32 b ∧ Holds UInt32 c ∧ Holds UInt32 d ∧
      Holds UInt32 (-(-(1000 * b) / c))) :
    (millis units rate).Within 0 (-(-(1000 * b) / c)) := by
  obtain ⟨hpos, hb, hc, hd, hquotient⟩ := h
  have hthousand : Holds UInt64 (1000 * b) := by
    have hlo : 0 ≤ b := hb.1
    have hhi : b ≤ 2 ^ 32 - 1 := hb.2
    exact ⟨show 0 ≤ 1000 * b by omega, show 1000 * b ≤ 2 ^ 64 - 1 by omega⟩
  have hwide := hunits.widen ⟨by decide, holds_wide hb⟩
  have hmillis : (1000 * units.widen).Within 0 (1000 * b) :=
    Within.mul (.literal 1000) hwide ⟨by decide, le_rfl, by decide, hthousand⟩
  have hup : (quotientUp64 (1000 * units.widen) (of rate).widen).Within 0 (-(-(1000 * b) / c)) :=
    hmillis.roundUp (hrate.widen ⟨holds_wide hc, holds_wide hd⟩)
      ⟨le_rfl, hpos, by decide, holds_wide hquotient⟩
  exact hup.narrow ⟨by decide, hquotient⟩

end Tracked

namespace Lora

theorem CodingRate.code_bounds {rate : CodingRate} {longInterleaver : Bool} {cr : UInt8}
    (h : rate.code longInterleaver = .ok cr) : 1 ≤ cr.toNat ∧ cr.toNat ≤ 7 := by
  cases rate <;> cases longInterleaver <;> cases h <;> decide

theorem Bandwidth.hertz_bounds {bw : Bandwidth} {hertz : UInt32} (h : bw.hertz = .ok hertz) :
    125000 ≤ hertz.toNat ∧ hertz.toNat ≤ 500000 := by
  cases bw <;> cases h <;> decide

/-- Half bytes of the payload that the header holds. -/
def SpreadingFactor.headerHalves (sf : SpreadingFactor) : Nat :=
  sf.value.toNat + (if sf.value ≤ 6 then 2 else 0) - 7

/-- Bytes that the receiver decodes, the checksum among them. -/
def Packet.receivedBytes (p : Packet) : Nat := p.payloadLength.toNat + 2 * p.crcOn.toNat

/-- The header takes no more of the payload than there is. The long interleaver leaves half a byte
to the payload. -/
def HeaderFits (m : Modulation) (p : Packet) : Prop :=
  if m.longInterleaver then m.spreadingFactor.headerHalves / 2 ≤ p.receivedBytes
  else m.spreadingFactor.headerHalves ≤ 2 * p.receivedBytes

namespace Formula

variable {m : Modulation} {p : Packet}

theorem within_sf : (of m.sf).Within 5 12 := by
  unfold Modulation.sf
  cases m.spreadingFactor <;> exact .of (by decide) (by decide)

theorem within_fineSync : (of m.fineSync).Within 0 1 := by
  unfold Modulation.fineSync
  split <;> exact .of (by decide) (by decide)

theorem within_preamble (n : UInt16) : (of n.toUInt32.toInt32).Within 0 65535 := by
  have hlt : n.toNat < 65536 := n.toNat_lt
  have hword : toInt n.toUInt32.toInt32 = n.toNat :=
    toInt_toInt32 (by rw [UInt16.toNat_toUInt32]; omega)
  exact .of (by omega) (by omega)

theorem within_bitsPerSymbol : (bitsPerSymbol m).Within 3 12 := by
  have hoptimized : (of (if lowDataRateOptimize m.spreadingFactor m.bandwidth then 1 else 0 :
      Int32)).Within 0 1 := by
    split <;> exact .of (by decide) (by decide)
  exact within_sf.sub (.mul (.literal 2) hoptimized (by decide)) (by decide)

theorem within_totalBytes : (totalBytes p).Within 0 257 := by
  have hchecksum : (of (if p.crcOn then 2 else 0 : Int32)).Within 0 2 := by
    split <;> exact .of (by decide) (by decide)
  exact (within_byte _).add hchecksum (by decide)

theorem within_totalBits : (8 * totalBytes p).Within 0 2056 :=
  .mul (.literal 8) within_totalBytes (by decide)

theorem within_symbolsFor {bits size : Tracked Int32} (hbits : bits.Within 0 17000)
    (hsize : size.Within 12 48) : (symbolsFor bits size).Within 0 1420 := by
  have hsum := (hbits.add hsize (by decide)).sub (.literal 1) (by decide)
  exact (hsum.div hsize (by decide)).mono (by decide) (by decide)

theorem within_size : (4 * bitsPerSymbol m).Within 12 48 :=
  .mul (.literal 4) within_bitsPerSymbol (by decide)

/-- Bits of the first eight symbols, if they held as much as the others. -/
theorem within_fullBits : (8 * 4 * bitsPerSymbol m).Within 96 384 :=
  .mul (.mul (.literal 8) (.literal 4) (by decide)) within_bitsPerSymbol (by decide)

theorem within_headerSymbols : (of m.sf * 4 + of m.fineSync * 8).Within 20 56 :=
  (within_sf.mul (.literal 4) (by decide)).add (within_fineSync.mul (.literal 8) (by decide))
    (by decide)

theorem within_headerBits : (headerBits m p).Within (-8) 48 := by
  have hheader : (of (if p.implicitHeader then 0 else 20 : Int32)).Within 0 20 := by
    split <;> exact .of (by decide) (by decide)
  exact (within_headerSymbols.sub (.literal 8) (by decide)).sub hheader (by decide)

theorem within_firstBits : (firstBits m).Within 3 12 :=
  (within_sf.sub (.literal 2) (by decide)).add (.mul (.literal 2) within_fineSync (by decide))
    (by decide)

theorem within_headerRoom : (headerRoom m).Within (-8) 24 :=
  (within_headerSymbols.sub (.literal 28) (by decide)).wholeBytes

theorem within_heldBits : (heldBits m p).Within (-8) 2040 := by
  have hpayload : (payloadBits p).Within 0 2040 := .mul (.literal 8) (within_byte _) (by decide)
  have hroom := within_headerRoom (m := m)
  refine .choose ⟨⟨hroom.fits, within_totalBits.fits⟩, hpayload.fits, hroom.fits⟩ ?_ ?_
  · exact fun _ => hpayload.mono (by decide) le_rfl
  · exact fun _ => hroom.mono le_rfl (by decide)

/-- The first eight symbols hold less than the others. What a packet that needs more than seven of
them has beyond these eight is at least what they fall short. -/
theorem nonneg_of_overflows {coded size first : Int} (h : ¬coded ≤ 7 * 4 * first)
    (hfirst : first ≤ 12) (hsize : 3 ≤ size) : 0 ≤ 8 * 4 * size + coded - 4 * (first * 8) := by
  omega

section
variable {cr : Int32} (hcr : (of cr).Within 1 7)
include hcr

theorem within_rate : (rate cr).Within 1 8 := by
  have hlast : (of (if cr = 7 then 1 else 0 : Int32)).Within 0 1 := by
    split <;> exact .of (by decide) (by decide)
  exact hcr.add hlast (by decide)

theorem within_plainSymbols : (plainSymbols m p cr).Within 0 16000 := by
  have hbits : (max (8 * totalBytes p - headerBits m p) 0).Within 0 2064 :=
    (within_totalBits.sub within_headerBits (by decide)).max (.literal 0)
  have hsymbols := within_symbolsFor (hbits.mono le_rfl (by decide)) (within_size (m := m))
  have hcoded := hsymbols.mul (hcr.add (.literal 4) (by decide)) (by decide)
  exact (hcoded.add (.literal 8) (by decide)).mono (by decide) (by decide)

theorem within_codedBits : (codedBits p cr).Within 0 16448 :=
  within_totalBits.mul (within_rate hcr) (by decide)

theorem within_implicitSymbols : (implicitSymbols m p cr).Within 0 1420 := by
  have hcoded := within_codedBits (p := p) hcr
  have hfirst := within_firstBits (m := m)
  have hseven : (7 * 4 * firstBits m).Within 84 336 :=
    .mul (.mul (.literal 7) (.literal 4) (by decide)) hfirst (by decide)
  refine .choose ⟨hcoded.fits, hseven.fits⟩ (fun _ => ?_) fun hlong => ?_
  · exact within_symbolsFor (hcoded.mono le_rfl (by decide)) (.mul (.literal 4) hfirst (by decide))
  · have hhead : (4 * (firstBits m * 8)).Within 96 384 :=
      .mul (.literal 4) (hfirst.mul (.literal 8) (by decide)) (by decide)
    have hsum := (within_fullBits (m := m)).add hcoded (by decide)
    have hrest := (hsum.sub hhead (by decide)).from_below
      (nonneg_of_overflows hlong hfirst.value_le (within_bitsPerSymbol (m := m)).le_value)
    exact within_symbolsFor (hrest.mono le_rfl (by decide)) within_size

theorem within_explicitSymbols : (explicitSymbols m p cr).Within 0 1420 := by
  have hbits : (max (8 * totalBytes p - heldBits m p) 0).Within 0 2064 :=
    (within_totalBits.sub within_heldBits (by decide)).max (.literal 0)
  have hall := (hbits.mul (within_rate hcr) (by decide)).add (within_fullBits (m := m)) (by decide)
  exact within_symbolsFor (hall.mono (by decide) (by decide)) within_size

theorem within_dataSymbols : (dataSymbols m p cr).Within 0 16000 := by
  unfold dataSymbols
  split
  · split
    · exact (within_implicitSymbols hcr).mono le_rfl (by decide)
    · exact (within_explicitSymbols hcr).mono le_rfl (by decide)
  · exact within_plainSymbols hcr

theorem within_symbols : (symbols m p cr).Within 4 81541 := by
  have hsync : (2 * of m.fineSync).Within 0 2 := .mul (.literal 2) within_fineSync (by decide)
  have hpreamble := ((within_preamble p.preambleLength).add (.literal 4) (by decide)).add hsync
    (by decide)
  exact hpreamble.add (within_dataSymbols hcr) (by decide)

theorem within_timeOnAirUnits : (timeOnAirUnits m p cr).Within 135 400000000 := by
  have hunit : ((1 : Tracked Int32) <<< (of m.sf - 2)).Within 8 1024 :=
    .shiftLeft (.literal 1) (within_sf.sub (.literal 2) (by decide)) (by decide)
  have hquarters : (4 * symbols m p cr + 1).Within 17 326165 :=
    (Within.mul (.literal 4) (within_symbols hcr) (by decide)).add (.literal 1) (by decide)
  have hall := (hquarters.mul hunit (by decide)).sub (.literal 1) (by decide)
  exact (hall.unsign (by decide)).mono (by decide) (by decide)

end

theorem within_code {cr : UInt8} (h : 1 ≤ cr.toNat ∧ cr.toNat ≤ 7) :
    (of cr.toUInt32.toInt32).Within 1 7 := by
  have hcode : toInt cr.toUInt32.toInt32 = cr.toNat :=
    toInt_toInt32 (by rw [UInt8.toNat_toUInt32]; omega)
  exact .of (by omega) (by omega)

theorem within_hertz {bw : Bandwidth} {hertz : UInt32} (h : bw.hertz = .ok hertz) :
    (of hertz).Within 125000 500000 := by
  obtain ⟨hlo, hhi⟩ := bw.hertz_bounds h
  exact within_word hlo hhi

theorem within_value (sf : SpreadingFactor) : (of sf.value.toUInt32).Within 5 12 := by
  cases sf <;> exact .of (by decide) (by decide)

theorem within_symbolTime {sf : SpreadingFactor} {bw : Bandwidth} {x : Tracked UInt32}
    (h : symbolTime sf bw = .ok x) : x.Within 64 32768 := by
  unfold symbolTime at h
  obtain ⟨hertz, hhertz, ⟨⟩⟩ := exists_of_bind_eq_ok h
  have hchips : ((1 : Tracked UInt32) <<< of sf.value.toUInt32).Within 32 4096 :=
    .shiftLeft (.literal 1) (within_value sf) (by decide)
  exact (hchips.mul (.literal 1000000) (by decide)).div (within_hertz hhertz) (by decide)

theorem within_symbolTimeout {symbols : UInt8} {x : Tracked UInt32}
    (h : symbolTimeout m symbols = .ok x) : x.Within 0 8355840 := by
  unfold symbolTimeout at h
  obtain ⟨time, htime, ⟨⟩⟩ := exists_of_bind_eq_ok h
  have hsymbols : (of symbols.toUInt32).Within 0 255 :=
    within_word (Nat.zero_le _) (Nat.le_of_lt_succ symbols.toNat_lt)
  exact (within_symbolTime htime).mul hsymbols (by decide)

theorem within_timeOnAir {x : Tracked UInt32} (h : timeOnAir m p = .ok x) :
    x.Within 0 3200000 := by
  unfold timeOnAir at h
  obtain ⟨cr, hcode, h⟩ := exists_of_bind_eq_ok h
  obtain ⟨hertz, hhertz, ⟨⟩⟩ := exists_of_bind_eq_ok h
  have hcr := within_code (CodingRate.code_bounds hcode)
  have hunits : (timeOnAirUnits m p cr.toUInt32.toInt32).Within 0 400000000 :=
    (within_timeOnAirUnits hcr).mono (by decide) le_rfl
  exact within_millis hunits (within_hertz hhertz) (by decide)

/-! ### Receive delay -/

theorem within_headerOffset (sf : SpreadingFactor) : (headerOffset sf).Within 0 7 := by
  have hsync : (of (if sf.value.toUInt32 ≤ 6 then 1 else 0 : UInt32)).Within 0 1 := by
    split <;> exact .of (by decide) (by decide)
  have hsum := (within_value sf).add (Within.mul (.literal 2) hsync (by decide)) (by decide)
  have hfits : (headerOffset sf).Fits := by
    refine (hsum.fits_sub_iff (.literal 7) (by decide)).mpr ?_
    cases sf <;> decide
  exact hsum.sub_of_fits (.literal 7) hfits

theorem value_headerOffset (sf : SpreadingFactor) : (headerOffset sf).value = sf.headerHalves := by
  cases sf <;> rfl

theorem within_rxBytes : (rxBytes p).Within 0 257 := by
  have hpayload : (of p.payloadLength.toUInt32).Within 0 255 :=
    within_word (Nat.zero_le _) (Nat.le_of_lt_succ p.payloadLength.toNat_lt)
  have hchecksum : (of p.crcOn.toUInt32).Within 0 1 := by
    cases p.crcOn <;> exact .of (by decide) (by decide)
  exact hpayload.add (.mul (.literal 2) hchecksum (by decide)) (by decide)

theorem within_doubledBytes : (2 * rxBytes p).Within 0 514 :=
  .mul (.literal 2) within_rxBytes (by decide)

theorem value_rxBytes (p : Packet) : (rxBytes p).value = p.receivedBytes := by
  show (p.payloadLength.toNat : Int) + 2 * toInt p.crcOn.toUInt32 = p.receivedBytes
  unfold Packet.receivedBytes
  cases p.crcOn <;> rfl

theorem within_rxRate {cr : UInt32} (hcr : (of cr).Within 1 7) : (rxRate cr).Within 1 8 := by
  unfold rxRate
  split
  · exact (hcr.add (.literal 1) (by decide)).mono (by decide) le_rfl
  · exact hcr.mono le_rfl (by decide)

theorem within_wholeOffset (sf : SpreadingFactor) : (headerOffset sf / 2).Within 0 3 :=
  (within_headerOffset sf).div (.literal 2) (by decide)

theorem fits_plainRest_iff : (2 * rxBytes p - headerOffset m.spreadingFactor).Fits ↔
    m.spreadingFactor.headerHalves ≤ 2 * p.receivedBytes := by
  have hbytes := within_doubledBytes (p := p)
  have hvalue : (2 * rxBytes p).value = (2 * p.receivedBytes : Nat) :=
    congrArg (2 * ·) (value_rxBytes p)
  rw [hbytes.fits_sub_iff (within_headerOffset _) (by decide), hvalue, value_headerOffset,
    Int.ofNat_le]

theorem fits_interleavedRest_iff : (rxBytes p - headerOffset m.spreadingFactor / 2).Fits ↔
    m.spreadingFactor.headerHalves / 2 ≤ p.receivedBytes := by
  have hvalue : (headerOffset m.spreadingFactor / 2).value =
      (m.spreadingFactor.headerHalves / 2 : Nat) := by
    cases m.spreadingFactor <;> rfl
  rw [within_rxBytes.fits_sub_iff (within_wholeOffset _) (by decide), hvalue, value_rxBytes,
    Int.ofNat_le]

/-- What the header leaves of the payload comes in only as a remainder, which is small even where
there is not so much to take away. -/
theorem within_plainCycles {rest : Tracked UInt32} (hrest : rest.Within 0 (2 ^ 32 - 1))
    {cr : UInt32} (hcr : (of cr).Within 1 7) :
    (rest % of m.spreadingFactor.value.toUInt32 * 16 * (4 + rxRate cr) + 5).Within 5 2117 := by
  have hrate := (Within.literal 4).add (within_rxRate hcr) (by decide)
  have hlast := hrest.mod (within_value m.spreadingFactor) (by decide)
  have hbits := hlast.mul (.literal 16) (by decide)
  exact (hbits.mul hrate (by decide)).add (.literal 5) (by decide)

theorem within_interleavedCycles {cr : UInt32} (hcr : (of cr).Within 1 7)
    (hrest : (rxBytes p - headerOffset m.spreadingFactor / 2).Within 0 257) :
    (interleavedCycles m p cr).Within 4 6697 := by
  have hcoded := (Within.literal 2).mul hrest (by decide)
  have hrate := within_rxRate hcr
  have hlast := (hcoded.mul hrate (by decide)).mod (within_value m.spreadingFactor) (by decide)
  have hfirst := hcoded.mul ((Within.literal 5).add hrate (by decide)) (by decide)
  exact (hfirst.add hlast (by decide)).add (.literal 4) (by decide)

theorem within_rxDataCycles {cr : UInt32} (hcr : (of cr).Within 1 7) :
    HeaderFits m p → (rxDataCycles m p cr).Within 0 6697 := by
  unfold HeaderFits rxDataCycles
  split <;> intro hheader
  · have hrest := within_rxBytes.sub_of_fits (within_wholeOffset m.spreadingFactor)
      (fits_interleavedRest_iff.mpr hheader)
    exact (within_interleavedCycles hcr hrest).mono (by decide) le_rfl
  · have hrest := within_doubledBytes.sub_of_fits (within_headerOffset m.spreadingFactor)
      (fits_plainRest_iff.mpr hheader)
    exact (within_plainCycles (hrest.mono le_rfl (by decide)) hcr).mono (by decide) (by decide)

theorem fits_rxDataCycles_iff {cr : UInt32} (hcr : (of cr).Within 1 7) :
    (rxDataCycles m p cr).Fits ↔ HeaderFits m p := by
  refine ⟨?_, fun hheader => (within_rxDataCycles hcr hheader).fits⟩
  unfold HeaderFits rxDataCycles
  split
  · rintro ⟨⟨⟨⟨-, hrest, -⟩, -⟩, -⟩, -⟩
    exact fits_interleavedRest_iff.mp hrest
  · rintro ⟨⟨⟨⟨hrest, -⟩, -⟩, -⟩, -⟩
    exact fits_plainRest_iff.mp hrest

theorem within_rxCycles {sf : SpreadingFactor} {data : Tracked UInt32} (h : data.Within 0 6697) :
    (rxCycles sf data).Within 0 117289 := by
  have hsf := within_value sf
  have hnext := hsf.add (.literal 1) (by decide)
  have hsymbol := Within.shiftLeft (.literal 1) hsf (by decide)
  have hsymbols := (hnext.shiftLeft hnext (by decide)).add hsymbol (by decide)
  exact (hsymbols.add h (by decide)).mono (by decide) le_rfl

theorem within_delayAfter {bw : Bandwidth} {hertz : UInt32} (h : bw.hertz = .ok hertz)
    {cycles : Tracked UInt32} (hcycles : cycles.Within 0 117289) :
    (delayAfter bw hertz cycles).Within 0 40000 := by
  have hinput : (of (rxInputDelay bw)).Within 0 57 := by
    cases bw <;> exact .of (by decide) (by decide)
  have hclock := (Within.literal 32).mul (within_hertz h) (by decide)
  have hmhz : (32 * of hertz / 1000000).Within 4 16 :=
    hclock.div (.literal 1000000) (by decide)
  have hinterrupt : (of rxInterruptTime).Within 54 54 := .of (by decide) (by decide)
  have hdecoding : (quotientUp32 cycles (32 * of hertz / 1000000)).Within 0 29323 :=
    hcycles.roundUp hmhz (by decide)
  have hdelay := (hinput.add hdecoding (by decide)).add hinterrupt (by decide)
  exact hdelay.mono (by decide) (by decide)

/-- Where the header takes more than there is, the long interleaver has a number of cycles that
wraps around. The cycles before it make the sum wrap around once more. -/
theorem rxCycles_le_of_short {cr : UInt8} (hcode : m.codingRate.code true = .ok cr)
    (hshort : p.receivedBytes < m.spreadingFactor.headerHalves / 2) :
    toInt (rxCycles m.spreadingFactor (interleavedCycles m p cr.toUInt32)).word ≤ 117289 := by
  have hbytes : p.receivedBytes < 2 := by
    have hle : m.spreadingFactor.headerHalves / 2 ≤ 2 := by
      cases m.spreadingFactor <;> decide
    omega
  -- There is no checksum then, and at most one byte of payload.
  unfold Packet.receivedBytes at hbytes
  have hchecksum : p.crcOn = false := by
    cases hcrc : p.crcOn with
    | false => rfl
    | true =>
      rw [hcrc, Bool.toNat_true] at hbytes
      omega
  have hpayload : p.payloadLength = 0 ∨ p.payloadLength = 1 := by
    have hle : p.payloadLength.toNat = 0 ∨ p.payloadLength.toNat = 1 := by omega
    exact hle.imp UInt8.toNat_inj.mp UInt8.toNat_inj.mp
  unfold interleavedCycles rxBytes
  rw [hchecksum]
  obtain hpayload | hpayload := hpayload <;> rw [hpayload] <;> cases m.spreadingFactor <;>
    cases hrate : m.codingRate <;> rw [hrate] at hcode <;> cases hcode <;> decide

theorem rxCycles_le {cr : UInt8} (hcode : m.codingRate.code m.longInterleaver = .ok cr)
    (hcr : (of cr.toUInt32).Within 1 7) :
    toInt (rxCycles m.spreadingFactor (rxDataCycles m p cr.toUInt32)).word ≤ 117289 := by
  by_cases hheader : HeaderFits m p
  · exact (within_rxCycles (within_rxDataCycles hcr hheader)).toInt_le
  unfold HeaderFits at hheader
  unfold rxDataCycles
  cases hlong : m.longInterleaver with
  | false =>
    have hrest := within_greatest (2 * rxBytes p - headerOffset m.spreadingFactor).word
    have hdata := within_plainCycles (m := m) hrest hcr
    exact (within_rxCycles (hdata.mono (by decide) (by decide))).toInt_le
  | true =>
    rw [hlong] at hcode
    rw [if_pos hlong, Nat.not_le] at hheader
    exact rxCycles_le_of_short hcode hheader

/-- The receive delay is short, and exact unless the header takes more of the payload than there
is. -/
theorem rxDoneDelay_spec {delay : UInt32} (h : Lora.rxDoneDelay m p = .ok delay) :
    delay ≤ 40000 ∧ (Exact (Lora.rxDoneDelay m p) (rxDoneDelay m p) ↔ HeaderFits m p) := by
  rw [exact_iff word_rxDoneDelay]
  cases hx : rxDoneDelay m p with
  | error e =>
    rw [← word_rxDoneDelay, hx] at h
    cases h
  | ok x =>
  rw [← word_rxDoneDelay, hx] at h
  cases h
  unfold rxDoneDelay at hx
  obtain ⟨cr, hcode, hx⟩ := exists_of_bind_eq_ok hx
  obtain ⟨hertz, hhertz, ⟨⟩⟩ := exists_of_bind_eq_ok hx
  have hcr : (of cr.toUInt32).Within 1 7 := by
    obtain ⟨hlo, hhi⟩ := CodingRate.code_bounds hcode
    rw [← UInt8.toNat_toUInt32] at hlo hhi
    exact within_word hlo hhi
  constructor
  · let cycles := of (rxCycles m.spreadingFactor (rxDataCycles m p cr.toUInt32)).word
    have hcycles : cycles.Within 0 117289 := .of (Int.natCast_nonneg _) (rxCycles_le hcode hcr)
    exact Int.ofNat_le.mp (within_delayAfter hhertz hcycles).toInt_le
  · rw [← fits_rxDataCycles_iff hcr]
    constructor
    · intro hfits
      obtain ⟨⟨-, ⟨⟨-, hdata, -⟩, -⟩, -⟩, -⟩ := hfits _ rfl
      exact hdata
    · rintro hdata x ⟨⟩
      have hheader := (fits_rxDataCycles_iff hcr).mp hdata
      exact (within_delayAfter hhertz (within_rxCycles (within_rxDataCycles hcr hheader))).fits

end Formula
end Lora

namespace Fsk.Formula

variable {m : Modulation} {p : Packet}

/-- A preamble of 8193 bytes has one bit more than a word of 16 bits can count. -/
theorem fits_preambleBits_iff {n : UInt16} : (preambleBits n).Fits ↔ n ≤ 8192 := by
  have hword : (n.toNat : Int) ≤ 65535 := Int.le_of_lt_add_one (Int.ofNat_lt.mpr n.toNat_lt)
  have hlong : n ≤ 8192 ↔ (n.toNat : Int) ≤ 8192 := Int.ofNat_le.symm
  unfold preambleBits
  split <;> rename_i hone
  · have hone : (1 : Int) < n.toNat := Int.ofNat_lt.mpr hone
    rw [hlong]
    constructor
    · rintro ⟨-, -, -, -, hle⟩
      have hle : ((n.toNat : Int) - 1) * 8 ≤ 65535 := hle
      omega
    · intro hle
      have hbytes : (of n).Within 2 8192 := .of hone hle
      exact ((hbytes.sub (.literal 1) (by decide)).shiftLeft (.literal 3) (by decide)).fits
  · have hone : ¬(1 : Int) < n.toNat := fun h => hone (Int.ofNat_lt.mp h)
    rw [hlong]
    exact iff_of_true trivial (by omega)

theorem within_countedBits (h : (preambleBits p.preambleLength).Fits) :
    (countedBits p).Within 0 69647 := by
  have hpreamble := within_of_fits h
  have hheader : (of (if p.variableLength then 8 else 0 : UInt32)).Within 0 8 := by
    split <;> exact .of (by decide) (by decide)
  have hbyte (n : UInt8) : (of n.toUInt32).Within 0 255 :=
    within_word (Nat.zero_le _) (Nat.le_of_lt_succ n.toNat_lt)
  have haddress : (of p.addressFilter.toUInt32).Within 0 1 := by
    cases p.addressFilter <;> exact .of (by decide) (by decide)
  have hchecksum : (of (if p.crcOn then 2 else 0 : UInt32)).Within 0 2 := by
    split <;> exact .of (by decide) (by decide)
  have hbytes := ((hbyte p.payloadLength).add haddress (by decide)).add hchecksum (by decide)
  have hbody := hbytes.mul (.literal 8) (by decide)
  have hsync := (hbyte p.syncWordLength).mul (.literal 8) (by decide)
  have hstart := (hpreamble.extend (by decide)).add hheader (by decide)
  exact (hstart.add hsync (by decide)).add hbody (by decide)

theorem exact_preambleBits_iff {n : UInt16} :
    Exact (.ok (Fsk.preambleBits n)) (.ok (preambleBits n)) ↔ n ≤ 8192 := by
  rw [← word_preambleBits, exact_ok_iff, fits_preambleBits_iff]

theorem exact_timeOnAir_iff :
    Exact (Fsk.timeOnAir m p) (timeOnAir m p) ↔ (m.bitRate ≠ 0 → p.preambleLength ≤ 8192) := by
  rw [exact_iff word_timeOnAir, ← fits_preambleBits_iff, timeOnAir]
  constructor
  · intro hfits hrate
    obtain ⟨⟨⟨-, ⟨hcounted, -⟩, -⟩, -⟩, -⟩ := hfits _ (if_neg hrate)
    obtain ⟨⟨⟨⟨hpreamble, -⟩, -⟩, -⟩, -⟩ := hcounted
    exact hpreamble
  · intro hpreamble x hx
    split at hx
    · cases hx
    rename_i hrate
    cases hx
    have hpos : 0 < m.bitRate.toNat := Nat.pos_of_ne_zero fun h => hrate (UInt32.toNat_inj.mp h)
    have hbits := within_greatest m.bitRate
    exact (within_millis (within_countedBits (hpreamble hrate))
      (hbits.from_below (Int.ofNat_lt.mpr hpos)) (by decide)).fits

end Fsk.Formula

/-- Every duration is what its formula gives over the integers, and the receive delay is short. The
exceptions are the receive delay where the header takes more of the payload than there is, and the
bits of an FSK preamble above 8192 bytes with the time on air that counts them. -/
theorem exact_unless_dropped (m : Lora.Modulation) (p : Lora.Packet) (symbols : UInt8)
    (m' : Fsk.Modulation) (p' : Fsk.Packet) :
    Exact (Lora.symbolTime m.spreadingFactor m.bandwidth)
        (Lora.Formula.symbolTime m.spreadingFactor m.bandwidth) ∧
      Exact (m.symbolTimeout symbols) (Lora.Formula.symbolTimeout m symbols) ∧
      Exact (Lora.timeOnAir m p) (Lora.Formula.timeOnAir m p) ∧
      (∀ delay, Lora.rxDoneDelay m p = .ok delay → delay ≤ 40000 ∧
        (Exact (Lora.rxDoneDelay m p) (Lora.Formula.rxDoneDelay m p) ↔ Lora.HeaderFits m p)) ∧
      (∀ length, Exact (.ok (Fsk.preambleBits length)) (.ok (Fsk.Formula.preambleBits length)) ↔
        length ≤ 8192) ∧
      (Exact (Fsk.timeOnAir m' p') (Fsk.Formula.timeOnAir m' p') ↔
        (m'.bitRate ≠ 0 → p'.preambleLength ≤ 8192)) := by
  refine ⟨?_, ?_, ?_, ?_, ?_, Fsk.Formula.exact_timeOnAir_iff⟩
  · rw [exact_iff (Lora.Formula.word_symbolTime _ _)]
    exact fun x hx => (Lora.Formula.within_symbolTime hx).fits
  · rw [exact_iff (Lora.Formula.word_symbolTimeout symbols)]
    exact fun x hx => (Lora.Formula.within_symbolTimeout hx).fits
  · rw [exact_iff Lora.Formula.word_timeOnAir]
    exact fun x hx => (Lora.Formula.within_timeOnAir hx).fits
  · exact fun delay hdelay => Lora.Formula.rxDoneDelay_spec hdelay
  · exact fun length => Fsk.Formula.exact_preambleBits_iff

theorem exact_unless_dropped_sf9 :
    let m : Lora.Modulation := ⟨.sf9, .khz125, .cr4_5, false⟩
    let p : Lora.Packet := ⟨8, false, 1, false, false⟩
    let m' : Fsk.Modulation := ⟨50000, 25000, .bw156200, .bt1⟩
    let p' : Fsk.Packet := { preambleLength := 8192, syncWordLength := 3, payloadLength := 18 }
    Lora.rxDoneDelay m p = .ok 2801 ∧
      Exact (Lora.rxDoneDelay m p) (Lora.Formula.rxDoneDelay m p) ∧
      m'.bitRate ≠ 0 ∧ Exact (Fsk.timeOnAir m' p') (Fsk.Formula.timeOnAir m' p') := by
  intro m p m' p'
  obtain ⟨-, -, -, hdelay, -, hair⟩ := exact_unless_dropped m p 0 m' p'
  have hok : Lora.rxDoneDelay m p = .ok 2801 := by decide +kernel
  have hheader : Lora.HeaderFits m p := by
    show m.spreadingFactor.headerHalves ≤ 2 * p.receivedBytes
    decide
  exact ⟨hok, (hdelay _ hok).2.mpr hheader, by decide, hair.mpr fun _ => by decide⟩

/-- The spreading factor 9 without a payload has a delay of 2841 microseconds for 2761, and 8193
bytes of preamble have no bits for 65536. -/
theorem bits_dropped :
    let m : Lora.Modulation := ⟨.sf9, .khz125, .cr4_5, false⟩
    let p : Lora.Packet := ⟨8, false, 0, false, false⟩
    Lora.rxDoneDelay m p = .ok 2841 ∧
      (Lora.Formula.rxDoneDelay m p).map Tracked.value = .ok 2761 ∧
      Fsk.preambleBits 8193 = 0 ∧ (Fsk.Formula.preambleBits 8193).value = 65536 := by
  decide +kernel

end Transceiver
