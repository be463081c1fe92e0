import Mathlib.Algebra.Ring.Periodic
import Mathlib.Dynamics.PeriodicPts.Defs
import Mathlib.Order.Interval.Finset.Nat
import Mathlib.Tactic.NormNum.Prime
import Transceiver.Fsk.Whitening

/-! The masks of whitening are the output of a generator that makes one bit at a time. The register
takes four bits in at once, and always holds the nine bits that the generator has got to. Any
register but the empty one goes through all 511 of them before it comes back, so the masks repeat
every 511 bytes and no sooner. -/

namespace Transceiver.Fsk

/-- The bits of the generator: those of the seed, least significant first, and then each the sum of
the bits four and nine places before. -/
def pseudonoise (seed : UInt16) (n : Nat) : Bool :=
  if n < 9 then seed.toBitVec.getLsbD n else pseudonoise seed (n - 4) ^^ pseudonoise seed (n - 9)

theorem pseudonoise_of_lt {seed : UInt16} {n : Nat} (h : n < 9) :
    pseudonoise seed n = seed.toBitVec.getLsbD n := by
  rw [pseudonoise, if_pos h]

theorem pseudonoise_add_nine (seed : UInt16) (n : Nat) :
    pseudonoise seed (n + 9) = (pseudonoise seed (n + 5) ^^ pseudonoise seed n) := by
  rw [pseudonoise, if_neg (by omega)]
  rfl

/-! ## Bits of the register -/

theorem getLsbD_and_low {w : Nat} (v : BitVec w) (n k : Nat) :
    (v &&& BitVec.ofNat w (2 ^ n - 1)).getLsbD k = (v.getLsbD k && decide (k < n)) := by
  rw [BitVec.getLsbD_and, BitVec.getLsbD_ofNat, Nat.testBit_two_pow_sub_one]
  by_cases hk : k < w
  · simp [hk]
  · simp [BitVec.getLsbD_of_ge v k (Nat.not_lt.mp hk)]

/-- Five of the nine bits move down, and four new ones come in above them. -/
theorem getLsbD_shiftNibble (reg : UInt16) (k : Nat) :
    (shiftNibble reg).toBitVec.getLsbD k = (reg.toBitVec.getLsbD (k + 4) ||
      decide (5 ≤ k ∧ k < 9) && (reg.toBitVec.getLsbD k ^^ reg.toBitVec.getLsbD (k - 5))) := by
  have hvector : (shiftNibble reg).toBitVec = (reg.toBitVec >>> 4) |||
      ((((reg.toBitVec >>> 5) &&& BitVec.ofNat 16 (2 ^ 4 - 1)) ^^^
        (reg.toBitVec &&& BitVec.ofNat 16 (2 ^ 4 - 1))) <<< 5) := rfl
  rw [hvector, BitVec.getLsbD_or, BitVec.getLsbD_ushiftRight, Nat.add_comm 4 k,
    BitVec.getLsbD_shiftLeft, BitVec.getLsbD_xor, getLsbD_and_low, getLsbD_and_low,
    BitVec.getLsbD_ushiftRight]
  congr 1
  by_cases hlow : k < 5
  · simp [hlow]
  by_cases hhigh : k < 9
  · have hsum : 5 + (k - 5) = k := by omega
    have hwidth : k < 16 ∧ k - 5 < 4 ∧ 5 ≤ k := by omega
    simp [hlow, hsum, hhigh, hwidth]
  · have hout : ¬k - 5 < 4 := by omega
    simp [hhigh, hout]

/-- A mask is read from the top of two registers, its first four bits from the first. -/
theorem getMsbD_whiteningMask (half full : UInt16) {j : Nat} (hj : j < 8) :
    (whiteningMask half full).toBitVec.getMsbD j =
      if j < 4 then half.toBitVec.getLsbD (j + 5) else full.toBitVec.getLsbD (j + 1) := by
  have hvector : (whiteningMask half full).toBitVec =
      (((half.toBitVec >>> 5) &&& BitVec.ofNat 16 (2 ^ 4 - 1)).setWidth 8 |||
        ((full.toBitVec >>> 1) &&& 0xF0#16).setWidth 8).reverse := rfl
  have hhigh : ∀ j < 8, (0xF0#16).getLsbD j = decide (4 ≤ j) := by decide
  rw [hvector, BitVec.getMsbD_reverse, BitVec.getLsbD_or, BitVec.getLsbD_setWidth,
    BitVec.getLsbD_setWidth, getLsbD_and_low, BitVec.getLsbD_and, BitVec.getLsbD_ushiftRight,
    BitVec.getLsbD_ushiftRight, hhigh j hj, Nat.add_comm 5, Nat.add_comm 1]
  by_cases h : j < 4
  · simp [hj, h, Nat.not_le.mpr h]
  · simp [hj, h, Nat.not_lt.mp h]

/-! ## The register along the generator -/

/-- The register holds nine bits of the generator, from bit `n` on, and no others. -/
def Holds (seed : UInt16) (n : Nat) (reg : UInt16) : Prop :=
  ∀ k, reg.toBitVec.getLsbD k = (decide (k < 9) && pseudonoise seed (n + k))

section Holds
variable {seed reg reg' : UInt16} {n m : Nat}

theorem getLsbD_of_lt_512 (h : reg < 512) {k : Nat} (hk : 9 ≤ k) :
    reg.toBitVec.getLsbD k = false := by
  have hreg : reg.toNat < 2 ^ 9 := h
  exact Nat.testBit_lt_two_pow (Nat.lt_of_lt_of_le hreg (Nat.pow_le_pow_right (by decide) hk))

theorem holds_seed (h : seed < 512) : Holds seed 0 seed := by
  intro k
  by_cases hk : k < 9
  · simp [hk, pseudonoise_of_lt hk]
  · simp [hk, getLsbD_of_lt_512 h (Nat.not_lt.mp hk)]

theorem Holds.shiftNibble (h : Holds seed n reg) : Holds seed (n + 4) (shiftNibble reg) := by
  intro k
  rw [getLsbD_shiftNibble, h, h, h]
  by_cases hlow : k < 5
  · have hsum : n + (k + 4) = n + 4 + k := by omega
    simp [hlow, hsum, show k + 4 < 9 by omega, show k < 9 by omega]
  by_cases hhigh : k < 9
  · -- one of the new bits, made of two that the register holds
    obtain ⟨i, rfl⟩ : ∃ i, k = i + 5 := ⟨k - 5, by omega⟩
    have hnew : n + 4 + (i + 5) = n + i + 9 := by omega
    have hnear : n + (i + 5) = n + i + 5 := by omega
    rw [hnew, pseudonoise_add_nine, hnear]
    simp [hhigh, show i < 9 by omega]
  · simp [hhigh, show ¬k + 4 < 9 by omega]

theorem Holds.eq (h : Holds seed n reg) (h' : Holds seed m reg')
    (hbits : ∀ k < 9, pseudonoise seed (n + k) = pseudonoise seed (m + k)) : reg = reg' := by
  refine UInt16.toBitVec_inj.mp (BitVec.eq_of_getLsbD_eq fun k _ => ?_)
  rw [h, h']
  by_cases hk : k < 9
  · rw [hbits k hk]
  · simp [hk]

/-- The mask of a byte is what the generator makes next. -/
theorem Holds.getMsbD_mask (h : Holds seed n reg) {j : Nat} (hj : j < 8) :
    (whiteningMask (Fsk.shiftNibble reg)
        (Fsk.shiftNibble (Fsk.shiftNibble reg))).toBitVec.getMsbD j =
      pseudonoise seed (n + 9 + j) := by
  rw [getMsbD_whiteningMask _ _ hj, h.shiftNibble, h.shiftNibble.shiftNibble]
  split
  · simp [show j + 5 < 9 by omega, show n + 4 + (j + 5) = n + 9 + j by omega]
  · simp [show j + 1 < 9 by omega, show n + 4 + 4 + (j + 1) = n + 9 + j by omega]

theorem Holds.lt (h : Holds seed n reg) : reg < 512 := by
  refine Nat.lt_pow_two_of_testBit (n := 9) reg.toNat fun k hk => ?_
  have hbit : reg.toBitVec.getLsbD k = _ := h k
  rwa [decide_eq_false (Nat.not_lt.mpr hk), Bool.false_and] at hbit

end Holds

/-! ## The masks -/

/-- The register after one more byte. -/
def shiftByte (reg : UInt16) : UInt16 := shiftNibble (shiftNibble reg)

/-- The mask of byte `i`. -/
def mask (seed : UInt16) (i : Nat) : UInt8 :=
  let reg := shiftByte^[i] seed
  whiteningMask (shiftNibble reg) (shiftByte reg)

/-- Every byte is whitened with its mask. -/
theorem whiten_eq_mapIdx (seed : UInt16) (data : List UInt8) :
    whiten seed data = data.mapIdx fun i b => b ^^^ mask seed i := by
  induction data generalizing seed with
  | nil => rfl
  | cons b rest ih =>
    rw [List.mapIdx_cons, whiten]
    exact congrArg _ (ih _)

section Masks
variable {seed : UInt16} (hseed : seed < 512)
include hseed

theorem holds_iterate (i : Nat) : Holds seed (8 * i) (shiftByte^[i] seed) := by
  induction i with
  | zero => exact holds_seed hseed
  | succ i ih =>
    rw [Function.iterate_succ_apply']
    exact ih.shiftNibble.shiftNibble

theorem getMsbD_mask (i : Nat) {j : Nat} (hj : j < 8) :
    (mask seed i).toBitVec.getMsbD j = pseudonoise seed (9 + 8 * i + j) := by
  have hmask := (holds_iterate hseed i).getMsbD_mask hj
  rwa [Nat.add_comm (8 * i) 9] at hmask

end Masks

/-! ## The period -/

section Period

open Function

variable {seed : UInt16}

/-- The register with nothing but its first bit set is back after 511 bytes, and not before. -/
theorem minimalPeriod_one : minimalPeriod shiftByte 1 = 511 := by
  have hback : IsPeriodicPt shiftByte (7 * 73) 1 := by decide +kernel
  have hseven : ¬IsPeriodicPt shiftByte 7 1 := by decide +kernel
  have hlong : ¬IsPeriodicPt shiftByte 73 1 := by decide +kernel
  -- the period divides the product of two primes, but neither of them
  obtain ⟨a, b, ha, hb, hperiod⟩ := Nat.dvd_mul.mp hback.minimalPeriod_dvd
  rw [isPeriodicPt_iff_minimalPeriod_dvd, ← hperiod] at hseven hlong
  rcases (Nat.dvd_prime (by norm_num)).mp ha with rfl | rfl
  · exact absurd (by simpa using hb) hlong
  rcases (Nat.dvd_prime (by norm_num)).mp hb with rfl | rfl
  · exact absurd (by simp) hseven
  · exact hperiod.symm

theorem mem_periodicPts_one : (1 : UInt16) ∈ periodicPts shiftByte :=
  minimalPeriod_pos_iff_mem_periodicPts.mp (by rw [minimalPeriod_one]; decide)

/-- On its way it never is empty: an empty register stays so. -/
theorem iterate_one_ne_zero (i : Nat) : shiftByte^[i] 1 ≠ 0 := by
  intro hzero
  have hperiod := minimalPeriod_apply_iterate mem_periodicPts_one i
  have hfixed : IsFixedPt shiftByte 0 := by decide
  rw [hzero, minimalPeriod_one, minimalPeriod_eq_one_iff_isFixedPt.mpr hfixed] at hperiod
  cases hperiod

/-- There are as many registers on its way as there are registers at all, but for the empty one. -/
theorem exists_iterate_one (hseed : seed < 512) (hset : seed ≠ 0) :
    ∃ i, shiftByte^[i] 1 = seed := by
  let passed := (Finset.range 511).image fun i => (shiftByte^[i] 1).toNat
  have hsub : passed ⊆ Finset.Ico 1 512 := by
    intro r hr
    obtain ⟨i, -, rfl⟩ := Finset.mem_image.mp hr
    have hpos : (shiftByte^[i] 1).toNat ≠ 0 :=
      fun h => iterate_one_ne_zero i (UInt16.toNat_inj.mp h)
    exact Finset.mem_Ico.mpr ⟨Nat.pos_of_ne_zero hpos, (holds_iterate (by decide) i).lt⟩
  have hcard : passed.card = 511 := by
    refine (Finset.card_image_of_injOn fun i hi j hj h => ?_).trans (Finset.card_range 511)
    refine iterate_injOn_Iio_minimalPeriod (f := shiftByte) (x := 1) ?_ ?_ (UInt16.toNat_inj.mp h)
    · rw [minimalPeriod_one]
      exact Finset.mem_range.mp hi
    · rw [minimalPeriod_one]
      exact Finset.mem_range.mp hj
  have hall : passed = Finset.Ico 1 512 :=
    Finset.eq_of_subset_of_card_le hsub (by rw [hcard, Nat.card_Ico])
  have hmem : seed.toNat ∈ passed := by
    rw [hall]
    exact Finset.mem_Ico.mpr ⟨Nat.pos_of_ne_zero fun h => hset (UInt16.toNat_inj.mp h), hseed⟩
  obtain ⟨i, -, hi⟩ := Finset.mem_image.mp hmem
  exact ⟨i, UInt16.toNat_inj.mp hi⟩

theorem minimalPeriod_shiftByte (hseed : seed < 512) (hset : seed ≠ 0) :
    minimalPeriod shiftByte seed = 511 := by
  obtain ⟨i, rfl⟩ := exists_iterate_one hseed hset
  rw [minimalPeriod_apply_iterate mem_periodicPts_one, minimalPeriod_one]

/-- The generator repeats with the masks, once the seed is through. -/
theorem pseudonoise_add_of_periodic (hseed : seed < 512) {p : Nat} (h : Periodic (mask seed) p)
    {n : Nat} (hn : 9 ≤ n) : pseudonoise seed (n + 8 * p) = pseudonoise seed n := by
  obtain ⟨i, j, hj, rfl⟩ : ∃ i j, j < 8 ∧ n = 9 + 8 * i + j :=
    ⟨(n - 9) / 8, (n - 9) % 8, by omega, by omega⟩
  have hlater : 9 + 8 * i + j + 8 * p = 9 + 8 * (i + p) + j := by omega
  rw [hlater, ← getMsbD_mask hseed _ hj, ← getMsbD_mask hseed _ hj, h i]

/-- The masks repeat exactly with the register. -/
theorem periodic_mask_iff (hseed : seed < 512) (hset : seed ≠ 0) (p : Nat) :
    Periodic (mask seed) p ↔ 511 ∣ p := by
  constructor
  · intro h
    -- two masks show all that the register holds after them
    have hback : shiftByte^[p + 2] seed = shiftByte^[2] seed :=
      (holds_iterate hseed (p + 2)).eq (holds_iterate hseed 2) fun k _ => by
        have hlater : 8 * (p + 2) + k = 8 * 2 + k + 8 * p := by omega
        rw [hlater, pseudonoise_add_of_periodic hseed h (by omega)]
    have hpoint : IsPeriodicPt shiftByte p (shiftByte^[2] seed) := by
      rwa [iterate_add_apply] at hback
    have hmem : seed ∈ periodicPts shiftByte :=
      minimalPeriod_pos_iff_mem_periodicPts.mp (by rw [minimalPeriod_shiftByte hseed hset]; decide)
    rw [← minimalPeriod_shiftByte hseed hset, ← minimalPeriod_apply_iterate hmem 2]
    exact hpoint.minimalPeriod_dvd
  · intro hdvd i
    have hpoint : IsPeriodicPt shiftByte p seed :=
      isPeriodicPt_iff_minimalPeriod_dvd.mpr (by rwa [minimalPeriod_shiftByte hseed hset])
    have hback : shiftByte^[i + p] seed = shiftByte^[i] seed := by
      rw [iterate_add_apply, hpoint]
    rw [mask, mask, hback]

end Period

/-! ## Whitening -/

/-- Bit for bit, whitening adds what the generator makes behind the seed. -/
theorem exists_whitened {seed : UInt16} (hseed : seed < 512) {data : List UInt8} {i : Nat}
    {b : UInt8} (hb : data[i]? = some b) :
    ∃ c, (whiten seed data)[i]? = some c ∧ ∀ j < 8,
      c.toBitVec.getMsbD j = (b.toBitVec.getMsbD j ^^ pseudonoise seed (9 + 8 * i + j)) := by
  refine ⟨b ^^^ mask seed i, ?_, fun j hj => ?_⟩
  · rw [whiten_eq_mapIdx, List.getElem?_mapIdx, hb]
    rfl
  · rw [UInt8.toBitVec_xor, BitVec.getMsbD_xor, getMsbD_mask hseed i hj]

/-- **Whitening adds the bits of the generator to those of the data.** It takes them from the ninth
on, which is the first behind the seed. So it leaves the length as it is, and done twice it leaves
the data as they are. The masks that it adds to the bytes, unless they are all empty, repeat every
511 bytes and no sooner. -/
theorem whitens_with_pseudonoise (seed : UInt16) (hseed : seed < 512) (data : List UInt8) :
    (∀ i b, data[i]? = some b → ∃ c, (whiten seed data)[i]? = some c ∧ ∀ j < 8,
      c.toBitVec.getMsbD j = (b.toBitVec.getMsbD j ^^ pseudonoise seed (9 + 8 * i + j))) ∧
      (whiten seed data).length = data.length ∧
      whiten seed (whiten seed data) = data ∧
      whiten seed data = data.mapIdx (fun i b => b ^^^ mask seed i) ∧
      (seed ≠ 0 → ∀ p, Function.Periodic (mask seed) p ↔ 511 ∣ p) :=
  ⟨fun _ _ => exists_whitened hseed, length_whiten .., whiten_whiten .., whiten_eq_mapIdx ..,
    periodic_mask_iff hseed⟩

/-- The masks of the seed that frames are whitened with. -/
theorem whitens_with_pseudonoise_frame :
    whiteningSeed < 512 ∧ whiteningSeed ≠ 0 ∧
      (∃ c, (whiten whiteningSeed [0x12, 0x34])[1]? = some c ∧ ∀ j < 8, c.toBitVec.getMsbD j =
        ((0x34 : UInt8).toBitVec.getMsbD j ^^ pseudonoise whiteningSeed (17 + j))) ∧
      ∀ p, Function.Periodic (mask whiteningSeed) p ↔ 511 ∣ p := by
  obtain ⟨hbits, -, -, -, hperiod⟩ :=
    whitens_with_pseudonoise whiteningSeed (by decide) [0x12, 0x34]
  exact ⟨by decide, by decide, hbits 1 0x34 rfl, hperiod (by decide)⟩

end Transceiver.Fsk
