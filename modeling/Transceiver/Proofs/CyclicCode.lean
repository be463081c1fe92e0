import Mathlib.Data.List.OfFn
import Mathlib.Logic.Function.Iterate
import Transceiver.Fsk.Checksum

/-! Cyclic codes. The register of a code is linear in what it holds and in what it reads, so what an
error does to the check does not depend on the data. Flipped bits go unnoticed exactly if the
register is empty again once it has read them and nothing else. No burst does that which is not
longer than the register, and no two flipped bits whose distance is below the period of the code. -/

namespace Transceiver

/-! ## Bits of vectors -/

/-- The bits of a vector, most significant first. -/
def bitList {w : Nat} (v : BitVec w) : List Bool := List.ofFn fun i : Fin w => v.getMsb i

/-- A bit at the top of a vector that is clear otherwise. -/
def topBit (w : Nat) (bit : Bool) : BitVec w := if bit then BitVec.twoPow w (w - 1) else 0#w

/-- The vector that starts with some bits and is clear after them. -/
def leading (w : Nat) : List Bool → BitVec w
  | [] => 0#w
  | bit :: bits => topBit w bit ^^^ (leading w bits >>> 1)

section Bits
variable {w : Nat}

@[simp] theorem length_bitList (v : BitVec w) : (bitList v).length = w := List.length_ofFn

theorem getElem_bitList (v : BitVec w) {i : Nat} (hi : i < (bitList v).length) :
    (bitList v)[i] = v.getMsbD i := by
  have hw : i < w := by simpa using hi
  simp [bitList, BitVec.getMsb, BitVec.getLsb, BitVec.getMsbD, BitVec.getLsbD, hw]

theorem bitList_xor (u v : BitVec w) :
    bitList (u ^^^ v) = List.zipWith (· ^^ ·) (bitList u) (bitList v) := by
  refine List.ext_getElem (by simp) fun i hi _ => ?_
  simp [getElem_bitList]

theorem bitList_append {m n : Nat} (u : BitVec m) (v : BitVec n) :
    bitList (u ++ v) = bitList u ++ bitList v := by
  refine List.ext_getElem (by simp) fun i _ _ => ?_
  simp only [List.getElem_append, getElem_bitList, length_bitList, BitVec.getMsbD_append]
  by_cases hi : i < m <;> simp [hi]

theorem setWidth_split (v : BitVec w) (m n : Nat) :
    v.setWidth (m + n) = (v >>> n).setWidth m ++ v.setWidth n := by
  refine BitVec.eq_of_getLsbD_eq fun i hi => ?_
  rw [BitVec.getLsbD_append]
  by_cases hlow : i < n
  · simp [hlow, hi]
  · have hhigh : i - n < m := by omega
    have hsum : n + (i - n) = i := by omega
    simp [hlow, hi, hhigh, hsum]

theorem getMsbD_topBit {i : Nat} (hi : i < w) (bit : Bool) :
    (topBit w bit).getMsbD i = (bit && decide (i = 0)) := by
  cases bit with
  | false => simp [topBit]
  | true =>
    have hw : w - 1 < w := by omega
    have htop : w - (w - 1) - 1 = 0 := by omega
    simp [topBit, BitVec.getMsbD_twoPow, hw, htop]

theorem msb_topBit (hw : 0 < w) (bit : Bool) : (topBit w bit).msb = bit := by
  rw [BitVec.msb, getMsbD_topBit hw]
  simp

theorem shiftLeft_topBit (bit : Bool) : topBit w bit <<< 1 = 0#w := by
  refine BitVec.eq_of_getMsbD_eq fun i _ => ?_
  rw [BitVec.getMsbD_shiftLeft]
  by_cases hi : i + 1 < w
  · simp [getMsbD_topBit hi]
  · simp [BitVec.getMsbD_of_ge _ _ (Nat.not_lt.mp hi)]

theorem getMsbD_leading {i : Nat} (hi : i < w) (bits : List Bool) :
    (leading w bits).getMsbD i = bits[i]?.getD false := by
  induction bits generalizing i with
  | nil => simp [leading]
  | cons bit bits ih =>
    rw [leading, BitVec.getMsbD_xor, getMsbD_topBit hi, BitVec.getMsbD_ushiftRight]
    cases i with
    | zero => simp
    | succ i => simp [hi, ih (Nat.lt_of_succ_lt hi)]

theorem leading_bitList (v : BitVec w) : leading w (bitList v) = v := by
  refine BitVec.eq_of_getMsbD_eq fun i hi => ?_
  have hlength : i < (bitList v).length := by simpa using hi
  rw [getMsbD_leading hi, List.getElem?_eq_getElem hlength, getElem_bitList, Option.getD_some]

theorem exists_bitList {bits : List Bool} (h : bits.length = w) :
    ∃ v : BitVec w, bitList v = bits := by
  refine ⟨leading w bits, List.ext_getElem (by simp [h]) fun i hi hbits => ?_⟩
  rw [getElem_bitList, getMsbD_leading (h ▸ hbits), List.getElem?_eq_getElem hbits,
    Option.getD_some]

theorem bitList_injective {u v : BitVec w} (h : bitList u = bitList v) : u = v := by
  rw [← leading_bitList u, h, leading_bitList]

theorem shiftLeft_leading {bits : List Bool} (h : bits.length < w) :
    (leading w bits >>> 1) <<< 1 = leading w bits := by
  refine BitVec.eq_of_getMsbD_eq fun i hi => ?_
  rw [BitVec.getMsbD_shiftLeft, BitVec.getMsbD_ushiftRight]
  by_cases hlast : i + 1 < w
  · simp [hlast]
  · -- the bits end before the last position, so nothing is lost there
    have hend : bits.length ≤ i := by omega
    simp [hlast, getMsbD_leading hi, hend]

/-- A clear vector starts with clear bits only. -/
theorem not_mem_of_leading {bits : List Bool} (hlength : bits.length ≤ w)
    (h : leading w bits = 0#w) : true ∉ bits := by
  intro hset
  obtain ⟨i, hi, hbit⟩ := List.getElem_of_mem hset
  have hclear := getMsbD_leading (Nat.lt_of_lt_of_le hi hlength) bits
  rw [h, List.getElem?_eq_getElem hi, hbit] at hclear
  simp at hclear

end Bits

/-! ## Bits of bytes -/

theorem flatMap_bits_xor {data noise : List UInt8} (h : data.length = noise.length) :
    (List.zipWith (· ^^^ ·) data noise).flatMap BigEndian.bits =
      List.zipWith (· ^^ ·) (data.flatMap BigEndian.bits) (noise.flatMap BigEndian.bits) := by
  induction data generalizing noise with
  | nil => rfl
  | cons b data ih =>
    obtain _ | ⟨c, noise⟩ := noise
    · cases h
    have hhead : BigEndian.bits (b ^^^ c) =
        List.zipWith (· ^^ ·) (BigEndian.bits b) (BigEndian.bits c) := bitList_xor ..
    simp only [List.zipWith_cons_cons, List.flatMap_cons, hhead, ih (Nat.succ_inj.mp h)]
    exact (List.zipWith_append (by simp)).symm

theorem length_flatMap_bits (data : List UInt8) :
    (data.flatMap BigEndian.bits).length = 8 * data.length := by
  induction data with
  | nil => rfl
  | cons b data ih =>
    rw [List.flatMap_cons, List.length_append, ih, BigEndian.length_bits, List.length_cons]
    omega

theorem flatMap_bits_injective {data data' : List UInt8} (hlength : data.length = data'.length)
    (h : data.flatMap BigEndian.bits = data'.flatMap BigEndian.bits) : data = data' := by
  induction data generalizing data' with
  | nil => exact (List.eq_nil_of_length_eq_zero hlength.symm).symm
  | cons b data ih =>
    obtain _ | ⟨c, data'⟩ := data'
    · cases hlength
    obtain ⟨hhead, htail⟩ := List.append_inj h (by simp)
    have hbits : b.toBitVec = c.toBitVec := bitList_injective hhead
    rw [UInt8.toBitVec_inj.mp hbits, ih (Nat.succ_inj.mp hlength) htail]

theorem flatMap_bits_zeros (n : Nat) :
    (List.replicate n (0 : UInt8)).flatMap BigEndian.bits = .replicate (n * 8) false := by
  have hzero : BigEndian.bits 0 = .replicate 8 false := rfl
  rw [List.flatMap_replicate, hzero, List.flatten_replicate_replicate]

theorem flatMap_bits_bytes16 (v : BitVec 16) :
    (BigEndian.bytes16 ⟨v⟩).flatMap BigEndian.bits = bitList v := by
  have hsplit : v = (v >>> 8).setWidth 8 ++ v.setWidth 8 :=
    (BitVec.setWidth_eq v).symm.trans (setWidth_split v 8 8)
  conv => rhs; rw [hsplit, bitList_append]
  rfl

theorem flatMap_bits_bytes32 (v : BitVec 32) :
    (BigEndian.bytes32 ⟨v⟩).flatMap BigEndian.bits = bitList v := by
  have hsplit : v = (v >>> 24).setWidth 8 ++ ((v >>> 16).setWidth 8 ++
      ((v >>> 8).setWidth 8 ++ v.setWidth 8)) :=
    calc v
      _ = v.setWidth (8 + 24) := (BitVec.setWidth_eq v).symm
      _ = (v >>> 24).setWidth 8 ++ v.setWidth (8 + 16) := setWidth_split v 8 24
      _ = (v >>> 24).setWidth 8 ++ ((v >>> 16).setWidth 8 ++ v.setWidth (8 + 8)) := by
        rw [setWidth_split v 8 16]
      _ = (v >>> 24).setWidth 8 ++ ((v >>> 16).setWidth 8 ++
          ((v >>> 8).setWidth 8 ++ v.setWidth 8)) := by
        rw [setWidth_split v 8 8]
  conv => rhs; rw [hsplit, bitList_append, bitList_append, bitList_append]
  rfl

/-! ## Clear bits -/

theorem exists_clear_append {bits : List Bool} (h : true ∈ bits) :
    ∃ n rest, bits = List.replicate n false ++ true :: rest := by
  obtain ⟨front, rest, rfl, hfront⟩ := List.eq_append_cons_of_mem h
  refine ⟨front.length, rest, ?_⟩
  rw [← List.eq_replicate_of_mem fun bit hbit => ?_]
  cases bit with
  | false => rfl
  | true => exact absurd hbit hfront

theorem eq_clear {bits : List Bool} (h : true ∉ bits) :
    bits = List.replicate bits.length false := by
  refine List.eq_replicate_of_mem fun bit hbit => ?_
  cases bit with
  | false => rfl
  | true => exact absurd hbit h

namespace Fsk.CyclicCode

variable {w : Nat} {code : CyclicCode w} {a b reg : BitVec w}

/-! ## The register -/

/-- The register after a clear bit. -/
def shift (code : CyclicCode w) (reg : BitVec w) : BitVec w := code.shiftIn reg false

/-- The register after some bits. -/
def feed (code : CyclicCode w) (reg : BitVec w) (bits : List Bool) : BitVec w :=
  bits.foldl code.shiftIn reg

theorem shift_eq (reg : BitVec w) :
    code.shift reg = reg <<< 1 ^^^ if reg.msb then code.generator else 0#w := by
  rw [shift, shiftIn, Bool.xor_false]
  split <;> simp

theorem shift_xor : code.shift (a ^^^ b) = code.shift a ^^^ code.shift b := by
  have hcarry : (if (a.msb ^^ b.msb) then code.generator else 0#w) =
      (if a.msb then code.generator else 0#w) ^^^ if b.msb then code.generator else 0#w := by
    cases a.msb <;> cases b.msb <;> simp
  rw [shift_eq, shift_eq, shift_eq, BitVec.shiftLeft_xor_distrib, BitVec.msb_xor, hcarry]
  ac_rfl

theorem iterate_shift_zero (n : Nat) : code.shift^[n] 0#w = 0#w :=
  Function.iterate_fixed (by simp [shift_eq]) n

theorem shiftIn_xor {bit flip : Bool} :
    code.shiftIn (a ^^^ b) (bit ^^ flip) = code.shiftIn a bit ^^^ code.shiftIn b flip := by
  have read (reg : BitVec w) (bit : Bool) :
      code.shiftIn reg bit = code.shift reg ^^^ if bit then code.generator else 0#w := by
    rw [shift_eq, shiftIn]
    cases bit with
    | false => cases reg.msb <;> simp
    | true =>
      cases reg.msb with
      | false => simp
      | true =>
        -- The carry and the bit cancel out.
        have hcancel : reg <<< 1 ^^^ code.generator ^^^ code.generator = reg <<< 1 := by
          rw [BitVec.xor_assoc, BitVec.xor_self, BitVec.xor_zero]
        exact hcancel.symm
  have hread : (if (bit ^^ flip) then code.generator else 0#w) =
      (if bit then code.generator else 0#w) ^^^ if flip then code.generator else 0#w := by
    cases bit <;> cases flip <;> simp
  rw [read, read, read, shift_xor, hread]
  ac_rfl

/-- A bit is read as if the top of the register held it too. -/
theorem shiftIn_eq (hw : 0 < w) (reg : BitVec w) (bit : Bool) :
    code.shiftIn reg bit = code.shift (reg ^^^ topBit w bit) := by
  rw [shift_eq, BitVec.shiftLeft_xor_distrib, shiftLeft_topBit, BitVec.msb_xor,
    msb_topBit hw, shiftIn]
  split <;> simp

theorem shift_leading {bits : List Bool} (h : bits.length < w) :
    code.shift (leading w bits >>> 1) = leading w bits := by
  have hmsb : (leading w bits >>> 1).msb = false := by simp [BitVec.msb]
  rw [shift_eq, hmsb, shiftLeft_leading h]
  simp

section Odd
-- the generator has a last term, so that nothing is lost where the register is shifted
variable (hodd : code.generator.getLsbD 0 = true)
include hodd

theorem shift_eq_zero (h : code.shift reg = 0#w) : reg = 0#w := by
  rw [shift_eq] at h
  -- only the generator could have set the last bit
  have hmsb : reg.msb = false := by
    have hlast := congrArg (·.getLsbD 0) h
    cases hmsb : reg.msb with
    | false => rfl
    | true => simp [hmsb, hodd] at hlast
  refine BitVec.eq_of_getMsbD_eq fun i _ => ?_
  cases i with
  | zero => simpa [BitVec.msb] using hmsb
  | succ i =>
    have hnext := congrArg (·.getMsbD i) h
    simpa [hmsb] using hnext

theorem iterate_shift_eq_zero_iff (n : Nat) : code.shift^[n] reg = 0#w ↔ reg = 0#w := by
  constructor
  · intro h
    induction n generalizing reg with
    | zero => exact h
    | succ n ih => exact shift_eq_zero hodd (ih h)
  · rintro rfl
    exact iterate_shift_zero n

end Odd

/-! ## What the register reads -/

theorem feed_append (reg : BitVec w) (bits more : List Bool) :
    code.feed reg (bits ++ more) = code.feed (code.feed reg bits) more := List.foldl_append

theorem feed_clear (reg : BitVec w) (n : Nat) :
    code.feed reg (.replicate n false) = code.shift^[n] reg := by
  induction n generalizing reg with
  | zero => rfl
  | succ n ih => exact ih (code.shift reg)

theorem feed_set (hw : 0 < w) (reg : BitVec w) (bits : List Bool) :
    code.feed reg (true :: bits) = code.feed (code.shift (reg ^^^ topBit w true)) bits := by
  rw [← shiftIn_eq hw]
  rfl

/-- What a register leaves of a sum is the sum of what is left of both. -/
theorem feed_xor {bits flips : List Bool} (h : bits.length = flips.length) :
    code.feed (a ^^^ b) (List.zipWith (· ^^ ·) bits flips) =
      code.feed a bits ^^^ code.feed b flips := by
  induction bits generalizing flips a b with
  | nil =>
    rw [List.eq_nil_of_length_eq_zero h.symm]
    rfl
  | cons bit bits ih =>
    obtain _ | ⟨flip, flips⟩ := flips
    · cases h
    calc code.feed (code.shiftIn (a ^^^ b) (bit ^^ flip)) (List.zipWith (· ^^ ·) bits flips)
      _ = code.feed (code.shiftIn a bit ^^^ code.shiftIn b flip)
          (List.zipWith (· ^^ ·) bits flips) := by rw [shiftIn_xor]
      _ = code.feed (code.shiftIn a bit) bits ^^^ code.feed (code.shiftIn b flip) flips :=
        ih (Nat.succ_inj.mp h)

/-- As many bits as the register holds are read as if it held them too. -/
theorem feed_eq {bits : List Bool} (h : bits.length ≤ w) (reg : BitVec w) :
    code.feed reg bits = code.shift^[bits.length] (reg ^^^ leading w bits) := by
  induction bits generalizing reg with
  | nil => simp [feed, leading]
  | cons bit bits ih =>
    have hlt : bits.length < w := h
    -- the first bit is at the top, and the others wait behind it
    calc code.feed reg (bit :: bits)
      _ = code.feed (code.shift (reg ^^^ topBit w bit)) bits := by
        rw [← shiftIn_eq (Nat.zero_lt_of_lt hlt)]
        rfl
      _ = code.shift^[bits.length] (code.shift (reg ^^^ topBit w bit) ^^^ leading w bits) :=
        ih (Nat.le_of_lt hlt) _
      _ = code.shift^[bits.length] (code.shift (reg ^^^ leading w (bit :: bits))) := by
        rw [leading, ← BitVec.xor_assoc, shift_xor (b := leading w bits >>> 1),
          shift_leading hlt]

/-! ## Errors -/

/-- The flipped bits lie within `n` consecutive ones. -/
def IsBurst (n : Nat) (flips : List Bool) : Prop :=
  ∃ before window after, flips =
    List.replicate before false ++ window ++ List.replicate after false ∧ window.length ≤ n

/-- A bit that is shifted out of the top of the register takes `n` shifts at least to come back. -/
def HasPeriod (code : CyclicCode w) (n : Nat) : Prop :=
  ∀ d, 0 < d → d < n → code.shift^[d] (topBit w true) ≠ topBit w true

section Errors
variable (hodd : code.generator.getLsbD 0 = true) {flips : List Bool}
include hodd

/-- A register is left empty by what it holds itself, and by nothing else of its length. -/
theorem feed_bitList_eq_zero_iff {v : BitVec w} : code.feed reg (bitList v) = 0#w ↔ reg = v := by
  rw [feed_eq (by simp), iterate_shift_eq_zero_iff hodd, leading_bitList]
  exact BitVec.xor_eq_zero_iff

theorem feed_window_eq_zero_iff {before after : Nat} {window : List Bool} :
    code.feed 0#w (.replicate before false ++ window ++ .replicate after false) = 0#w ↔
      code.feed 0#w window = 0#w := by
  rw [feed_append, feed_append, feed_clear, feed_clear, iterate_shift_zero,
    iterate_shift_eq_zero_iff hodd]

theorem feed_burst_ne_zero (hset : true ∈ flips) (h : IsBurst w flips) :
    code.feed 0#w flips ≠ 0#w := by
  obtain ⟨before, window, after, rfl, hlength⟩ := h
  have hwindow : true ∈ window := by simpa using hset
  rw [Ne, feed_window_eq_zero_iff hodd, feed_eq hlength, iterate_shift_eq_zero_iff hodd,
    BitVec.zero_xor]
  exact fun hzero => not_mem_of_leading hlength hzero hwindow

/-- Two set bits leave something in an empty register if their distance is below the period. -/
theorem feed_pair_ne_zero {n before between after : Nat} (hperiod : code.HasPeriod n)
    (hbetween : between + 1 < n) :
    code.feed 0#w (.replicate before false ++ true :: (.replicate between false ++
      true :: .replicate after false)) ≠ 0#w := by
  have hw : 0 < w := BitVec.lt_of_getLsbD hodd
  -- The first bit has moved on by the time the second is set, and no shift brings them together.
  have hreg : code.feed 0#w (.replicate before false ++ true :: (.replicate between false ++
      true :: .replicate after false)) =
      code.shift^[after + 1] (code.shift^[between + 1] (topBit w true) ^^^ topBit w true) := by
    rw [feed_append, feed_clear, iterate_shift_zero, feed_set hw, BitVec.zero_xor, feed_append,
      feed_clear, feed_set hw, feed_clear]
    rfl
  rw [hreg, Ne, iterate_shift_eq_zero_iff hodd, BitVec.xor_eq_zero_iff]
  exact hperiod _ (Nat.succ_pos _) hbetween

/-- So do one or two set bits anywhere in what is shorter than the period. -/
theorem feed_few_ne_zero {n : Nat} (hset : true ∈ flips) (hfew : flips.count true ≤ 2)
    (hperiod : code.HasPeriod n) (hlength : flips.length ≤ n) : code.feed 0#w flips ≠ 0#w := by
  obtain ⟨before, rest, rfl⟩ := exists_clear_append hset
  by_cases hmore : true ∈ rest
  · obtain ⟨between, rest, rfl⟩ := exists_clear_append hmore
    have hlast : rest.count true = 0 := by simpa [List.count_replicate] using hfew
    rw [eq_clear (List.count_eq_zero.mp hlast)] at hlength ⊢
    refine feed_pair_ne_zero hodd hperiod ?_
    simp only [List.length_append, List.length_cons, List.length_replicate] at hlength
    omega
  · have hw : 1 ≤ w := BitVec.lt_of_getLsbD hodd
    refine feed_burst_ne_zero hodd hset ⟨before, [true], rest.length, ?_, hw⟩
    rw [← eq_clear hmore, List.append_assoc]
    rfl

end Errors

/-! ## Checksums -/

/-- An error changes the checksum as if it were read by an empty register. -/
theorem checksum_xor {data noise : List UInt8} (h : data.length = noise.length) :
    code.checksum (List.zipWith (· ^^^ ·) data noise) =
      code.checksum data ^^^ code.feed 0#w (noise.flatMap BigEndian.bits) := by
  have hbits : (data.flatMap BigEndian.bits).length = (noise.flatMap BigEndian.bits).length := by
    rw [length_flatMap_bits, length_flatMap_bits, h]
  have hfeed : code.feed (code.start ^^^ 0#w) _ = code.feed code.start _ ^^^ code.feed 0#w _ :=
    feed_xor hbits
  rw [BitVec.xor_zero] at hfeed
  rw [checksum, flatMap_bits_xor h]
  refine (congrArg (· ^^^ code.final) hfeed).trans ?_
  rw [checksum]
  ac_rfl

theorem checksum_zeros (hstart : code.start = 0#w) (n : Nat) :
    code.checksum (.replicate n 0) = code.final := by
  have hfeed : code.feed code.start (.replicate (n * 8) false) = 0#w := by
    rw [hstart, feed_clear, iterate_shift_zero]
  rw [checksum, flatMap_bits_zeros]
  exact (congrArg (· ^^^ code.final) hfeed).trans BitVec.zero_xor

/-! ## Periods -/

/-- In the next `n` shifts the register is never clear but for its top. -/
def avoidsTop (code : CyclicCode w) : (n : Nat) → (reg : BitVec w) → Bool
  | 0, _ => true
  | n + 1, reg => reg != topBit w true && avoidsTop code n (code.shift reg)

theorem iterate_shift_ne_topBit {n : Nat} (h : code.avoidsTop n reg = true) {d : Nat} (hd : d < n) :
    code.shift^[d] reg ≠ topBit w true := by
  induction n generalizing reg d with
  | zero => omega
  | succ n ih =>
    obtain ⟨hreg, hrest⟩ := Bool.and_eq_true_iff.mp h
    cases d with
    | zero => exact ne_of_apply_ne id (bne_iff_ne.mp hreg)
    | succ d => exact ih hrest (Nat.lt_of_succ_lt_succ hd)

theorem hasPeriod_of_avoidsTop {n : Nat}
    (h : code.avoidsTop n (code.shift (topBit w true)) = true) : code.HasPeriod (n + 1) := by
  intro d hpos hd
  obtain ⟨d, rfl⟩ := Nat.exists_eq_succ_of_ne_zero (Nat.ne_of_gt hpos)
  exact iterate_shift_ne_topBit h (Nat.lt_of_succ_lt_succ hd)

end Fsk.CyclicCode

end Transceiver
