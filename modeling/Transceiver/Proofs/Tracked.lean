import Mathlib.Algebra.Order.Ring.Int
import Mathlib.Tactic.Zify
import Transceiver.Fault
import Transceiver.Time

/-! Computations in words of a fixed width, followed by the same computations over the integers. A
tracked word carries the number that its formula gives there, and the condition that no step on the
way had a result outside its width, shifted bits out or divided by zero. Where this holds, the word
stands for the number. -/

namespace Transceiver

/-- Words of `width` bits, which stand for the integers from `least` to `greatest`. Where a word can
hold the result of an operation, the operation gives it. -/
class FixedWidth (α : Type) extends Add α, Sub α, Mul α, Div α, Mod α, ShiftLeft α where
  width : Nat
  least : Int
  greatest : Int
  toInt : α → Int
  toInt_add (a b : α) : least ≤ toInt a + toInt b → toInt a + toInt b ≤ greatest →
    toInt (a + b) = toInt a + toInt b
  toInt_sub (a b : α) : least ≤ toInt a - toInt b → toInt a - toInt b ≤ greatest →
    toInt (a - b) = toInt a - toInt b
  toInt_mul (a b : α) : least ≤ toInt a * toInt b → toInt a * toInt b ≤ greatest →
    toInt (a * b) = toInt a * toInt b
  toInt_div (a b : α) : least ≤ (toInt a).tdiv (toInt b) → (toInt a).tdiv (toInt b) ≤ greatest →
    toInt (a / b) = (toInt a).tdiv (toInt b)
  toInt_mod (a b : α) : toInt (a % b) = (toInt a).tmod (toInt b)
  toInt_shiftLeft (a k : α) : 0 ≤ toInt k → toInt k < width →
    least ≤ toInt a * 2 ^ (toInt k).toNat → toInt a * 2 ^ (toInt k).toNat ≤ greatest →
      toInt (a <<< k) = toInt a * 2 ^ (toInt k).toNat

namespace FixedWidth

/-- Unsigned words, whose operations are those of the natural numbers modulo `2 ^ width`. -/
@[reducible] def unsigned {α : Type} [Add α] [Sub α] [Mul α] [Div α] [Mod α] [ShiftLeft α]
    (width : Nat) (toNat : α → Nat) (lt : ∀ a, toNat a < 2 ^ width)
    (add : ∀ a b, toNat (a + b) = (toNat a + toNat b) % 2 ^ width)
    (sub : ∀ a b, toNat (a - b) = (2 ^ width - toNat b + toNat a) % 2 ^ width)
    (mul : ∀ a b, toNat (a * b) = toNat a * toNat b % 2 ^ width)
    (div : ∀ a b, toNat (a / b) = toNat a / toNat b)
    (mod : ∀ a b, toNat (a % b) = toNat a % toNat b)
    (shiftLeft : ∀ a b, toNat (a <<< b) = toNat a <<< (toNat b % width) % 2 ^ width) :
    FixedWidth α where
  width := width
  least := 0
  greatest := 2 ^ width - 1
  toInt a := toNat a
  toInt_add a b _ h := by
    rw [add, Nat.mod_eq_of_lt (by zify; omega), Int.natCast_add]
  toInt_sub a b h _ := by
    have hle : toNat b ≤ toNat a := by omega
    have hlt := lt a
    have hsub : 2 ^ width - toNat b + toNat a = 2 ^ width + (toNat a - toNat b) := by omega
    rw [sub, hsub, Nat.add_mod_left, Nat.mod_eq_of_lt (by omega), Int.ofNat_sub hle]
  toInt_mul a b _ h := by
    rw [mul, Nat.mod_eq_of_lt (by zify; omega), Int.natCast_mul]
  toInt_div a b _ _ := by rw [div, Int.ofNat_tdiv]
  toInt_mod a b := by rw [mod, Int.ofNat_tmod]
  toInt_shiftLeft a k _ hk _ h := by
    rw [Int.toNat_natCast] at h ⊢
    rw [shiftLeft, Nat.mod_eq_of_lt (by omega : toNat k < width), Nat.shiftLeft_eq,
      Nat.mod_eq_of_lt (by zify; omega), Int.natCast_mul, Int.natCast_pow, Int.cast_ofNat_Int]

instance : FixedWidth UInt16 :=
  unsigned 16 UInt16.toNat UInt16.toNat_lt UInt16.toNat_add UInt16.toNat_sub UInt16.toNat_mul
    UInt16.toNat_div UInt16.toNat_mod UInt16.toNat_shiftLeft

instance : FixedWidth UInt32 :=
  unsigned 32 UInt32.toNat UInt32.toNat_lt UInt32.toNat_add UInt32.toNat_sub UInt32.toNat_mul
    UInt32.toNat_div UInt32.toNat_mod UInt32.toNat_shiftLeft

instance : FixedWidth UInt64 :=
  unsigned 64 UInt64.toNat UInt64.toNat_lt UInt64.toNat_add UInt64.toNat_sub UInt64.toNat_mul
    UInt64.toNat_div UInt64.toNat_mod UInt64.toNat_shiftLeft

theorem bmod_of_mem {n : Int} (h : -2 ^ 31 ≤ n) (h' : n ≤ 2 ^ 31 - 1) : n.bmod (2 ^ 32) = n :=
  Int.bmod_eq_of_le_mul_two (by omega) (by omega)

theorem toInt_shiftLeft_int32 (a k : Int32) (hk : 0 ≤ k.toInt) (hk' : k.toInt < 32)
    (h : -2 ^ 31 ≤ a.toInt * 2 ^ k.toInt.toNat) (h' : a.toInt * 2 ^ k.toInt.toNat ≤ 2 ^ 31 - 1) :
    (a <<< k).toInt = a.toInt * 2 ^ k.toInt.toNat := by
  have hamount : (k.toBitVec.smod 32).toInt = k.toInt := by
    rw [BitVec.toInt_smod]
    exact Int.fmod_eq_of_lt hk hk'
  have hamount : (k.toBitVec.smod 32).toNat = k.toInt.toNat := by
    have hsign := BitVec.toInt_eq_toNat_cond (k.toBitVec.smod 32)
    have hlt := (k.toBitVec.smod 32).isLt
    split at hsign <;> omega
  calc (a <<< k).toInt = (a.toBitVec <<< k.toBitVec.smod 32).toInt := by
        rw [← Int32.toBitVec_shiftLeft, Int32.toInt_toBitVec]
    _ = (a.toInt * 2 ^ k.toInt.toNat).bmod (2 ^ 32) := by
        rw [BitVec.shiftLeft_eq', hamount, BitVec.toInt_shiftLeft, Nat.shiftLeft_eq,
          Int.natCast_mul, Int.natCast_pow, Int.cast_ofNat_Int, ← Int.bmod_mul_bmod,
          ← BitVec.toInt_eq_toNat_bmod, Int32.toInt_toBitVec]
    _ = a.toInt * 2 ^ k.toInt.toNat := bmod_of_mem h h'

instance : FixedWidth Int32 where
  width := 32
  least := -2 ^ 31
  greatest := 2 ^ 31 - 1
  toInt := Int32.toInt
  toInt_add a b h h' := by rw [Int32.toInt_add, bmod_of_mem h h']
  toInt_sub a b h h' := by rw [Int32.toInt_sub, bmod_of_mem h h']
  toInt_mul a b h h' := by rw [Int32.toInt_mul, bmod_of_mem h h']
  toInt_div a b h h' := by rw [Int32.toInt_div, bmod_of_mem h h']
  toInt_mod := Int32.toInt_mod
  toInt_shiftLeft := toInt_shiftLeft_int32

/-- A word can hold the number. -/
def Holds (α : Type) [FixedWidth α] (n : Int) : Prop := least α ≤ n ∧ n ≤ greatest α

instance (α : Type) [FixedWidth α] (n : Int) : Decidable (Holds α n) :=
  inferInstanceAs (Decidable (_ ∧ _))

theorem Holds.between {α : Type} [FixedWidth α] {lo n hi : Int} (hlo : Holds α lo)
    (hhi : Holds α hi) (h : lo ≤ n) (h' : n ≤ hi) : Holds α n :=
  ⟨Int.le_trans hlo.1 h, Int.le_trans h' hhi.2⟩

theorem neg_neg_ediv (m : Int) {n : Int} (hn : 0 < n) :
    -(-m / n) = m / n + if n ∣ m then 0 else 1 := by
  rw [Int.neg_ediv, Int.sign_eq_one_of_pos hn]
  split <;> omega

/-- A quotient is rounded up by adding one where there is a remainder. -/
theorem toInt_roundUp {α : Type} [FixedWidth α] [DecidableEq α] [OfNat α 0] [OfNat α 1]
    (hzero : ∀ a : α, a = 0 ↔ toInt a = 0) (hone : toInt (1 : α) = 1) (hleast : least α ≤ 0)
    {a b : α} (ha : 0 ≤ toInt a) (hb : 0 < toInt b) (h : Holds α (-(-toInt a / toInt b))) :
    toInt (if a % b = 0 then a / b else a / b + 1) = -(-toInt a / toInt b) := by
  rw [neg_neg_ediv _ hb] at h ⊢
  have hquotient : 0 ≤ toInt a / toInt b := Int.ediv_nonneg ha hb.le
  have hrest : a % b = 0 ↔ toInt b ∣ toInt a := by
    rw [hzero, toInt_mod, Int.dvd_iff_tmod_eq_zero]
  have hwhole (hle : toInt a / toInt b ≤ greatest α) : toInt (a / b) = toInt a / toInt b := by
    rw [← Int.tdiv_eq_ediv_of_nonneg ha] at hle hquotient ⊢
    exact toInt_div a b (hleast.trans hquotient) hle
  simp only [hrest]
  split <;> rename_i hdvd
  · rw [if_pos hdvd, Int.add_zero] at h
    rw [hwhole h.2, Int.add_zero]
  · rw [if_neg hdvd] at h
    have hwhole : toInt (a / b) = toInt a / toInt b := hwhole (by have := h.2; omega)
    rw [← hwhole, ← hone] at h ⊢
    exact toInt_add _ _ h.1 h.2

end FixedWidth

open FixedWidth

/-- A step of a computation: an operation on words, and the operation on integers that it stands
for. -/
structure Step (α : Type) [FixedWidth α] where
  onWords : α → α → α
  onInts : Int → Int → Int
  Defined : Int → Int → Prop := fun _ _ => True
  toInt_onWords (a b : α) : Defined (toInt a) (toInt b) → Holds α (onInts (toInt a) (toInt b)) →
    toInt (onWords a b) = onInts (toInt a) (toInt b)

/-- A word, the number that the formula for it gives over the integers, and the condition that every
step of the formula is defined and has a result that its width can hold. -/
structure Tracked (α : Type) [FixedWidth α] where
  word : α
  value : Int
  Fits : Prop
  toInt_word : Fits → toInt word = value

namespace Tracked

variable {α β : Type} [FixedWidth α] [FixedWidth β]

/-- A word that the computation starts from. -/
def of (w : α) : Tracked α := ⟨w, toInt w, True, fun _ => rfl⟩

def step (s : Step α) (x y : Tracked α) : Tracked α where
  word := s.onWords x.word y.word
  value := s.onInts x.value y.value
  Fits := x.Fits ∧ y.Fits ∧ s.Defined x.value y.value ∧ Holds α (s.onInts x.value y.value)
  toInt_word h := by
    obtain ⟨hx, hy, hdefined, hholds⟩ := h
    rw [← x.toInt_word hx, ← y.toInt_word hy] at hdefined hholds ⊢
    exact s.toInt_onWords _ _ hdefined hholds

/-- The number in a word of another width. -/
def convert (f : α → β) (h : ∀ a, Holds β (toInt a) → toInt (f a) = toInt a) (x : Tracked α) :
    Tracked β where
  word := f x.word
  value := x.value
  Fits := x.Fits ∧ Holds β x.value
  toInt_word h' := by
    obtain ⟨hx, hholds⟩ := h'
    rw [← x.toInt_word hx] at hholds ⊢
    exact h _ hholds

instance {n : Nat} [OfNat α n] : OfNat (Tracked α) n := ⟨of (OfNat.ofNat n)⟩

def addition : Step α where
  onWords := (· + ·)
  onInts := (· + ·)
  toInt_onWords a b _ h := toInt_add a b h.1 h.2

def subtraction : Step α where
  onWords := (· - ·)
  onInts := (· - ·)
  toInt_onWords a b _ h := toInt_sub a b h.1 h.2

def multiplication : Step α where
  onWords := (· * ·)
  onInts := (· * ·)
  toInt_onWords a b _ h := toInt_mul a b h.1 h.2

def division : Step α where
  onWords := (· / ·)
  onInts := Int.tdiv
  Defined _ n := n ≠ 0
  toInt_onWords a b _ h := toInt_div a b h.1 h.2

def remainder : Step α where
  onWords := (· % ·)
  onInts := Int.tmod
  Defined _ n := n ≠ 0
  toInt_onWords a b _ _ := toInt_mod a b

def shift : Step α where
  onWords := (· <<< ·)
  onInts m n := m * 2 ^ n.toNat
  Defined _ n := 0 ≤ n ∧ n < width α
  toInt_onWords a b hdefined h := toInt_shiftLeft a b hdefined.1 hdefined.2 h.1 h.2

/-- The quotient rounded up. -/
def roundingUp (f : α → α → α) (h : ∀ a b, 0 ≤ toInt a → 0 < toInt b →
    Holds α (-(-toInt a / toInt b)) → toInt (f a b) = -(-toInt a / toInt b)) : Step α where
  onWords := f
  onInts m n := -(-m / n)
  Defined m n := 0 ≤ m ∧ 0 < n
  toInt_onWords a b hdefined := h a b hdefined.1 hdefined.2

instance : Add (Tracked α) := ⟨step addition⟩
instance : Sub (Tracked α) := ⟨step subtraction⟩
instance : Mul (Tracked α) := ⟨step multiplication⟩
instance : Div (Tracked α) := ⟨step division⟩
instance : Mod (Tracked α) := ⟨step remainder⟩
instance : ShiftLeft (Tracked α) := ⟨step shift⟩

def quotientUp32 : Tracked UInt32 → Tracked UInt32 → Tracked UInt32 :=
  step <| roundingUp ceilDiv32 fun _ _ =>
    toInt_roundUp (fun _ => UInt32.toNat_inj.symm.trans Int.natCast_eq_zero.symm) rfl (by decide)

def quotientUp64 : Tracked UInt64 → Tracked UInt64 → Tracked UInt64 :=
  step <| roundingUp ceilDiv64 fun _ _ =>
    toInt_roundUp (fun _ => UInt64.toNat_inj.symm.trans Int.natCast_eq_zero.symm) rfl (by decide)

def extend : Tracked UInt16 → Tracked UInt32 := convert UInt16.toUInt32 fun _ _ => rfl

def widen : Tracked UInt32 → Tracked UInt64 := convert UInt32.toUInt64 fun _ _ => rfl

def narrow : Tracked UInt64 → Tracked UInt32 :=
  convert UInt64.toUInt32 fun a h => by
    have hle : (a.toNat : Int) ≤ 2 ^ 32 - 1 := h.2
    show (a.toUInt32.toNat : Int) = a.toNat
    rw [UInt64.toNat_toUInt32, Nat.mod_eq_of_lt (by omega)]

def unsign : Tracked Int32 → Tracked UInt32 :=
  convert Int32.toUInt32 fun a h => by
    have hle : 0 ≤ a := Int32.le_iff_toInt_le.mpr h.1
    show (a.toUInt32.toNat : Int) = a.toInt
    rw [Int32.toNat_toUInt32_of_le hle]
    exact Int.toNat_of_nonneg h.1

theorem and_not_seven (x : BitVec 32) : x &&& ~~~7#32 = (x >>> 3) <<< 3 := by
  ext i hi
  have hseven : (7#32)[i] = decide (i < 3) := Nat.testBit_two_pow_sub_one 3 i
  rw [BitVec.getElem_and, BitVec.getElem_not, hseven, BitVec.getElem_shiftLeft]
  by_cases h : i < 3
  · simp [h]
  · simp [h, BitVec.getLsbD_eq_getElem, hi, show 3 + (i - 3) = i by omega]

theorem toInt_and_not_seven (w : Int32) : (w &&& ~~~7).toInt = w.toInt / 8 * 8 := by
  have hlt := w.toBitVec.isLt
  have hbits : (w.toBitVec &&& ~~~7#32).toNat = w.toBitVec.toNat / 8 * 8 := by
    rw [and_not_seven, BitVec.toNat_shiftLeft, BitVec.toNat_ushiftRight, Nat.shiftLeft_eq,
      Nat.shiftRight_eq_div_pow]
    omega
  rw [← Int32.toInt_toBitVec, ← Int32.toInt_toBitVec w]
  show (w.toBitVec &&& ~~~7#32).toInt = _
  rw [BitVec.toInt_eq_toNat_cond, BitVec.toInt_eq_toNat_cond, hbits]
  split <;> split <;> omega

/-- A number of bits, rounded down to whole bytes by clearing the last three. -/
def wholeBytes (x : Tracked Int32) : Tracked Int32 where
  word := x.word &&& ~~~7
  value := x.value / 8 * 8
  Fits := x.Fits
  toInt_word h := by
    rw [← x.toInt_word h]
    exact toInt_and_not_seven x.word

/-! ### Comparisons -/

/-- A comparison of words, and the comparison of integers that it stands for. -/
structure Test where
  onWords : Prop
  onInts : Prop
  Fits : Prop
  [decidableOnWords : Decidable onWords]
  [decidableOnInts : Decidable onInts]
  onWords_iff : Fits → (onWords ↔ onInts)

attribute [instance] Test.decidableOnWords Test.decidableOnInts

namespace Test

def le (x y : Tracked Int32) : Test where
  onWords := x.word ≤ y.word
  onInts := x.value ≤ y.value
  Fits := x.Fits ∧ y.Fits
  onWords_iff h := by
    rw [Int32.le_iff_toInt_le, ← x.toInt_word h.1, ← y.toInt_word h.2]
    rfl

def lt (x y : Tracked Int32) : Test where
  onWords := x.word < y.word
  onInts := x.value < y.value
  Fits := x.Fits ∧ y.Fits
  onWords_iff h := by
    rw [Int32.lt_iff_toInt_lt, ← x.toInt_word h.1, ← y.toInt_word h.2]
    rfl

def and (s t : Test) : Test where
  onWords := s.onWords ∧ t.onWords
  onInts := s.onInts ∧ t.onInts
  Fits := s.Fits ∧ t.Fits
  onWords_iff h := and_congr (s.onWords_iff h.1) (t.onWords_iff h.2)

/-- The first number if the comparison holds, and else the second. -/
def choose (t : Test) (x y : Tracked α) : Tracked α where
  word := if t.onWords then x.word else y.word
  value := if t.onInts then x.value else y.value
  Fits := t.Fits ∧ if t.onInts then x.Fits else y.Fits
  toInt_word h := by
    simp only [t.onWords_iff h.1]
    split <;> rename_i hints
    · exact x.toInt_word ((if_pos hints).mp h.2)
    · exact y.toInt_word ((if_neg hints).mp h.2)

end Test

instance : Max (Tracked Int32) := ⟨fun x y => (Test.le x y).choose y x⟩

/-! ### Intervals -/

/-- No step of the computation leaves its width, and the number lies between these two. -/
structure Within (x : Tracked α) (lo hi : Int) : Prop where
  fits : x.Fits
  le_value : lo ≤ x.value
  value_le : x.value ≤ hi

namespace Within

variable {x y : Tracked α} {a b c d lo hi : Int}

protected theorem of {w : α} (h : lo ≤ toInt w) (h' : toInt w ≤ hi) : (of w).Within lo hi :=
  ⟨trivial, h, h'⟩

theorem literal (n : Nat) [OfNat α n] :
    (OfNat.ofNat n : Tracked α).Within (toInt (OfNat.ofNat n : α)) (toInt (OfNat.ofNat n : α)) :=
  .of le_rfl le_rfl

theorem toInt_le (h : x.Within lo hi) : toInt x.word ≤ hi := by
  rw [x.toInt_word h.fits]
  exact h.value_le

theorem mono (h : x.Within a b) (hlo : lo ≤ a) (hhi : b ≤ hi) : x.Within lo hi :=
  ⟨h.fits, hlo.trans h.le_value, h.value_le.trans hhi⟩

theorem from_below (h : x.Within a b) (hlo : lo ≤ x.value) : x.Within lo b :=
  ⟨h.fits, hlo, h.value_le⟩

protected theorem step {s : Step α} (hx : x.Within a b) (hy : y.Within c d) (hlo : Holds α lo)
    (hhi : Holds α hi) (h : ∀ m n, a ≤ m → m ≤ b → c ≤ n → n ≤ d →
      s.Defined m n ∧ lo ≤ s.onInts m n ∧ s.onInts m n ≤ hi) : (step s x y).Within lo hi := by
  obtain ⟨hdefined, hle, hge⟩ := h _ _ hx.le_value hx.value_le hy.le_value hy.value_le
  exact ⟨⟨hx.fits, hy.fits, hdefined, hlo.between hhi hle hge⟩, hle, hge⟩

theorem add (hx : x.Within a b) (hy : y.Within c d)
    (h : Holds α (a + c) ∧ Holds α (b + d)) : (x + y).Within (a + c) (b + d) := by
  refine Within.step hx hy h.1 h.2 fun m n hm hm' hn hn' => ⟨trivial, ?_, ?_⟩
  · exact Int.add_le_add hm hn
  · exact Int.add_le_add hm' hn'

theorem sub (hx : x.Within a b) (hy : y.Within c d)
    (h : Holds α (a - d) ∧ Holds α (b - c)) : (x - y).Within (a - d) (b - c) := by
  refine Within.step hx hy h.1 h.2 fun m n hm hm' hn hn' => ⟨trivial, ?_, ?_⟩
  · exact Int.sub_le_sub hm hn'
  · exact Int.sub_le_sub hm' hn

theorem sub_of_fits {x y : Tracked UInt32} (hx : x.Within a b) (hy : y.Within c d)
    (h : (x - y).Fits) : (x - y).Within 0 (b - c) :=
  have ⟨_, _, _, hnonneg, _⟩ := h
  ⟨h, hnonneg, Int.sub_le_sub hx.value_le hy.le_value⟩

theorem fits_sub_iff {x y : Tracked UInt32} (hx : x.Within a b) (hy : y.Within c d)
    (h : Holds UInt32 (b - c)) : (x - y).Fits ↔ y.value ≤ x.value := by
  constructor
  · rintro ⟨-, -, -, hnonneg, -⟩
    exact Int.le_of_sub_nonneg hnonneg
  · intro hle
    have hnonneg : 0 ≤ x.value - y.value := Int.sub_nonneg_of_le hle
    have hupper : x.value - y.value ≤ b - c := Int.sub_le_sub hx.value_le hy.le_value
    exact ⟨hx.fits, hy.fits, trivial, hnonneg, hupper.trans h.2⟩

theorem mul (hx : x.Within a b) (hy : y.Within c d)
    (h : 0 ≤ a ∧ 0 ≤ c ∧ Holds α (a * c) ∧ Holds α (b * d)) :
    (x * y).Within (a * c) (b * d) := by
  obtain ⟨ha, hc, hlo, hhi⟩ := h
  refine Within.step hx hy hlo hhi fun m n hm hm' hn hn' => ⟨trivial, ?_, ?_⟩
  · exact Int.mul_le_mul hm hn hc (ha.trans hm)
  · exact Int.mul_le_mul hm' hn' (hc.trans hn) (ha.trans (hm.trans hm'))

theorem div (hx : x.Within a b) (hy : y.Within c d)
    (h : 0 ≤ a ∧ 0 < c ∧ Holds α (a / d) ∧ Holds α (b / c)) :
    (x / y).Within (a / d) (b / c) := by
  obtain ⟨ha, hc, hlo, hhi⟩ := h
  refine Within.step hx hy hlo hhi fun m n hm hm' hn hn' => ⟨by show n ≠ 0; omega, ?_⟩
  have hpos : 0 < n := Int.lt_of_lt_of_le hc hn
  show a / d ≤ m.tdiv n ∧ m.tdiv n ≤ b / c
  rw [Int.tdiv_eq_ediv_of_nonneg (ha.trans hm)]
  constructor
  · refine Int.le_ediv_of_mul_le hpos ?_
    calc a / d * n ≤ a / d * d := Int.mul_le_mul_of_nonneg_left hn'
          (Int.ediv_nonneg ha (hpos.le.trans hn'))
      _ ≤ a := Int.ediv_mul_le a (by omega)
      _ ≤ m := hm
  · refine Int.le_ediv_of_mul_le hc ?_
    calc m / n * c ≤ m / n * n := Int.mul_le_mul_of_nonneg_left hn
          (Int.ediv_nonneg (ha.trans hm) hpos.le)
      _ ≤ m := Int.ediv_mul_le m hpos.ne'
      _ ≤ b := hm'

theorem mod (hx : x.Within a b) (hy : y.Within c d)
    (h : 0 ≤ a ∧ 0 < c ∧ Holds α 0 ∧ Holds α (d - 1)) : (x % y).Within 0 (d - 1) := by
  obtain ⟨ha, hc, hlo, hhi⟩ := h
  refine Within.step hx hy hlo hhi fun m n hm hm' hn hn' => ⟨by show n ≠ 0; omega, ?_⟩
  have hn : 0 < n := Int.lt_of_lt_of_le hc hn
  show 0 ≤ m.tmod n ∧ m.tmod n ≤ d - 1
  rw [Int.tmod_eq_emod_of_nonneg (ha.trans hm)]
  have hlt := Int.emod_lt_of_pos m hn
  exact ⟨Int.emod_nonneg m hn.ne', by omega⟩

theorem shiftLeft (hx : x.Within a b) (hy : y.Within c d)
    (h : 0 ≤ a ∧ 0 ≤ c ∧ d < width α ∧ Holds α (a * 2 ^ c.toNat) ∧ Holds α (b * 2 ^ d.toNat)) :
    (x <<< y).Within (a * 2 ^ c.toNat) (b * 2 ^ d.toNat) := by
  obtain ⟨ha, hc, hd, hlo, hhi⟩ := h
  refine Within.step hx hy hlo hhi fun m n hm hm' hn hn' => ⟨⟨by omega, by omega⟩, ?_⟩
  have hpow {k l : Nat} (hkl : k ≤ l) : (2 : Int) ^ k ≤ 2 ^ l :=
    pow_le_pow_right₀ (by decide) hkl
  have hpos (k : Nat) : (0 : Int) ≤ 2 ^ k := Int.pow_nonneg (by decide)
  constructor
  · exact Int.mul_le_mul hm (hpow (Int.toNat_le_toNat hn)) (hpos _) (ha.trans hm)
  · exact Int.mul_le_mul hm' (hpow (Int.toNat_le_toNat hn')) (hpos _) (ha.trans (hm.trans hm'))

theorem roundUp {f : α → α → α} {hf} (hx : x.Within a b) (hy : y.Within c d)
    (h : 0 ≤ a ∧ 0 < c ∧ Holds α 0 ∧ Holds α (-(-b / c))) :
    (Tracked.step (roundingUp f hf) x y).Within 0 (-(-b / c)) := by
  obtain ⟨ha, hc, hlo, hhi⟩ := h
  refine Within.step hx hy hlo hhi fun m n hm hm' hn hn' => ?_
  have hn : 0 < n := Int.lt_of_lt_of_le hc hn
  have hm : 0 ≤ m := ha.trans hm
  have hneg {k l : Int} (hk : 0 ≤ k) (hl : 0 < l) : -k / l ≤ 0 :=
    Int.ediv_le_of_le_mul hl (by omega)
  refine ⟨⟨hm, hn⟩, Int.neg_nonneg_of_nonpos (hneg hm hn), Int.neg_le_neg ?_⟩
  refine Int.le_ediv_of_mul_le hn ?_
  calc -b / c * n ≤ -b / c * c := Int.mul_le_mul_of_nonpos_left (hneg (hm.trans hm') hc) ‹c ≤ n›
    _ ≤ -b := Int.ediv_mul_le _ hc.ne'
    _ ≤ -m := Int.neg_le_neg hm'

theorem convert {f : α → β} {hf : ∀ a, Holds β (toInt a) → toInt (f a) = toInt a}
    (hx : x.Within a b) (h : Holds β a ∧ Holds β b) : (convert f hf x).Within a b :=
  ⟨⟨hx.fits, h.1.between h.2 hx.le_value hx.value_le⟩, hx.le_value, hx.value_le⟩

theorem extend {x : Tracked UInt16} (hx : x.Within a b)
    (h : Holds UInt32 a ∧ Holds UInt32 b) : x.extend.Within a b := hx.convert h

theorem widen {x : Tracked UInt32} (hx : x.Within a b)
    (h : Holds UInt64 a ∧ Holds UInt64 b) : x.widen.Within a b := hx.convert h

theorem narrow {x : Tracked UInt64} (hx : x.Within a b)
    (h : Holds UInt32 a ∧ Holds UInt32 b) : x.narrow.Within a b := hx.convert h

theorem unsign {x : Tracked Int32} (hx : x.Within a b)
    (h : Holds UInt32 a ∧ Holds UInt32 b) : x.unsign.Within a b := hx.convert h

theorem choose {t : Test} (ht : t.Fits) (hx : t.onInts → x.Within lo hi)
    (hy : ¬t.onInts → y.Within lo hi) : (t.choose x y).Within lo hi := by
  by_cases h : t.onInts
  · have hvalue : (t.choose x y).value = x.value := if_pos h
    refine ⟨⟨ht, (if_pos h).mpr (hx h).fits⟩, ?_, ?_⟩
    · exact hvalue ▸ (hx h).le_value
    · exact hvalue ▸ (hx h).value_le
  · have hvalue : (t.choose x y).value = y.value := if_neg h
    refine ⟨⟨ht, (if_neg h).mpr (hy h).fits⟩, ?_, ?_⟩
    · exact hvalue ▸ (hy h).le_value
    · exact hvalue ▸ (hy h).value_le

protected theorem max {x y : Tracked Int32} (hx : x.Within a b) (hy : y.Within c d) :
    (max x y).Within (max a c) (max b d) := by
  refine choose ⟨hx.fits, hy.fits⟩ (fun h => ⟨hy.fits, ?_, ?_⟩) fun h => ⟨hx.fits, ?_, ?_⟩
  · exact max_le (hx.le_value.trans h) hy.le_value
  · exact hy.value_le.trans (le_max_right b d)
  · exact max_le hx.le_value (hy.le_value.trans (le_of_not_ge h))
  · exact hx.value_le.trans (le_max_left b d)

theorem wholeBytes {x : Tracked Int32} (hx : x.Within a b) :
    x.wholeBytes.Within (a / 8 * 8) (b / 8 * 8) := by
  obtain ⟨hfits, hlo, hhi⟩ := hx
  refine ⟨hfits, ?_, ?_⟩
  · show _ ≤ x.value / 8 * 8
    omega
  · show x.value / 8 * 8 ≤ _
    omega

end Within

end Tracked

theorem exists_of_bind_eq_ok {α β : Type} {x : Except Fault α} {f : α → Except Fault β} {b : β}
    (h : (x >>= f) = .ok b) : ∃ a, x = .ok a ∧ f a = .ok b := by
  cases x with
  | error e => cases h
  | ok a => exact ⟨a, rfl, h⟩

section
variable {α : Type} [FixedWidth α]

/-- Wherever the computation gives a word, no step of its formula leaves its width or divides by
zero, and the word stands for what the formula gives over the integers. -/
def Exact (r : Except Fault α) (formula : Except Fault (Tracked α)) : Prop :=
  ∀ w, r = .ok w → ∃ x, formula = .ok x ∧ x.word = w ∧ x.Fits ∧ toInt w = x.value

theorem exact_iff {r : Except Fault α} {formula : Except Fault (Tracked α)}
    (h : formula.map Tracked.word = r) : Exact r formula ↔ ∀ x, formula = .ok x → x.Fits := by
  subst h
  constructor
  · intro hexact x hx
    obtain ⟨y, hy, -, hfits, -⟩ := hexact x.word (congrArg (Except.map Tracked.word) hx)
    cases hx.symm.trans hy
    exact hfits
  · intro hfits w hw
    cases hx : formula with
    | error e => rw [hx] at hw; cases hw
    | ok x =>
      rw [hx] at hw
      cases hw
      exact ⟨x, rfl, rfl, hfits x hx, x.toInt_word (hfits x hx)⟩

theorem exact_ok_iff {x : Tracked α} : Exact (.ok x.word) (.ok x) ↔ x.Fits := by
  refine (exact_iff (r := .ok x.word) rfl).trans ⟨fun hfits => hfits x rfl, ?_⟩
  rintro hfits y ⟨⟩
  exact hfits

end

end Transceiver
