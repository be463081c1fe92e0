/-! Words as bytes and bytes as bits, most significant first. -/

namespace Transceiver.BigEndian

/-- The bits of a byte. -/
def bits (b : UInt8) : List Bool := List.ofFn fun i : Fin 8 => b.toBitVec.getMsb i

/-- The two bytes of a word. -/
def bytes16 (w : UInt16) : List UInt8 := [(w >>> 8).toUInt8, w.toUInt8]

/-- The low three bytes of a word. -/
def bytes24 (w : UInt32) : List UInt8 :=
  [(w >>> 16).toUInt8, (w >>> 8).toUInt8, w.toUInt8]

/-- The four bytes of a word. -/
def bytes32 (w : UInt32) : List UInt8 := (w >>> 24).toUInt8 :: bytes24 w

/-- The word of two bytes. -/
def word16 (hi lo : UInt8) : UInt16 := hi.toUInt16 <<< 8 ||| lo.toUInt16

/-- The word of four bytes. -/
def word32 (b₃ b₂ b₁ b₀ : UInt8) : UInt32 :=
  b₃.toUInt32 <<< 24 ||| b₂.toUInt32 <<< 16 ||| b₁.toUInt32 <<< 8 ||| b₀.toUInt32

/-- The number that bytes spell. -/
def value (bytes : List UInt8) : Nat := bytes.foldl (fun n b => n * 256 + b.toNat) 0

@[simp] theorem length_bits (b : UInt8) : (bits b).length = 8 := by simp [bits]

@[simp] theorem length_bytes16 (w : UInt16) : (bytes16 w).length = 2 := rfl

@[simp] theorem length_bytes24 (w : UInt32) : (bytes24 w).length = 3 := rfl

@[simp] theorem length_bytes32 (w : UInt32) : (bytes32 w).length = 4 := rfl

theorem value_bytes16 (w : UInt16) : value (bytes16 w) = w.toNat := by
  have hw : w.toNat < 2 ^ 16 := w.toNat_lt
  have hhi : (w >>> 8).toUInt8.toNat = w.toNat / 256 % 256 := by
    rw [UInt16.toNat_toUInt8, UInt16.toNat_shiftRight, Nat.shiftRight_eq_div_pow]
    rfl
  have hlo : w.toUInt8.toNat = w.toNat % 256 := UInt16.toNat_toUInt8 w
  simp only [value, bytes16, List.foldl_cons, List.foldl_nil, hhi, hlo]
  omega

theorem value_bytes24 (w : UInt32) : value (bytes24 w) = w.toNat % 0x1000000 := by
  have hhi : (w >>> 16).toUInt8.toNat = w.toNat / 65536 % 256 := by
    rw [UInt32.toNat_toUInt8, UInt32.toNat_shiftRight, Nat.shiftRight_eq_div_pow]
    rfl
  have hmid : (w >>> 8).toUInt8.toNat = w.toNat / 256 % 256 := by
    rw [UInt32.toNat_toUInt8, UInt32.toNat_shiftRight, Nat.shiftRight_eq_div_pow]
    rfl
  have hlo : w.toUInt8.toNat = w.toNat % 256 := UInt32.toNat_toUInt8 w
  simp only [value, bytes24, List.foldl_cons, List.foldl_nil, hhi, hmid, hlo]
  omega

theorem value_bytes32 (w : UInt32) : value (bytes32 w) = w.toNat := by
  have hw : w.toNat < 2 ^ 32 := w.toNat_lt
  have htop : (w >>> 24).toUInt8.toNat = w.toNat / 0x1000000 % 256 := by
    rw [UInt32.toNat_toUInt8, UInt32.toNat_shiftRight, Nat.shiftRight_eq_div_pow]
    rfl
  have hcons : value (bytes32 w) = (w >>> 24).toUInt8.toNat * 0x1000000 + value (bytes24 w) := by
    simp only [value, bytes32, bytes24, List.foldl_cons, List.foldl_nil]
    omega
  rw [hcons, htop, value_bytes24]
  omega

/-- A byte that is put below a number adds to it. -/
theorem shiftLeft_or_byte (n : Nat) (b : UInt8) : n <<< 8 ||| b.toNat = n * 256 + b.toNat := by
  rw [← Nat.shiftLeft_add_eq_or_of_lt b.toNat_lt, Nat.shiftLeft_eq]

theorem toNat_word16 (hi lo : UInt8) : (word16 hi lo).toNat = value [hi, lo] := by
  have hhi : hi.toNat < 2 ^ 8 := hi.toNat_lt
  have hshift : (hi.toUInt16 <<< 8).toNat = hi.toNat <<< 8 := by
    rw [UInt16.toNat_shiftLeft, UInt8.toNat_toUInt16, Nat.shiftLeft_eq, Nat.shiftLeft_eq]
    exact Nat.mod_eq_of_lt (show hi.toNat * 2 ^ 8 < 2 ^ 16 by omega)
  rw [word16, UInt16.toNat_or, hshift, UInt8.toNat_toUInt16, shiftLeft_or_byte]
  simp [value]

theorem toNat_word32 (b₃ b₂ b₁ b₀ : UInt8) :
    (word32 b₃ b₂ b₁ b₀).toNat = value [b₃, b₂, b₁, b₀] := by
  have shifted (b : UInt8) (k : UInt32) (n : Nat) (hk : k.toNat % 32 = n) (hn : n ≤ 24) :
      (b.toUInt32 <<< k).toNat = b.toNat <<< n := by
    have hb : b.toNat < 2 ^ 8 := b.toNat_lt
    have hlt : b.toNat <<< n < 2 ^ 32 := by
      rw [Nat.shiftLeft_eq]
      calc b.toNat * 2 ^ n < 2 ^ 8 * 2 ^ n := Nat.mul_lt_mul_of_pos_right hb (Nat.two_pow_pos n)
        _ ≤ 2 ^ 8 * 2 ^ 24 := Nat.mul_le_mul_left _ (Nat.pow_le_pow_right (by decide) hn)
        _ = 2 ^ 32 := rfl
    rw [UInt32.toNat_shiftLeft, UInt8.toNat_toUInt32, hk, Nat.mod_eq_of_lt hlt]
  have horner : b₃.toNat <<< 24 ||| b₂.toNat <<< 16 ||| b₁.toNat <<< 8 ||| b₀.toNat =
      ((b₃.toNat <<< 8 ||| b₂.toNat) <<< 8 ||| b₁.toNat) <<< 8 ||| b₀.toNat := by
    simp only [Nat.shiftLeft_or_distrib, ← Nat.shiftLeft_add]
  rw [word32, UInt32.toNat_or, UInt32.toNat_or, UInt32.toNat_or, shifted b₃ 24 24 rfl (by decide),
    shifted b₂ 16 16 rfl (by decide), shifted b₁ 8 8 rfl (by decide), UInt8.toNat_toUInt32, horner,
    shiftLeft_or_byte, shiftLeft_or_byte, shiftLeft_or_byte]
  simp [value]

/-- As many bytes that spell the same number are the same. -/
theorem eq_of_value_eq {xs ys : List UInt8} (hlength : xs.length = ys.length)
    (h : value xs = value ys) : xs = ys := by
  suffices hfrom : ∀ n m : Nat, xs.foldl (fun n b => n * 256 + b.toNat) n =
      ys.foldl (fun n b => n * 256 + b.toNat) m → n = m ∧ xs = ys from (hfrom 0 0 h).2
  clear h
  induction xs generalizing ys with
  | nil =>
    obtain rfl := List.length_eq_zero_iff.mp hlength.symm
    exact fun n m h => ⟨h, rfl⟩
  | cons a xs ih =>
    cases ys with
    | nil => cases hlength
    | cons b ys =>
      intro n m h
      obtain ⟨hnumber, rfl⟩ := ih (Nat.succ.inj hlength) _ _ h
      have hnumber : n * 256 + a.toNat = m * 256 + b.toNat := hnumber
      have ha : a.toNat < 256 := a.toNat_lt
      have hb : b.toNat < 256 := b.toNat_lt
      obtain rfl : a = b := UInt8.toNat_inj.mp (by omega)
      exact ⟨by omega, rfl⟩

theorem bytes16_word16 (hi lo : UInt8) : bytes16 (word16 hi lo) = [hi, lo] :=
  eq_of_value_eq rfl ((value_bytes16 _).trans (toNat_word16 hi lo))

theorem word16_bytes16 (w : UInt16) : word16 (w >>> 8).toUInt8 w.toUInt8 = w :=
  UInt16.toNat_inj.mp ((toNat_word16 ..).trans (value_bytes16 w))

theorem bytes32_word32 (b₃ b₂ b₁ b₀ : UInt8) :
    bytes32 (word32 b₃ b₂ b₁ b₀) = [b₃, b₂, b₁, b₀] :=
  eq_of_value_eq rfl ((value_bytes32 _).trans (toNat_word32 b₃ b₂ b₁ b₀))

end Transceiver.BigEndian
