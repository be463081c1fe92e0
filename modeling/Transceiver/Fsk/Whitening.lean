/-! Whitening: exclusive or with the output of a nine-bit shift register, four bits at a time. -/

namespace Transceiver.Fsk

/-- The register that whitening of a frame starts from. -/
def whiteningSeed : UInt16 := 0x01FF

/-- The register after four shifts. The four new bits enter at the top. -/
def shiftNibble (reg : UInt16) : UInt16 :=
  (reg >>> 4) ||| ((((reg >>> 5) &&& 0x0F) ^^^ (reg &&& 0x0F)) <<< 5)

/-- The byte with its bits in the opposite order. -/
def reverseBits (b : UInt8) : UInt8 := ⟨b.toBitVec.reverse⟩

/-- The mask of one byte, from the registers after four shifts and after eight. -/
def whiteningMask (half full : UInt16) : UInt8 :=
  reverseBits (((half >>> 5) &&& 0x0F).toUInt8 ||| ((full >>> 1) &&& 0xF0).toUInt8)

/-- The data whitened from the register `reg`. Whitening twice restores the data. -/
def whiten (reg : UInt16) : List UInt8 → List UInt8
  | [] => []
  | b :: rest =>
    let half := shiftNibble reg
    let full := shiftNibble half
    (b ^^^ whiteningMask half full) :: whiten full rest

@[simp] theorem length_whiten (reg : UInt16) (data : List UInt8) :
    (whiten reg data).length = data.length := by
  induction data generalizing reg with
  | nil => rfl
  | cons b rest ih => simp [whiten, ih]

theorem whiten_whiten (reg : UInt16) (data : List UInt8) :
    whiten reg (whiten reg data) = data := by
  induction data generalizing reg with
  | nil => rfl
  | cons b rest ih => simp only [whiten, ih, UInt8.xor_assoc, UInt8.xor_self, UInt8.xor_zero]

end Transceiver.Fsk
