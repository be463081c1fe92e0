import Transceiver.BigEndian
import Transceiver.Chip
import Transceiver.Lora.Encoding

/-! The bytes that a chip answers with, and what they say. -/

namespace Transceiver.Bus

/-- An answer of `n` bytes. -/
abbrev Answer (n : Nat) := Vector UInt8 n

namespace Answer

/-- The single byte of an answer. -/
def byte (a : Answer 1) : UInt8 := a[0]

/-- The word in two bytes. -/
def word16 (a : Answer 2) : UInt16 := BigEndian.word16 a[0] a[1]

/-- The word in four bytes. -/
def word32 (a : Answer 4) : UInt32 := BigEndian.word32 a[0] a[1] a[2] a[3]

/-- Length and place of the last reception. -/
def rxBufferStatus (a : Answer 2) : RxBufferStatus := ⟨a[0], a[1]⟩

/-- Quality of a LoRa packet, where `rssi` reads an RSSI byte. -/
def loraQuality (rssi : UInt8 → Int16) (a : Answer 3) : Lora.RawQuality :=
  ⟨rssi a[0], Lora.snrOfQuarters a[1], rssi a[2]⟩

/-- Quality of an FSK packet, where `rssi` reads an RSSI byte. The first byte says nothing about
the quality, nor does what follows the third. -/
def fskQuality {n : Nat} (rssi : UInt8 → Int16) (a : Answer (n + 3)) : Fsk.RawQuality :=
  ⟨rssi a[1], rssi a[2]⟩

/-- The payload checksum flag in the information on the last LoRa header. -/
def loraCrcFlag {n : Nat} (a : Answer (n + 1)) : Bool := a[0] &&& 0x10 != 0

theorem bytes16_word16 (a : Answer 2) : BigEndian.bytes16 a.word16 = a.toList := by
  rw [word16, BigEndian.bytes16_word16]
  refine List.ext_getElem (by simp) fun k hk _ => ?_
  obtain rfl | rfl : k = 0 ∨ k = 1 := by simp at hk; omega
  · rfl
  · rfl

theorem bytes32_word32 (a : Answer 4) : BigEndian.bytes32 a.word32 = a.toList := by
  rw [word32, BigEndian.bytes32_word32]
  refine List.ext_getElem (by simp) fun k hk _ => ?_
  obtain rfl | rfl | rfl | rfl : k = 0 ∨ k = 1 ∨ k = 2 ∨ k = 3 := by simp at hk; omega
  all_goals rfl

end Answer

end Transceiver.Bus
