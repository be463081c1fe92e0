import Mathlib.Algebra.Order.Floor.Div
import Transceiver.Proofs.Transfer

/-! The bits of an FSK packet. The time on air counts them by rules of its own, and the chip is told
about them by others: it sends one byte of preamble more than was counted, and what a byte or a word
of its arguments cannot hold is cut off. -/

namespace Transceiver

namespace Fsk

namespace Packet

variable (p : Packet)

/-- Bits behind the sync word: header, address, payload and checksum. -/
def bodyBits : Nat :=
  8 * p.variableLength.toNat + 8 * p.addressFilter.toNat + 8 * p.payloadLength.toNat
    + 16 * p.crcOn.toNat

/-- Bits that the time on air counts. -/
def countedBits : Nat :=
  (preambleBits p.preambleLength).toNat + 8 * p.syncWordLength.toNat + p.bodyBits

/-- Bits that the chip is told to send. -/
def programmedBits : Nat :=
  (octuple16 p.preambleLength).toNat + (octuple8 p.syncWordLength).toNat + p.bodyBits

end Packet

/-- Bits of the packet that is laid out by these arguments of the command. -/
def packetBits? : List UInt8 → Option Nat
  | [hi, lo, _, sync, filter, header, length, checksum, _] =>
    some (BigEndian.value [hi, lo] + sync.toNat + ((if header = 0 then 0 else 8)
      + (if filter = 0 then 0 else 8) + 8 * length.toNat + if checksum = 0x06 then 16 else 0))
  | _ => none

theorem packetBits?_encode (p : Packet) : packetBits? p.encode = some p.programmedBits := by
  have hpreamble := BigEndian.value_bytes16 (octuple16 p.preambleLength)
  cases hheader : p.variableLength <;> cases hfilter : p.addressFilter <;>
    cases hchecksum : p.crcOn <;>
    simp [Packet.encode, packetBits?, BigEndian.bytes16, Packet.programmedBits, Packet.bodyBits,
      hheader, hfilter, hchecksum, Bool.toUInt8] at hpreamble ⊢ <;>
    omega

theorem toNat_octuple16 (n : UInt16) : (octuple16 n).toNat = min (8 * n.toNat) 65535 := by
  unfold octuple16
  split <;> rename_i h
  · have h : n.toNat * 8 < 65536 := h
    have hmul : (n * 8).toNat = n.toNat * 8 % 65536 := UInt16.toNat_mul n 8
    omega
  · have h : ¬n.toNat * 8 < 65536 := h
    have hcut : UInt16.toNat 0xFFFF = 65535 := rfl
    omega

theorem toNat_octuple8 (n : UInt8) : (octuple8 n).toNat = min (8 * n.toNat) 255 := by
  unfold octuple8
  split <;> rename_i h
  · have h : n.toNat * 8 < 256 := h
    have hmul : (n * 8).toNat = n.toNat * 8 % 256 := UInt8.toNat_mul n 8
    omega
  · have h : ¬n.toNat * 8 < 256 := h
    have hcut : UInt8.toNat 0xFF = 255 := rfl
    omega

theorem toNat_preambleBits (n : UInt16) :
    (preambleBits n).toNat = 8 * (n.toNat - 1) % 65536 := by
  unfold preambleBits
  split <;> rename_i h
  · have h : 1 < n.toNat := h
    have hsub : (n - 1).toNat = n.toNat - 1 := UInt16.toNat_sub_of_le n 1 (Nat.le_of_lt h)
    have hshift : ((n - 1) <<< 3).toNat = (n - 1).toNat <<< 3 % 65536 := UInt16.toNat_shiftLeft _ _
    rw [hshift, hsub, Nat.shiftLeft_eq]
    omega
  · have h : ¬1 < n.toNat := h
    have hzero : UInt16.toNat 0 = 0 := rfl
    omega

/-- The packet takes as long as sending this many bits does, in milliseconds rounded up. -/
def Takes (m : Modulation) (p : Packet) (bits : Nat) : Prop :=
  ∃ time, timeOnAir m p = .ok time ∧ time.toNat = 1000 * bits ⌈/⌉ m.bitRate.toNat

theorem toNat_ceilDiv64 (a : UInt64) {b : UInt64} (hb : b ≠ 0) :
    (ceilDiv64 a b).toNat = a.toNat ⌈/⌉ b.toNat := by
  have hpos : 0 < b.toNat := Nat.pos_of_ne_zero fun h => hb (UInt64.toNat_inj.mp h)
  have hsplit : b.toNat * (a.toNat / b.toNat) + a.toNat % b.toNat = a.toNat := Nat.div_add_mod _ _
  have hrest : a.toNat % b.toNat < b.toNat := Nat.mod_lt _ hpos
  rw [Nat.ceilDiv_eq_add_pred_div]
  unfold ceilDiv64
  split <;> rename_i h
  · have h : a.toNat % b.toNat = 0 := (UInt64.toNat_mod a b).symm.trans (congrArg UInt64.toNat h)
    have hnum : a.toNat + b.toNat - 1 = b.toNat * (a.toNat / b.toNat) + (b.toNat - 1) := by omega
    have hlast : (b.toNat - 1) / b.toNat = 0 := Nat.div_eq_of_lt (by omega)
    rw [hnum, Nat.mul_add_div hpos, hlast, UInt64.toNat_div, Nat.add_zero]
  · have h : a.toNat % b.toNat ≠ 0 := fun hzero =>
      h (UInt64.toNat_inj.mp ((UInt64.toNat_mod a b).trans hzero))
    have hnum : a.toNat + b.toNat - 1 =
        b.toNat * (a.toNat / b.toNat + 1) + (a.toNat % b.toNat - 1) := by
      rw [Nat.mul_add]
      omega
    have hlast : (a.toNat % b.toNat - 1) / b.toNat = 0 := Nat.div_eq_of_lt (by omega)
    have hsmall : a.toNat / b.toNat + 1 < 2 ^ 64 := by
      have ha : a.toNat < 2 ^ 64 := a.toNat_lt
      have hhalf : a.toNat / b.toNat ≤ a.toNat / 2 := Nat.div_le_div_left (by omega) (by decide)
      omega
    rw [hnum, Nat.mul_add_div hpos, hlast, UInt64.toNat_add, UInt64.toNat_div, UInt64.toNat_one,
      Nat.mod_eq_of_lt hsmall, Nat.add_zero]

theorem bodyBits_le (p : Packet) : p.bodyBits ≤ 2072 := by
  have hlength : p.payloadLength.toNat < 256 := p.payloadLength.toNat_lt
  have hheader := p.variableLength.toNat_le
  have hfilter := p.addressFilter.toNat_le
  have hchecksum := p.crcOn.toNat_le
  unfold Packet.bodyBits
  omega

theorem countedBits_le (p : Packet) : p.countedBits ≤ 69640 := by
  have hpreamble := toNat_preambleBits p.preambleLength
  have hsync : p.syncWordLength.toNat < 256 := p.syncWordLength.toNat_lt
  have hbody := bodyBits_le p
  unfold Packet.countedBits
  omega

/-- Nothing overflows on the way from the parameters to the time. -/
theorem takes_countedBits {m : Modulation} (hm : m.bitRate ≠ 0) (p : Packet) :
    Takes m p p.countedBits := by
  have hle := countedBits_le p
  refine ⟨_, if_neg hm, ?_⟩
  generalize hbits : (preambleBits p.preambleLength).toUInt32 + (if p.variableLength then 8 else 0)
    + p.syncWordLength.toUInt32 * 8 + (p.payloadLength.toUInt32 + p.addressFilter.toUInt32
    + if p.crcOn then 2 else 0) * 8 = bits
  have hbits : bits.toNat = p.countedBits := by
    have hbody := bodyBits_le p
    rw [← hbits]
    unfold Packet.countedBits Packet.bodyBits at hle ⊢
    cases p.variableLength <;> cases p.addressFilter <;> cases p.crcOn <;>
      simp [UInt32.toNat_add, UInt32.toNat_mul, Bool.toUInt32] at hle ⊢ <;> omega
  have hmillis : (1000 * bits.toUInt64).toNat = 1000 * p.countedBits := by
    rw [UInt64.toNat_mul, UInt32.toNat_toUInt64, hbits]
    exact Nat.mod_eq_of_lt (Nat.lt_of_le_of_lt (Nat.mul_le_mul_left 1000 hle) (by decide))
  have hrate : m.bitRate.toUInt64 ≠ 0 := fun h => hm (UInt32.toNat_inj.mp (by
    rw [← UInt32.toNat_toUInt64, h]
    rfl))
  have hpos : 0 < m.bitRate.toNat := Nat.pos_of_ne_zero fun h => hm (UInt32.toNat_inj.mp h)
  have htime : 1000 * p.countedBits ⌈/⌉ m.bitRate.toNat < 2 ^ 32 := by
    have hbound : 1000 * p.countedBits ⌈/⌉ m.bitRate.toNat ≤ 1000 * p.countedBits :=
      (ceilDiv_le_iff_le_mul hpos).mpr (Nat.le_mul_of_pos_left _ hpos)
    omega
  rw [UInt64.toNat_toUInt32, toNat_ceilDiv64 _ hrate, hmillis, UInt32.toNat_toUInt64]
  exact Nat.mod_eq_of_lt htime

theorem countedBits_add_eight {p : Packet} (hpos : p.preambleLength ≠ 0)
    (hfits : p.preambleLength ≤ 8191) (hsync : p.syncWordLength ≤ 31) :
    p.countedBits + 8 = p.programmedBits := by
  have hpos : p.preambleLength.toNat ≠ 0 := fun h => hpos (UInt16.toNat_inj.mp h)
  have hfits : p.preambleLength.toNat ≤ 8191 := hfits
  have hsync : p.syncWordLength.toNat ≤ 31 := hsync
  rw [Packet.countedBits, Packet.programmedBits, toNat_preambleBits, toNat_octuple16,
    toNat_octuple8]
  omega

theorem countedBits_eq_programmedBits_iff {p : Packet} :
    p.countedBits = p.programmedBits ↔ p.preambleLength = 0 ∧ p.syncWordLength ≤ 31 := by
  have hzero : p.preambleLength = 0 ↔ p.preambleLength.toNat = 0 := UInt16.toNat_inj.symm
  have hsync : p.syncWordLength ≤ 31 ↔ p.syncWordLength.toNat ≤ 31 := UInt8.le_iff_toNat_le
  have hlong : p.preambleLength.toNat < 65536 := p.preambleLength.toNat_lt
  rw [hzero, hsync, Packet.countedBits, Packet.programmedBits, toNat_preambleBits, toNat_octuple16,
    toNat_octuple8]
  -- What is missing of a preamble is 8, and 7 above a multiple of 8 once it is cut off; what a sync
  -- word has too much is 1 above one. So the two never make up for each other.
  omega

end Fsk

namespace Bus

/-- Bits of the FSK packet that the chip is told about by a transfer. -/
def Protocol.packetBits? : Protocol → List UInt8 → Option Nat
  | .singleShot, op :: args =>
    if op = Sx126x.Opcode.setPacketParams.byte then Fsk.packetBits? args else none
  | .twoPhase, hi :: lo :: args =>
    if BigEndian.word16 hi lo = Lr11xx.Opcode.setPacketParams.word then Fsk.packetBits? args
    else none
  | _, _ => none

end Bus

namespace Device

open Bus Fsk

variable {σ : Type} (device : Device σ) (p : Packet)

theorem adds_setFskPacket : Adds device.protocol.packetBits? [p.programmedBits]
    (device.recording.chip.perform (.setFskPacket p)) := by
  cases device with
  | sx126x device =>
    have hread : Protocol.singleShot.packetBits?
        (Sx126x.Opcode.setPacketParams.byte :: p.encode) = some p.programmedBits := by
      simp [Protocol.packetBits?, packetBits?_encode]
    exact Adds.write device.bus hread
  | lr11xx device =>
    have hread : Protocol.twoPhase.packetBits?
        (BigEndian.bytes16 Lr11xx.Opcode.setPacketParams.word ++ p.encode) =
          some p.programmedBits := by
      have hword : BigEndian.word16 0x02 0x10 = Lr11xx.Opcode.setPacketParams.word := by decide
      show (if BigEndian.word16 0x02 0x10 = Lr11xx.Opcode.setPacketParams.word then
        Fsk.packetBits? p.encode else none) = some p.programmedBits
      rw [if_pos hword, packetBits?_encode]
    exact Adds.write device.bus hread

/-- The time on air is that of the packet which the chip is told about exactly if there is no
preamble and a byte holds the bits of the sync word. A preamble whose bits a word holds makes it 8
bits too short. -/
theorem timeOnAir_eq_programmed_iff :
    Adds device.protocol.packetBits? [p.programmedBits]
        (device.recording.chip.perform (.setFskPacket p)) ∧
      (p.preambleLength ≠ 0 → p.preambleLength ≤ 8191 → p.syncWordLength ≤ 31 →
        ∀ m : Modulation, m.bitRate ≠ 0 → Takes m p (p.programmedBits - 8)) ∧
      ((∀ m : Modulation, m.bitRate ≠ 0 → Takes m p p.programmedBits) ↔
        p.preambleLength = 0 ∧ p.syncWordLength ≤ 31) := by
  refine ⟨device.adds_setFskPacket p, ?_, ?_⟩
  · intro hpos hfits hsync m hm
    rw [← countedBits_add_eight hpos hfits hsync, Nat.add_sub_cancel]
    exact takes_countedBits hm p
  · rw [← countedBits_eq_programmedBits_iff]
    constructor
    · intro htakes
      -- At one bit per second, no two numbers of bits take the same time.
      let m : Modulation := ⟨1, 0, .bw117300, .off⟩
      have hm : m.bitRate ≠ 0 := by decide
      obtain ⟨time, htime, hprogrammed⟩ := htakes m hm
      obtain ⟨time', htime', hcounted⟩ := takes_countedBits hm p
      cases htime.symm.trans htime'
      have hslow : m.bitRate.toNat = 1 := rfl
      rw [hslow, Nat.ceilDiv_eq_add_pred_div, Nat.div_one] at hprogrammed hcounted
      omega
    · intro hbits m hm
      rw [← hbits]
      exact takes_countedBits hm p

theorem timeOnAir_eq_programmed_iff_bench :
    let p : Packet := { syncWordLength := 3, payloadLength := 18 }
    let m : Modulation := ⟨50000, 25000, .bw156200, .bt1⟩
    Adds Protocol.singleShot.packetBits? [p.programmedBits]
        (Bench.device.recording.chip.perform (.setFskPacket p)) ∧
      p.preambleLength = 0 ∧ p.syncWordLength ≤ 31 ∧ m.bitRate ≠ 0 ∧ Takes m p 168 := by
  intro p m
  obtain ⟨hadds, -, htakes⟩ := timeOnAir_eq_programmed_iff Bench.device p
  have hm : m.bitRate ≠ 0 := by decide
  have hlengths : p.preambleLength = 0 ∧ p.syncWordLength ≤ 31 := by decide
  have hbits : p.programmedBits = 168 := by decide
  exact ⟨hadds, hlengths.1, hlengths.2, hm, hbits ▸ htakes.mpr hlengths m hm⟩

/-- A packet with a preamble of 5 bytes is sent as 208 bits, which take 5 ms at 50 kbit/s; its time
on air is given as 4 ms. -/
theorem preamble_cut_short :
    let p : Packet := { preambleLength := 5, syncWordLength := 3, payloadLength := 18 }
    let m : Modulation := ⟨50000, 25000, .bw156200, .bt1⟩
    let sent := ((Bench.device.recording.chip.perform (.setFskPacket p)).result
      { world := ((), []) }).2.sent
    sent.filterMap Protocol.singleShot.packetBits? = [208] ∧
      1000 * 208 ⌈/⌉ m.bitRate.toNat = 5 ∧ timeOnAir m p = .ok 4 := by
  decide +kernel

end Device

end Transceiver
