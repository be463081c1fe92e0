import Transceiver.Proofs.CyclicCode
import Transceiver.Proofs.FrameImage

/-! Errors on the way of an FSK frame. A receiver takes the whitening off and compares the check that
it finds with that of the payload that it finds. Bits that were flipped behind the header go
unnoticed exactly if they are a word of the cyclic code of the check, whatever the payload is and
whether it is whitened or not; the zeros that a short payload is padded with are never flipped. -/

namespace Transceiver.Fsk

/-- The data with the bits flipped that are set in the noise. -/
def corrupt (data noise : List UInt8) : List UInt8 := List.zipWith (· ^^^ ·) data noise

theorem length_corrupt {data noise : List UInt8} (h : noise.length = data.length) :
    (corrupt data noise).length = data.length := by
  simp [corrupt, h]

theorem corrupt_append {data noise data' noise' : List UInt8} (h : noise.length = data.length) :
    corrupt (data ++ data') (noise ++ noise') = corrupt data noise ++ corrupt data' noise' :=
  List.zipWith_append h.symm

theorem whiten_corrupt (reg : UInt16) {data noise : List UInt8} (h : noise.length = data.length) :
    whiten reg (corrupt data noise) = corrupt (whiten reg data) noise := by
  induction data generalizing reg noise with
  | nil => rfl
  | cons b data ih =>
    obtain _ | ⟨c, noise⟩ := noise
    · cases h
    simp only [corrupt, List.zipWith_cons_cons, whiten] at ih ⊢
    rw [ih _ (Nat.succ_inj.mp h), UInt8.xor_assoc, UInt8.xor_comm c, ← UInt8.xor_assoc]

theorem Header.plain_corrupt (h : Header) {data noise : List UInt8}
    (hlength : noise.length = data.length) :
    h.plain (corrupt data noise) = corrupt (h.plain data) noise := by
  rw [plain, plain]
  split
  · exact whiten_corrupt _ hlength
  · rfl

/-! ## The codes of the checks -/

namespace Fcs

/-- The cyclic code of a check. -/
def cyclicCode : (fcs : Fcs) → CyclicCode (8 * fcs.length)
  | .crc32 => .bzip2
  | .crc16 => .xmodem

/-- The zeros that a check takes into account behind a payload of `n` bytes. -/
def padding : Fcs → Nat → List UInt8
  | .crc32, n => .replicate (4 - n) 0
  | .crc16, _ => []

variable (fcs : Fcs)

theorem odd_generator : fcs.cyclicCode.generator.getLsbD 0 = true := by
  cases fcs <;> rfl

/-- No two bits of a frame that are flipped can make up for each other. -/
theorem hasPeriod : fcs.cyclicCode.HasPeriod (8 * (maxFrameLength - headerLength)) := by
  -- the periods are far longer, but no longer frame exists: the register is run that far
  cases fcs with
  | crc32 => exact CyclicCode.hasPeriod_of_avoidsTop (by decide +kernel)
  | crc16 => exact CyclicCode.hasPeriod_of_avoidsTop (by decide +kernel)

theorem corrupt_padding (n : Nat) :
    corrupt (fcs.padding n) (fcs.padding n) = fcs.padding n := by
  cases fcs with
  | crc32 => simp [padding, corrupt]
  | crc16 => rfl

/-- The bits of the check of some data. -/
def checkBits (data : List UInt8) : BitVec (8 * fcs.length) :=
  fcs.cyclicCode.checksum (data ++ fcs.padding data.length)

/-- What a register that starts empty is left with by an error and the zeros behind it. -/
def syndrome (noise : List UInt8) : BitVec (8 * fcs.length) :=
  fcs.cyclicCode.feed 0#_ ((noise ++ fcs.padding noise.length).flatMap BigEndian.bits)

theorem flatMap_bits_checkBytes {data : List UInt8} (h : data ≠ []) :
    (fcs.checkBytes data).flatMap BigEndian.bits = bitList (fcs.checkBits data) := by
  cases fcs with
  | crc32 =>
    rw [checkBytes, Fsk.crc32, if_neg (by simpa using h)]
    exact flatMap_bits_bytes32 _
  | crc16 =>
    rw [checkBits, padding, List.append_nil]
    exact flatMap_bits_bytes16 _

/-- An error changes the check by what an empty register is left with. -/
theorem checkBits_corrupt {data noise : List UInt8} (h : noise.length = data.length) :
    fcs.checkBits (corrupt data noise) = fcs.checkBits data ^^^ fcs.syndrome noise := by
  have hpadded : corrupt data noise ++ fcs.padding data.length =
      corrupt (data ++ fcs.padding data.length) (noise ++ fcs.padding data.length) := by
    rw [corrupt_append h, corrupt_padding]
  rw [checkBits, length_corrupt h, hpadded, checkBits, syndrome, h]
  exact CyclicCode.checksum_xor (by rw [List.length_append, List.length_append, h])

/-- The bits that are flipped behind a header, as the check of a payload of `n` bytes reads them. -/
def flips (n : Nat) (noise : List UInt8) : List Bool :=
  (noise.take n ++ fcs.padding n ++ noise.drop n).flatMap BigEndian.bits

end Fcs

/-! ## What goes unnoticed -/

section Syndrome
variable {fcs : Fcs} {payload noise : List UInt8}

/-- A payload and its check still agree exactly if the bits that were flipped in them are a word of
the code. -/
theorem checkBytes_corrupt_iff {front back : List UInt8} (hpayload : payload ≠ [])
    (hfront : front.length = payload.length) (hback : back.length = fcs.length) :
    corrupt (fcs.checkBytes payload) back = fcs.checkBytes (corrupt payload front) ↔
      fcs.cyclicCode.feed 0#_ ((front ++ fcs.padding payload.length ++ back).flatMap
        BigEndian.bits) = 0#_ := by
  have hcorrupt : corrupt payload front ≠ [] := by
    apply List.ne_nil_of_length_pos
    rw [length_corrupt hfront]
    exact List.length_pos_iff.mpr hpayload
  have hcheck : back.length = (fcs.checkBytes payload).length := by
    rw [hback, Fcs.length_checkBytes]
  have hlength : (corrupt (fcs.checkBytes payload) back).length =
      (fcs.checkBytes (corrupt payload front)).length := by
    rw [length_corrupt hcheck, Fcs.length_checkBytes, Fcs.length_checkBytes]
  obtain ⟨v, hv⟩ : ∃ v : BitVec (8 * fcs.length), bitList v = back.flatMap BigEndian.bits :=
    exists_bitList (by rw [length_flatMap_bits, hback])
  have hbits : (corrupt (fcs.checkBytes payload) back).flatMap BigEndian.bits =
      bitList (fcs.checkBits payload ^^^ v) := by
    rw [corrupt, flatMap_bits_xor hcheck.symm, fcs.flatMap_bits_checkBytes hpayload, ← hv,
      bitList_xor]
  calc corrupt (fcs.checkBytes payload) back = fcs.checkBytes (corrupt payload front)
    _ ↔ bitList (fcs.checkBits payload ^^^ v) = bitList (fcs.checkBits (corrupt payload front)) := by
      rw [← hbits, ← fcs.flatMap_bits_checkBytes hcorrupt]
      exact ⟨congrArg _, flatMap_bits_injective hlength⟩
    _ ↔ fcs.checkBits payload ^^^ v = fcs.checkBits (corrupt payload front) :=
      ⟨bitList_injective, congrArg _⟩
    _ ↔ fcs.syndrome front = v := by
      rw [fcs.checkBits_corrupt hfront, BitVec.xor_right_inj, eq_comm]
    _ ↔ fcs.cyclicCode.feed 0#_
        ((front ++ fcs.padding payload.length ++ back).flatMap BigEndian.bits) = 0#_ := by
      rw [List.flatMap_append, CyclicCode.feed_append, ← hv,
        CyclicCode.feed_bitList_eq_zero_iff fcs.odd_generator, Fcs.syndrome, hfront]

/-- **What a receiver notices.** Bits that are flipped behind the header of a frame are noticed
exactly if they are no word of the code of the check. -/
theorem FrameOptions.badCrc_iff (o : FrameOptions) (n : Nat) (hpayload : payload ≠ [])
    (hnoise : noise.length = payload.length + o.fcs.length) :
    ((o.headerFor n).check (corrupt (o.encode payload) noise)).outcome = .error .badCrc ↔
      o.fcs.cyclicCode.feed 0#_ (o.fcs.flips payload.length noise) ≠ 0#_ := by
  have hlength : (corrupt (o.encode payload) noise).length = payload.length + o.fcs.length := by
    rw [length_corrupt (by rw [hnoise, o.length_encode]), o.length_encode]
  have hlong : o.fcs.length < (corrupt (o.encode payload) noise).length := by
    have hpos := List.length_pos_iff.mpr hpayload
    omega
  have hfront : (noise.take payload.length).length = payload.length := by
    rw [List.length_take]
    omega
  have hback : (noise.drop payload.length).length = o.fcs.length := by
    rw [List.length_drop]
    omega
  have hplain : (o.headerFor n).plain (corrupt (o.encode payload) noise) =
      corrupt payload (noise.take payload.length) ++
        corrupt (o.fcs.checkBytes payload) (noise.drop payload.length) := by
    rw [Header.plain_corrupt _ (by rw [hnoise, o.length_encode]), Header.plain,
      o.unwhiten_encode, ← corrupt_append hfront, List.take_append_drop]
  rw [Header.check_of_long (o.fcs?_headerFor n) hlong, hlength, Nat.add_sub_cancel, hplain,
    List.drop_left' (length_corrupt hfront), List.take_left' (length_corrupt hfront), Fcs.flips, Ne,
    ← checkBytes_corrupt_iff hpayload hfront hback]
  split <;> simp [*]

end Syndrome

/-! ## What never goes unnoticed -/

namespace Fcs

/-- Flipped bits behind the header of a payload of `n` bytes that its check is made for: one or two
of them anywhere, or any number within a window as long as the check. A window may run over the
zeros that pad a payload, so such a payload is left out. -/
def Detects (fcs : Fcs) (n : Nat) (flips : List Bool) : Prop :=
  true ∈ flips ∧
    (flips.count true ≤ 2 ∨
      CyclicCode.IsBurst (8 * fcs.length) flips ∧ (fcs = .crc32 → 4 ≤ n))

section Detects
variable {fcs : Fcs} {n : Nat} {noise : List UInt8}

theorem padding_eq_nil (h : fcs = .crc32 → 4 ≤ n) : fcs.padding n = [] := by
  cases fcs with
  | crc32 => rw [padding, Nat.sub_eq_zero_of_le (h rfl), List.replicate_zero]
  | crc16 => rfl

theorem flips_of_padding_eq_nil (h : fcs.padding n = []) :
    fcs.flips n noise = noise.flatMap BigEndian.bits := by
  rw [flips, h, List.append_nil, List.take_append_drop]

theorem count_flips :
    (fcs.flips n noise).count true = (noise.flatMap BigEndian.bits).count true := by
  have hpadding : ((fcs.padding n).flatMap BigEndian.bits).count true = 0 := by
    cases fcs with
    | crc32 => simp [padding, flatMap_bits_zeros, List.count_replicate]
    | crc16 => rfl
  have hjoin := congrArg (List.flatMap BigEndian.bits) (List.take_append_drop n noise)
  rw [List.flatMap_append] at hjoin
  rw [flips, List.flatMap_append, List.flatMap_append, List.count_append, List.count_append,
    hpadding, Nat.add_zero, ← List.count_append, hjoin]

/-- What a check reads is shorter than the period of its code, with the zeros of the padding. -/
theorem length_flips_le (hmax : n ≤ fcs.maxPayload) (hnoise : noise.length = n + fcs.length) :
    (fcs.flips n noise).length ≤ 8 * (maxFrameLength - headerLength) := by
  have hpadding : n + (fcs.padding n).length + fcs.length ≤ maxFrameLength - headerLength := by
    cases fcs with
    | crc32 =>
      simp only [maxPayload, maxFrameLength, headerLength, length] at hmax ⊢
      simp only [padding, List.length_replicate]
      omega
    | crc16 =>
      simp only [maxPayload, maxFrameLength, headerLength, length] at hmax ⊢
      simp only [padding, List.length_nil]
      omega
  rw [flips, length_flatMap_bits, List.length_append, List.length_append, List.length_take,
    List.length_drop]
  omega

theorem Detects.feed_ne_zero (hmax : n ≤ fcs.maxPayload) (hnoise : noise.length = n + fcs.length)
    (h : fcs.Detects n (noise.flatMap BigEndian.bits)) :
    fcs.cyclicCode.feed 0#_ (fcs.flips n noise) ≠ 0#_ := by
  obtain ⟨hset, hfew | ⟨hburst, hlong⟩⟩ := h
  · refine CyclicCode.feed_few_ne_zero fcs.odd_generator ?_ ?_ fcs.hasPeriod
      (length_flips_le hmax hnoise)
    · rw [← List.count_pos_iff] at hset ⊢
      rwa [count_flips]
    · rwa [count_flips]
  · rw [flips_of_padding_eq_nil (padding_eq_nil hlong)]
    exact CyclicCode.feed_burst_ne_zero fcs.odd_generator hset hburst

end Detects
end Fcs

/-- **A frame that was prepared is not mistaken for another.** Whatever payload, check and whitening
the sender chose, a receiver that finds the header and the bytes behind it with one or two bits
flipped anywhere, or with any flipped within a window as long as the check, tells that the check is
wrong. -/
theorem badCrc_of_prepareTx {buffer : List UInt8} {o : FrameOptions} {p : Packet} {out : Prepared}
    (h : prepareTx buffer o p = .ok out) :
    ∃ header psdu,
      out.buffer.take out.packet.payloadLength.toNat =
        Header.kind header :: header.length :: psdu ∧
      ∀ noise, noise.length = psdu.length →
        o.fcs.Detects p.payloadLength.toNat (noise.flatMap BigEndian.bits) →
        (header.check (corrupt psdu noise)).outcome = .error .badCrc := by
  obtain ⟨payload, hpayload, hlength, hmax, hframe⟩ := prepareTx_inv h
  refine ⟨o.headerFor (payload.length + o.fcs.length), o.encode payload, hframe, ?_⟩
  intro noise hnoise hdetects
  rw [o.length_encode] at hnoise
  rw [← hlength] at hdetects
  exact (o.badCrc_iff _ hpayload hnoise).mpr (hdetects.feed_ne_zero hmax hnoise)

/-- A whitened payload of four bytes with flipped bits in all but the outermost bytes. -/
theorem badCrc_of_prepareTx_burst :
    (Header.check ⟨0x08, 8⟩ (corrupt [14, 114, 176, 107, 197, 80, 128, 156]
      [0, 0, 0x0F, 0xAB, 0xCD, 0xEF, 0x50, 0])).outcome = .error .badCrc := by
  have hburst : Fcs.Detects .crc32 4
      (List.flatMap BigEndian.bits [0, 0, 0x0F, 0xAB, 0xCD, 0xEF, 0x50, 0]) := by
    refine ⟨by decide, .inr ⟨⟨20, (List.flatMap BigEndian.bits [0xFA, 0xBC, 0xDE, 0xF5]), 12, ?_,
      by decide⟩, fun _ => by decide⟩⟩
    decide
  have hframe : ((prepareTx ([1, 2, 3, 4] ++ .replicate 8 0) ⟨.crc32, true, false⟩
      { preambleLength := 8, payloadLength := 4 }).toOption.map
        fun out => out.buffer.take out.packet.payloadLength.toNat) =
      some [8, 8, 14, 114, 176, 107, 197, 80, 128, 156] := by decide +kernel
  cases hout : prepareTx ([1, 2, 3, 4] ++ .replicate 8 0) ⟨.crc32, true, false⟩
      { preambleLength := 8, payloadLength := 4 } with
  | error fault =>
    rw [hout] at hframe
    cases hframe
  | ok out =>
    rw [hout] at hframe
    obtain ⟨⟨kind, length⟩, psdu, hbytes, hnotice⟩ := badCrc_of_prepareTx hout
    have hsent := hbytes.symm.trans (Option.some.inj hframe)
    simp only [List.cons.injEq] at hsent
    obtain ⟨rfl, rfl, rfl⟩ := hsent
    exact hnotice _ rfl hburst

end Transceiver.Fsk
