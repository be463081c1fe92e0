import Transceiver.Fsk.Frame

/-! FSK frames as a sender prepares them and as a receiver takes them apart. -/

namespace Transceiver.Fsk

namespace FrameOptions

variable (o : FrameOptions) (n : Nat)

/-- The header of a frame, as a receiver takes it. -/
def headerFor : Header := ⟨o.fcs.code <<< 4 ||| o.whitening.toUInt8 <<< 3, UInt8.ofNat n⟩

/-- The frame of a payload. -/
def frame (payload : List UInt8) : List UInt8 :=
  o.header (payload.length + o.fcs.length) ++ o.encode payload

@[simp] theorem fcs?_headerFor : (o.headerFor n).fcs? = some o.fcs := by
  simp only [headerFor, Header.fcs?]
  cases o.fcs <;> cases o.whitening <;> decide

@[simp] theorem whitened_headerFor : (o.headerFor n).whitened = o.whitening := by
  simp only [headerFor, Header.whitened]
  cases o.fcs <;> cases o.whitening <;> decide

@[simp] theorem length_encode (payload : List UInt8) :
    (o.encode payload).length = payload.length + o.fcs.length := by
  simp only [encode]
  split <;> simp

@[simp] theorem length_frame (payload : List UInt8) :
    (o.frame payload).length = headerLength + (payload.length + o.fcs.length) := by
  simp [frame, header, headerLength]
  omega

/-- The receiver takes off the whitening that the sender put on. -/
theorem unwhiten_encode (payload : List UInt8) :
    (if (o.headerFor n).whitened then whiten whiteningSeed (o.encode payload)
      else o.encode payload) = payload ++ o.fcs.checkBytes payload := by
  rw [whitened_headerFor, encode]
  cases o.whitening with
  | true => exact whiten_whiten ..
  | false => rfl

/-- The receiver finds the payload of a frame that was prepared. -/
theorem check_encode {payload : List UInt8} (h : payload ≠ []) :
    (o.headerFor n).check (o.encode payload) =
      ⟨payload ++ o.fcs.checkBytes payload, .ok payload.length⟩ := by
  have hpos : 0 < payload.length := List.length_pos_iff.mpr h
  have hlong : ¬(o.encode payload).length ≤ o.fcs.length := by
    rw [length_encode]
    omega
  rw [Header.check, fcs?_headerFor]
  dsimp only
  rw [if_neg hlong, unwhiten_encode]
  simp

end FrameOptions

section PrepareTx
variable {o : FrameOptions} {p : Packet} {payload room : List UInt8}

/-- A frame with a payload that is not too long fits the chip's buffer. -/
theorem length_frame_lt (hmax : payload.length ≤ o.fcs.maxPayload) :
    (o.frame payload).length < 256 := by
  have hfcs : o.fcs.length ≤ 4 := by cases o.fcs <;> decide
  simp only [Fcs.maxPayload, maxFrameLength, headerLength] at hmax
  simp only [o.length_frame, headerLength]
  omega

/-- A payload that is neither empty nor too long is framed, if there is room behind it. -/
theorem prepareTx_payload (hpreamble : p.preambleLength ≠ 0)
    (hlength : p.payloadLength.toNat = payload.length) (hpayload : payload ≠ [])
    (hmax : payload.length ≤ o.fcs.maxPayload) (hroom : headerLength + o.fcs.length ≤ room.length) :
    prepareTx (payload ++ room) o p = .ok {
      syncWord := syncWord o.fec
      buffer := o.frame payload ++ room.drop (headerLength + o.fcs.length)
      packet := { p with
        syncWordLength := 3
        addressFilter := false
        variableLength := false
        payloadLength := UInt8.ofNat (o.frame payload).length
        crcOn := false
        whitening := false } } := by
  have hpos : payload.length ≠ 0 := mt List.length_eq_zero_iff.mp hpayload
  have hready : ¬(payload ++ room).length < headerLength + (payload.length + o.fcs.length) := by
    rw [List.length_append]
    omega
  have hrest : (payload ++ room).drop (headerLength + (payload.length + o.fcs.length)) =
      room.drop (headerLength + o.fcs.length) := by
    rw [Nat.add_left_comm, ← List.drop_drop, List.drop_left]
  rw [prepareTx, hlength, if_neg (by simp [hpos, hpreamble]), if_neg (by omega), if_neg hready,
    hrest, List.take_left, o.length_frame]
  rfl

/-- What is framed is the start of the buffer, a payload that is neither empty nor too long. -/
theorem prepareTx_inv {buffer : List UInt8} {out : Prepared}
    (h : prepareTx buffer o p = .ok out) :
    ∃ payload, payload ≠ [] ∧ payload.length = p.payloadLength.toNat ∧
      payload.length ≤ o.fcs.maxPayload ∧
      out.buffer.take out.packet.payloadLength.toNat = o.frame payload := by
  have hready : ¬(p.payloadLength.toNat = 0 ∨ p.preambleLength = 0) ∧
      p.payloadLength.toNat ≤ o.fcs.maxPayload ∧
      headerLength + (p.payloadLength.toNat + o.fcs.length) ≤ buffer.length := by
    simp only [prepareTx] at h
    split at h
    · cases h
    · split at h
      · cases h
      · split at h
        · cases h
        · exact ⟨‹_›, Nat.not_lt.mp ‹_›, Nat.not_lt.mp ‹_›⟩
  obtain ⟨hgiven, hmax, hroom⟩ := hready
  obtain ⟨hpos, hpreamble⟩ := not_or.mp hgiven
  have hlength : (buffer.take p.payloadLength.toNat).length = p.payloadLength.toNat := by
    rw [List.length_take]
    omega
  have hpayload : buffer.take p.payloadLength.toNat ≠ [] :=
    List.ne_nil_of_length_pos (hlength.symm ▸ Nat.pos_of_ne_zero hpos)
  rw [← hlength] at hmax
  have hrest : headerLength + o.fcs.length ≤ (buffer.drop p.payloadLength.toNat).length := by
    rw [List.length_drop]
    omega
  have hframe := prepareTx_payload hpreamble hlength.symm hpayload hmax hrest
  rw [List.take_append_drop, h, Except.ok.injEq] at hframe
  refine ⟨_, hpayload, hlength, hmax, ?_⟩
  rw [hframe]
  simp only [UInt8.toNat_ofNat_of_lt' (length_frame_lt hmax), List.take_left]

end PrepareTx

end Transceiver.Fsk
