import Transceiver.Proofs.Frame

/-! What a receiver accepts is what a sender writes: the decoder of a frame is exact on all byte
strings, not only on those that were sent. -/

namespace Transceiver.Fsk

namespace Fcs

/-- A check is told by its number. -/
theorem ofCode?_eq_some_iff {code : UInt8} {fcs : Fcs} :
    ofCode? code = some fcs ↔ code = fcs.code := by
  constructor
  · intro h
    simp only [ofCode?] at h
    split at h <;> cases h <;> rfl
  · rintro rfl
    exact ofCode?_code fcs

/-- The numbers above one stand for no check. -/
theorem ofCode?_eq_none_iff {code : UInt8} : ofCode? code = none ↔ 1 < code := by
  constructor
  · intro h
    simp only [ofCode?] at h
    split at h
    · cases h
    · cases h
    · next hzero hone =>
      have hzero : code.toNat ≠ 0 := fun h => hzero (UInt8.toNat_inj.mp h)
      have hone : code.toNat ≠ 1 := fun h => hone (UInt8.toNat_inj.mp h)
      have hlt : 1 < code.toNat := by omega
      exact UInt8.lt_iff_toNat_lt.mpr hlt
  · intro h
    simp only [ofCode?]
    split
    · exact absurd h (by decide)
    · exact absurd h (by decide)
    · rfl

end Fcs

namespace Header
variable {h : Header} {fcs : Fcs} {psdu payload : List UInt8}

theorem fcs?_eq_some_iff : h.fcs? = some fcs ↔ h.kind >>> 4 = fcs.code :=
  Fcs.ofCode?_eq_some_iff

theorem fcs?_eq_none_iff : h.fcs? = none ↔ (1 : UInt8) < h.kind >>> 4 :=
  Fcs.ofCode?_eq_none_iff

/-- A sender that follows a header writes its kind, with the three unused bits clear. -/
theorem kind_headerFor (hfcs : h.fcs? = some fcs) (fec : Bool) (n : Nat) :
    (FrameOptions.headerFor ⟨fcs, h.whitened, fec⟩ n).kind = h.kind &&& 0xF8 := by
  have hbits : ∀ (fcs : Fcs) (v : BitVec 8), (⟨v⟩ : UInt8) >>> 4 = fcs.code →
      fcs.code <<< 4 ||| ((⟨v⟩ : UInt8) &&& 0x08 != 0).toUInt8 <<< 3 = ⟨v⟩ &&& 0xF8 := by
    intro fcs
    cases fcs <;> decide +kernel
  exact hbits fcs h.kind.toBitVec (fcs?_eq_some_iff.mp hfcs)

end Header

/-- Frames with the same options tell their payloads apart. -/
theorem FrameOptions.encode_injective (o : FrameOptions) {p q : List UInt8}
    (h : o.encode p = o.encode q) : p = q := by
  have hlength : p.length = q.length := by
    have := congrArg List.length h
    simpa using this
  have hplain : p ++ o.fcs.checkBytes p = q ++ o.fcs.checkBytes q := by
    rw [← o.unwhiten_encode 0 p, ← o.unwhiten_encode 0 q, h]
  exact List.append_inj_left hplain hlength

namespace Header
variable {h : Header} {fcs : Fcs} {psdu payload : List UInt8} {n : Nat}

theorem check_of_unknown (hfcs : h.fcs? = none) (psdu : List UInt8) :
    h.check psdu = ⟨psdu, .error .unknownFcs⟩ := by
  rw [check, hfcs]

theorem check_of_short (hfcs : h.fcs? = some fcs) (hshort : psdu.length ≤ fcs.length) :
    h.check psdu = ⟨psdu, .error .badLength⟩ := by
  rw [check, hfcs]
  exact if_pos hshort

/-- The bytes behind a header with the whitening taken off. -/
def plain (h : Header) (psdu : List UInt8) : List UInt8 :=
  if h.whitened then whiten whiteningSeed psdu else psdu

@[simp] theorem length_plain (h : Header) (psdu : List UInt8) :
    (h.plain psdu).length = psdu.length := by
  rw [plain]
  split
  · exact length_whiten ..
  · rfl

/-- Bytes that are longer than their check are accepted if it is the check of the others. -/
theorem check_of_long (hfcs : h.fcs? = some fcs) (hlong : fcs.length < psdu.length) :
    h.check psdu =
      if (h.plain psdu).drop (psdu.length - fcs.length) =
          fcs.checkBytes ((h.plain psdu).take (psdu.length - fcs.length)) then
        ⟨h.plain psdu, .ok (psdu.length - fcs.length)⟩
      else ⟨h.plain psdu, .error .badCrc⟩ := by
  rw [check, hfcs]
  dsimp only
  rw [if_neg (Nat.not_le.mpr hlong), ← plain, length_plain]

/-- The check keeps all the bytes. -/
theorem length_check (h : Header) (psdu : List UInt8) :
    (h.check psdu).psdu.length = psdu.length := by
  rw [check]
  cases h.fcs? with
  | none => rfl
  | some fcs =>
    dsimp only
    rw [← plain]
    split
    · rfl
    · split <;> exact length_plain h psdu

theorem outcome_of_long (hfcs : h.fcs? = some fcs) (hlong : fcs.length < psdu.length) :
    (∃ n, (h.check psdu).outcome = .ok n) ∨ (h.check psdu).outcome = .error .badCrc := by
  rw [check_of_long hfcs hlong]
  split
  · exact .inl ⟨_, rfl⟩
  · exact .inr rfl

/-- How a check ends: by the header, by the length, or by the check bytes. -/
theorem check_cases (h : Header) (psdu : List UInt8) :
    h.fcs? = none ∧ h.check psdu = ⟨psdu, .error .unknownFcs⟩ ∨
      ∃ fcs, h.fcs? = some fcs ∧
        (psdu.length ≤ fcs.length ∧ h.check psdu = ⟨psdu, .error .badLength⟩ ∨
          fcs.length < psdu.length ∧
            ((∃ n, (h.check psdu).outcome = .ok n) ∨
              (h.check psdu).outcome = .error .badCrc)) := by
  cases hfcs : h.fcs? with
  | none => exact .inl ⟨rfl, check_of_unknown hfcs psdu⟩
  | some fcs =>
    refine .inr ⟨fcs, rfl, ?_⟩
    obtain hlong | hshort := Nat.lt_or_ge fcs.length psdu.length
    · exact .inr ⟨hlong, outcome_of_long hfcs hlong⟩
    · exact .inl ⟨hshort, check_of_short hfcs hshort⟩

theorem outcome_unknownFcs_iff :
    (h.check psdu).outcome = .error .unknownFcs ↔ (1 : UInt8) < h.kind >>> 4 := by
  rw [← fcs?_eq_none_iff]
  constructor
  · intro hunknown
    obtain ⟨hfcs, -⟩ | ⟨fcs, -, ⟨-, hcheck⟩ | ⟨-, ⟨n, hok⟩ | hbad⟩⟩ := h.check_cases psdu
    · exact hfcs
    · simp [hcheck] at hunknown
    · simp [hok] at hunknown
    · simp [hbad] at hunknown
  · intro hfcs
    rw [check_of_unknown hfcs]

theorem outcome_badLength_iff :
    (h.check psdu).outcome = .error .badLength ↔
      ∃ fcs : Fcs, h.kind >>> 4 = fcs.code ∧ psdu.length ≤ fcs.length := by
  constructor
  · intro hshort
    obtain ⟨-, hcheck⟩ | ⟨fcs, hfcs, ⟨hle, -⟩ | ⟨-, ⟨n, hok⟩ | hbad⟩⟩ := h.check_cases psdu
    · simp [hcheck] at hshort
    · exact ⟨fcs, fcs?_eq_some_iff.mp hfcs, hle⟩
    · simp [hok] at hshort
    · simp [hbad] at hshort
  · intro ⟨fcs, hcode, hle⟩
    rw [check_of_short (fcs?_eq_some_iff.mpr hcode) hle]

/-- Accepted bytes are a payload with its check, encoded as a sender does it. -/
theorem encode_of_ok (hok : (h.check psdu).outcome = .ok n) (fec : Bool) :
    ∃ fcs payload, h.fcs? = some fcs ∧ payload ≠ [] ∧
      FrameOptions.encode ⟨fcs, h.whitened, fec⟩ payload = psdu := by
  obtain ⟨-, hcheck⟩ | ⟨fcs, hfcs, ⟨-, hcheck⟩ | ⟨hlong, -⟩⟩ := h.check_cases psdu
  · simp [hcheck] at hok
  · simp [hcheck] at hok
  rw [check_of_long hfcs hlong] at hok
  split at hok
  · next hcheck =>
    refine ⟨fcs, (h.plain psdu).take (psdu.length - fcs.length), hfcs, ?_, ?_⟩
    · apply List.ne_nil_of_length_pos
      rw [List.length_take, length_plain]
      omega
    · -- the payload and its check are the plain bytes, and whitening is its own inverse
      have hjoin := List.take_append_drop (psdu.length - fcs.length) (h.plain psdu)
      rw [hcheck] at hjoin
      rw [FrameOptions.encode, hjoin, plain]
      cases h.whitened with
      | true => exact whiten_whiten ..
      | false => rfl
  · cases hok

/-- Bytes that are rejected before their check is computed are left as they are. -/
theorem rejected_cases {r : Rejection} (hr : (h.check psdu).outcome = .error r) :
    (r = .unknownFcs ∨ r = .badLength) ∧ (h.check psdu).psdu = psdu ∨ r = .badCrc := by
  obtain ⟨-, hcheck⟩ | ⟨fcs, -, ⟨-, hcheck⟩ | ⟨-, ⟨n, hok⟩ | hbad⟩⟩ := h.check_cases psdu
  · rw [hcheck] at hr ⊢
    exact .inl ⟨.inl (Except.error.inj hr).symm, rfl⟩
  · rw [hcheck] at hr ⊢
    exact .inl ⟨.inr (Except.error.inj hr).symm, rfl⟩
  · rw [hok] at hr
    cases hr
  · rw [hbad] at hr
    exact .inr (Except.error.inj hr).symm

end Header

/-- A sender that is asked to frame `payload`, with `room` behind it, writes a frame that starts
with `kind` and has `psdu` behind its header. -/
def FrameOptions.Writes (o : FrameOptions) (packet : Packet) (room payload : List UInt8)
    (kind : UInt8) (psdu : List UInt8) : Prop :=
  ∃ out : Prepared,
    prepareTx (payload ++ room) o
      { packet with payloadLength := UInt8.ofNat payload.length } = .ok out ∧
    (out.buffer.take out.packet.payloadLength.toNat).head? = some kind ∧
    (out.buffer.take out.packet.payloadLength.toNat).drop headerLength = psdu

/-- The bytes behind a header are those that a sender writes for `payload`, when it takes the
check and the whitening from the header. -/
structure Header.Carries (h : Header) (packet : Packet) (fec : Bool) (room psdu : List UInt8)
    (fcs : Fcs) (payload : List UInt8) : Prop where
  announced : h.kind >>> 4 = fcs.code
  nonempty : 1 ≤ payload.length
  fits : payload.length ≤ fcs.maxPayload
  written : FrameOptions.Writes ⟨fcs, h.whitened, fec⟩ packet room payload (h.kind &&& 0xF8) psdu

section Image
variable {h : Header} {fcs : Fcs} {packet : Packet} {fec : Bool} {psdu room payload : List UInt8}

/-- What a sender writes is the encoded payload, behind the header for its length. -/
theorem FrameOptions.writes_iff {o : FrameOptions} {kind : UInt8}
    (hpreamble : packet.preambleLength ≠ 0) (hpayload : payload ≠ [])
    (hmax : payload.length ≤ o.fcs.maxPayload)
    (hroom : headerLength + o.fcs.length ≤ room.length) :
    o.Writes packet room payload kind psdu ↔
      (o.headerFor (payload.length + o.fcs.length)).kind = kind ∧ o.encode payload = psdu := by
  have hframe := length_frame_lt hmax
  have hshort : payload.length < 256 := by
    rw [o.length_frame] at hframe
    omega
  have hout := prepareTx_payload (o := o)
    (p := { packet with payloadLength := UInt8.ofNat payload.length }) hpreamble
    (UInt8.toNat_ofNat_of_lt' hshort) hpayload hmax hroom
  simp only [Writes, hout, Except.ok.injEq, exists_eq_left', UInt8.toNat_ofNat_of_lt' hframe,
    List.take_left]
  simp only [frame, header, headerFor, headerLength, List.cons_append, List.nil_append,
    List.head?_cons, Option.some.injEq, List.drop_succ_cons, List.drop_zero]

section Sender
-- the sender has a preamble to send, and room behind the payload for the header and the check
variable (hpreamble : packet.preambleLength ≠ 0)
  (hroom : ∀ fcs, h.fcs? = some fcs → headerLength + fcs.length ≤ room.length)
include hpreamble hroom

/-- The bytes behind a header are what a sender writes exactly if they encode a payload that is
neither empty nor too long. -/
theorem Header.carries_iff :
    h.Carries packet fec room psdu fcs payload ↔
      h.fcs? = some fcs ∧ payload ≠ [] ∧ payload.length ≤ fcs.maxPayload ∧
        FrameOptions.encode ⟨fcs, h.whitened, fec⟩ payload = psdu := by
  constructor
  · intro ⟨hcode, hpos, hmax, hwritten⟩
    have hfcs := fcs?_eq_some_iff.mpr hcode
    have hpayload := List.ne_nil_of_length_pos hpos
    have := (FrameOptions.writes_iff hpreamble hpayload hmax (hroom fcs hfcs)).mp hwritten
    exact ⟨hfcs, hpayload, hmax, this.2⟩
  · intro ⟨hfcs, hpayload, hmax, hencode⟩
    refine ⟨fcs?_eq_some_iff.mp hfcs, List.length_pos_iff.mpr hpayload, hmax, ?_⟩
    apply (FrameOptions.writes_iff hpreamble hpayload hmax (hroom fcs hfcs)).mpr
    exact ⟨Header.kind_headerFor hfcs fec _, hencode⟩

/-- A receiver gives back the payload that the bytes behind the header carry. -/
theorem Header.Carries.check (H : h.Carries packet fec room psdu fcs payload) :
    h.check psdu = ⟨payload ++ fcs.checkBytes payload, .ok payload.length⟩ := by
  obtain ⟨hfcs, hpayload, _, rfl⟩ := (Header.carries_iff hpreamble hroom).mp H
  have hcheck := FrameOptions.check_encode ⟨fcs, h.whitened, fec⟩ 0 hpayload
  -- a header that only differs in its length byte and its unused bits is checked alike
  have hsame : (FrameOptions.headerFor ⟨fcs, h.whitened, fec⟩ 0).fcs? = h.fcs? := by
    rw [FrameOptions.fcs?_headerFor, hfcs]
  rw [← hcheck, Header.check, Header.check, hsame, FrameOptions.whitened_headerFor]

/-- The payload that the bytes behind a header carry is unique. -/
theorem Header.Carries.unique {fcs' : Fcs} {payload' : List UInt8}
    (H : h.Carries packet fec room psdu fcs payload)
    (H' : h.Carries packet fec room psdu fcs' payload') : fcs' = fcs ∧ payload' = payload := by
  obtain ⟨hfcs, _, _, hencode⟩ := (Header.carries_iff hpreamble hroom).mp H
  obtain ⟨hfcs', _, _, hencode'⟩ := (Header.carries_iff hpreamble hroom).mp H'
  obtain rfl := Option.some.inj (hfcs'.symm.trans hfcs)
  exact ⟨rfl, FrameOptions.encode_injective _ (hencode'.trans hencode.symm)⟩

/-- Accepted bytes that fit a frame carry a payload. -/
theorem Header.carries_of_ok {n : Nat} (hlength : psdu.length ≤ maxFrameLength - headerLength)
    (hok : (h.check psdu).outcome = .ok n) :
    ∃ fcs payload, h.Carries packet fec room psdu fcs payload := by
  obtain ⟨fcs, payload, hfcs, hpayload, hencode⟩ := encode_of_ok hok fec
  refine ⟨fcs, payload, (Header.carries_iff hpreamble hroom).mpr ⟨hfcs, hpayload, ?_, hencode⟩⟩
  have hsum : payload.length + fcs.length = psdu.length := by
    rw [← hencode, FrameOptions.length_encode]
  rw [Fcs.maxPayload]
  omega

end Sender

/-- **What a receiver accepts is what a sender writes.** Of the bytes behind a header, of any that
fit a frame, exactly those are accepted that carry a payload; the payload is then unique, its
length is what the receiver reports, and the bytes become the payload with its check. A header
that announces no check, or bytes that are no longer than their check, are told apart and left as
they are; what else is rejected has a wrong check. -/
theorem Header.check_iff_carries (hlength : psdu.length ≤ maxFrameLength - headerLength)
    (hpreamble : packet.preambleLength ≠ 0)
    (hroom : ∀ fcs, h.fcs? = some fcs → headerLength + fcs.length ≤ room.length) :
    (∀ n, (h.check psdu).outcome = .ok n ↔
      ∃ fcs payload, h.Carries packet fec room psdu fcs payload ∧ n = payload.length) ∧
    (∀ fcs payload, h.Carries packet fec room psdu fcs payload →
      (h.check psdu).psdu = payload ++ fcs.checkBytes payload ∧
      ∀ fcs' payload', h.Carries packet fec room psdu fcs' payload' →
        fcs' = fcs ∧ payload' = payload) ∧
    ((h.check psdu).outcome = .error .unknownFcs ↔ (1 : UInt8) < h.kind >>> 4) ∧
    ((h.check psdu).outcome = .error .badLength ↔
      ∃ fcs : Fcs, h.kind >>> 4 = fcs.code ∧ psdu.length ≤ fcs.length) ∧
    (∀ r, (h.check psdu).outcome = .error r →
      (r = .unknownFcs ∨ r = .badLength) ∧ (h.check psdu).psdu = psdu ∨ r = .badCrc) := by
  refine ⟨fun n => ?_, fun fcs payload H => ⟨?_, fun _ _ H' => ?_⟩, outcome_unknownFcs_iff,
    outcome_badLength_iff, fun r hr => rejected_cases hr⟩
  · constructor
    · intro hok
      obtain ⟨fcs, payload, H⟩ := carries_of_ok hpreamble hroom hlength hok
      rw [H.check hpreamble hroom] at hok
      exact ⟨fcs, payload, H, (Except.ok.inj hok).symm⟩
    · rintro ⟨fcs, payload, H, rfl⟩
      rw [H.check hpreamble hroom]
  · rw [H.check hpreamble hroom]
  · exact H.unique hpreamble hroom H'

/-- Three bytes behind a header with some of the unused bits set: a whitened payload of one byte
with its 16-bit check. -/
theorem Header.check_iff_carries_whitened :
    (Header.check ⟨0x1D, 0⟩ [170, 149, 252]).outcome = .ok 1 ∧
      (Header.check ⟨0x1D, 0⟩ [170, 149, 252]).psdu = [0xA5] ++ Fcs.crc16.checkBytes [0xA5] := by
  have hroom : ∀ fcs, Header.fcs? ⟨0x1D, 0⟩ = some fcs →
      headerLength + fcs.length ≤ (List.replicate 4 (0 : UInt8)).length := by
    intro fcs hfcs
    cases fcs with
    | crc32 => exact absurd hfcs (by decide)
    | crc16 => decide
  have himage := @Header.check_iff_carries ⟨0x1D, 0⟩ { preambleLength := 8 } false
    [170, 149, 252] (.replicate 4 0) (by decide) (by decide) hroom
  have H : Header.Carries ⟨0x1D, 0⟩ { preambleLength := 8 } false (.replicate 4 0)
      [170, 149, 252] .crc16 [0xA5] :=
    (Header.carries_iff (by decide) hroom).mpr
      ⟨by decide, by decide, by decide, by decide +kernel⟩
  exact ⟨(himage.1 1).mpr ⟨.crc16, [0xA5], H, rfl⟩, (himage.2.1 _ _ H).1⟩

end Image

end Transceiver.Fsk
