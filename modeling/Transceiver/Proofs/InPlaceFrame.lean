import Transceiver.Fsk.Outgoing
import Transceiver.Proofs.Action
import Transceiver.Proofs.Frame

/-! Frames that are prepared in place. The steps on the buffer come to the frame that is prepared
beside it: each write leaves what stands before it, and the payload was looked at before it moves.
-/

namespace Transceiver.Fsk

/-- A write right behind some data leaves that data. -/
theorem overwritten_append {front data bytes : List UInt8} {start : Nat}
    (h : front.length = start) :
    overwritten (front ++ data) start bytes = front ++ (bytes ++ data.drop bytes.length) := by
  subst h
  rw [overwritten, List.take_left, List.append_assoc, ← List.drop_drop, List.drop_left]

section Writes
variable (buffer payload check psdu rest : List UInt8) {header : List UInt8}

/-- The buffer once the payload has moved up, and its check and the header are written. -/
theorem overwritten_assembled (hheader : header.length = headerLength)
    (hbuffer : headerLength ≤ buffer.length) :
    overwritten (overwritten (overwritten buffer headerLength payload)
        (headerLength + payload.length) check) 0 header =
      header ++ ((payload ++ check) ++
        buffer.drop (headerLength + (payload.length + check.length))) := by
  have hfront : (buffer.take headerLength).length = headerLength := List.length_take_of_le hbuffer
  have hplace : (buffer.take headerLength ++ payload).length = headerLength + payload.length := by
    rw [List.length_append, hfront]
  have hchecked : overwritten (overwritten buffer headerLength payload)
      (headerLength + payload.length) check = buffer.take headerLength ++ ((payload ++ check) ++
        buffer.drop (headerLength + (payload.length + check.length))) := by
    rw [overwritten.eq_1 buffer, overwritten_append hplace, List.drop_drop]
    simp only [List.append_assoc, Nat.add_assoc]
  rw [hchecked, overwritten, hheader, List.take_zero, List.nil_append, Nat.zero_add]
  exact congrArg (header ++ ·) (List.drop_left' hfront)

/-- The buffer once what follows the header is whitened. -/
theorem overwritten_whitened (hheader : header.length = headerLength) :
    overwritten (header ++ (psdu ++ rest)) headerLength (whiten whiteningSeed
        (((header ++ (psdu ++ rest)).drop headerLength).take psdu.length)) =
      header ++ (whiten whiteningSeed psdu ++ rest) := by
  rw [List.drop_left' hheader, List.take_left, overwritten_append hheader, length_whiten,
    List.drop_left]

end Writes

namespace Outgoing

open Transceiver.Action

variable {o : FrameOptions} {out : Outgoing} {start n : Nat}
  {Q : Except Fault Unit → Outgoing → Prop}

theorem ends_assemble : (assemble o n).Ends out Q ↔ Q (.ok ()) { out with
    buffer := overwritten (overwritten (overwritten out.buffer headerLength (out.buffer.take n))
      (headerLength + n) (o.fcs.checkBytes (out.buffer.take n))) 0 (o.header (n + o.fcs.length)) } :=
  .rfl

theorem ends_whitenAt : (whitenAt start n).Ends out Q ↔ Q (.ok ()) { out with
    buffer :=
      overwritten out.buffer start (whiten whiteningSeed ((out.buffer.drop start).take n)) } :=
  .rfl

/-- The packet parameters allow a frame, whatever the buffer holds. -/
def Allowed (o : FrameOptions) (p : Packet) : Prop :=
  1 ≤ p.payloadLength.toNat ∧ p.payloadLength.toNat ≤ o.fcs.maxPayload ∧
    1 ≤ p.preambleLength.toNat

instance (o : FrameOptions) (p : Packet) : Decidable (Allowed o p) :=
  inferInstanceAs (Decidable (_ ∧ _ ∧ _))

/-- Bytes of the frame that the packet parameters call for. -/
def frameLength (o : FrameOptions) (p : Packet) : Nat :=
  headerLength + (p.payloadLength.toNat + o.fcs.length)

theorem frameLength_le {p : Packet} (h : Allowed o p) : frameLength o p ≤ maxFrameLength := by
  obtain ⟨-, hmax, -⟩ := h
  have hfcs : headerLength + o.fcs.length ≤ maxFrameLength := by cases o.fcs <;> decide
  simp only [Fcs.maxPayload] at hmax
  simp only [frameLength]
  omega

theorem allowed_iff {p : Packet} : Allowed o p ↔
    ¬(p.payloadLength.toNat = 0 ∨ p.preambleLength = 0) ∧
      ¬p.payloadLength.toNat > o.fcs.maxPayload := by
  have hpreamble : p.preambleLength = 0 ↔ p.preambleLength.toNat = 0 :=
    UInt16.toNat_inj.symm
  rw [Allowed, hpreamble]
  omega

/-- The length of a frame that is allowed needs no check of its own. -/
theorem ends_ensureFits {Q : Except Fault Unit → Outgoing → Prop} : (ensureFits o).Ends out Q ↔
    if Allowed o out.packet then
      if out.buffer.length < frameLength o out.packet then Q (.error .noMemory) out
      else Q (.ok ()) out
    else Q (.error .invalidParams) out := by
  simp only [ensureFits, ends_bind, ends_get, ends_ite, ends_throw, ends_pure]
  by_cases hempty : out.packet.payloadLength.toNat = 0 ∨ out.packet.preambleLength = 0
  · rw [if_pos hempty, if_neg fun h => (allowed_iff.mp h).1 hempty]
  by_cases hlong : out.packet.payloadLength.toNat > o.fcs.maxPayload
  · rw [if_neg hempty, if_pos hlong, if_neg fun h => (allowed_iff.mp h).2 hlong]
  have hallowed : Allowed o out.packet := allowed_iff.mpr ⟨hempty, hlong⟩
  rw [if_neg hempty, if_neg hlong, if_pos hallowed]
  exact iff_of_eq (if_neg (Nat.not_lt.mpr (frameLength_le hallowed)))

/-- What preparing makes of a buffer with room for a frame that is allowed. -/
def framed (o : FrameOptions) (out : Outgoing) : Outgoing where
  buffer := o.header (out.packet.payloadLength.toNat + o.fcs.length) ++
    (o.encode (out.buffer.take out.packet.payloadLength.toNat) ++
      out.buffer.drop (frameLength o out.packet))
  packet := { out.packet with
    syncWordLength := 3
    addressFilter := false
    variableLength := false
    payloadLength := UInt8.ofNat (frameLength o out.packet)
    crcOn := false
    whitening := false }

/-- The payload is looked at before it moves, so its check is that of the payload as it was. -/
theorem assembled_eq (hroom : headerLength + n ≤ out.buffer.length) :
    overwritten (overwritten (overwritten out.buffer headerLength (out.buffer.take n))
        (headerLength + n) (o.fcs.checkBytes (out.buffer.take n))) 0 (o.header (n + o.fcs.length)) =
      o.header (n + o.fcs.length) ++ ((out.buffer.take n ++ o.fcs.checkBytes (out.buffer.take n)) ++
        out.buffer.drop (headerLength + (n + o.fcs.length))) := by
  have hpayload : (out.buffer.take n).length = n :=
    List.length_take_of_le (Nat.le_of_add_left_le hroom)
  have hheader : (o.header (n + o.fcs.length)).length = headerLength := rfl
  have hassembled := overwritten_assembled out.buffer (out.buffer.take n)
    (o.fcs.checkBytes (out.buffer.take n)) hheader (Nat.le_of_add_right_le hroom)
  rw [hpayload, Fcs.length_checkBytes] at hassembled
  exact hassembled

/-- Whitening in place leaves the frame that whitens what follows its header. -/
theorem whitened_eq {payload rest : List UInt8} (hlength : payload.length = n)
    (hwhitens : o.whitening = true) :
    overwritten (o.header (n + o.fcs.length) ++ ((payload ++ o.fcs.checkBytes payload) ++ rest))
        headerLength (whiten whiteningSeed (((o.header (n + o.fcs.length) ++
          ((payload ++ o.fcs.checkBytes payload) ++ rest)).drop headerLength).take
            (n + o.fcs.length))) =
      o.header (n + o.fcs.length) ++ (o.encode payload ++ rest) := by
  have hpsdu : (payload ++ o.fcs.checkBytes payload).length = n + o.fcs.length := by
    rw [List.length_append, hlength, Fcs.length_checkBytes]
  have hheader : (o.header (n + o.fcs.length)).length = headerLength := rfl
  have hwhitened := overwritten_whitened (payload ++ o.fcs.checkBytes payload) rest hheader
  rw [hpsdu] at hwhitened
  rw [hwhitened, FrameOptions.encode, if_pos hwhitens]

/-- Preparing in place checks everything first, and then frames the payload. -/
theorem ends_prepare : (prepare o).Ends out fun r left =>
    if Allowed o out.packet then
      if out.buffer.length < frameLength o out.packet then r = .error .noMemory ∧ left = out
      else r = .ok (syncWord o.fec) ∧ left = framed o out
    else r = .error .invalidParams ∧ left = out := by
  refine ends_bind.mpr <| ends_ensureFits.mpr ?_
  by_cases hallowed : Allowed o out.packet
  case neg => simp only [if_neg hallowed, and_self]
  by_cases hshort : out.buffer.length < frameLength o out.packet
  case pos => simp only [if_pos hallowed, if_pos hshort, and_self]
  simp only [if_pos hallowed, if_neg hshort]
  have hroom : headerLength + out.packet.payloadLength.toNat ≤ out.buffer.length := by
    simp only [frameLength] at hshort
    omega
  have hpayload : (out.buffer.take out.packet.payloadLength.toNat).length =
      out.packet.payloadLength.toNat := List.length_take_of_le (Nat.le_of_add_left_le hroom)
  refine ends_bind.mpr <| ends_get.mpr <| ends_bind.mpr <| ends_assemble.mpr ?_
  rw [assembled_eq hroom]
  refine ends_ite.mpr ?_
  split
  · rename_i hwhitens
    refine ends_bind.mpr <| ends_whitenAt.mpr ?_
    dsimp only
    rw [whitened_eq hpayload hwhitens]
    exact ⟨rfl, rfl⟩
  · rename_i hplain
    simp only [framed, FrameOptions.encode, if_neg hplain]
    exact ⟨rfl, rfl⟩

/-- What is prepared beside the buffer, by the same two questions. -/
theorem prepareTx_eq : prepareTx out.buffer o out.packet =
    if Allowed o out.packet then
      if out.buffer.length < frameLength o out.packet then .error .noMemory
      else .ok ⟨syncWord o.fec, (framed o out).buffer, (framed o out).packet⟩
    else .error .invalidParams := by
  unfold prepareTx
  by_cases hempty : out.packet.payloadLength.toNat = 0 ∨ out.packet.preambleLength = 0
  · rw [if_neg fun h => (allowed_iff.mp h).1 hempty]
    exact if_pos hempty
  by_cases hlong : out.packet.payloadLength.toNat > o.fcs.maxPayload
  · rw [if_neg fun h => (allowed_iff.mp h).2 hlong]
    exact (if_neg hempty).trans (if_pos hlong)
  rw [if_pos (allowed_iff.mpr ⟨hempty, hlong⟩), framed, ← List.append_assoc]
  exact (if_neg hempty).trans (if_neg hlong)

/-- Preparing in place does to the buffer and the packet parameters what preparing beside them says,
and leaves them alone if that fails. -/
theorem result_prepare : (prepare o).result out = match prepareTx out.buffer o out.packet with
    | .ok p => (.ok p.syncWord, ⟨p.buffer, p.packet⟩)
    | .error e => (.error e, out) := by
  have hends : if Allowed o out.packet then
      if out.buffer.length < frameLength o out.packet then _ ∧ _ else _ ∧ _
    else _ ∧ _ := ends_prepare
  rw [prepareTx_eq]
  split at hends
  · rename_i hallowed
    rw [if_pos hallowed]
    split at hends
    · rename_i hshort
      rw [if_pos hshort]
      exact Prod.ext hends.1 hends.2
    · rename_i hroom
      rw [if_neg hroom]
      exact Prod.ext hends.1 hends.2
  · rename_i hallowed
    rw [if_neg hallowed]
    exact Prod.ext hends.1 hends.2

/-- The frame of the payload in `before` stands at the start of the buffer in `after`, and the
packet parameters there describe it. -/
structure Frames (o : FrameOptions) (before after : Outgoing) : Prop where
  header : ∃ n : UInt8, n.toNat = before.packet.payloadLength.toNat + o.fcs.length ∧
    after.buffer.take headerLength = [o.fcs.code <<< 4 ||| o.whitening.toUInt8 <<< 3, n]
  psdu : (after.buffer.drop headerLength).take (before.packet.payloadLength.toNat + o.fcs.length) =
    let payload := before.buffer.take before.packet.payloadLength.toNat
    let plain := payload ++ o.fcs.checkBytes payload
    if o.whitening then whiten whiteningSeed plain else plain
  rest : after.buffer.drop (frameLength o before.packet) =
    before.buffer.drop (frameLength o before.packet)
  size : after.buffer.length = before.buffer.length
  length : after.packet.payloadLength.toNat = frameLength o before.packet ∧
    frameLength o before.packet ≤ maxFrameLength
  packet : after.packet = { before.packet with
    syncWordLength := 3
    addressFilter := false
    variableLength := false
    payloadLength := after.packet.payloadLength
    crcOn := false
    whitening := false }

theorem frames_framed (hallowed : Allowed o out.packet)
    (hroom : frameLength o out.packet ≤ out.buffer.length) : Frames o out (framed o out) := by
  have hlength : frameLength o out.packet < 256 := Nat.lt_succ_of_le (frameLength_le hallowed)
  have hheader : (o.header (out.packet.payloadLength.toNat + o.fcs.length)).length = headerLength :=
    rfl
  have hpsdu : (o.encode (out.buffer.take out.packet.payloadLength.toNat)).length =
      out.packet.payloadLength.toNat + o.fcs.length := by
    simp only [frameLength] at hroom
    rw [o.length_encode, List.length_take_of_le (by omega)]
  refine ⟨⟨_, UInt8.toNat_ofNat_of_lt' ?_, rfl⟩, ?_, ?_, ?_,
    ⟨UInt8.toNat_ofNat_of_lt' hlength, frameLength_le hallowed⟩, rfl⟩
  · exact Nat.lt_of_add_left_lt hlength
  · rw [framed, List.drop_left' hheader, List.take_left' hpsdu]
    rfl
  · rw [framed, frameLength, ← List.drop_drop, List.drop_left' hheader, List.drop_left' hpsdu]
  · rw [framed, List.length_append, hheader, List.length_append, hpsdu, List.length_drop,
      ← Nat.add_assoc]
    exact Nat.add_sub_cancel' hroom

/-- Preparing in place succeeds exactly if the payload is neither empty nor too long, there is a
preamble, and the buffer has room for the frame. It then leaves the frame and its parameters, and
what stands behind the frame as it was. Otherwise it leaves everything as it was, and it is for want
of room only if the packet parameters are in order. -/
theorem prepares_exactly (o : FrameOptions) (out : Outgoing) :
    let outcome := ((prepare o).result out).1
    let left := ((prepare o).result out).2
    (outcome.isOk = true ↔
      Allowed o out.packet ∧ frameLength o out.packet ≤ out.buffer.length) ∧
    (outcome.isOk = true → outcome = .ok (syncWord o.fec) ∧ Frames o out left) ∧
    (¬outcome.isOk = true → left = out ∧
      outcome = .error (if Allowed o out.packet then .noMemory else .invalidParams)) := by
  intro outcome left
  have hresult : (prepare o).result out = _ := result_prepare
  rw [prepareTx_eq] at hresult
  have refused {e : Fault} (houtcome : outcome = .error e) : ¬outcome.isOk = true := by
    rw [houtcome]
    exact nofun
  by_cases hallowed : Allowed o out.packet
  case neg =>
    rw [if_neg hallowed] at hresult ⊢
    have houtcome : outcome = .error .invalidParams := congrArg Prod.fst hresult
    exact ⟨iff_of_false (refused houtcome) fun h => hallowed h.1,
      fun h => absurd h (refused houtcome), fun _ => ⟨congrArg Prod.snd hresult, houtcome⟩⟩
  rw [if_pos hallowed] at hresult ⊢
  by_cases hshort : out.buffer.length < frameLength o out.packet
  case pos =>
    rw [if_pos hshort] at hresult
    have houtcome : outcome = .error .noMemory := congrArg Prod.fst hresult
    exact ⟨iff_of_false (refused houtcome) fun h => Nat.not_lt.mpr h.2 hshort,
      fun h => absurd h (refused houtcome), fun _ => ⟨congrArg Prod.snd hresult, houtcome⟩⟩
  · rw [if_neg hshort] at hresult
    have hroom : frameLength o out.packet ≤ out.buffer.length := Nat.not_lt.mp hshort
    have houtcome : outcome = .ok (syncWord o.fec) := congrArg Prod.fst hresult
    have hleft : left = framed o out := congrArg Prod.snd hresult
    have hdone : outcome.isOk = true := by rw [houtcome]; rfl
    refine ⟨iff_of_true hdone ⟨hallowed, hroom⟩, fun _ => ⟨houtcome, ?_⟩, fun h => absurd hdone h⟩
    rw [hleft]
    exact frames_framed hallowed hroom

end Outgoing

end Transceiver.Fsk
