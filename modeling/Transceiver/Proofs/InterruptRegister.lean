import Transceiver.Proofs.Device
import Transceiver.Proofs.SingleTransfer

/-! Interrupts and the registers that hold them. A register and a set of interrupts are put into
each other bit by bit, so that nothing is lost but the bits that stand for no interrupt, and the
interrupts that have no bit; interrupts of one bit come back together. What the host clears after it
read the status is the status as it was read, known bits or not. -/

namespace Transceiver

theorem Interrupt.position_injective {i j : Interrupt} (h : i.position = j.position) : i = j := by
  cases i <;> cases j <;> first | rfl | cases h

theorem InterruptSet.mem_singleton {i j : Interrupt} : i ∈ ({j} : InterruptSet) ↔ i = j := by
  have hbit : i ∈ ({j} : InterruptSet) ↔ j.position.val = i.position.val := by
    show (BitVec.twoPow 14 j.position.val)[i.position.val] = true ↔ _
    rw [BitVec.getElem_twoPow, decide_eq_true_iff]
    exact eq_comm
  rw [hbit, Fin.val_inj]
  exact ⟨fun h => (Interrupt.position_injective h).symm, fun h => h ▸ rfl⟩

namespace RegisterLayout

/-- What holds after rows were gone through, where a row may make it hold and none undoes it. -/
theorem foldl_holds {α β : Type} {step : β → α → β} {P : β → Prop} {Q : α → Prop}
    (hstep : ∀ b row, P (step b row) ↔ P b ∨ Q row) (rows : List α) (b : β) :
    P (rows.foldl step b) ↔ P b ∨ ∃ row ∈ rows, Q row := by
  induction rows generalizing b with
  | nil => simp
  | cons row rows ih =>
    rw [List.foldl_cons, ih, hstep, or_assoc]
    simp only [List.mem_cons, exists_eq_or_imp]

variable {w : Nat} {layout : RegisterLayout w} {s t : InterruptSet} {reg reg' : BitVec w}
  {i j : Interrupt} {k : Fin w}

/-- A bit of the register is set exactly if it stands for an interrupt of the set. -/
theorem getLsbD_encode :
    (layout.encode s).getLsbD k = true ↔ ∃ i, (i, k) ∈ layout.bits ∧ i ∈ s := by
  have hrow (reg : BitVec w) (row : Interrupt × Fin w) :
      (if row.1 ∈ s then reg ||| .twoPow w row.2 else reg).getLsbD k = true ↔
        reg.getLsbD k = true ∨ k = row.2 ∧ row.1 ∈ s := by
    split <;> rename_i hmem
    · simp [hmem, Fin.val_inj]
    · simp [hmem]
  refine (foldl_holds (P := fun reg : BitVec w => reg.getLsbD k = true) hrow layout.bits 0).trans ?_
  rw [or_iff_right (by simp)]
  exact ⟨fun ⟨(i, _), hbit, rfl, hi⟩ => ⟨i, hbit, hi⟩, fun ⟨i, hbit, hi⟩ => ⟨(i, k), hbit, rfl, hi⟩⟩

/-- An interrupt is in the set exactly if a bit that stands for it is set. -/
theorem mem_decode :
    i ∈ layout.decode reg ↔ ∃ k : Fin w, (i, k) ∈ layout.bits ∧ reg.getLsbD k = true := by
  have hrow (s : InterruptSet) (row : Interrupt × Fin w) :
      i ∈ (if reg[row.2] then s ∪ {row.1} else s) ↔
        i ∈ s ∨ i = row.1 ∧ reg.getLsbD row.2 = true := by
    have hget : reg[row.2] = reg.getLsbD row.2 := (BitVec.getLsbD_eq_getElem row.2.isLt).symm
    rw [hget]
    split <;> rename_i hbit
    · rw [InterruptSet.mem_union, InterruptSet.mem_singleton, and_iff_left hbit]
    · exact (or_iff_left fun h => hbit h.2).symm
  refine (foldl_holds (P := fun s : InterruptSet => i ∈ s) hrow layout.bits ∅).trans ?_
  rw [or_iff_right InterruptSet.not_mem_empty]
  exact ⟨fun ⟨(_, k), hbit, rfl, hk⟩ => ⟨k, hbit, hk⟩, fun ⟨k, hbit, hk⟩ => ⟨(i, k), hbit, rfl, hk⟩⟩

theorem eq_of_bits (h : ∀ k : Fin w, reg.getLsbD k = true ↔ reg'.getLsbD k = true) : reg = reg' :=
  BitVec.eq_of_getLsbD_eq fun k hk => Bool.eq_iff_iff.mpr (h ⟨k, hk⟩)

theorem getLsbD_or :
    (reg ||| reg').getLsbD k = true ↔ reg.getLsbD k = true ∨ reg'.getLsbD k = true := by
  rw [BitVec.getLsbD_or, Bool.or_eq_true]

theorem decode_zero : layout.decode 0 = ∅ := by
  refine InterruptSet.ext fun i => iff_of_false (fun hi => ?_) InterruptSet.not_mem_empty
  obtain ⟨k, -, hk⟩ := mem_decode.mp hi
  simp at hk

theorem encode_union : layout.encode (s ∪ t) = layout.encode s ||| layout.encode t := by
  refine eq_of_bits fun k => ?_
  simp only [getLsbD_or, getLsbD_encode, InterruptSet.mem_union, and_or_left, exists_or]

theorem decode_or : layout.decode (reg ||| reg') = layout.decode reg ∪ layout.decode reg' := by
  refine InterruptSet.ext fun i => ?_
  simp only [InterruptSet.mem_union, mem_decode, getLsbD_or, and_or_left, exists_or]

/-- No interrupt has two bits. -/
def OneBit (layout : RegisterLayout w) : Prop :=
  ∀ a ∈ layout.bits, ∀ b ∈ layout.bits, a.1 = b.1 → a.2 = b.2

instance : Decidable layout.OneBit :=
  inferInstanceAs (Decidable (∀ a ∈ layout.bits, ∀ b ∈ layout.bits, a.1 = b.1 → a.2 = b.2))

/-- The bits that stand for an interrupt come back, and no others. -/
theorem encode_decode (h : layout.OneBit) (reg : BitVec w) :
    layout.encode (layout.decode reg) = reg &&& layout.encode .all := by
  refine eq_of_bits fun k => ?_
  have hknown : (layout.encode .all).getLsbD k = true ↔ ∃ i, (i, k) ∈ layout.bits := by
    simp only [getLsbD_encode, InterruptSet.mem_all, and_true]
  rw [BitVec.getLsbD_and, Bool.and_eq_true, hknown, getLsbD_encode]
  constructor
  · rintro ⟨i, hk, hi⟩
    obtain ⟨n, hn, hreg⟩ := mem_decode.mp hi
    obtain rfl : k = n := h _ hk _ hn rfl
    exact ⟨hreg, i, hk⟩
  · rintro ⟨hreg, i, hk⟩
    exact ⟨i, hk, mem_decode.mpr ⟨k, hk, hreg⟩⟩

/-- Two interrupts have a bit in common. One that has a bit has it in common with itself. -/
def Share (layout : RegisterLayout w) (i j : Interrupt) : Prop :=
  ∃ row ∈ layout.bits, i = row.1 ∧ (j, row.2) ∈ layout.bits

instance : Decidable (layout.Share i j) :=
  inferInstanceAs (Decidable (∃ row ∈ layout.bits, i = row.1 ∧ (j, row.2) ∈ layout.bits))

theorem mem_decode_encode : i ∈ layout.decode (layout.encode s) ↔ ∃ j ∈ s, layout.Share i j := by
  constructor
  · intro hi
    obtain ⟨k, hi, hk⟩ := mem_decode.mp hi
    obtain ⟨j, hj, hs⟩ := getLsbD_encode.mp hk
    exact ⟨j, hs, (i, k), hi, rfl, hj⟩
  · rintro ⟨j, hs, ⟨_, k⟩, hi, rfl, hj⟩
    exact mem_decode.mpr ⟨k, hi, getLsbD_encode.mpr ⟨j, hj, hs⟩⟩

end RegisterLayout

/-! ## The families -/

/-- The other interrupt that has the same bit. -/
def Lr11xx.twin? : Interrupt → Option Interrupt
  | .syncWordValid => some .headerValid
  | .headerValid => some .syncWordValid
  | _ => none

namespace Device

open Bus Transceiver.Action

variable {σ : Type}

/-- The bits of the status register. -/
def statusWidth : Device σ → Nat
  | .sx126x _ => 16
  | .lr11xx _ => 32

def interrupts : (device : Device σ) → RegisterLayout device.statusWidth
  | .sx126x _ => Sx126x.interrupts
  | .lr11xx _ => Lr11xx.interrupts

/-- The bits that stand for an interrupt. -/
def knownBits : (device : Device σ) → BitVec device.statusWidth
  | .sx126x _ => 0x03FF#16
  | .lr11xx _ => 0x00D807FC#32

/-- The chip has the interrupt. -/
def Raises : Device σ → Interrupt → Prop
  | .sx126x _, i => i ∉ [.chipError, .commandError, .gnssScanDone, .wifiScanDone]
  | .lr11xx _, _ => True

/-- The other interrupt that has the same bit. -/
def twin? : Device σ → Interrupt → Option Interrupt
  | .sx126x _, _ => none
  | .lr11xx _, i => Lr11xx.twin? i

theorem interrupts_oneBit (device : Device σ) : device.interrupts.OneBit := by
  cases device with
  | sx126x => exact (by decide : Sx126x.interrupts.OneBit)
  | lr11xx => exact (by decide : Lr11xx.interrupts.OneBit)

theorem encode_all (device : Device σ) : device.interrupts.encode .all = device.knownBits := by
  cases device with
  | sx126x => exact (by decide : Sx126x.interrupts.encode .all = 0x03FF#16)
  | lr11xx => exact (by decide : Lr11xx.interrupts.encode .all = 0x00D807FC#32)

theorem share_iff (device : Device σ) (i j : Interrupt) :
    device.interrupts.Share i j ↔ device.Raises i ∧ (i = j ∨ device.twin? i = some j) := by
  cases device with
  | sx126x =>
    show Sx126x.interrupts.Share i j ↔ i ∉ _ ∧ (i = j ∨ none = some j)
    cases i <;> cases j <;> decide
  | lr11xx =>
    show Lr11xx.interrupts.Share i j ↔ True ∧ (i = j ∨ Lr11xx.twin? i = some j)
    cases i <;> cases j <;> decide

/-- What survives a way through the register are the interrupts that the chip has, each with the
other one of its bit. -/
theorem mem_decode_encode (device : Device σ) (s : InterruptSet) (i : Interrupt) :
    i ∈ device.interrupts.decode (device.interrupts.encode s) ↔
      device.Raises i ∧ (i ∈ s ∨ ∃ j ∈ device.twin? i, j ∈ s) := by
  simp only [RegisterLayout.mem_decode_encode, share_iff, Option.mem_def]
  constructor
  · rintro ⟨j, hj, hi, rfl | htwin⟩
    · exact ⟨hi, .inl hj⟩
    · exact ⟨hi, .inr ⟨j, htwin, hj⟩⟩
  · rintro ⟨hi, hs | ⟨j, htwin, hj⟩⟩
    · exact ⟨i, hs, hi, .inl rfl⟩
    · exact ⟨j, hj, hi, .inr htwin⟩

/-! ## The status -/

def bus : Device σ → Endpoint σ
  | .sx126x device => device.bus
  | .lr11xx device => device.bus

/-- What is sent to read the status. -/
def statusRequest : Device σ → List UInt8
  | .sx126x _ => [Sx126x.Opcode.getIrqStatus.byte, 0, 0, 0]
  | .lr11xx _ => [0, 0, 0, 0, 0, 0]

/-- The status register in what comes back, after two bytes that are none of it. -/
def status (device : Device σ) (received : List UInt8) : BitVec device.statusWidth :=
  .ofNat _ (BigEndian.value (received.drop 2))

/-- What is sent to clear bits of the status. -/
def clearing : (device : Device σ) → BitVec device.statusWidth → List UInt8
  | .sx126x _, reg => Sx126x.Opcode.clearIrqStatus.byte :: BigEndian.bytes16 ⟨reg⟩
  | .lr11xx _, reg => BigEndian.bytes16 Lr11xx.Opcode.clearIrq.word ++ BigEndian.bytes32 ⟨reg⟩

/-- How the interrupts are taken, with the outcome and the transfers: the status is read, and if it
is not zero it is cleared. -/
inductive TakesInterrupts (device : Device σ) : Except Fault InterruptSet → List Transfer → Prop
  /-- The chip did not get ready. -/
  | unready (e : Fault) : TakesInterrupts device (.error e) []
  | unread : TakesInterrupts device (.error .io) [(device.statusRequest, none)]
  | nothing {received : List UInt8} : received.length = device.statusRequest.length →
    device.status received = 0 →
    TakesInterrupts device (.ok ∅) [(device.statusRequest, some received)]
  /-- The chip did not get ready again. -/
  | held {received : List UInt8} (e : Fault) : received.length = device.statusRequest.length →
    device.status received ≠ 0 →
    TakesInterrupts device (.error e) [(device.statusRequest, some received)]
  | cleared {received : List UInt8} (answer : Option (List UInt8)) :
    received.length = device.statusRequest.length → device.status received ≠ 0 →
    TakesInterrupts device
      (if answer.isSome then .ok (device.interrupts.decode (device.status received))
        else .error .io)
      [(device.statusRequest, some received), (device.clearing (device.status received), answer)]

/-- From the first link to the second the interrupts were taken, without a failure if the bus
responds. -/
def Took (device : Device σ) (l : Link (σ × List Signal)) (r : Except Fault InterruptSet)
    (l' : Link (σ × List Signal)) : Prop :=
  ∃ ts, l.Transferred l' ts ∧ device.TakesInterrupts r ts ∧ (device.bus.Responds → r.isOk = true)

section Status
variable (device : Device σ) {l l' : Link (σ × List Signal)} {received : List UInt8}

/-- Nothing is asked of what is behind the wires. -/
theorem steady_unseen (wire : Wire σ) : wire.Steady fun _ => () :=
  ⟨fun _ _ => rfl, fun _ => rfl, fun _ _ => rfl⟩

/-- The status is read, and then dealt with. -/
theorem took_of_read {α : Type} {fits : α → List UInt8 → Prop}
    {read : Action (Link (σ × List Signal)) α}
    {f : α → Action (Link (σ × List Signal)) InterruptSet}
    (hread : read.Ends l (device.bus.Once (fun _ => ()) device.statusRequest fits l))
    (hf : ∀ answer received l', fits answer received →
      received.length = device.statusRequest.length →
      l.Transferred l' [(device.statusRequest, some received)] →
      (f answer).Ends l' (device.Took l)) :
    (read >>= f).Ends l (device.Took l) := by
  refine ends_bind.mpr <| hread.mono fun r l₁ h => ?_
  have hok := h.isOk
  cases h with
  | unready _ _ hnone _ => exact ⟨_, hnone, .unready _, hok⟩
  | lost _ _ _ hts => exact ⟨_, hts, .unread, hok⟩
  | @done _ received answer _ _ _ _ hts hfits =>
    exact hf answer _ l₁ hfits received.length_toList hts

/-- What was read is cleared unless it is zero. -/
theorem took_of_status {reg : BitVec device.statusWidth}
    (hread : l.Transferred l' [(device.statusRequest, some received)])
    (hlength : received.length = device.statusRequest.length) (hreg : device.status received = reg)
    {c : Prop} {_ : Decidable c} (hc : c ↔ reg ≠ 0) {frame : List UInt8}
    (hframe : frame = device.clearing reg) {clear : Action (Link (σ × List Signal)) Unit}
    (hclear : clear.Ends l' (device.bus.Once (fun _ => ()) frame (fun _ _ => True) l')) :
    Ends (if c then clear >>= fun _ => pure (device.interrupts.decode reg)
      else pure (device.interrupts.decode reg)) l' (device.Took l) := by
  subst hreg hframe
  refine ends_ite.mpr ?_
  split <;> rename_i hset
  · have hset := hc.mp hset
    refine ends_bind.mpr <| hclear.mono fun r l₂ h => ?_
    have hok := h.isOk
    cases h with
    | unready _ _ hnone _ => exact ⟨_, hread.trans hnone, .held _ hlength hset, hok⟩
    | lost _ _ _ hts => exact ⟨_, hread.trans hts, .cleared none hlength hset, hok⟩
    | done _ _ _ hts _ => exact ⟨_, hread.trans hts, .cleared (some _) hlength hset, hok⟩
  · have hzero : device.status received = 0 := Decidable.not_not.mp (mt hc.mpr hset)
    rw [hzero, RegisterLayout.decode_zero]
    exact ⟨_, hread, .nothing hlength hzero, fun _ => rfl⟩

theorem took_takeInterrupts (l : Link (σ × List Signal)) :
    (device.recording.chip.perform .takeInterrupts).Ends l (device.Took l) := by
  cases device with
  | sx126x device =>
    let cmd := [Sx126x.Opcode.getIrqStatus.byte, 0]
    have hread : (device.bus.recording.readSingleShot cmd 2).Ends l _ :=
      Endpoint.once_readSingleShot (steady_unseen _) (by decide)
    refine took_of_read (.sx126x device) hread fun answer received l₁ hfits hlength hts => ?_
    have hfits : answer.toList = received.drop 2 := hfits
    have hreg : BitVec.ofNat 16 (BigEndian.value (received.drop 2)) = answer.word16.toBitVec := by
      rw [← hfits, ← answer.bytes16_word16, BigEndian.value_bytes16, ← UInt16.toNat_toBitVec,
        BitVec.ofNat_toNat, BitVec.setWidth_eq]
    let clear := Sx126x.Opcode.clearIrqStatus.byte :: answer.toList
    have hframe : clear = (sx126x device).clearing answer.word16.toBitVec :=
      congrArg _ answer.bytes16_word16.symm
    have hclear : (device.bus.recording.write clear).Ends l₁ _ :=
      Endpoint.once_write (steady_unseen _) (by simp [clear, Bus.maxTransfer])
    exact took_of_status (.sx126x device) hts hlength hreg (not_congr UInt16.toBitVec_inj.symm)
      hframe hclear
  | lr11xx device =>
    have hread : (device.bus.recording.readDirect 6).Ends l _ :=
      Endpoint.once_readDirect (steady_unseen _) 6
    refine took_of_read (.lr11xx device) hread fun answer received l₁ hfits hlength hts => ?_
    let register : Answer 4 := answer.drop 2
    have hfits : register.toList = received.drop 2 := by
      rw [← hfits]
      exact Vector.toList_drop
    have hreg : BitVec.ofNat 32 (BigEndian.value (received.drop 2)) =
        register.word32.toBitVec := by
      rw [← hfits, ← register.bytes32_word32, BigEndian.value_bytes32, ← UInt32.toNat_toBitVec,
        BitVec.ofNat_toNat, BitVec.setWidth_eq]
    let clear := BigEndian.bytes16 Lr11xx.Opcode.clearIrq.word ++ register.toList
    have hframe : clear = (lr11xx device).clearing register.word32.toBitVec :=
      congrArg (_ ++ ·) register.bytes32_word32.symm
    have hclear : (device.bus.recording.write clear).Ends l₁ _ :=
      Endpoint.once_write (steady_unseen _) (by simp [clear, Bus.maxTransfer])
    exact took_of_status (.lr11xx device) hts hlength hreg (not_congr UInt32.toBitVec_inj.symm)
      hframe hclear

end Status

/-- **Interrupts and their register**, for a chip of either family. A register that is decoded and
encoded again keeps the bits that stand for an interrupt. A set that is encoded and decoded again
keeps the interrupts that the chip has, and the two that share a bit of an LR11xx come back together
if one of them went in. Both ways take a union to the union. And whatever status is read, it is
cleared exactly as it was read, bits that stand for no interrupt included, unless it is zero. -/
theorem interrupts_translated (device : Device σ) :
    (∀ reg, device.interrupts.encode (device.interrupts.decode reg) = reg &&& device.knownBits) ∧
    (∀ s i, i ∈ device.interrupts.decode (device.interrupts.encode s) ↔
      device.Raises i ∧ (i ∈ s ∨ ∃ j ∈ device.twin? i, j ∈ s)) ∧
    (∀ s t, device.interrupts.encode (s ∪ t) =
      device.interrupts.encode s ||| device.interrupts.encode t) ∧
    (∀ reg reg', device.interrupts.decode (reg ||| reg') =
      device.interrupts.decode reg ∪ device.interrupts.decode reg') ∧
    ∀ l : Link (σ × List Signal),
      (device.recording.chip.perform .takeInterrupts).Ends l fun r l' =>
        ∃ ts, l.Transferred l' ts ∧ device.TakesInterrupts r ts ∧
          (device.bus.Responds → r.isOk = true) :=
  ⟨fun reg => device.encode_all ▸ RegisterLayout.encode_decode device.interrupts_oneBit reg,
    device.mem_decode_encode, fun _ _ => RegisterLayout.encode_union,
    fun _ _ => RegisterLayout.decode_or, device.took_takeInterrupts⟩

end Device

namespace Bench

open Bus Transceiver.Action

/-- Wires over which everything gets through, and on which these bytes are read. -/
def answering (bytes : List UInt8) : Wire Unit :=
  { wire with transfer := fun _ w => (some (.ofFn fun i => bytes[i]?.getD 0), w) }

/-- An SX1262 at the end of such wires. -/
def answerer (bytes : List UInt8) : Device Unit := .sx126x {
  wire := answering bytes
  board := ⟨false, false, false⟩
  config := { variant := .sx1262, tcxo := none, useDcdc := false, rxBoost := false } }

theorem responds_answerer (bytes : List UInt8) : (answerer bytes).bus.Responds where
  transfer _ _ := rfl
  hold _ _ := rfl
  ready _ := ⟨0, Nat.zero_lt_succ _, rfl, nofun⟩

/-- Two of the four bits that are read stand for interrupts, and all four are cleared. -/
theorem interrupts_translated_unknown_bits :
    let device := answerer [0xA2, 0xA2, 0xC2, 0x01]
    device.bus.Responds ∧
      (device.recording.chip.perform .takeInterrupts).Ends { world := ((), []) } fun r l' =>
        let ts := l'.signals.filterMap Signal.transfer?
        r = .ok {.txDone, .timeout} ∧ device.TakesInterrupts r ts ∧
          ts.map Prod.fst = [[0x12, 0, 0, 0], [0x02, 0xC2, 0x01]] := by
  intro device
  obtain ⟨-, -, -, -, htakes⟩ := device.interrupts_translated
  refine ⟨responds_answerer _, ?_⟩
  obtain ⟨ts, ⟨xs, hsignals, rfl⟩, htakes, -⟩ := htakes { world := ((), []) }
  rw [show xs = _ from hsignals.symm] at htakes
  exact ⟨rfl, htakes, rfl⟩

end Bench

end Transceiver
