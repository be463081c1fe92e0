import Transceiver.Proofs.BusUse
import Transceiver.Proofs.SingleTransfer

/-! The list of registers that an SX126x keeps over a warm start. The list is in the memory of the
chip, with a count that may be larger than the room for addresses. The host reads it, adds an
address that is missing behind those in use, and writes it back, once for each of two registers.
What was in use before stays where it is, whatever fails on the way. -/

namespace Transceiver.Sx126x

open Bus

/-- The address of a register, as it is listed. -/
def Register.entry (r : Register) : UInt8 × UInt8 :=
  ((r.address >>> 8).toUInt8, r.address.toUInt8)

namespace RetentionList

variable {list : RetentionList}

theorem length_entries : list.entries.length = min list.count.toNat 4 := List.length_take

/-- Where there is room, the address comes behind those in use, and is counted with them. -/
theorem entries_push (h : list.entries.length < 4) (hi lo : UInt8) :
    (list.push hi lo).entries = list.entries ++ [(hi, lo)] ∧
      (list.push hi lo).count.toNat = list.entries.length + 1 := by
  have hlength : list.entries.length = list.count.toNat := by
    rw [length_entries] at h ⊢
    omega
  unfold push
  rw [hlength] at h ⊢
  unfold count at h ⊢
  obtain hcount | hcount | hcount | hcount : list[0].toNat = 0 ∨ list[0].toNat = 1 ∨
    list[0].toNat = 2 ∨ list[0].toNat = 3 := by omega
  all_goals simp [entries, hcount]

/-- What is sent to write the list. -/
def writing (list : RetentionList) : List UInt8 :=
  Opcode.writeRegister.byte :: BigEndian.bytes16 Register.retentionList.address ++ list.toList

/-- The addresses of those registers that are not listed. -/
def absent (list : RetentionList) (needed : List Register) : List (UInt8 × UInt8) :=
  (needed.map Register.entry).filter fun entry => !list.entries.contains entry

variable {register : Register} {needed : List Register}

theorem mem_absent (hregister : register ∈ needed) (h : register.entry ∉ list.entries) :
    register.entry ∈ list.absent needed :=
  List.mem_filter.mpr ⟨List.mem_map_of_mem hregister, by simpa using h⟩

theorem absent_cons_of_mem (h : register.entry ∈ list.entries) :
    list.absent (register :: needed) = list.absent needed :=
  List.filter_cons_of_neg (by simpa using h)

theorem absent_cons_of_not_mem (h : register.entry ∉ list.entries) :
    list.absent (register :: needed) = register.entry :: list.absent needed :=
  List.filter_cons_of_pos (by simpa using h)

end RetentionList

/-! ## Lists that are written -/

/-- How a register is added to the list, with the outcome, the list that is left, and what was sent
to write it. A bus that responds does not fail. -/
inductive Retains (responds : Prop) (register : Register) (before : RetentionList) :
    Except Fault Unit → RetentionList → List (List UInt8) → Prop
  | present : register.entry ∈ before.entries → Retains responds register before (.ok ()) before []
  | full : register.entry ∉ before.entries → before.entries.length = 4 →
    Retains responds register before (.error .invalidParams) before []
  | appended {after : RetentionList} : register.entry ∉ before.entries →
    before.entries.length < 4 → after = before.push register.entry.1 register.entry.2 →
    Retains responds register before (.ok ()) after [after.writing]
  /-- It was not found out what the list is, or the chip did not get ready for it to be written. -/
  | unwritten {e : Fault} : ¬responds → e = .busy ∨ e = .io →
    Retains responds register before (.error e) before []
  /-- The list was written, but the transfer failed. -/
  | broken {e : Fault} {longer after : RetentionList} : ¬responds → e = .busy ∨ e = .io →
    register.entry ∉ before.entries → before.entries.length < 4 →
    longer = before.push register.entry.1 register.entry.2 → after = before ∨ after = longer →
    Retains responds register before (.error e) after [longer.writing]

namespace Retains

variable {responds : Prop} {register : Register} {before after : RetentionList}
  {r : Except Fault Unit} {written : List (List UInt8)}

/-- The register was missing, and comes behind those that were in use. -/
def Lengthens (register : Register) (before after : RetentionList) : Prop :=
  register.entry ∉ before.entries ∧ after.entries = before.entries ++ [register.entry] ∧
    after.count.toNat ≤ 4

theorem lengthens_push (habsent : register.entry ∉ before.entries)
    (hroom : before.entries.length < 4) :
    Lengthens register before (before.push register.entry.1 register.entry.2) := by
  obtain ⟨hentries, hcount⟩ := RetentionList.entries_push hroom register.entry.1 register.entry.2
  exact ⟨habsent, hentries, hcount ▸ hroom⟩

theorem same_or_lengthens (h : Retains responds register before r after written) :
    after = before ∨ Lengthens register before after := by
  cases h with
  | present | full | unwritten => exact .inl rfl
  | appended habsent hroom hpush => exact .inr (hpush ▸ lengthens_push habsent hroom)
  | broken _ _ habsent hroom hpush hafter =>
    obtain rfl | rfl := hafter
    · exact .inl rfl
    · exact .inr (hpush ▸ lengthens_push habsent hroom)

theorem of_ok (h : Retains responds register before (.ok ()) after written) :
    register.entry ∈ before.entries ∧ after = before ∧ written = [] ∨
      Lengthens register before after := by
  cases h with
  | present hlisted => exact .inl ⟨hlisted, rfl, rfl⟩
  | appended habsent hroom hpush => exact .inr (hpush ▸ lengthens_push habsent hroom)

/-- Nothing in use is changed. -/
theorem kept (h : Retains responds register before r after written) :
    before.entries <+: after.entries := by
  obtain rfl | ⟨-, hentries, -⟩ := h.same_or_lengthens
  · exact List.prefix_rfl
  · exact hentries ▸ List.prefix_append ..

/-- What is missing is not missed any more, but for the others that are needed. -/
theorem absent {needed : List Register}
    (h : Retains responds register before (.ok ()) after written)
    (hnew : register.entry ∉ needed.map Register.entry) :
    before.entries ++ before.absent (register :: needed) =
      after.entries ++ after.absent needed := by
  obtain ⟨hlisted, rfl, -⟩ | ⟨habsent, hentries, -⟩ := h.of_ok
  · rw [RetentionList.absent_cons_of_mem hlisted]
  · have hsame : after.absent needed = before.absent needed := by
      refine List.filter_congr fun entry hentry => ?_
      have hne : entry ≠ register.entry := fun heq => hnew (heq ▸ hentry)
      simp [hentries, hne]
    rw [RetentionList.absent_cons_of_not_mem habsent, hentries, hsame, List.append_assoc]
    rfl

end Retains

/-- How registers are added one after another, until one of them is not. -/
inductive RetainsAll (responds : Prop) : List Register → RetentionList →
    Except Fault Unit → RetentionList → List (List UInt8) → Prop
  | nil (list : RetentionList) : RetainsAll responds [] list (.ok ()) list []
  | next {register : Register} {needed : List Register} {before between after : RetentionList}
    {r : Except Fault Unit} {written more : List (List UInt8)} :
    Retains responds register before (.ok ()) between written →
    RetainsAll responds needed between r after more →
    RetainsAll responds (register :: needed) before r after (written ++ more)
  | failed {register : Register} {needed : List Register} {before after : RetentionList} {e : Fault}
    {written : List (List UInt8)} : Retains responds register before (.error e) after written →
    RetainsAll responds (register :: needed) before (.error e) after written

namespace RetainsAll

variable {responds : Prop} {needed : List Register} {before after : RetentionList}
  {r : Except Fault Unit} {written : List (List UInt8)}

theorem kept (h : RetainsAll responds needed before r after written) :
    before.entries <+: after.entries := by
  induction h with
  | nil => exact List.prefix_rfl
  | next hfirst _ ih => exact hfirst.kept.trans ih
  | failed hfirst => exact hfirst.kept

/-- What is missing is added behind, in the order in which it is needed; all of it unless something
fails. -/
theorem added (h : RetainsAll responds needed before r after written)
    (hneeded : (needed.map Register.entry).Nodup) :
    after.entries <+: before.entries ++ before.absent needed ∧
      (r.isOk = true → after.entries = before.entries ++ before.absent needed) := by
  induction h with
  | nil list => simp [RetentionList.absent]
  | next hfirst _ ih =>
    obtain ⟨hnew, hneeded⟩ := List.nodup_cons.mp hneeded
    rw [hfirst.absent hnew]
    exact ih hneeded
  | failed hfirst =>
    refine ⟨?_, nofun⟩
    obtain rfl | ⟨habsent, hentries, -⟩ := hfirst.same_or_lengthens
    · exact List.prefix_append ..
    · rw [hentries, RetentionList.absent_cons_of_not_mem habsent]
      simp

theorem found (h : RetainsAll responds needed before r after written)
    (hneeded : (needed.map Register.entry).Nodup) (hr : r.isOk = true) {register : Register}
    (hregister : register ∈ needed) : register.entry ∈ after.entries := by
  rw [(h.added hneeded).2 hr]
  by_cases hlisted : register.entry ∈ before.entries
  · exact List.mem_append_left _ hlisted
  · exact List.mem_append_right _ (RetentionList.mem_absent hregister hlisted)

/-- A count that is too large stays only where nothing is added. -/
theorem count (h : RetainsAll responds needed before r after written) (hr : r.isOk = true) :
    after.count.toNat ≤ 4 ∨ after = before ∧ written = [] := by
  induction h with
  | nil => exact .inr ⟨rfl, rfl⟩
  | next hfirst _ ih =>
    obtain ⟨-, rfl, rfl⟩ | ⟨-, -, hcount⟩ := hfirst.of_ok
    · exact ih hr
    · obtain hafter | ⟨rfl, -⟩ := ih hr
      · exact .inl hafter
      · exact .inl hcount
  | failed => cases hr

/-- The list is found too short only where four addresses are in use and one is missing. -/
theorem full (h : RetainsAll responds needed before r after written)
    (hr : r = .error .invalidParams) :
    after.entries.length = 4 ∧ ∃ register ∈ needed, register.entry ∉ after.entries := by
  induction h with
  | nil => cases hr
  | next _ _ ih =>
    obtain ⟨hlength, register, hregister, habsent⟩ := ih hr
    exact ⟨hlength, register, .tail _ hregister, habsent⟩
  | @failed register _ _ _ _ _ hfirst =>
    cases hr
    cases hfirst with
    | full habsent hlength => exact ⟨hlength, register, .head _, habsent⟩
    | unwritten _ he => simp at he
    | broken _ he => simp at he

/-- It fails for want of room, or as the bus does. -/
theorem fault (h : RetainsAll responds needed before r after written) {e : Fault}
    (hr : r = .error e) : e = .invalidParams ∨ ¬responds ∧ (e = .busy ∨ e = .io) := by
  induction h with
  | nil => cases hr
  | next _ _ ih => exact ih hr
  | failed hfirst =>
    cases hr
    cases hfirst with
    | full => exact .inl rfl
    | unwritten hbus he => exact .inr ⟨hbus, he⟩
    | broken hbus he => exact .inr ⟨hbus, he⟩

/-- Where nothing is missing, nothing is written. -/
theorem quiet (h : RetainsAll responds needed before r after written)
    (hlisted : ∀ register ∈ needed, register.entry ∈ before.entries) :
    after = before ∧ written = [] := by
  induction h with
  | nil => exact ⟨rfl, rfl⟩
  | next hfirst _ ih =>
    obtain ⟨hfirstListed, hlisted⟩ := List.forall_mem_cons.mp hlisted
    obtain ⟨-, rfl, rfl⟩ | ⟨habsent, -⟩ := hfirst.of_ok
    · exact ih hlisted
    · exact absurd hfirstListed habsent
  | failed hfirst =>
    have hfirstListed := hlisted _ (.head _)
    cases hfirst with
    | full habsent => exact absurd hfirstListed habsent
    | unwritten => exact ⟨rfl, rfl⟩
    | broken _ _ habsent => exact absurd hfirstListed habsent

/-- There is room for all that is missing exactly if it is added. -/
theorem room (h : RetainsAll responds needed before r after written)
    (hneeded : (needed.map Register.entry).Nodup) :
    (r.isOk = true → before.entries.length + (before.absent needed).length ≤ 4) ∧
      (r = .error .invalidParams → 4 < before.entries.length + (before.absent needed).length) := by
  obtain ⟨hadded, hwhole⟩ := h.added hneeded
  constructor
  · intro hr
    rw [← List.length_append, ← hwhole hr, RetentionList.length_entries]
    exact Nat.min_le_right ..
  · intro hr
    obtain ⟨hlength, register, hregister, habsent⟩ := h.full hr
    have hmissing : register.entry ∈ before.absent needed :=
      RetentionList.mem_absent hregister fun hlisted => habsent (h.kept.subset hlisted)
    have hne : after.entries ≠ before.entries ++ before.absent needed := fun heq =>
      habsent (heq ▸ List.mem_append_right _ hmissing)
    have hlt := Nat.lt_of_le_of_ne hadded.length_le fun heq => hne (hadded.eq_of_length heq)
    rwa [hlength, List.length_append] at hlt

end RetainsAll

/-! ## The chip's memory -/

/-- What the memory of a chip holds. -/
abbrev Memory := UInt16 → UInt8

namespace Memory

/-- What it holds after these bytes: what is written is stored from an address on. -/
def after (memory : Memory) : List UInt8 → Memory
  | op :: hi :: lo :: data =>
    if op = Opcode.writeRegister.byte then fun address =>
      data[(address - BigEndian.word16 hi lo).toNat]?.getD (memory address)
    else memory
  | _ => memory

def retained (memory : Memory) : RetentionList :=
  .ofFn fun i => memory (Register.retentionList.address + .ofNat i)

/-- The list that is written is the one that is stored. -/
theorem retained_writing (memory : Memory) (list : RetentionList) :
    (memory.after list.writing).retained = list := by
  refine Vector.ext fun i hi => ?_
  have hback : (Register.retentionList.address + .ofNat i -
      Register.retentionList.address).toNat = i := by
    rw [UInt16.add_comm, UInt16.add_sub_cancel]
    exact UInt16.toNat_ofNat_of_lt' (show i < 65536 by omega)
  rw [retained, Vector.getElem_ofFn]
  show list.toList[(_ - Register.retentionList.address).toNat]?.getD _ = _
  rw [hback]
  simp [hi]

end Memory

/-- What is sent to read `n` bytes from an address on. -/
def reading (address : UInt16) (n : Nat) : List UInt8 :=
  Opcode.readRegister.byte :: BigEndian.bytes16 address ++ 0 :: .replicate n 0

theorem Memory.after_reading (memory : Memory) (address : UInt16) (n : Nat) :
    memory.after (reading address n) = memory := rfl

/-- Behind the wires is a chip with this memory. It stores what is written, and answers with what it
stored. A transfer that fails may have got to it or not. -/
structure Recalls {σ : Type} (wire : Wire σ) (memory : σ → Memory) : Prop
    extends wire.Steady memory where
  lost : ∀ sent w, (wire.transfer sent w).1 = none →
    memory (wire.transfer sent w).2 = memory w ∨
      memory (wire.transfer sent w).2 = (memory w).after sent
  stored : ∀ sent w received, (wire.transfer sent w).1 = some received →
    memory (wire.transfer sent w).2 = (memory w).after sent
  answered : ∀ address n w received, (wire.transfer (reading address n) w).1 = some received →
    received.toList.drop 4 = (List.range n).map fun i => memory w (address + .ofNat i)

/-- What is sent writes to the memory. -/
def Writes (sent : List UInt8) : Prop := sent.head? = some Opcode.writeRegister.byte

instance (sent : List UInt8) : Decidable (Writes sent) := inferInstanceAs (Decidable (_ = _))

/-- What was sent in these transfers to write to the memory. -/
def written (ts : List Transfer) : List (List UInt8) := (ts.map Prod.fst).filter (Writes ·)

namespace Device

open Transceiver.Action

variable {σ : Type} {device : Device σ} {memory : σ → Memory} {l : Link (σ × List Signal)}

theorem retained_of_answered {answer : Answer 9} {m : Memory}
    (h : answer.toList =
      (List.range 9).map fun i => m (Register.retentionList.address + .ofNat i)) :
    answer = m.retained := by
  refine Vector.toList_inj.mp (h.trans (List.ext_getElem (by simp) fun i _ _ => ?_))
  simp [Memory.retained]

/-- The list is written with a register that was missing. -/
theorem ends_append (h : Recalls device.bus.wire memory) {register : Register}
    (habsent : register.entry ∉ (memory l.world.1).retained.entries)
    (hroom : (memory l.world.1).retained.entries.length < 4) :
    (device.recording.writeRegister .retentionList ((memory l.world.1).retained.push
      register.entry.1 register.entry.2).toList).Ends l fun r l' => ∃ ts, l.Transferred l' ts ∧
        Retains device.bus.Responds register (memory l.world.1).retained r
          (memory l'.world.1).retained (written ts) := by
  let longer := (memory l.world.1).retained.push register.entry.1 register.entry.2
  have hwrite : (device.bus.recording.send (Opcode.writeRegister.byte ::
      BigEndian.bytes16 Register.retentionList.address) longer.toList).Ends l _ :=
    Endpoint.once_send h.toSteady (by simp [Bus.maxTransfer])
  refine hwrite.mono fun r l' hl => ?_
  have hok := hl.isOk
  cases hl with
  | unready hbus he hnone hmemory =>
    refine ⟨[], hnone, ?_⟩
    rw [hmemory]
    exact .unwritten hbus he
  | @lost w _ hmemory hlost hworld hts =>
    have hafter : (memory l'.world.1).retained = (memory l.world.1).retained ∨
        (memory l'.world.1).retained = longer := by
      rw [hworld, ← hmemory]
      refine (h.lost _ _ hlost).imp (congrArg _) fun hstored => ?_
      rw [hstored]
      exact (memory w).retained_writing longer
    have hbus : ¬device.bus.Responds := fun hbus => Bool.false_ne_true (hok hbus)
    exact ⟨_, hts, .broken hbus (.inr rfl) habsent hroom rfl hafter⟩
  | @done w _ _ _ hmemory hdone hworld hts =>
    have hafter : (memory l'.world.1).retained = longer := by
      rw [hworld, h.stored _ _ _ hdone]
      exact (memory w).retained_writing longer
    refine ⟨_, hts, ?_⟩
    rw [hafter]
    exact .appended habsent hroom rfl

theorem ends_retain (h : Recalls device.bus.wire memory) (register : Register) :
    (device.recording.retain register).Ends l fun r l' => ∃ ts, l.Transferred l' ts ∧
      Retains device.bus.Responds register (memory l.world.1).retained r
        (memory l'.world.1).retained (written ts) := by
  let cmd := Opcode.readRegister.byte :: BigEndian.bytes16 Register.retentionList.address ++ [0]
  have hread : (device.bus.recording.readSingleShot cmd 9).Ends l _ :=
    Endpoint.once_readSingleShot h.toSteady (by decide)
  refine ends_bind.mpr <| hread.mono fun r l₁ hl => ?_
  have hok := hl.isOk
  cases hl with
  | unready hbus he hnone hmemory =>
    refine ⟨[], hnone, ?_⟩
    rw [hmemory]
    exact .unwritten hbus he
  | lost hmemory hlost hworld hts =>
    have hsame : memory l₁.world.1 = memory l.world.1 := by
      rw [hworld, ← hmemory]
      exact (h.lost _ _ hlost).elim id (·.trans (Memory.after_reading _ _ 9))
    have hbus : ¬device.bus.Responds := fun hbus => Bool.false_ne_true (hok hbus)
    refine ⟨_, hts, ?_⟩
    rw [hsame]
    exact .unwritten hbus (.inr rfl)
  | @done w received list _ hmemory hdone hworld hts hfits =>
    have hsame : memory l₁.world.1 = memory l.world.1 := by
      rw [hworld, h.stored _ _ _ hdone, hmemory]
      exact Memory.after_reading _ _ 9
    obtain rfl : list = (memory l₁.world.1).retained := by
      rw [hsame, ← hmemory]
      exact retained_of_answered (hfits.trans (h.answered _ 9 w received hdone))
    rw [← hsame]
    refine ends_ite.mpr ?_
    split <;> rename_i habsent
    · exact ⟨_, hts, .present habsent⟩
    refine ends_ite.mpr ?_
    split <;> rename_i hlength
    · exact ⟨_, hts, .full habsent hlength⟩
    have hroom : (memory l₁.world.1).retained.entries.length < 4 := by
      rw [RetentionList.length_entries] at hlength ⊢
      omega
    exact (ends_append h habsent hroom).mono fun _ _ ⟨us, hus, hretains⟩ =>
      ⟨_, hts.trans hus, hretains⟩

theorem ends_updateRetention (h : Recalls device.bus.wire memory) (l : Link (σ × List Signal)) :
    device.recording.updateRetention.Ends l fun r l' => ∃ ts, l.Transferred l' ts ∧
      RetainsAll device.bus.Responds [.rxGain, .txModulation] (memory l.world.1).retained r
        (memory l'.world.1).retained (written ts) := by
  refine ends_bind.mpr <| (ends_retain h .rxGain).mono fun
    | .error e, l₁, ⟨ts, hts, hfirst⟩ => ⟨ts, hts, .failed hfirst⟩
    | .ok _, l₁, ⟨ts, hts, hfirst⟩ => ?_
  refine (ends_retain h .txModulation).mono fun r l₂ ⟨us, hus, hsecond⟩ => ?_
  have hboth : written (ts ++ us) = written ts ++ written us := by
    rw [written, List.map_append, List.filter_append]
    rfl
  refine ⟨ts ++ us, hts.trans hus, hboth ▸ .next hfirst ?_⟩
  cases r with
  | error e => exact .failed hsecond
  | ok =>
    rw [← List.append_nil (written us)]
    exact .next hsecond (.nil _)

end Device

/-- How the list is updated with these registers, with the outcome and what was sent to write. -/
structure Updated (responds : Prop) (needed : List Register) (before : RetentionList)
    (r : Except Fault Unit) (after : RetentionList) (sent : List (List UInt8)) : Prop where
  /-- What was in use stays where it is. -/
  kept : before.entries <+: after.entries
  /-- Nothing is added but what is missing. -/
  added : after.entries <+: before.entries ++ before.absent needed
  whole : r.isOk = true → after.entries = before.entries ++ before.absent needed
  found : r.isOk = true → ∀ register ∈ needed, register.entry ∈ after.entries
  /-- A count above the room stays only where nothing is written. -/
  count : r.isOk = true →
    after.count.toNat ≤ 4 ∨ 4 < before.count.toNat ∧ after = before ∧ sent = []
  fault : ∀ e, r = .error e → e = .invalidParams ∨ e = .busy ∨ e = .io
  /-- The list is refused only where four addresses are in use and one is missing. -/
  full : r = .error .invalidParams →
    after.entries.length = 4 ∧ ∃ register ∈ needed, register.entry ∉ after.entries
  decided : responds → r = .ok () ∨ r = .error .invalidParams
  refused : responds → (r = .error .invalidParams ↔
    after.entries.length = 4 ∧ ∃ register ∈ needed, register.entry ∉ after.entries)
  /-- Whether it is refused follows from what was in use before. -/
  room : responds →
    (r = .error .invalidParams ↔ 4 < before.entries.length + (before.absent needed).length)

theorem RetainsAll.updated {responds : Prop} {needed : List Register} {before after : RetentionList}
    {r : Except Fault Unit} {sent : List (List UInt8)}
    (h : RetainsAll responds needed before r after sent)
    (hneeded : (needed.map Register.entry).Nodup) :
    Updated responds needed before r after sent := by
  have hdecided (hbus : responds) : r = .ok () ∨ r = .error .invalidParams := by
    cases r with
    | ok => exact .inl rfl
    | error e =>
      obtain rfl | ⟨hnot, -⟩ := h.fault rfl
      · exact .inr rfl
      · exact absurd hbus hnot
  exact {
    kept := h.kept
    added := (h.added hneeded).1
    whole := (h.added hneeded).2
    found := fun hr _ => h.found hneeded hr
    count := fun hr => by
      obtain hcount | ⟨rfl, hsent⟩ := h.count hr
      · exact .inl hcount
      · exact (Nat.lt_or_ge 4 _).symm.imp_right fun hlt => ⟨hlt, rfl, hsent⟩
    fault := fun _ he => (h.fault he).imp_right And.right
    full := h.full
    decided := hdecided
    refused := fun hbus => ⟨h.full, fun ⟨_, register, hregister, habsent⟩ =>
      (hdecided hbus).resolve_left fun hr => habsent (h.found hneeded (hr ▸ rfl) hregister)⟩
    room := fun hbus => ⟨(h.room hneeded).2, fun hlt => (hdecided hbus).resolve_left fun hr =>
      absurd ((h.room hneeded).1 (hr ▸ rfl)) (Nat.not_le.mpr hlt)⟩ }

/-- **The update of the retention list**, for any list, any wires to a chip that stores what is
written, and any failures on the way. The addresses in use before stay in their places, and behind
them come those of the two registers that were missing: both, if it succeeds, after which neither is
missing and another update writes nothing. It is refused where an address is missing while four are
in use, which may be after the first was added; on a bus that responds it fails for nothing else. -/
theorem Device.retention_updated {σ : Type} (device : Device σ) {memory : σ → Memory}
    (h : Recalls device.wire memory) (l : Link (σ × List Signal)) :
    device.recording.updateRetention.Ends l fun r l' => ∃ ts, l.Transferred l' ts ∧
      Updated device.bus.Responds [.rxGain, .txModulation] (memory l.world.1).retained r
        (memory l'.world.1).retained (written ts) ∧
      (r.isOk = true → device.recording.updateRetention.Ends l' fun r' l'' =>
        ∃ us, l'.Transferred l'' us ∧ written us = [] ∧
          (memory l''.world.1).retained = (memory l'.world.1).retained ∧
          (device.bus.Responds → r' = .ok ())) := by
  have hneeded : ([Register.rxGain, .txModulation].map Register.entry).Nodup := by decide
  refine (ends_updateRetention h l).mono fun r l' ⟨ts, hts, hall⟩ =>
    ⟨ts, hts, hall.updated hneeded, fun hr => ?_⟩
  refine (ends_updateRetention h l').mono fun r' l'' ⟨us, hus, hagain⟩ => ?_
  have hlisted : ∀ register ∈ [Register.rxGain, .txModulation],
      register.entry ∈ (memory l'.world.1).retained.entries := fun _ => hall.found hneeded hr
  obtain ⟨hsame, hquiet⟩ := hagain.quiet hlisted
  refine ⟨us, hus, hquiet, hsame, fun hbus => ?_⟩
  refine ((hagain.updated hneeded).decided hbus).resolve_right fun hrefused => ?_
  obtain ⟨-, register, hregister, habsent⟩ := hagain.full hrefused
  exact habsent (hsame ▸ hlisted register hregister)

end Transceiver.Sx126x

namespace Transceiver.Bench

open Bus Sx126x

/-- What a chip with this memory answers in byte `i` after these bytes. -/
def recalled (memory : Memory) (i : Nat) : List UInt8 → UInt8
  | _ :: hi :: lo :: _ => memory (BigEndian.word16 hi lo + .ofNat (i - 4))
  | _ => 0

/-- Wires to a chip that stores what is written, over which everything gets through. -/
def recalling : Wire Memory where
  transfer sent memory := (some (.ofFn fun i => recalled memory i sent), memory.after sent)
  hold _ memory := (some (), memory)
  busy memory := (some false, memory)
  interrupt memory := (some false, memory)
  awaitInterrupt memory := (some (), memory)
  drive _ _ memory := (some (), memory)
  delayMicros _ memory := memory
  delayMillis _ memory := memory

theorem recalls_recalling : Recalls recalling id where
  hold _ _ := rfl
  busy _ := rfl
  delayMicros _ _ := rfl
  lost _ _ h := nomatch h
  stored _ _ _ _ := rfl
  answered address n memory received h := by
    obtain rfl := Option.some.inj h
    refine List.ext_getElem (by simp [reading]; omega) fun i _ _ => ?_
    have haddress : BigEndian.word16 (address >>> 8).toUInt8 address.toUInt8 = address :=
      BigEndian.word16_bytes16 address
    simp [reading, recalled, BigEndian.bytes16, haddress]

/-- A chip at the end of such wires. -/
def recaller : Sx126x.Device Memory where
  wire := recalling
  board := ⟨false, false, false⟩
  config := { variant := .sx1262, tcxo := none, useDcdc := false, rxBoost := false }

theorem responds_recaller : recaller.bus.Responds where
  transfer _ _ := rfl
  hold _ _ := rfl
  ready _ := ⟨0, Nat.zero_lt_succ _, rfl, nofun⟩

/-- On a chip that keeps nothing yet, both registers are listed, and nothing is written again. -/
theorem retention_updated_empty :
    Recalls recaller.wire id ∧ recaller.bus.Responds ∧
      recaller.recording.updateRetention.Ends { world := (fun _ => 0, []) } fun r l' =>
        r.isOk = true ∧ l'.world.1.retained.entries = [(0x08, 0xAC), (0x08, 0x89)] ∧
          recaller.recording.updateRetention.Ends l' fun r' l'' => r' = .ok () ∧
            ∃ us, l'.Transferred l'' us ∧ written us = [] := by
  let start : Link (Memory × List Signal) := { world := (fun _ => 0, []) }
  have hempty : (id start.world.1).retained.entries = [] := by decide
  have hmissing : (id start.world.1).retained.absent [.rxGain, .txModulation] =
      [(0x08, 0xAC), (0x08, 0x89)] := by decide
  refine ⟨recalls_recalling, responds_recaller, ?_⟩
  refine (recaller.retention_updated recalls_recalling start).mono
    fun r l' ⟨ts, _, hupdated, hagain⟩ => ?_
  have hr : r.isOk = true := by
    obtain rfl | hrefused := hupdated.decided responds_recaller
    · rfl
    · have hlt := (hupdated.room responds_recaller).mp hrefused
      rw [hempty, hmissing] at hlt
      exact absurd hlt (by decide)
  refine ⟨hr, ?_, (hagain hr).mono fun r' l'' ⟨us, hus, hquiet, _, hdone⟩ =>
    ⟨hdone responds_recaller, us, hus, hquiet⟩⟩
  have hwhole := hupdated.whole hr
  rwa [hempty, hmissing] at hwhole

end Transceiver.Bench
