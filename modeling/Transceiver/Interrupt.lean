import Transceiver.Modem

/-! Interrupts and sets of interrupts, independent of how a chip family lays out its status
register. A set is a bit vector with one bit for each interrupt. -/

namespace Transceiver

/-- A cause for which the chip may raise its interrupt line. -/
inductive Interrupt where
  | txDone
  | rxDone
  | preambleDetected
  /-- The FSK sync word or a valid LoRa header was found. -/
  | syncWordValid
  | headerValid
  | headerError
  | crcError
  | cadDone
  | cadDetected
  /-- The receive or transmit timer ran out. -/
  | timeout
  /-- The chip's error register is not zero. -/
  | chipError
  | commandError
  | gnssScanDone
  | wifiScanDone
  deriving DecidableEq

/-- The bit that stands for an interrupt. -/
def Interrupt.position : Interrupt → Fin 14
  | .txDone => 0
  | .rxDone => 1
  | .preambleDetected => 2
  | .syncWordValid => 3
  | .headerValid => 4
  | .headerError => 5
  | .crcError => 6
  | .cadDone => 7
  | .cadDetected => 8
  | .timeout => 9
  | .chipError => 10
  | .commandError => 11
  | .gnssScanDone => 12
  | .wifiScanDone => 13

/-- A set of interrupts: a mask that is armed, or a status that is read. -/
structure InterruptSet where
  bits : BitVec 14
  deriving DecidableEq

namespace InterruptSet

instance : Membership Interrupt InterruptSet where
  mem s i := s.bits[i.position] = true

instance (i : Interrupt) (s : InterruptSet) : Decidable (i ∈ s) :=
  inferInstanceAs (Decidable (s.bits[i.position] = true))

instance : EmptyCollection InterruptSet := ⟨⟨0⟩⟩

instance : Singleton Interrupt InterruptSet := ⟨fun i => ⟨.twoPow 14 i.position⟩⟩

instance : Union InterruptSet := ⟨fun s t => ⟨s.bits ||| t.bits⟩⟩

instance : Insert Interrupt InterruptSet := ⟨fun i s => {i} ∪ s⟩

/-- Every interrupt. -/
def all : InterruptSet := ⟨.allOnes 14⟩

/-- The set that a number denotes in binary; bits that stand for no interrupt are dropped. -/
def ofNat (n : Nat) : InterruptSet := ⟨.ofNat 14 n⟩

/-- The number that denotes the set in binary. -/
def toNat (s : InterruptSet) : Nat := s.bits.toNat

/-- The mask armed for LoRa. -/
def loraDefault : InterruptSet :=
  {.txDone, .rxDone, .timeout, .crcError, .headerError, .cadDone, .cadDetected, .chipError}

/-- The mask armed for FSK. -/
def fskDefault : InterruptSet :=
  {.txDone, .rxDone, .timeout, .syncWordValid, .crcError, .chipError}

/-- The mask armed for a modem. -/
def defaultFor : Modem → InterruptSet
  | .lora => loraDefault
  | .fsk => fskDefault

/-- The narrow mask armed during an FSK carrier sense window. -/
def carrierSense : InterruptSet := {.timeout, .preambleDetected}

/-- The interrupts that belong to a scan. -/
def scan : InterruptSet := {.gnssScanDone, .wifiScanDone, .commandError}

@[ext] theorem ext {s t : InterruptSet} (h : ∀ i, i ∈ s ↔ i ∈ t) : s = t := by
  obtain ⟨s⟩ := s
  obtain ⟨t⟩ := t
  congr 1
  ext k hk
  have : ∃ i : Interrupt, i.position = ⟨k, hk⟩ := by
    rcases k with _ | _ | _ | _ | _ | _ | _ | _ | _ | _ | _ | _ | _ | _ | k
    · exact ⟨.txDone, rfl⟩
    · exact ⟨.rxDone, rfl⟩
    · exact ⟨.preambleDetected, rfl⟩
    · exact ⟨.syncWordValid, rfl⟩
    · exact ⟨.headerValid, rfl⟩
    · exact ⟨.headerError, rfl⟩
    · exact ⟨.crcError, rfl⟩
    · exact ⟨.cadDone, rfl⟩
    · exact ⟨.cadDetected, rfl⟩
    · exact ⟨.timeout, rfl⟩
    · exact ⟨.chipError, rfl⟩
    · exact ⟨.commandError, rfl⟩
    · exact ⟨.gnssScanDone, rfl⟩
    · exact ⟨.wifiScanDone, rfl⟩
    · omega
  obtain ⟨i, hi⟩ := this
  have hmem := h i
  simp only [Membership.mem, hi] at hmem
  exact Bool.eq_iff_iff.mpr hmem

theorem mem_union {i : Interrupt} {s t : InterruptSet} : i ∈ s ∪ t ↔ i ∈ s ∨ i ∈ t := by
  simp [Membership.mem, Union.union]

theorem not_mem_empty {i : Interrupt} : i ∉ (∅ : InterruptSet) := by
  cases i <;> decide

theorem mem_all {i : Interrupt} : i ∈ all := by
  cases i <;> decide

end InterruptSet

end Transceiver
