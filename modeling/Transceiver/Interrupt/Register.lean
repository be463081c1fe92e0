import Transceiver.Interrupt

/-! Interrupt registers. Each chip family gives every interrupt that it has a bit of its status
register; two interrupts may share one bit. -/

namespace Transceiver

/-- Which bit of a register of `w` bits stands for which interrupt. -/
structure RegisterLayout (w : Nat) where
  bits : List (Interrupt × Fin w)

namespace RegisterLayout

variable {w : Nat} (layout : RegisterLayout w)

/-- The register with the bits of the interrupts in a set. -/
def encode (s : InterruptSet) : BitVec w :=
  layout.bits.foldl (fun reg (i, k) => if i ∈ s then reg ||| .twoPow w k else reg) 0

/-- The interrupts whose bits are set in a register. -/
def decode (reg : BitVec w) : InterruptSet :=
  layout.bits.foldl (fun s (i, k) => if reg[k] then s ∪ {i} else s) ∅

end RegisterLayout

end Transceiver
