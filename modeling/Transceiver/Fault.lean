/-! Causes of failure, and steps that may fail. A step that fails keeps the changes it made
before it failed, since a command already sent cannot be taken back. -/

namespace Transceiver

/-- Why an operation did not do what it was asked. -/
inductive Fault where
  /-- The chip does not offer the operation. -/
  | notSupported
  /-- An argument is out of range or does not fit the current modem. -/
  | invalidParams
  /-- A transfer on the bus failed. -/
  | io
  /-- The busy line stayed high, or a scan owns the radio. -/
  | busy
  /-- A transfer does not fit its buffer. -/
  | noMemory
  /-- The chip rejected or failed a sequence of commands. -/
  | hardware
  /-- The radio is in a state that does not allow the operation. -/
  | invalidState
  /-- A received packet could not be validated. -/
  | generic
  /-- The reset line could not be driven. -/
  | resetLine
  /-- The interrupt line could not be read or awaited. -/
  | interruptLine
  /-- The receive antenna line could not be driven. -/
  | rxAntenna
  /-- The transmit antenna line, or the external amplifier line, could not be driven. -/
  | txAntenna
  deriving DecidableEq

/-- A step over surroundings `σ` that returns a value or fails. -/
abbrev Action (σ : Type) := EStateM Fault σ

namespace Action

variable {σ τ α : Type}

/-- The step `x`, with every fault reported as `f`. -/
def reporting (f : Fault) (x : Action σ α) : Action σ α := fun s =>
  match x s with
  | .ok a s => .ok a s
  | .error _ s => .error f s

/-- The step `x` with its fault as a value, so that what follows runs either way. -/
def attempt (x : Action σ α) : Action σ (Except Fault α) := fun s =>
  match x s with
  | .ok a s => .ok (.ok a) s
  | .error e s => .ok (.error e) s

/-- The outcome of an attempt, as the outcome of the step that asks for it. -/
def settle : Except Fault α → Action σ α
  | .ok a => pure a
  | .error e => throw e

/-- The step `x` on the part of the surroundings that `get` reads and `set` replaces. -/
def onPart (get : τ → σ) (set : τ → σ → τ) (x : Action σ α) : Action τ α := fun t =>
  match x (get t) with
  | .ok a s => .ok a (set t s)
  | .error e s => .error e (set t s)

/-- A step that always succeeds, as a step that may fail. -/
def ofState (x : StateM σ α) : Action σ α := fun s =>
  match x s with
  | (a, s) => .ok a s

/-- A step that tells success from failure only, failing with `f`. -/
def ofOption (f : Fault) (x : StateM σ (Option α)) : Action σ α := fun s =>
  match x s with
  | (some a, s) => .ok a s
  | (none, s) => .error f s

theorem settle_attempt (x : Action σ α) : (attempt x >>= settle) = x := by
  funext s
  simp only [bind, EStateM.bind, attempt]
  cases x s <;> rfl

end Action

end Transceiver
