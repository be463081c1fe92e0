import Transceiver.Proofs.Handshake

/-! Passages on a bus: what the host does with it, one thing after another, how each ended, and what
it left on the wires. -/

namespace Transceiver.Bus

/-- What the host does with a bus: it makes a call, or only waits until the chip is ready. -/
inductive Use where
  | call (call : Call)
  | await (budget : Nat)

/-- Do with the bus what is to be done; what is read is left out. -/
def Use.perform {σ : Type} (bus : Endpoint σ) : Use → Action (Link σ) Unit
  | .call asked => asked.perform bus
  | .await budget => bus.awaitReady budget

/-- A use of a bus, how it ended, and what it left on the wires. -/
structure Passage where
  use : Use
  outcome : Except Fault Unit
  signals : List Signal

namespace Endpoint

open Transceiver.Action Link

variable {σ : Type} (bus : Endpoint σ) (l : Link (σ × List Signal))

/-- The passage of a use, which is made on the link `l`. -/
def passage (use : Use) : Passage where
  use := use
  outcome := ((use.perform bus.recording).result l).1
  signals := ((use.perform bus.recording).result l).2.signals.drop l.signals.length

/-- The link after a use, whether it succeeds or fails. -/
def after (use : Use) : Link (σ × List Signal) := ((use.perform bus.recording).result l).2

/-- The link after some uses, each of which is made whether or not those before it failed. -/
def used (uses : List Use) : Link (σ × List Signal) := uses.foldl bus.after l

/-- The passages of some uses. -/
def passages (l : Link (σ × List Signal)) : List Use → List Passage
  | [] => []
  | use :: uses => bus.passage l use :: passages (bus.after l use) uses

variable {bus l}

theorem prefix_concat {ys : List Signal} (xs : List Signal) (x : Signal) (_ : x.switches = false)
    (h : ys <+: xs) : ys <+: xs ++ [x] := h.trans (List.prefix_append ..)

theorem prefix_perform (use : Use) :
    (use.perform bus.recording).Ends l fun _ l' => l.signals <+: l'.signals := by
  cases use with
  | await budget => exact bears_awaitReady prefix_concat budget l List.prefix_rfl
  | call call =>
    obtain ⟨xs, hsignals, -⟩ := ends_perform (l := l) bus call
    exact ⟨xs, hsignals.symm⟩

theorem signals_after (use : Use) :
    (bus.after l use).signals = l.signals ++ (bus.passage l use).signals := by
  have h : l.signals <+: (bus.after l use).signals := prefix_perform use
  exact (List.prefix_iff_eq_append.mp h).symm

theorem signals_passage {use : Use} {xs : List Signal}
    (h : (bus.after l use).signals = l.signals ++ xs) : (bus.passage l use).signals = xs :=
  List.append_cancel_left ((signals_after use).symm.trans h)

/-- What is on the wires after some uses is what their passages left there. -/
theorem signals_used (uses : List Use) :
    (bus.used l uses).signals = l.signals ++ (bus.passages l uses).flatMap Passage.signals := by
  induction uses generalizing l with
  | nil => exact (List.append_nil _).symm
  | cons use uses ih =>
    have hrest := ih (l := bus.after l use)
    rw [signals_after, List.append_assoc] at hrest
    exact hrest

/-- What each passage keeps true of the link and of all the passages so far is true of them in the
end. -/
theorem passages_keep (Inv : List Passage → Link (σ × List Signal) → Prop) (uses : List Use)
    (huse : ∀ use ∈ uses, ∀ l so, Inv so l → Inv (so ++ [bus.passage l use]) (bus.after l use))
    (so : List Passage) (h : Inv so l) : Inv (so ++ bus.passages l uses) (bus.used l uses) := by
  induction uses generalizing l so with
  | nil => exact (List.append_nil so).symm ▸ h
  | cons use uses ih =>
    obtain ⟨hfirst, hrest⟩ := List.forall_mem_cons.mp huse
    have hlater := ih hrest _ (hfirst l so h)
    rw [List.append_assoc] at hlater
    exact hlater

end Endpoint

end Transceiver.Bus
