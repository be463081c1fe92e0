import Transceiver.Proofs.Signal

/-! The handshake on the busy line. Whatever the host is asked for, and whatever the line does,
bytes pass over the bus only right after a sample of the line that read low; and the wait for that
sample takes as many samples as it must, and no more than it is given. -/

namespace Transceiver.Bus

/-! ## Transfers -/

/-- The signal carries bytes. -/
def Signal.isTransfer : Signal → Bool
  | .transfer .. => true
  | _ => false

/-- The sample that tells that the chip is ready. -/
abbrev Signal.low : Signal := .busy (some false)

/-- Whatever is transferred among these signals comes right after a sample of the busy line that
read low. -/
def Heralded (xs : List Signal) : Prop :=
  ∀ before x rest, xs = before ++ x :: rest → x.isTransfer = true →
    before.getLast? = some .low

section Heralded
variable {xs ys : List Signal} {x : Signal}

theorem heralded_nil : Heralded [] := by
  intro before x rest h
  simp at h

/-- A signal may follow if it carries no bytes, or comes right after the sample. -/
theorem Heralded.concat (h : Heralded xs)
    (hx : x.isTransfer = true → xs.getLast? = some .low) : Heralded (xs ++ [x]) := by
  intro before y rest hsplit hy
  obtain rfl | ⟨front, z, rfl⟩ := List.eq_nil_or_concat rest
  · obtain ⟨rfl, hxy⟩ := List.append_inj' hsplit rfl
    obtain rfl := List.singleton_inj.mp hxy
    exact hx hy
  · have hsplit : xs ++ [x] = (before ++ y :: front) ++ [z] := by simpa using hsplit
    obtain ⟨rfl, -⟩ := List.append_inj' hsplit rfl
    exact h before y front rfl hy

theorem Heralded.quiet (h : Heralded xs) (hx : x.isTransfer = false) : Heralded (xs ++ [x]) :=
  h.concat fun ht => absurd (hx.symm.trans ht) nofun

/-- Signals without bytes may follow in any number. -/
theorem Heralded.append_quiet (h : Heralded xs) (hys : ∀ y ∈ ys, y.isTransfer = false) :
    Heralded (xs ++ ys) := by
  induction ys generalizing xs with
  | nil => simpa using h
  | cons y ys ih =>
    obtain ⟨hy, hys⟩ := List.forall_mem_cons.mp hys
    rw [List.append_cons]
    exact ih (h.quiet hy) hys

/-- What was heralded on its own is heralded after anything. -/
theorem Heralded.append (h : Heralded xs) (hys : Heralded ys) : Heralded (xs ++ ys) := by
  intro before x rest hsplit hx
  obtain ⟨front, rfl, hright⟩ | ⟨back, hleft, hright⟩ := List.append_eq_append_iff.mp hsplit
  · have hlast := hys front x rest hright hx
    rw [List.getLast?_append, hlast]
    rfl
  · cases back with
    | nil =>
      -- the transfer would open the second list, with nothing before it
      have hlast := hys [] x rest hright.symm hx
      cases hlast
    | cons y back =>
      obtain ⟨rfl, -⟩ := List.cons.inj hright
      exact h before x back hleft hx

end Heralded

/-! ## The wait -/

namespace Endpoint

open Transceiver.Action Link

variable {σ : Type}

section Samples
variable (bus : Endpoint σ) (sample : StateM σ (Except Fault Bool)) (w : σ)

/-- A sample of the busy line, as the board reports it. -/
def sampleBusy : StateM σ (Except Fault Bool) := fun w =>
  match bus.wire.busy w with
  | (some level, w) => (.ok level, w)
  | (none, w) => (.error .busy, w)

/-- Sample `k`, once all those before it have been taken. -/
def sampled : Nat → Except Fault Bool × σ
  | 0 => sample w
  | k + 1 => sample (bus.wire.delayMicros bus.handshake.pollInterval (sampled k).2)

/-- What a sample leaves on the wires: itself, and a delay if it read high. -/
def polled : Except Fault Bool → List Signal
  | .ok true => [.busy (some true), .delayMicros bus.handshake.pollInterval]
  | .ok false => [.low]
  | .error _ => [.busy none]

/-- A wait of at most `budget` samples that ends with `r`, and leaves `xs` on the wires. All the
samples before sample `i` read high, and it does not, unless the wait gives up before it. -/
structure Waits (budget i : Nat) (r : Except Fault Unit) (xs : List Signal) : Prop where
  high : ∀ k < i, (bus.sampled sample w k).1 = .ok true
  stops : i < budget → (bus.sampled sample w i).1 ≠ .ok true
  signals : xs = (List.range (min (i + 1) budget)).flatMap fun k =>
    bus.polled (bus.sampled sample w k).1
  outcome : r = if i < budget then (bus.sampled sample w i).1.map fun _ => () else .error .busy

end Samples

/-- Wait until a sample reads low, for at most `budget` samples. -/
def poll (bus : Endpoint σ) (sample : Action (Link σ) Bool) : (budget : Nat) → Action (Link σ) Unit
  | 0 => throw .busy
  | budget + 1 => do
    if ← sample then
      bus.delayMicros bus.handshake.pollInterval
      bus.poll sample budget

end Endpoint

/-- A sample that may fail in any way, written to the list of signals. -/
def Link.sampling {σ : Type} (sample : StateM σ (Except Fault Bool)) :
    Action (Link (σ × List Signal)) Bool := fun l =>
  match sample l.world.1 with
  | (.ok level, w) => .ok level (l.noting w (.busy (some level)))
  | (.error f, w) => .error f (l.noting w (.busy none))

namespace Endpoint

open Transceiver.Action Link

variable {σ : Type} {bus : Endpoint σ} {sample : StateM σ (Except Fault Bool)} {w : σ}
  {l l₁ : Link (σ × List Signal)}

/-- The board's own samples. -/
theorem awaitReady_recording (budget : Nat) :
    bus.recording.awaitReady budget = bus.recording.poll (sampling bus.sampleBusy) budget := by
  have hsample : outside .busy bus.recording.wire.busy = sampling bus.sampleBusy := by
    funext l
    show outside .busy (noted bus.wire.busy .busy) l = _
    simp only [outside, Action.onPart, Action.ofOption, noted, sampling, sampleBusy]
    rcases bus.wire.busy l.world.1 with ⟨_ | level, w⟩ <;> rfl
  induction budget with
  | zero => rfl
  | succ budget ih => rw [awaitReady, poll, hsample, ih]

/-- The samples after the first are those that follow it. -/
theorem sampled_succ (k : Nat) :
    bus.sampled sample w (k + 1) =
      bus.sampled sample (bus.wire.delayMicros bus.handshake.pollInterval (sample w).2) k := by
  induction k with
  | zero => rfl
  | succ k ih =>
    rw [sampled, ih]
    rfl

theorem ends_sampling {Q : Except Fault Bool → Link (σ × List Signal) → Prop}
    (hfails : ∀ f w, sample l.world.1 = (.error f, w) → Q (.error f) (l.noting w (.busy none)))
    (hreads : ∀ level w, sample l.world.1 = (.ok level, w) →
      Q (.ok level) (l.noting w (.busy (some level)))) :
    (sampling sample).Ends l Q := by
  simp only [Action.Ends, Action.result, sampling]
  rcases hsample : sample l.world.1 with ⟨f | level, w⟩
  · exact hfails f w hsample
  · exact hreads level w hsample

/-- A wait that ends with its first sample. -/
theorem Waits.first {budget : Nat} {reading : Except Fault Bool}
    (hreading : (sample w).1 = reading) (hlow : reading ≠ .ok true) :
    bus.Waits sample w (budget + 1) 0 (reading.map fun _ => ()) (bus.polled reading) where
  high := by simp
  stops _ := hreading ▸ hlow
  signals := by
    have hone : min (0 + 1) (budget + 1) = 1 := by omega
    rw [hone]
    simp [sampled, hreading]
  outcome := by simp [sampled, hreading]

/-- A wait that goes on after its first sample. -/
theorem Waits.next {budget i : Nat} {r : Except Fault Unit} {xs : List Signal}
    (hhigh : (sample w).1 = .ok true)
    (h : bus.Waits sample (bus.wire.delayMicros bus.handshake.pollInterval (sample w).2)
      budget i r xs) :
    bus.Waits sample w (budget + 1) (i + 1) r
      (.busy (some true) :: .delayMicros bus.handshake.pollInterval :: xs) where
  high k hk := by
    cases k with
    | zero => exact hhigh
    | succ k =>
      rw [sampled_succ]
      exact h.high k (by omega)
  stops hi := by
    rw [sampled_succ]
    exact h.stops (by omega)
  signals := by
    have hone : min (i + 1 + 1) (budget + 1) = min (i + 1) budget + 1 := by omega
    rw [hone, List.range_succ_eq_map, List.flatMap_cons, List.flatMap_map]
    simp only [sampled_succ, h.signals]
    rw [sampled, hhigh]
    rfl
  outcome := by
    rw [h.outcome, sampled_succ]
    simp only [Nat.add_lt_add_iff_right]

/-- A wait takes the samples up to the first that does not read high, and no more than it is
given. -/
theorem ends_poll (bus : Endpoint σ) (sample : StateM σ (Except Fault Bool)) (budget : Nat) :
    (bus.recording.poll (sampling sample) budget).Ends l fun r l' =>
      ∃ i xs, l'.signals = l.signals ++ xs ∧ bus.Waits sample l.world.1 budget i r xs := by
  induction budget generalizing l with
  | zero => exact ⟨0, [], (List.append_nil _).symm, by simp, nofun, rfl, rfl⟩
  | succ budget ih =>
    refine ends_bind.mpr <| ends_sampling (fun f w hsample => ?_) fun level w hsample => ?_
    · have hfirst : (sample l.world.1).1 = .error f := by rw [hsample]
      exact ⟨0, _, rfl, .first hfirst nofun⟩
    cases level with
    | false =>
      have hfirst : (sample l.world.1).1 = .ok false := by rw [hsample]
      exact ⟨0, _, rfl, .first hfirst nofun⟩
    | true =>
      have hfirst : (sample l.world.1).1 = .ok true := by rw [hsample]
      refine ends_ite.mpr <| (if_pos rfl).mpr <| ends_bind.mpr <| ends_delayMicros.mpr ?_
      refine Ends.mono ih ?_
      rintro r l' ⟨i, xs, hsignals, hwaits⟩
      let more : List Signal := .busy (some true) :: .delayMicros bus.handshake.pollInterval :: xs
      refine ⟨i + 1, more, ?_, .next hfirst ?_⟩
      · rw [hsignals]
        simp only [signals_noting, List.append_assoc, List.cons_append, List.nil_append]
        rfl
      · rw [hsample]
        exact hwaits

/-- The wait of the bus itself, with the samples that its board reports. -/
theorem ends_awaitReady (bus : Endpoint σ) (budget : Nat) :
    (bus.recording.awaitReady budget).Ends l fun r l' =>
      ∃ i xs, l'.signals = l.signals ++ xs ∧
        bus.Waits bus.sampleBusy l.world.1 budget i r xs := by
  rw [awaitReady_recording]
  exact ends_poll bus bus.sampleBusy budget

section Waits
variable {budget i : Nat} {r : Except Fault Unit} {xs : List Signal}

/-- Nothing is transferred in a wait. -/
theorem Waits.quiet (h : bus.Waits sample w budget i r xs) : ∀ x ∈ xs, x.isTransfer = false := by
  intro x hx
  rw [h.signals] at hx
  obtain ⟨k, -, hx⟩ := List.mem_flatMap.mp hx
  cases hreading : (bus.sampled sample w k).1 with
  | error f =>
    rw [hreading] at hx
    obtain rfl := List.mem_singleton.mp hx
    rfl
  | ok level =>
    rw [hreading] at hx
    cases level <;> simp only [polled, List.mem_cons, List.not_mem_nil, or_false] at hx
    · rw [hx]
      rfl
    · obtain rfl | rfl := hx <;> rfl

/-- A wait that succeeds ends with the sample that read low. -/
theorem Waits.last (h : bus.Waits sample w budget i r xs) (hr : r.isOk = true) :
    xs.getLast? = some .low := by
  have houtcome := h.outcome
  split at houtcome
  · rename_i hi
    have hcount : min (i + 1) budget = i + 1 := by omega
    have hstops := h.stops hi
    rw [h.signals, hcount, List.range_succ, List.flatMap_append]
    cases hreading : (bus.sampled sample w i).1 with
    | error f =>
      rw [houtcome, hreading] at hr
      cases hr
    | ok level =>
      cases level with
      | false => simp [hreading, polled]
      | true => exact absurd hreading hstops
  · rw [houtcome] at hr
    cases hr

end Waits

end Endpoint

/-! ## Calls -/

/-- What the host asks of a bus. A command may put the chip to sleep. -/
inductive Call where
  | write (cmd : List UInt8) (sleeps : Bool)
  | send (cmd data : List UInt8) (sleeps : Bool)
  | read (cmd : List UInt8) (n : Nat)
  | readDirect (n : Nat)
  | wake
  | abort

/-- Do what is asked of a bus; what is read is left out. -/
def Call.perform {σ : Type} (bus : Endpoint σ) : Call → Action (Link σ) Unit
  | .write cmd false => bus.write cmd
  | .write cmd true => bus.writeSleep cmd
  | .send cmd data false => bus.send cmd data
  | .send cmd data true => do
    bus.send cmd data
    modify ({ · with sleeping := true })
  | .read cmd n => discard (bus.read cmd n)
  | .readDirect n => discard (bus.readDirect n)
  | .wake => bus.wake
  | .abort => bus.abort

/-- The link after some calls, each of which is made whether or not those before it failed. -/
def Endpoint.converse {σ : Type} (bus : Endpoint σ) (l : Link σ) : List Call → Link σ
  | [] => l
  | call :: calls => bus.converse ((call.perform bus).result l).2 calls

/-- What a call may leave on the wires. All transfers are heralded, except that an abort starts
with one that is not. -/
def Call.Obeys : Call → List Signal → Prop
  | .abort, xs => ∃ received rest, xs = .transfer [0, 0, 0, 0] received :: rest ∧
    ∀ x ∈ rest, x.isTransfer = false
  | _, xs => Heralded xs

namespace Link

variable {σ : Type} {l l₁ : Link (σ × List Signal)} {w : σ} {x : Signal}

/-- From the first link to the second, every transfer was heralded. -/
def Herald (l l' : Link (σ × List Signal)) : Prop :=
  ∃ xs, l'.signals = l.signals ++ xs ∧ Heralded xs

/-- The same, and the last signal heralds another transfer. -/
def Clear (l l' : Link (σ × List Signal)) : Prop :=
  ∃ xs, l'.signals = l.signals ++ xs ∧ Heralded xs ∧ xs.getLast? = some .low

theorem Herald.refl (l : Link (σ × List Signal)) : l.Herald l :=
  ⟨[], (List.append_nil _).symm, heralded_nil⟩

theorem Herald.noting (h : l.Herald l₁) (hx : x.isTransfer = false) :
    l.Herald (l₁.noting w x) := by
  obtain ⟨xs, hsignals, hxs⟩ := h
  refine ⟨xs ++ [x], ?_, hxs.quiet hx⟩
  rw [signals_noting, hsignals, List.append_assoc]

theorem Clear.noting (h : l.Clear l₁) (w : σ) (x : Signal) : l.Herald (l₁.noting w x) := by
  obtain ⟨xs, hsignals, hxs, hlast⟩ := h
  refine ⟨xs ++ [x], ?_, hxs.concat fun _ => hlast⟩
  rw [signals_noting, hsignals, List.append_assoc]

end Link

namespace Endpoint

open Transceiver.Action Link

variable {σ α : Type} {bus : Endpoint σ} {l l₁ : Link (σ × List Signal)}

/-- A step that leaves the wires alone. -/
theorem herald_modify {f : Link (σ × List Signal) → Link (σ × List Signal)}
    (hf : ∀ l, (f l).signals = l.signals) :
    Keeps (l.Herald) (modify f : Action (Link (σ × List Signal)) Unit) := by
  intro l₁ h
  obtain ⟨xs, hsignals, hxs⟩ := h
  exact ⟨xs, (hf l₁).trans hsignals, hxs⟩

theorem herald_note (sleeping : Bool) :
    Keeps l.Herald (modify ({ · with sleeping := sleeping }) : Action (Link (σ × List Signal)) Unit) :=
  herald_modify fun _ => rfl

/-- After a wait that succeeds bytes may be transferred. -/
theorem clears_awaitReady (h : l.Herald l₁) (budget : Nat) :
    (bus.recording.awaitReady budget).Ends l₁ fun r l' =>
      l.Herald l' ∧ (r.isOk = true → l.Clear l') := by
  obtain ⟨xs, hsignals, hxs⟩ := h
  refine (ends_awaitReady bus budget).mono ?_
  rintro r l' ⟨i, ys, hwaited, hwaits⟩
  have hall : l'.signals = l.signals ++ (xs ++ ys) := by
    rw [hwaited, hsignals, List.append_assoc]
  have hheralded := hxs.append_quiet hwaits.quiet
  refine ⟨⟨xs ++ ys, hall, hheralded⟩, fun hr => ⟨xs ++ ys, hall, hheralded, ?_⟩⟩
  rw [List.getLast?_append, hwaits.last hr]
  rfl

theorem clears_wake (h : l.Herald l₁) :
    bus.recording.wake.Ends l₁ fun r l' => l.Herald l' ∧ (r.isOk = true → l.Clear l') := by
  refine ends_bind.mpr <| ends_hold (fun w => ⟨h.noting rfl, nofun⟩) fun w => ?_
  refine ends_bind.mpr <| ends_modify.mpr <| clears_awaitReady ?_ _
  exact herald_note false _ (h.noting rfl)

theorem clears_prepare (h : l.Herald l₁) :
    bus.recording.prepare.Ends l₁ fun r l' => l.Herald l' ∧ (r.isOk = true → l.Clear l') := by
  refine ends_bind.mpr <| ends_get.mpr <| ends_ite.mpr ?_
  split
  · exact clears_wake h
  · exact clears_awaitReady h _

/-- A transfer for which the chip was ready, and what follows it. -/
theorem herald_exchange_bind {sent : List UInt8}
    {f : Vector UInt8 sent.length → Action (Link (σ × List Signal)) α} (h : l.Clear l₁)
    (hf : ∀ received, (f received).Keeps l.Herald) :
    (bus.recording.exchange sent >>= f).Ends l₁ fun _ => l.Herald := by
  refine Keeps.after ?_ hf
  exact ends_exchange (fun w => h.noting w _) fun received w => h.noting w _

/-- What is done once the chip is ready. -/
theorem herald_bind {x : Action (Link (σ × List Signal)) Unit}
    {f : Unit → Action (Link (σ × List Signal)) α}
    (hx : ∀ l₁, l.Herald l₁ →
      x.Ends l₁ fun r l' => l.Herald l' ∧ (r.isOk = true → l.Clear l'))
    (hf : ∀ l₁, l.Clear l₁ → (f ()).Ends l₁ fun _ => l.Herald) :
    (x >>= f).Keeps l.Herald := by
  intro l₁ h
  refine ends_bind.mpr <| (hx l₁ h).mono fun r l' hl' => ?_
  cases r with
  | error e => exact hl'.1
  | ok => exact hf l' (hl'.2 rfl)

theorem herald_record (cmd received : List UInt8) :
    (bus.recording.record cmd received).Keeps l.Herald := herald_modify fun _ => rfl

theorem herald_send (cmd data : List UInt8) : (bus.recording.send cmd data).Keeps l.Herald := by
  intro l₀ h
  refine ends_ite.mpr ?_
  split
  · exact h
  refine herald_bind (fun _ => clears_prepare) (fun l₁ h => ?_) l₀ h
  exact herald_exchange_bind h fun received => herald_record _ _

theorem herald_readSingleShot (cmd : List UInt8) (n : Nat) :
    (bus.recording.readSingleShot cmd n).Keeps l.Herald := by
  intro l₀ h
  refine ends_ite.mpr ?_
  split
  · exact h
  refine herald_bind (fun _ => clears_prepare) (fun l₁ h => ?_) l₀ h
  exact herald_exchange_bind h fun received => (herald_record _ _).bind fun _ => .pure _

/-- The chip is waited for again before the second transfer. -/
theorem herald_readTwoPhase (cmd : List UInt8) (n : Nat) :
    (bus.recording.readTwoPhase cmd n).Keeps l.Herald := by
  intro l₀ h
  refine ends_ite.mpr ?_
  split
  · exact h
  refine herald_bind (fun _ => clears_prepare) (fun l₁ h => ?_) l₀ h
  refine herald_exchange_bind h fun received => (herald_record _ _).bind fun _ => ?_
  refine herald_bind (fun _ h => clears_awaitReady h _) fun l₁ h => ?_
  exact herald_exchange_bind h fun answer => .pure _

theorem herald_read (cmd : List UInt8) (n : Nat) : (bus.recording.read cmd n).Keeps l.Herald := by
  unfold read
  split
  · exact herald_readSingleShot cmd n
  · exact herald_readTwoPhase cmd n

theorem herald_readDirect (n : Nat) : (bus.recording.readDirect n).Keeps l.Herald :=
  herald_bind (fun _ => clears_prepare) fun _ h => herald_exchange_bind h fun _ => .pure _

/-- An abort transfers first, and waits then. -/
theorem ends_abort (bus : Endpoint σ) : bus.recording.abort.Ends l fun _ l' =>
    ∃ received rest, l'.signals = l.signals ++ .transfer [0, 0, 0, 0] received :: rest ∧
      ∀ x ∈ rest, x.isTransfer = false := by
  refine ends_bind.mpr <| ends_discard.mpr <| ends_exchange (fun w => ?_) fun received w => ?_
  · exact ⟨none, [], rfl, by simp⟩
  refine ends_bind.mpr <| (ends_awaitReady bus _).mono ?_
  rintro r l' ⟨i, xs, hsignals, hwaits⟩
  have hall : l'.signals = l.signals ++ .transfer [0, 0, 0, 0] (some received.toList) :: xs := by
    rw [hsignals, signals_noting, List.append_assoc]
    rfl
  cases r with
  | error e => exact ⟨_, xs, hall, hwaits.quiet⟩
  | ok => exact ⟨_, xs, hall, hwaits.quiet⟩

/-- What one call leaves on the wires. -/
theorem ends_perform (bus : Endpoint σ) (call : Call) :
    (call.perform bus.recording).Ends l fun _ l' =>
      ∃ xs, l'.signals = l.signals ++ xs ∧ call.Obeys xs := by
  cases call with
  | write cmd sleeps =>
    cases sleeps with
    | false => exact herald_send cmd [] l (.refl l)
    | true => exact ((herald_send cmd []).bind fun _ => herald_note true) l (.refl l)
  | send cmd data sleeps =>
    cases sleeps with
    | false => exact herald_send cmd data l (.refl l)
    | true => exact ((herald_send cmd data).bind fun _ => herald_note true) l (.refl l)
  | read cmd n => exact (herald_read cmd n).discard l (.refl l)
  | readDirect n => exact (herald_readDirect n).discard l (.refl l)
  | wake => exact (clears_wake (.refl l)).mono fun _ _ h => h.1
  | abort =>
    refine (ends_abort bus).mono ?_
    rintro r l' ⟨received, rest, hsignals, hrest⟩
    exact ⟨_, hsignals, received, rest, rfl, hrest⟩

/-- What a sequence of calls leaves on the wires, call by call. -/
theorem converse_obeys (bus : Endpoint σ) (calls : List Call) :
    ∃ parts : List (Call × List Signal), parts.map Prod.fst = calls ∧
      (bus.recording.converse l calls).signals = l.signals ++ parts.flatMap Prod.snd ∧
        ∀ part ∈ parts, part.1.Obeys part.2 := by
  induction calls generalizing l with
  | nil => exact ⟨[], rfl, (List.append_nil _).symm, by simp⟩
  | cons call calls ih =>
    have hcall : ∃ xs, ((call.perform bus.recording).result l).2.signals = l.signals ++ xs ∧
        call.Obeys xs := ends_perform bus call
    obtain ⟨xs, hfirst, hobeys⟩ := hcall
    obtain ⟨parts, hcalls, hrest, hall⟩ := ih (l := ((call.perform bus.recording).result l).2)
    refine ⟨(call, xs) :: parts, ?_, ?_, List.forall_mem_cons.mpr ⟨hobeys, hall⟩⟩
    · rw [List.map_cons, hcalls]
    · rw [converse, hrest, hfirst, List.flatMap_cons, List.append_assoc]

/-- Without an abort all that calls transfer is heralded. -/
theorem heralded_of_obeys {parts : List (Call × List Signal)}
    (h : ∀ part ∈ parts, part.1.Obeys part.2) (habort : .abort ∉ parts.map Prod.fst) :
    Heralded (parts.flatMap Prod.snd) := by
  induction parts with
  | nil => exact heralded_nil
  | cons part parts ih =>
    obtain ⟨hpart, hparts⟩ := List.forall_mem_cons.mp h
    have hcall : .abort ≠ part.1 := List.ne_of_not_mem_cons habort
    have hcalls := List.not_mem_of_not_mem_cons habort
    obtain ⟨call, xs⟩ := part
    have hxs : Heralded xs := by
      cases call with
      | abort => exact absurd rfl hcall
      | _ => exact hpart
    exact hxs.append (ih hparts hcalls)

/-- **The handshake on the busy line**, for any wires and any state of the link. Over any calls, of
which any may fail, each transfer comes right after a sample that read low; only an abort starts
with a transfer that does not. And a wait, however its samples may fail, takes them up to the first
that reads low or fails, and no more than its budget, with a delay after each that reads high and
nothing else; it succeeds if that sample read low, fails as the sample did, and otherwise gives
up. -/
theorem shakes_hands (bus : Endpoint σ) (l : Link (σ × List Signal)) :
    (∀ calls : List Call, ∃ parts : List (Call × List Signal), parts.map Prod.fst = calls ∧
      (bus.recording.converse l calls).signals = l.signals ++ parts.flatMap Prod.snd ∧
        (∀ part ∈ parts, part.1.Obeys part.2) ∧
          (.abort ∉ calls → Heralded (parts.flatMap Prod.snd))) ∧
    ∀ budget,
      bus.recording.awaitReady budget = bus.recording.poll (sampling bus.sampleBusy) budget ∧
        ∀ sample, (bus.recording.poll (sampling sample) budget).Ends l fun r l' =>
          ∃ i xs, l'.signals = l.signals ++ xs ∧
            bus.Waits sample l.world.1 budget i r xs ∧ ∀ x ∈ xs, x.isTransfer = false := by
  constructor
  · intro calls
    obtain ⟨parts, rfl, hsignals, hobeys⟩ := converse_obeys bus calls
    exact ⟨parts, rfl, hsignals, hobeys, heralded_of_obeys hobeys⟩
  · intro budget
    refine ⟨awaitReady_recording budget, fun sample => (ends_poll bus sample budget).mono ?_⟩
    rintro r l' ⟨i, xs, hsignals, hwaits⟩
    exact ⟨i, xs, hsignals, hwaits, hwaits.quiet⟩

end Endpoint

end Transceiver.Bus
