import Transceiver.Proofs.Footprint

/-! Histories of runs. A run is the list of its turns, one for each operation, and each turn keeps
what passed between the driver and its surroundings. The turns lie along the run of the rig itself:
the log that they are read from changes nothing. -/

namespace Transceiver

/-- An operation of a run, with the record of the radio before and after it. -/
structure Turn where
  operation : Operation
  before : Radio
  /-- What passed between the driver and its surroundings. -/
  exchanges : List Exchange
  outcome : Except Fault operation.Reply
  after : Radio

/-- The command that was given. -/
def Exchange.given? : Exchange → Option Command
  | .command c _ => some c
  | _ => none

/-- The command that was given and accepted. -/
def Exchange.accepted? : Exchange → Option Command
  | .command c (.ok _) => some c
  | _ => none

/-- The event that the listener was told of. -/
def Exchange.event? : Exchange → Option Event
  | .event e => some e
  | _ => none

/-- The interrupts that the chip reported. -/
def Exchange.status? : Exchange → Option InterruptSet
  | .command .takeInterrupts (.ok status) => some status
  | _ => none

/-- The chip refused the command. -/
def Exchange.fails : Exchange → Bool
  | .command _ (.error _) => true
  | _ => false

/-- The chip refused no command. -/
def Smooth (xs : List Exchange) : Prop := ∀ x ∈ xs, x.fails = false

theorem Smooth.of_append {xs ys : List Exchange} (h : Smooth (xs ++ ys)) : Smooth xs :=
  fun x hx => h x (List.mem_append_left _ hx)

theorem not_smooth_concat {xs : List Exchange} {c : Command} {e : Fault} :
    ¬Smooth (xs ++ [.command c (.error e)]) :=
  fun h => absurd (h _ (List.mem_append_right _ (List.mem_singleton_self _))) nofun

/-- The last of what `f` finds in the exchanges, or else `last`. -/
def lastFound {β : Type} (f : Exchange → Option β) (last : Option β) (xs : List Exchange) :
    Option β :=
  (xs.filterMap f).getLast?.or last

section LastFound
variable {β : Type} {f : Exchange → Option β} (last : Option β)

theorem lastFound_append (xs ys : List Exchange) :
    lastFound f last (xs ++ ys) = lastFound f (lastFound f last xs) ys := by
  simp only [lastFound, List.filterMap_append, List.getLast?_append, Option.or_assoc]

theorem lastFound_concat (xs : List Exchange) (x : Exchange) :
    lastFound f last (xs ++ [x]) = (f x).or (lastFound f last xs) := by
  rw [lastFound_append]
  cases h : f x <;> simp [lastFound, h]

theorem lastFound_of_none {xs : List Exchange} (h : ∀ x ∈ xs, f x = none) :
    lastFound f last xs = last := by
  rw [lastFound, List.filterMap_eq_nil_iff.mpr h]
  rfl

theorem lastFound_of_isSome {xs : List Exchange} (h : ∃ x ∈ xs, (f x).isSome) :
    lastFound f last xs = lastFound f none xs := by
  obtain ⟨x, hx, hfound⟩ := h
  have hne : xs.filterMap f ≠ [] := fun hnil => by
    simp [List.filterMap_eq_nil_iff.mp hnil x hx] at hfound
  rw [lastFound, lastFound, List.getLast?_eq_some_getLast hne]
  rfl

end LastFound

theorem Exchange.eq_of_accepted {x : Exchange} {c : Command} (h : x.accepted? = some c) :
    ∃ r, x = .command c (.ok r) := by
  rcases x with ⟨_, _ | r⟩ | _ | _ | _ | _ <;> cases h
  exact ⟨r, rfl⟩

theorem Exchange.given_of_accepted {x : Exchange} {c : Command} (h : x.accepted? = some c) :
    x.given? = some c := by
  obtain ⟨r, rfl⟩ := Exchange.eq_of_accepted h
  rfl

/-- What is given stays within the bounds that are known. -/
theorem gives_of_mem_given {gives : Command → Prop} {parts : List Part} {xs : List Exchange}
    {c : Command} (h : ∀ x ∈ xs, x.Within gives parts) (hc : c ∈ xs.filterMap Exchange.given?) :
    gives c := by
  obtain ⟨x, hx, hgiven⟩ := List.mem_filterMap.mp hc
  have hx := h x hx
  cases x with
  | command c' r =>
    cases hgiven
    exact hx
  | _ => cases hgiven

theorem mem_given_of_mem_accepted {xs : List Exchange} {c : Command}
    (h : c ∈ xs.filterMap Exchange.accepted?) : c ∈ xs.filterMap Exchange.given? := by
  obtain ⟨x, hx, haccepted⟩ := List.mem_filterMap.mp h
  exact List.mem_filterMap.mpr ⟨x, hx, Exchange.given_of_accepted haccepted⟩

namespace Turn

/-- The commands given in this turn. -/
def given (t : Turn) : List Command := t.exchanges.filterMap Exchange.given?

/-- The commands that the chip accepted in this turn. -/
def accepted (t : Turn) : List Command := t.exchanges.filterMap Exchange.accepted?

/-- The events that the listener was told of in this turn. -/
def events (t : Turn) : List Event := t.exchanges.filterMap Exchange.event?

/-- The interrupts that this turn served. -/
def status? (t : Turn) : Option InterruptSet := (t.exchanges.filterMap Exchange.status?).head?

/-- The operation of this turn succeeded. -/
def Succeeds (t : Turn) : Prop := t.outcome.isOk = true

instance (t : Turn) : Decidable t.Succeeds := inferInstanceAs (Decidable (_ = true))

end Turn

namespace Rig

variable {σ : Type} (rig : Rig σ)

/-- The turn that an operation takes. -/
def turn (s : Station σ) (op : Operation) : Turn where
  operation := op
  before := s.radio
  exchanges := ((rig.recording.perform op).result s.recorded).2.log
  outcome := ((rig.recording.perform op).result s.recorded).1
  after := ((rig.recording.perform op).result s.recorded).2.radio

/-- The turns of a run. -/
def history (s : Station σ) : List Operation → List Turn
  | [] => []
  | op :: ops => rig.turn s op :: history (rig.step s op) ops

variable {rig} {s : Station σ} {op : Operation}

theorem step_eq_result : rig.step s op = ((rig.perform op).result s).2 := by
  simp only [step, Action.result]
  cases rig.perform op s <;> rfl

theorem step_eq_erased :
    rig.step s op = ((rig.recording.perform op).result s.recorded).2.erased := by
  rw [step_eq_result]
  exact congrArg Prod.snd (recorded_perform op s.recorded).1

theorem history_append (s : Station σ) (ops more : List Operation) :
    rig.history s (ops ++ more) = rig.history s ops ++ rig.history (rig.run s ops) more := by
  induction ops generalizing s with
  | nil => rfl
  | cons op ops ih => exact congrArg (rig.turn s op :: ·) (ih (rig.step s op))

/-- A turn ends as the operation does. -/
theorem turn_outcome : (rig.turn s op).outcome = ((rig.perform op).result s).1 :=
  (congrArg Prod.fst (recorded_perform op s.recorded).1).symm

/-- A turn leaves the record that the run of the rig goes on with. -/
theorem turn_after : (rig.turn s op).after = (rig.step s op).radio := by
  rw [step_eq_erased]
  rfl

/-- A turn touches no more than its operation does. -/
theorem turn_within_of {gives : Command → Prop} {parts : List Part}
    (h : Recorded rig gives parts (rig.recording.perform op) (rig.perform op)) :
    (∀ x ∈ (rig.turn s op).exchanges, x.Within gives parts) ∧
      s.radio.AgreesBut parts (rig.turn s op).after := by
  obtain ⟨⟨xs, hlog, hxs⟩, hradio, -⟩ := (h s.recorded).2
  refine ⟨fun x hx => hxs x ?_, hradio⟩
  rw [turn, hlog] at hx
  exact hx

theorem turn_within : (∀ x ∈ (rig.turn s op).exchanges, x.Within op.Gives op.parts) ∧
    s.radio.AgreesBut op.parts (rig.turn s op).after := turn_within_of (recorded_perform op)

/-- The exchanges of a turn lead from the world before it to the world after it. -/
theorem turn_leads : rig.Leads s.world (rig.turn s op).exchanges (rig.step s op).world := by
  have hperform : Recorded rig op.Gives op.parts (rig.recording.perform op) (rig.perform op) :=
    recorded_perform op
  obtain ⟨xs, hlog, hleads⟩ := (hperform s.recorded).2.world
  rw [step_eq_erased, turn, hlog]
  exact hleads

theorem history_leads (ops : List Operation) :
    rig.Leads s.world ((rig.history s ops).flatMap Turn.exchanges) (rig.run s ops).world := by
  induction ops generalizing s with
  | nil => exact .nil _
  | cons op ops ih => exact turn_leads.append ih

/-- Notes taken turn by turn stay true to the record of the radio, if each turn keeps them so. -/
theorem history_keeps {γ : Type} {advance : γ → Turn → γ} (Inv : γ → Radio → Prop)
    (hturn : ∀ s op notes, Inv notes s.radio →
      Inv (advance notes (rig.turn s op)) (rig.turn s op).after)
    (ops : List Operation) (notes : γ) (h : Inv notes s.radio) :
    Inv ((rig.history s ops).foldl advance notes) (rig.run s ops).radio := by
  induction ops generalizing s notes with
  | nil => exact h
  | cons op ops ih => exact ih _ (turn_after ▸ hturn s op notes h)

/-- What the exchanges so far say of the record of the radio stays true, if each turn keeps it so. -/
theorem history_extends {Inv : List Exchange → Radio → Prop}
    (hturn : ∀ s op xs, Inv xs s.radio → Inv (xs ++ (rig.turn s op).exchanges) (rig.turn s op).after)
    (ops : List Operation) {xs : List Exchange} (h : Inv xs s.radio) :
    Inv (xs ++ (rig.history s ops).flatMap Turn.exchanges) (rig.run s ops).radio := by
  induction ops generalizing s xs with
  | nil => simpa [history] using h
  | cons op ops ih =>
    rw [history, List.flatMap_cons, ← List.append_assoc]
    exact ih (turn_after ▸ hturn s op xs h)

end Rig

end Transceiver
