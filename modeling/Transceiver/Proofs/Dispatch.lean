import Transceiver.Proofs.History

/-! The phases of a dispatch. A turn that serves an interrupt disarms the interrupts, takes the
status, and lets the status be interpreted. What it reports afterwards is what the interpretation
found, and all that it tells the chip afterwards is to arm the interrupts. -/

namespace Transceiver

/-- The meaning of the interrupt that this turn served. -/
def Turn.meaning? (t : Turn) : Option Meaning := t.status?.map (.of t.before)

/-- The bytes of a packet that the chip gave out. -/
def Exchange.fetched? : Exchange → Option (List UInt8)
  | .command (.readBuffer _ _) (.ok bytes) => some bytes.toList
  | _ => none

/-- The bytes that were fetched in this turn. -/
def Turn.fetched (t : Turn) : List (List UInt8) := t.exchanges.filterMap Exchange.fetched?

/-- The events that the listener is told of, once a dispatch has found out what happened. -/
def announced : Except Fault (Option Event) → List Event
  | .ok (some event) => [event]
  | _ => []

/-- The command belongs to the service of an interrupt, whatever the interrupt means. -/
def Command.IsService : Command → Prop
  | .armInterrupts _ | .takeInterrupts | .takeErrors => True
  | _ => False

/-- The exchange only arms interrupts. -/
def Exchange.IsArming (x : Exchange) : Prop :=
  ∃ mask outcome, x = .command (.armInterrupts mask) outcome

/-- The exchange only disarms interrupts, or asks in vain for the status. -/
def Exchange.IsInVain (x : Exchange) : Prop :=
  x.IsArming ∨ ∃ e, x = .command .takeInterrupts (.error e)

/-- The exchange only notes the circumstances of an interrupt. -/
def Exchange.IsNote (x : Exchange) : Prop :=
  (∃ time, x = .clock time) ∨ ∃ outcome, x = .command .takeErrors outcome

/-- The exchange tells the chip nothing that depends on what an interrupt means. -/
def Exchange.IsService (x : Exchange) : Prop := ∀ c, x.given? = some c → c.IsService

theorem Exchange.IsArming.event? {x : Exchange} (h : x.IsArming) : x.event? = none := by
  obtain ⟨mask, outcome, rfl⟩ := h
  rfl

theorem Exchange.IsArming.isService {x : Exchange} (h : x.IsArming) : x.IsService := by
  obtain ⟨mask, outcome, rfl⟩ := h
  rintro c ⟨⟩
  trivial

theorem Exchange.IsNote.event? {x : Exchange} (h : x.IsNote) : x.event? = none := by
  obtain ⟨time, rfl⟩ | ⟨outcome, rfl⟩ := h <;> rfl

theorem Exchange.IsNote.isService {x : Exchange} (h : x.IsNote) : x.IsService := by
  obtain ⟨time, rfl⟩ | ⟨outcome, rfl⟩ := h
  · exact nofun
  · rintro c ⟨⟩
    trivial

theorem fetched_of_services {xs : List Exchange} (h : ∀ x ∈ xs, x.IsService) :
    xs.filterMap Exchange.fetched? = [] := by
  refine List.filterMap_eq_nil_iff.mpr fun x hx => ?_
  have hservice := h x hx
  rcases x with ⟨c, r⟩ | _ | _ | _ | _
  · cases c with
    | readBuffer => exact (hservice _ rfl).elim
    | _ => rfl
  all_goals rfl

/-- The commands that depend on what an interrupt means are given while it is interpreted. -/
theorem mem_filterMap_meant {f : Exchange → Option Command} {c : Command} {xs ys zs : List Exchange}
    (hf : ∀ x, f x = some c → x.given? = some c) (hc : ¬c.IsService) (hxs : ∀ x ∈ xs, x.IsService)
    (hzs : ∀ z ∈ zs, z.IsService) : c ∈ (xs ++ ys ++ zs).filterMap f ↔ c ∈ ys.filterMap f := by
  have outside {xs : List Exchange} (h : ∀ x ∈ xs, x.IsService) : c ∉ xs.filterMap f := by
    intro hm
    obtain ⟨x, hx, hfx⟩ := List.mem_filterMap.mp hm
    exact hc (h x hx c (hf x hfx))
  simp only [List.filterMap_append, List.mem_append, outside hxs, outside hzs, false_or, or_false]

/-- The record with a packet that was complete at another time. -/
def Radio.receivedAt (r : Radio) (time : UInt64) : Radio :=
  { r with packet := { r.packet with receivedAt := time } }

/-- What an interrupt means does not depend on the packet. -/
theorem Meaning.of_receivedAt (r : Radio) (time : UInt64) (status : InterruptSet) :
    Meaning.of (r.receivedAt time) status = .of r status := rfl

namespace Station

variable {σ : Type} {p : Exchange → Prop} {s s' s'' : Station (σ × List Exchange)}

/-- The second station comes from the first by exchanges that satisfy `p`. -/
def Logs (p : Exchange → Prop) (s s' : Station (σ × List Exchange)) : Prop :=
  s'.radio = s.radio ∧ ∃ xs, s'.log = s.log ++ xs ∧ ∀ x ∈ xs, p x

theorem Logs.refl (s : Station (σ × List Exchange)) : s.Logs p s :=
  ⟨rfl, [], (List.append_nil _).symm, by simp⟩

theorem Logs.trans (h : s.Logs p s') (h' : s'.Logs p s'') : s.Logs p s'' := by
  obtain ⟨hradio, xs, hlog, hxs⟩ := h
  obtain ⟨hradio', ys, hlog', hys⟩ := h'
  refine ⟨hradio'.trans hradio, xs ++ ys, by rw [hlog', hlog, List.append_assoc], ?_⟩
  intro x hx
  exact (List.mem_append.mp hx).elim (hxs x) (hys x)

end Station

namespace Rig

open Station Transceiver.Action

variable {σ : Type} {rig : Rig σ} {p : Exchange → Prop} {s : Station (σ × List Exchange)}

theorem keeps_logs_tell (c : Command) (h : ∀ r, p (.command c r)) :
    (rig.recording.tell c).Keeps (s.Logs p) := fun s' hs => by
  refine ends_recording_tell fun r w => hs.trans ⟨rfl, [.command c r], rfl, fun x hx => ?_⟩
  rw [List.mem_singleton.mp hx]
  exact h r

/-- How a dispatch closes, once its event is announced: the interrupts on record are armed again,
unless the radio sleeps. Of two faults that of the dispatch is the outcome. -/
def Closes (r : Radio) (found : Except Fault (Option Event)) (outcome : Except Fault Unit)
    (xs : List Exchange) : Prop :=
  if r.state = .sleep then xs = [] ∧ outcome = found.map fun _ => ()
  else ∃ armed, xs = [.command (.armInterrupts r.mask) armed] ∧ outcome = found.bind fun _ => armed

section Closes
variable {r : Radio} {found : Except Fault (Option Event)} {outcome : Except Fault Unit}
  {xs : List Exchange}

theorem Closes.isArming (h : Closes r found outcome xs) : ∀ x ∈ xs, x.IsArming := by
  intro x hx
  unfold Closes at h
  split at h
  · rw [h.1] at hx
    cases hx
  · obtain ⟨armed, rfl, -⟩ := h
    rw [List.mem_singleton.mp hx]
    exact ⟨_, armed, rfl⟩

theorem Closes.awake (h : Closes r found outcome xs) (hr : r.state ≠ .sleep) :
    ∃ armed, xs = [.command (.armInterrupts r.mask) armed] := by
  rw [Closes, if_neg hr] at h
  exact h.imp fun _ => And.left

theorem Closes.outcome_of_error {e : Fault} (h : Closes r (.error e) outcome xs) :
    outcome = .error e := by
  unfold Closes at h
  split at h
  · exact h.2
  · obtain ⟨armed, -, houtcome⟩ := h
    exact houtcome

end Closes

/-- What a dispatch found is announced, and then the dispatch closes. -/
theorem ends_conclude (found : Except Fault (Option Event)) :
    (rig.recording.conclude found).Ends s fun r s' => s'.radio = s.radio ∧ ∃ xs,
      s'.log = s.log ++ (announced found).map .event ++ xs ∧ Closes s.radio found r xs := by
  have settled {s : Station (σ × List Exchange)} {armed : Except Fault Unit}
      {Q : Except Fault Unit → Station (σ × List Exchange) → Prop}
      (h : Q (found.bind fun _ => armed) s) :
      Ends (discard (Action.settle found) >>= fun _ => Action.settle armed) s Q := by
    refine ends_bind.mpr <| ends_discard.mpr <| ends_settle.mpr ?_
    cases found with
    | error e => exact h
    | ok event => exact ends_settle.mpr h
  have rest (s : Station (σ × List Exchange)) : Ends (Action.attempt
          (current >>= fun r => if r.state ≠ .sleep then rig.recording.rearm else pure ())
        >>= fun armed => discard (Action.settle found) >>= fun _ => Action.settle armed) s
      fun r s' => s'.radio = s.radio ∧ ∃ xs, s'.log = s.log ++ xs ∧ Closes s.radio found r xs := by
    refine ends_bind.mpr <| ends_attempt.mpr <| ends_bind.mpr <| ends_current.mpr <| ends_ite.mpr ?_
    split
    · rename_i hawake
      refine ends_bind.mpr <| ends_current.mpr <| ends_recording_tell fun armed w => ?_
      refine settled ⟨rfl, _, rfl, ?_⟩
      rw [Closes, if_neg hawake]
      exact ⟨armed, rfl, rfl⟩
    · rename_i hasleep
      have hcloses : Closes s.radio found (found.bind fun _ => .ok ()) [] := by
        rw [Closes, if_pos (Decidable.not_not.mp hasleep)]
        exact ⟨rfl, by cases found <;> rfl⟩
      refine ends_pure.mpr ?_
      exact settled ⟨rfl, [], (List.append_nil _).symm, hcloses⟩
  rcases found with e | _ | event
  · simp only [announced, List.map_nil, List.append_nil]
    exact rest s
  · simp only [announced, List.map_nil, List.append_nil]
    exact rest s
  · exact rest _

/-- The circumstances of an interrupt are noted without fail. -/
theorem ends_attend (status : InterruptSet) :
    (rig.recording.attend status).Ends s fun r s' => r = .ok () ∧
      (∃ time, s'.radio = s.radio.receivedAt time) ∧
        ∃ xs, s'.log = s.log ++ xs ∧ ∀ x ∈ xs, x.IsNote := by
  have rest (s : Station (σ × List Exchange)) :
      Ends (if .chipError ∈ status then discard (Action.attempt (rig.recording.tell .takeErrors))
        else pure ()) s fun r s' => r = .ok () ∧ s.Logs Exchange.IsNote s' := by
    refine ends_ite.mpr ?_
    split
    · refine ends_discard.mpr <| ends_attempt.mpr ⟨rfl, ?_⟩
      exact keeps_logs_tell _ (fun r => .inr ⟨r, rfl⟩) s (.refl s)
    · exact ⟨rfl, .refl s⟩
  refine ends_ite.mpr ?_
  split
  · refine ends_bind.mpr <| ends_recording_now fun time w => ?_
    refine ends_bind.mpr <| ends_update.mpr <| (rest _).mono ?_
    rintro r s' ⟨rfl, hradio, xs, hlog, hxs⟩
    refine ⟨rfl, ⟨time, hradio⟩, .clock time :: xs, ?_, ?_⟩
    · rw [hlog]
      exact List.append_assoc _ [_] xs
    · rintro x (_ | ⟨_, hx⟩)
      · exact .inl ⟨_, rfl⟩
      · exact hxs x hx
  · refine (rest _).mono ?_
    rintro r s' ⟨rfl, hradio, hlog⟩
    exact ⟨rfl, ⟨s.radio.packet.receivedAt, hradio⟩, hlog⟩

/-- From `s` on, where the chip has reported `status`, a dispatch that began in `start` interpreted
the status, and found `found` in `s'`. -/
structure Interprets (rig : Rig σ) (start : Station (σ × List Exchange)) (status : InterruptSet)
    (s : Station (σ × List Exchange)) (found : Except Fault (Option Event))
    (s' : Station (σ × List Exchange)) : Prop where
  radio : ∃ time, s.radio = start.radio.receivedAt time
  log : ∃ xs, s.log = start.log ++ .command (.armInterrupts ∅) (.ok ()) ::
    .command .takeInterrupts (.ok status) :: xs ∧ ∀ x ∈ xs, x.IsNote
  result : (rig.recording.act (.of s.radio status)).result s = (found, s')

/-- A dispatch either reads no status, and then does nothing else, or interprets what it read. -/
theorem ends_dispatch : rig.recording.dispatch.Ends s fun found s' =>
    ((∃ e, found = .error e) ∧ s.Logs Exchange.IsInVain s') ∨
      ∃ status s₁, rig.Interprets s status s₁ found s' := by
  refine ends_bind.mpr <| ends_recording_tell fun r w => ?_
  rcases r with e | ⟨⟩
  · refine .inl ⟨⟨e, rfl⟩, rfl, _, rfl, fun x hx => ?_⟩
    rw [List.mem_singleton.mp hx]
    exact .inl ⟨_, _, rfl⟩
  refine ends_bind.mpr <| ends_recording_tell fun r w => ?_
  rcases r with e | status
  · refine .inl ⟨⟨e, rfl⟩, rfl, _, List.append_assoc .., fun x hx => ?_⟩
    simp only [List.singleton_append, List.mem_cons, List.not_mem_nil, or_false] at hx
    rcases hx with rfl | rfl
    · exact .inl ⟨_, _, rfl⟩
    · exact .inr ⟨e, rfl⟩
  refine ends_bind.mpr <| (ends_attend status).mono ?_
  rintro r s₁ ⟨rfl, hradio, xs, hlog, hxs⟩
  refine .inr ⟨status, s₁, hradio, ⟨xs, ?_, hxs⟩, rfl⟩
  rw [hlog]
  simp [log]

/-- The opening and the closing of a dispatch that interpreted a status. -/
theorem ends_processInterrupt : rig.recording.processInterrupt.Ends s fun _ s' =>
    s.Logs Exchange.IsInVain s' ∨
      ∃ status s₁ found s₂, rig.Interprets s status s₁ found s₂ ∧ s'.radio = s₂.radio ∧
        ∃ xs, s'.log = s₂.log ++ (announced found).map .event ++ xs ∧ ∀ x ∈ xs, x.IsArming := by
  refine ends_bind.mpr <| ends_current.mpr <| ends_ite.mpr ?_
  split
  · exact .inl (.refl s)
  refine ends_bind.mpr <| ends_attempt.mpr <| ends_dispatch.mono fun found s₂ h => ?_
  refine (ends_conclude found).mono ?_
  rintro r s' ⟨hradio, xs, hlog, hcloses⟩
  rcases h with ⟨⟨e, rfl⟩, h⟩ | ⟨status, s₁, h⟩
  · refine .inl (h.trans ⟨hradio, xs, ?_, fun x hx => .inl (hcloses.isArming x hx)⟩)
    simpa [announced] using hlog
  · exact .inr ⟨status, s₁, found, s₂, h, hradio, xs, hlog, hcloses.isArming⟩

/-- A turn that was to serve an interrupt read no status, and did nothing else. -/
structure ReadsNothing (t : Turn) : Prop where
  reads : t.status? = none
  after : t.after = t.before
  events : t.events = []
  given : ∀ c ∈ t.given, c.IsService

/-- A turn served an interrupt: from `s` on it interpreted the status that it had read, which took
the exchanges `meant` and found `found` in `s'`. -/
structure Serves (rig : Rig σ) (t : Turn) (status : InterruptSet)
    (s : Station (σ × List Exchange)) (found : Except Fault (Option Event))
    (s' : Station (σ × List Exchange)) (meant : List Exchange) : Prop where
  reads : t.status? = some status
  radio : ∃ time, s.radio = t.before.receivedAt time
  result : (rig.recording.act (.of t.before status)).result s = (found, s')
  log : s'.log = s.log ++ meant
  after : t.after = s'.radio
  events : t.events = announced found
  /-- What the log held by then passed in this turn. -/
  passed : s'.log <+: t.exchanges
  exchanges : ∃ opening closing, t.exchanges = opening ++ meant ++ closing ∧
    (∀ x ∈ opening, x.IsService) ∧ ∀ x ∈ closing, x.IsService

section Serves
variable {t : Turn} {status : InterruptSet} {found : Except Fault (Option Event)}
  {s s' : Station (σ × List Exchange)} {meant : List Exchange}

theorem Serves.mem_given (h : rig.Serves t status s found s' meant) {c : Command}
    (hc : ¬c.IsService) : c ∈ t.given ↔ c ∈ meant.filterMap Exchange.given? := by
  obtain ⟨opening, closing, hexchanges, hopening, hclosing⟩ := h.exchanges
  rw [Turn.given, hexchanges]
  exact mem_filterMap_meant (fun _ => id) hc hopening hclosing

theorem Serves.mem_accepted (h : rig.Serves t status s found s' meant) {c : Command}
    (hc : ¬c.IsService) : c ∈ t.accepted ↔ c ∈ meant.filterMap Exchange.accepted? := by
  obtain ⟨opening, closing, hexchanges, hopening, hclosing⟩ := h.exchanges
  rw [Turn.accepted, hexchanges]
  exact mem_filterMap_meant (fun _ => Exchange.given_of_accepted) hc hopening hclosing

/-- The commands of a kind that depends on what an interrupt means, in their order. -/
theorem Serves.filter_given (h : rig.Serves t status s found s' meant) {f : Command → Bool}
    (hf : ∀ c, f c → ¬c.IsService) :
    t.given.filter f = (meant.filterMap Exchange.given?).filter f := by
  have outside {xs : List Exchange} (hxs : ∀ x ∈ xs, x.IsService) :
      (xs.filterMap Exchange.given?).filter f = [] := by
    refine List.filter_eq_nil_iff.mpr fun c hc hfc => ?_
    obtain ⟨x, hx, hgiven⟩ := List.mem_filterMap.mp hc
    exact hf c hfc (hxs x hx c hgiven)
  obtain ⟨opening, closing, hexchanges, hopening, hclosing⟩ := h.exchanges
  rw [Turn.given, hexchanges, List.filterMap_append, List.filterMap_append, List.filter_append,
    List.filter_append, outside hopening, outside hclosing, List.nil_append, List.append_nil]

/-- What the interpretation ends in is what the turn found. -/
theorem Serves.of_ends (h : rig.Serves t status s found s' meant)
    {Q : Except Fault (Option Event) → Station (σ × List Exchange) → Prop}
    (hact : (rig.recording.act (.of t.before status)).Ends s Q) : Q found s' := by
  rwa [Action.Ends, h.result] at hact

/-- What the interpretation ends in and logs is what the turn found and meant. -/
theorem Serves.of_logs (h : rig.Serves t status s found s' meant)
    {Q : Except Fault (Option Event) → Station (σ × List Exchange) → List Exchange → Prop}
    (hact : (rig.recording.act (.of t.before status)).Ends s fun r s' =>
      ∃ xs, s'.log = s.log ++ xs ∧ Q r s' xs) : Q found s' meant := by
  obtain ⟨xs, hlog, hxs⟩ := h.of_ends hact
  obtain rfl : xs = meant := List.append_cancel_left (hlog.symm.trans h.log)
  exact hxs

/-- What is fetched is fetched while the interrupt is interpreted. -/
theorem Serves.fetched (h : rig.Serves t status s found s' meant) :
    t.fetched = meant.filterMap Exchange.fetched? := by
  obtain ⟨opening, closing, hexchanges, hopening, hclosing⟩ := h.exchanges
  rw [Turn.fetched, hexchanges, List.filterMap_append, List.filterMap_append,
    fetched_of_services hopening, fetched_of_services hclosing, List.nil_append, List.append_nil]

end Serves

theorem readsNothing_of_inVain {t : Turn} (hafter : t.after = t.before)
    (h : ∀ x ∈ t.exchanges, x.IsInVain) : ReadsNothing t := by
  have hstatus : ∀ x ∈ t.exchanges, x.status? = none := fun x hx => by
    obtain ⟨mask, outcome, rfl⟩ | ⟨e, rfl⟩ := h x hx <;> rfl
  have hevent : ∀ x ∈ t.exchanges, x.event? = none := fun x hx => by
    obtain ⟨mask, outcome, rfl⟩ | ⟨e, rfl⟩ := h x hx <;> rfl
  refine ⟨?_, hafter, List.filterMap_eq_nil_iff.mpr hevent, fun c hc => ?_⟩
  · rw [Turn.status?, List.filterMap_eq_nil_iff.mpr hstatus]
    rfl
  · obtain ⟨x, hx, hgiven⟩ := List.mem_filterMap.mp hc
    obtain ⟨mask, outcome, rfl⟩ | ⟨e, rfl⟩ := h x hx <;> cases hgiven <;> trivial

/-- A turn that serves the interrupt either reads no status, and then does nothing else, or
interprets what it read, announces what it found and arms the interrupts again. -/
theorem processInterrupt_cases (rig : Rig σ) (s : Station σ) :
    let t := rig.turn s .processInterrupt
    ReadsNothing t ∨ ∃ status s₁ found s₂ meant, rig.Serves t status s₁ found s₂ meant := by
  intro t
  have hends : rig.recording.processInterrupt.Ends s.recorded fun _ s' => _ ∨ _ :=
    ends_processInterrupt
  rcases hends with ⟨hradio, xs, hlog, hxs⟩ |
    ⟨status, s₁, found, s₂, h, hafter, closing, hlog, hclosing⟩
  · refine .inl (readsNothing_of_inVain hradio ?_)
    rw [show t.exchanges = xs from hlog]
    exact hxs
  obtain ⟨⟨time, hradio⟩, ⟨notes, hnotes, hidle⟩, hresult⟩ := h
  have hact : Recorded rig (·.topic ∈ serviced) dispatched (rig.recording.act (.of s₁.radio status))
      (rig.act (.of s₁.radio status)) := recorded_act _
  obtain ⟨meant, hmeant, hwithin⟩ := (hact s₁).2.log
  rw [hresult] at hmeant
  rw [hradio, Meaning.of_receivedAt] at hresult
  have hexchanges : t.exchanges = (.command (.armInterrupts ∅) (.ok ()) ::
      .command .takeInterrupts (.ok status) :: notes) ++ meant ++
        ((announced found).map .event ++ closing) := by
    rw [show t.exchanges = _ from hlog, show s₂.log = _ from hmeant, hnotes]
    simp
  have hopening : ∀ x ∈ Exchange.command (.armInterrupts ∅) (.ok ()) ::
      .command .takeInterrupts (.ok status) :: notes, x.event? = none ∧ x.IsService := by
    rintro x (_ | ⟨_, _ | ⟨_, hx⟩⟩)
    · exact ⟨rfl, by rintro c ⟨⟩; trivial⟩
    · exact ⟨rfl, by rintro c ⟨⟩; trivial⟩
    · exact ⟨(hidle x hx).event?, (hidle x hx).isService⟩
  have hending : ∀ x ∈ (announced found).map .event ++ closing, x.IsService := by
    intro x hx
    rcases List.mem_append.mp hx with hx | hx
    · obtain ⟨event, -, rfl⟩ := List.mem_map.mp hx
      exact nofun
    · exact (hclosing x hx).isService
  refine .inr ⟨status, s₁, found, s₂, meant, ?_, ⟨time, hradio⟩, hresult, hmeant, hafter, ?_,
    ⟨_, (List.append_assoc ..).symm.trans hlog.symm⟩, _, _, hexchanges,
    fun x hx => (hopening x hx).2, hending⟩
  · rw [Turn.status?, hexchanges]
    rfl
  · have hmeant : ∀ x ∈ meant, x.event? = none := fun x hx => by
      have := hwithin x hx
      cases x with
      | event e => exact absurd this (by simp [Exchange.Within, dispatched])
      | _ => rfl
    rw [Turn.events, hexchanges, List.filterMap_append, List.filterMap_append,
      List.filterMap_eq_nil_iff.mpr fun x hx => (hopening x hx).1,
      List.filterMap_eq_nil_iff.mpr hmeant, List.filterMap_append, List.filterMap_map,
      List.filterMap_eq_nil_iff.mpr fun x hx => (hclosing x hx).event?]
    simp only [List.nil_append, List.append_nil]
    exact List.filterMap_some

/-- A turn of a radio that no scan owns serves the status that the chip answers with. -/
theorem turn_status {s : Station σ} {w w' : σ} {status : InterruptSet}
    (hscan : s.radio.state ≠ .scan)
    (harm : (rig.chip.perform (.armInterrupts ∅)).result s.world = (.ok (), w))
    (htake : (rig.chip.perform .takeInterrupts).result w = (.ok status, w')) :
    (rig.turn s .processInterrupt).status? = some status := by
  let opened : Station (σ × List Exchange) → Prop := fun s' =>
    [.command (.armInterrupts ∅) (.ok ()), .command .takeInterrupts (.ok status)] <+: s'.log
  have kept {α : Type} {gives : Command → Prop} {parts : List Part}
      {x : Action (Station (σ × List Exchange)) α} {y : Action (Station σ) α}
      (h : Recorded rig gives parts x y) : x.Keeps opened := by
    intro s' hs'
    obtain ⟨xs, hlog, -⟩ := (h s').2.log
    show _ <+: Station.log _
    rw [hlog]
    exact hs'.trans (List.prefix_append ..)
  have attend : Recorded rig anything [.packet] (rig.recording.attend status)
    (rig.attend status) := recorded_attend status (by simp) trivial
  have conclude (found : Except Fault (Option Event)) : Recorded rig anything [.listener]
    (rig.recording.conclude found) (rig.conclude found) :=
    recorded_conclude _ (fun _ => trivial) (by simp)
  have dispatched : rig.recording.dispatch.Ends s.recorded fun _ => opened := by
    have harm : (rig.chip.perform (.armInterrupts ∅)).result s.recorded.world.1 = _ := harm
    refine ends_bind.mpr ?_
    rw [Action.Ends, result_recording_tell, harm]
    refine ends_bind.mpr ?_
    rw [Action.Ends, result_recording_tell, htake]
    refine ends_bind.mpr <| (kept attend _ (List.prefix_refl _)).mono fun r s' h => ?_
    cases r with
    | error e => exact h
    | ok => exact ends_bind.mpr <| ends_current.mpr <| kept (recorded_act _) _ h
  have hends : rig.recording.processInterrupt.Ends s.recorded fun _ => opened := by
    refine ends_bind.mpr <| ends_current.mpr <| ends_ite.mpr <| (if_neg hscan).mpr ?_
    exact ends_bind.mpr <| ends_attempt.mpr <| dispatched.mono fun found => kept (conclude found)
  obtain ⟨rest, hrest⟩ := hends
  have hexchanges : (rig.turn s .processInterrupt).exchanges = _ := hrest.symm
  rw [Turn.status?, hexchanges]
  rfl

/-- A turn that served an interrupt interpreted the status that it read. -/
theorem serves_of_status {s : Station σ} {status : InterruptSet}
    (h : (rig.turn s .processInterrupt).status? = some status) :
    ∃ s₁ found s₂ meant, rig.Serves (rig.turn s .processInterrupt) status s₁ found s₂ meant := by
  rcases processInterrupt_cases rig s with hnothing | ⟨status', s₁, found, s₂, meant, hserves⟩
  · rw [hnothing.reads] at h
    cases h
  · obtain rfl : status' = status := Option.some.inj (hserves.reads.symm.trans h)
    exact ⟨s₁, found, s₂, meant, hserves⟩

end Rig

end Transceiver
