import Transceiver.Proofs.Antenna

/-! Ways out of sleep, over any failures of the chip. An attempt at standby arms the interrupts that
sleep disarmed as soon as the chip is awake. If the chip does not take the command that wakes it, the
driver no longer knows that it slept; the next attempt wakes it from an unknown state, and does not
arm anything. -/

namespace Transceiver

/-- The interrupts that came into force: the chip accepted the command that arms them. -/
def Exchange.inForce? : Exchange → Option InterruptSet
  | .command (.armInterrupts mask) (.ok _) => some mask
  | _ => none

theorem Exchange.inForce?_of_armed? {x : Exchange} (h : x.armed? = none) : x.inForce? = none := by
  unfold inForce?
  split
  · cases h
  · rfl

namespace Turn

/-- The turn began asleep, and the chip did not take the command that wakes it. -/
def LosesWake (t : Turn) : Prop := t.before.state = .sleep ∧ .wake ∉ t.accepted

instance (t : Turn) : Decidable t.LosesWake := inferInstanceAs (Decidable (_ ∧ _))

end Turn

/-- The interrupts in force after some turns, if they were `before` then. -/
def inForce (before : Option InterruptSet) (ts : List Turn) : Option InterruptSet :=
  lastFound Exchange.inForce? before (ts.flatMap Turn.exchanges)

theorem inForce_append (before : Option InterruptSet) (ts more : List Turn) :
    inForce before (ts ++ more) = inForce (inForce before ts) more := by
  rw [inForce, List.flatMap_append, lastFound_append]
  rfl

theorem inForce_concat {before found : Option InterruptSet} {ts : List Turn} {t : Turn}
    (h : lastFound Exchange.inForce? none t.exchanges = found) :
    inForce before (ts ++ [t]) = found.or (inForce before ts) := by
  rw [inForce_append, inForce, List.flatMap_singleton, ← h, lastFound, lastFound, Option.or_none]

namespace Station

variable {σ : Type}

/-- The radio does not sleep, and of the interrupts that came into force those found are the last. -/
structure Up (found : Option InterruptSet) (s : Station (σ × List Exchange)) : Prop where
  awake : s.radio.state ≠ .sleep
  inForce : lastFound Exchange.inForce? none s.log = found

/-- The chip took the command that wakes it. -/
def Woken (s : Station (σ × List Exchange)) : Prop := .wake ∈ s.log.filterMap Exchange.accepted?

/-- What an attempt at standby leaves of a radio that slept. -/
inductive Roused (mask : InterruptSet) (s : Station (σ × List Exchange)) : Prop
  /-- The chip was not woken, and the driver forgot that it slept. -/
  | lost (h : ¬s.Woken) (up : s.Up none)
  /-- The chip was woken, and did not arm the interrupts; the radio is taken to sleep still. -/
  | deaf (h : s.Woken) (asleep : s.radio.state = .sleep)
    (inForce : lastFound Exchange.inForce? none s.log = none)
  /-- The chip was woken, and has armed the interrupts, whatever came after that. -/
  | armed (h : s.Woken) (up : s.Up (some mask))

end Station

namespace Rig

open Station Transceiver.Action

variable {σ α : Type} {rig : Rig σ} {found : Option InterruptSet}

/-! ## An attempt -/

section Recorded
variable {gives : Command → Prop} {topics : List Topic} {parts : List Part}
  {x : Action (Station (σ × List Exchange)) α} {y : Action (Station σ) α}

theorem up_of_recorded (h : Recorded rig (·.topic ∈ topics) parts x y) (htopics : .arming ∉ topics)
    (hparts : .state ∉ parts) : x.Keeps (Up found) := by
  intro s hs
  obtain ⟨xs, hlog, hxs⟩ := (h s).2.log
  have hstate : (x.result s).2.radio.state = s.radio.state := (h s).2.radio .state hparts
  have hnone : ∀ x ∈ xs, x.inForce? = none := fun x hx =>
    Exchange.inForce?_of_armed? (Exchange.armed?_of_within (hxs x hx) htopics)
  refine ⟨hstate ▸ hs.awake, ?_⟩
  rw [hlog, lastFound_append, lastFound_of_none _ hnone]
  exact hs.inForce

theorem woken_of_recorded (h : Recorded rig gives parts x y) : x.Keeps Woken := by
  intro s hs
  obtain ⟨xs, hlog, -⟩ := (h s).2.log
  rw [Ends, Woken, hlog, List.filterMap_append]
  exact List.mem_append_left _ hs

end Recorded

theorem up_tell {c : Command} (hc : c.topic ≠ .arming) :
    (rig.recording.tell c).Keeps (Up found) := by
  have h : Recorded rig (·.topic ∈ [c.topic]) [] (rig.recording.tell c) (rig.tell c) :=
    recorded_tell c (.head _)
  exact up_of_recorded h (by simpa using hc.symm) List.not_mem_nil

theorem woken_tell (c : Command) : (rig.recording.tell c).Keeps Woken := by
  have h : Recorded rig anything [] (rig.recording.tell c) (rig.tell c) := recorded_tell c trivial
  exact woken_of_recorded h

theorem up_enter {state : RadioState} (h : state ≠ .sleep) :
    (enter (σ := σ × List Exchange) state).Keeps (Up found) := fun _ hs => ⟨h, hs.inForce⟩

theorem up_rest : rig.recording.rest.Keeps (Up found) := by
  have pause : Recorded rig (·.topic ∈ []) [] (rig.recording.pause standbyDelay)
    (rig.pause standbyDelay) := recorded_pause _
  exact keeps_rest (fun _ => up_tell) (up_of_recorded pause (by simp) (by simp)) (up_enter nofun)

theorem woken_rest : rig.recording.rest.Keeps Woken := by
  have pause : Recorded rig anything [] (rig.recording.pause standbyDelay)
    (rig.pause standbyDelay) := recorded_pause _
  exact keeps_rest (fun c _ => woken_tell c) (woken_of_recorded pause) fun _ hs => hs

/-- A radio that is not asleep goes to standby without arming anything. -/
theorem up_standby : rig.recording.standby.Keeps (Up found) := by
  intro s hs
  have awake : ¬s.radio.state = .sleep := hs.awake
  have lost : (enter (σ := σ × List Exchange) .unknown).Keeps (Up found) := up_enter nofun
  have wake : (rig.recording.wake false).Keeps (Up found) := by
    refine (up_tell (by simp)).attempt.bind fun r => ?_
    rcases r with e | ⟨⟩
    · exact lost.bind fun _ => .throw _
    · exact .pure _
  refine ends_bind.mpr <| ends_current.mpr <| ends_ite.mpr ?_
  split
  · exact hs
  refine ends_ite.mpr ?_
  split
  · exact hs
  refine ends_ite.mpr ?_
  split
  · rw [decide_eq_false awake]
    exact (wake.bind fun _ => up_rest) s hs
  · exact up_rest s hs

/-- A radio that sleep disarmed is armed as soon as the chip is awake, but only if it is known to
have slept. -/
theorem roused_standby {s : Station (σ × List Exchange)} (hstate : s.radio.state = .sleep)
    (hlog : s.log = []) (hconfig : rig.config.disarmInSleep = true) :
    rig.recording.standby.Ends s fun _ => Roused s.radio.mask := by
  have hunknown : RadioState.unknown ≠ .sleep := by simp
  refine ends_bind.mpr <| ends_current.mpr ?_
  simp only [hstate, reduceCtorEq, if_false, if_true, true_or, decide_true]
  refine ends_bind.mpr <| ends_bind.mpr <| ends_attempt.mpr <| ends_recording_tell fun r w => ?_
  rcases r with e | ⟨⟩
  · have hleft : s.log ++ [.command .wake (.error e)] = [.command .wake (.error e)] := by
      rw [hlog, List.nil_append]
    refine .lost ?_ ⟨hunknown, ?_⟩
    · show _ ∉ (s.log ++ [_]).filterMap _
      rw [hleft]
      exact List.not_mem_nil
    · show lastFound _ _ (s.log ++ [_]) = _
      rw [hleft]
      rfl
  refine ends_ite.mpr <| (if_pos rfl).mpr <| ends_ite.mpr <| (if_pos hconfig).mpr ?_
  refine ends_bind.mpr <| ends_current.mpr <| ends_order_bind (fun e w => ?_) fun _ w => ?_
  · refine .deaf ?_ hstate ?_
    · exact List.mem_filterMap.mpr ⟨.command .wake (.ok ()), by simp [log], rfl⟩
    · show lastFound _ _ (s.log ++ [_] ++ [_]) = _
      rw [hlog]
      rfl
  · refine ends_update.mpr <| Ends.mono (Q := fun _ s' => s'.Woken ∧ s'.Up (some s.radio.mask))
      ⟨woken_rest _ ?_, up_rest _ ⟨hunknown, ?_⟩⟩
      fun _ _ h => .armed h.1 h.2
    · exact List.mem_filterMap.mpr ⟨.command .wake (.ok ()), by simp [log], rfl⟩
    · show lastFound _ _ (s.log ++ [_] ++ [_]) = _
      rw [lastFound_concat]
      rfl

/-! ## Attempts in a row -/

end Rig

/-- What attempts at standby have come to, if the first of them found the radio asleep and the
interrupts `before` in force. -/
structure Recovers (before : Option InterruptSet) (ts : List Turn) (r : Radio) : Prop where
  asleep : r.state = .sleep → inForce before ts = before ∧ ∀ t ∈ ts, ¬t.LosesWake
  awake : r.state ≠ .sleep →
    inForce before ts = before ∧ (∃ t ∈ ts, t.LosesWake) ∨
      inForce before ts = some r.mask ∧ ∀ t ∈ ts, ¬t.LosesWake

namespace Rig

open Station Transceiver.Action

variable {σ : Type} {rig : Rig σ} {s : Station σ} {before : Option InterruptSet}

theorem mask_run {ops : List Operation} (h : s.radio.mask ≠ ∅) : (rig.run s ops).radio.mask ≠ ∅ := by
  induction ops generalizing s with
  | nil => exact h
  | cons op ops ih => exact ih (turn_after ▸ masked_perform op s.recorded h)

/-- One more attempt. Only an attempt that finds the radio asleep changes what is in force, or loses
the command that wakes the chip; none that comes after leaves it asleep again. -/
theorem recovers_turn {ts : List Turn} (hconfig : rig.config.disarmInSleep = true)
    (h : Recovers before ts s.radio) :
    Recovers before (ts ++ [rig.turn s .standby]) (rig.turn s .standby).after := by
  have hmask : (rig.turn s .standby).after.mask = s.radio.mask :=
    turn_within.2 .mask (by simp [Operation.parts])
  by_cases hsleep : s.radio.state = .sleep
  · -- so far no attempt has got further than the wake, and none has lost it
    obtain ⟨hbefore, hnone⟩ := h.asleep hsleep
    have hroused : rig.recording.standby.Ends s.recorded fun _ => Roused s.radio.mask :=
      roused_standby hsleep rfl hconfig
    have kept (hwoken : ((rig.recording.standby).result s.recorded).2.Woken) :
        ∀ t ∈ ts ++ [rig.turn s .standby], ¬t.LosesWake := by
      refine List.forall_mem_append.mpr ⟨hnone, ?_⟩
      rw [List.forall_mem_singleton]
      exact fun hlost => hlost.2 hwoken
    rcases hroused with ⟨hwoken, hup⟩ | ⟨hwoken, hasleep, hfound⟩ | ⟨hwoken, hup⟩
    · refine ⟨fun hasleep => absurd hasleep hup.awake, fun _ => .inl ⟨?_, ?_⟩⟩
      · exact (inForce_concat (t := rig.turn s .standby) hup.inForce).trans hbefore
      · exact ⟨_, List.mem_append_right _ (List.mem_singleton_self _), hsleep, hwoken⟩
    · refine ⟨fun _ => ⟨?_, kept hwoken⟩, fun hawake => absurd hasleep hawake⟩
      exact (inForce_concat (t := rig.turn s .standby) hfound).trans hbefore
    · refine ⟨fun hasleep => absurd hasleep hup.awake, fun _ => .inr ⟨?_, kept hwoken⟩⟩
      rw [inForce_concat (t := rig.turn s .standby) hup.inForce, hmask]
      rfl
  · -- an attempt that does not find the radio asleep changes nothing that matters here
    have hup : (rig.recording.standby).Ends s.recorded fun _ => Up none :=
      up_standby s.recorded ⟨hsleep, rfl⟩
    refine ⟨fun hasleep => absurd hasleep hup.awake, fun _ => ?_⟩
    rw [inForce_concat (t := rig.turn s .standby) hup.inForce, hmask, List.forall_mem_append,
      Option.none_or]
    obtain ⟨hbefore, t, ht, hlost⟩ | ⟨harmed, hnone⟩ := h.awake hsleep
    · exact .inl ⟨hbefore, t, List.mem_append_left _ ht, hlost⟩
    · refine .inr ⟨harmed, hnone, ?_⟩
      rw [List.forall_mem_singleton]
      exact fun hlost => hsleep hlost.1

theorem recovers_attempts (hconfig : rig.config.disarmInSleep = true)
    (hstate : s.radio.state = .sleep) (n : Nat) :
    Recovers before (rig.history s (.replicate n .standby))
      (rig.run s (.replicate n .standby)).radio := by
  induction n with
  | zero => exact ⟨fun _ => ⟨rfl, by simp [history]⟩, fun hawake => absurd hstate hawake⟩
  | succ n ih =>
    rw [List.replicate_succ', history_append, run_append, run_cons, run_nil, ← turn_after]
    exact recovers_turn hconfig ih

/-- Sleep that gives the chip its commands leaves no interrupt in force. -/
theorem ends_sleep_disarmed {s : Station (σ × List Exchange)} {duration : UInt32}
    (hconfig : rig.config.disarmInSleep = true) :
    (rig.recording.sleep duration).Ends s fun r s' => r.isOk = true →
      s'.radio.state = .sleep ∧
        (s.radio.state ≠ .sleep → lastFound Exchange.inForce? none s'.log = some ∅) := by
  have fallsAsleep {s : Station (σ × List Exchange)} : rig.recording.fallAsleep.Ends s fun r s' =>
      r.isOk = true → s'.radio.state = .sleep ∧ lastFound Exchange.inForce? none s'.log = some ∅ := by
    refine ends_order_bind (fun _ _ => nofun) fun _ _ => ends_tell_bind (fun _ _ => nofun) fun _ _ => ?_
    refine ends_ite.mpr <| (if_pos hconfig).mpr <| ends_tell_bind (fun _ _ => nofun) fun _ _ => ?_
    refine ends_bind.mpr <| ends_attempt.mpr <| ends_recording_tell fun r w => ?_
    rcases r with e | ⟨⟩
    · refine ends_ite.mpr <| (if_pos hconfig).mpr <| ends_bind_isOk fun _ _ => ?_
      exact ends_throw.mpr nofun
    · refine ends_update.mpr fun _ => ⟨rfl, ?_⟩
      show lastFound _ _ (_ ++ [_] ++ [_]) = _
      rw [lastFound_concat, lastFound_concat]
      rfl
  refine ends_bind.mpr <| ends_current.mpr <| ends_ite.mpr ?_
  split
  · exact nofun
  refine ends_ite.mpr ?_
  split
  · rename_i hsleep
    exact fun _ => ⟨hsleep, fun hawake => absurd hsleep hawake⟩
  refine ends_ite.mpr ?_
  split
  · refine ends_bind_isOk fun _ _ => ends_bind_isOk fun _ _ => ?_
    exact fallsAsleep.mono fun _ _ h hok => (h hok).imp_right fun hfound _ => hfound
  · exact fallsAsleep.mono fun _ _ h hok => (h hok).imp_right fun hfound _ => hfound

/-- A failed wake is recovered from exactly if the driver still knows that the radio slept. In every
run in which sleep succeeds, and standby after some attempts, with any failures of the chip: the
interrupts in force are then those on record, unless in one of the attempts the chip did not take
the command that wakes it; in that case what was in force before the attempts still is. A sleep that
gave the chip its commands has left nothing in force. -/
theorem recovered_iff_woken (rig : Rig σ) (w : σ) (ops : List Operation) (duration : UInt32) (n : Nat)
    (hconfig : rig.config.disarmInSleep = true)
    (hsleep : (rig.turn (rig.run ⟨{}, w⟩ ops) (.sleep duration)).Succeeds)
    (hstandby : (rig.turn (rig.run ⟨{}, w⟩ (ops ++ .sleep duration :: .replicate n .standby))
      .standby).Succeeds) :
    let slept := ops ++ [.sleep duration]
    let attempts := List.replicate (n + 1) Operation.standby
    let mask := (rig.run ⟨{}, w⟩ (slept ++ attempts)).radio.mask
    (inForce none (rig.history ⟨{}, w⟩ (slept ++ attempts)) = some mask ↔
      (∀ t ∈ rig.history (rig.run ⟨{}, w⟩ slept) attempts, ¬t.LosesWake) ∨
        inForce none (rig.history ⟨{}, w⟩ slept) = some mask) ∧
    ((rig.run ⟨{}, w⟩ ops).radio.state ≠ .sleep →
      inForce none (rig.history ⟨{}, w⟩ slept) ≠ some mask) := by
  intro slept attempts mask
  have hends : (rig.recording.sleep duration).Ends (rig.run ⟨{}, w⟩ ops).recorded _ :=
    ends_sleep_disarmed hconfig
  obtain ⟨hasleep, hdisarmed⟩ := hends hsleep
  have hstate : (rig.run ⟨{}, w⟩ slept).radio.state = .sleep := by
    rw [run_append, run_cons, run_nil, ← turn_after]
    exact hasleep
  have hrecovers : Recovers (inForce none (rig.history ⟨{}, w⟩ slept))
      (rig.history (rig.run ⟨{}, w⟩ slept) attempts)
      (rig.run (rig.run ⟨{}, w⟩ slept) attempts).radio :=
    recovers_attempts hconfig hstate (n + 1)
  have hawake : (rig.run (rig.run ⟨{}, w⟩ slept) attempts).radio.state ≠ .sleep := by
    have hlast : rig.run (rig.run ⟨{}, w⟩ slept) attempts =
        rig.step (rig.run ⟨{}, w⟩ (ops ++ .sleep duration :: .replicate n .standby)) .standby := by
      have hops : slept ++ attempts =
          (ops ++ .sleep duration :: .replicate n .standby) ++ [.standby] := by
        show ops ++ [_] ++ List.replicate (n + 1) _ = _
        rw [List.replicate_succ', ← List.append_assoc, List.append_assoc ops]
        rfl
      rw [← run_append, hops, run_append, run_cons, run_nil]
    rw [hlast, standby_of_succeeds hstandby]
    exact nofun
  rw [history_append, inForce_append]
  constructor
  · obtain ⟨hkept, t, ht, hlost⟩ | ⟨harmed, hnone⟩ := hrecovers.awake hawake
    · rw [hkept]
      exact (or_iff_right fun hnone => hnone t ht hlost).symm
    · rw [harmed, ← run_append]
      exact iff_of_true rfl (.inl hnone)
  · intro hgave hforce
    have hmask : mask ≠ ∅ := mask_run (show InterruptSet.loraDefault ≠ ∅ by decide)
    rw [history_append, history, history, inForce_concat (hdisarmed hgave)] at hforce
    exact hmask (Option.some.inj hforce).symm

end Rig

/-- A rig on the bench that disarms the interrupts in sleep. Each time its chip is to be woken, or
brought to standby, it takes the next status of its script, and refuses unless that is empty. -/
def Bench.fickle : Rig (List InterruptSet) :=
  let rig := Bench.rig {}
  { rig with
    chip := { rig.chip with
      perform := fun
        | .wake, status :: script => if status = ∅ then .ok () script else .error .io script
        | .setStandby _, status :: script => if status = ∅ then .ok () script else .error .io script
        | c, script => rig.chip.perform c script }
    config := { rig.config with disarmInSleep := true } }

namespace Rig

/-- The chip is woken, and armed, but does not reach standby before the second attempt. -/
theorem recovered_iff_woken_fickle :
    let w : List InterruptSet := [∅, ∅, ∅, {.timeout}]
    inForce none (Bench.fickle.history ⟨{}, w⟩
        ([.powerUp] ++ [.sleep 0] ++ List.replicate (1 + 1) .standby)) =
      some (Bench.fickle.run ⟨{}, w⟩
        ([.powerUp] ++ [.sleep 0] ++ List.replicate (1 + 1) .standby)).radio.mask := by
  intro w
  obtain ⟨hiff, -⟩ := recovered_iff_woken Bench.fickle w [.powerUp] 0 1 rfl (by decide +kernel)
    (by decide +kernel)
  have hwoken : ∀ t ∈ Bench.fickle.history (Bench.fickle.run ⟨{}, w⟩ ([.powerUp] ++ [.sleep 0]))
      (List.replicate (1 + 1) .standby), ¬t.LosesWake := by decide +kernel
  exact hiff.mpr (.inl hwoken)

/-- The chip does not take the first command that wakes it. The second attempt at standby succeeds,
and leaves the radio deaf. -/
theorem deaf_after_recovery :
    let s : Station (List InterruptSet) := ⟨{}, [∅, ∅, {.timeout}]⟩
    let rig := Bench.fickle
    rig.config.disarmInSleep = true ∧ (rig.turn (rig.run s [.powerUp]) (.sleep 0)).Succeeds ∧
      (rig.turn (rig.run s [.powerUp, .sleep 0, .standby]) .standby).Succeeds ∧
      inForce none (rig.history s [.powerUp, .sleep 0, .standby, .standby]) = some ∅ ∧
      (rig.run s [.powerUp, .sleep 0, .standby, .standby]).radio.mask = .loraDefault := by
  decide +kernel

end Rig

end Transceiver
