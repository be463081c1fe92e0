import Transceiver.Proofs.Bench
import Transceiver.Proofs.Window

/-! Listening before talking. A window in which the channel is listened to may end in a transmission
that nobody asks for again, so a dispatch should transmit only while such a window is in progress.
What decides is the policy noted last, and the policy outlives its window: it is dropped by the
dispatch that concludes a window, and by nothing else that ends one. -/

namespace Transceiver

namespace Turn

/-- The radio moved on in this turn: the operation succeeded in setting a state, or left another
state or another modem on record. -/
def MovesOn (t : Turn) : Prop :=
  (t.Succeeds ∧ .state ∈ t.operation.parts) ∨ t.after.state ≠ t.before.state ∨
    t.after.modem ≠ t.before.modem

/-- The status of this turn ends the window in progress: the timer of the reception ran out, an
activity detection is done, or there is a preamble on an FSK channel. A frame that was sent and a
packet that is damaged come first. -/
def EndsWindow (t : Turn) : Prop :=
  ∃ status ∈ t.status?, .txDone ∉ status ∧ .crcError ∉ status ∧
    if .timeout ∈ status then t.before.state ≠ .tx
    else .headerError ∉ status ∧ ((t.before.modem = .lora ∧ .cadDone ∈ status) ∨
      (t.before.modem = .fsk ∧ .syncWordValid ∉ status ∧ .preambleDetected ∈ status))

/-- The status of this turn ends the window in progress on a quiet channel: the timer of the
reception ran out, or an activity detection is done that detected none. -/
def HearsNothing (t : Turn) : Prop :=
  ∃ status ∈ t.status?, .txDone ∉ status ∧ .crcError ∉ status ∧
    if .timeout ∈ status then t.before.state ≠ .tx
    else .headerError ∉ status ∧ t.before.modem = .lora ∧ .cadDone ∈ status ∧
      .cadDetected ∉ status

instance (t : Turn) : Decidable t.MovesOn := inferInstanceAs (Decidable (_ ∨ _))

instance (t : Turn) : Decidable t.EndsWindow :=
  inferInstanceAs (Decidable (∃ status ∈ t.status?, _))

instance (t : Turn) : Decidable t.HearsNothing :=
  inferInstanceAs (Decidable (∃ status ∈ t.status?, _))

instance (t : Turn) : Decidable t.IsClear := inferInstanceAs (Decidable (_ ∧ _))

theorem findsQuiet_iff {t : Turn} : t.FindsQuiet ↔ t.HearsNothing := by
  unfold FindsQuiet HearsNothing meaning?
  cases t.status? with
  | none => simp
  | some status => simpa using Meaning.isQuiet_of_iff t.before status

theorem endsWindow_of_concludes {t : Turn} (h : t.Concludes) : t.EndsWindow := by
  unfold Concludes meaning? at h
  unfold EndsWindow
  cases hstatus : t.status? with
  | none => simp [hstatus] at h
  | some status =>
    rw [hstatus] at h
    obtain ⟨htx, hcrc, hends⟩ := (Meaning.concludes_of_iff _ t.before status).mp h
    refine ⟨status, rfl, htx, hcrc, ?_⟩
    split <;> rename_i htimeout
    · simpa [htimeout] using hends
    · rw [if_neg htimeout] at hends
      exact hends.imp_right (Or.imp_right fun h => ⟨h.1, h.2.1, h.2.2.1⟩)

/-- Under a policy, what ends the window in progress concludes it. -/
theorem concludes_of_endsWindow {t : Turn} (hpolicy : t.before.cadExit ≠ .none)
    (h : t.EndsWindow) : t.Concludes := by
  obtain ⟨status, hstatus, htx, hcrc, hends⟩ := h
  have hconcludes : (Meaning.of t.before status).concludes t.before.cadExit := by
    refine (Meaning.concludes_of_iff ..).mpr ⟨htx, hcrc, ?_⟩
    split <;> rename_i htimeout
    · simpa [htimeout] using hends
    · rw [if_neg htimeout] at hends
      exact hends.imp_right (Or.imp_right fun h => ⟨h.1, h.2.1, h.2.2, hpolicy⟩)
  rw [Concludes, meaning?, Option.mem_def.mp hstatus]
  exact hconcludes

end Turn

/-- The chip told of activity on the channel together with the end of the window. -/
def InterruptSet.Coalesces (status : InterruptSet) : Prop :=
  (.timeout ∈ status ∧ (.preambleDetected ∈ status ∨ .cadDetected ∈ status)) ∨
    (.cadDone ∈ status ∧ .preambleDetected ∈ status)

theorem InterruptSet.not_coalesces_iff {status : InterruptSet}
    (h : .timeout ∉ status → .cadDone ∈ status ∧ .cadDetected ∉ status) :
    ¬status.Coalesces ↔ .preambleDetected ∉ status ∧ .cadDetected ∉ status := by
  unfold Coalesces
  by_cases htimeout : .timeout ∈ status
  · by_cases hpreamble : .preambleDetected ∈ status <;> simp [htimeout, hpreamble]
  · simp [htimeout, h htimeout]

/-- What the turns of a run say about listening before talking. -/
structure Watch where
  /-- The policy noted last, if no status has ended a window since. -/
  policy : CadExit := .none
  /-- The policy that the LoRa activity detection was programmed with last. -/
  programmed : CadExit := .none
  /-- The modem of the window in progress, which transmits once the channel stayed quiet. -/
  window : Option Modem := none

namespace Watch

/-- The window that a policy opens on a modem. -/
def opened (policy : CadExit) (modem : Modem) : Option Modem :=
  if policy.listensBeforeTalk then some modem else none

theorem opened_eq_none_iff {policy : CadExit} {modem : Modem} :
    opened policy modem = none ↔ ¬policy.listensBeforeTalk := by
  simp [opened]

/-- What is known after one more turn. A window is opened by a carrier sense or by an activity
detection, and lasts until a status ends it or the radio moves on. -/
def next (watch : Watch) (t : Turn) : Watch :=
  match t.operation with
  | .powerUp => if .reset ∈ t.accepted then {} else watch
  | .setCadParams params =>
    if t.Succeeds then { watch with policy := params.exit, programmed := params.exit } else watch
  | .startCarrierSense _ exit =>
    if t.Succeeds then { watch with policy := exit, window := opened exit .fsk } else watch
  | .startCad =>
    if t.Succeeds then { watch with window := opened watch.programmed .lora } else watch
  | .processInterrupt =>
    if t.EndsWindow then { watch with policy := .none, window := none } else watch
  | _ => if t.MovesOn then { watch with window := none } else watch

/-- What is known after some turns. -/
def after (turns : List Turn) : Watch := turns.foldl next {}

/-- A window that listens before it talks is in progress. -/
def InProgress (watch : Watch) (r : Radio) : Prop :=
  (watch.window = some .fsk ∧ r.modem = .fsk ∧ r.state = .rx) ∨
    (watch.window = some .lora ∧ r.modem = .lora ∧ r.state = .cad)

instance (watch : Watch) (r : Radio) : Decidable (watch.InProgress r) :=
  inferInstanceAs (Decidable (_ ∨ _))

/-! ## Policies without a window -/

/-- This turn leaves a policy that listens before talking without a window. The activity detection is
programmed with it while none is in progress, or the window is left for something else before a
status has ended it, be it for an activity detection that would not transmit. -/
def Strands (watch : Watch) (t : Turn) : Prop :=
  match t.operation with
  | .setCadParams params => t.Succeeds ∧ params.exit.listensBeforeTalk ∧ watch.window = none
  | .startCad => t.Succeeds ∧ watch.policy.listensBeforeTalk ∧ ¬watch.programmed.listensBeforeTalk
  | .powerUp | .startCarrierSense .. | .processInterrupt => False
  | _ => watch.policy.listensBeforeTalk ∧ watch.window ≠ none ∧ t.MovesOn

end Watch

/-- This turn does away with the policy on record, or opens a window for it or for another. -/
def Turn.Settles (t : Turn) : Prop :=
  match t.operation with
  | .powerUp => .reset ∈ t.accepted
  | .setCadParams _ | .startCarrierSense .. | .startCad => t.Succeeds
  | .processInterrupt => t.EndsWindow
  | _ => False

namespace Watch

/-- A turn left a policy without a window, and none after it has settled that. -/
def Lingers (turns : List Turn) : Prop :=
  ∃ pre t post, turns = pre ++ t :: post ∧ (after pre).Strands t ∧ ∀ t ∈ post, ¬t.Settles

/-- The policy noted last listens before talking, and has no window. -/
def Stranded (watch : Watch) : Prop := watch.policy.listensBeforeTalk ∧ watch.window = none

instance (watch : Watch) : Decidable watch.Stranded := inferInstanceAs (Decidable (_ ∧ _))

/-- A policy comes to be without a window, or stays so, exactly by these turns. -/
theorem stranded_next (watch : Watch) (t : Turn) :
    (watch.next t).Stranded ↔ watch.Strands t ∨ (watch.Stranded ∧ ¬t.Settles) := by
  unfold next Strands Turn.Settles
  cases t.operation with
  | powerUp => by_cases h : .reset ∈ t.accepted <;> simp [h, Stranded, CadExit.listensBeforeTalk]
  | setCadParams params => by_cases h : t.Succeeds <;> simp [h, Stranded]
  | startCarrierSense params exit =>
    by_cases h : t.Succeeds <;> simp [h, Stranded, opened_eq_none_iff]
  | startCad => by_cases h : t.Succeeds <;> simp [h, Stranded, opened_eq_none_iff]
  | processInterrupt => by_cases h : t.EndsWindow <;> simp [h, Stranded, CadExit.listensBeforeTalk]
  | _ =>
    by_cases h : t.MovesOn
    · by_cases hwindow : watch.window = none <;> simp [h, hwindow, Stranded]
    · simp [h, Stranded]

/-- A policy without a window has lost it in some turn, or had none from the start on. -/
theorem stranded_foldl (watch : Watch) (turns : List Turn) :
    (turns.foldl next watch).Stranded ↔
      (∃ pre t post, turns = pre ++ t :: post ∧ (pre.foldl next watch).Strands t ∧
        ∀ t ∈ post, ¬t.Settles) ∨
      (watch.Stranded ∧ ∀ t ∈ turns, ¬t.Settles) := by
  induction turns generalizing watch with
  | nil => simp
  | cons t turns ih =>
    rw [List.foldl_cons, ih, stranded_next, List.forall_mem_cons]
    constructor
    · rintro (⟨pre, c, post, rfl, hc, hpost⟩ | ⟨hc | ⟨hstranded, ht⟩, hturns⟩)
      · exact .inl ⟨t :: pre, c, post, rfl, hc, hpost⟩
      · exact .inl ⟨[], t, turns, rfl, hc, hturns⟩
      · exact .inr ⟨hstranded, ht, hturns⟩
    · rintro (⟨_ | ⟨_, pre⟩, c, post, h, hc, hpost⟩ | ⟨hstranded, ht, hturns⟩)
      · obtain ⟨rfl, rfl⟩ := List.cons.inj h
        exact .inr ⟨.inl hc, hpost⟩
      · obtain ⟨rfl, rfl⟩ := List.cons.inj h
        exact .inl ⟨pre, c, post, rfl, hc, hpost⟩
      · exact .inr ⟨.inr ⟨hstranded, ht⟩, hturns⟩

theorem lingers_iff {turns : List Turn} : Lingers turns ↔ (after turns).Stranded := by
  rw [after, stranded_foldl]
  exact (or_iff_left fun h => Bool.noConfusion h.1.1).symm

end Watch

/-- The state that a window on this modem is in progress in. -/
def Modem.windowState : Modem → RadioState
  | .fsk => .rx
  | .lora => .cad

namespace Watch

/-- A window that the turns tell of is in progress. -/
def Holds (watch : Watch) (r : Radio) : Prop :=
  ∀ m, watch.window = some m → r.modem = m ∧ r.state = m.windowState

theorem holds_none {watch : Watch} (h : watch.window = none) (r : Radio) : watch.Holds r :=
  fun m hm => by rw [h] at hm; cases hm

theorem holds_opened {policy : CadExit} {m : Modem} {r : Radio} {watch : Watch}
    (h : watch.window = opened policy m) (hmodem : r.modem = m) (hstate : r.state = m.windowState) :
    watch.Holds r := by
  intro m' hm
  rw [h, opened] at hm
  split at hm
  · cases hm
    exact ⟨hmodem, hstate⟩
  · cases hm

theorem Holds.inProgress_iff {watch : Watch} {r : Radio} (h : watch.Holds r) :
    watch.InProgress r ↔ watch.window ≠ none := by
  constructor
  · rintro (⟨hwindow, -⟩ | ⟨hwindow, -⟩) <;> simp [hwindow]
  · intro hwindow
    cases hm : watch.window with
    | none => exact absurd hm hwindow
    | some m =>
      obtain ⟨hmodem, hstate⟩ := h m hm
      cases m with
      | fsk => exact .inl ⟨hm, hmodem, hstate⟩
      | lora => exact .inr ⟨hm, hmodem, hstate⟩

theorem Holds.of_still {watch : Watch} {t : Turn} (h : watch.Holds t.before)
    (ht : ¬t.MovesOn) : watch.Holds t.after := fun m hm => by
  obtain ⟨-, hkept⟩ := not_or.mp ht
  obtain ⟨hstate, hmodem⟩ := not_or.mp hkept
  rw [Decidable.of_not_not hmodem, Decidable.of_not_not hstate]
  exact h m hm

theorem Holds.of_agrees {watch : Watch} {r r' : Radio} {parts : List Part} (h : watch.Holds r)
    (hr : r.AgreesBut parts r') (hmodem : .modem ∉ parts) (hstate : .state ∉ parts) :
    watch.Holds r' := fun m hm => by
  rw [hr .modem hmodem, hr .state hstate]
  exact h m hm

end Watch

namespace Rig

open Station Transceiver.Action

variable {σ : Type} {rig : Rig σ}

/-- A status that ends a window leaves no policy on record; without one the record stays as it is, but
for the packet. -/
theorem turn_endsWindow (rig : Rig σ) (s : Station σ) :
    ((rig.turn s .processInterrupt).EndsWindow →
        (rig.turn s .processInterrupt).after.cadExit = .none) ∧
      (¬(rig.turn s .processInterrupt).EndsWindow →
        s.radio.AgreesBut [.packet, .storage] (rig.turn s .processInterrupt).after) := by
  obtain ⟨hconcludes, hnot⟩ := turn_processInterrupt rig s
  refine ⟨fun hends => ?_, fun hends => hnot fun hc => hends (Turn.endsWindow_of_concludes hc)⟩
  by_cases hc : (rig.turn s .processInterrupt).Concludes
  · exact (hconcludes hc).1
  · have hpolicy : s.radio.cadExit = .none :=
      Decidable.byContradiction fun hpolicy => hc (Turn.concludes_of_endsWindow hpolicy hends)
    exact (hnot hc .cadExit (by simp)).trans hpolicy

/-- The policy on record is the one that the turns tell of. -/
theorem next_policy (watch : Watch) (s : Station σ) (op : Operation)
    (h : watch.policy = s.radio.cadExit) :
    (watch.next (rig.turn s op)).policy = (rig.turn s op).after.cadExit := by
  have unchanged (hop : .cadExit ∉ op.parts) : watch.policy = (rig.turn s op).after.cadExit := by
    rw [h, turn_within.2 .cadExit hop]
  cases op with
  | powerUp =>
    show (if .reset ∈ (rig.turn s .powerUp).accepted then _ else _ : Watch).policy = _
    split <;> rename_i hreset
    · exact ((turn_powerUp s).1 hreset).1.symm
    · rw [h, (turn_powerUp s).2 hreset .cadExit (by simp)]
  | setCadParams params =>
    show (if (rig.turn s (.setCadParams params)).Succeeds then _ else _ : Watch).policy = _
    split <;> rename_i hs
    · rw [(turn_setCadParams s params).1 hs]
    · rw [(turn_setCadParams s params).2 hs, h]
  | startCarrierSense params exit =>
    show (if (rig.turn s (.startCarrierSense params exit)).Succeeds then _
      else _ : Watch).policy = _
    split <;> rename_i hs
    · rw [((turn_startCarrierSense s params exit).1 hs).1]
    · rw [h, (turn_startCarrierSense s params exit).2 hs .cadExit (by simp)]
  | startCad =>
    rw [← unchanged (by simp [Operation.parts])]
    show (if (rig.turn s .startCad).Succeeds then _ else _ : Watch).policy = _
    split <;> rfl
  | processInterrupt =>
    show (if (rig.turn s .processInterrupt).EndsWindow then _ else _ : Watch).policy = _
    split <;> rename_i hends
    · exact ((turn_endsWindow rig s).1 hends).symm
    · rw [h, (turn_endsWindow rig s).2 hends .cadExit (by simp)]
  | _ =>
    rw [← unchanged (by simp [Operation.parts])]
    show (if (rig.turn s _).MovesOn then _ else _ : Watch).policy = _
    split <;> rfl

/-- The policy on record is the one that the turns of the run tell of. -/
theorem after_policy (w : σ) (ops : List Operation) :
    (Watch.after (rig.history ⟨{}, w⟩ ops)).policy = (rig.run ⟨{}, w⟩ ops).radio.cadExit :=
  history_keeps (fun watch r => watch.policy = r.cadExit) (fun s op watch => next_policy watch s op)
    ops {} rfl

/-- A window that the turns tell of stays in progress while the turns tell of it. -/
theorem next_holds (watch : Watch) (s : Station σ) (op : Operation)
    (h : watch.Holds s.radio) : (watch.next (rig.turn s op)).Holds (rig.turn s op).after := by
  cases op with
  | powerUp =>
    show (if .reset ∈ (rig.turn s .powerUp).accepted then _ else _ : Watch).Holds _
    split <;> rename_i hreset
    · exact Watch.holds_none rfl _
    · exact h.of_agrees ((turn_powerUp s).2 hreset) (by simp) (by simp)
  | setCadParams params =>
    show (if (rig.turn s (.setCadParams params)).Succeeds then _ else _ : Watch).Holds _
    split <;> rename_i hs
    · rw [(turn_setCadParams s params).1 hs]
      exact h
    · rw [(turn_setCadParams s params).2 hs]
      exact h
  | startCarrierSense params exit =>
    show (if (rig.turn s (.startCarrierSense params exit)).Succeeds then _ else _ : Watch).Holds _
    split <;> rename_i hs
    · obtain ⟨-, hmodem, hstate, -⟩ := (turn_startCarrierSense s params exit).1 hs
      exact Watch.holds_opened rfl hmodem hstate
    · exact h.of_agrees ((turn_startCarrierSense s params exit).2 hs) (by simp) (by simp)
  | startCad =>
    show (if (rig.turn s .startCad).Succeeds then _ else _ : Watch).Holds _
    split <;> rename_i hs
    · obtain ⟨hmodem, hstate⟩ := (turn_startCad s).1 hs
      exact Watch.holds_opened rfl hmodem hstate
    · rw [(turn_startCad s).2 hs]
      exact h
  | processInterrupt =>
    show (if (rig.turn s .processInterrupt).EndsWindow then _ else _ : Watch).Holds _
    split <;> rename_i hends
    · exact Watch.holds_none rfl _
    · exact h.of_agrees ((turn_endsWindow rig s).2 hends) (by simp) (by simp)
  | _ =>
    show (if (rig.turn s _).MovesOn then _ else _ : Watch).Holds _
    split <;> rename_i hmoves
    · exact Watch.holds_none rfl _
    · exact h.of_still hmoves

theorem after_holds (w : σ) (ops : List Operation) :
    (Watch.after (rig.history ⟨{}, w⟩ ops)).Holds (rig.run ⟨{}, w⟩ ops).radio :=
  history_keeps Watch.Holds (fun s op watch => next_holds watch s op) ops {}
    (Watch.holds_none rfl _)

/-- **A dispatch transmits under the policy noted last, with or without its window.** It transmits
exactly if that policy listens before talking, the status ends the window on a quiet channel, and
nothing keeps the transmission back. The window of the policy is then in progress, unless a turn has
left the policy without it and none has settled that since; and the chip told of no activity, unless
it did so together with the end of the window. So no dispatch transmits out of a window in a run
where no turn leaves a policy without its window. -/
theorem transmits_iff_hearsNothing (rig : Rig σ) (hconfig : rig.config.reportQuietChannel = false)
    (w : σ) (ops : List Operation) :
    let turns := rig.history ⟨{}, w⟩ ops
    let t := rig.turn (rig.run ⟨{}, w⟩ ops) .processInterrupt
    let watch := Watch.after turns
    (t.Transmits ↔ watch.policy.listensBeforeTalk ∧ t.HearsNothing ∧ t.IsClear) ∧
      (t.Transmits → (watch.InProgress t.before ↔ ¬Watch.Lingers turns) ∧
        ∀ status ∈ t.status?,
          (.preambleDetected ∉ status ∧ .cadDetected ∉ status) ↔ ¬status.Coalesces) ∧
      ((∀ pre c post, turns = pre ++ c :: post → ¬(Watch.after pre).Strands c) →
        t.Transmits → watch.InProgress t.before) := by
  intro turns t watch
  have hpolicy : watch.policy = t.before.cadExit := after_policy w ops
  have hwindow : watch.InProgress t.before ↔ watch.window ≠ none := (after_holds w ops).inProgress_iff
  have htransmits : t.Transmits ↔ watch.policy.listensBeforeTalk ∧ t.HearsNothing ∧ t.IsClear := by
    rw [hpolicy, ← Turn.findsQuiet_iff, and_left_comm]
    exact transmits_iff hconfig
  have hlingers (h : t.Transmits) : watch.InProgress t.before ↔ ¬Watch.Lingers turns := by
    rw [hwindow, Watch.lingers_iff, Watch.Stranded, and_iff_right (htransmits.mp h).1]
  refine ⟨htransmits, fun h => ⟨hlingers h, fun status hstatus => ?_⟩, fun hnever h => ?_⟩
  · obtain ⟨-, ⟨status', hstatus', -, -, hquiet⟩, -⟩ := htransmits.mp h
    cases hstatus.symm.trans hstatus'
    refine (InterruptSet.not_coalesces_iff fun htimeout => ?_).symm
    rw [if_neg htimeout] at hquiet
    exact hquiet.2.2
  · refine (hlingers h).mpr ?_
    rintro ⟨pre, c, post, hturns, hstrands, -⟩
    exact hnever pre c post hturns hstrands

/-- A carrier sense window on a quiet channel. The frame is sent while the window is in progress. -/
theorem transmits_iff_hearsNothing_carrierSense :
    let rig := Bench.rig {}
    let s : Station (List InterruptSet) := ⟨{}, [{.timeout}]⟩
    let ops := [.setModem .fsk, .standby, .startCarrierSense ⟨1000, -80⟩ .csLbt]
    (rig.turn (rig.run s ops) .processInterrupt).Transmits ∧
      (Watch.after (rig.history s ops)).InProgress (rig.run s ops).radio := by
  intro rig s ops
  obtain ⟨htransmits, hwhile, -⟩ := transmits_iff_hearsNothing rig rfl s.world ops
  have h := htransmits.mpr (by decide +kernel)
  have hsettled : ¬(Watch.after (rig.history s ops)).Stranded := by decide +kernel
  exact ⟨h, (hwhile h).1.mpr fun hlingers => hsettled (Watch.lingers_iff.mp hlingers)⟩

/-- Activity detection is programmed to transmit on a quiet channel, and never started: a plain
reception that times out transmits. Neither does a preamble beside the timeout stop a carrier sense
window from transmitting. -/
theorem transmits_out_of_window :
    let rig := Bench.rig {}
    let s : Station (List InterruptSet) := ⟨{}, [{.timeout}]⟩
    let ops := [.standby, .setCadParams (Bench.cadParams .csLbt), .startRx 1000]
    let s' : Station (List InterruptSet) := ⟨{}, [{.timeout, .preambleDetected}]⟩
    let ops' := [.setModem .fsk, .standby, .startCarrierSense ⟨1000, -80⟩ .csLbt]
    ((rig.turn (rig.run s ops) .processInterrupt).Transmits ∧
      ¬(Watch.after (rig.history s ops)).InProgress (rig.run s ops).radio) ∧
    (rig.turn (rig.run s' ops') .processInterrupt).Transmits := by
  decide +kernel

end Rig

end Transceiver
