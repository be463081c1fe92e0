import Transceiver.Proofs.Arming
import Transceiver.Proofs.Bench
import Transceiver.Proofs.Window

/-! The narrow mask of a carrier sense window. The mask on record is meant to be that of the modem,
except while such a window is in progress. It is narrowed when the window is opened, and restored
by the dispatch that concludes the window; but what leaves the window in another way leaves the
narrow mask behind. -/

namespace Transceiver

/-! ## Since -/

/-- Some turn `opens`, and none since then `ends`. -/
def Since (opens ends : Turn → Bool) (ts : List Turn) : Prop :=
  ∃ past t recent, ts = past ++ t :: recent ∧ opens t = true ∧ ∀ u ∈ recent, ends u = false

section Since
variable {opens ends : Turn → Bool} {ts : List Turn} {t : Turn}

theorem not_since_nil : ¬Since opens ends [] := by
  rintro ⟨past, t, recent, hsplit, -⟩
  simp at hsplit

/-- One more turn opens, or does not end what was opened before. -/
theorem since_concat :
    Since opens ends (ts ++ [t]) ↔ opens t = true ∨ Since opens ends ts ∧ ends t = false := by
  constructor
  · rintro ⟨past, u, recent, hsplit, hopens, hrecent⟩
    obtain rfl | ⟨front, v, rfl⟩ := List.eq_nil_or_concat recent
    · obtain ⟨-, htu⟩ := List.append_inj' hsplit rfl
      obtain rfl := List.singleton_inj.mp htu
      exact .inl hopens
    · have hsplit : ts ++ [t] = (past ++ u :: front) ++ [v] := by simpa using hsplit
      obtain ⟨rfl, htv⟩ := List.append_inj' hsplit rfl
      obtain rfl := List.singleton_inj.mp htv
      refine .inr ⟨⟨past, u, front, rfl, hopens, fun x hx => ?_⟩, ?_⟩
      · exact hrecent x (by simp [hx])
      · exact hrecent t (by simp)
  · rintro (hopens | ⟨⟨past, u, recent, rfl, hopens, hrecent⟩, hends⟩)
    · exact ⟨ts, t, [], rfl, hopens, by simp⟩
    · refine ⟨past, u, recent ++ [t], by simp, hopens, fun x hx => ?_⟩
      obtain hx | hx := List.mem_append.mp hx
      · exact hrecent x hx
      · rw [List.mem_singleton.mp hx]
        exact hends

theorem since_concat_of_opens (h : opens t = true) : Since opens ends (ts ++ [t]) :=
  since_concat.mpr (.inl h)

theorem not_since_concat (hopens : opens t = false) (hends : ends t = true) :
    ¬Since opens ends (ts ++ [t]) := by
  intro h
  obtain h | ⟨-, h⟩ := since_concat.mp h
  · rw [hopens] at h
    cases h
  · rw [hends] at h
    cases h

/-- A turn that neither opens nor ends. -/
theorem since_concat_iff (hopens : opens t = false) (hends : ends t = false) :
    Since opens ends (ts ++ [t]) ↔ Since opens ends ts := by
  rw [since_concat, hopens, hends]
  simp

end Since

/-! ## Windows -/

namespace Turn

/-- This turn opened a carrier sense window. -/
def opensWindow (t : Turn) : Bool :=
  match t.operation with
  | .startCarrierSense .. => t.Succeeds
  | _ => false

/-- This turn set the mask to that of the modem: by a reset, by a choice of the modem, or by the
dispatch that concluded a window. -/
def restoresMask (t : Turn) : Bool :=
  match t.operation with
  | .powerUp => .reset ∈ t.accepted
  | .setModem _ => t.Succeeds
  | .processInterrupt => t.Concludes
  | _ => false

/-- The application changed the state of the radio in this turn, or set it anew. -/
def setsState (t : Turn) : Bool :=
  t.operation ≠ .processInterrupt ∧
    (t.after.state ≠ t.before.state ∨ t.Succeeds ∧ .state ∈ t.operation.parts)

/-- A dispatch concluded a window in this turn. -/
def concludesWindow (t : Turn) : Bool := t.operation = .processInterrupt ∧ t.Concludes

/-- The application left in this turn whatever window was in progress. -/
def abandonsWindow (t : Turn) : Bool := t.setsState && !t.opensWindow

end Turn

/-- A carrier sense window is in progress: the application last set the state by opening it, and no
dispatch has concluded it. -/
def InWindow : List Turn → Prop := Since Turn.opensWindow fun t => t.setsState || t.concludesWindow

/-- A window was opened, and the mask has not been restored since. -/
def Narrowed : List Turn → Prop := Since Turn.opensWindow Turn.restoresMask

/-- The application has left the last window, and the mask has not been restored since. -/
def Abandoned : List Turn → Prop :=
  Since Turn.abandonsWindow fun t => t.opensWindow || t.restoresMask

/-- What the turns of a run say about the record. -/
structure Tracks (ts : List Turn) (r : Radio) : Prop where
  narrowed : Narrowed ts → r.mask = .carrierSense
  restored : ¬Narrowed ts → r.mask = .defaultFor r.modem
  window : InWindow ts → r.state = .rx
  /-- Only the application leaves a window without restoring the mask. -/
  left : Narrowed ts → (InWindow ts ↔ ¬Abandoned ts)

theorem carrierSense_ne_defaultFor (modem : Modem) :
    InterruptSet.carrierSense ≠ .defaultFor modem := by
  cases modem <;> decide

namespace Rig

open Station Transceiver.Action

variable {σ : Type} {rig : Rig σ}

section Steps
variable {s : Station (σ × List Exchange)}

/-- The choice of a modem fails before anything is changed, if the chip refuses nothing. -/
theorem ends_setModem (modem : Modem) :
    (rig.recording.setModem modem).Ends s fun r s' => Smooth s'.log →
      (r.isOk = true → s'.radio.mask = .defaultFor modem ∧ s'.radio.modem = modem) ∧
        (¬r.isOk = true → s'.radio = s.radio) := by
  refine ends_bind.mpr <| ends_ensureNotScanning.mpr ?_
  split
  · exact fun _ => ⟨nofun, fun _ => rfl⟩
  refine smooth_order_bind fun _ _ => ends_bind.mpr <| ends_update.mpr ?_
  refine ends_reporting.mpr <| ends_recording_tell fun r w => ?_
  cases r with
  | error e => exact fun hsmooth => absurd hsmooth not_smooth_concat
  | ok => exact fun _ => ⟨fun _ => ⟨rfl, rfl⟩, fun h => absurd rfl h⟩

/-- So does the start of a carrier sense window. -/
theorem smooth_startCarrierSense (params : Fsk.CarrierSense) (exit : CadExit) :
    (rig.recording.startCarrierSense params exit).Ends s fun r s' => Smooth s'.log →
      ¬r.isOk = true → s'.radio = s.radio := by
  refine ends_bind.mpr <| ends_ensure.mpr ?_
  split
  · exact fun _ _ => rfl
  split
  case isFalse => exact fun _ _ => rfl
  refine ends_bind.mpr <| ends_current.mpr <| ends_ite.mpr ?_
  split
  · exact fun _ _ => rfl
  refine smooth_order_bind fun _ _ => smooth_tell_bind fun _ _ => smooth_tell_bind fun _ _ => ?_
  refine ends_bind.mpr <| ends_update.mpr <| smooth_tell_bind fun _ _ => ?_
  exact smooth_order_bind fun _ _ => fun _ hfails => absurd rfl hfails

theorem ends_powerUp_done : rig.recording.powerUp.Ends s fun r s' =>
    r.isOk = true → s'.radio.modem = .lora ∧ s'.radio.mask = .loraDefault := by
  refine ends_bind_isOk fun _ s => ends_bind_isOk fun _ s => ends_bind_isOk fun _ s => ?_
  refine ends_bind_isOk fun _ s => ends_bind.mpr <| ends_update.mpr ?_
  refine ((recorded_configure _).ends _).mono fun _ _ hkept _ => ?_
  exact ⟨hkept.radio .modem (by simp), hkept.radio .mask (by simp)⟩

end Steps

section Turns
variable {s : Station σ} {op : Operation} {ts : List Turn}

theorem turn_setModem {modem : Modem} (hsmooth : (rig.turn s (.setModem modem)).IsSmooth) :
    ((rig.turn s (.setModem modem)).Succeeds →
        (rig.turn s (.setModem modem)).after.mask = .defaultFor modem ∧
          (rig.turn s (.setModem modem)).after.modem = modem) ∧
      (¬(rig.turn s (.setModem modem)).Succeeds →
        (rig.turn s (.setModem modem)).after = s.radio) := by
  have hends : (rig.recording.setModem modem).Ends s.recorded fun r s' => Smooth s'.log →
    (r.isOk = true → s'.radio.mask = .defaultFor modem ∧ s'.radio.modem = modem) ∧
      (¬r.isOk = true → s'.radio = s.radio) := ends_setModem modem
  exact hends hsmooth

theorem turn_startCarrierSense_fails {params : Fsk.CarrierSense} {exit : CadExit}
    (hsmooth : (rig.turn s (.startCarrierSense params exit)).IsSmooth)
    (hfails : ¬(rig.turn s (.startCarrierSense params exit)).Succeeds) :
    (rig.turn s (.startCarrierSense params exit)).after = s.radio := by
  have hends : (rig.recording.startCarrierSense params exit).Ends s.recorded fun r s' =>
    Smooth s'.log → ¬r.isOk = true → s'.radio = s.radio := smooth_startCarrierSense params exit
  exact hends hsmooth hfails

theorem turn_opensWindow (h : (rig.turn s op).opensWindow = true) :
    (rig.turn s op).after.mask = .carrierSense ∧ (rig.turn s op).after.state = .rx := by
  cases op with
  | startCarrierSense params exit =>
    have hsucceeds := of_decide_eq_true h
    obtain ⟨-, -, hstate, hmask⟩ := (turn_startCarrierSense s params exit).1 hsucceeds
    exact ⟨hmask, hstate⟩
  | _ => cases h

theorem turn_restoresMask (hsmooth : (rig.turn s op).IsSmooth)
    (h : (rig.turn s op).restoresMask = true) :
    (rig.turn s op).after.mask = .defaultFor (rig.turn s op).after.modem := by
  cases op with
  | powerUp =>
    obtain ⟨-, hmodem, hmask⟩ := (turn_powerUp s).1 (of_decide_eq_true h)
    rw [hmask, hmodem]
    rfl
  | setModem modem =>
    obtain ⟨hmask, hmodem⟩ := (turn_setModem hsmooth).1 (of_decide_eq_true h)
    rw [hmask, hmodem]
  | processInterrupt =>
    have hmodem : (rig.turn s .processInterrupt).after.modem = s.radio.modem :=
      turn_within.2 .modem (by simp [Operation.parts, dispatched])
    rw [hmodem]
    exact ((turn_processInterrupt rig s).1 (of_decide_eq_true h)).2
  | _ => cases h

/-- Every other turn leaves the mask and the modem on record alone. -/
theorem turn_keeps_mask (hsmooth : (rig.turn s op).IsSmooth)
    (hopens : (rig.turn s op).opensWindow = false)
    (hrestores : (rig.turn s op).restoresMask = false) :
    (rig.turn s op).after.mask = s.radio.mask ∧
      (rig.turn s op).after.modem = s.radio.modem := by
  by_cases hparts : .mask ∈ op.parts ∨ .modem ∈ op.parts
  case neg =>
    rw [not_or] at hparts
    exact ⟨turn_within.2 .mask hparts.1, turn_within.2 .modem hparts.2⟩
  cases op with
  | powerUp =>
    have hkept := (turn_powerUp s).2 (of_decide_eq_false hrestores)
    exact ⟨hkept .mask (by simp), hkept .modem (by simp)⟩
  | setModem modem =>
    rw [(turn_setModem hsmooth).2 (of_decide_eq_false hrestores)]
    exact ⟨rfl, rfl⟩
  | startCarrierSense params exit =>
    rw [turn_startCarrierSense_fails hsmooth (of_decide_eq_false hopens)]
    exact ⟨rfl, rfl⟩
  | processInterrupt =>
    have hkept := (turn_processInterrupt rig s).2 (of_decide_eq_false hrestores)
    exact ⟨hkept .mask (by simp), hkept .modem (by simp)⟩
  | _ => simp [Operation.parts] at hparts

/-- A turn that does not end a window leaves the state alone. -/
theorem turn_keeps_state (hsets : (rig.turn s op).setsState = false)
    (hconcludes : (rig.turn s op).concludesWindow = false) :
    (rig.turn s op).after.state = s.radio.state := by
  have hsets := of_decide_eq_false hsets
  have hconcludes := of_decide_eq_false hconcludes
  by_cases hop : op = .processInterrupt
  · subst hop
    have hkept := (turn_processInterrupt rig s).2 fun h => hconcludes ⟨rfl, h⟩
    exact hkept .state (by simp)
  · refine Decidable.byContradiction fun hstate => hsets ⟨hop, .inl hstate⟩

/-- A window that is still in progress after a turn was opened by it, or was in progress before
and kept its state. -/
theorem inWindow_state (hstate : InWindow ts → s.radio.state = .rx)
    (h : InWindow (ts ++ [rig.turn s op])) : (rig.turn s op).after.state = .rx := by
  obtain hopens | ⟨hwindow, hends⟩ := since_concat.mp h
  · exact (turn_opensWindow hopens).2
  · obtain ⟨hsets, hconcludes⟩ := Bool.or_eq_false_iff.mp hends
    rw [turn_keeps_state hsets hconcludes]
    exact hstate hwindow

theorem tracks_of_opens (h : (rig.turn s op).opensWindow = true) :
    Tracks (ts ++ [rig.turn s op]) (rig.turn s op).after := by
  obtain ⟨hmask, hstate⟩ := turn_opensWindow h
  have hwindow : InWindow (ts ++ [rig.turn s op]) := since_concat_of_opens h
  have hnarrowed : Narrowed (ts ++ [rig.turn s op]) := since_concat_of_opens h
  have hleft : ¬Abandoned (ts ++ [rig.turn s op]) :=
    not_since_concat (by simp [Turn.abandonsWindow, h]) (by simp [h])
  exact ⟨fun _ => hmask, fun h => absurd hnarrowed h, fun _ => hstate,
    fun _ => iff_of_true hwindow hleft⟩

theorem tracks_of_restores (hsmooth : (rig.turn s op).IsSmooth) (hts : Tracks ts s.radio)
    (hopens : (rig.turn s op).opensWindow = false) (h : (rig.turn s op).restoresMask = true) :
    Tracks (ts ++ [rig.turn s op]) (rig.turn s op).after := by
  have hrestored : ¬Narrowed (ts ++ [rig.turn s op]) := not_since_concat hopens h
  exact ⟨fun h => absurd h hrestored, fun _ => turn_restoresMask hsmooth h,
    inWindow_state hts.window, fun h => absurd h hrestored⟩

theorem tracks_of_keeps (hsmooth : (rig.turn s op).IsSmooth) (hts : Tracks ts s.radio)
    (hopens : (rig.turn s op).opensWindow = false)
    (hrestores : (rig.turn s op).restoresMask = false) :
    Tracks (ts ++ [rig.turn s op]) (rig.turn s op).after := by
  obtain ⟨hmask, hmodem⟩ := turn_keeps_mask hsmooth hopens hrestores
  have hnarrowed : Narrowed (ts ++ [rig.turn s op]) ↔ Narrowed ts :=
    since_concat_iff hopens hrestores
  -- a dispatch that concludes a window restores the mask, so this turn is none
  have hconcludes : (rig.turn s op).concludesWindow = false := by
    refine decide_eq_false fun ⟨hop, hconcludes⟩ => ?_
    obtain rfl : op = .processInterrupt := hop
    exact of_decide_eq_false hrestores hconcludes
  refine ⟨?_, ?_, inWindow_state hts.window, ?_⟩
  · rw [hnarrowed, hmask]
    exact hts.narrowed
  · rw [hnarrowed, hmask, hmodem]
    exact hts.restored
  · intro hnarrow
    have hleft : InWindow ts ↔ ¬Abandoned ts := hts.left (hnarrowed.mp hnarrow)
    have hwindow : InWindow (ts ++ [rig.turn s op]) ↔
        InWindow ts ∧ (rig.turn s op).setsState = false := by
      rw [InWindow, since_concat, hopens, hconcludes]
      simp
    have habandoned : Abandoned (ts ++ [rig.turn s op]) ↔
        (rig.turn s op).setsState = true ∨ Abandoned ts := by
      rw [Abandoned, since_concat, Turn.abandonsWindow, hopens, hrestores]
      simp
    rw [hwindow, habandoned, hleft, not_or, Bool.not_eq_true]
    exact and_comm

theorem tracks_turn (hsmooth : (rig.turn s op).IsSmooth) (hts : Tracks ts s.radio) :
    Tracks (ts ++ [rig.turn s op]) (rig.turn s op).after := by
  cases hopens : (rig.turn s op).opensWindow with
  | true => exact tracks_of_opens hopens
  | false =>
    cases hrestores : (rig.turn s op).restoresMask with
    | true => exact tracks_of_restores hsmooth hts hopens hrestores
    | false => exact tracks_of_keeps hsmooth hts hopens hrestores

theorem tracks_history (ops : List Operation) (hsmooth : ∀ t ∈ rig.history s ops, t.IsSmooth)
    (hts : Tracks ts s.radio) : Tracks (ts ++ rig.history s ops) (rig.run s ops).radio := by
  induction ops generalizing s ts with
  | nil => simpa [history] using hts
  | cons op ops ih =>
    obtain ⟨hturn, hrest⟩ := List.forall_mem_cons.mp hsmooth
    have hstep := tracks_turn hturn hts
    rw [turn_after] at hstep
    rw [history, List.append_cons]
    exact ih hrest hstep

theorem tracks_powerUp (h : (rig.turn s .powerUp).Succeeds) :
    Tracks [] (rig.step s .powerUp).radio := by
  have hends : rig.recording.powerUp.Ends s.recorded fun r s' =>
      r.isOk = true → s'.radio.modem = .lora ∧ s'.radio.mask = .loraDefault := ends_powerUp_done
  obtain ⟨hmodem, hmask⟩ := hends h
  have hmodem : (rig.turn s .powerUp).after.modem = .lora := hmodem
  have hmask : (rig.turn s .powerUp).after.mask = .loraDefault := hmask
  have hdefault : (rig.turn s .powerUp).after.mask =
      .defaultFor (rig.turn s .powerUp).after.modem := by
    rw [hmask, hmodem]
    rfl
  rw [← turn_after]
  exact ⟨fun h => absurd h not_since_nil, fun _ => hdefault, fun h => absurd h not_since_nil,
    fun h => absurd h not_since_nil⟩

/-- In a run after a power-up, and in which the chip refuses nothing, the mask is other than that of
the modem exactly if a window was opened and the mask not restored since. It belongs to a window in
progress exactly unless the application has left that window. -/
theorem narrow_in_window_iff (rig : Rig σ) (s : Station σ) (ops : List Operation)
    (hinit : (rig.turn s .powerUp).Succeeds)
    (hsmooth : ∀ t ∈ rig.history (rig.step s .powerUp) ops, t.IsSmooth) :
    let turns := rig.history (rig.step s .powerUp) ops
    let radio := (rig.run (rig.step s .powerUp) ops).radio
    (radio.mask ≠ .defaultFor radio.modem ↔ Narrowed turns) ∧
      ((radio.mask ≠ .defaultFor radio.modem → InWindow turns ∧ radio.state = .rx) ↔
        ¬(Narrowed turns ∧ Abandoned turns)) := by
  intro turns radio
  have htracks : Tracks turns radio := tracks_history ops hsmooth (tracks_powerUp hinit)
  have hnarrowed : radio.mask ≠ .defaultFor radio.modem ↔ Narrowed turns := by
    constructor
    · intro hnarrow
      exact Classical.byContradiction fun h => hnarrow (htracks.restored h)
    · intro h
      rw [htracks.narrowed h]
      exact carrierSense_ne_defaultFor radio.modem
  refine ⟨hnarrowed, ?_⟩
  rw [hnarrowed]
  constructor
  · intro h ⟨hnarrow, hleft⟩
    exact (htracks.left hnarrow).mp (h hnarrow).1 hleft
  · intro h hnarrow
    have hwindow := (htracks.left hnarrow).mpr fun hleft => h ⟨hnarrow, hleft⟩
    exact ⟨hwindow, htracks.window hwindow⟩

end Turns

/-- A window that has just been opened. -/
theorem narrow_in_window_iff_opened :
    let rig := Bench.rig {}
    let start := rig.step ⟨{}, []⟩ .powerUp
    let ops := [.setModem .fsk, .startCarrierSense ⟨1000, -80⟩ .csRx]
    let radio := (rig.run start ops).radio
    (rig.turn ⟨{}, []⟩ .powerUp).Succeeds ∧ (∀ t ∈ rig.history start ops, t.IsSmooth) ∧
      (radio.mask ≠ .defaultFor radio.modem ↔ Narrowed (rig.history start ops)) ∧
        ((radio.mask ≠ .defaultFor radio.modem →
            InWindow (rig.history start ops) ∧ radio.state = .rx) ↔
          ¬(Narrowed (rig.history start ops) ∧ Abandoned (rig.history start ops))) := by
  intro rig start ops radio
  have hinit : (rig.turn ⟨{}, []⟩ .powerUp).Succeeds := by decide +kernel
  have hsmooth : ∀ t ∈ rig.history start ops, t.IsSmooth := by decide +kernel
  exact ⟨hinit, hsmooth, narrow_in_window_iff rig ⟨{}, []⟩ ops hinit hsmooth⟩

/-- Four ways to leave a window that keep its mask, which lacks the flag of a finished packet. -/
theorem narrow_after_window :
    let rig := Bench.rig {}
    let opened : Station (List InterruptSet) :=
      rig.run ⟨{}, []⟩ [.powerUp, .setModem .fsk, .startCarrierSense ⟨1000, -80⟩ .csLbt]
    (∀ t ∈ rig.history ⟨{}, []⟩
        [.powerUp, .setModem .fsk, .startCarrierSense ⟨1000, -80⟩ .csLbt],
      t.IsSmooth ∧ t.Succeeds) ∧
      ∀ op ∈ [.standby, .sleep 0, .startTx 0, .startRx 0],
        (rig.turn opened op).IsSmooth ∧ (rig.turn opened op).Succeeds ∧
          (rig.turn opened op).abandonsWindow = true ∧
          (rig.turn opened op).after.modem = .fsk ∧
          (rig.turn opened op).after.mask = .carrierSense ∧
          (rig.turn opened op).after.mask ≠ .defaultFor .fsk ∧
          Interrupt.rxDone ∉ (rig.turn opened op).after.mask := by
  decide +kernel

end Rig

end Transceiver
