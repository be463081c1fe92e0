import Transceiver.Proofs.Arming
import Transceiver.Proofs.Bench
import Transceiver.Proofs.Tuning

/-! Compensation for the edge of a band. LoRa needs it at the frequency that the chip is tuned to.
The chip is told where the frequency is set, if the modem is LoRa by then; a radio that turns to
LoRa afterwards goes by the compensation that it had before. -/

namespace Transceiver

/-- The frequency that the chip compensated for. -/
def Exchange.compensated? : Exchange → Option UInt32
  | .command (.compensateBandEdge f) (.ok _) => some f
  | _ => none

theorem Exchange.compensated?_of_within {topics : List Topic} {parts : List Part} {x : Exchange}
    (h : x.Within (·.topic ∈ topics) parts) (htopics : .tuning ∉ topics) :
    x.compensated? = none := by
  unfold compensated?
  split
  · exact absurd h htopics
  · rfl

namespace Turn

/-- The frequencies that the chip was tuned to in this turn. -/
def tuned (t : Turn) : List UInt32 := t.exchanges.filterMap Exchange.tuned?

/-- The frequencies that the chip compensated for in this turn. -/
def compensated (t : Turn) : List UInt32 := t.exchanges.filterMap Exchange.compensated?

end Turn

/-- The frequencies that the chip was tuned to in these turns, each with the modem at the time. -/
def tunings (ts : List Turn) : List (Modem × UInt32) :=
  ts.flatMap fun t => t.tuned.map (t.before.modem, ·)

/-- The frequencies that the chip was tuned to in these turns while the modem was this one. -/
def tunedIn (modem : Modem) (ts : List Turn) : List UInt32 :=
  ((tunings ts).filter (·.1 = modem)).map Prod.snd

/-- The frequencies that the chip compensated for in these turns. -/
def compensations (ts : List Turn) : List UInt32 := ts.flatMap Turn.compensated

section Lists
variable {t : Turn} {ts : List Turn} {modem : Modem} {f : UInt32}

theorem tunings_append (ts us : List Turn) : tunings (ts ++ us) = tunings ts ++ tunings us :=
  List.flatMap_append

theorem tunings_singleton (t : Turn) : tunings [t] = t.tuned.map (t.before.modem, ·) :=
  List.append_nil _

theorem tunedIn_cons (modem : Modem) (t : Turn) (ts : List Turn) :
    tunedIn modem (t :: ts) =
      (if t.before.modem = modem then t.tuned else []) ++ tunedIn modem ts := by
  have hturn : ((t.tuned.map (t.before.modem, ·)).filter (·.1 = modem)).map Prod.snd =
      if t.before.modem = modem then t.tuned else [] := by
    split <;> rename_i h <;> simp [List.filter_map, Function.comp_def, h]
  rw [tunedIn, tunings, List.flatMap_cons, List.filter_append, List.map_append, hturn]
  rfl

/-- What was tuned to at last is the last of its modem. -/
theorem getLast?_tunedIn (h : (tunings ts).getLast? = some (modem, f)) :
    (tunedIn modem ts).getLast? = some f := by
  obtain ⟨front, hfront⟩ := List.getLast?_eq_some_iff.mp h
  simp [tunedIn, hfront]

end Lists

/-- The chip compensated for what it was tuned to with LoRa, and for nothing else. -/
def Compensated (modem : Modem) (xs : List Exchange) : Prop :=
  xs.filterMap Exchange.compensated? = if modem = .lora then xs.filterMap Exchange.tuned? else []

namespace Compensated

variable {modem : Modem} {xs ys : List Exchange}

theorem append (hxs : Compensated modem xs) (hys : Compensated modem ys) :
    Compensated modem (xs ++ ys) := by
  unfold Compensated at *
  rw [List.filterMap_append, List.filterMap_append, hxs, hys]
  split <;> rfl

theorem of_none (htuned : ∀ x ∈ xs, x.tuned? = none)
    (hcompensated : ∀ x ∈ xs, x.compensated? = none) : Compensated modem xs := by
  rw [Compensated, List.filterMap_eq_nil_iff.mpr hcompensated, List.filterMap_eq_nil_iff.mpr htuned]
  exact (ite_self _).symm

end Compensated

/-- The modem is this one, and all that the chip was tuned to was compensated for as it asks. -/
structure Station.Edged {σ : Type} (modem : Modem) (s : Station (σ × List Exchange)) : Prop where
  unchanged : s.radio.modem = modem
  compensated : Smooth s.log → Compensated modem s.log

namespace Rig

open Station Transceiver.Action

variable {σ α : Type} {rig : Rig σ} {modem : Modem}

theorem edged_among {topics : List Topic} {parts : List Part}
    {x : Action (Station (σ × List Exchange)) α} {y : Action (Station σ) α}
    (h : Recorded rig (·.topic ∈ topics) parts x y) (htopics : .tuning ∉ topics)
    (hparts : .modem ∉ parts) : x.Keeps (Edged modem) := by
  intro s hs
  obtain ⟨xs, hlog, hxs⟩ := (h s).2.log
  refine ⟨((h s).2.radio .modem hparts).trans hs.unchanged, fun hsmooth => ?_⟩
  rw [hlog] at hsmooth ⊢
  refine (hs.compensated hsmooth.of_append).append (.of_none (fun x hx => ?_) fun x hx => ?_)
  · exact Exchange.tuned?_of_within (hxs x hx) htopics
  · exact Exchange.compensated?_of_within (hxs x hx) htopics

/-- The last steps of setting the frequency. -/
theorem edged_tune {s : Station (σ × List Exchange)} (f : UInt32) (hs : s.Edged modem) : Ends (do
      if s.radio.modem = .lora then rig.recording.tell (.compensateBandEdge f)
      rig.recording.order (.setFrequency f)
      update ({ · with frequency := f })) s fun _ => Edged modem := by
  have last (edge : List Exchange)
      (hedge : Compensated modem (edge ++ [.command (.setFrequency f) (.ok ())]))
      {s' : Station (σ × List Exchange)} (hmodem : s'.radio.modem = modem)
      (hlog : s'.log = s.log ++ edge) : Ends (do
        rig.recording.order (.setFrequency f)
        update ({ · with frequency := f })) s' fun _ => Edged modem := by
    refine ends_order_bind (fun e w => ⟨hmodem, fun h => absurd h not_smooth_concat⟩)
      fun _ w => ends_update.mpr ⟨hmodem, fun hsmooth => ?_⟩
    have hsmooth : Smooth (s'.log ++ [.command (.setFrequency f) (.ok ())]) := hsmooth
    show Compensated modem (s'.log ++ [.command (.setFrequency f) (.ok ())])
    rw [hlog, List.append_assoc] at hsmooth ⊢
    exact (hs.compensated hsmooth.of_append).append hedge
  refine ends_ite.mpr ?_
  split <;> rename_i hlora <;> rw [hs.unchanged] at hlora
  · subst hlora
    refine ends_tell_bind (fun e w => ⟨hs.unchanged, fun h => absurd h not_smooth_concat⟩) ?_
    exact fun _ w => last [.command (.compensateBandEdge f) (.ok ())] rfl hs.unchanged rfl
  · refine last [] ?_ hs.unchanged (List.append_nil _).symm
    rw [Compensated, if_neg hlora]
    rfl

theorem edged_setFrequency (f : UInt32) :
    (rig.recording.setFrequency f).Keeps (Edged modem) := by
  intro s hs
  refine ends_bind.mpr <| ends_ensure.mpr ?_
  split
  · exact hs
  split
  case isFalse => exact hs
  dsimp only
  cases FrequencyBand.of? f with
  | none => exact hs
  | some band =>
    refine ends_bind.mpr <| ends_current.mpr <| ends_ite.mpr ?_
    split
    · refine ends_order_bind (fun e w => ⟨hs.unchanged, fun h => absurd h not_smooth_concat⟩)
        fun _ w => ?_
      have hcalibrated : Compensated modem [.command (.calibrateImage f) (.ok ())] :=
        .of_none (by simp [Exchange.tuned?]) (by simp [Exchange.compensated?])
      have hs' : Edged modem
          { s with world := (w, s.log ++ [.command (.calibrateImage f) (.ok ())]) } :=
        ⟨hs.unchanged, fun hsmooth => (hs.compensated hsmooth.of_append).append hcalibrated⟩
      exact edged_tune f hs'
    · exact edged_tune f hs

section Turns
variable {s : Station σ} {op : Operation}

/-- A turn that tunes leaves the modem alone. -/
theorem compensated_turn (hsmooth : (rig.turn s op).IsSmooth) :
    (rig.turn s op).compensated = if s.radio.modem = .lora then (rig.turn s op).tuned else [] := by
  by_cases hmodem : .modem ∈ op.parts
  · have htopics : .tuning ∉ op.topics := by
      cases op <;> simp [Operation.parts, Operation.topics, dispatched] at hmodem ⊢
    have htuned : (rig.turn s op).tuned = [] := List.filterMap_eq_nil_iff.mpr fun x hx =>
      Exchange.tuned?_of_within (turn_within.1 x hx) htopics
    rw [htuned, ite_self]
    exact List.filterMap_eq_nil_iff.mpr fun x hx =>
      Exchange.compensated?_of_within (turn_within.1 x hx) htopics
  · have hkeeps : rig.RetuningKeeps (Edged s.radio.modem) :=
      ⟨fun hx ht _ hp => edged_among hx ht hp, edged_setFrequency⟩
    have hstart : Edged s.radio.modem s.recorded :=
      ⟨rfl, fun _ => .of_none (List.forall_mem_nil _) (List.forall_mem_nil _)⟩
    have hend : (rig.recording.perform op).Ends s.recorded fun _ => Edged s.radio.modem :=
      hkeeps.perform hmodem s.recorded hstart
    exact Edged.compensated hend hsmooth

/-- In a run in which the chip refuses nothing, it compensates for what it is tuned to with LoRa,
in that order. -/
theorem compensations_history (ops : List Operation)
    (hsmooth : ∀ t ∈ rig.history s ops, t.IsSmooth) :
    compensations (rig.history s ops) = tunedIn .lora (rig.history s ops) := by
  induction ops generalizing s with
  | nil => rfl
  | cons op ops ih =>
    obtain ⟨hturn, hrest⟩ := List.forall_mem_cons.mp hsmooth
    rw [history, tunedIn_cons, ← ih hrest, compensations, List.flatMap_cons,
      compensated_turn hturn]
    rfl

/-- A carrier that is started was tuned to its frequency at last. -/
theorem tuned_startCarrier {f : UInt32} {power : Int8}
    (h : (rig.turn s (.startCarrier f power)).Succeeds) :
    (rig.turn s (.startCarrier f power)).tuned.getLast? = some f := by
  have hends : (rig.recording.startCarrier f power).Ends s.recorded fun r s' =>
      r.isOk = true → (s'.log.filterMap Exchange.tuned?).getLast? = some f := by
    refine ends_bind_isOk fun _ s => ends_bind_isOk fun _ s => ends_bind.mpr ?_
    refine (ends_setFrequency f s).mono fun r s' ⟨xs, hlog, hretunes⟩ => ?_
    cases hretunes with
    | refused => exact nofun
    | tuned image edge hband himage hedge hexchanges hradio =>
      obtain ⟨ys, hlog', hys⟩ := (recorded_carry rig power s').2.log
      have hnone : ys.filterMap Exchange.tuned? = [] := List.filterMap_eq_nil_iff.mpr fun x hx =>
        Exchange.tuned?_of_within (hys x hx) (by simp)
      intro _
      rw [hlog', hlog, hexchanges, List.filterMap_append, hnone]
      simp [Exchange.tuned?]
  exact hends h

/-- Where a carrier was started with LoRa, the chip was tuned to its frequency at last, and with
LoRa. -/
theorem tunings_startCarrier {past : List Operation} {f : UInt32} {power : Int8}
    (h : (rig.turn (rig.run s past) (.startCarrier f power)).Succeeds)
    (hmodem : (rig.run s (past ++ [.startCarrier f power])).radio.modem = .lora) :
    (tunings (rig.history s (past ++ [.startCarrier f power]))).getLast? = some (.lora, f) := by
  have hkept : (rig.turn (rig.run s past) (.startCarrier f power)).after.modem =
      (rig.run s past).radio.modem := turn_within.2 .modem (by simp [Operation.parts])
  have hbefore : (rig.run s past).radio.modem = .lora := by
    rw [← hkept, turn_after, ← hmodem, run_append]
    rfl
  have hturn : (tunings [rig.turn (rig.run s past) (.startCarrier f power)]).getLast? =
      some (.lora, f) := by
    rw [tunings_singleton, List.getLast?_map, tuned_startCarrier h]
    exact congrArg (fun modem => some (modem, f)) hbefore
  rw [history_append, tunings_append]
  exact (List.getLast?_append).trans (by rw [history, history, hturn]; rfl)

/-- In a run in which the chip refuses nothing, it compensates for the frequencies that it is tuned
to with LoRa, and for no others. So it compensated at last for the frequency that it was tuned to at
last, exactly unless it was tuned to that one with FSK, and to another one with LoRa before, or to
none. A carrier with LoRa is always compensated for. -/
theorem compensated_last_iff (rig : Rig σ) (s : Station σ) (ops : List Operation)
    (hsmooth : ∀ t ∈ rig.history s ops, t.IsSmooth) (modem : Modem) (f : UInt32)
    (hlast : (tunings (rig.history s ops)).getLast? = some (modem, f)) :
    let turns := rig.history s ops
    compensations turns = tunedIn .lora turns ∧
      ((compensations turns).getLast? = some f ↔
        ¬(modem = .fsk ∧ (tunedIn .lora turns).getLast? ≠ some f)) ∧
      ∀ past g power, ops = past ++ [.startCarrier g power] →
        (rig.turn (rig.run s past) (.startCarrier g power)).Succeeds →
        (rig.run s ops).radio.modem = .lora →
        g = f ∧ (compensations turns).getLast? = some f := by
  intro turns
  have hcompensations : compensations turns = tunedIn .lora turns :=
    compensations_history ops hsmooth
  have htuned : modem = .lora → (tunedIn .lora turns).getLast? = some f := by
    rintro rfl
    exact getLast?_tunedIn hlast
  refine ⟨hcompensations, ?_, ?_⟩
  · rw [hcompensations, not_and, Decidable.not_not]
    constructor
    · exact fun h _ => h
    · intro h
      cases modem with
      | fsk => exact h rfl
      | lora => exact htuned rfl
  · rintro past g power rfl hsucceeds hmodem
    obtain ⟨rfl, rfl⟩ := Prod.mk.inj (Option.some.inj (hlast.symm.trans
      (tunings_startCarrier hsucceeds hmodem)))
    exact ⟨rfl, hcompensations ▸ htuned rfl⟩

end Turns

/-- A radio that is tuned with LoRa and transmits. -/
theorem compensated_last_iff_lora :
    let rig := Bench.rig {}
    let start := rig.step ⟨{}, []⟩ .powerUp
    let turns := rig.history start [.setFrequency 915000000, .startTx 0]
    (∀ t ∈ turns, t.IsSmooth) ∧ (tunings turns).getLast? = some (.lora, 915000000) ∧
      (compensations turns).getLast? = some 915000000 := by
  intro rig start turns
  have hsmooth : ∀ t ∈ turns, t.IsSmooth := by decide +kernel
  have hlast : (tunings turns).getLast? = some (.lora, 915000000) := by decide +kernel
  have hiff := (compensated_last_iff rig start _ hsmooth .lora 915000000 hlast).2.1
  exact ⟨hsmooth, hlast, hiff.mpr fun h => nomatch h.1⟩

/-- A radio that turns to LoRa after it was tuned with FSK transmits without the compensation, or
with that for another frequency. -/
theorem uncompensated_after_switch :
    let rig := Bench.rig {}
    let start := rig.step ⟨{}, []⟩ .powerUp
    let switch := [.setModem .fsk, .setFrequency 915000000, .setModem .lora, .startTx 0]
    (rig.turn ⟨{}, []⟩ .powerUp).Succeeds ∧
      ∀ ops ∈ [switch, .setFrequency 868100000 :: switch],
        (∀ t ∈ rig.history start ops, t.IsSmooth ∧ t.Succeeds) ∧
          (rig.run start ops).radio.modem = .lora ∧
          (tunings (rig.history start ops)).getLast? = some (.fsk, 915000000) ∧
          (compensations (rig.history start ops)).getLast? ≠ some 915000000 := by
  decide +kernel

end Rig

end Transceiver
