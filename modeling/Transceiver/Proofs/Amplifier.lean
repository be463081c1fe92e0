import Transceiver.Proofs.Device
import Transceiver.Proofs.History

/-! The line of the external amplifier against the antenna paths that are selected. Receiving leaves
the line as it is, so its level is that of the last path selected other than for reception. -/

namespace Transceiver

open Bus

/-- The level that a path sets the amplifier line to, if it sets it. -/
def AntennaPath.amplifies? : AntennaPath → Option Bool
  | .rx => none
  | .off | .tx => some false
  | .txExternal => some true

/-- The amplifier is on after some paths, if `before` says so of it before. -/
def leavesOn (before : Bool) (paths : List AntennaPath) : Bool :=
  (paths.filterMap AntennaPath.amplifies?).getLast?.getD before

theorem leavesOn_concat (before : Bool) (paths : List AntennaPath) (path : AntennaPath) :
    leavesOn before (paths ++ [path]) = path.amplifies?.getD (leavesOn before paths) := by
  rw [leavesOn, List.filterMap_append, List.getLast?_append]
  cases path <;> rfl

/-- The amplifier is on just for the path that transmits through it, unless it was left on for
reception. -/
theorem leavesOn_concat_iff (before : Bool) (paths : List AntennaPath) (path : AntennaPath) :
    (leavesOn before (paths ++ [path]) = true ↔ path = .txExternal) ↔
      ¬(path = .rx ∧ leavesOn before paths = true) := by
  rw [leavesOn_concat]
  cases path <;> simp [AntennaPath.amplifies?]

def Command.path? : Command → Option AntennaPath
  | .setAntenna path => some path
  | _ => none

def Exchange.path? (x : Exchange) : Option AntennaPath := x.given? >>= Command.path?

namespace Bus

/-- The level that the amplifier line is driven to. -/
def Signal.amplifies? : Signal → Option Bool
  | .drive .externalPa high true => some high
  | _ => none

/-- A line of the antenna switch, or that of the amplifier, could not be driven. -/
def Signal.jams : Signal → Bool
  | .drive .reset .. => false
  | .drive _ _ done => !done
  | _ => false

/-- No line of the antenna switch failed. -/
def Free (xs : List Signal) : Prop := ∀ x ∈ xs, x.jams = false

instance (xs : List Signal) : Decidable (Free xs) := inferInstanceAs (Decidable (∀ x ∈ xs, _))

/-- The level of the amplifier line, which was `before` at first. -/
def amplified (before : Bool) (xs : List Signal) : Bool :=
  (xs.filterMap Signal.amplifies?).getLast?.getD before

/-- The second signals go on from the first, and the amplifier line is driven to the levels `ds` in
between, if no line fails. -/
structure Drives (ds : List Bool) (xs ys : List Signal) : Prop where
  more : xs <+: ys
  levels : Free ys → ys.filterMap Signal.amplifies? = xs.filterMap Signal.amplifies? ++ ds

namespace Drives

variable {ds es : List Bool} {xs ys zs : List Signal} {x : Signal}

theorem refl (xs : List Signal) : Drives [] xs xs := ⟨List.prefix_rfl, fun _ => by simp⟩

theorem trans (h : Drives ds xs ys) (h' : Drives es ys zs) : Drives (ds ++ es) xs zs where
  more := h.more.trans h'.more
  levels hfree := by
    have hfirst : Free ys := fun x hx => hfree x (h'.more.subset hx)
    rw [h'.levels hfree, h.levels hfirst, List.append_assoc]

theorem concat (h : Drives ds xs ys) (x : Signal) :
    Drives (ds ++ x.amplifies?.toList) xs (ys ++ [x]) where
  more := h.more.trans (List.prefix_append ..)
  levels hfree := by
    have hfirst : Free ys := fun x hx => hfree x (List.mem_append_left _ hx)
    rw [List.filterMap_append, h.levels hfirst, List.append_assoc]
    cases hx : x.amplifies? <;> simp [hx]

theorem quiet (h : Drives ds xs ys) (hx : x.amplifies? = none) : Drives ds xs (ys ++ [x]) := by
  simpa [hx] using h.concat x

/-- Where a line fails, nothing is said about the amplifier. -/
theorem jam (h : Drives ds xs ys) (hx : x.jams = true) : Drives es xs (ys ++ [x]) where
  more := h.more.trans (List.prefix_append ..)
  levels hfree := by
    have hx' : x.jams = false := hfree x (by simp)
    rw [hx] at hx'
    cases hx'

theorem of_not_switches (ys : List Signal) (x : Signal) (hx : x.switches = false)
    (h : Drives ds xs ys) : Drives ds xs (ys ++ [x]) := by
  refine h.quiet ?_
  cases x with
  | drive line high done => cases line <;> first | rfl | cases hx
  | _ => rfl

theorem amplified_eq {before : Bool} (h : Drives ds xs ys) (hfree : Free ys) :
    amplified before ys = ds.getLast?.getD (amplified before xs) := by
  rw [amplified, h.levels hfree, List.getLast?_append, amplified]
  cases ds.getLast? <;> rfl

end Drives

namespace Board

open Transceiver.Action Endpoint

variable {σ : Type} {board : Board} {bus : Endpoint σ} {xs : List Signal} {ds : List Bool}
  {l : Link (σ × List Signal)}

theorem drives_antenna {line : Line} {high : Bool} (hline : line = .rxAntenna ∨ line = .txAntenna) :
    (board.drive bus.recording line high).Keeps (Drives ds xs ·.signals) := fun l h => by
  refine ends_drive (fun _ => h) (fun f w => h.jam ?_) fun w => h.quiet ?_ <;>
    rcases hline with rfl | rfl <;> rfl

theorem drives_amplifier {high : Bool} (hpa : board.externalPa = true)
    (h : Drives [] xs l.signals) :
    (board.drive bus.recording .externalPa high).Ends l fun _ l' => Drives [high] xs l'.signals := by
  refine ends_drive (fun habsent => ?_) (fun f w => h.jam rfl) fun w =>
    h.concat (.drive .externalPa high true)
  exact absurd (habsent.symm.trans hpa) nofun

theorem drives_select (hpa : board.externalPa = true) (path : AntennaPath) :
    (board.select bus.recording path).Ends l fun _ l' =>
      Drives ([path].filterMap AntennaPath.amplifies?) l.signals l'.signals := by
  have rest (ds : List Bool) (high : Bool) : Keeps (Drives ds l.signals ·.signals) (do
      board.drive bus.recording .rxAntenna false
      board.drive bus.recording .txAntenna high) :=
    (drives_antenna (.inl rfl)).bind fun _ => drives_antenna (.inr rfl)
  cases path with
  | rx =>
    -- the only path that leaves the amplifier line alone
    exact (drives_antenna (.inr rfl)).bind (fun _ => drives_antenna (.inl rfl)) l (.refl l.signals)
  | off => exact Keeps.after (drives_amplifier hpa (.refl l.signals)) fun _ => rest _ _
  | tx => exact Keeps.after (drives_amplifier hpa (.refl l.signals)) fun _ => rest _ _
  | txExternal => exact Keeps.after (drives_amplifier hpa (.refl l.signals)) fun _ => rest _ _

end Board

end Bus

namespace Device

open Transceiver.Action Bus.Endpoint

variable {σ : Type} {device : Device σ} {host : Host σ} {config : Config}
  {l l' : Link (σ × List Signal)}

def board : Device σ → Board
  | .sx126x device => device.board
  | .lr11xx device => device.board

/-- The link after some paths were selected, one after another. -/
def selected (device : Device σ) (l : Link σ) (paths : List AntennaPath) : Link σ :=
  paths.foldl (fun l path => ((device.chip.perform (.setAntenna path)).result l).2) l

section Drives
variable (hpa : device.board.externalPa = true)
include hpa

theorem drives_perform (c : Command) :
    (device.recording.chip.perform c).Ends l fun _ l' =>
      Drives (c.path?.toList.filterMap AntennaPath.amplifies?) l.signals l'.signals := by
  by_cases hselects : ∃ path, c = .setAntenna path
  · obtain ⟨path, rfl⟩ := hselects
    have hselect (board : Board) (bus : Endpoint σ) (h : board.externalPa = true) :
        (board.select bus.recording path).Ends l fun _ l' =>
          Drives ([path].filterMap AntennaPath.amplifies?) l.signals l'.signals :=
      Board.drives_select h path
    cases device with
    | sx126x device | lr11xx device => exact hselect device.board device.bus hpa
  · have hother : ∀ path, c ≠ .setAntenna path := fun path h => hselects ⟨path, h⟩
    have hnone : c.path? = none := by
      cases c with
      | setAntenna path => exact absurd rfl (hother path)
      | _ => rfl
    rw [hnone]
    cases device with
    | sx126x device => exact device.bears_perform Drives.of_not_switches hother l (.refl l.signals)
    | lr11xx device => exact device.bears_perform Drives.of_not_switches hother l (.refl l.signals)

theorem drives_moves {x : Exchange} (h : (device.recordedRig host config).Moves l x l') :
    Drives (x.path?.toList.filterMap AntennaPath.amplifies?) l.signals l'.signals := by
  cases x with
  | command c r =>
    have hends : (device.recording.chip.perform c).Ends l fun _ l' =>
        Drives (c.path?.toList.filterMap AntennaPath.amplifies?) l.signals l'.signals :=
      drives_perform hpa c
    have hresult : (device.recording.chip.perform c).result l = (r, l') := h
    rw [Action.Ends, hresult] at hends
    exact hends
  | pause us =>
    subst h
    cases device with
    | sx126x | lr11xx => exact (Drives.refl l.signals).quiet (x := .delayMicros us) rfl
  | clock time =>
    have hl : ((device.recordedRig host config).host.now l).2 = l' := congrArg Prod.snd h
    subst hl
    exact .refl l.signals
  | event | sleepStart =>
    subst h
    exact .refl l.signals

theorem drives_leads {xs : List Exchange} (h : (device.recordedRig host config).Leads l xs l') :
    Drives ((xs.filterMap Exchange.path?).filterMap AntennaPath.amplifies?) l.signals l'.signals := by
  induction h with
  | nil => exact .refl _
  | @cons l l₁ l' x xs hx _ ih =>
    have hpaths : (x :: xs).filterMap Exchange.path? = x.path?.toList ++ xs.filterMap Exchange.path? := by
      cases hpath : x.path? <;> simp [hpath]
    rw [hpaths, List.filterMap_append]
    exact (drives_moves hpa hx).trans ih

theorem drives_selected (paths : List AntennaPath) :
    Drives (paths.filterMap AntennaPath.amplifies?) l.signals
      (device.recording.selected l paths).signals := by
  induction paths generalizing l with
  | nil => exact .refl _
  | cons path paths ih =>
    let l₁ := ((device.recording.chip.perform (.setAntenna path)).result l).2
    have hfirst : Drives ([path].filterMap AntennaPath.amplifies?) l.signals l₁.signals :=
      drives_perform hpa (.setAntenna path)
    rw [← List.singleton_append, List.filterMap_append]
    exact hfirst.trans ih

end Drives

/-- **The amplifier line**, over a board that has it, while no line fails. After any paths it is on
if the last of them other than for reception transmits through the amplifier; so it is on just for
that path, unless it was left on and the path is for reception. The same holds over every run from
power-off of either family, with any failures of the bus. -/
theorem amplified_unless_left_on (device : Device σ) (hpa : device.board.externalPa = true)
    (before : Bool) :
    (∀ (l : Link (σ × List Signal)) (paths : List AntennaPath) (path : AntennaPath),
      let later := device.recording.selected l (paths ++ [path])
      Free later.signals →
        amplified before later.signals =
          leavesOn (amplified before l.signals) (paths ++ [path]) ∧
        ((amplified before later.signals = true ↔ path = .txExternal) ↔
          ¬(path = .rx ∧ amplified before (device.recording.selected l paths).signals = true))) ∧
    ∀ (host : Host σ) (config : Config) (w : σ) (ops : List Operation),
      let start : Station (Link (σ × List Signal)) := ⟨{}, { world := (w, []) }⟩
      Free (device.ran host config w ops).world.signals →
        amplified before (device.ran host config w ops).world.signals =
          leavesOn before ((((device.recordedRig host config).history start ops).flatMap
            Turn.exchanges).filterMap Exchange.path?) := by
  have selects (l : Link (σ × List Signal)) (paths : List AntennaPath)
      (hfree : Free (device.recording.selected l paths).signals) :
      amplified before (device.recording.selected l paths).signals =
        leavesOn (amplified before l.signals) paths :=
    (drives_selected hpa paths).amplified_eq hfree
  constructor
  · intro l paths path later hfree
    have hlater := selects l (paths ++ [path]) hfree
    have hlast : Drives ([path].filterMap AntennaPath.amplifies?)
        (device.recording.selected l paths).signals later.signals := by
      show Drives _ _ (device.recording.selected l (paths ++ [path])).signals
      rw [selected, selected, List.foldl_append]
      exact drives_perform hpa (.setAntenna path)
    have hearlier : Free (device.recording.selected l paths).signals := fun x hx =>
      hfree x (hlast.more.subset hx)
    rw [selects l paths hearlier]
    refine ⟨hlater, ?_⟩
    rw [hlater]
    exact leavesOn_concat_iff ..
  · intro host config w ops start hfree
    have hleads : (device.recordedRig host config).Leads start.world _ _ := Rig.history_leads ops
    exact (drives_leads hpa hleads).amplified_eq hfree

end Device

namespace Bench

/-- A device on the bench, on a board with an external amplifier. -/
def amplifiedDevice : Device Unit := .sx126x {
  wire := wire
  board := ⟨true, true, true⟩
  config := { variant := .sx1262, tcxo := none, useDcdc := false, rxBoost := false } }

/-- The configuration of a radio with an external amplifier. -/
def amplifiedConfig : Config :=
  { (Bench.rig {}).config with paFor := fun _ => some {}, externalPa := true }

end Bench

namespace Device

/-- The amplifier on the bench, selected for transmission and switched off, and in a run that
transmits. -/
theorem amplified_unless_left_on_bench :
    let device := Bench.amplifiedDevice
    let l : Link (Unit × List Signal) := { world := ((), []) }
    let ops := [.powerUp, .setTxPower 14, .startTx 0]
    let start : Station (Link (Unit × List Signal)) := ⟨{}, l⟩
    device.board.externalPa = true ∧
    Free (device.recording.selected l ([.txExternal] ++ [.off])).signals ∧
    (amplified true (device.recording.selected l ([.txExternal] ++ [.off])).signals = true ↔
      AntennaPath.off = .txExternal) ∧
    Free (device.ran Bench.host Bench.amplifiedConfig () ops).world.signals ∧
    amplified false (device.ran Bench.host Bench.amplifiedConfig () ops).world.signals =
      leavesOn false ((((device.recordedRig Bench.host Bench.amplifiedConfig).history start
        ops).flatMap Turn.exchanges).filterMap Exchange.path?) := by
  intro device l ops start
  have hpa : device.board.externalPa = true := rfl
  have hselected : Free (device.recording.selected l ([.txExternal] ++ [.off])).signals := by
    decide +kernel
  have hran : Free (device.ran Bench.host Bench.amplifiedConfig () ops).world.signals := by
    decide +kernel
  have hoff := ((amplified_unless_left_on device hpa true).1 l [.txExternal] .off hselected).2
  exact ⟨hpa, hselected, hoff.mpr nofun, hran,
    (amplified_unless_left_on device hpa false).2 Bench.host Bench.amplifiedConfig () ops hran⟩

/-- A radio that starts to receive after it has transmitted through the amplifier leaves that on. -/
theorem amplified_in_reception :
    let device := Bench.amplifiedDevice
    let l : Link (Unit × List Signal) := { world := ((), []) }
    let ops := [.powerUp, .setTxPower 14, .startTx 0, .startRx 0]
    let s := device.ran Bench.host Bench.amplifiedConfig () ops
    (∀ t ∈ (device.recordedRig Bench.host Bench.amplifiedConfig).history ⟨{}, l⟩ ops,
      t.Succeeds) ∧ Free s.world.signals ∧ s.radio.state = .rx ∧
      amplified false s.world.signals = true ∧
    Free (device.recording.selected l [.txExternal, .rx]).signals ∧
      ¬(amplified false (device.recording.selected l [.txExternal, .rx]).signals = true ↔
        AntennaPath.rx = .txExternal) := by
  decide +kernel

end Device

end Transceiver
