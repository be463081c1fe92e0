import Transceiver.Proofs.Amplifier

/-! The antenna switch breaks before it makes. A line that connects an antenna is driven high only
once the opposite one is low, so however a selection fails, the two are never high at once. -/

namespace Transceiver

open Bus

/-- The level that a path sets a line to, if it sets it. -/
def AntennaPath.level? : AntennaPath → Line → Option Bool
  | .off, .rxAntenna | .off, .txAntenna => some false
  | .rx, .rxAntenna => some true
  | .rx, .txAntenna => some false
  | .tx, .rxAntenna | .txExternal, .rxAntenna => some false
  | .tx, .txAntenna | .txExternal, .txAntenna => some true
  | path, .externalPa => path.amplifies?
  | _, .reset => none

namespace Bus

/-- The antenna line that must be low for this one to be high. -/
def Line.opposite? : Line → Option Line
  | .rxAntenna => some .txAntenna
  | .txAntenna => some .rxAntenna
  | .reset | .externalPa => none

/-- The level that the signal drives a line to. -/
def Signal.drives? (line : Line) : Signal → Option Bool
  | .drive driven high true => if driven = line then some high else none
  | _ => none

/-- The level of a line after some signals, low at first. To fail to drive it leaves it as it is. -/
def level (line : Line) (xs : List Signal) : Bool :=
  (xs.filterMap (Signal.drives? line)).getLast?.getD false

/-- At no moment among the signals are both antenna lines high. -/
def Exclusive (xs : List Signal) : Prop :=
  ∀ before, before <+: xs → ¬(level .rxAntenna before = true ∧ level .txAntenna before = true)

/-- The antenna lines are never high at once, and lines that the board does not have stay low. -/
structure Separated (board : Board) (xs : List Signal) : Prop where
  exclusive : Exclusive xs
  absent : ∀ line, board.has line = false → level line xs = false

section Level
variable {line : Line} {xs : List Signal} {x : Signal} {board : Board}

theorem level_concat (line : Line) (xs : List Signal) (x : Signal) :
    level line (xs ++ [x]) = (x.drives? line).getD (level line xs) := by
  rw [level, List.filterMap_append, List.getLast?_append]
  cases hx : x.drives? line <;> simp [hx, level]

theorem level_concat_of_none (hx : x.drives? line = none) :
    level line (xs ++ [x]) = level line xs := by
  rw [level_concat, hx, Option.getD_none]

theorem drives?_eq_none_of_not_switches (hx : x.switches = false) (hline : line ≠ .reset) :
    x.drives? line = none := by
  cases x with
  | drive driven high done =>
    cases driven with
    | reset => cases done <;> simp [Signal.drives?, hline.symm]
    | rxAntenna | txAntenna | externalPa => cases hx
  | _ => rfl

theorem Exclusive.concat (h : Exclusive xs)
    (hx : ¬(level .rxAntenna (xs ++ [x]) = true ∧ level .txAntenna (xs ++ [x]) = true)) :
    Exclusive (xs ++ [x]) := by
  intro before hbefore
  obtain rfl | hbefore := List.prefix_concat_iff.mp hbefore
  · exact hx
  · exact h before hbefore

theorem separated_nil (board : Board) : Separated board [] where
  exclusive before hbefore := by
    rw [List.prefix_nil.mp hbefore]
    exact nofun
  absent _ _ := rfl

/-- A signal that does not drive a line of the switch. -/
theorem Separated.quiet (h : Separated board xs)
    (hx : ∀ line, line ≠ .reset → x.drives? line = none) : Separated board (xs ++ [x]) where
  exclusive := h.exclusive.concat <| by
    rw [level_concat_of_none (hx _ (by decide)), level_concat_of_none (hx _ (by decide))]
    exact h.exclusive xs List.prefix_rfl
  absent line habsent := by
    have hline : line ≠ .reset := by
      rintro rfl
      cases habsent
    rw [level_concat_of_none (hx _ hline)]
    exact h.absent line habsent

/-- A line of the board may be driven high once the opposite one is low. -/
theorem Separated.driven (h : Separated board xs) {high : Bool} (hline : board.has line = true)
    (hopposite : high = true → ∀ other, line.opposite? = some other → level other xs = false) :
    Separated board (xs ++ [.drive line high true]) where
  exclusive := h.exclusive.concat <| by
    have hnow := h.exclusive xs List.prefix_rfl
    simp only [level_concat, Signal.drives?]
    cases line with
    | rxAntenna => cases high <;> simp_all [Line.opposite?]
    | txAntenna => cases high <;> simp_all [Line.opposite?]
    | reset | externalPa => simpa using hnow
  absent other habsent := by
    have hne : line ≠ other := by
      rintro rfl
      rw [hline] at habsent
      cases habsent
    rw [level_concat_of_none (by simp [Signal.drives?, hne])]
    exact h.absent other habsent

end Level

end Bus

namespace Bus.Board

open Transceiver.Action Endpoint

variable {σ : Type} {board : Board} {bus : Endpoint σ} {l l₁ : Link (σ × List Signal)}
  {xs : List Signal}

/-- The levels of the lines, with that of a line of the board set. -/
def set (board : Board) (line : Line) (high : Bool) (levels : Line → Bool) : Line → Bool :=
  fun other => if other = line ∧ board.has line = true then high else levels other

/-- Since the link `l` the antenna lines were never high at once. After a success the levels of the
lines are what `change` makes of those that `xs` left. -/
def Sets (board : Board) (l : Link (σ × List Signal)) (xs : List Signal)
    (change : (Line → Bool) → Line → Bool) (r : Except Fault Unit) (l' : Link (σ × List Signal)) :
    Prop :=
  ∃ ys, l'.signals = l.signals ++ ys ∧ Separated board ys ∧
    (r.isOk = true → ∀ line, level line ys = change (level · xs) line)

theorem Sets.congr {change change' : (Line → Bool) → Line → Bool} {r : Except Fault Unit}
    (h : board.Sets l xs change r l₁)
    (hsame : ∀ levels line, change levels line = change' levels line) :
    board.Sets l xs change' r l₁ := by
  obtain ⟨ys, hys, hsep, hlevels⟩ := h
  exact ⟨ys, hys, hsep, fun hr line => (hlevels hr line).trans (hsame _ _)⟩

theorem sets_drive {line : Line} {high : Bool} (hxs : l₁.signals = l.signals ++ xs)
    (h : Separated board xs)
    (hopposite : high = true → ∀ other, line.opposite? = some other → level other xs = false) :
    (board.drive bus.recording line high).Ends l₁ (board.Sets l xs (board.set line high)) := by
  have hsignals (w : σ) (x : Signal) :
      (l₁.noting w x).signals = l.signals ++ (xs ++ [x]) := by
    rw [Link.signals_noting, hxs, List.append_assoc]
  cases hhas : board.has line with
  | false =>
    refine ends_ite.mpr ?_
    rw [if_neg (by simp [hhas])]
    exact ⟨xs, hxs, h, fun _ other => by simp [set, hhas]⟩
  | true =>
    refine ends_drive (fun habsent => ?_) (fun f w => ?_) fun w => ?_
    · rw [hhas] at habsent
      cases habsent
    · exact ⟨_, hsignals w _, h.quiet fun _ _ => rfl, nofun⟩
    · refine ⟨_, hsignals w _, h.driven hhas hopposite, fun _ other => ?_⟩
      rw [level_concat, Signal.drives?, set]
      by_cases hother : line = other
      · subst hother
        simp [hhas]
      · simp [hother, Ne.symm hother]

theorem sets_bind {first second : (Line → Bool) → Line → Bool}
    {x : Action (Link (σ × List Signal)) Unit} {f : Unit → Action (Link (σ × List Signal)) Unit}
    (hx : x.Ends l₁ (board.Sets l xs first))
    (hf : ∀ l₂ ys, l₂.signals = l.signals ++ ys → Separated board ys →
      (∀ line, level line ys = first (level · xs) line) →
        (f ()).Ends l₂ (board.Sets l ys second)) :
    (x >>= f).Ends l₁ (board.Sets l xs (second ∘ first)) :=
  ends_bind.mpr <| hx.mono fun
    | .error _, _, ⟨ys, hys, hsep, _⟩ => ⟨ys, hys, hsep, nofun⟩
    | .ok _, l₂, ⟨ys, hys, hsep, hfirst⟩ =>
      (hf l₂ ys hys hsep (hfirst rfl)).mono fun _ _ ⟨zs, hzs, hsep', hsecond⟩ => by
        have hlevels : (level · ys) = first (level · xs) := funext (hfirst rfl)
        exact ⟨zs, hzs, hsep', fun hr line => by rw [hsecond hr line, hlevels]; rfl⟩

/-- A line may be driven high once the opposite one was driven low. -/
theorem sets_release {line other : Line} {high : Bool} (hxs : l₁.signals = l.signals ++ xs)
    (h : Separated board xs) (hopposite : other.opposite? = some line) :
    Ends (do board.drive bus.recording line false; board.drive bus.recording other high) l₁
      (board.Sets l xs (board.set other high ∘ board.set line false)) := by
  refine sets_bind (sets_drive hxs h nofun) fun l₂ ys hys hsep hlevels => ?_
  refine sets_drive hys hsep fun _ third hthird => ?_
  obtain rfl := Option.some.inj (hopposite.symm.trans hthird)
  cases hhas : board.has line with
  | false => exact hsep.absent line hhas
  | true => simp [hlevels, set, hhas]

/-- A selection releases the opposite line first, and sets the lines to the levels of the path. -/
theorem sets_select (path : AntennaPath) (hxs : l₁.signals = l.signals ++ xs)
    (h : Separated board xs) :
    (board.select bus.recording path).Ends l₁ <| board.Sets l xs fun levels line =>
      if board.has line = true then (path.level? line).getD (levels line) else levels line := by
  have transmits (amplifies high : Bool) : Ends (do
        board.drive bus.recording .externalPa amplifies
        board.drive bus.recording .rxAntenna false
        board.drive bus.recording .txAntenna high) l₁ <|
      board.Sets l xs ((board.set .txAntenna high ∘ board.set .rxAntenna false) ∘
        board.set .externalPa amplifies) :=
    sets_bind (sets_drive hxs h nofun) fun _ _ hys hsep _ =>
      sets_release hys hsep rfl
  cases path with
  | rx =>
    refine (sets_release hxs h rfl).mono fun _ _ hsets => hsets.congr fun levels line => ?_
    cases line <;> simp [set, AntennaPath.level?, AntennaPath.amplifies?]
  | off | tx | txExternal =>
    refine (transmits _ _).mono fun _ _ hsets => hsets.congr fun levels line => ?_
    cases line <;> simp [set, AntennaPath.level?, AntennaPath.amplifies?]

end Bus.Board

namespace Device

open Transceiver.Action Bus.Endpoint

variable {σ : Type} {device : Device σ} {host : Host σ} {config : Config}
  {l l₁ l' : Link (σ × List Signal)}

/-- Since the link `l` the antenna lines of the device were never high at once. -/
def Separates (device : Device σ) (l l' : Link (σ × List Signal)) : Prop :=
  ∃ xs, l'.signals = l.signals ++ xs ∧ Separated device.board xs

theorem Separates.refl (device : Device σ) (l : Link (σ × List Signal)) : device.Separates l l :=
  ⟨[], (List.append_nil _).symm, separated_nil _⟩

theorem sets_perform (path : AntennaPath) (h : device.Separates l l₁) :
    (device.recording.chip.perform (.setAntenna path)).Ends l₁ fun r l' =>
      ∃ xs, l'.signals = l.signals ++ xs ∧ Separated device.board xs ∧
        (r.isOk = true → ∀ line high, path.level? line = some high →
          device.board.has line = true → level line xs = high) := by
  obtain ⟨xs, hxs, hsep⟩ := h
  have hselect (board : Board) (bus : Endpoint σ) (hsep : Separated board xs) :
      (board.select bus.recording path).Ends l₁ fun r l' =>
        ∃ ys, l'.signals = l.signals ++ ys ∧ Separated board ys ∧
          (r.isOk = true → ∀ line high, path.level? line = some high →
            board.has line = true → level line ys = high) :=
    (Board.sets_select path hxs hsep).mono fun r l' ⟨ys, hys, hsep', hlevels⟩ =>
      ⟨ys, hys, hsep', fun hr line high hhigh hhas => by simp [hlevels hr, hhas, hhigh]⟩
  cases device with
  | sx126x device | lr11xx device => exact hselect device.board device.bus hsep

theorem separates_quiet (device : Device σ) (l : Link (σ × List Signal)) (xs : List Signal)
    (x : Signal) (hx : x.switches = false)
    (h : ∃ ys, xs = l.signals ++ ys ∧ Separated device.board ys) :
    ∃ ys, xs ++ [x] = l.signals ++ ys ∧ Separated device.board ys := by
  obtain ⟨ys, rfl, hsep⟩ := h
  exact ⟨ys ++ [x], List.append_assoc .., hsep.quiet fun line =>
    drives?_eq_none_of_not_switches hx⟩

theorem separates_perform (c : Command) :
    (device.recording.chip.perform c).Keeps (device.Separates l) := by
  intro l₁ h
  by_cases hselects : ∃ path, c = .setAntenna path
  · obtain ⟨path, rfl⟩ := hselects
    exact (sets_perform path h).mono fun r l' ⟨xs, hxs, hsep, _⟩ => ⟨xs, hxs, hsep⟩
  · have hother : ∀ path, c ≠ .setAntenna path := fun path h => hselects ⟨path, h⟩
    have hquiet := separates_quiet device l
    cases device with
    | sx126x device => exact device.bears_perform hquiet hother l₁ h
    | lr11xx device => exact device.bears_perform hquiet hother l₁ h

theorem separates_moves {x : Exchange} (hx : (device.recordedRig host config).Moves l₁ x l')
    (h : device.Separates l l₁) : device.Separates l l' := by
  cases x with
  | command c r =>
    have hends : (device.recording.chip.perform c).Ends l₁ fun _ => device.Separates l :=
      separates_perform c l₁ h
    have hresult : (device.recording.chip.perform c).result l₁ = (r, l') := hx
    rw [Action.Ends, hresult] at hends
    exact hends
  | pause us =>
    subst hx
    cases device with
    | sx126x | lr11xx => exact separates_quiet _ l l₁.signals (.delayMicros us) rfl h
  | clock time =>
    have hl : ((device.recordedRig host config).host.now l₁).2 = l' := congrArg Prod.snd hx
    subst hl
    exact h
  | event | sleepStart =>
    subst hx
    exact h

theorem separates_selected (paths : List AntennaPath) (h : device.Separates l l₁) :
    device.Separates l (device.recording.selected l₁ paths) := by
  induction paths generalizing l₁ with
  | nil => exact h
  | cons path paths ih => exact ih (separates_perform (.setAntenna path) l₁ h)

/-- **The antenna lines are exclusive**, on a board with any of its lines, for a device of either
family. From when both are low, over any selections of any paths, of which any may fail at any line,
they are never high at once; and a selection that succeeds leaves each line of the board at the
level of the path. The lines are separated over every run from power-off as well. -/
theorem antenna_lines_exclusive (device : Device σ) :
    (∀ (l : Link (σ × List Signal)) (paths : List AntennaPath),
      device.Separates l (device.recording.selected l paths) ∧
      ∀ path, (device.recording.chip.perform (.setAntenna path)).Ends
        (device.recording.selected l paths) fun r l' =>
          ∃ xs, l'.signals = l.signals ++ xs ∧ Separated device.board xs ∧
            (r.isOk = true → ∀ line high, path.level? line = some high →
              device.board.has line = true → level line xs = high)) ∧
    ∀ (host : Host σ) (config : Config) (w : σ) (ops : List Operation),
      Separated device.board (device.ran host config w ops).world.signals := by
  constructor
  · intro l paths
    have hselected := separates_selected paths (.refl device l)
    exact ⟨hselected, fun path => sets_perform path hselected⟩
  · intro host config w ops
    let start : Station (Link (σ × List Signal)) := ⟨{}, { world := (w, []) }⟩
    have hleads : (device.recordedRig host config).Leads start.world _ _ := Rig.history_leads ops
    have hran : device.Separates start.world (device.ran host config w ops).world :=
      hleads.keeps (.refl device _) fun x _ _ _ => separates_moves
    obtain ⟨xs, hxs, hsep⟩ := hran
    rw [hxs]
    exact hsep

/-- On the bench the receive antenna is selected after the transmit antenna, through the external
amplifier. -/
theorem antenna_lines_exclusive_bench :
    let l : Link (Unit × List Signal) := { world := ((), []) }
    let device := Bench.amplifiedDevice.recording
    (device.chip.perform (.setAntenna .rx)).Ends (device.selected l [.txExternal]) fun r l' =>
      r.isOk = true ∧ ∃ xs, l'.signals = l.signals ++ xs ∧ Exclusive xs ∧
        level .rxAntenna xs = true ∧ level .txAntenna xs = false := by
  intro l device
  have hrx := ((antenna_lines_exclusive Bench.amplifiedDevice).1 l [.txExternal]).2 .rx
  have hok : (device.chip.perform (.setAntenna .rx)).Ends (device.selected l [.txExternal])
      fun r _ => r.isOk = true := by
    show Except.isOk _ = true
    decide +kernel
  refine (hrx.and hok).mono fun r l' ⟨⟨xs, hxs, hsep, hlevels⟩, hr⟩ => ?_
  exact ⟨hr, xs, hxs, hsep.exclusive, hlevels hr .rxAntenna true rfl rfl,
    hlevels hr .txAntenna false rfl rfl⟩

end Device

end Transceiver
