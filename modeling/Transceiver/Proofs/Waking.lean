import Transceiver.Proofs.Bench
import Transceiver.Proofs.Passage

/-! A chip that was put to sleep is woken before anything else is transferred, and woken once. What
was done on a bus is seen here as its acts: the signals, each with the use that made it. -/

namespace Transceiver.Bus

/-- The call sends a command that puts the chip to sleep. -/
def Call.retires : Call → Bool
  | .write _ sleeps | .send _ _ sleeps => sleeps
  | _ => false

/-- What is asked for fits in the transfers it takes. -/
def Call.Fits (protocol : Protocol) : Call → Prop
  | .write cmd _ => cmd.length ≤ maxTransfer
  | .send cmd data _ => cmd.length + data.length ≤ maxTransfer
  | .read cmd n => match protocol with
    | .singleShot => cmd.length + n ≤ maxTransfer
    | .twoPhase => cmd.length ≤ maxTransfer ∧ n + 1 ≤ maxTransfer
  | .readDirect _ | .wake | .abort => True

def Use.retires : Use → Bool
  | .call asked => asked.retires
  | .await _ => false

/-- A signal, and the use of the bus that made it. -/
structure Act where
  use : Use
  signal : Signal

namespace Act

/-- Something is transferred, or it is tried. -/
def transfers (y : Act) : Bool := y.signal.isTransfer

/-- The chip is selected without a transfer, or it is tried. -/
def selects (y : Act) : Bool :=
  match y.signal with
  | .hold .. => true
  | _ => false

/-- The chip is woken. -/
def wakes (y : Act) : Bool :=
  match y.signal with
  | .hold _ done => done
  | _ => false

/-- The command that puts the chip to sleep gets through. -/
def retires (y : Act) : Bool :=
  match y.signal with
  | .transfer _ (some _) => y.use.retires
  | _ => false

/-- Nobody asked for the chip to be woken. -/
def unasked (y : Act) : Bool :=
  match y.use with
  | .call .wake => false
  | _ => true

/-- Whether the chip is asleep after an act, if `asleep` says so of it before. -/
def leavesAsleep (asleep : Bool) (y : Act) : Bool := y.retires || asleep && !y.wakes

/-- The act is in order: nothing is transferred to a chip that sleeps, and only a chip that sleeps
is woken unasked. -/
def AllowedWhen (asleep : Bool) (y : Act) : Prop :=
  (y.transfers = true → asleep = false) ∧ (y.selects = true → y.unasked = true → asleep = true)

theorem selects_of_wakes {y : Act} (h : y.wakes = true) : y.selects = true := by
  obtain ⟨use, signal⟩ := y
  cases signal <;> first | rfl | cases h

theorem transfers_of_retires {y : Act} (h : y.retires = true) : y.transfers = true := by
  obtain ⟨use, signal⟩ := y
  cases signal <;> first | rfl | cases h

theorem of_polls (use : Use) {x : Signal} (hx : x.polls = true) :
    transfers ⟨use, x⟩ = false ∧ selects ⟨use, x⟩ = false ∧ wakes ⟨use, x⟩ = false ∧
      retires ⟨use, x⟩ = false := by
  cases x <;> first | exact ⟨rfl, rfl, rfl, rfl⟩ | cases hx

end Act

/-- Whether the chip is asleep after some acts, if `asleep` says so of it before. -/
def dozes (asleep : Bool) (ys : List Act) : Bool := ys.foldl Act.leavesAsleep asleep

/-- All these acts are in order, the first of them with a chip of which `asleep` says whether it
sleeps. -/
def Orderly : Bool → List Act → Prop
  | _, [] => True
  | asleep, y :: ys => y.AllowedWhen asleep ∧ Orderly (y.leavesAsleep asleep) ys

section Orderly
variable {asleep : Bool} {ys zs : List Act} {y : Act}

theorem dozes_append : dozes asleep (ys ++ zs) = dozes (dozes asleep ys) zs := List.foldl_append

theorem orderly_append :
    Orderly asleep (ys ++ zs) ↔ Orderly asleep ys ∧ Orderly (dozes asleep ys) zs := by
  induction ys generalizing asleep with
  | nil => exact (true_and _).symm.to_iff
  | cons y ys ih =>
    rw [List.cons_append, Orderly, Orderly, ih, and_assoc]
    rfl

theorem orderly_concat :
    Orderly asleep (ys ++ [y]) ↔ Orderly asleep ys ∧ y.AllowedWhen (dozes asleep ys) := by
  rw [orderly_append, Orderly, Orderly, and_true]

theorem dozes_of_not_wakes (h : ∀ y ∈ ys, y.wakes = false) : dozes true ys = true := by
  induction ys with
  | nil => rfl
  | cons y ys ih =>
    obtain ⟨hy, hys⟩ := List.forall_mem_cons.mp h
    have hasleep : y.leavesAsleep true = true := by simp [Act.leavesAsleep, hy]
    rw [dozes, List.foldl_cons, hasleep]
    exact ih hys

theorem exists_retires_of_dozes (h : dozes asleep ys = true) :
    asleep = true ∧ (∀ z ∈ ys, z.wakes = false) ∨
      ∃ front s mid, ys = front ++ s :: mid ∧ s.retires = true ∧ ∀ z ∈ mid, z.wakes = false := by
  induction ys generalizing asleep with
  | nil => exact .inl ⟨h, by simp⟩
  | cons y ys ih =>
    -- by induction on the acts after the first, from the chip as that leaves it
    obtain ⟨hleft, hmid⟩ | ⟨front, s, mid, rfl, hs⟩ := ih h
    · obtain hretires | hstays := Bool.or_eq_true_iff.mp hleft
      · exact .inr ⟨[], y, ys, rfl, hretires, hmid⟩
      · obtain ⟨hasleep, hwakes⟩ := Bool.and_eq_true_iff.mp hstays
        exact .inl ⟨hasleep, List.forall_mem_cons.mpr ⟨by simpa using hwakes, hmid⟩⟩
    · exact .inr ⟨y :: front, s, mid, rfl, hs⟩

/-- While it is not put to sleep again, a chip is woken unasked once at most, and only if it
sleeps. -/
theorem Orderly.countP_unasked (h : Orderly asleep ys) (hretires : ∀ y ∈ ys, y.retires = false) :
    ys.countP (fun y => y.wakes && y.unasked) ≤ asleep.toNat := by
  induction ys generalizing asleep with
  | nil => exact Nat.zero_le _
  | cons y ys ih =>
    obtain ⟨hy, hys⟩ := List.forall_mem_cons.mp hretires
    obtain ⟨hallowed, hrest⟩ := h
    have hlater := ih hrest hys
    rw [Act.leavesAsleep, hy, Bool.false_or] at hlater
    rw [List.countP_cons]
    cases hwakes : y.wakes with
    | false => simpa [hwakes] using hlater
    | true =>
      -- awake after this, it is not woken unasked by any later act
      have hnone : ys.countP (fun y => y.wakes && y.unasked) = 0 := by simpa [hwakes] using hlater
      cases hunasked : y.unasked with
      | false => simp [hnone]
      | true =>
        have hasleep : asleep = true := hallowed.2 (Act.selects_of_wakes hwakes) hunasked
        simp [hnone, hasleep]

/-- If nobody asks for it, a chip that sleeps at first and not at last is woken once. -/
theorem Orderly.countP_wakes (h : Orderly asleep ys) (hretires : ∀ y ∈ ys, y.retires = false)
    (hunasked : ∀ y ∈ ys, y.wakes = true → y.unasked = true) :
    ys.countP Act.wakes + (dozes asleep ys).toNat = asleep.toNat := by
  induction ys generalizing asleep with
  | nil => exact Nat.zero_add _
  | cons y ys ih =>
    obtain ⟨hy, hys⟩ := List.forall_mem_cons.mp hretires
    obtain ⟨hfirst, hothers⟩ := List.forall_mem_cons.mp hunasked
    obtain ⟨hallowed, hrest⟩ := h
    have hlater := ih hrest hys hothers
    rw [List.countP_cons, dozes, List.foldl_cons]
    rw [dozes] at hlater
    cases hwakes : y.wakes with
    | false =>
      have hsame : y.leavesAsleep asleep = asleep := by simp [Act.leavesAsleep, hy, hwakes]
      rw [hsame] at hlater ⊢
      simpa using hlater
    | true =>
      have hasleep : asleep = true := hallowed.2 (Act.selects_of_wakes hwakes) (hfirst hwakes)
      have hawake : y.leavesAsleep asleep = false := by simp [Act.leavesAsleep, hy, hwakes]
      rw [hawake] at hlater ⊢
      rw [Bool.toNat_false] at hlater
      rw [if_pos rfl, hasleep, Bool.toNat_true]
      omega

end Orderly

/-- Between a command for sleep and the next transfer the chip is woken, and it is not woken unasked
anywhere else. -/
structure WokenOnce (ys : List Act) : Prop where
  /-- After the command nothing is transferred before the chip is woken. -/
  before : ∀ pre s mid t post, ys = pre ++ s :: (mid ++ t :: post) → s.retires = true →
    t.transfers = true → ∃ y ∈ mid, y.wakes = true
  /-- Until the next transfer it is woken unasked once at most, and once if it is not asked for. -/
  once : ∀ pre s mid t post, ys = pre ++ s :: (mid ++ t :: post) → s.retires = true →
    t.transfers = true → (∀ y ∈ mid, y.transfers = false) →
      mid.countP (fun y => y.wakes && y.unasked) ≤ 1 ∧
      ((∀ y ∈ mid, y.wakes = true → y.unasked = true) → mid.countP Act.wakes = 1)
  /-- Waking it unasked is tried only when it was put to sleep, and not woken since. -/
  only : ∀ pre y post, ys = pre ++ y :: post → y.selects = true → y.unasked = true →
    ∃ front s mid, pre = front ++ s :: mid ∧ s.retires = true ∧
      ∀ z ∈ mid, z.wakes = false ∧ z.transfers = false

section WokenOnce
variable {ys pre mid post : List Act} {s t : Act}

/-- What comes after a command for sleep is in order for a chip that sleeps. -/
theorem Orderly.after_retires (h : Orderly false ys) (hys : ys = pre ++ s :: (mid ++ t :: post))
    (hs : s.retires = true) : Orderly true mid ∧ t.AllowedWhen (dozes true mid) := by
  rw [hys, orderly_append, Orderly, orderly_append, Orderly] at h
  have hasleep : s.leavesAsleep (dozes false pre) = true := by rw [Act.leavesAsleep, hs, Bool.true_or]
  rw [hasleep] at h
  exact ⟨h.2.2.1, h.2.2.2.1⟩

theorem Orderly.exists_wakes (h : Orderly false ys) (hys : ys = pre ++ s :: (mid ++ t :: post))
    (hs : s.retires = true) (ht : t.transfers = true) : ∃ y ∈ mid, y.wakes = true := by
  refine Decidable.byContradiction fun hnone => ?_
  have hnone : ∀ y ∈ mid, y.wakes = false := by simpa using hnone
  have hawake : dozes true mid = false := (h.after_retires hys hs).2.1 ht
  rw [dozes_of_not_wakes hnone] at hawake
  cases hawake

theorem Orderly.wokenOnce (h : Orderly false ys) : WokenOnce ys where
  before pre s mid t post hys hs ht := h.exists_wakes hys hs ht
  once pre s mid t post hys hs ht hmid := by
    obtain ⟨horderly, hallowed⟩ := h.after_retires hys hs
    have hretires : ∀ y ∈ mid, y.retires = false := fun y hy => by
      refine Bool.eq_false_iff.mpr fun hretires => ?_
      have htransfers := Act.transfers_of_retires hretires
      rw [hmid y hy] at htransfers
      cases htransfers
    refine ⟨horderly.countP_unasked hretires, fun hunasked => ?_⟩
    have hcount := horderly.countP_wakes hretires hunasked
    rw [hallowed.1 ht] at hcount
    exact hcount
  only pre y post hys hselects hunasked := by
    have hallowed : y.AllowedWhen (dozes false pre) := by
      have horderly : Orderly false (pre ++ y :: post) := hys ▸ h
      exact (orderly_append.mp horderly).2.1
    obtain ⟨hasleep, -⟩ | ⟨front, s, mid, rfl, hs, hmid⟩ :=
      exists_retires_of_dozes (hallowed.2 hselects hunasked)
    · cases hasleep
    refine ⟨front, s, mid, rfl, hs, fun z hz => ⟨hmid z hz, ?_⟩⟩
    -- a transfer among them would need the chip to be woken before it
    refine Bool.eq_false_iff.mpr fun hz' => ?_
    obtain ⟨early, late, rfl⟩ := List.append_of_mem hz
    have hsplit : ys = front ++ s :: (early ++ z :: (late ++ y :: post)) := by simpa using hys
    obtain ⟨x, hx, hwakes⟩ := h.exists_wakes hsplit hs hz'
    rw [hmid x (List.mem_append_left _ hx)] at hwakes
    cases hwakes

end WokenOnce

/-! ## The uses of a bus -/

def Passage.acts (p : Passage) : List Act := p.signals.map (Act.mk p.use)

theorem map_signal_acts (ps : List Passage) :
    (ps.flatMap Passage.acts).map Act.signal = ps.flatMap Passage.signals := by
  have hacts (p : Passage) : p.acts.map Act.signal = p.signals := List.map_map.trans p.signals.map_id
  simp only [List.map_flatMap, hacts]

namespace Link

variable {σ α β : Type} {use : Use} {l l₁ : Link (σ × List Signal)} {w : σ} {x : Signal}

/-- From the first link to the second the acts of a use are in order, and the flags say before and
after them whether the chip sleeps. -/
def Proceeds (use : Use) (l l' : Link (σ × List Signal)) : Prop :=
  ∃ xs, l'.signals = l.signals ++ xs ∧ Orderly l.sleeping (xs.map (Act.mk use)) ∧
    l'.sleeping = dozes l.sleeping (xs.map (Act.mk use))

/-- The same, and the chip does not sleep after them. -/
def Alert (use : Use) (l l' : Link (σ × List Signal)) : Prop :=
  l.Proceeds use l' ∧ l'.sleeping = false

theorem Proceeds.refl (use : Use) (l : Link (σ × List Signal)) : l.Proceeds use l :=
  ⟨[], (List.append_nil _).symm, trivial, rfl⟩

theorem Proceeds.noting {b : Bool} (h : l.Proceeds use l₁)
    (hallowed : Act.AllowedWhen l₁.sleeping ⟨use, x⟩)
    (hasleep : b = Act.leavesAsleep l₁.sleeping ⟨use, x⟩) :
    l.Proceeds use { l₁.noting w x with sleeping := b } := by
  obtain ⟨xs, hsignals, horderly, hdozes⟩ := h
  rw [hdozes] at hallowed hasleep
  refine ⟨xs ++ [x], ?_, ?_, ?_⟩
  · exact (congrArg (· ++ [x]) hsignals).trans (List.append_assoc ..)
  · rw [List.map_append]
    exact orderly_concat.mpr ⟨horderly, hallowed⟩
  · rw [List.map_append, dozes_append]
    exact hasleep

theorem Proceeds.polls (h : l.Proceeds use l₁) (hx : x.polls = true) :
    l.Proceeds use (l₁.noting w x) := by
  obtain ⟨htransfers, hselects, hwakes, hretires⟩ := Act.of_polls use hx
  refine h.noting (b := l₁.sleeping) ⟨?_, ?_⟩ ?_
  · simp [htransfers]
  · simp [hselects]
  · simp [Act.leavesAsleep, hwakes, hretires]

/-- The chip is selected because it sleeps, or because that was asked for. -/
theorem Proceeds.hold {ns : UInt32} {done : Bool} (h : l.Proceeds use l₁)
    (hwhy : Act.unasked ⟨use, .hold ns done⟩ = true → l₁.sleeping = true) :
    l.Proceeds use { l₁.noting w (.hold ns done) with sleeping := !done && l₁.sleeping } :=
  h.noting ⟨nofun, fun _ => hwhy⟩ (Bool.and_comm ..)

theorem Alert.transfer {sent : List UInt8} {received : Option (List UInt8)} (h : l.Alert use l₁)
    (hplain : use.retires = false) : l.Alert use (l₁.noting w (.transfer sent received)) := by
  obtain ⟨hproceeds, hawake⟩ := h
  refine ⟨hproceeds.noting (b := l₁.sleeping) ⟨fun _ => hawake, nofun⟩ ?_, hawake⟩
  rw [hawake]
  cases received with
  | none => rfl
  | some received => exact ((Bool.or_false use.retires).trans hplain).symm

theorem Alert.retire {sent received : List UInt8} (h : l.Alert use l₁)
    (hretires : use.retires = true) :
    l.Proceeds use
      { l₁.noting w (.transfer sent (some received)) with sleeping := true } := by
  obtain ⟨hproceeds, hawake⟩ := h
  refine hproceeds.noting ⟨fun _ => hawake, nofun⟩ ?_
  rw [hawake]
  exact ((Bool.or_false use.retires).trans hretires).symm

theorem Alert.missed {sent : List UInt8} (h : l.Alert use l₁) :
    l.Proceeds use (l₁.noting w (.transfer sent none)) := by
  obtain ⟨hproceeds, hawake⟩ := h
  exact hproceeds.noting (b := l₁.sleeping) ⟨fun _ => hawake, nofun⟩ (by rw [hawake]; rfl)

end Link

namespace Endpoint

open Transceiver.Action Link

variable {σ α : Type} {bus : Endpoint σ} {use : Use} {l : Link (σ × List Signal)}

theorem proceeds_awaitReady (budget : Nat) :
    (bus.recording.awaitReady budget).Keeps (l.Proceeds use) :=
  polls_awaitReady (fun _ _ _ hx h => h.polls hx) budget

/-- Once the chip is ready, it is awake. -/
theorem proceeds_prepare : bus.recording.prepare.Ends l fun r l' =>
    l.Proceeds use l' ∧ (r.isOk = true → l'.sleeping = false) := by
  have hproceeds : bus.recording.prepare.Ends l fun _ => l.Proceeds use :=
    polls_prepare (fun _ _ _ hx h => h.polls hx) (fun _ _ _ _ hsleeping h => h.hold fun _ => hsleeping)
      l (.refl use l)
  have hserves : bus.recording.prepare.Ends l (Serves bus.handshake.protocol l) := ends_prepare
  exact ⟨hproceeds, hserves.2⟩

section Plain
variable (hplain : use.retires = false)
include hplain

theorem alert_exchange (sent : List UInt8) : (bus.recording.exchange sent).Keeps (l.Alert use) :=
  fun _ h => ends_exchange (fun _ => h.transfer hplain) fun _ _ => h.transfer hplain

theorem proceeds_exchange {sent : List UInt8}
    {f : Vector UInt8 sent.length → Action (Link (σ × List Signal)) α}
    (hf : ∀ received, (f received).Keeps (l.Alert use)) :
    (bus.recording.prepare >>= fun _ => bus.recording.exchange sent >>= f).Ends l
      fun _ => l.Proceeds use :=
  ends_bind.mpr <| proceeds_prepare.mono fun
    | .ok _, l₁, h => ((alert_exchange hplain sent).bind hf l₁ ⟨h.1, h.2 rfl⟩).mono fun _ _ h => h.1
    | .error _, _, h => h.1

theorem proceeds_send (cmd data : List UInt8) :
    (bus.recording.send cmd data).Ends l fun _ => l.Proceeds use := by
  refine ends_ite.mpr ?_
  split
  · exact .refl use l
  · exact proceeds_exchange hplain fun _ _ h => h

theorem proceeds_read (cmd : List UInt8) (n : Nat) :
    (bus.recording.read cmd n).Ends l fun _ => l.Proceeds use := by
  have alert_awaitReady (budget : Nat) : (bus.recording.awaitReady budget).Keeps (l.Alert use) :=
    polls_awaitReady (fun _ _ _ hx h => ⟨h.1.polls hx, h.2⟩) budget
  unfold read
  split <;> refine ends_ite.mpr ?_ <;> split
  · exact .refl use l
  · exact proceeds_exchange hplain fun _ => .bind (fun _ h => h) fun _ => .pure _
  · exact .refl use l
  · -- the chip stays awake between the two transfers
    refine proceeds_exchange hplain fun _ => .bind (fun _ h => h) fun _ => ?_
    exact (alert_awaitReady _).bind fun _ => (alert_exchange hplain _).bind fun _ => .pure _

theorem proceeds_readDirect (n : Nat) :
    (bus.recording.readDirect n).Ends l fun _ => l.Proceeds use :=
  proceeds_exchange hplain fun _ => .pure _

end Plain

theorem proceeds_sleep (hretires : use.retires = true) (cmd data : List UInt8) :
    Ends (do bus.recording.send cmd data; modify ({ · with sleeping := true })) l
      fun _ => l.Proceeds use := by
  refine ends_bind.mpr <| ends_ite.mpr ?_
  split
  · exact .refl use l
  refine ends_bind.mpr <| proceeds_prepare.mono fun
    | .error _, _, h => h.1
    | .ok _, l₁, h => ?_
  have halert : l.Alert use l₁ := ⟨h.1, h.2 rfl⟩
  refine ends_bind.mpr <| ends_exchange (fun w => halert.missed) fun received w => ?_
  exact halert.retire hretires

theorem proceeds_use (bus : Endpoint σ) {use : Use} (habort : use ≠ .call .abort) :
    (use.perform bus.recording).Ends l fun _ => l.Proceeds use := by
  cases use with
  | await budget => exact proceeds_awaitReady budget l (.refl _ l)
  | call asked =>
    cases asked with
    | write cmd sleeps =>
      cases sleeps with
      | false => exact proceeds_send rfl cmd []
      | true => exact proceeds_sleep rfl cmd []
    | send cmd data sleeps =>
      cases sleeps with
      | false => exact proceeds_send rfl cmd data
      | true => exact proceeds_sleep rfl cmd data
    | read cmd n => exact ends_discard.mpr (proceeds_read rfl cmd n)
    | readDirect n => exact ends_discard.mpr (proceeds_readDirect rfl n)
    | wake =>
      refine polls_wake (fun _ _ _ hx h => h.polls hx) fun w ns done => ?_
      exact (Proceeds.refl _ l).hold nofun
    | abort => exact absurd rfl habort

theorem orderly_passages (bus : Endpoint σ) (world : σ × List Signal) (uses : List Use)
    (habort : .call .abort ∉ uses) :
    Orderly false ((bus.passages { world := world } uses).flatMap Passage.acts) := by
  -- the flag of the link is where the acts so far leave the chip, so that the next use, which is in
  -- order from the flag on, continues them
  let Inv (so : List Passage) (l : Link (σ × List Signal)) : Prop :=
    Orderly false (so.flatMap Passage.acts) ∧ l.sleeping = dozes false (so.flatMap Passage.acts)
  have hall : Inv ([] ++ bus.passages { world := world } uses) (bus.used { world := world } uses) := by
    refine passages_keep Inv uses (fun use huse l so h => ?_) [] ⟨trivial, rfl⟩
    obtain ⟨horderly, hsleeping⟩ := h
    have hproceeds : l.Proceeds use (bus.after l use) :=
      proceeds_use bus fun h => habort (h ▸ huse)
    obtain ⟨xs, hsignals, hmore, hafter⟩ := hproceeds
    obtain rfl := signals_passage hsignals
    rw [hsleeping] at hmore hafter
    have hacts : (so ++ [bus.passage l use]).flatMap Passage.acts =
        so.flatMap Passage.acts ++ (bus.passage l use).acts := by simp
    show Orderly false _ ∧ _ = dozes false _
    rw [hacts, orderly_append, dozes_append]
    exact ⟨⟨horderly, hmore⟩, hafter⟩
  exact hall.1

/-! ## Waking first -/

/-- The chip is woken first. If that fails nothing else is done, and the chip is taken to sleep as
before. -/
def WakesFirst (bus : Endpoint σ) (l : Link (σ × List Signal)) (r : Except Fault α)
    (l' : Link (σ × List Signal)) : Prop :=
  l.signals ++ [.hold (nanos bus.handshake.wakeSettle) true] <+: l'.signals ∨
    l'.signals = l.signals ++ [.hold (nanos bus.handshake.wakeSettle) false] ∧
      r = .error .io ∧ l'.sleeping = true

section WakesFirst
variable {β : Type}

theorem wakesFirst_bind {x : Action (Link (σ × List Signal)) α}
    {f : α → Action (Link (σ × List Signal)) β} (hx : x.Ends l (bus.WakesFirst l))
    (hf : ∀ ys a, (f a).Keeps (ys <+: ·.signals)) : (x >>= f).Ends l (bus.WakesFirst l) := by
  refine ends_bind.mpr <| hx.mono ?_
  rintro (e | a) l' (hwoken | ⟨hsignals, hr, hsleeping⟩)
  · exact .inl hwoken
  · cases hr
    exact .inr ⟨hsignals, rfl, hsleeping⟩
  · exact (hf _ a l' hwoken).mono fun _ _ h => .inl h
  · cases hr

theorem wakesFirst_discard {x : Action (Link (σ × List Signal)) α}
    (hx : x.Ends l (bus.WakesFirst l)) : Ends (discard x) l (bus.WakesFirst l) := by
  refine ends_discard.mpr <| hx.mono fun r l' h => h.imp_right ?_
  rintro ⟨hsignals, rfl, hsleeping⟩
  exact ⟨hsignals, rfl, hsleeping⟩

variable (hsleeping : l.sleeping = true)
include hsleeping

theorem wakesFirst_wake : bus.recording.wake.Ends l (bus.WakesFirst l) := by
  refine ends_bind.mpr <| ends_hold (fun w => .inr ⟨rfl, rfl, hsleeping⟩) fun w => ?_
  refine ends_bind.mpr <| ends_modify.mpr ?_
  exact (bears_awaitReady prefix_concat _ _ List.prefix_rfl).mono fun _ _ h => .inl h

theorem wakesFirst_prepare : bus.recording.prepare.Ends l (bus.WakesFirst l) :=
  ends_bind.mpr <| ends_get.mpr <| ends_ite.mpr <| (if_pos hsleeping).mpr <| wakesFirst_wake hsleeping

theorem wakesFirst_send {cmd data : List UInt8} (hfits : cmd.length + data.length ≤ maxTransfer) :
    (bus.recording.send cmd data).Ends l (bus.WakesFirst l) := by
  refine ends_ite.mpr <| (if_neg (Nat.not_lt.mpr hfits)).mpr ?_
  refine wakesFirst_bind (wakesFirst_prepare hsleeping) fun ys _ => ?_
  exact (bears_exchange prefix_concat _).bind fun _ => bears_record _ _

theorem wakesFirst_read {cmd : List UInt8} {n : Nat}
    (hfits : (Call.read cmd n).Fits bus.handshake.protocol) :
    (bus.recording.read cmd n).Ends l (bus.WakesFirst l) := by
  unfold read
  unfold Call.Fits at hfits
  have hsame : bus.recording.handshake.protocol = bus.handshake.protocol := rfl
  rw [hsame]
  cases hprotocol : bus.handshake.protocol <;> rw [hprotocol] at hfits <;> refine ends_ite.mpr ?_
  · refine (if_neg (Nat.not_lt.mpr hfits)).mpr ?_
    refine wakesFirst_bind (wakesFirst_prepare hsleeping) fun ys _ => ?_
    exact (bears_exchange prefix_concat _).bind fun _ => (bears_record _ _).bind fun _ => .pure _
  · refine (if_neg (by omega)).mpr ?_
    refine wakesFirst_bind (wakesFirst_prepare hsleeping) fun ys _ => ?_
    refine (bears_exchange prefix_concat _).bind fun _ => (bears_record _ _).bind fun _ => ?_
    refine (bears_awaitReady prefix_concat _).bind fun _ => ?_
    exact (bears_exchange prefix_concat _).bind fun _ => .pure _

theorem wakesFirst_call {asked : Call} (habort : asked ≠ .abort)
    (hfits : asked.Fits bus.handshake.protocol) :
    (asked.perform bus.recording).Ends l (bus.WakesFirst l) := by
  have sleep (cmd data : List UInt8) (h : cmd.length + data.length ≤ maxTransfer) :
      Ends (do bus.recording.send cmd data; modify ({ · with sleeping := true })) l
        (bus.WakesFirst l) :=
    wakesFirst_bind (wakesFirst_send hsleeping h) fun _ _ _ h => h
  cases asked with
  | write cmd sleeps =>
    cases sleeps with
    | false => exact wakesFirst_send hsleeping hfits
    | true => exact sleep cmd [] hfits
  | send cmd data sleeps =>
    cases sleeps with
    | false => exact wakesFirst_send hsleeping hfits
    | true => exact sleep cmd data hfits
  | read cmd n => exact wakesFirst_discard (wakesFirst_read hsleeping hfits)
  | readDirect n =>
    refine wakesFirst_discard <| wakesFirst_bind (wakesFirst_prepare hsleeping) fun ys _ => ?_
    exact (bears_exchange prefix_concat _).bind fun _ => .pure _
  | wake => exact wakesFirst_wake hsleeping
  | abort => exact absurd rfl habort

end WakesFirst

theorem ends_refused (bus : Endpoint σ) {asked : Call} (hfits : ¬asked.Fits bus.handshake.protocol) :
    (asked.perform bus.recording).Ends l fun r l' => r = .error .noMemory ∧ l' = l := by
  have refused {cmd data : List UInt8} (h : ¬cmd.length + data.length ≤ maxTransfer) :
      (bus.recording.send cmd data).Ends l fun r l' => r = .error .noMemory ∧ l' = l :=
    ends_ite.mpr <| (if_pos (Nat.lt_of_not_le h)).mpr ⟨rfl, rfl⟩
  have sleep (cmd data : List UInt8) (h : ¬cmd.length + data.length ≤ maxTransfer) :
      Ends (do bus.recording.send cmd data; modify ({ · with sleeping := true })) l
        fun r l' => r = .error .noMemory ∧ l' = l := by
    refine ends_bind.mpr <| (refused h).mono ?_
    rintro r l' ⟨rfl, rfl⟩
    exact ⟨rfl, rfl⟩
  cases asked with
  | write cmd sleeps =>
    cases sleeps with
    | false => exact refused hfits
    | true => exact sleep cmd [] hfits
  | send cmd data sleeps =>
    cases sleeps with
    | false => exact refused hfits
    | true => exact sleep cmd data hfits
  | read cmd n =>
    refine ends_discard.mpr ?_
    unfold read
    unfold Call.Fits at hfits
    have hsame : bus.recording.handshake.protocol = bus.handshake.protocol := rfl
    rw [hsame]
    cases hprotocol : bus.handshake.protocol <;> rw [hprotocol] at hfits <;>
      refine ends_ite.mpr <| (if_pos ?_).mpr ⟨rfl, rfl⟩
    · exact Nat.lt_of_not_le hfits
    · exact by omega
  | readDirect | wake | abort => exact absurd trivial hfits

/-- **Sleep and wake on the bus**, for any wires. Over any uses of the bus but aborts, of which any
may fail, the acts are all that went over the wires, and between a command for sleep that got
through and the next transfer, tried or done, the chip is woken, once if nobody asks for it, and it
is not woken unasked anywhere else. A sleeping chip is woken first by any call; if that fails
nothing else is done, and it is taken to sleep still. Only a call that does not fit is refused
before that. -/
theorem wakes_once (bus : Endpoint σ) (world : σ × List Signal) (uses : List Use)
    (habort : .call .abort ∉ uses) :
    let acts := (bus.passages { world := world } uses).flatMap Passage.acts
    (bus.used { world := world } uses).signals = world.2 ++ acts.map Act.signal ∧
    WokenOnce acts ∧
    ∀ (l : Link (σ × List Signal)) (asked : Call), l.sleeping = true → asked ≠ .abort →
      (asked.Fits bus.handshake.protocol →
        (asked.perform bus.recording).Ends l (bus.WakesFirst l)) ∧
      (¬asked.Fits bus.handshake.protocol →
        (asked.perform bus.recording).Ends l fun r l' => r = .error .noMemory ∧ l' = l) := by
  intro acts
  have hsignals : (bus.used { world := world } uses).signals = world.2 ++ acts.map Act.signal := by
    rw [map_signal_acts]
    exact signals_used uses
  exact ⟨hsignals, (orderly_passages bus world uses habort).wokenOnce, fun _ _ hsleeping hcall =>
    ⟨wakesFirst_call hsleeping hcall, ends_refused bus⟩⟩

/-- A chip on the bench that is put to sleep, read, put to sleep, and woken. -/
theorem wakes_once_bench :
    let uses : List Use :=
      [.call (.write [0x84, 0] true), .call (.read [0xC0] 1), .call (.write [0x84, 0] true)]
    let l := (Bench.bus .singleShot).used { world := ((), []) } uses
    .call .abort ∉ uses ∧
    WokenOnce (((Bench.bus .singleShot).passages { world := ((), []) } uses).flatMap
      Passage.acts) ∧
    l.sleeping = true ∧ Call.wake ≠ .abort ∧ Call.wake.Fits .singleShot ∧
    ¬(Call.read [] 265).Fits .singleShot ∧
    (Call.wake.perform (Bench.bus .singleShot).recording).Ends l
      ((Bench.bus .singleShot).WakesFirst l) ∧
    ((Call.read [] 265).perform (Bench.bus .singleShot).recording).Ends l
      fun r l' => r = .error .noMemory ∧ l' = l := by
  intro uses l
  have habort : .call .abort ∉ uses := by simp [uses]
  have hsleeping : l.sleeping = true := by decide +kernel
  obtain ⟨-, hwoken, hcalls⟩ := wakes_once (Bench.bus .singleShot) ((), []) uses habort
  have hlong : ¬(Call.read [] 265).Fits .singleShot := by
    show ¬0 + 265 ≤ maxTransfer
    decide
  exact ⟨habort, hwoken, hsleeping, nofun, trivial, hlong, (hcalls l .wake hsleeping nofun).1 trivial,
    (hcalls l (.read [] 265) hsleeping nofun).2 hlong⟩

end Endpoint

end Transceiver.Bus
