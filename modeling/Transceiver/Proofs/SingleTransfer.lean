import Transceiver.Proofs.Handshake
import Transceiver.Proofs.SharedBuffer

/-! Requests that take one transfer. The host waits until the chip is ready, and then exchanges the
bytes. Either may fail, but not on a bus that responds. What the wait leaves as it is behind the
wires is as it was when the transfer starts. -/

namespace Transceiver.Bus

/-- Whatever is exchanged gets through, and from anywhere the busy line reads low within the samples
that the host takes. -/
structure Endpoint.Responds {σ : Type} (bus : Endpoint σ) : Prop where
  transfer : ∀ sent w, (bus.wire.transfer sent w).1.isSome = true
  hold : ∀ ns w, (bus.wire.hold ns w).1.isSome = true
  ready : ∀ w, ∃ k < bus.handshake.busyBudget, (bus.sampled bus.sampleBusy w k).1 = .ok false ∧
    ∀ i < k, (bus.sampled bus.sampleBusy w i).1 = .ok true

/-- To wait for the chip leaves what is seen of the surroundings as it is. -/
structure Wire.Steady {σ τ : Type} (wire : Wire σ) (view : σ → τ) : Prop where
  hold : ∀ ns w, view (wire.hold ns w).2 = view w
  busy : ∀ w, view (wire.busy w).2 = view w
  delayMicros : ∀ us w, view (wire.delayMicros us w) = view w

/-- What the host notes for itself is not transferred. -/
theorem Link.Transferred.of_world {σ : Type} {l l₁ l₂ : Link (σ × List Signal)}
    {ts : List Transfer} (h : l.Transferred l₁ ts) (hworld : l₂.world = l₁.world) :
    l.Transferred l₂ ts := by
  obtain ⟨xs, hxs, hts⟩ := h
  exact ⟨xs, (congrArg Prod.snd hworld).trans hxs, hts⟩

/-- How a request goes from the link `l` on that sends these bytes in one transfer. What it returns
fits what came back. -/
inductive Endpoint.Once {σ τ α : Type} (bus : Endpoint σ) (view : σ → τ) (sent : List UInt8)
    (fits : α → List UInt8 → Prop) (l : Link (σ × List Signal)) :
    Except Fault α → Link (σ × List Signal) → Prop
  /-- The chip did not get ready. -/
  | unready {e : Fault} {l' : Link (σ × List Signal)} : ¬bus.Responds → e = .busy ∨ e = .io →
    l.Transferred l' [] → view l'.world.1 = view l.world.1 → Once bus view sent fits l (.error e) l'
  | lost {w : σ} {l' : Link (σ × List Signal)} : view w = view l.world.1 →
    (bus.wire.transfer sent w).1 = none → l'.world.1 = (bus.wire.transfer sent w).2 →
    l.Transferred l' [(sent, none)] → Once bus view sent fits l (.error .io) l'
  | done {w : σ} {received : Vector UInt8 sent.length} {a : α} {l' : Link (σ × List Signal)} :
    view w = view l.world.1 → (bus.wire.transfer sent w).1 = some received →
    l'.world.1 = (bus.wire.transfer sent w).2 →
    l.Transferred l' [(sent, some received.toList)] → fits a received.toList →
    Once bus view sent fits l (.ok a) l'

namespace Endpoint

open Transceiver.Action

variable {σ τ α : Type} {bus : Endpoint σ} {view : σ → τ} {l l' : Link (σ × List Signal)}

theorem Once.isOk {sent : List UInt8} {fits : α → List UInt8 → Prop} {r : Except Fault α}
    (h : bus.Once view sent fits l r l') (hbus : bus.Responds) : r.isOk = true := by
  cases h with
  | unready hnot => exact absurd hbus hnot
  | @lost w _ _ hlost =>
    have hdone := hbus.transfer sent w
    rw [hlost] at hdone
    cases hdone
  | done => rfl

/-! ## The wait -/

theorem sampled_sampleBusy_error {w : σ} {k : Nat} {f : Fault}
    (h : (bus.sampled bus.sampleBusy w k).1 = .error f) : f = .busy := by
  have hsample (w : σ) (h : (bus.sampleBusy w).1 = .error f) : f = .busy := by
    unfold sampleBusy at h
    split at h
    · cases h
    · exact (Except.error.inj h).symm
  cases k with
  | zero => exact hsample _ h
  | succ k => exact hsample _ h

/-- Where the bus responds, a wait gets to the sample that reads low. -/
theorem Waits.of_responds {w : σ} {i : Nat} {r : Except Fault Unit} {xs : List Signal}
    (h : bus.Waits bus.sampleBusy w bus.handshake.busyBudget i r xs) (hbus : bus.Responds) :
    r = .ok () := by
  obtain ⟨k, hk, hlow, hhigh⟩ := hbus.ready w
  obtain hlt | rfl | hlt := Nat.lt_trichotomy i k
  · exact absurd (hhigh i hlt) (h.stops (Nat.lt_trans hlt hk))
  · rw [h.outcome, if_pos hk, hlow]
    rfl
  · have hboth := hlow.symm.trans (h.high k hlt)
    cases hboth

/-- The step succeeds, or fails in a way of its bus, and not if that responds. -/
def Relies (bus : Endpoint σ) (x : Action (Link (σ × List Signal)) α) : Prop :=
  ∀ l, x.Ends l fun r _ => ∀ e, r = .error e → ¬bus.Responds ∧ (e = .busy ∨ e = .io)

theorem relies_ready : bus.Relies bus.recording.ready := by
  refine fun l => (ends_awaitReady bus _).mono fun r l' ⟨i, xs, _, h⟩ e he => ?_
  refine ⟨fun hbus => ?_, .inl ?_⟩
  · cases he.symm.trans (h.of_responds hbus)
  · have houtcome := he.symm.trans h.outcome
    split at houtcome
    · cases hreading : (bus.sampled bus.sampleBusy l.world.1 i).1 with
      | ok level =>
        rw [hreading] at houtcome
        cases houtcome
      | error f =>
        rw [hreading] at houtcome
        cases houtcome
        exact sampled_sampleBusy_error hreading
    · exact Except.error.inj houtcome

theorem relies_prepare : bus.Relies bus.recording.prepare := by
  refine fun l => ends_bind.mpr <| ends_get.mpr <| ends_ite.mpr ?_
  split
  · refine ends_bind.mpr <| ends_hold_of (fun hheld => ?_) fun _ => ?_
    · rintro e ⟨⟩
      refine ⟨fun hbus => ?_, .inr rfl⟩
      have hdone := hbus.hold (nanos bus.recording.handshake.wakeSettle) l.world.1
      rw [hheld] at hdone
      cases hdone
    · exact ends_bind.mpr <| ends_modify.mpr <| relies_ready _
  · exact relies_ready l

/-- While the chip is waited for nothing is transferred, and what is seen stays as it is. -/
theorem steady_prepare (h : bus.wire.Steady view) (l : Link (σ × List Signal)) :
    bus.recording.prepare.Ends l fun _ l' =>
      l.Transferred l' [] ∧ view l'.world.1 = view l.world.1 := by
  have hview : bus.recording.prepare.Keeps (view ·.world.1 = view l.world.1) :=
    waits_prepare (fun _ hl => (h.busy _).trans hl) (fun _ _ hl => (h.delayMicros ..).trans hl)
      fun _ _ _ hl => (h.hold ..).trans hl
  exact (transferred_prepare l (.refl l)).and (hview l rfl)

/-! ## The transfer -/

/-- A transfer once the chip is ready, and what the host does with what came back. -/
theorem once_exchange (h : bus.wire.Steady view) {sent : List UInt8}
    {fits : α → List UInt8 → Prop}
    {f : Vector UInt8 sent.length → Action (Link (σ × List Signal)) α}
    (hf : ∀ received l, (f received).Ends l fun r l' =>
      ∃ a, r = .ok a ∧ l'.world = l.world ∧ fits a received.toList) :
    (bus.recording.prepare >>= fun _ => bus.recording.exchange sent >>= f).Ends l
      (bus.Once view sent fits l) := by
  have hprepare := (steady_prepare h l).and (relies_prepare l)
  refine ends_bind.mpr <| hprepare.mono fun
    | .error e, _, ⟨⟨hnone, hview⟩, hrelies⟩ =>
      .unready (hrelies e rfl).1 (hrelies e rfl).2 hnone hview
    | .ok _, l₁, ⟨⟨hnone, hview⟩, _⟩ => ?_
  refine ends_bind.mpr <| ends_exchange_of (fun hlost => ?_) fun received hdone => ?_
  · exact .lost hview hlost rfl (hnone.trans (.noting _ _))
  · refine (hf received _).mono ?_
    rintro _ l₂ ⟨a, rfl, hworld, hfits⟩
    refine .done hview hdone (congrArg Prod.fst hworld) ?_ hfits
    exact Link.Transferred.of_world (hnone.trans (.noting _ _)) hworld

theorem once_send (h : bus.wire.Steady view) {cmd data : List UInt8}
    (hroom : cmd.length + data.length ≤ maxTransfer) :
    (bus.recording.send cmd data).Ends l (bus.Once view (cmd ++ data) (fun _ _ => True) l) := by
  unfold send
  rw [if_neg (Nat.not_lt.mpr hroom)]
  exact once_exchange h fun _ _ => ⟨(), rfl, rfl, trivial⟩

theorem once_write (h : bus.wire.Steady view) {cmd : List UInt8}
    (hroom : cmd.length ≤ maxTransfer) :
    (bus.recording.write cmd).Ends l (bus.Once view cmd (fun _ _ => True) l) := by
  have hsend : (bus.recording.send cmd []).Ends l (bus.Once view (cmd ++ []) _ l) :=
    once_send h hroom
  rwa [List.append_nil] at hsend

theorem once_readSingleShot (h : bus.wire.Steady view) {cmd : List UInt8} {n : Nat}
    (hroom : cmd.length + n ≤ maxTransfer) :
    (bus.recording.readSingleShot cmd n).Ends l (bus.Once view (cmd ++ .replicate n 0)
      (fun answer received => answer.toList = received.drop cmd.length) l) := by
  unfold readSingleShot
  rw [if_neg (Nat.not_lt.mpr hroom)]
  refine once_exchange h fun received l => ⟨_, rfl, rfl, ?_⟩
  rw [Vector.toList_cast, Vector.toList_drop]

theorem once_readDirect (h : bus.wire.Steady view) (n : Nat) :
    (bus.recording.readDirect n).Ends l (bus.Once view (.replicate n 0)
      (fun answer received => answer.toList = received) l) :=
  once_exchange h fun _ _ => ⟨_, rfl, rfl, Vector.toList_cast _⟩

end Endpoint

end Transceiver.Bus
