import Transceiver.Fault

/-! Reasoning about steps that may fail: the result of a step as a pair, the weakest condition
under which a step ends as wanted (`Action.Ends`), facts that a step keeps whatever its outcome
(`Action.Keeps`), and those that it keeps if it fails (`Action.Spares`). -/

namespace Transceiver.Action

variable {σ α β : Type}

/-- The outcome of a step, and the surroundings it leaves. -/
def result (x : Action σ α) (s : σ) : Except Fault α × σ :=
  match x s with
  | .ok a s => (.ok a, s)
  | .error e s => (.error e, s)

@[simp] theorem result_pure (a : α) (s : σ) : result (pure a) s = (.ok a, s) := rfl

@[simp] theorem result_throw (e : Fault) (s : σ) :
    result (throw e : Action σ α) s = (.error e, s) := rfl

theorem result_bind (x : Action σ α) (f : α → Action σ β) (s : σ) :
    (x >>= f).result s = match x.result s with
      | (.ok a, s) => (f a).result s
      | (.error e, s) => (.error e, s) := by
  simp only [result, bind, EStateM.bind]
  cases x s <;> rfl

theorem result_bind_ok {x : Action σ α} {f : α → Action σ β} {s s' : σ} {a : α}
    (h : x.result s = (.ok a, s')) : (x >>= f).result s = (f a).result s' := by
  rw [result_bind, h]

theorem result_bind_error {x : Action σ α} {f : α → Action σ β} {s s' : σ} {e : Fault}
    (h : x.result s = (.error e, s')) : (x >>= f).result s = (.error e, s') := by
  rw [result_bind, h]

/-- Two steps that begin alike end alike, if they do so from there on where the first succeeds. -/
theorem result_bind_congr {x : Action σ α} {f g : α → Action σ β} {s : σ} {b : β}
    (h : ∀ a s, ((f a).result s).1 = .ok b → (g a).result s = (f a).result s)
    (hok : ((x >>= f).result s).1 = .ok b) : (x >>= g).result s = (x >>= f).result s := by
  rw [result_bind] at hok ⊢
  rw [result_bind]
  generalize x.result s = ended at hok ⊢
  obtain ⟨e | a, s'⟩ := ended
  · rfl
  · exact h a s' hok

@[simp] theorem result_attempt (x : Action σ α) (s : σ) :
    x.attempt.result s = (.ok (x.result s).1, (x.result s).2) := by
  simp only [result, attempt]
  cases x s <;> rfl

@[simp] theorem result_reporting (f : Fault) (x : Action σ α) (s : σ) :
    (reporting f x).result s = ((x.result s).1.mapError fun _ => f, (x.result s).2) := by
  simp only [result, reporting]
  cases x s <;> rfl

@[simp] theorem result_settle (r : Except Fault α) (s : σ) : (settle r).result s = (r, s) := by
  cases r <;> rfl

/-! ## How a step ends -/

/-- The step `x`, taken in `s`, ends with an outcome and surroundings that satisfy `Q`. -/
def Ends (x : Action σ α) (s : σ) (Q : Except Fault α → σ → Prop) : Prop :=
  Q (x.result s).1 (x.result s).2

section Ends
variable {x : Action σ α} {s : σ} {Q : Except Fault α → σ → Prop}

theorem Ends.mono {Q' : Except Fault α → σ → Prop} (h : x.Ends s Q)
    (hQ : ∀ r s, Q r s → Q' r s) : x.Ends s Q' := hQ _ _ h

theorem Ends.and {Q' : Except Fault α → σ → Prop} (h : x.Ends s Q) (h' : x.Ends s Q') :
    x.Ends s fun r s => Q r s ∧ Q' r s := ⟨h, h'⟩

theorem ends_pure {a : α} : Ends (pure a) s Q ↔ Q (.ok a) s := .rfl

theorem ends_throw {e : Fault} : Ends (throw e) s Q ↔ Q (.error e) s := .rfl

theorem ends_get {Q : Except Fault σ → σ → Prop} : Ends get s Q ↔ Q (.ok s) s := .rfl

theorem ends_modify {f : σ → σ} {Q : Except Fault Unit → σ → Prop} :
    Ends (modify f) s Q ↔ Q (.ok ()) (f s) := .rfl

theorem ends_bind {f : α → Action σ β} {Q : Except Fault β → σ → Prop} :
    Ends (x >>= f) s Q ↔ x.Ends s fun r s => match r with
      | .ok a => (f a).Ends s Q
      | .error e => Q (.error e) s := by
  simp only [Ends, result_bind]
  rcases x.result s with ⟨_ | _, _⟩ <;> rfl

theorem ends_ite {c : Prop} [Decidable c] {y : Action σ α} :
    Ends (if c then x else y) s Q ↔ if c then x.Ends s Q else y.Ends s Q := by
  split <;> rfl

theorem ends_attempt {Q : Except Fault (Except Fault α) → σ → Prop} :
    x.attempt.Ends s Q ↔ x.Ends s fun r => Q (.ok r) := by
  simp only [Ends, result_attempt]

theorem ends_reporting {f : Fault} :
    (reporting f x).Ends s Q ↔ x.Ends s fun r => Q (r.mapError fun _ => f) := by
  simp only [Ends, result_reporting]

theorem ends_settle {r : Except Fault α} : (settle r).Ends s Q ↔ Q r s := by
  simp only [Ends, result_settle]

theorem ends_discard {Q : Except Fault Unit → σ → Prop} :
    Ends (discard x) s Q ↔ x.Ends s fun r => Q (r.map fun _ => ()) := by
  simp only [Ends, result, discard, Functor.mapConst, Function.comp, EStateM.map]
  cases x s <;> rfl

end Ends

/-- A step that does not fail. -/
theorem exists_result_ok {x : Action σ α} {s : σ} (h : x.Ends s fun r _ => r.isOk = true) :
    ∃ a s', x.result s = (.ok a, s') := by
  unfold Ends at h
  rcases hx : x.result s with ⟨e | a, s'⟩
  · rw [hx] at h
    cases h
  · exact ⟨a, s', rfl⟩

/-- What holds after a success needs to hold of the last step only. -/
theorem ends_bind_isOk {f : α → Action σ β} {x : Action σ α} {s : σ} {P : σ → Prop}
    (hf : ∀ a s, (f a).Ends s fun r s => r.isOk = true → P s) :
    (x >>= f).Ends s fun r s => r.isOk = true → P s := by
  refine ends_bind.mpr ?_
  unfold Ends
  rcases x.result s with ⟨e | a, s⟩
  · exact nofun
  · exact hf a s

/-- Two steps that begin alike end alike if they do so from there on. -/
theorem ends_bind_alike {γ : Type} (x : Action σ α) {f : α → Action σ β} {g : α → Action σ γ} {s : σ}
    {Q : σ → σ → Prop} (hsame : ∀ s, Q s s)
    (h : ∀ a s, (f a).Ends s fun _ s' => Q s' ((g a).result s).2) :
    (x >>= f).Ends s fun _ s' => Q s' ((x >>= g).result s).2 := by
  refine ends_bind.mpr ?_
  rw [result_bind]
  unfold Ends
  rcases x.result s with ⟨e | a, s⟩
  · exact hsame s
  · exact h a s

/-! ## What a step keeps -/

/-- The step `x` keeps `P`, whether it succeeds or fails. -/
def Keeps (P : σ → Prop) (x : Action σ α) : Prop := ∀ s, P s → x.Ends s fun _ => P

namespace Keeps
variable {P : σ → Prop} {x : Action σ α}

protected theorem pure (a : α) : Keeps P (pure a) := fun _ h => h

protected theorem throw (e : Fault) : Keeps P (throw e : Action σ α) := fun _ h => h

protected theorem settle (r : Except Fault α) : Keeps P (settle r) := fun _ h =>
  ends_settle.mpr h

/-- What a step ends in, and the next step keeps. -/
theorem after {f : α → Action σ β} {s : σ} (hx : x.Ends s fun _ => P) (hf : ∀ a, (f a).Keeps P) :
    (x >>= f).Ends s fun _ => P := ends_bind.mpr <| hx.mono fun
  | .ok a, s, h => hf a s h
  | .error _, _, h => h

protected theorem bind {f : α → Action σ β} (hx : x.Keeps P) (hf : ∀ a, (f a).Keeps P) :
    (x >>= f).Keeps P := fun s hs => after (hx s hs) hf

protected theorem ite {c : Prop} {_ : Decidable c} {y : Action σ α} (hx : c → x.Keeps P)
    (hy : ¬c → y.Keeps P) : (if c then x else y).Keeps P := by
  split <;> rename_i h
  · exact hx h
  · exact hy h

/-- A step that is taken under a condition, before a step that is taken either way. -/
protected theorem optionally {c : Prop} {_ : Decidable c} {x : Action σ Unit}
    {f : Unit → Action σ β} (hx : c → x.Keeps P) (hf : (f ()).Keeps P) :
    (if c then x >>= f else f ()).Keeps P :=
  .ite (fun h => (hx h).bind fun _ => hf) fun _ => hf

/-- A step that is left out under a condition, before a step that is taken either way. -/
protected theorem unlessThen {c : Prop} {_ : Decidable c} {x : Action σ Unit}
    {f : Unit → Action σ β} (hx : ¬c → x.Keeps P) (hf : (f ()).Keeps P) :
    (if c then f () else x >>= f).Keeps P :=
  .ite (fun _ => hf) fun h => (hx h).bind fun _ => hf

/-- A branch whose first case goes on as the second does. -/
protected theorem iteRest {c : Prop} {_ : Decidable c} {y : Action σ α} (hy : y.Keeps P)
    (hx : y.Keeps P → x.Keeps P) : (if c then x else y).Keeps P :=
  .ite (fun _ => hx hy) fun _ => hy

protected theorem attempt (hx : x.Keeps P) : x.attempt.Keeps P := fun s hs =>
  ends_attempt.mpr (hx s hs)

protected theorem reporting (hx : x.Keeps P) (f : Fault) : (reporting f x).Keeps P :=
  fun s hs => ends_reporting.mpr (hx s hs)

protected theorem discard (hx : x.Keeps P) : Keeps P (discard x) := fun s hs =>
  ends_discard.mpr (hx s hs)

end Keeps

/-! ## What a failure keeps -/

/-- The step `x` keeps `P` if it fails. -/
def Spares (P : σ → Prop) (x : Action σ α) : Prop :=
  ∀ s, P s → x.Ends s fun r s' => r.isOk = true ∨ P s'

namespace Spares
variable {P : σ → Prop} {x y : Action σ α}

theorem of_keeps (h : x.Keeps P) : x.Spares P := fun s hs => (h s hs).mono fun _ _ => .inr

theorem of_isOk (h : ∀ s, x.Ends s fun r _ => r.isOk = true) : x.Spares P := fun s _ =>
  (h s).mono fun _ _ => .inl

/-- What the first step keeps in any case, and the next step if it fails. -/
theorem after {f : α → Action σ β} (hx : x.Keeps P) (hf : ∀ a, (f a).Spares P) :
    (x >>= f).Spares P := fun s hs => ends_bind.mpr <| (hx s hs).mono fun r s' hs' => by
  cases r with
  | error e => exact .inr hs'
  | ok a => exact hf a s' hs'

theorem ite {c : Prop} {_ : Decidable c} (hx : x.Spares P) (hy : y.Spares P) :
    (if c then x else y).Spares P := by
  split
  · exact hx
  · exact hy

end Spares

end Transceiver.Action
