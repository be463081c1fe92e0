import Transceiver.Bus.Transactor
import Transceiver.Proofs.Attribution
import Transceiver.Proofs.Avoidance
import Transceiver.Proofs.Bench

/-! The buffer that all transfers of a bus share. Whatever an earlier transfer left in it, a request
does to the link what the bus without the buffer does, so what is sent follows from the request
alone, and nothing but what came back reaches the caller. -/

namespace Transceiver.Bus

/-! ## The buffer -/

namespace Buffer

variable {buffer : Buffer}

theorem ofList?_of_le {bytes : List UInt8} (h : bytes.length ≤ maxTransfer) :
    ofList? bytes = some ⟨bytes, h⟩ := dif_pos h

theorem exists_extend? {more : List UInt8} (h : buffer.bytes.length + more.length ≤ maxTransfer) :
    ∃ longer, buffer.extend? more = some longer ∧ longer.bytes = buffer.bytes ++ more :=
  ⟨_, ofList?_of_le (by rwa [List.length_append]), rfl⟩

/-- A buffer that is made longer is filled up with zeros only. -/
theorem exists_resize? {n : Nat} (h : buffer.bytes.length + n ≤ maxTransfer) :
    ∃ longer, buffer.resize? (buffer.bytes.length + n) = some longer ∧
      longer.bytes = buffer.bytes ++ .replicate n 0 := by
  rw [resize?, List.take_of_length_le (Nat.le_add_right ..), Nat.add_sub_cancel_left]
  exact ⟨_, ofList?_of_le (by rwa [List.length_append, List.length_replicate]), rfl⟩

end Buffer

/-! ## With and without the memory -/

namespace Transactor

open Transceiver.Action

variable {σ α β γ δ : Type} {t : Transactor σ}

/-- From `t` on the step `x` with the memory goes as the step `y` on the link alone: it leaves the
same link and ends alike. What they return and the memory then satisfy `done`; if they fail, the
memory satisfies `failed`. -/
def Mirrors (x : Action (Transactor σ) α) (y : Action (Link σ) β) (t : Transactor σ)
    (done : α → β → Transactor σ → Prop) (failed : Transactor σ → Prop) : Prop :=
  match x.result t, y.result t.link with
  | (.ok a, t'), (.ok b, l) => t'.link = l ∧ done a b t'
  | (.error e, t'), (.error e', l) => t'.link = l ∧ e = e' ∧ failed t'
  | _, _ => False

section Mirrors
variable {x : Action (Transactor σ) α} {y : Action (Link σ) β} {done : α → β → Transactor σ → Prop}
  {failed : Transactor σ → Prop}

theorem Mirrors.bind {f : α → Action (Transactor σ) γ} {g : β → Action (Link σ) δ}
    {done' : γ → δ → Transactor σ → Prop} (h : Mirrors x y t done failed)
    (hf : ∀ a b t', done a b t' → Mirrors (f a) (g b) t' done' failed) :
    Mirrors (x >>= f) (y >>= g) t done' failed := by
  unfold Mirrors at h
  rcases hx : x.result t with ⟨e | a, t'⟩ <;> rcases hy : y.result t.link with ⟨e' | b, l⟩ <;>
    rw [hx, hy] at h
  · rw [Mirrors, result_bind_error hx, result_bind_error hy]
    exact h
  · exact h.elim
  · exact h.elim
  · obtain ⟨rfl, hdone⟩ := h
    rw [Mirrors, result_bind_ok hx, result_bind_ok hy]
    exact hf a b t' hdone

theorem Mirrors.mono {done' : α → β → Transactor σ → Prop} {failed' : Transactor σ → Prop}
    (h : Mirrors x y t done failed) (hdone : ∀ a b t', done a b t' → done' a b t')
    (hfailed : ∀ t', failed t' → failed' t') : Mirrors x y t done' failed' := by
  unfold Mirrors at h ⊢
  split at h
  · exact ⟨h.1, hdone _ _ _ h.2⟩
  · exact ⟨h.1, h.2.1, hfailed _ h.2.2⟩
  · exact h

/-- What is returned on the link may be put another way. -/
theorem Mirrors.returning {g : β → γ} {done' : α → γ → Transactor σ → Prop}
    (h : Mirrors x y t (fun a b => done' a (g b)) failed) :
    Mirrors x (do return g (← y)) t done' failed := by
  unfold Mirrors at h ⊢
  rw [result_bind]
  revert h
  rcases x.result t with ⟨e | a, t'⟩ <;> rcases y.result t.link with ⟨e' | b, l⟩ <;> exact id

/-- A step in the memory alone. -/
theorem Mirrors.after {t' : Transactor σ} {a : γ} {first : Action (Transactor σ) γ}
    {f : γ → Action (Transactor σ) α} (hfirst : first.result t = (.ok a, t'))
    (hlink : t'.link = t.link) (h : Mirrors (f a) y t' done failed) :
    Mirrors (first >>= f) y t done failed := by
  rw [Mirrors, result_bind_ok hfirst, ← hlink]
  exact h

/-- What both refuse under the same condition. -/
theorem Mirrors.guarded {c : Prop} {_ : Decidable c} {e : Fault}
    {f : Unit → Action (Transactor σ) α} {g : Unit → Action (Link σ) β} (hfailed : failed t)
    (h : ¬c → Mirrors (f ()) (g ()) t done failed) :
    Mirrors (if c then throw e >>= f else f ()) (if c then throw e >>= g else g ()) t done
      failed := by
  split
  · exact ⟨rfl, rfl, hfailed⟩
  · exact h ‹_›

/-- What holds on the link in the end, and of the memory. -/
theorem Mirrors.ends {P : Except Fault β → Link σ → Prop} {Q : Except Fault α → Transactor σ → Prop}
    (h : Mirrors x y t done failed) (hy : y.Ends t.link P)
    (hdone : ∀ a b t', P (.ok b) t'.link → done a b t' → Q (.ok a) t')
    (hfailed : ∀ e t', P (.error e) t'.link → failed t' → Q (.error e) t') : x.Ends t Q := by
  unfold Mirrors at h
  unfold Ends at hy ⊢
  revert h hy
  rcases x.result t with ⟨e | a, t'⟩ <;> rcases y.result t.link with ⟨e' | b, l⟩
  · rintro ⟨rfl, rfl, h⟩ hy
    exact hfailed _ _ hy h
  · exact False.elim
  · exact False.elim
  · rintro ⟨rfl, h⟩ hy
    exact hdone _ _ _ hy h

end Mirrors

variable {bytes out : List UInt8}

/-- A step on the link leaves the memory as it is. -/
theorem result_onLink (x : Action (Link σ) α) (t : Transactor σ) :
    (onLink x).result t = ((x.result t.link).1, { t with link := (x.result t.link).2 }) := by
  simp only [result, onLink, onPart]
  cases x t.link <;> rfl

theorem mirrors_onLink (x : Action (Link σ) α) (hout : t.out = out) :
    Mirrors (onLink x) x t (fun a b t' => a = b ∧ t'.out = out) (·.out = out) := by
  rw [Mirrors, result_onLink]
  rcases x.result t.link with ⟨e | a, l⟩
  · exact ⟨rfl, rfl, hout⟩
  · exact ⟨rfl, rfl, hout⟩

theorem result_edit {change : Buffer → Option Buffer} {scratch : Buffer}
    (h : change t.scratch = some scratch) :
    (edit change).result t = (.ok (), { t with scratch }) := by
  simp only [result, edit, h]

section Fill
variable {f : Unit → Action (Transactor σ) α} {y : Action (Link σ) β}
  {done : α → β → Transactor σ → Prop} {failed : Transactor σ → Prop}

theorem mirrors_clear
    (h : ∀ scratch : Buffer, scratch.bytes = [] → Mirrors (f ()) y { t with scratch } done failed) :
    Mirrors (clear >>= f) y t done failed := .after rfl rfl (h {} rfl)

theorem mirrors_extend {more : List UInt8} (hbytes : t.scratch.bytes = bytes)
    (hfits : bytes.length + more.length ≤ maxTransfer)
    (h : ∀ scratch : Buffer, scratch.bytes = bytes ++ more →
      Mirrors (f ()) y { t with scratch } done failed) :
    Mirrors (extend more >>= f) y t done failed := by
  subst hbytes
  obtain ⟨scratch, hextend, hbytes⟩ := Buffer.exists_extend? hfits
  exact .after (result_edit hextend) rfl (h scratch hbytes)

theorem mirrors_resize {n added : Nat} (hbytes : t.scratch.bytes = bytes)
    (hn : n = bytes.length + added) (hfits : n ≤ maxTransfer)
    (h : ∀ scratch : Buffer, scratch.bytes = bytes ++ .replicate added 0 →
      Mirrors (f ()) y { t with scratch } done failed) :
    Mirrors (resize n >>= f) y t done failed := by
  subst hbytes hn
  obtain ⟨scratch, hresize, hbytes⟩ := Buffer.exists_resize? hfits
  exact .after (result_edit hresize) rfl (h scratch hbytes)

end Fill

end Transactor

namespace InPlace

open Transceiver.Action Transactor

variable {σ : Type} {bus : InPlace σ} {t : Transactor σ} {sent out : List UInt8}

/-! ### Transfers in place -/

/-- In the place of the bytes sent is then what came back, or what a failed transfer left. -/
theorem result_replace (sent : List UInt8) (l : Link σ) :
    (bus.replace sent).result l = match (bus.exchange sent).result l with
      | (.ok received, l) => (.ok (.ok (), received), l)
      | (.error f, l) => (.ok (.error f, bus.residue sent l.world), l) := by
  rw [replace, result_bind, result_attempt]
  rcases (bus.exchange sent).result l with ⟨f | received, l⟩ <;> rfl

theorem mirrors_transferScratch (hsent : t.scratch.bytes = sent) (hout : t.out = out) :
    Mirrors bus.transferScratch (bus.exchange sent) t
      (fun _ received t' => t'.scratch.bytes = received.toList ∧ t'.out = out) (·.out = out) := by
  subst hsent hout
  have hget : (get : Action (Transactor σ) _).result t = (.ok t, t) := rfl
  rw [Mirrors, transferScratch, result_bind_ok hget, result_bind, result_onLink, result_replace]
  rcases (bus.exchange t.scratch.bytes).result t.link with ⟨f | received, l⟩
  · exact ⟨rfl, rfl, rfl⟩
  · exact ⟨rfl, rfl, rfl⟩

theorem mirrors_transferOut (hout : t.out = sent) :
    Mirrors bus.transferOut (bus.exchange sent) t (fun _ received t' => t'.out = received.toList)
      (·.out.length = sent.length) := by
  subst hout
  have hget : (get : Action (Transactor σ) _).result t = (.ok t, t) := rfl
  rw [Mirrors, transferOut, result_bind_ok hget, result_bind, result_onLink, result_replace]
  rcases (bus.exchange t.out).result t.link with ⟨f | received, l⟩
  · exact ⟨rfl, rfl, Vector.length_toList⟩
  · exact ⟨rfl, rfl⟩

theorem mirrors_record {received : List UInt8} (hreceived : t.scratch.bytes = received)
    (hout : t.out = out) (cmd : List UInt8) :
    Mirrors (bus.record cmd) (bus.toEndpoint.record cmd received) t
      (fun _ _ t' => t'.scratch.bytes = received ∧ t'.out = out) (·.out = out) := by
  subst hreceived hout
  exact ⟨rfl, rfl, rfl⟩

/-! ### Requests -/

theorem mirrors_send (cmd data : List UInt8) (hout : t.out = out) :
    Mirrors (bus.send cmd data) (bus.toEndpoint.send cmd data) t (fun _ _ t' => t'.out = out)
      (·.out = out) := by
  unfold send Endpoint.send
  refine .guarded hout fun hfits => .bind (mirrors_onLink _ hout) ?_
  rintro _ _ t₁ ⟨-, hout⟩
  refine mirrors_clear fun scratch hs => mirrors_extend hs ?_ fun scratch hs => ?_
  · rw [List.length_nil]
    omega
  refine mirrors_extend hs (Nat.le_of_not_lt hfits) fun scratch hs => ?_
  refine .bind (mirrors_transferScratch hs hout) ?_
  rintro _ received t₂ ⟨hreceived, hout⟩
  exact (mirrors_record hreceived hout cmd).mono (fun _ _ _ h => h.2) fun _ h => h

theorem mirrors_readSingleShot (cmd : List UInt8) (hout : t.out = out) :
    Mirrors (bus.readSingleShot cmd) (bus.toEndpoint.readSingleShot cmd out.length) t
      (fun _ answer t' => t'.out = answer.toList) (·.out = out) := by
  unfold readSingleShot Endpoint.readSingleShot
  refine .after rfl rfl ?_
  rw [hout]
  refine .guarded hout fun hfits => .bind (mirrors_onLink _ hout) ?_
  rintro _ _ t₁ ⟨-, hout⟩
  refine mirrors_clear fun scratch hs => mirrors_extend hs ?_ fun scratch hs => ?_
  · rw [List.length_nil]
    omega
  refine mirrors_resize hs rfl (Nat.le_of_not_lt hfits) fun scratch hs => ?_
  refine .bind (mirrors_transferScratch hs hout) ?_
  rintro _ received t₂ ⟨hreceived, hout⟩
  refine .bind (mirrors_record hreceived hout cmd) ?_
  rintro _ _ t₃ ⟨hreceived, -⟩
  refine ⟨rfl, ?_⟩
  show t₃.scratch.bytes.drop cmd.length = _
  rw [hreceived, Vector.toList_cast, Vector.toList_drop]

theorem mirrors_readTwoPhase (cmd : List UInt8) (hout : t.out = out) :
    Mirrors (bus.readTwoPhase cmd) (bus.toEndpoint.readTwoPhase cmd out.length) t
      (fun _ answer t' => t'.out = answer.toList) (·.out = out) := by
  unfold readTwoPhase Endpoint.readTwoPhase
  refine .after rfl rfl ?_
  rw [hout]
  refine .guarded hout fun hfits => .bind (mirrors_onLink _ hout) ?_
  rintro _ _ t₁ ⟨-, hout⟩
  refine mirrors_clear fun scratch hs => mirrors_extend hs ?_ fun scratch hs => ?_
  · rw [List.length_nil]
    omega
  refine .bind (mirrors_transferScratch hs hout) ?_
  rintro _ received t₂ ⟨hreceived, hout⟩
  refine .bind (mirrors_record hreceived hout cmd) ?_
  rintro _ _ t₃ ⟨-, hout⟩
  refine .bind (mirrors_onLink _ hout) ?_
  rintro _ _ t₄ ⟨-, hout⟩
  refine mirrors_clear fun scratch hs => ?_
  refine mirrors_resize hs (Nat.zero_add _).symm (by omega) fun scratch hs => ?_
  refine .bind (mirrors_transferScratch hs hout) ?_
  rintro _ answer t₅ ⟨hanswer, -⟩
  refine ⟨rfl, ?_⟩
  show t₅.scratch.bytes.drop 1 = _
  rw [hanswer, Vector.toList_cast, Vector.toList_drop]

theorem mirrors_readDirect (hout : t.out = out) :
    Mirrors bus.readDirect (bus.toEndpoint.readDirect out.length) t
      (fun _ answer t' => t'.out = answer.toList) (·.out.length = out.length) := by
  refine .bind ((mirrors_onLink _ hout).mono (fun _ _ _ h => h) fun _ => congrArg List.length) ?_
  rintro _ _ t₁ ⟨-, rfl⟩
  refine .after rfl rfl <| .returning ?_
  refine .mono (mirrors_transferOut rfl) ?_ fun _ h => h.trans (List.length_replicate ..)
  rintro _ received t' hreceived
  rw [hreceived, Vector.toList_cast]

end InPlace

/-! ## Requests -/

/-- What the host asks of a bus with a command, or for an answer without one. -/
inductive Request where
  /-- Send a command with its data. It may put the chip to sleep. -/
  | write (cmd data : List UInt8) (sleeps : Bool)
  | read (cmd : List UInt8)
  | readDirect
  deriving DecidableEq

namespace Request

open Transceiver.Action Transactor

/-- Do what is asked, with what the memory holds. -/
def perform {σ : Type} (bus : InPlace σ) : Request → Action (Transactor σ) Unit
  | write cmd data sleeps => bus.write cmd data sleeps
  | read cmd => bus.read cmd
  | readDirect => bus.readDirect

/-- Do what is asked without the memory, and return the answer of `n` bytes if there is one. -/
def unbuffered {σ : Type} (bus : Endpoint σ) (n : Nat) :
    Request → Action (Link σ) (Option (Answer n))
  | write cmd data sleeps => do
    bus.send cmd data
    if sleeps then modify ({ · with sleeping := true })
    return none
  | read cmd => return some (← bus.read cmd n)
  | readDirect => return some (← bus.readDirect n)

variable {σ : Type}

/-- A request does to the link what it does without the memory, whatever is in the buffer. The
caller's memory then holds the answer. If the request fails it is as before, unless it was to be
read into directly. -/
theorem mirrors_perform (bus : InPlace σ) (request : Request) (t : Transactor σ) :
    Mirrors (request.perform bus) (request.unbuffered bus.toEndpoint t.out.length) t
      (fun _ answer t' => t'.out = answer.elim t.out Vector.toList)
      fun t' => t'.out.length = t.out.length ∧ (request ≠ readDirect → t'.out = t.out) := by
  cases request with
  | write cmd data sleeps =>
    refine .bind (.mono (InPlace.mirrors_send cmd data rfl) (fun _ _ _ h => h) fun _ h =>
      ⟨congrArg List.length h, fun _ => h⟩) fun _ _ t' hout => ?_
    cases sleeps <;> exact ⟨rfl, hout⟩
  | read cmd =>
    refine .returning <| .mono ?_ (fun _ _ _ h => h) fun _ h => ⟨congrArg List.length h, fun _ => h⟩
    unfold perform InPlace.read Endpoint.read
    cases bus.handshake.protocol with
    | singleShot => exact InPlace.mirrors_readSingleShot cmd rfl
    | twoPhase => exact InPlace.mirrors_readTwoPhase cmd rfl
  | readDirect =>
    refine .returning <| .mono (InPlace.mirrors_readDirect rfl) (fun _ _ _ h => h) fun _ h => ?_
    exact ⟨h, nofun⟩

end Request

/-! ## Frames -/

/-- The bytes of a transfer, and what came back if it got through. -/
abbrev Transfer := List UInt8 × Option (List UInt8)

def Signal.transfer? : Signal → Option Transfer
  | .transfer sent received => some (sent, received)
  | _ => none

/-- From the first link to the second these transfers were made. -/
def Link.Transferred {σ : Type} (l l' : Link (σ × List Signal)) (ts : List Transfer) : Prop :=
  ∃ xs, l'.signals = l.signals ++ xs ∧ xs.filterMap Signal.transfer? = ts

/-- The transfers `ts` send the frames one after another, up to the one at which the outcome is
settled. What is returned once all of them got through fits what came back with the last; `last` is
what came back before. -/
inductive Sends {α : Type} (fits : α → List UInt8 → Prop) :
    List (List UInt8) → List UInt8 → Except Fault α → List Transfer → Prop
  /-- The chip did not get ready for the next frame. -/
  | stopped (frames : List (List UInt8)) (last : List UInt8) (e : Fault) :
    Sends fits frames last (.error e) []
  | lost (frame : List UInt8) (frames : List (List UInt8)) (last : List UInt8) :
    Sends fits (frame :: frames) last (.error .io) [(frame, none)]
  | next {frame received last : List UInt8} {frames : List (List UInt8)} {r : Except Fault α}
    {ts : List Transfer} : received.length = frame.length → Sends fits frames received r ts →
      Sends fits (frame :: frames) last r ((frame, some received) :: ts)
  | done {last : List UInt8} {a : α} : fits a last → Sends fits [] last (.ok a) []

namespace Sends

variable {α β : Type} {fits : α → List UInt8 → Prop} {frames : List (List UInt8)}
  {last : List UInt8} {r : Except Fault α} {ts : List Transfer}

theorem map {fits' : β → List UInt8 → Prop} (g : α → β)
    (hg : ∀ a last, fits a last → fits' (g a) last) (h : Sends fits frames last r ts) :
    Sends fits' frames last (r.map g) ts := by
  induction h with
  | stopped => exact .stopped ..
  | lost => exact .lost ..
  | next hlength _ ih => exact .next hlength ih
  | done hfits => exact .done (hg _ _ hfits)

/-- What is sent are the frames, from the first on. -/
theorem sent (h : Sends fits frames last r ts) : ts.map Prod.fst <+: frames := by
  induction h with
  | stopped => exact List.nil_prefix
  | lost => exact (List.prefix_cons_inj _).mpr List.nil_prefix
  | next _ _ ih => exact (List.prefix_cons_inj _).mpr ih
  | done => exact List.nil_prefix

theorem broken (h : Sends fits frames last r ts) {frame : List UInt8} (hts : (frame, none) ∈ ts) :
    r = .error .io := by
  induction h with
  | stopped => cases hts
  | lost => rfl
  | next _ _ ih => exact ih (by simpa using hts)
  | done => cases hts

/-- Whatever comes before the last transfer got through. -/
theorem through (h : Sends fits frames last r ts) {t : Transfer} (ht : t ∈ ts.dropLast) :
    t.2.isSome = true := by
  induction h with
  | stopped => cases ht
  | lost => cases ht
  | @next _ _ _ _ _ ts _ _ ih =>
    cases ts with
    | nil => cases ht
    | cons t' ts =>
      obtain rfl | ht := List.mem_cons.mp ht
      · rfl
      · exact ih ht
  | done => cases ht

theorem whole (h : Sends fits frames last r ts) (hr : r.isOk = true) :
    ts.map Prod.fst = frames := by
  induction h with
  | stopped | lost => cases hr
  | next _ _ ih => rw [List.map_cons, ih hr]
  | done => rfl

/-- What is returned fits the answer to the last frame. -/
theorem answer (h : Sends fits frames last r ts) {a : α} (hr : r = .ok a) :
    ts = [] ∧ fits a last ∨ ∃ frame received, ts.getLast? = some (frame, some received) ∧
      received.length = frame.length ∧ fits a received := by
  induction h with
  | stopped | lost => cases hr
  | @next frame received _ _ _ _ hlength _ ih =>
    rw [List.getLast?_cons]
    obtain ⟨rfl, hfits⟩ | ⟨frame', received', hlast, hlength', hfits⟩ := ih hr
    · exact .inr ⟨frame, received, rfl, hlength, hfits⟩
    · rw [hlast]
      exact .inr ⟨frame', received', rfl, hlength', hfits⟩
  | done hfits =>
    cases hr
    exact .inl ⟨rfl, hfits⟩

end Sends

namespace Link.Transferred

variable {σ : Type} {l l₁ l₂ : Link (σ × List Signal)} {ts us : List Transfer}

theorem refl (l : Link (σ × List Signal)) : l.Transferred l [] :=
  ⟨[], (List.append_nil _).symm, rfl⟩

theorem trans (h : l.Transferred l₁ ts) (h' : l₁.Transferred l₂ us) :
    l.Transferred l₂ (ts ++ us) := by
  obtain ⟨xs, hxs, rfl⟩ := h
  obtain ⟨ys, hys, rfl⟩ := h'
  exact ⟨xs ++ ys, by rw [hys, hxs, List.append_assoc], List.filterMap_append⟩

theorem noting (w : σ) (x : Signal) : l.Transferred (l.noting w x) x.transfer?.toList := by
  refine ⟨[x], rfl, ?_⟩
  cases hx : x.transfer? <;> simp [hx]

end Link.Transferred

namespace Endpoint

open Transceiver.Action Link

variable {σ α : Type} {bus : Endpoint σ} {l : Link (σ × List Signal)}

/-- From the link `l` on the step sends the frames, and what it returns fits the last answer. -/
def Frames (fits : α → List UInt8 → Prop) (frames : List (List UInt8)) (last : List UInt8)
    (l : Link (σ × List Signal)) (x : Action (Link (σ × List Signal)) α) : Prop :=
  x.Ends l fun r l' => ∃ ts, l.Transferred l' ts ∧ Sends fits frames last r ts

/-- Nothing is transferred while the chip is waited for. -/
theorem transferred_polls (l₁ : Link (σ × List Signal)) (w : σ) (x : Signal) (hx : x.polls = true)
    (h : l.Transferred l₁ []) : l.Transferred (l₁.noting w x) [] := by
  have hnone : x.transfer? = none := by cases x <;> first | rfl | cases hx
  have hthen := h.trans (.noting w x)
  rwa [hnone] at hthen

theorem transferred_awaitReady (budget : Nat) :
    (bus.recording.awaitReady budget).Keeps (l.Transferred · []) :=
  polls_awaitReady transferred_polls budget

theorem transferred_prepare : bus.recording.prepare.Keeps (l.Transferred · []) :=
  polls_prepare transferred_polls fun _ w ns done _ h => h.trans (.noting w (.hold ns done))

section Frames
variable {fits : α → List UInt8 → Prop} {frame last : List UInt8} {frames : List (List UInt8)}

/-- The next frame is sent once the chip is ready. -/
theorem frames_cons {wait : Action (Link (σ × List Signal)) Unit}
    {f : Vector UInt8 frame.length → Action (Link (σ × List Signal)) α}
    (hwait : wait.Keeps (l.Transferred · []))
    (hf : ∀ received l', Frames fits frames received.toList l' (f received)) :
    Frames fits (frame :: frames) last l
      (wait >>= fun _ => bus.recording.exchange frame >>= f) := by
  refine ends_bind.mpr <| (hwait l (.refl l)).mono fun
    | .error e, l₁, h => ⟨[], h, .stopped _ _ e⟩
    | .ok _, l₁, h => ?_
  refine ends_bind.mpr <| ends_exchange (fun w => ?_) fun received w => ?_
  · exact ⟨_, h.trans (.noting w _), .lost ..⟩
  · refine (hf received _).mono fun r l' ⟨ts, hts, hsends⟩ => ?_
    exact ⟨_, (h.trans (.noting w _)).trans hts, .next Vector.length_toList hsends⟩

theorem frames_pure {a : α} (h : fits a last) : Frames fits [] last l (pure a) :=
  ⟨[], .refl l, .done h⟩

/-- To record the status sends nothing. -/
theorem frames_record {cmd received : List UInt8} {f : Unit → Action (Link (σ × List Signal)) α}
    (h : ∀ l', Frames fits frames last l' (f ())) :
    Frames fits frames last l (bus.recording.record cmd received >>= f) := h _

/-- What is returned may be put another way. -/
theorem Frames.returning {β : Type} {fits' : β → List UInt8 → Prop} {g : α → β}
    {x : Action (Link (σ × List Signal)) α} (h : Frames fits frames last l x)
    (hg : ∀ a received, fits a received → fits' (g a) received) :
    Frames fits' frames last l (do return g (← x)) :=
  ends_bind.mpr <| Ends.mono h fun
    | .ok _, _, ⟨ts, hts, hsends⟩ => ⟨ts, hts, hsends.map g hg⟩
    | .error _, _, ⟨ts, hts, hsends⟩ => ⟨ts, hts, hsends.map g hg⟩

/-- What is refused sends nothing. -/
theorem frames_guarded {c : Prop} {_ : Decidable c} {e : Fault}
    {f : Unit → Action (Link (σ × List Signal)) α} (h : ¬c → Frames fits frames last l (f ())) :
    Frames fits frames last l (if c then throw e >>= f else f ()) := by
  split
  · exact ⟨[], .refl l, .stopped ..⟩
  · exact h ‹_›

end Frames

theorem frames_send (cmd data : List UInt8) :
    Frames (fun _ _ => True) [cmd ++ data] [] l (bus.recording.send cmd data) := by
  unfold send
  refine frames_guarded fun _ => frames_cons transferred_prepare fun _ l' => ?_
  exact ⟨[], .refl l', .done trivial⟩

theorem frames_readSingleShot (cmd : List UInt8) (n : Nat) :
    Frames (fun answer received => answer.toList = received.drop cmd.length)
      [cmd ++ .replicate n 0] [] l (bus.recording.readSingleShot cmd n) := by
  unfold readSingleShot
  refine frames_guarded fun _ => frames_cons transferred_prepare fun received _ => ?_
  refine frames_record fun _ => frames_pure ?_
  rw [Vector.toList_cast, Vector.toList_drop]

theorem frames_readTwoPhase (cmd : List UInt8) (n : Nat) :
    Frames (fun answer received => answer.toList = received.drop 1) [cmd, .replicate (n + 1) 0] [] l
      (bus.recording.readTwoPhase cmd n) := by
  unfold readTwoPhase
  refine frames_guarded fun _ => frames_cons transferred_prepare fun _ _ => ?_
  refine frames_record fun _ => frames_cons (transferred_awaitReady _) fun answer _ => ?_
  refine frames_pure ?_
  rw [Vector.toList_cast, Vector.toList_drop]

theorem frames_readDirect (n : Nat) :
    Frames (fun answer received => answer.toList = received) [.replicate n 0] [] l
      (bus.recording.readDirect n) :=
  frames_cons transferred_prepare fun _ _ => frames_pure (Vector.toList_cast _)

end Endpoint

/-- The bus, with all that passes over its wires written to a list. -/
def InPlace.recording {σ : Type} (bus : InPlace σ) : InPlace (σ × List Signal) where
  toEndpoint := bus.toEndpoint.recording
  residue sent w := bus.residue sent w.1

namespace Request

open Transceiver.Action Transactor

/-- What a request sends for an answer of `n` bytes, transfer by transfer. -/
def frames (protocol : Protocol) (n : Nat) : Request → List (List UInt8)
  | write cmd data _ => [cmd ++ data]
  | read cmd => match protocol with
    | .singleShot => [cmd ++ .replicate n 0]
    | .twoPhase => [cmd, .replicate (n + 1) 0]
  | readDirect => [.replicate n 0]

/-- What the caller gets of the bytes that came back with the last frame. -/
def answer? (protocol : Protocol) (received : List UInt8) : Request → Option (List UInt8)
  | write .. => none
  | read cmd => match protocol with
    | .singleShot => some (received.drop cmd.length)
    | .twoPhase => some (received.drop 1)
  | readDirect => some received

/-- A frame of the request has no room in the buffer. -/
def TooLong (protocol : Protocol) (n : Nat) : Request → Prop
  | write cmd data _ => 264 < cmd.length + data.length
  | read cmd => match protocol with
    | .singleShot => 264 < cmd.length + n
    | .twoPhase => 264 < cmd.length ∨ 263 < n
  | readDirect => False

/-- How a request goes by which the caller's memory `before` becomes `after`, with the outcome `r`
and the transfers `ts`. -/
structure Framed (protocol : Protocol) (request : Request) (before : List UInt8)
    (r : Except Fault Unit) (after : List UInt8) (ts : List Transfer) : Prop where
  /-- The bytes sent follow from the request. -/
  sent : ts.map Prod.fst <+: request.frames protocol before.length
  /-- Only the last transfer may fail. -/
  through : ∀ t ∈ ts.dropLast, t.2.isSome = true
  broken : ∀ frame, (frame, none) ∈ ts → r = .error .io
  whole : r.isOk = true → ts.map Prod.fst = request.frames protocol before.length
  answer : r.isOk = true → ∃ frame received, ts.getLast? = some (frame, some received) ∧
    received.length = frame.length ∧ after = (request.answer? protocol received).getD before
  kept : r.isOk = false → request ≠ readDirect → after = before
  length : after.length = before.length
  refused : r = .error .noMemory ↔ request.TooLong protocol before.length

variable {σ : Type} {bus : InPlace σ} {request : Request}

theorem ends_refused {α : Type} {c : Prop} {_ : Decidable c} {e : Fault} {f : Unit → Action σ α}
    {s : σ} (h : c) :
    Ends (if c then throw e >>= f else f ()) s fun r s' => r = .error e ∧ s' = s := by
  rw [if_pos h]
  exact ⟨rfl, rfl⟩

theorem frames_ne_nil (protocol : Protocol) (n : Nat) : request.frames protocol n ≠ [] := by
  cases request <;> cases protocol <;> exact nofun

/-- A request without room fails before anything else happens. -/
theorem ends_tooLong {t : Transactor σ}
    (h : request.TooLong bus.handshake.protocol t.out.length) :
    (request.perform bus).Ends t fun r t' => r = .error .noMemory ∧ t' = t := by
  cases request with
  | write cmd data sleeps =>
    have hsend : (bus.send cmd data).Ends t fun r t' => r = .error .noMemory ∧ t' = t := by
      unfold InPlace.send
      exact ends_refused h
    refine ends_bind.mpr <| hsend.mono fun
      | .error _, _, ⟨he, ht⟩ => ⟨congrArg _ (Except.error.inj he), ht⟩
      | .ok _, _, ⟨he, _⟩ => nomatch he
  | read cmd =>
    unfold perform InPlace.read
    cases hprotocol : bus.handshake.protocol with
    | singleShot =>
      rw [hprotocol] at h
      unfold InPlace.readSingleShot
      exact ends_bind.mpr <| ends_get.mpr <| ends_refused h
    | twoPhase =>
      rw [hprotocol] at h
      unfold InPlace.readTwoPhase
      exact ends_bind.mpr <| ends_get.mpr <| ends_refused (h.imp_right Nat.succ_lt_succ)
  | readDirect => exact h.elim

theorem avoids_unbuffered {bus : Endpoint σ} {n : Nat}
    (h : ¬request.TooLong bus.handshake.protocol n) :
    (request.unbuffered bus n).Avoids .noMemory := by
  cases request with
  | write cmd data sleeps =>
    refine (bus.avoids_send (Nat.le_of_not_lt h)).bind fun _ => ?_
    exact .optionally (.modify _) (.pure _)
  | read cmd =>
    refine .bind ?_ fun _ => .pure _
    unfold TooLong at h
    unfold Endpoint.read
    cases hprotocol : bus.handshake.protocol with
    | singleShot =>
      rw [hprotocol] at h
      exact bus.avoids_readSingleShot (Nat.le_of_not_lt h)
    | twoPhase =>
      rw [hprotocol] at h
      obtain ⟨hcmd, hn⟩ := not_or.mp h
      exact bus.avoids_readTwoPhase (Nat.le_of_not_lt hcmd) (Nat.succ_le_succ (Nat.le_of_not_lt hn))
  | readDirect => exact (bus.avoids_readDirect n).bind fun _ => .pure _

theorem frames_unbuffered (bus : Endpoint σ) (request : Request) (n : Nat)
    (l : Link (σ × List Signal)) :
    Endpoint.Frames
      (fun answer received =>
        answer.map Vector.toList = request.answer? bus.handshake.protocol received)
      (request.frames bus.handshake.protocol n) [] l (request.unbuffered bus.recording n) := by
  cases request with
  | write cmd data sleeps =>
    refine ends_bind.mpr <| (Endpoint.frames_send cmd data).mono fun r l' ⟨ts, hts, hsends⟩ => ?_
    cases r with
    | error e => exact ⟨ts, hts, hsends.map (fun _ => none) fun _ _ _ => rfl⟩
    | ok => cases sleeps <;> exact ⟨ts, hts, hsends.map (fun _ => none) fun _ _ _ => rfl⟩
  | read cmd =>
    have hsame : bus.recording.handshake.protocol = bus.handshake.protocol := rfl
    simp only [unbuffered, Endpoint.read, hsame]
    cases bus.handshake.protocol with
    | singleShot =>
      exact (Endpoint.frames_readSingleShot cmd n).returning fun _ _ h => congrArg some h
    | twoPhase =>
      exact (Endpoint.frames_readTwoPhase cmd n).returning fun _ _ h => congrArg some h
  | readDirect =>
    exact (Endpoint.frames_readDirect n).returning fun _ _ h => congrArg some h

/-- Without room nothing happens, and it fails for want of room only then. -/
theorem refused_perform (bus : InPlace σ) (request : Request) (t : Transactor σ) :
    (request.perform bus).Ends t fun r t' =>
      (r = .error .noMemory ↔ request.TooLong bus.handshake.protocol t.out.length) ∧
        (r = .error .noMemory → t' = t) := by
  by_cases hlong : request.TooLong bus.handshake.protocol t.out.length
  · exact (ends_tooLong hlong).mono fun _ _ h => ⟨iff_of_true h.1 hlong, fun _ => h.2⟩
  · have havoids : (request.unbuffered bus.toEndpoint t.out.length).Ends t.link
        fun r _ => r ≠ .error .noMemory := avoids_unbuffered hlong t.link
    refine (mirrors_perform bus request t).ends havoids (fun _ _ _ _ _ => ?_) fun e t' h _ => ?_
    · exact ⟨iff_of_false nofun hlong, nofun⟩
    · have he : (.error e : Except Fault Unit) ≠ .error .noMemory := fun he =>
        h (congrArg _ (Except.error.inj he))
      exact ⟨iff_of_false he hlong, fun h => absurd h he⟩

theorem framed_perform (bus : InPlace σ) (request : Request) (t : Transactor (σ × List Signal)) :
    (request.perform bus.recording).Ends t fun r t' => ∃ ts, t.link.Transferred t'.link ts ∧
      request.Framed bus.handshake.protocol t.out r t'.out ts := by
  have hframes := frames_unbuffered bus.toEndpoint request t.out.length t.link
  have hended : (request.perform bus.recording).Ends t fun r t' => ∃ ts,
      t.link.Transferred t'.link ts ∧
        ((r = .error .noMemory ↔ request.TooLong bus.handshake.protocol t.out.length) →
          request.Framed bus.handshake.protocol t.out r t'.out ts) := by
    refine (mirrors_perform bus.recording request t).ends hframes ?_ ?_
    · rintro ⟨⟩ answer t' ⟨ts, hts, hsends⟩ hout
      have hwhole := hsends.whole rfl
      have hlength : t'.out.length = t.out.length := by
        rw [hout]
        cases answer with
        | none => rfl
        | some answer => exact answer.length_toList
      exact ⟨ts, hts, fun hrefused => {
        sent := hsends.sent
        through := fun t => hsends.through
        broken := fun frame h => nomatch hsends.broken h
        whole := fun _ => hwhole
        answer := fun _ => by
          obtain ⟨rfl, -⟩ | ⟨frame, received, hlast, hback, hfits⟩ := hsends.answer rfl
          · exact absurd hwhole.symm (frames_ne_nil _ _)
          · refine ⟨frame, received, hlast, hback, hout.trans ?_⟩
            rw [← hfits]
            cases answer <;> rfl
        kept := nofun
        length := hlength
        refused := hrefused }⟩
    · rintro e t' ⟨ts, hts, hsends⟩ ⟨hlength, hkept⟩
      refine ⟨ts, hts, fun hrefused => ?_⟩
      exact {
        sent := hsends.sent
        through := fun t => hsends.through
        broken := fun frame h => congrArg _ (Except.error.inj (hsends.broken h))
        whole := nofun
        answer := nofun
        kept := fun _ => hkept
        length := hlength
        refused := hrefused }
  exact (hended.and (refused_perform bus.recording request t)).mono
    fun r t' ⟨⟨ts, hts, hframed⟩, hrefused, _⟩ => ⟨ts, hts, hframed hrefused⟩

/-- **Framing without history**, for any request. Whatever the buffer holds, and whatever was sent,
received or failed before, the request does to the link what it does there without the buffer. What
it sends are its own frames, up to the transfer at which it fails; a success returns what came back
after the command or the status byte, and a failing read leaves the caller's memory as it is. It is
refused for want of room, with nothing done, exactly if it is too long. So on two buses of one
protocol, in any two states, it sends the same bytes as far as it gets on both. -/
theorem framing_free_of_history (request : Request) :
    (∀ (σ : Type) (bus : InPlace σ) (t : Transactor σ),
      Mirrors (request.perform bus) (request.unbuffered bus.toEndpoint t.out.length) t
        (fun _ answer t' => t'.out = answer.elim t.out Vector.toList)
        fun t' => t'.out.length = t.out.length ∧ (request ≠ readDirect → t'.out = t.out)) ∧
    (∀ (σ : Type) (bus : InPlace σ) (t : Transactor (σ × List Signal)),
      (request.perform bus.recording).Ends t fun r t' =>
        (∃ ts, t.link.Transferred t'.link ts ∧
          request.Framed bus.handshake.protocol t.out r t'.out ts) ∧
        (r = .error .noMemory → t' = t)) ∧
    ∀ (σ τ : Type) (bus : InPlace σ) (bus' : InPlace τ) (t : Transactor (σ × List Signal))
      (u : Transactor (τ × List Signal)), bus'.handshake.protocol = bus.handshake.protocol →
      u.out.length = t.out.length →
        (request.perform bus.recording).Ends t fun r t' =>
          (request.perform bus'.recording).Ends u fun s u' =>
            ∃ ts us, t.link.Transferred t'.link ts ∧ u.link.Transferred u'.link us ∧
              (ts.map Prod.fst <+: us.map Prod.fst ∨ us.map Prod.fst <+: ts.map Prod.fst) ∧
              (r.isOk = true → s.isOk = true → ts.map Prod.fst = us.map Prod.fst) ∧
              (r = .error .noMemory ↔ s = .error .noMemory) := by
  refine ⟨fun σ bus t => mirrors_perform bus request t, fun σ bus t => ?_,
    fun σ τ bus bus' t u hprotocol hlength => ?_⟩
  · exact ((framed_perform bus request t).and (refused_perform bus.recording request t)).mono
      fun r t' h => ⟨h.1, h.2.2⟩
  · refine (framed_perform bus request t).mono fun r t' ⟨ts, hts, h⟩ => ?_
    refine (framed_perform bus' request u).mono fun s u' ⟨us, hus, h'⟩ => ?_
    have hsame : request.frames bus'.handshake.protocol u.out.length =
        request.frames bus.handshake.protocol t.out.length := by rw [hprotocol, hlength]
    refine ⟨ts, us, hts, hus, List.prefix_or_prefix_of_prefix h.sent (hsame ▸ h'.sent),
      fun hr hs => ?_, ?_⟩
    · rw [h.whole hr, h'.whole hs, hsame]
    · rw [h.refused, h'.refused, hprotocol, hlength]

end Request

end Transceiver.Bus

namespace Transceiver.Bench

open Bus Transceiver.Action

/-- A bus on the bench, with memory in which a failed transfer leaves ones. -/
def inPlace (protocol : Protocol) : InPlace Unit where
  toEndpoint := bus protocol
  residue sent _ := .replicate sent.length 0xFF

/-- A transactor whose buffer holds what an earlier transfer left. -/
def transactor (scratch : Buffer) : Transactor (Unit × List Signal) where
  link := { world := ((), []) }
  scratch := scratch
  out := [0xAA, 0xBB]

/-- A register is read with a buffer in which a longer answer is left, and with an empty one. Both
reads get through, send the same, and fill the caller's memory. -/
theorem frames_of_left_over_buffer :
    ((Request.read [0x1D, 0x07]).perform (inPlace .singleShot).recording).Ends
      (transactor { bytes := [0xA2, 0x12, 0x34, 0x56, 0x78] }) fun r t' =>
        ((Request.read [0x1D, 0x07]).perform (inPlace .singleShot).recording).Ends (transactor {})
          fun s u' => t'.out = [0, 0] ∧ u'.out = [0, 0] ∧ r.isOk = true ∧ s.isOk = true ∧
            ∃ ts us,
              (transactor { bytes := [0xA2, 0x12, 0x34, 0x56, 0x78] }).link.Transferred t'.link ts ∧
              (transactor {}).link.Transferred u'.link us ∧ ts.map Prod.fst = us.map Prod.fst := by
  have h := (Request.framing_free_of_history (.read [0x1D, 0x07])).2.2 Unit Unit
    (inPlace .singleShot) (inPlace .singleShot)
    (transactor { bytes := [0xA2, 0x12, 0x34, 0x56, 0x78] }) (transactor {}) rfl rfl
  obtain ⟨ts, us, hts, hus, -, hsame, -⟩ := h
  exact ⟨rfl, rfl, rfl, rfl, ts, us, hts, hus, hsame rfl rfl⟩

end Transceiver.Bench
