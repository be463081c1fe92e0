import Transceiver.Proofs.Passage

/-! Which command a failure is put down to. The status that comes back with a command tells about
the command before it, so the bus is seen here as the reports that came back: each with the command
it came with, and with what was done on the bus since the command before. -/

namespace Transceiver.Bus

/-- What a transfer brought, if it got through. -/
def Signal.received? : Signal → Option (List UInt8)
  | .transfer _ received => received
  | _ => none

def Call.command? : Call → Option (List UInt8)
  | .write cmd _ | .send cmd _ _ | .read cmd _ => some cmd
  | .readDirect _ | .wake | .abort => none

def Use.command? : Use → Option (List UInt8)
  | .call asked => asked.command?
  | .await _ => none

namespace Passage

/-- The first transfer of a passage, which is the one that carries the command. -/
def transfer? (p : Passage) : Option Signal := p.signals.find? Signal.isTransfer

/-- The command of a passage, if it got through, and what came back with it. -/
def exchange? (p : Passage) : Option (List UInt8 × List UInt8) := do
  let cmd ← p.use.command?
  let received ← p.transfer? >>= Signal.received?
  return (cmd, received)

/-- An abort that succeeded. -/
def aborts (p : Passage) : Bool :=
  match p.use, p.outcome with
  | .call .abort, .ok _ => true
  | _, _ => false

theorem aborts_of_command {p : Passage} {cmd : List UInt8} (h : p.use.command? = some cmd) :
    p.aborts = false := by
  obtain ⟨use, outcome, signals⟩ := p
  cases use with
  | await budget => rfl
  | call asked => cases asked <;> first | rfl | cases h

end Passage

/-- A command that got through, with the passages since the one before it. -/
structure Report where
  since : List Passage
  passage : Passage
  cmd : List UInt8
  /-- What came back with the command. -/
  received : List UInt8
  quiet : ∀ p ∈ since, p.exchange? = none
  told : passage.exchange? = some (cmd, received)

namespace Report

def passages (r : Report) : List Passage := r.since ++ [r.passage]

def status1 (r : Report) : UInt8 := r.received[0]?.getD 0

def status2 (r : Report) : UInt8 := r.received[1]?.getD 0

/-- The status acknowledges an abort that succeeded since the command before. -/
def excused (r : Report) : Bool := r.since.any Passage.aborts && isAbortAck r.status1

/-- What the first report tells about the command of the second is a failure. -/
def Faults (protocol : Protocol) (r before : Report) : Prop :=
  protocol.isFailure r.status1 = true ∧ protocol.opcode before.cmd ≠ 0 ∧ r.excused = false

end Report

section Attributed
variable {protocol : Protocol} {rs : List Report} {r : Report} {k : Nat} {op : UInt16}

/-- Report `k + 1` tells that the command of report `k` failed, and `op` is the opcode of that. -/
def Blames (protocol : Protocol) (rs : List Report) (k : Nat) (op : UInt16) : Prop :=
  ∃ before r, rs[k]? = some before ∧ rs[k + 1]? = some r ∧ r.Faults protocol before ∧
    op = protocol.opcode before.cmd

/-- The opcode on record as failed is that of the last command that a report tells the failure of,
and 0 if no report does. -/
def Attributed (protocol : Protocol) (rs : List Report) (op : UInt16) : Prop :=
  (∃ k, Blames protocol rs k op ∧ ∀ k' > k, ∀ op', ¬Blames protocol rs k' op') ∨
    op = 0 ∧ ∀ k op', ¬Blames protocol rs k op'

theorem Blames.lt (h : Blames protocol rs k op) : k + 1 < rs.length := by
  obtain ⟨-, r, -, hr, -⟩ := h
  exact (List.getElem?_eq_some_iff.mp hr).1

/-- Another report tells about the last command, and changes nothing about those before it. -/
theorem blames_concat : Blames protocol (rs ++ [r]) k op ↔ Blames protocol rs k op ∨
    k + 1 = rs.length ∧ ∃ before, rs.getLast? = some before ∧ r.Faults protocol before ∧
      op = protocol.opcode before.cmd := by
  -- report `k + 1` is one of those before, the new one, or none
  rcases Nat.lt_trichotomy (k + 1) rs.length with hk | hk | hk
  · have hfirst : (rs ++ [r])[k]? = rs[k]? := List.getElem?_append_left (by omega)
    rw [Blames, hfirst, List.getElem?_append_left hk]
    exact ⟨.inl, fun h => h.elim id fun h => absurd h.1 (by omega)⟩
  · have hfirst : (rs ++ [r])[k]? = rs.getLast? := by
      rw [List.getElem?_append_left (by omega), List.getLast?_eq_getElem?, ← hk, Nat.add_sub_cancel]
    have hlast : (rs ++ [r])[k + 1]? = some r := by simp [hk]
    rw [Blames, hfirst, hlast]
    constructor
    · rintro ⟨before, r', hbefore, hr', hr⟩
      obtain rfl := Option.some.inj hr'
      exact .inr ⟨hk, before, hbefore, hr⟩
    · rintro (h | ⟨-, before, hbefore, hr⟩)
      · exact absurd h.lt (by omega)
      · exact ⟨before, r, hbefore, rfl, hr⟩
  · constructor
    · intro h
      have hlt := h.lt
      rw [List.length_append, List.length_singleton] at hlt
      omega
    · rintro (h | h)
      · exact absurd h.lt (by omega)
      · omega

theorem attributed_nil : Attributed protocol [] 0 :=
  .inr ⟨rfl, fun _ _ h => absurd h.lt (Nat.not_lt_zero _)⟩

theorem attributed_concat_of_faults {before : Report} (hlast : rs.getLast? = some before)
    (h : r.Faults protocol before) : Attributed protocol (rs ++ [r]) (protocol.opcode before.cmd) := by
  have hpos : rs.length ≠ 0 := by
    rintro hlength
    rw [List.eq_nil_of_length_eq_zero hlength] at hlast
    cases hlast
  refine .inl ⟨rs.length - 1, ?_, fun k hk op' hblames => ?_⟩
  · exact blames_concat.mpr (.inr ⟨by omega, before, hlast, h, rfl⟩)
  · have hlt := hblames.lt
    rw [List.length_append, List.length_singleton] at hlt
    omega

theorem attributed_concat_of_not_faults
    (h : ∀ before, rs.getLast? = some before → ¬r.Faults protocol before)
    (hop : Attributed protocol rs op) : Attributed protocol (rs ++ [r]) op := by
  have hsame : ∀ k op', Blames protocol (rs ++ [r]) k op' ↔ Blames protocol rs k op' := by
    intro k op'
    refine blames_concat.trans (or_iff_left ?_)
    rintro ⟨-, before, hlast, hfaults, -⟩
    exact h before hlast hfaults
  simpa only [Attributed, hsame] using hop

end Attributed

/-! ## What the host remembers -/

namespace Link

variable {σ : Type} {protocol : Protocol} {cmd received sent : List UInt8}

/-- What a link remembers of failures. -/
def notes (l : Link σ) : BusStatus × Bool := (l.status, l.aborted)

theorem notes_record {l l₁ : Link σ} (h : l₁.notes = l.notes) :
    (protocol.record cmd received l₁).notes = (protocol.record cmd received l).notes := by
  obtain ⟨hstatus, haborted⟩ := Prod.mk.inj h
  simp only [notes, Protocol.record, hstatus, haborted]

variable {l l₁ : Link (σ × List Signal)}

/-- From the first link to the second nothing was transferred, and the notes are the same. -/
def Quiet (l l' : Link (σ × List Signal)) : Prop :=
  ∃ xs, l'.signals = l.signals ++ xs ∧ (∀ x ∈ xs, x.isTransfer = false) ∧ l'.notes = l.notes

/-- No command got through, and the notes are the same. -/
def Missed (l l' : Link (σ × List Signal)) : Prop :=
  ∃ xs, l'.signals = l.signals ++ xs ∧ xs.find? Signal.isTransfer >>= Signal.received? = none ∧
    l'.notes = l.notes

/-- Something was transferred for the first time, and has not been noted. -/
def Answered (sent received : List UInt8) (l l' : Link (σ × List Signal)) : Prop :=
  ∃ xs, l'.signals = l.signals ++ xs ∧
    xs.find? Signal.isTransfer = some (.transfer sent (some received)) ∧ l'.notes = l.notes

/-- The command got through, and what came back with it was noted. -/
def Told (protocol : Protocol) (cmd : List UInt8) (l l' : Link (σ × List Signal)) : Prop :=
  ∃ xs sent received, l'.signals = l.signals ++ xs ∧
    xs.find? Signal.isTransfer = some (.transfer sent (some received)) ∧ cmd <+: sent ∧
      l'.notes = (protocol.record cmd received l).notes

theorem Quiet.refl (l : Link (σ × List Signal)) : l.Quiet l :=
  ⟨[], (List.append_nil _).symm, by simp, rfl⟩

theorem Quiet.noting {w : σ} {x : Signal} (h : l.Quiet l₁) (hx : x.isTransfer = false) :
    l.Quiet (l₁.noting w x) := by
  obtain ⟨xs, hsignals, hxs, hnotes⟩ := h
  refine ⟨xs ++ [x], ?_, ?_, hnotes⟩
  · rw [signals_noting, hsignals, List.append_assoc]
  · simpa [or_imp, forall_and] using ⟨hxs, hx⟩

theorem find?_isTransfer_eq_none {xs : List Signal} (h : ∀ x ∈ xs, x.isTransfer = false) :
    xs.find? Signal.isTransfer = none := by
  simpa using h

theorem Quiet.missed (h : l.Quiet l₁) : l.Missed l₁ := by
  obtain ⟨xs, hsignals, hxs, hnotes⟩ := h
  refine ⟨xs, hsignals, ?_, hnotes⟩
  rw [find?_isTransfer_eq_none hxs]
  rfl

theorem Quiet.find?_transfer (h : l.Quiet l₁) (w : σ) {x : Signal} (hx : x.isTransfer = true) :
    ∃ xs, (l₁.noting w x).signals = l.signals ++ xs ∧ xs.find? Signal.isTransfer = some x ∧
      l₁.notes = l.notes := by
  obtain ⟨xs, hsignals, hxs, hnotes⟩ := h
  refine ⟨xs ++ [x], ?_, ?_, hnotes⟩
  · rw [signals_noting, hsignals, List.append_assoc]
  · rw [List.find?_append, find?_isTransfer_eq_none hxs, Option.none_or, List.find?_cons_of_pos hx]

theorem Quiet.missed_transfer (h : l.Quiet l₁) (w : σ) :
    l.Missed (l₁.noting w (.transfer sent none)) := by
  obtain ⟨xs, hsignals, hfirst, hnotes⟩ := h.find?_transfer w (x := .transfer sent none) rfl
  refine ⟨xs, hsignals, ?_, hnotes⟩
  rw [hfirst]
  rfl

theorem Quiet.answered (h : l.Quiet l₁) (w : σ) :
    l.Answered sent received (l₁.noting w (.transfer sent (some received))) :=
  h.find?_transfer w rfl

theorem Told.noting {w : σ} {x : Signal} (h : l.Told protocol cmd l₁) :
    l.Told protocol cmd (l₁.noting w x) := by
  obtain ⟨xs, sent, received, hsignals, hfirst, hsent, hnotes⟩ := h
  refine ⟨xs ++ [x], sent, received, ?_, ?_, hsent, hnotes⟩
  · rw [signals_noting, hsignals, List.append_assoc]
  · rw [List.find?_append, hfirst, Option.some_or]

end Link

namespace Endpoint

open Transceiver.Action Link

variable {σ α : Type} {bus : Endpoint σ} {l : Link (σ × List Signal)} {cmd sent : List UInt8}

theorem quiet_prepare : bus.recording.prepare.Keeps l.Quiet :=
  polls_prepare (fun _ _ x hx hl => hl.noting (by cases x <;> first | rfl | cases hx))
    fun _ _ _ _ _ hl => hl.noting rfl

theorem told_record {received : List UInt8} {l₁ : Link (σ × List Signal)}
    (h : l.Answered sent received l₁) (hsent : cmd <+: sent) :
    (bus.recording.record cmd received).Ends l₁
      fun _ => l.Told bus.handshake.protocol cmd := by
  obtain ⟨xs, hsignals, hfirst, hnotes⟩ := h
  exact ends_modify.mpr ⟨xs, sent, received, hsignals, hfirst, hsent, notes_record hnotes⟩

theorem ends_command {protocol : Protocol}
    {f : Vector UInt8 sent.length → Action (Link (σ × List Signal)) α}
    (hf : ∀ received l₁, l.Answered sent received.toList l₁ →
      (f received).Ends l₁ fun _ => l.Told protocol cmd) :
    (bus.recording.prepare >>= fun _ => bus.recording.exchange sent >>= f).Ends l
      fun _ l' => l.Missed l' ∨ l.Told protocol cmd l' := by
  refine ends_bind.mpr <| (quiet_prepare l (.refl l)).mono fun r l₁ hl₁ => ?_
  cases r with
  | error e => exact .inl hl₁.missed
  | ok =>
    refine ends_bind.mpr <| ends_exchange (fun w => .inl (hl₁.missed_transfer w)) fun received w => ?_
    exact (hf received _ (hl₁.answered w)).mono fun _ _ h => .inr h

theorem told_awaitReady {protocol : Protocol} (budget : Nat) :
    (bus.recording.awaitReady budget).Keeps (l.Told protocol cmd) :=
  polls_awaitReady (fun _ _ _ _ h => h.noting) budget

theorem told_exchange {protocol : Protocol} :
    (bus.recording.exchange sent).Keeps (l.Told protocol cmd) := fun _ h =>
  ends_exchange (fun _ => h.noting) fun _ _ => h.noting

variable (bus l)

theorem told_send (cmd data : List UInt8) :
    (bus.recording.send cmd data).Ends l
      fun _ l' => l.Missed l' ∨ l.Told bus.handshake.protocol cmd l' := by
  refine ends_ite.mpr ?_
  split
  · exact .inl (Quiet.refl l).missed
  · exact ends_command fun received l₁ h => told_record h (List.prefix_append ..)

theorem told_read (cmd : List UInt8) (n : Nat) :
    (bus.recording.read cmd n).Ends l
      fun _ l' => l.Missed l' ∨ l.Told bus.handshake.protocol cmd l' := by
  unfold read
  split <;> refine ends_ite.mpr ?_ <;> split
  · exact .inl (Quiet.refl l).missed
  · refine ends_command fun received l₁ h => ?_
    exact Keeps.after (told_record h (List.prefix_append ..)) fun _ => .pure _
  · exact .inl (Quiet.refl l).missed
  · refine ends_command fun received l₁ h => ?_
    -- the answer comes with the second transfer, which is not noted
    refine Keeps.after (told_record h List.prefix_rfl) fun _ => ?_
    exact (told_awaitReady _).bind fun _ => told_exchange.bind fun _ => .pure _

/-- A command that does not get through leaves the notes as they are. -/
theorem told_command {use : Use} (h : use.command? = some cmd) :
    (use.perform bus.recording).Ends l
      fun _ l' => l.Missed l' ∨ l.Told bus.handshake.protocol cmd l' := by
  have told_sleep (cmd data : List UInt8) :
      Ends (do bus.recording.send cmd data; modify ({ · with sleeping := true })) l
        fun _ l' => l.Missed l' ∨ l.Told bus.handshake.protocol cmd l' :=
    ends_bind.mpr <| (told_send bus l cmd data).mono fun
      | .ok _, _, h => h
      | .error _, _, h => h
  cases use with
  | await budget => cases h
  | call asked =>
    cases asked with
    | write cmd sleeps =>
      cases h
      cases sleeps with
      | false => exact told_send bus l cmd []
      | true => exact told_sleep cmd []
    | send cmd data sleeps =>
      cases h
      cases sleeps with
      | false => exact told_send bus l cmd data
      | true => exact told_sleep cmd data
    | read cmd n =>
      cases h
      exact ends_discard.mpr (told_read bus l cmd n)
    | readDirect n => cases h
    | wake => cases h
    | abort => cases h

/-! ## Uses without a command -/

variable {bus l} {s : BusStatus × Bool}

theorem notes_exchange : (bus.recording.exchange sent).Keeps (·.notes = s) := fun _ h =>
  ends_exchange (fun _ => h) fun _ _ => h

theorem notes_awaitReady (budget : Nat) : (bus.recording.awaitReady budget).Keeps (·.notes = s) :=
  polls_awaitReady (fun _ _ _ _ h => h) budget

theorem notes_wake : bus.recording.wake.Keeps (·.notes = s) := fun _ h =>
  polls_wake (fun _ _ _ _ h => h) fun _ _ _ => h

theorem notes_readDirect (n : Nat) : (bus.recording.readDirect n).Keeps (·.notes = s) :=
  .bind (polls_prepare (fun _ _ _ _ h => h) fun _ _ _ _ _ h => h) fun _ =>
    notes_exchange.bind fun _ => .pure _

theorem ends_abort_notes : bus.recording.abort.Ends l fun r l' =>
    l'.notes = (l.status, l.aborted || r.isOk) := by
  have hsame : l.notes = (l.status, l.aborted || false) := by simp [notes]
  refine ends_bind.mpr <| ends_discard.mpr <| ends_exchange (fun w => hsame) fun _ w => ?_
  refine ends_bind.mpr <| (notes_awaitReady (s := l.notes) _ (l.noting w _) rfl).mono
    fun r l' h => ?_
  cases r with
  | error e => exact h.trans hsame
  | ok =>
    refine ends_modify.mpr ?_
    obtain ⟨hstatus, -⟩ := Prod.mk.inj h
    show (l'.status, true) = _
    rw [hstatus, Except.isOk, Except.toBool, Bool.or_true]

/-- Without a command the notes change only by an abort that succeeds. -/
theorem notes_use {use : Use} (h : use.command? = none) :
    (use.perform bus.recording).Ends l fun r l' =>
      ∀ xs, l'.notes = (l.status, l.aborted || Passage.aborts ⟨use, r, xs⟩) := by
  have hsame : l.notes = (l.status, l.aborted || false) := by simp [notes]
  cases use with
  | await budget => exact (notes_awaitReady (s := l.notes) _ _ rfl).mono fun _ _ h _ => h.trans hsame
  | call asked =>
    cases asked with
    | readDirect n =>
      exact ends_discard.mpr <|
        (notes_readDirect (s := l.notes) _ _ rfl).mono fun _ _ h _ => h.trans hsame
    | wake => exact (notes_wake (s := l.notes) _ rfl).mono fun _ _ h _ => h.trans hsame
    | abort =>
      refine ends_abort_notes.mono fun r l' h xs => h.trans ?_
      cases r <;> rfl
    | write cmd sleeps => cases h
    | send cmd data sleeps => cases h
    | read cmd n => cases h

/-- The second transfer of a read changes nothing: the notes are those after a write, unless the
answer would be too long. -/
theorem notes_readTwoPhase (cmd : List UInt8) (n : Nat) :
    (bus.recording.readTwoPhase cmd n).Ends l fun _ l' => l'.notes =
      if n + 1 ≤ maxTransfer then ((bus.recording.write cmd).result l).2.notes else l.notes := by
  refine ends_ite.mpr ?_
  by_cases hn : n + 1 ≤ maxTransfer
  · rw [if_pos hn, write, send, List.append_nil]
    by_cases hlong : cmd.length > maxTransfer
    · rw [if_pos (.inl hlong), if_pos (by simpa using hlong)]
      rfl
    rw [if_neg (by omega), if_neg (by simpa using hlong)]
    refine ends_bind_alike (Q := (notes · = notes ·)) _ (fun _ => rfl) fun _ l₁ => ?_
    refine ends_bind_alike (Q := (notes · = notes ·)) _ (fun _ => rfl) fun _ l₂ => ?_
    refine Keeps.after rfl fun _ => (notes_awaitReady _).bind fun _ => ?_
    exact notes_exchange.bind fun _ => .pure _
  · rw [if_neg hn, if_pos (.inr (Nat.lt_of_not_le hn))]
    rfl

end Endpoint

/-! ## The record -/

/-- What a link remembers after some passages: they are the reports `rs`, and what was done `since`
the last of them. -/
structure Remembers {σ : Type} (protocol : Protocol) (so : List Passage) (rs : List Report)
    (since : List Passage) (l : Link σ) : Prop where
  passages : so = rs.flatMap Report.passages ++ since
  quiet : ∀ p ∈ since, p.exchange? = none
  sent : ∀ r ∈ rs, ∃ sent, r.passage.transfer? = some (.transfer sent (some r.received)) ∧
    r.cmd <+: sent
  fresh : rs = [] → l.status = {}
  last : ∀ r, rs.getLast? = some r → l.status.lastCommand = protocol.opcode r.cmd ∧
    l.status.lastStatus1 = r.status1 ∧ l.status.lastStatus2 = r.status2
  failed : Attributed protocol rs l.status.failedCommand
  aborted : l.aborted = since.any Passage.aborts

namespace Remembers

variable {σ : Type} {protocol : Protocol} {so since : List Passage} {rs : List Report}
  {l l' : Link σ} {p : Passage} {cmd received : List UInt8}

theorem start (world : σ) : Remembers protocol [] [] [] ({ world := world } : Link σ) where
  passages := rfl
  quiet := by simp
  sent := by simp
  fresh _ := rfl
  last := nofun
  failed := attributed_nil
  aborted := rfl

theorem silent (h : Remembers protocol so rs since l) (hp : p.exchange? = none)
    (hnotes : l'.notes = (l.status, l.aborted || p.aborts)) :
    Remembers protocol (so ++ [p]) rs (since ++ [p]) l' := by
  obtain ⟨hstatus, haborted⟩ := Prod.mk.inj hnotes
  refine ⟨?_, ?_, h.sent, hstatus ▸ h.fresh, hstatus ▸ h.last, hstatus ▸ h.failed, ?_⟩
  · rw [h.passages, List.append_assoc]
  · simpa [or_imp, forall_and] using ⟨h.quiet, hp⟩
  · rw [haborted, h.aborted, List.any_append, List.any_cons, List.any_nil, Bool.or_false]

theorem failed_record {r : Report} (h : Remembers protocol so rs r.since l) :
    Attributed protocol (rs ++ [r]) (protocol.record r.cmd r.received l).status.failedCommand := by
  -- with the same excuse the test of the record is that of `Report.Faults`, and the command that it
  -- blames is the one on record, which is 0 before the first report
  have hexcused : (l.aborted && isAbortAck r.status1) = r.excused := by rw [h.aborted, Report.excused]
  show Attributed protocol (rs ++ [r]) (if (protocol.isFailure r.status1 &&
    l.status.lastCommand != 0 && !(l.aborted && isAbortAck r.status1)) then _ else _)
  rw [hexcused]
  cases hlast : rs.getLast? with
  | none =>
    have hzero : l.status.lastCommand = 0 := by rw [h.fresh (List.getLast?_eq_none_iff.mp hlast)]
    rw [hzero]
    refine attributed_concat_of_not_faults (fun before hbefore => ?_) ?_
    · rw [hlast] at hbefore
      cases hbefore
    · simpa using h.failed
  | some before =>
    rw [(h.last before hlast).1]
    split
    · rename_i hfails
      refine attributed_concat_of_faults hlast ?_
      simpa [Report.Faults, and_assoc] using hfails
    · rename_i hfails
      refine attributed_concat_of_not_faults (fun before' hbefore hfaults => hfails ?_) h.failed
      obtain rfl := Option.some.inj (hlast.symm.trans hbefore)
      simpa [Report.Faults, and_assoc] using hfaults

theorem told {r : Report} (h : Remembers protocol so rs r.since l)
    (hsent : ∃ sent, r.passage.transfer? = some (.transfer sent (some r.received)) ∧ r.cmd <+: sent)
    (hnotes : l'.notes = (protocol.record r.cmd r.received l).notes) :
    Remembers protocol (so ++ [r.passage]) (rs ++ [r]) [] l' := by
  obtain ⟨hstatus, haborted⟩ := Prod.mk.inj hnotes
  refine ⟨?_, by simp, ?_, by simp, ?_, hstatus ▸ h.failed_record, haborted⟩
  · rw [h.passages, List.append_nil, List.append_assoc, List.flatMap_append, List.flatMap_singleton,
      Report.passages]
  · simpa [or_imp, forall_and] using ⟨h.sent, hsent⟩
  · intro r' hr
    rw [List.getLast?_concat] at hr
    obtain rfl := Option.some.inj hr
    rw [hstatus]
    exact ⟨rfl, rfl, rfl⟩

theorem next {bus : Endpoint σ} {l : Link (σ × List Signal)} (use : Use)
    (h : Remembers bus.handshake.protocol so rs since l) :
    ∃ rs' since', Remembers bus.handshake.protocol (so ++ [bus.passage l use]) rs' since'
      (bus.after l use) := by
  cases hcommand : use.command? with
  | none =>
    have hnone : (bus.passage l use).exchange? = none := by
      rw [Passage.exchange?, Endpoint.passage, hcommand]
      rfl
    have hnotes : ∀ xs, (bus.after l use).notes =
        (l.status, l.aborted || Passage.aborts ⟨use, (bus.passage l use).outcome, xs⟩) :=
      Endpoint.notes_use hcommand
    exact ⟨rs, since ++ [_], h.silent hnone (hnotes _)⟩
  | some cmd =>
    have htold : l.Missed (bus.after l use) ∨
        l.Told bus.handshake.protocol cmd (bus.after l use) := Endpoint.told_command bus l hcommand
    have hexchange : (bus.passage l use).exchange? =
        ((bus.passage l use).transfer? >>= Signal.received?).map (cmd, ·) := by
      rw [Passage.exchange?, Endpoint.passage, hcommand]
      cases (Passage.transfer? _ >>= Signal.received?) <;> rfl
    obtain ⟨xs, hsignals, hfirst, hnotes⟩ | ⟨xs, sent, received, hsignals, hfirst, hsent, hnotes⟩ :=
      htold
    · obtain rfl := Endpoint.signals_passage hsignals
      have haborts : (bus.passage l use).aborts = false := Passage.aborts_of_command hcommand
      refine ⟨rs, since ++ [_], h.silent ?_ (hnotes.trans ?_)⟩
      · rw [hexchange, Passage.transfer?, hfirst, Option.map_none]
      · rw [haborts, Bool.or_false, Link.notes]
    · obtain rfl := Endpoint.signals_passage hsignals
      have hreport : (bus.passage l use).exchange? = some (cmd, received) := by
        rw [hexchange, Passage.transfer?, hfirst]
        rfl
      let r : Report := ⟨since, bus.passage l use, cmd, received, h.quiet, hreport⟩
      exact ⟨rs ++ [r], [], told (r := r) h ⟨sent, hfirst, hsent⟩ hnotes⟩

/-- An abort excuses one report at most. -/
theorem countP_excused (h : Remembers protocol so rs since l) :
    rs.countP Report.excused ≤ so.countP Passage.aborts := by
  have hreport (r : Report) : [r].countP Report.excused ≤ r.passages.countP Passage.aborts := by
    rw [List.countP_singleton, Report.passages, List.countP_append]
    split
    · rename_i hexcused
      have hany : r.since.any Passage.aborts = true := (Bool.and_eq_true_iff.mp hexcused).1
      have hpos : 0 < r.since.countP Passage.aborts :=
        List.countP_pos_iff.mpr (List.any_eq_true.mp hany)
      omega
    · exact Nat.zero_le _
  have hreports : rs.countP Report.excused ≤
      (rs.flatMap Report.passages).countP Passage.aborts := by
    clear h
    induction rs with
    | nil => exact Nat.le_refl 0
    | cons r rs ih =>
      rw [← List.singleton_append, List.countP_append, List.flatMap_append, List.countP_append,
        List.flatMap_singleton]
      exact Nat.add_le_add (hreport r) ih
  rw [h.passages, List.countP_append]
  omega

end Remembers

namespace Endpoint

open Transceiver.Action Link

variable {σ : Type}

/-- **Failure attribution.** Whatever is done on a bus from its start on, or from a reset on, and
whatever comes of it, the link remembers the reports that came back: the last command with its
status, and as failed the command before the last report of a failure that no abort excuses. An
abort excuses one report at most. Direct reads and the second transfer of a read change nothing of
this. -/
theorem attributes_failures (bus : Endpoint σ) :
    (∀ (world : σ × List Signal) (uses : List Use), ∃ rs since,
      Remembers bus.handshake.protocol (bus.passages { world := world } uses) rs since
        (bus.used { world := world } uses) ∧
      rs.countP Report.excused ≤ (bus.passages { world := world } uses).countP Passage.aborts) ∧
    ∀ l : Link (σ × List Signal),
      afterReset.result l = (.ok (), { world := l.world }) ∧
      (∀ n, (bus.recording.readDirect n).Ends l fun _ l' => l'.notes = l.notes) ∧
      ∀ cmd n, (bus.recording.readTwoPhase cmd n).Ends l fun _ l' => l'.notes =
        if n + 1 ≤ maxTransfer then ((bus.recording.write cmd).result l).2.notes else l.notes := by
  constructor
  · intro world uses
    have hruns : ∃ rs since, Remembers bus.handshake.protocol
        ([] ++ bus.passages { world := world } uses) rs since (bus.used { world := world } uses) := by
      refine passages_keep (fun so l => ∃ rs since, Remembers bus.handshake.protocol so rs since l)
        uses (fun use _ l so h => ?_) [] ⟨[], [], .start world⟩
      obtain ⟨rs, since, h⟩ := h
      exact h.next use
    obtain ⟨rs, since, h⟩ := hruns
    exact ⟨rs, since, h, h.countP_excused⟩
  · intro l
    exact ⟨rfl, fun n => notes_readDirect n l rfl, notes_readTwoPhase⟩

end Endpoint

end Transceiver.Bus
