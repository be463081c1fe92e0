import Transceiver.Proofs.Avoidance
import Transceiver.Proofs.BusUse

/-! Room for what is sent and received. A rig whose chip runs out of room only with bytes that do
not fit never runs out of room itself, except with a frame from the application that is too long. -/

namespace Transceiver

theorem Command.fits_readBuffer (offset n : UInt8) : (Command.readBuffer offset n.toNat).Fits :=
  Nat.le_of_lt_succ n.toNat_lt

/-- The operation is given a frame that is longer than a transfer with its command can be. -/
def Operation.Oversized : Operation → Prop
  | .setTxPayload payload => 262 < payload.length
  | _ => False

namespace Rig

open Station Transceiver.Action

variable {σ α : Type} {rig : Rig σ}

/-- The chip runs out of room only with bytes that do not fit. -/
def HasRoom (rig : Rig σ) : Prop := ∀ c : Command, c.Fits → (rig.chip.perform c).Avoids .noMemory

/-! ## Steps that say nothing to the chip -/

section Steps
variable {f : Fault}

theorem avoids_current : (current (σ := σ)).Avoids f := fun _ => nofun

theorem avoids_update (change : Radio → Radio) : (update (σ := σ) change).Avoids f :=
  fun _ => nofun

theorem avoids_enter (state : RadioState) : (enter (σ := σ) state).Avoids f := fun _ => nofun

theorem avoids_pause (us : UInt32) : (rig.pause us).Avoids f := fun _ => nofun

theorem avoids_now : rig.now.Avoids f := fun _ => nofun

theorem avoids_report (event : Event) : (rig.report event).Avoids f := fun _ => nofun

theorem avoids_announceSleep (wakeAt : UInt64) : (rig.announceSleep wakeAt).Avoids f :=
  fun _ => nofun

end Steps

theorem avoids_ensureNotScanning : (ensureNotScanning (σ := σ)).Avoids .noMemory :=
  avoids_current.bind fun _ => .ite (fun _ => .throw (by decide)) fun _ => .pure _

theorem avoids_ensure (allowed : RadioState → Bool) :
    (ensure (σ := σ) allowed).Avoids .noMemory := by
  refine avoids_current.bind fun _ => .guarded (by decide) ?_
  exact .ite (fun _ => .pure _) fun _ => .throw (by decide)

theorem avoids_ensureScanning : (ensureScanning (σ := σ)).Avoids .noMemory :=
  avoids_current.bind fun _ => .ite (fun _ => .throw (by decide)) fun _ => .pure _

theorem avoids_order (c : Command) : (rig.order c).Avoids .noMemory := .reporting (by decide) _

/-! ## Steps that use the chip -/

section Chip
variable (h : rig.HasRoom)
include h

theorem avoids_tell {c : Command} (hc : c.Fits) :
    (rig.tell c).Avoids .noMemory := .onPart (h c hc)

theorem avoids_rearm : rig.rearm.Avoids .noMemory :=
  avoids_current.bind fun _ => avoids_tell h trivial

theorem avoids_standby : rig.standby.Avoids .noMemory := by
  have wake (slept : Bool) : (rig.wake slept).Avoids .noMemory := by
    refine .bind (.attempted _) fun r => ?_
    cases r with
    | error e => exact (avoids_enter _).bind fun _ => .throw (by decide)
    | ok _ =>
      refine .ite (fun _ => .ite (fun _ => ?_) fun _ => avoids_enter _) fun _ => .pure _
      exact avoids_current.bind fun _ => (avoids_order _).bind fun _ => avoids_enter _
  refine avoids_current.bind fun _ => .guarded (by decide) ?_
  refine .ite (fun _ => .pure _) fun _ => .optionally (wake _) ?_
  refine (avoids_order _).bind fun _ => .bind (avoids_tell h trivial) fun _ => ?_
  exact (avoids_pause _).bind fun _ => (avoids_order _).bind fun _ => avoids_enter _

theorem avoids_sleep (duration : UInt32) : (rig.sleep duration).Avoids .noMemory := by
  refine avoids_current.bind fun _ => .guarded (by decide) (.ite (fun _ => .pure _) fun _ => ?_)
  refine .iteRest ?_ fun rest =>
    avoids_now.bind fun _ => (avoids_announceSleep _).bind fun _ => rest
  refine (avoids_order _).bind fun _ => .bind (avoids_tell h trivial) fun _ => ?_
  refine .optionally (avoids_tell h trivial) (.bind (.attempted _) fun r => ?_)
  cases r with
  | ok _ => exact avoids_enter _
  | error e => exact .optionally (avoids_rearm h) (.throw (by decide))

theorem avoids_setFrequency (frequency : UInt32) :
    (rig.setFrequency frequency).Avoids .noMemory := by
  refine (avoids_ensure _).bind fun _ => ?_
  cases FrequencyBand.of? frequency with
  | none => exact .throw (by decide)
  | some band =>
    refine avoids_current.bind fun _ => .optionally (avoids_order _) ?_
    refine .optionally (avoids_tell h trivial) ?_
    exact (avoids_order _).bind fun _ => avoids_update _

theorem avoids_setTxPower (power : Int8) : (rig.setTxPower power).Avoids .noMemory := by
  unfold setTxPower
  refine (avoids_ensure _).bind fun _ => ?_
  cases rig.config.paFor power with
  | none => exact .throw (by decide)
  | some found =>
    refine .bind (avoids_tell h trivial) fun _ => .bind (avoids_tell h trivial) fun _ => ?_
    exact avoids_update _

theorem avoids_startTx (timeout : UInt32) : (rig.startTx timeout).Avoids .noMemory := by
  refine (avoids_ensure _).bind fun _ => avoids_current.bind fun _ => ?_
  refine .bind (avoids_tell h trivial) fun _ => .bind (avoids_tell h trivial) fun _ => ?_
  exact (avoids_order _).bind fun _ => avoids_enter _

theorem avoids_startCarrier (frequency : UInt32) (power : Int8) :
    (rig.startCarrier frequency power).Avoids .noMemory := by
  refine (avoids_ensure _).bind fun _ => (avoids_standby h).bind fun _ => ?_
  refine (avoids_setFrequency h _).bind fun _ => (avoids_setTxPower h _).bind fun _ => ?_
  refine avoids_current.bind fun _ => .bind (avoids_tell h trivial) fun _ => ?_
  refine .bind (avoids_tell h trivial) fun _ => (avoids_order _).bind fun _ => ?_
  exact avoids_enter _

theorem avoids_receiveFor (ticks : UInt32) : (rig.receiveFor ticks).Avoids .noMemory := by
  refine avoids_current.bind fun _ => (avoids_order _).bind fun _ => ?_
  refine .bind (avoids_tell h trivial) fun _ => .bind (avoids_tell h trivial) fun _ => ?_
  exact (avoids_order _).bind fun _ => avoids_enter _

theorem avoids_startContinuousRx : rig.startContinuousRx.Avoids .noMemory :=
  (avoids_ensure _).bind fun _ => avoids_receiveFor h _

theorem avoids_startCarrierSense (params : Fsk.CarrierSense) (exit : CadExit) :
    (rig.startCarrierSense params exit).Avoids .noMemory := by
  refine (avoids_ensure _).bind fun _ => avoids_current.bind fun _ => .guarded (by decide) ?_
  refine (avoids_order _).bind fun _ => .bind (avoids_tell h trivial) fun _ => ?_
  refine .bind (avoids_tell h trivial) fun _ => (avoids_update _).bind fun _ => ?_
  refine .bind (avoids_tell h trivial) fun _ => (avoids_order _).bind fun _ => ?_
  exact (avoids_update _).bind fun _ => avoids_enter _

theorem avoids_startRxDutyCycle (rx rest : UInt32) :
    (rig.startRxDutyCycle rx rest).Avoids .noMemory := by
  unfold startRxDutyCycle
  refine .guarded (by decide) <| (avoids_ensure _).bind fun _ => ?_
  refine .bind (avoids_tell h trivial) fun _ => .bind (avoids_tell h trivial) fun _ => ?_
  exact (avoids_order _).bind fun _ => avoids_enter _

theorem avoids_startCad : rig.startCad.Avoids .noMemory := by
  refine (avoids_ensure _).bind fun _ => avoids_current.bind fun _ => .guarded (by decide) ?_
  refine .bind (avoids_tell h trivial) fun _ => .bind (avoids_tell h trivial) fun _ => ?_
  exact (avoids_order _).bind fun _ => avoids_enter _

theorem avoids_rssi : rig.rssi.Avoids .noMemory :=
  avoids_ensureNotScanning.bind fun _ => .bind (avoids_tell h trivial) fun _ => .pure _

theorem avoids_watchChannel (threshold : Int16) (window : UInt32) (start : UInt64) (n : Nat) :
    (rig.watchChannel threshold window start n).Avoids .noMemory := by
  induction n with
  | zero => exact .pure _
  | succ n ih =>
    refine (avoids_pause _).bind fun _ => (avoids_rssi h).bind fun _ => ?_
    refine .ite (fun _ => .pure _) fun _ => avoids_now.bind fun _ => ?_
    exact .ite (fun _ => .pure _) fun _ => ih

theorem avoids_sumNoise (sum : Int32) (n : Nat) : (rig.sumNoise sum n).Avoids .noMemory := by
  induction n generalizing sum with
  | zero => exact .pure _
  | succ n ih => exact (avoids_pause _).bind fun _ => (avoids_rssi h).bind fun _ => ih _

theorem avoids_measure {sample : Action (Station σ) α} (frequency : UInt32)
    (hsample : sample.Avoids .noMemory) : (rig.measure frequency sample).Avoids .noMemory := by
  refine (avoids_setFrequency h _).bind fun _ => .bind (avoids_tell h trivial) fun _ => ?_
  refine .attempt hsample fun result hresult => ?_
  refine .attempt (avoids_rearm h) fun armed harmed => ?_
  refine .attempt (avoids_standby h) fun rested hrested => ?_
  refine .bind (.settle hresult) fun _ => .bind (.settle harmed) fun _ => ?_
  exact .bind (.settle hrested) fun _ => .pure _

theorem avoids_random : rig.random.Avoids .noMemory := by
  refine avoids_ensureNotScanning.bind fun _ => .bind (avoids_tell h trivial) fun _ => ?_
  refine .attempt (avoids_order _) fun number hnumber => ?_
  exact (avoids_rearm h).bind fun _ => .settle hnumber

theorem avoids_guarded {c : Command} (hc : c.Fits) :
    Avoids .noMemory (ensureNotScanning >>= fun _ => rig.tell c) :=
  avoids_ensureNotScanning.bind fun _ => avoids_tell h hc

theorem avoids_endScan (state : RadioState) : (rig.endScan state).Avoids .noMemory := by
  have restore : rig.restore.Avoids .noMemory := by
    refine avoids_current.bind fun _ => .attempt (avoids_tell h trivial) fun modem hmodem => ?_
    refine .attempt (avoids_tell h trivial) fun armed harmed => ?_
    exact .bind (.settle hmodem) fun _ => .settle harmed
  exact .attempt restore fun restored hrestored => (avoids_enter _).bind fun _ => .settle hrestored

theorem avoids_holdScan : rig.holdScan.Avoids .noMemory := by
  unfold holdScan
  refine .bind .get fun s => .ite (fun _ => ?_) fun _ => .throw (by decide)
  refine .bind (avoids_tell h trivial) fun line => .guarded (by decide) ?_
  exact avoids_current.bind fun _ => .guarded (by decide) (avoids_enter _)

theorem avoids_scanInterrupt (status : InterruptSet) :
    (rig.scanInterrupt status).Avoids .noMemory := by
  refine avoids_ensureScanning.bind fun _ => .ite (fun _ => avoids_endScan h _) fun _ => ?_
  exact .bind .get fun _ => .ite (fun _ => avoids_endScan h _) fun _ => .pure _

theorem avoids_powerUp : rig.powerUp.Avoids .noMemory := by
  have configure (limits : Option RegionalLimits) : (rig.configure limits).Avoids .noMemory := by
    refine (avoids_standby h).bind fun _ => (avoids_order _).bind fun _ => ?_
    refine avoids_current.bind fun _ => .bind (avoids_tell h trivial) fun _ => ?_
    cases limits with
    | none => exact avoids_rearm h
    | some limits => exact (avoids_setTxPower h _).bind fun _ => avoids_rearm h
  refine avoids_ensureNotScanning.bind fun _ => (avoids_update _).bind fun _ => ?_
  refine .bind (avoids_tell h trivial) fun _ => .bind (avoids_tell h trivial) fun _ => ?_
  exact (avoids_update _).bind fun _ => configure _

theorem avoids_fetchLora : rig.fetchLora.Avoids .noMemory := by
  refine .bind (avoids_tell h trivial) fun buffer => ?_
  refine .bind (avoids_tell h (Command.fits_readBuffer _ _)) fun bytes => ?_
  refine (avoids_update _).bind fun _ => .bind (avoids_tell h trivial) fun raw => ?_
  exact .bind (.reporting (by decide) _) fun _ => avoids_update _

theorem avoids_syncFsk : rig.syncFsk.Avoids .noMemory := by
  have await (n : Nat) : (rig.awaitHeader n).Avoids .noMemory := by
    induction n with
    | zero => exact .throw (by decide)
    | succ n ih =>
      exact .bind (avoids_tell h trivial) fun level => .ite (fun _ => ih) fun _ => .pure _
  refine (await _).bind fun _ => .bind (avoids_tell h trivial) fun buffer => ?_
  refine .bind (avoids_tell h (Command.fits_readBuffer _ 2)) fun header => ?_
  refine (avoids_update _).bind fun _ => ?_
  exact .bind (avoids_tell h trivial) fun _ => avoids_update _

omit h in
theorem avoids_fetchFsk : rig.fetchFsk.Avoids .noMemory := by
  refine avoids_current.bind fun r => .ite (fun _ => .pure _) fun _ => ?_
  refine (avoids_update _).bind fun _ => ?_
  cases checkHeader r.packet.header with
  | error rejection => exact .pure _
  | ok =>
    refine .bind (.reporting (by decide) _) fun bytes => (avoids_update _).bind fun _ => ?_
    cases (r.packet.header.check bytes).outcome with
    | error rejection => exact .pure _
    | ok length =>
      exact .bind (.reporting (by decide) _) fun raw => (avoids_update _).bind fun _ => .pure _

theorem avoids_act (meaning : Meaning) : (rig.act meaning).Avoids .noMemory := by
  have closed : (endWindow (σ := σ)).Avoids .noMemory := avoids_update _
  cases meaning with
  | event | nothing => exact .pure _
  | quiet event =>
    refine avoids_current.bind fun _ => closed.bind fun _ => .ite (fun _ => ?_) fun _ => .pure _
    refine .ite (fun _ => .pure _) fun _ => avoids_current.bind fun _ => ?_
    exact (Avoids.attempted _).discard.bind fun _ => .pure _
  | detected => exact closed.bind fun _ => .pure _
  | preamble =>
    refine avoids_current.bind fun r => ?_
    cases r.cadExit with
    | none => exact .pure _
    | csRx | edRx => exact closed.bind fun _ => .pure _
    | csOnly | csLbt | edOnly | edLbt =>
      have noted : rig.noteRssi.Avoids .noMemory := .bind (.attempted _) fun r => by
        cases r with
        | ok rssi => exact avoids_update _
        | error e => exact .pure _
      refine noted.bind fun _ => closed.bind fun _ => ?_
      exact (avoids_standby h).bind fun _ => .pure _
  | sync => exact (Avoids.attempted _).discard.bind fun _ => .pure _
  | packet modem =>
    cases modem with
    | lora =>
      refine .bind (.attempted _) fun r => ?_
      cases r with
      | error e => exact .pure _
      | ok _ => exact (avoids_update _).bind fun _ => .pure _
    | fsk =>
      refine .bind (.attempted _) fun r => ?_
      rcases r with e | rejection | _
      · exact .pure _
      · exact .pure _
      · exact (avoids_update _).bind fun _ => .pure _

theorem avoids_processInterrupt : rig.processInterrupt.Avoids .noMemory := by
  have attended (status : InterruptSet) : (rig.attend status).Avoids .noMemory := by
    have errors : Avoids .noMemory (do
        if .chipError ∈ status then discard <| Action.attempt (rig.tell .takeErrors)) :=
      .ite (fun _ => (Avoids.attempted _).discard) fun _ => .pure _
    refine .ite (fun _ => ?_) fun _ => errors
    exact avoids_now.bind fun _ => (avoids_update _).bind fun _ => errors
  have dispatched : rig.dispatch.Avoids .noMemory := by
    refine .bind (avoids_tell h trivial) fun _ => .bind (avoids_tell h trivial) fun status => ?_
    exact (attended _).bind fun _ => avoids_current.bind fun _ => avoids_act h _
  have rearmed : Avoids .noMemory (do if (← current).state ≠ .sleep then rig.rearm) :=
    avoids_current.bind fun _ => .ite (fun _ => avoids_rearm h) fun _ => .pure _
  refine avoids_current.bind fun _ => .ite (fun _ => .pure _) fun _ => ?_
  refine .attempt dispatched fun found hfound => ?_
  have rest : Avoids .noMemory (do
      let armed ← Action.attempt do if (← current).state ≠ .sleep then rig.rearm
      discard <| Action.settle found
      Action.settle armed) :=
    .attempt rearmed fun _ harmed => (Avoids.settle hfound).discard.bind fun _ => .settle harmed
  rcases found with e | _ | event
  · exact rest
  · exact rest
  · exact (avoids_report _).bind fun _ => rest

/-- Only a frame that is too long makes an operation run out of room. -/
theorem avoids_perform {op : Operation} (hop : ¬op.Oversized) :
    (rig.perform op).Avoids .noMemory := by
  cases op with
  | powerUp => exact avoids_powerUp h
  | release => exact .pure _
  | setModem modem =>
    refine avoids_ensureNotScanning.bind fun _ => (avoids_order _).bind fun _ => ?_
    exact (avoids_update _).bind fun _ => avoids_order _
  | setRegion region =>
    refine avoids_ensureNotScanning.bind fun _ => ?_
    cases rig.config.limits? region with
    | none => exact .throw (by decide)
    | some limits => exact avoids_update _
  | standby => exact avoids_standby h
  | sleep duration => exact avoids_sleep h _
  | setBusy => exact (avoids_ensure _).bind fun _ => avoids_enter _
  | holdScan => exact avoids_holdScan h
  | releaseScan => exact avoids_ensureScanning.bind fun _ => avoids_endScan h _
  | abortScan => exact avoids_ensureScanning.bind fun _ => avoids_tell h trivial
  | setFrequency frequency => exact avoids_setFrequency h _
  | setTxPower power => exact avoids_setTxPower h _
  | setTxPayload payload =>
    have hfits : (Command.writeBuffer 0 payload).Fits := Nat.not_lt.mp hop
    show (rig.setTxPayload payload).Avoids .noMemory
    unfold setTxPayload
    exact .guarded (by decide) (avoids_guarded h hfits)
  | startTx timeout => exact avoids_startTx h _
  | startCarrier frequency power => exact avoids_startCarrier h _ _
  | startRx timeout => exact (avoids_ensure _).bind fun _ => avoids_receiveFor h _
  | startContinuousRx => exact avoids_startContinuousRx h
  | startCarrierSense params exit => exact avoids_startCarrierSense h _ _
  | startRxDutyCycle rx rest => exact avoids_startRxDutyCycle h _ _
  | startCad => exact avoids_startCad h
  | setCadParams params =>
    refine avoids_ensureNotScanning.bind fun _ => .ite (fun _ => ?_) fun _ => .throw (by decide)
    exact (avoids_order _).bind fun _ => avoids_update _
  | rssi => exact avoids_rssi h
  | isChannelFree frequency threshold duration =>
    refine avoids_measure h _ <| (avoids_startContinuousRx h).bind fun _ => ?_
    exact avoids_now.bind fun _ => avoids_watchChannel h _ _ _ _
  | channelNoise frequency =>
    refine avoids_measure h _ <| (avoids_startContinuousRx h).bind fun _ => ?_
    exact (avoids_sumNoise h _ _).bind fun _ => .pure _
  | random => exact avoids_random h
  | setLoraModulation | setLoraPacket | setLoraSyncWord | setLoraSymbolTimeout
  | setFskModulation | setFskPacket | setFskSyncWord => exact avoids_guarded h trivial
  | awaitInterrupt => exact avoids_tell h trivial
  | processInterrupt => exact avoids_processInterrupt h
  | scanInterrupt status => exact avoids_scanInterrupt h _

end Chip

end Rig

end Transceiver
