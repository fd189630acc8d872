import Tuner.Proofs.Session
import Tuner.Radio.Call

/-!
# Radios are orderly

Every operation of a radio is a session of its own, a step that anyone may take, or a look at what
is known; several are two of these in a row. So all of them are orderly on an orderly link. Since
the link to any peer is orderly when the calls back are, every operation of a radio is orderly over
every peer, with calls nested to any depth.
-/
namespace Tuner

/-- Nobody holds a session between two calls on a radio. -/
def nobody {σ : Type} (_ : σ) : Bool := false

/-- Changes of the own state pass no session on where there is none. -/
theorem Reaction.honest_nobody {σ κ ρ : Type} (reaction : Reaction σ κ ρ) :
    reaction.Honest nobody := by
  induction reaction with
  | finish code => trivial
  | look next ih => exact fun now own => ih now own
  | update change next ih => exact ⟨fun _ => rfl, ih⟩
  | notify listener notification next ih => exact ih
  | pass ms next ih => exact ih
  | call request next ih => exact fun answer => ih answer

/-- The fault of a result. -/
def Fault.ofResult? {α : Type} : Except Fault α → Option Fault
  | .error fault => some fault
  | .ok _ => none

namespace Radio

variable {σ α : Type}

/-- What a radio submits without waiting: the end of a seek, directly after it asked sweeps to
stop. -/
def EndsSeek (history : List Moment) (command : Command) : Prop :=
  command = .abortSeek ∧
    ∃ moment earlier, history = moment :: earlier ∧ moment.occurrence = .stopping

/-- The terms on which a radio uses the core. -/
def terms (settings : Settings) : Terms where
  timeout := settings.timeoutMs.toNat
  unawaited := EndsSeek

/-- A check of a frequency does nothing but look at the band. -/
theorem requireTunable_run (frequency : Frequency) (system : System σ) :
    (requireTunable frequency : Attempt σ Unit).run.run system =
      (((system.core.band.requireTunable frequency).map fun _ => ()).mapError
        Fault.invalidParameter, system) := by
  rw [requireTunable, Attempt.core_bind_run]
  cases system.core.band.requireTunable frequency <;> rfl

/-- Where something succeeds after a check of a frequency, that can be tuned. -/
theorem requireTunable_bind_ok {next : Unit → Attempt σ α} {frequency : Frequency}
    {system after : System σ} {value : α}
    (done : (requireTunable frequency >>= next).run.run system = (.ok value, after)) :
    system.core.band.isTunable frequency = true ∧
      (next ()).run.run system = (.ok value, after) := by
  obtain ⟨_, between, passed, later⟩ := Attempt.ok_of_bind done
  rw [requireTunable_run, Band.requireTunable] at passed
  obtain ⟨checked, rfl⟩ := Prod.mk.inj passed
  split at checked
  next tunable => exact ⟨tunable, later⟩
  next => contradiction

/-- A check of a frequency is orderly. -/
theorem requireTunable_orderly (frequency : Frequency) {terms : Terms} :
    (requireTunable frequency : Attempt σ Unit).Orderly nobody terms := by
  refine .bind .core fun core => ?_
  split
  · exact .pure ()
  · exact .throw nofun

variable {radio : Radio σ}

/-- A command whose event must come was confirmed by it. -/
theorem awaited_ok {command : Command} {event : Event} {system after : System σ}
    (done : (radio.awaited command).run.run system = (.ok event, after)) :
    (radio.controller.run command none).run.run system = (.ok (some event), after) := by
  obtain ⟨event?, between, run, same⟩ := Attempt.ok_of_bind done
  cases event? with
  | none => cases same
  | some event =>
    cases same
    exact run

/-- A seek that found something was confirmed by an end that says so. -/
theorem seekWith_ok {command : Command} {start : Option Frequency} {frequency : Frequency}
    {system after : System σ}
    (done : (radio.seekWith command start).run.run system = (.ok (some frequency), after)) :
    ∃ report, (radio.controller.run command none).run.run system =
        (.ok (some (.seekComplete report)), after) ∧
      report.success = true ∧ report.frequency = frequency := by
  obtain ⟨event, between, awaited, reported⟩ := Attempt.ok_of_bind done
  cases event with
  | seekComplete report =>
    obtain ⟨found, rfl⟩ := Prod.mk.inj reported
    have found := Except.ok.inj found
    split at found
    next elsewhere =>
      have success := (Bool.and_eq_true_iff.1 elsewhere).1
      exact ⟨report, awaited_ok awaited, success, Option.some.inj found⟩
    next => contradiction
  | _ => cases reported

/-- Alternate frequencies are followed when the decoder was set, and the channel is that of the
tuned frequency. -/
theorem activateAf_ok {channel : UInt16} {system after : System σ}
    (done : radio.activateAf.run.run system = (.ok channel, after)) :
    (∃ features value,
      (radio.setRdsMode .default features .on).run.run system = (.ok value, after)) ∧
      ∃ frequency, after.core.state.tuned = some frequency ∧
        channel = after.core.band.channelOf frequency := by
  obtain ⟨value, between, set, given⟩ := Attempt.ok_of_bind done
  rw [Attempt.core_bind_run] at given
  split at given
  next frequency tuned =>
    obtain ⟨same, rfl⟩ := Prod.mk.inj given
    exact ⟨⟨_, value, set⟩, frequency, tuned, (Except.ok.inj same).symm⟩
  next => cases given

/-- A command whose event must come is owned by its session. -/
theorem awaited_owned (link : radio.link.Orderly nobody (terms radio.settings))
    (command : Command) : (radio.awaited command).Owned nobody (terms radio.settings) := by
  refine .bind (Controller.execute_owned link rfl command) fun event => ?_
  cases event with
  | some event => exact .pure event
  | none => exact .throw nofun

/-- A command whose event must report an outcome is owned by its session. -/
theorem confirmed_owned (link : radio.link.Orderly nobody (terms radio.settings))
    (command : Command) (outcome : Event → Option α) :
    (radio.confirmed command outcome).Owned nobody (terms radio.settings) := by
  refine .bind (awaited_owned link command) fun event => ?_
  split
  · exact .pure _
  · exact .throw nofun

/-- A seek is owned by its session. -/
theorem seekWith_owned (link : radio.link.Orderly nobody (terms radio.settings))
    (command : Command) (start : Option Frequency) :
    (radio.seekWith command start).Owned nobody (terms radio.settings) := by
  refine .bind (awaited_owned link command) fun event => ?_
  split
  · exact .pure _
  · exact .pure none

/-- A session on an orderly link is orderly. -/
theorem session_orderly {body : Attempt σ α}
    (owned : body.Owned nobody (terms radio.settings)) :
    (radio.controller.session body).Orderly nobody (terms radio.settings) :=
  Controller.session_orderly owned rfl

/-- A command with a session of its own is orderly. -/
theorem operate_orderly (link : radio.link.Orderly nobody (terms radio.settings))
    (command : Command) (outcome : Event → Option α) :
    (radio.operate command outcome).Orderly nobody (terms radio.settings) :=
  session_orderly (confirmed_owned link command outcome)

/-- A command that no event confirms is orderly with a session of its own. -/
theorem perform_orderly (link : radio.link.Orderly nobody (terms radio.settings))
    (command : Command) : (radio.perform command).Orderly nobody (terms radio.settings) :=
  .bind (session_orderly (Controller.execute_owned link rfl command)) fun _ => .pure ()

/-- Turning on is orderly. -/
theorem powerUp_orderly (link : radio.link.Orderly nobody (terms radio.settings))
    (frequency : Frequency) :
    (radio.powerUp frequency).Orderly nobody (terms radio.settings) := by
  refine .bind (requireTunable_orderly frequency) fun _ => session_orderly ?_
  refine .bind (confirmed_owned link _ _) fun _ => ?_
  refine .bind (Controller.tune_owned link rfl frequency) fun _ => ?_
  exact .bind (confirmed_owned link _ _) fun _ => confirmed_owned link _ _

/-- Turning off is orderly. -/
theorem powerDown_orderly (link : radio.link.Orderly nobody (terms radio.settings)) :
    radio.powerDown.Orderly nobody (terms radio.settings) :=
  .bind (.lift .requestStop) fun _ => operate_orderly link _ _

/-- Tuning is orderly. -/
theorem tune_orderly (link : radio.link.Orderly nobody (terms radio.settings))
    (frequency : Frequency) :
    (radio.tune frequency).Orderly nobody (terms radio.settings) := by
  refine .bind (requireTunable_orderly frequency) fun _ => ?_
  exact .bind (session_orderly (Controller.tune_owned link rfl frequency)) fun _ => .pure ()

/-- A seek from the tuned frequency with a session of its own is orderly. -/
theorem seekHere_orderly (link : radio.link.Orderly nobody (terms radio.settings))
    (command : Command) :
    (radio.controller.session do
      radio.seekWith command (← Attempt.core).state.tuned).Orderly nobody
        (terms radio.settings) :=
  session_orderly (.bind .core fun _ => seekWith_owned link command _)

/-- A seek from a frequency is orderly. -/
theorem seekFrom_orderly (link : radio.link.Orderly nobody (terms radio.settings))
    (frequency : Frequency) (direction : Direction) :
    (radio.seekFrom frequency direction).Orderly nobody (terms radio.settings) := by
  refine .bind (requireTunable_orderly frequency) fun _ => session_orderly ?_
  exact .bind (Controller.tune_owned link rfl frequency) fun _ => seekWith_owned link _ _

/-- A seek within bounds is orderly. -/
theorem seekRange_orderly (link : radio.link.Orderly nobody (terms radio.settings))
    (first last : Frequency) (direction : Direction) :
    (radio.seekRange first last direction).Orderly nobody (terms radio.settings) :=
  .bind (requireTunable_orderly first) fun _ =>
    .bind (requireTunable_orderly last) fun _ => seekHere_orderly link _

/-- The session of a sweep owns it, and it does not end by being turned away. -/
theorem sweepBand_owned (link : radio.link.Orderly nobody (terms radio.settings)) :
    Action.Owned nobody (terms radio.settings)
      (fun result => ∃ report : Sweep.Report, result = .ok report ∧ report.Welcome)
      radio.sweepBand.run := by
  have begun : Action.Owned nobody (terms radio.settings) (fun _ => True)
      (modify System.beginSweep : Action σ PUnit) := by
    intro system poised
    exact ⟨⟨⟨poised.busy, rfl⟩, poised.idle⟩, .single (.sweep system.bare poised.busy), trivial⟩
  have asked : Action.Orderly nobody (terms radio.settings)
      (do return (← get).stopRequested : Action σ Bool) :=
    .bind .get fun system => .pure _
  intro system poised
  obtain ⟨poised', taken, _⟩ := begun system poised
  have swept : Action.Owned nobody (terms radio.settings) Sweep.Report.Welcome _ :=
    Sweep.run_owned (show radio.controller.link.Orderly nobody (terms radio.settings) from link) rfl
      { band := system.core.band
        minSignal := radio.settings.minSignal
        method := radio.settings.scanMethod } asked
  obtain ⟨poised'', taken', welcome⟩ := swept _ poised'
  exact ⟨poised'', taken.trans taken', _, rfl, welcome⟩

/-- Attaching is orderly. -/
theorem attach_orderly (link : radio.link.Orderly nobody (terms radio.settings)) :
    radio.attach.Orderly nobody (terms radio.settings) :=
  Controller.attach_orderly link

/-- A sweep of the band is orderly. -/
theorem autoScan_orderly (link : radio.link.Orderly nobody (terms radio.settings)) :
    radio.autoScan.Orderly nobody (terms radio.settings) := by
  refine session_orderly fun system poised => ?_
  obtain ⟨poised', taken, report, found, _⟩ := sweepBand_owned link system poised
  refine ⟨poised', taken, ?_⟩
  rw [found]
  nofun

/-- A sweep is asked to stop, and then the seek in progress is ended. -/
theorem stopScan_run (system : System σ) :
    radio.stopScan.run.run system =
      (radio.controller.submitUnawaited .abortSeek).run.run system.requestStop := rfl

/-- Asking a sweep to stop is orderly. -/
theorem stopScan_orderly (link : radio.link.Orderly nobody (terms radio.settings)) :
    radio.stopScan.Orderly nobody (terms radio.settings) where
  action system := by
    have asked : System.Orderly nobody (terms radio.settings) system system.requestStop :=
      .of_aside rfl (.stop system.bare)
    have allowed : EndsSeek system.requestStop.history .abortSeek := ⟨rfl, _, _, rfl, rfl⟩
    exact asked.trans (Controller.submitUnawaited_orderly link allowed)
  welcome _ system _ := by
    rw [stopScan_run]
    exact Controller.submitUnawaited_ne_busy _ _

/-- Following alternate frequencies is orderly. -/
theorem activateAf_orderly (link : radio.link.Orderly nobody (terms radio.settings)) :
    radio.activateAf.Orderly nobody (terms radio.settings) := by
  refine .bind (operate_orderly link _ _) fun _ => .bind .core fun core => ?_
  split
  · exact .pure _
  · exact .throw nofun

/-- Reporting an update of the radio texts is orderly. -/
theorem readRds_orderly {terms : Terms} :
    Action.Orderly nobody terms (readRds : Action σ UInt16) := by
  refine .bind .core fun core => ?_
  split
  · exact .drain
  · exact .pure 0

/-- Changing the region is orderly. -/
theorem setRegion_orderly (link : radio.link.Orderly nobody (terms radio.settings))
    (region : Region) : (radio.setRegion region).Orderly nobody (terms radio.settings) := by
  refine .bind (operate_orderly link _ _) fun _ => ?_
  split
  · exact .lift (.setBand _)
  · exact .pure ()

/-- Asking for a fresh status is orderly. -/
theorem refreshStatus_orderly (link : radio.link.Orderly nobody (terms radio.settings)) :
    radio.refreshStatus.Orderly nobody (terms radio.settings) :=
  .bind (session_orderly (awaited_owned link _)) fun _ => .bind .core fun _ => .pure _

/-- Releasing the link is orderly. -/
theorem close_orderly (link : radio.link.Orderly nobody (terms radio.settings)) :
    Action.Orderly nobody (terms radio.settings) radio.close :=
  .bind .requestStop fun _ => Controller.detach_orderly link

/-- A look at what is known is orderly. -/
theorem look_orderly {terms : Terms} (read : Core → α) :
    Action.Orderly nobody terms (do return read (← Action.core) : Action σ α) :=
  .bind .core fun _ => .pure _

/-- The fault that a call came to. -/
def Answer.fault? : Answer → Option Fault
  | .done result => Fault.ofResult? result
  | .sought result => Fault.ofResult? result
  | .swept result => Fault.ofResult? result
  | .channel result => Fault.ofResult? result
  | .level result => Fault.ofResult? result
  | .refreshed result => Fault.ofResult? result
  | _ => none

/-- How a call is answered: with what an orderly attempt comes to, fault and all, or after an
orderly action with something that is no fault. -/
inductive Answered (radio : Radio σ) (call : Call) : Prop
  /-- What the attempt comes to is reported. -/
  | attempt {α : Type} {attempt : Attempt σ α} (wrap : Except Fault α → Answer)
      (made : radio.answer call = wrap <$> attempt.run)
      (orderly : attempt.Orderly nobody (terms radio.settings))
      (reports : ∀ result, (wrap result).fault? = Fault.ofResult? result)
  /-- The action cannot fail. -/
  | action {α : Type} {action : Action σ α} (wrap : α → Answer)
      (made : radio.answer call = wrap <$> action)
      (orderly : Action.Orderly nobody (terms radio.settings) action)
      (faultless : ∀ value, (wrap value).fault? = none)

/-- Every call is answered in an orderly way on an orderly link. -/
theorem answered (link : radio.link.Orderly nobody (terms radio.settings)) (call : Call) :
    Answered radio call := by
  cases call with
  | attach => exact .attempt _ rfl (attach_orderly link) fun _ => rfl
  | close => exact .action (fun _ => .nothing) rfl (close_orderly link) fun _ => rfl
  | isOpen => exact .action .flag rfl (look_orderly _) fun _ => rfl
  | powerUp frequency => exact .attempt _ rfl (powerUp_orderly link frequency) fun _ => rfl
  | powerDown => exact .attempt _ rfl (powerDown_orderly link) fun _ => rfl
  | tune frequency => exact .attempt _ rfl (tune_orderly link frequency) fun _ => rfl
  | tunedFrequency => exact .action .frequency rfl (look_orderly _) fun _ => rfl
  | seek direction => exact .attempt _ rfl (seekHere_orderly link _) fun _ => rfl
  | seekFrom frequency direction =>
    exact .attempt _ rfl (seekFrom_orderly link frequency direction) fun _ => rfl
  | seekRds direction condition value =>
    exact .attempt _ rfl (seekHere_orderly link _) fun _ => rfl
  | seekRange first last direction =>
    exact .attempt _ rfl (seekRange_orderly link first last direction) fun _ => rfl
  | autoScan => exact .attempt _ rfl (autoScan_orderly link) fun _ => rfl
  | stopScan => exact .attempt _ rfl (stopScan_orderly link) fun _ => rfl
  | setRds on => exact .attempt _ rfl (operate_orderly link _ _) fun _ => rfl
  | activateAf => exact .attempt _ rfl (activateAf_orderly link) fun _ => rfl
  | readRds => exact .action .number rfl readRds_orderly fun _ => rfl
  | programService => exact .action .text rfl (look_orderly _) fun _ => rfl
  | radioText => exact .action .text rfl (look_orderly _) fun _ => rfl
  | setMute on => exact .attempt _ rfl (operate_orderly link _ _) fun _ => rfl
  | rdsSupport => exact .action .number rfl (.pure rdsSupport.code.toUInt16) fun _ => rfl
  | switchAntenna antenna =>
    exact .action .number rfl (.pure (switchAntenna antenna).code.toUInt16) fun _ => rfl
  | setAudioMode mode => exact .attempt _ rfl (operate_orderly link _ _) fun _ => rfl
  | setAudioPath path => exact .attempt _ rfl (operate_orderly link _ _) fun _ => rfl
  | setVolume volume => exact .attempt _ rfl (operate_orderly link _ _) fun _ => rfl
  | setRegion region => exact .attempt _ rfl (setRegion_orderly link region) fun _ => rfl
  | estimateNoiseFloor precision => exact .attempt _ rfl (operate_orderly link _ _) fun _ => rfl
  | setLivePolling enabled intervalUs =>
    exact .attempt _ rfl (perform_orderly link _) fun _ => rfl
  | setSnrThreshold threshold => exact .attempt _ rfl (perform_orderly link _) fun _ => rfl
  | setStepSize step => exact .attempt _ rfl (perform_orderly link _) fun _ => rfl
  | refreshStatus => exact .attempt _ rfl (refreshStatus_orderly link) fun _ => rfl
  | band => exact .action .band rfl (look_orderly Core.band) fun _ => rfl
  | settings => exact .action .settings rfl (.pure radio.settings) fun _ => rfl

/-- Every operation of a radio is orderly on an orderly link. -/
theorem answer_orderly (link : radio.link.Orderly nobody (terms radio.settings)) (call : Call) :
    Action.Orderly nobody (terms radio.settings) (radio.answer call) := by
  cases answered link call with
  | attempt wrap made orderly _ =>
    rw [made]
    exact orderly.action.map wrap
  | action wrap made orderly _ =>
    rw [made]
    exact orderly.map wrap

/-- The link to any peer is orderly, with calls nested to any depth. -/
theorem ofPeer_link (settings : Settings) (peer : Peer σ Call Answer) (depth : Nat) :
    (ofPeer settings peer depth).link.Orderly nobody (terms settings) :=
  Peer.link_orderly (fun stimulus => (peer stimulus).honest_nobody)
    (fun link orderly call => @answer_orderly σ ⟨settings, link⟩ orderly call) depth

end Radio

end Tuner
