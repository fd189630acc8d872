import Mathlib.Data.List.Forall2
import Tuner.Proofs.Endings
import Tuner.Proofs.NoTrace
import Tuner.Proofs.TuneOutcome

/-!
# Instructions in turn

An operation that needs several commands gives them in one session, one instruction after another:
a command, and what the event that it ends with must report. It goes on only when that was
reported, and otherwise fails at once: at the command that was not confirmed, or because the next
one does not pass its check any more, whatever happened in the meantime. Nothing is taken back and
nothing is tried again.

Main statement: `Radio.powerUp_in_turn`, for the four instructions of turning on.
-/
namespace Tuner

namespace Radio

/-- A command, and what must be reported for it to be confirmed. -/
structure Instruction where
  /-- The command. -/
  command : Command
  /-- The one frequency that its event must report. -/
  expected : Option Frequency := none
  /-- What must be reported. -/
  outcome : Event → Option Unit

namespace Instruction

/-- What is made of how the command of an instruction ended. -/
def verdict (instruction : Instruction) (timeout : Nat) (ending : Moment) : Except Fault Unit :=
  ending.result instruction.expected timeout >>= judge instruction.command instruction.outcome

/-- An instruction whose command is waited for, and whose command ends well with every event that
reports what must be reported. -/
structure Sound (instruction : Instruction) : Prop where
  /-- The command is not the end of a seek. -/
  own : instruction.command ≠ .abortSeek
  /-- The command is waited for. -/
  awaits : ∃ tag, instruction.command.awaited? = some tag
  /-- No other frequency is expected. -/
  fits : ∀ event, instruction.outcome event = some () →
    Core.confirm instruction.expected event = .ok event

/-- The command of an instruction was confirmed where it ended: the link accepted it, and the event
that it was told reports what must be reported. -/
structure Confirmed (timeout : Nat) (instruction : Instruction) (ending : Moment) : Prop where
  /-- The link did not refuse it. -/
  accepted : ending.occurrence = .settling
  /-- The operation was told an event that reports an outcome. -/
  reported : ∃ event, ending.core.told timeout = .ok event ∧ instruction.outcome event = some ()

variable {instruction : Instruction} {timeout : Nat} {ending : Moment}

/-- The verdict is good exactly if the command was confirmed. -/
theorem verdict_eq_ok_iff (sound : instruction.Sound) (ends : ending.endsCommand = true) :
    instruction.verdict timeout ending = .ok () ↔ instruction.Confirmed timeout ending := by
  have judged : ∀ event, judge instruction.command instruction.outcome event = .ok () ↔
      instruction.outcome event = some () := by
    intro event
    unfold judge
    cases instruction.outcome event with
    | none => exact ⟨nofun, nofun⟩
    | some value => exact ⟨fun _ => rfl, fun _ => rfl⟩
  constructor
  · intro good
    cases result : ending.result instruction.expected timeout with
    | error fault =>
      rw [verdict, result] at good
      contradiction
    | ok event =>
      rw [verdict, result] at good
      obtain ⟨settled, told, _⟩ := Moment.result_eq_ok ends result
      exact ⟨settled, event, told, (judged event).1 good⟩
  · rintro ⟨accepted, event, told, reported⟩
    have confirmed : ending.result instruction.expected timeout = .ok event := by
      rw [Moment.result, accepted]
      dsimp only
      rw [told]
      exact sound.fits event reported
    rw [verdict, confirmed]
    exact (judged event).2 reported

end Instruction

/-! ## One instruction after another -/

/-- How instructions were given up to the first that failed: what was recorded, what they came to,
and the core that was left. -/
inductive Given (listeners : List Nat) (timeout : Nat) :
    List Instruction → List Moment → Except Fault Unit → Core → Prop
  /-- No instructions are left. -/
  | finished (core : Core) : Given listeners timeout [] [] (.ok ()) core
  /-- The next command does not pass its check. -/
  | barred {core : Core} {next : Instruction} {rest : List Instruction} {fault : Fault}
      (checked : core.check next.command = .error fault) :
      Given listeners timeout (next :: rest) [] (.error fault) core
  /-- The next command is not confirmed. -/
  | failed {core : Core} {next : Instruction} {rest : List Instruction} {fault : Fault}
      {window : List Moment} {ending : Moment}
      (ran : Controller.Ran listeners next.command window ending)
      (verdict : next.verdict timeout ending = .error fault) :
      Given listeners timeout (next :: rest) window (.error fault) core
  /-- The next command is confirmed, and then the rest are given. -/
  | passed {core : Core} {next : Instruction} {rest : List Instruction}
      {result : Except Fault Unit} {window later : List Moment} {ending : Moment}
      (ran : Controller.Ran listeners next.command window ending)
      (verdict : next.verdict timeout ending = .ok ())
      (given : Given listeners timeout rest later result core) :
      Given listeners timeout (next :: rest) (later ++ window) result core

/-- What was recorded is that commands ran one after another, and nothing else. -/
inductive Runs (listeners : List Nat) : List Command → List Moment → List Moment → Prop
  /-- No commands are left. -/
  | finished : Runs listeners [] [] []
  /-- The first one ran, and then the rest did. -/
  | next {command : Command} {ending : Moment} {window later : List Moment}
      {commands : List Command} {endings : List Moment}
      (ran : Controller.Ran listeners command window ending)
      (runs : Runs listeners commands endings later) :
      Runs listeners (command :: commands) (ending :: endings) (later ++ window)

/-- What a session comes to that gives instructions in turn, given what was recorded in it and the
core that it left. -/
structure InTurn (listeners : List Nat) (timeout : Nat) (instructions : List Instruction)
    (window : List Moment) (result : Except Fault Unit) (core : Core) : Prop where
  /-- The session does nothing but run the commands that it submits. -/
  runs : Runs listeners (submittedIn window) (endedIn window) window
  /-- The commands are those of the instructions in their order, as far as the session gets. -/
  submits : submittedIn window <+: instructions.map Instruction.command
  /-- The session succeeds exactly if all were submitted and confirmed. -/
  succeeds : result = .ok () ↔
    submittedIn window = instructions.map Instruction.command ∧
      List.Forall₂ (Instruction.Confirmed timeout) instructions (endedIn window)
  /-- If the session fails, those before were confirmed, and either the last command that it
  submitted was not, or the next one did not pass its check. -/
  fails : ∀ fault, result = .error fault → ∃ passed next rest confirmed,
    instructions = passed ++ next :: rest ∧
    List.Forall₂ (Instruction.Confirmed timeout) passed confirmed ∧
    ((∃ ending, submittedIn window = (passed ++ [next]).map Instruction.command ∧
        endedIn window = confirmed ++ [ending] ∧ next.verdict timeout ending = .error fault) ∨
      (submittedIn window = passed.map Instruction.command ∧ endedIn window = confirmed ∧
        core.check next.command = .error fault))

variable {listeners : List Nat} {timeout : Nat} {instructions : List Instruction}
  {window : List Moment} {result : Except Fault Unit} {core : Core}

namespace Given

/-- As far as instructions are given, their commands are submitted in their order. -/
theorem submits (given : Given listeners timeout instructions window result core) :
    submittedIn window <+: instructions.map Instruction.command := by
  induction given with
  | finished => exact List.nil_prefix
  | barred => exact List.nil_prefix
  | @failed core next rest fault window ending ran verdict =>
    rw [ran.counts.1]
    exact ⟨rest.map Instruction.command, rfl⟩
  | passed ran verdict given ih =>
    rw [submittedIn_append, ran.counts.1]
    exact (List.prefix_append_right_inj [_]).2 ih

/-- While instructions are given, nothing is recorded but that their commands run. -/
theorem runs (given : Given listeners timeout instructions window result core) :
    Runs listeners (submittedIn window) (endedIn window) window := by
  induction given with
  | finished => exact .finished
  | barred => exact .finished
  | failed ran verdict =>
    rw [ran.counts.1, ran.counts.2]
    exact .next ran .finished
  | passed ran verdict given ih =>
    rw [submittedIn_append, endedIn_append, ran.counts.1, ran.counts.2]
    exact .next ran ih

/-- Instructions succeed exactly if all of them are submitted and confirmed. -/
theorem succeeds (given : Given listeners timeout instructions window result core)
    (sound : ∀ instruction ∈ instructions, instruction.Sound) :
    result = .ok () ↔
      submittedIn window = instructions.map Instruction.command ∧
        List.Forall₂ (Instruction.Confirmed timeout) instructions (endedIn window) := by
  induction given with
  | finished => exact ⟨fun _ => ⟨rfl, .nil⟩, fun _ => rfl⟩
  | barred => exact ⟨nofun, fun ⟨all, _⟩ => absurd all nofun⟩
  | failed ran verdict =>
    refine ⟨nofun, fun ⟨_, confirmed⟩ => ?_⟩
    rw [ran.counts.2] at confirmed
    obtain ⟨confirmed, _⟩ := List.forall₂_cons.1 confirmed
    have good := (Instruction.verdict_eq_ok_iff (sound _ List.mem_cons_self) ran.ends).2 confirmed
    exact absurd (verdict.symm.trans good) nofun
  | passed ran verdict given ih =>
    obtain ⟨sound, sounds⟩ := List.forall_mem_cons.1 sound
    have confirmed := (Instruction.verdict_eq_ok_iff sound ran.ends).1 verdict
    rw [submittedIn_append, endedIn_append, ran.counts.1, ran.counts.2, ih sounds]
    simp [confirmed]

/-- If instructions fail, one of them does, and those before it are confirmed. -/
theorem fails (given : Given listeners timeout instructions window result core)
    (sound : ∀ instruction ∈ instructions, instruction.Sound) {fault : Fault}
    (failed : result = .error fault) : ∃ passed next rest confirmed,
      instructions = passed ++ next :: rest ∧
      List.Forall₂ (Instruction.Confirmed timeout) passed confirmed ∧
      ((∃ ending, submittedIn window = (passed ++ [next]).map Instruction.command ∧
          endedIn window = confirmed ++ [ending] ∧ next.verdict timeout ending = .error fault) ∨
        (submittedIn window = passed.map Instruction.command ∧ endedIn window = confirmed ∧
          core.check next.command = .error fault)) := by
  induction given with
  | finished => contradiction
  | @barred core next rest fault' checked =>
    obtain rfl := Except.error.inj failed
    exact ⟨[], next, rest, [], rfl, .nil, .inr ⟨rfl, rfl, checked⟩⟩
  | @failed core next rest fault' window ending ran verdict =>
    obtain rfl := Except.error.inj failed
    exact ⟨[], next, rest, [], rfl, .nil, .inl ⟨ending, ran.counts.1, ran.counts.2, verdict⟩⟩
  | @passed core first rest result window later ending ran verdict given ih =>
    obtain ⟨sound, sounds⟩ := List.forall_mem_cons.1 sound
    have done := (Instruction.verdict_eq_ok_iff sound ran.ends).1 verdict
    obtain ⟨passed, next, rest, confirmed, rfl, before, outcome⟩ := ih sounds failed
    refine ⟨first :: passed, next, rest, ending :: confirmed, rfl, .cons done before, ?_⟩
    rw [submittedIn_append, endedIn_append, ran.counts.1, ran.counts.2]
    refine outcome.imp ?_ ?_
    · rintro ⟨last, submitted, ended, verdict⟩
      exact ⟨last, congrArg (List.cons _) submitted, congrArg (List.cons _) ended, verdict⟩
    · rintro ⟨submitted, ended, checked⟩
      exact ⟨congrArg (List.cons _) submitted, congrArg (List.cons _) ended, checked⟩

/-- Instructions that are given are given in turn. What a check does not look at makes no difference
to that. -/
theorem inTurn (given : Given listeners timeout instructions window result core)
    (sound : ∀ instruction ∈ instructions, instruction.Sound) {core' : Core}
    (same : ∀ command, core'.check command = core.check command) :
    InTurn listeners timeout instructions window result core' where
  runs := given.runs
  submits := given.submits
  succeeds := given.succeeds sound
  fails fault failed := by
    simp only [same]
    exact given.fails sound failed

end Given

/-! ## Attempts that give instructions -/

section Attempts

variable {σ α : Type} {controller : Controller σ} {instruction : Instruction}

/-- An attempt that gives one instruction: it comes to what is made of the event that its command
comes to, and does nothing else. -/
structure Gives (controller : Controller σ) (instruction : Instruction)
    (attempt : Attempt σ α) : Prop where
  /-- Given what the command comes to, and that its event serves it and is confirmed. -/
  comes : ∀ {system ended : System σ} {result : Except Fault Event},
    (controller.run instruction.command instruction.expected).run.run system =
      (some <$> result, ended) →
    (∀ event, result = .ok event →
      (∃ tag, instruction.command.awaited? = some tag ∧ tag.accepts event.tag = true) ∧
        Core.confirm instruction.expected event = .ok event) →
    ∃ outcome : Except Fault α, attempt.run.run system = (outcome, ended) ∧
      outcome.map (fun _ => ()) = result >>= judge instruction.command instruction.outcome

/-- A command whose event must report an outcome gives that instruction. -/
theorem Gives.confirmed (radio : Radio σ) (command : Command) (outcome : Event → Option Unit) :
    Gives radio.controller ⟨command, none, outcome⟩ (radio.confirmed command outcome) := by
  constructor
  intro system ended result ran _
  refine ⟨_, confirmed_of_run ran, ?_⟩
  cases result >>= judge command outcome <;> rfl

/-- Whether a status report is of a frequency. -/
def reportsFrequency (frequency : Frequency) : Event → Option Unit
  | .status report => if report.frequency = frequency then some () else none
  | _ => none

/-- A tune gives the instruction to report its frequency. -/
theorem Gives.tune (controller : Controller σ) (frequency : Frequency) :
    Gives controller ⟨.tune frequency, some frequency, reportsFrequency frequency⟩
      (controller.tune frequency) := by
  constructor
  intro system ended result ran told
  refine ⟨result, Controller.tune_of_run ran, ?_⟩
  cases result with
  | error fault => rfl
  | ok event =>
    obtain ⟨⟨tag, awaits, accepts⟩, confirmed⟩ := told event rfl
    obtain rfl := Option.some.inj awaits
    have status : event.tag = .status := by
      cases same : event.tag <;> rw [same] at accepts <;> first | rfl | contradiction
    obtain ⟨report, rfl⟩ := Event.eq_status_of_tag status
    have found : report.frequency = frequency := by
      by_contra other
      rw [Core.confirm_status, if_neg other] at confirmed
      contradiction
    have judged : judge (.tune frequency) (reportsFrequency frequency) (.status report) =
        .ok () := by
      simp [judge, reportsFrequency, found]
    exact judged.symm

/-- An attempt that gives instructions one after another. -/
inductive Follows (controller : Controller σ) : List Instruction → Attempt σ Unit → Prop
  /-- An attempt without instructions does nothing. -/
  | finished : Follows controller [] (pure ())
  /-- The first one is given, and then the rest. -/
  | next {α : Type} {first : Attempt σ α} {instruction : Instruction}
      {instructions : List Instruction} {rest : Attempt σ Unit}
      (gives : Gives controller instruction first)
      (follows : Follows controller instructions rest) :
      Follows controller (instruction :: instructions) (first >>= fun _ => rest)

/-- One instruction may be given by itself. -/
theorem Follows.single {attempt : Attempt σ Unit} (gives : Gives controller instruction attempt) :
    Follows controller [instruction] attempt := by
  have whole := Follows.next gives .finished
  rwa [bind_pure_unit] at whole

variable {held : σ → Bool} {terms : Terms} {band : Band} {system : System σ}

/-- One instruction is barred, or runs its command to an end. -/
theorem Gives.given (link : controller.link.Orderly held terms)
    (deadline : controller.timeout = terms.timeout)
    (silent : ∀ before command, terms.unawaited before command → command = .abortSeek)
    (sound : instruction.Sound) {attempt : Attempt σ α}
    (gives : Gives controller instruction attempt)
    (taken : System.Steps terms (.fresh band) system.bare) (poised : System.Poised held system) :
    (∃ fault, system.core.check instruction.command = .error fault ∧
      attempt.run.run system = (.error fault, system)) ∨
    ∃ window ending ended, ∃ outcome : Except Fault α,
      attempt.run.run system = (outcome, ended) ∧
      outcome.map (fun _ => ()) = instruction.verdict controller.timeout ending ∧
      ended.history = window ++ system.history ∧ system.listeners <+: ended.listeners ∧
      Controller.Ran ended.listeners instruction.command window ending ∧
      System.Steps terms (.fresh band) ended.bare ∧ System.Poised held ended := by
  obtain ⟨tag, awaits⟩ := sound.awaits
  rcases Controller.run_ran link silent taken poised awaits sound.own instruction.expected with
    ⟨fault, checked, run⟩ | ⟨window, ending, ended, run, history, listeners, ran⟩
  · left
    obtain ⟨outcome, made, same⟩ :=
      @Gives.comes _ _ _ _ _ gives system system (.error fault) run nofun
    cases outcome with
    | error fault' =>
      obtain rfl := Except.error.inj same
      exact ⟨fault', checked, made⟩
    | ok value => cases same
  · right
    have owned :=
      Controller.run_owned link deadline instruction.command instruction.expected system poised
    rw [show (controller.run instruction.command instruction.expected).run.run system = _ from run]
      at owned
    have answers : ∀ event, ending.result instruction.expected controller.timeout = .ok event →
        (∃ tag, instruction.command.awaited? = some tag ∧ tag.accepts event.tag = true) ∧
          Core.confirm instruction.expected event = .ok event := by
      intro event comes
      obtain ⟨_, told, confirmed⟩ := Moment.result_eq_ok ran.ends comes
      obtain ⟨_, _, _, _, _, _, _, answers⟩ := ran.course
      exact ⟨(answers event (.of_told told)).1, confirmed⟩
    obtain ⟨outcome, made, same⟩ := gives.comes run answers
    exact ⟨window, ending, ended, outcome, made, same, history, listeners, ran,
      taken.trans owned.2.1, owned.1⟩

/-- Instructions are given one after another, up to the first that fails. -/
theorem Follows.given (link : controller.link.Orderly held terms)
    (deadline : controller.timeout = terms.timeout)
    (silent : ∀ before command, terms.unawaited before command → command = .abortSeek)
    {instructions : List Instruction} {attempt : Attempt σ Unit}
    (follows : Follows controller instructions attempt)
    (sound : ∀ instruction ∈ instructions, instruction.Sound) {system : System σ}
    (taken : System.Steps terms (.fresh band) system.bare) (poised : System.Poised held system) :
    ∃ window result ended, attempt.run.run system = (result, ended) ∧
      ended.history = window ++ system.history ∧ system.listeners <+: ended.listeners ∧
      Given ended.listeners controller.timeout instructions window result ended.core := by
  induction follows generalizing system with
  | finished =>
    exact ⟨[], .ok (), system, rfl, rfl, List.prefix_rfl, .finished system.core⟩
  | @next α first instruction instructions rest gives follows ih =>
    obtain ⟨sound, sounds⟩ := List.forall_mem_cons.1 sound
    rcases gives.given link deadline silent sound taken poised with ⟨fault, checked, run⟩ |
      ⟨window, ending, middle, outcome, run, verdict, history, listeners, ran, taken', poised'⟩
    · exact ⟨[], .error fault, system, Attempt.bind_of_error run, rfl, List.prefix_rfl,
        .barred checked⟩
    · cases outcome with
      | error fault =>
        exact ⟨window, .error fault, middle, Attempt.bind_of_error run, history, listeners,
          .failed ran verdict.symm⟩
      | ok value =>
        obtain ⟨later, result, ended, run', history', listeners', given⟩ :=
          ih sounds taken' poised'
        refine ⟨later ++ window, result, ended, (Attempt.bind_of_ok run).trans run', ?_,
          listeners.trans listeners', .passed (ran.later listeners') verdict.symm given⟩
        rw [history', history, List.append_assoc]

end Attempts

/-! ## Turning on -/

section PowerUp

variable {σ : Type} {settings : Settings} {frequency : Frequency}

/-- The session in which the radio is turned on and tuned to a frequency. -/
def powerUpErrand (settings : Settings) (frequency : Frequency) : Errand :=
  { tunes := [frequency], command := .turnOn settings.functionality }

/-- The instructions of that: turn the radio on as the settings ask for, tune, route the audio and
set the volume as they have it. -/
def powerUpInstructions (settings : Settings) (frequency : Frequency) : List Instruction :=
  [⟨.turnOn settings.functionality, none, reportsPower true⟩,
    ⟨.tune frequency, some frequency, reportsFrequency frequency⟩,
    ⟨.setAudioPath settings.audioPath, none, reportsAudioPath settings.audioPath⟩,
    ⟨.setVolume settings.volume, none, reportsVolume settings.volume⟩]

/-- Each of these instructions makes sense. -/
theorem powerUpInstructions_sound (settings : Settings) (frequency : Frequency) :
    ∀ instruction ∈ powerUpInstructions settings frequency, instruction.Sound := by
  have free : ∀ (command : Command) (outcome : Event → Option Unit) (tag : Tag),
      command ≠ .abortSeek → command.awaited? = some tag →
        Instruction.Sound ⟨command, none, outcome⟩ :=
    fun command outcome tag own awaits => ⟨own, ⟨tag, awaits⟩, fun _ _ => rfl⟩
  have tunes : Instruction.Sound
      ⟨.tune frequency, some frequency, reportsFrequency frequency⟩ := by
    refine ⟨nofun, ⟨.status, rfl⟩, fun event reported => ?_⟩
    cases event with
    | status report =>
      have found : report.frequency = frequency := by
        simpa [reportsFrequency] using reported
      rw [Core.confirm_status, if_pos found]
    | _ => contradiction
  simp only [powerUpInstructions, List.forall_mem_cons]
  exact ⟨free _ _ .status nofun rfl, tunes, free _ _ .audioPath nofun rfl,
    free _ _ .volume nofun rfl, List.forall_mem_nil _⟩

/-- What is done in the session. -/
def powerUpBody (radio : Radio σ) (frequency : Frequency) : Attempt σ Unit := do
  radio.confirmed (.turnOn radio.settings.functionality) (reportsPower true)
  let _ ← radio.controller.tune frequency
  radio.confirmed (.setAudioPath radio.settings.audioPath)
    (reportsAudioPath radio.settings.audioPath)
  radio.confirmed (.setVolume radio.settings.volume) (reportsVolume radio.settings.volume)

/-- What is done in the session gives the instructions. -/
theorem powerUpBody_follows (radio : Radio σ) (frequency : Frequency) :
    Follows radio.controller (powerUpInstructions radio.settings frequency)
      (radio.powerUpBody frequency) :=
  .next (.confirmed radio _ _) <| .next (.tune radio.controller frequency) <|
    .next (.confirmed radio _ _) <| .single (.confirmed radio _ _)

/-- Turning on is turned away, or gives its instructions in a session. -/
theorem powerUp_run_body (radio : Radio σ) (frequency : Frequency) (system : System σ) :
    (radio.powerUp frequency).run.run system =
      match (powerUpErrand radio.settings frequency).opened radio.controller.timeout system with
      | .error fault => (.error fault, system)
      | .ok opened =>
        let (result, ended) := (radio.powerUpBody frequency).run.run opened
        (result, ended.become .releasing ended.core.release) := by
  have same : radio.powerUp frequency = (requireTunable frequency >>= fun _ =>
      radio.controller.session (radio.powerUpBody frequency)) := rfl
  rw [same, requireTunable_bind_run]
  cases tunable : system.core.band.requireTunable frequency with
  | error cause => rw [powerUpErrand, Errand.opened_of_untunable tunable]
  | ok channel =>
    have opened : (Errand.mk false [] (.turnOn radio.settings.functionality) none).opened
        radio.controller.timeout system = (system.core.claim system.clock
          radio.controller.timeout).map (system.become .claiming) := rfl
    rw [powerUpErrand, Errand.opened_of_tunable tunable, opened]
    dsimp only
    rw [Controller.session_run]
    cases system.core.claim system.clock radio.controller.timeout <;> rfl

end PowerUp

/-- Turning on gives its instructions in turn. On every link and for every frequency, in any system
that a radio may come to over any peer, at rest or with an operation under way: it is turned away
because the frequency cannot be tuned or the slot cannot be claimed, and does nothing; or all that
it does is to claim the slot, give its four instructions in turn, and give the slot back. So the
commands that it submits are the first of these four. It succeeds exactly if all four were
submitted, and each was accepted and told an event that reports what it must: a status report that
the radio is on, one of the frequency, the audio path, and the volume. It fails with what the last
command that it submitted came to, or because the next one does not pass its check. -/
theorem powerUp_in_turn {σ : Type} (settings : Settings) (peer : Peer σ Call Answer) (depth : Nat)
    (frequency : Frequency) {system : System σ} {band : Band}
    (taken : System.Steps (terms settings) (.fresh band) system.bare) :
    let radio := ofPeer settings peer depth
    let after := radio.after (.powerUp frequency) system
    ∃ result, radio.replyTo (.powerUp frequency) system = .done result ∧
      ((∃ fault, (powerUpErrand settings frequency).opened settings.timeoutMs.toNat system =
          .error fault ∧ result = .error fault ∧ after = system) ∨
        ∃ (releasing claiming : Moment) (window : List Moment),
          releasing.occurrence = .releasing ∧ claiming.occurrence = .claiming ∧
          after.history = releasing :: (window ++ claiming :: system.history) ∧
          InTurn after.listeners settings.timeoutMs.toNat (powerUpInstructions settings frequency)
            window result after.core) := by
  intro radio after
  have answered : radio.replyTo (.powerUp frequency) system =
      .done ((radio.powerUp frequency).run.run system).1 := rfl
  have left : after = ((radio.powerUp frequency).run.run system).2 := rfl
  have run := powerUp_run_body radio frequency system
  cases entered : (powerUpErrand settings frequency).opened settings.timeoutMs.toNat system with
  | error fault =>
    have run : (radio.powerUp frequency).run.run system = (.error fault, system) := by
      rw [run, show (powerUpErrand radio.settings frequency).opened radio.controller.timeout system
        = _ from entered]
    rw [run] at answered left
    exact ⟨_, answered, .inl ⟨fault, rfl, rfl, left⟩⟩
  | ok opened =>
    have enters := Errand.enters taken entered
    obtain ⟨core, _, rfl⟩ := Errand.opened_eq_ok entered
    have silent : ∀ before command, (terms settings).unawaited before command →
        command = .abortSeek := fun _ _ ends => ends.1
    have sound := powerUpInstructions_sound settings frequency
    obtain ⟨window, result, ended, body, history, _, given⟩ :=
      (powerUpBody_follows radio frequency).given (ofPeer_link settings peer depth) rfl silent sound
        (taken.trans enters.steps) enters.poised
    have run : (radio.powerUp frequency).run.run system =
        (result, ended.become .releasing ended.core.release) := by
      rw [run, show (powerUpErrand radio.settings frequency).opened radio.controller.timeout system
        = _ from entered]
      dsimp only
      rw [body]
    rw [run] at answered left
    rw [left]
    exact ⟨result, answered, .inr ⟨⟨.releasing, ended.core, ended.clock⟩,
      ⟨.claiming, system.core, system.clock⟩, window, rfl, rfl, congrArg (List.cons _) history,
      given.inTurn sound fun _ => rfl⟩⟩

end Radio

/-- A peer that is attached at once, turns on, and tunes; after that the radio is off again. -/
def Peer.fading : Peer Unit Radio.Call Radio.Answer
  | .attach listener => .notify listener .attached (.finish .ok)
  | .submit (.turnOn _) => .notify 0 (.event (.plainStatus ⟨8750⟩ true false)) (.finish .ok)
  | .submit (.tune frequency) =>
    .notify 0 (.event (.plainStatus frequency true false))
      (.notify 0 (.event (.plainStatus frequency false false)) (.finish .ok))
  | .submit _ | .detach | .await | .pause => .finish .ok

/-- A radio over such a peer. -/
def Radio.overFading : Radio Unit := Radio.ofPeer {} .fading 0

/-- What is left when that radio was attached. -/
def Radio.beforeFading : System Unit :=
  overFading.played (.call .attach fun _ => .finish .ok)
    { core := { band := Settings.band {} }, peer := () }

/-- Turning on gets there as far as the tune, since the radio is off by the time of the audio path.
-/
theorem Radio.powerUp_in_turn_fading :
    let after := overFading.after (.powerUp ⟨9870⟩) beforeFading
    overFading.replyTo (.powerUp ⟨9870⟩) beforeFading = .done (.error .radioOff) ∧
      ∃ window, submittedIn window = [.turnOn (Settings.functionality {}), .tune ⟨9870⟩] ∧
        InTurn after.listeners 5000 (powerUpInstructions {} ⟨9870⟩) window (.error .radioOff)
          after.core := by
  intro after
  have taken : System.Steps (terms {}) (.fresh (Settings.band {})) beforeFading.bare :=
    (Radio.play_steps rfl .fading 0 _).2
  have comes : ((overFading.powerUp ⟨9870⟩).run.run beforeFading).1 = .error .radioOff := by
    decide +kernel
  have replied : overFading.replyTo (.powerUp ⟨9870⟩) beforeFading = .done (.error .radioOff) :=
    congrArg Answer.done comes
  have opens : ((powerUpErrand {} ⟨9870⟩).opened 5000 beforeFading).toOption.isSome = true := by
    decide +kernel
  have submitted : submittedIn after.history =
      [.turnOn (Settings.functionality {}), .tune ⟨9870⟩] := by decide +kernel
  have before : submittedIn beforeFading.history = [] := by decide +kernel
  obtain ⟨result, same,
    turned | ⟨releasing, claiming, window, releases, claims, history, inTurn⟩⟩ :=
    powerUp_in_turn {} .fading 0 ⟨9870⟩ taken
  · obtain ⟨fault, turned, _⟩ := turned
    rw [show (powerUpErrand {} ⟨9870⟩).opened 5000 beforeFading = _ from turned] at opens
    contradiction
  · have whole : submittedIn after.history =
        submittedIn beforeFading.history ++ submittedIn window := by
      have closing : submittedIn [releasing] = [] := by
        simp [submittedIn, Moment.submitted?, releases]
      have opening : submittedIn [claiming] = [] := by
        simp [submittedIn, Moment.submitted?, claims]
      rw [show after.history = [releasing] ++ (window ++ ([claiming] ++ beforeFading.history))
        from history]
      simp only [submittedIn_append, closing, opening, List.append_nil]
    have result' : result = .error .radioOff := Answer.done.inj (same.symm.trans replied)
    rw [before, submitted, List.nil_append] at whole
    exact ⟨replied, window, whole.symm, result' ▸ inTurn⟩

end Tuner
