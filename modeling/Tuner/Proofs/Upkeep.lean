import Tuner.Proofs.Radio

/-!
# What a radio keeps up

A property of systems that holds between the calls of a radio is one thing, and what holds while a
session of it is under way is another: claiming the slot leads from the first to the second and
giving it back leads back. `Radio.Upkeep` lists what has to be known of the few things that a radio
is made of. Every call then keeps the property, whatever its arguments, and fails for no other
reason than these do. Every operation is gone through once for that, here.

While a session is under way its band stands still, so a frequency that was checked before can still
be tuned when its command is run. The property of a session is therefore one for each band.

The other end of the link is gone through once as well. What it cannot undo by itself is kept
by a link at every depth, if the calls that it makes back keep it.
-/
namespace Tuner

/-! ## What actions keep -/

namespace Action

variable {σ α β : Type} (kept : System σ → Prop)

/-- An action that keeps something of a system, with a result that is fit to go on with. -/
def Keeps (fit : α → Prop) (action : Action σ α) : Prop :=
  ∀ system, kept system → kept (action.run system).2 ∧ fit (action.run system).1

variable {kept} {fit : α → Prop}

/-- Doing nothing keeps everything. -/
theorem Keeps.pure {value : α} (fits : fit value) : Keeps kept fit (Pure.pure value : Action σ α) :=
  fun _ keeping => ⟨keeping, fits⟩

/-- What each of two actions keeps is kept by one after the other. -/
theorem Keeps.bind {fit' : β → Prop} {first : Action σ α} {next : α → Action σ β}
    (before : Keeps kept fit first) (after : ∀ value, fit value → Keeps kept fit' (next value)) :
    Keeps kept fit' (first >>= next) := by
  intro system keeping
  obtain ⟨keeping', fits⟩ := before system keeping
  exact after _ fits _ keeping'

/-- A result may be read differently. -/
theorem Keeps.map {fit' : β → Prop} {action : Action σ α} (keeps : Keeps kept fit action)
    {f : α → β} (fits : ∀ value, fit value → fit' (f value)) : Keeps kept fit' (f <$> action) := by
  intro system keeping
  obtain ⟨keeping', fit⟩ := keeps system keeping
  exact ⟨keeping', fits _ fit⟩

/-- Looking at the system keeps everything. -/
theorem Keeps.get : Keeps kept (fun _ => True) (get : Action σ (System σ)) :=
  fun _ keeping => ⟨keeping, trivial⟩

/-- Looking at the core keeps everything. -/
theorem Keeps.core : Keeps kept (fun _ => True) (core : Action σ Core) :=
  fun _ keeping => ⟨keeping, trivial⟩

/-- A change keeps what it keeps of every system. -/
theorem Keeps.modify {change : System σ → System σ}
    (keeps : ∀ system, kept system → kept (change system)) :
    Keeps kept (fun _ => True) (modify change : Action σ PUnit) :=
  fun system keeping => ⟨keeps system keeping, trivial⟩

end Action

namespace Attempt

variable {σ α β : Type} (kept : System σ → Prop) (fit : Fault → Prop)

/-- An attempt that leads from a system to one of some kind, and fails for fit reasons only. -/
def Ends (attempt : Attempt σ α) (system : System σ) : Prop :=
  kept (attempt.run.run system).2 ∧
    ∀ fault, (attempt.run.run system).1 = .error fault → fit fault

/-- An attempt that keeps something of every system, and fails for fit reasons only. -/
def Upholds (attempt : Attempt σ α) : Prop :=
  ∀ system, kept system → attempt.Ends kept fit system

variable {kept} {fit}

/-- An attempt that upholds something is an action that keeps it. -/
theorem Upholds.keeps {attempt : Attempt σ α} (upholds : attempt.Upholds kept fit) :
    Action.Keeps kept (fun result => ∀ fault, result = .error fault → fit fault) attempt.run :=
  upholds

/-- Coming to a result keeps everything. -/
theorem Upholds.result {result : Except Fault α}
    (fits : ∀ fault, result = .error fault → fit fault) :
    (ofResult result : Attempt σ α).Upholds kept fit :=
  fun _ keeping => ⟨keeping, fits⟩

/-- Doing nothing keeps everything. -/
theorem Upholds.pure (value : α) : (Pure.pure value : Attempt σ α).Upholds kept fit :=
  .result nofun

/-- An attempt may fail for a fit reason. -/
theorem Upholds.throw {fault : Fault} (fits : fit fault) :
    (MonadExcept.throw fault : Attempt σ α).Upholds kept fit :=
  .result fun _ same => Except.error.inj same ▸ fits

/-- Where an attempt leads, another may go on. -/
theorem Ends.bind {first : Attempt σ α} {next : α → Attempt σ β} {system : System σ}
    (before : first.Ends kept fit system) (after : ∀ value, (next value).Upholds kept fit) :
    (first >>= next).Ends kept fit system := by
  obtain ⟨keeping, fits⟩ := before
  rcases ran : first.run.run system with ⟨result, ended⟩
  rw [ran] at keeping fits
  unfold Ends
  cases result with
  | ok value =>
    rw [bind_of_ok ran]
    exact after value ended keeping
  | error fault =>
    rw [bind_of_error ran]
    exact ⟨keeping, fun _ same => Except.error.inj same ▸ fits fault rfl⟩

/-- What each of two attempts keeps is kept by one after the other. -/
theorem Upholds.bind {first : Attempt σ α} {next : α → Attempt σ β}
    (before : first.Upholds kept fit) (after : ∀ value, (next value).Upholds kept fit) :
    (first >>= next).Upholds kept fit :=
  fun system keeping => (before system keeping).bind after

/-- An action that keeps something is an attempt that does. -/
theorem Upholds.lift {fit' : α → Prop} {action : Action σ α}
    (keeps : Action.Keeps kept fit' action) :
    (lift action).Upholds kept fit :=
  fun system keeping => ⟨(keeps system keeping).1, nofun⟩

/-- Looking at the core keeps everything. -/
theorem Upholds.core : (core : Attempt σ Core).Upholds kept fit := .lift Action.Keeps.core

end Attempt

/-! ## The other end of the link -/

section Nesting

variable {σ κ ρ : Type} {kept : System σ → Prop}

/-- Something of a system that the other end of the link does not undo by itself. -/
structure System.Outlasts (kept : System σ → Prop) : Prop where
  /-- The other end may change. -/
  peer : ∀ system change, kept system → kept (system.withPeer change)
  /-- A listener may be told something. -/
  hear : ∀ system listener notification, kept system → kept (system.deliver listener notification)
  /-- Time may pass. -/
  pass : ∀ system ms, kept system → kept (system.pass ms)

namespace Reaction

variable {respond : κ → Action σ (Option ρ)}

/-- A reaction keeps what outlasts deliveries and time, if the answers to its calls back do. -/
theorem run_keeps (outlasts : System.Outlasts kept)
    (answers : ∀ request, Action.Keeps kept (fun _ => True) (respond request))
    (reaction : Reaction σ κ ρ) : Action.Keeps kept (fun _ => True) (reaction.run respond) := by
  induction reaction with
  | finish code => exact .pure trivial
  | look next ih => exact .bind .get fun system _ => ih _ _
  | update change next ih => exact .bind (.modify fun _ => outlasts.peer _ _) fun _ _ => ih
  | notify listener notification next ih =>
    exact .bind (.modify fun _ => outlasts.hear _ _ _) fun _ _ => ih
  | pass ms next ih => exact .bind (.modify fun _ => outlasts.pass _ _) fun _ _ => ih
  | call request next ih => exact .bind (answers request) fun answer _ => ih answer

/-- A reaction keeps what outlasts deliveries and time while the core waits, if the answers to its
calls back do. -/
theorem runUntil_keeps (outlasts : System.Outlasts kept)
    (answers : ∀ request, Action.Keeps kept (fun _ => True) (respond request))
    (ready : Core → Bool) (deadline : Nat) (reaction : Reaction σ κ ρ) :
    Action.Keeps kept (fun _ => True) (reaction.runUntil respond ready deadline) := by
  have idles : Action.Keeps kept (fun _ => True) (Action.passUntil deadline : Action σ Unit) :=
    .modify fun _ => outlasts.pass _ _
  have nothing : Action.Keeps kept (fun _ => True) (pure () : Action σ Unit) := .pure trivial
  induction reaction with
  | finish code =>
    refine .bind .get fun system _ => ?_
    split
    · exact nothing
    · exact nothing.bind fun _ _ => idles
  | look next ih => exact .bind .get fun system _ => ih _ _
  | update change next ih => exact .bind (.modify fun _ => outlasts.peer _ _) fun _ _ => ih
  | notify listener notification next ih =>
    exact .bind (.modify fun _ => outlasts.hear _ _ _) fun _ _ => ih
  | pass ms next ih =>
    intro system keeping
    rw [runUntil_pass]
    split
    · exact ⟨keeping, trivial⟩
    · split
      · exact idles system keeping
      · exact ih (system.pass ms) (outlasts.pass _ _ keeping)
  | call request next ih => exact .bind (answers request) fun answer _ => ih answer

end Reaction

end Nesting

/-! ## Radios -/

/-- A sweep that was ended by a fit fault, or not by a fault. -/
def Sweep.Report.EndsFit (fit : Fault → Prop) (report : Sweep.Report) : Prop :=
  ∀ fault, report.stop = .failed fault → fit fault

/-- A command that a session may run in a band: what it is to tune to, or to seek between, can be
tuned there. A seek is ended from outside of its session. -/
def Command.Suits (band : Band) : Command → Prop
  | .tune frequency => band.isTunable frequency = true
  | .seekRange range => band.isTunable range.start = true ∧ band.isTunable range.stop = true
  | .abortSeek => False
  | _ => True

/-- A command that suits a band is not one that ends a seek. -/
theorem Command.Suits.ne_abortSeek {band : Band} {command : Command} (suits : command.Suits band) :
    command ≠ .abortSeek := by
  rintro rfl
  exact suits

namespace Radio

/-- The fault that a call came to, or that ended the sweep that it made. -/
def Answer.reported? : Answer → Option Fault
  | .swept (.ok ⟨_, _, .failed fault⟩) => some fault
  | answer => answer.fault?

variable {σ α : Type}

/-- What a radio keeps between its calls and what its sessions keep in a band, with the faults that
are fit to be reported, as far as the parts of its operations are concerned. -/
structure Upkeep (radio : Radio σ) (kept : System σ → Prop) (owned : Band → System σ → Prop)
    (fit : Fault → Prop) : Prop where
  /-- Parameters may be refused. -/
  invalid : ∀ cause, fit (.invalidParameter cause)
  /-- An event may report another outcome. -/
  unconfirmed : ∀ text, fit (.unconfirmed text)
  /-- The link may be attached. -/
  attach : radio.controller.attach.Upholds kept fit
  /-- The link may be released. -/
  detach : Action.Keeps kept (fun _ => True) radio.controller.detach
  /-- A session may be turned away. -/
  denied : ∀ system fault, kept system →
    system.core.claim system.clock radio.controller.timeout = .error fault → fit fault
  /-- A session may claim the slot. -/
  claim : ∀ system core, kept system →
    system.core.claim system.clock radio.controller.timeout = .ok core →
      owned system.core.band (system.become .claiming core)
  /-- A session may give the slot back. -/
  release : ∀ band system, owned band system →
    kept (system.become .releasing system.core.release)
  /-- Meanwhile the band stands still, and makes sense. -/
  band : ∀ band system, owned band system → system.core.band = band ∧ band.WellFormed
  /-- A session may run commands. -/
  run : ∀ band command expected, command.Suits band →
    (∀ frequency, expected = some frequency → command = .tune frequency) →
      (radio.controller.run command expected).Upholds (owned band) fit
  /-- A session may begin a sweep. -/
  sweep : ∀ band system, owned band system → owned band system.beginSweep
  /-- The sweep may go on to a seek. -/
  seek : ∀ band system, owned band system → owned band (system.record .seeking)
  /-- Others may have their turn in the sweep. -/
  pause : ∀ band, Action.Keeps (owned band) (fun _ => True) radio.link.pause
  /-- Sweeps may be asked to stop. -/
  stop : ∀ system, kept system → kept system.requestStop
  /-- A seek may be ended. -/
  abort : (radio.controller.submitUnawaited .abortSeek).Upholds kept fit
  /-- An update of the radio texts may be reported. -/
  drain : ∀ system, kept system → kept (system.become .draining system.core.drain.2)
  /-- Between sessions the band may be replaced by that of a region, if the settings fix none. -/
  rebanded : ∀ system region, kept system → system.core.busy = false →
    radio.settings.band? = none →
      kept (system.become (.settingBand (Band.preset region))
        { system.core with band := Band.preset region })

namespace Upkeep

variable {radio : Radio σ} {kept : System σ → Prop} {owned : Band → System σ → Prop}
  {fit : Fault → Prop} {band : Band} {system : System σ}

/-! ### In a session -/

/-- A command whose event may report any frequency keeps what a session keeps. -/
theorem execute (upkeep : radio.Upkeep kept owned fit) {command : Command}
    (suits : command.Suits band) :
    (radio.controller.execute command).Upholds (owned band) fit :=
  upkeep.run band command none suits nofun

/-- A tune to what can be tuned keeps what a session keeps. -/
theorem tune (upkeep : radio.Upkeep kept owned fit) {frequency : Frequency}
    (tunable : band.isTunable frequency = true) :
    (radio.controller.tune frequency).Upholds (owned band) fit := by
  have same : ∀ expected, some frequency = some expected →
      Command.tune frequency = .tune expected := fun _ same => by cases same; rfl
  refine .bind (upkeep.run band (.tune frequency) _ tunable same) fun event => ?_
  cases event with
  | some event => exact .pure event
  | none => exact .throw (upkeep.unconfirmed _)

/-- A command whose event must come keeps what a session keeps. -/
theorem awaited (upkeep : radio.Upkeep kept owned fit) {command : Command}
    (suits : command.Suits band) :
    (radio.awaited command).Upholds (owned band) fit := by
  refine .bind (upkeep.execute suits) fun event => ?_
  cases event with
  | some event => exact .pure event
  | none => exact .throw (upkeep.unconfirmed _)

/-- A command whose event must report an outcome keeps what a session keeps. -/
theorem confirmed (upkeep : radio.Upkeep kept owned fit) {command : Command}
    (suits : command.Suits band) (outcome : Event → Option α) :
    (radio.confirmed command outcome).Upholds (owned band) fit := by
  refine .bind (upkeep.awaited suits) fun event => ?_
  split
  · exact .pure _
  · exact .throw (upkeep.unconfirmed _)

/-- A seek keeps what a session keeps. -/
theorem seekWith (upkeep : radio.Upkeep kept owned fit) {command : Command}
    (suits : command.Suits band) (start : Option Frequency) :
    (radio.seekWith command start).Upholds (owned band) fit := by
  refine .bind (upkeep.awaited suits) fun event => ?_
  split
  · exact .pure _
  · exact .pure none

/-- Looking whether to stop the sweep keeps what a session keeps. -/
theorem look (upkeep : radio.Upkeep kept owned fit) {cancelled : Action σ Bool}
    (asked : Action.Keeps (owned band) (fun _ => True) cancelled) :
    Action.Keeps (owned band) (fun _ => True) (Sweep.look radio.controller cancelled) :=
  .bind (upkeep.pause band) fun _ _ => asked

/-- A seek of a sweep keeps what a session keeps. -/
theorem seekOnce (upkeep : radio.Upkeep kept owned fit) (sweep : Sweep) :
    Action.Keeps (owned band) (fun result => ∀ fault, result = .error fault → fit fault)
      (sweep.seek radio.controller) := by
  refine .bind (.modify fun system => upkeep.seek band system) fun _ _ => ?_
  exact .bind (upkeep.pause band) fun _ _ => (upkeep.execute (by trivial)).keeps

/-- Seeking on in a sweep keeps what a session keeps. -/
theorem seekOn (upkeep : radio.Upkeep kept owned fit) (sweep : Sweep) {cancelled : Action σ Bool}
    (asked : Action.Keeps (owned band) (fun _ => True) cancelled) (previous : Frequency) :
    Action.Keeps (owned band) (Sweep.Report.EndsFit fit)
      (sweep.seekOn radio.controller cancelled previous) := by
  fun_induction sweep.seekOn radio.controller cancelled previous with
  | case1 previous ih =>
    refine .bind (upkeep.look asked) fun stopped _ => ?_
    split
    · exact .pure fun _ same => Sweep.Stop.noConfusion same
    · refine .bind (upkeep.seekOnce sweep) fun result fits => ?_
      cases result with
      | error fault => exact .pure fun _ same => Sweep.Stop.failed.inj same ▸ fits fault rfl
      | ok event =>
        dsimp only
        split
        · refine .bind (upkeep.look asked) fun stopped _ => .pure ?_
          cases stopped <;> exact fun _ same => Sweep.Stop.noConfusion same
        next further =>
          split
          · exact .pure fun _ same => Sweep.Stop.noConfusion same
          next inside =>
            exact .bind (ih event further inside) fun rest fits => .pure fits

/-- A whole sweep of the band keeps what a session keeps. -/
theorem sweepBand (upkeep : radio.Upkeep kept owned fit) :
    Action.Keeps (owned band)
      (fun result => ∃ report : Sweep.Report, result = .ok report ∧ report.EndsFit fit)
      radio.sweepBand.run := by
  intro system owning
  obtain ⟨rfl, wellFormed⟩ := upkeep.band band system owning
  have asked : Action.Keeps (owned system.core.band) (fun _ => True)
      (do return (← get).stopRequested : Action σ Bool) := fun _ keeping => ⟨keeping, trivial⟩
  have swept : Action.Keeps (owned system.core.band) (Sweep.Report.EndsFit fit)
      (Sweep.run
        { band := system.core.band
          minSignal := radio.settings.minSignal
          method := radio.settings.scanMethod } radio.controller
        (do return (← get).stopRequested)) := by
    refine .bind (upkeep.tune (Band.isTunable_low wellFormed)).keeps fun result fits => ?_
    cases result with
    | ok event => exact upkeep.seekOn _ asked _
    | error fault => exact .pure fun _ same => Sweep.Stop.failed.inj same ▸ fits fault rfl
  obtain ⟨owning', fits⟩ := swept _ (upkeep.sweep _ system owning)
  exact ⟨owning', _, rfl, fits⟩

/-! ### Whole operations -/

/-- A session comes to what its body comes to, or is turned away. -/
theorem session_ends (upkeep : radio.Upkeep kept owned fit) {body : Attempt σ α}
    {fit' : Except Fault α → Prop}
    (keeps : Action.Keeps (owned system.core.band) fit' body.run) (keeping : kept system) :
    kept ((radio.controller.session body).run.run system).2 ∧
      (fit' ((radio.controller.session body).run.run system).1 ∨
        ∃ fault,
          ((radio.controller.session body).run.run system).1 = .error fault ∧ fit fault) := by
  rw [Controller.session_run]
  cases claimed : system.core.claim system.clock radio.controller.timeout with
  | error fault =>
    exact ⟨keeping, .inr ⟨fault, rfl, upkeep.denied system fault keeping claimed⟩⟩
  | ok core =>
    obtain ⟨owning, fits⟩ := keeps _ (upkeep.claim system core keeping claimed)
    exact ⟨upkeep.release _ _ owning, .inl fits⟩

/-- A session keeps what is kept between calls if its body keeps what sessions keep. -/
theorem session (upkeep : radio.Upkeep kept owned fit) {body : Attempt σ α}
    (keeps : body.Upholds (owned system.core.band) fit) (keeping : kept system) :
    (radio.controller.session body).Ends kept fit system := by
  obtain ⟨keeping', fits | ⟨fault, failed, fits⟩⟩ := upkeep.session_ends keeps.keeps keeping
  · exact ⟨keeping', fits⟩
  · exact ⟨keeping', fun _ same => Except.error.inj (failed.symm.trans same) ▸ fits⟩

/-- After a check of a frequency, it can be tuned. -/
theorem requireTunable (upkeep : radio.Upkeep kept owned fit) {next : Unit → Attempt σ α}
    {frequency : Frequency} (keeping : kept system)
    (later : system.core.band.isTunable frequency = true → (next ()).Ends kept fit system) :
    (Radio.requireTunable frequency >>= next).Ends kept fit system := by
  have checked := requireTunable_run frequency system
  unfold Band.requireTunable at checked
  unfold Attempt.Ends
  split at checked
  next tunable =>
    rw [Attempt.bind_of_ok checked]
    exact later tunable
  next =>
    rw [Attempt.bind_of_error checked]
    exact ⟨keeping, fun _ same => Except.error.inj same ▸ upkeep.invalid _⟩

/-- A command with a session of its own keeps what is kept between calls. -/
theorem operate (upkeep : radio.Upkeep kept owned fit) {command : Command}
    (suits : ∀ band, command.Suits band) (outcome : Event → Option α) :
    (radio.operate command outcome).Upholds kept fit :=
  fun _ => upkeep.session (upkeep.confirmed (suits _) outcome)

/-- A command that no event confirms keeps what is kept between calls. -/
theorem perform (upkeep : radio.Upkeep kept owned fit) {command : Command}
    (suits : ∀ band, command.Suits band) : (radio.perform command).Upholds kept fit :=
  fun _ keeping => (upkeep.session (upkeep.execute (suits _)) keeping).bind fun _ => .pure ()

/-- Turning on keeps what is kept between calls. -/
theorem powerUp (upkeep : radio.Upkeep kept owned fit) (frequency : Frequency) :
    (radio.powerUp frequency).Upholds kept fit := by
  intro system keeping
  refine upkeep.requireTunable keeping fun tunable => upkeep.session ?_ keeping
  refine .bind (upkeep.confirmed (by trivial) _) fun _ => ?_
  refine .bind (upkeep.tune tunable) fun _ => ?_
  exact .bind (upkeep.confirmed (by trivial) _) fun _ =>
    upkeep.confirmed (by trivial) _

/-- Tuning keeps what is kept between calls. -/
theorem tuneTo (upkeep : radio.Upkeep kept owned fit) (frequency : Frequency) :
    (radio.tune frequency).Upholds kept fit := by
  intro system keeping
  refine upkeep.requireTunable keeping fun tunable => ?_
  exact (upkeep.session (upkeep.tune tunable) keeping).bind fun _ => .pure ()

/-- A seek from the tuned frequency keeps what is kept between calls. -/
theorem seekHere (upkeep : radio.Upkeep kept owned fit) {command : Command}
    (suits : command.Suits system.core.band) (keeping : kept system) :
    (radio.controller.session do
      radio.seekWith command (← Attempt.core).state.tuned).Ends kept fit system :=
  upkeep.session (.bind .core fun _ => upkeep.seekWith suits _) keeping

/-- A seek from another frequency keeps what is kept between calls. -/
theorem seekFrom (upkeep : radio.Upkeep kept owned fit) (frequency : Frequency)
    (direction : Direction) : (radio.seekFrom frequency direction).Upholds kept fit := by
  intro system keeping
  refine upkeep.requireTunable keeping fun tunable => upkeep.session ?_ keeping
  exact .bind (upkeep.tune tunable) fun _ => upkeep.seekWith (by trivial) _

/-- A seek within bounds keeps what is kept between calls. -/
theorem seekRange (upkeep : radio.Upkeep kept owned fit) (first last : Frequency)
    (direction : Direction) : (radio.seekRange first last direction).Upholds kept fit := by
  intro system keeping
  refine upkeep.requireTunable keeping fun lower => upkeep.requireTunable keeping fun upper => ?_
  exact upkeep.seekHere ⟨lower, upper⟩ keeping

/-- Asking sweeps to stop keeps what is kept between calls. -/
theorem requestStop (upkeep : radio.Upkeep kept owned fit) :
    Action.Keeps kept (fun _ => True) Action.requestStop :=
  .modify upkeep.stop

/-- Turning off keeps what is kept between calls. -/
theorem powerDown (upkeep : radio.Upkeep kept owned fit) : radio.powerDown.Upholds kept fit :=
  .bind (.lift upkeep.requestStop) fun _ => upkeep.operate (fun _ => by trivial) _

/-- Stopping a sweep keeps what is kept between calls. -/
theorem stopScan (upkeep : radio.Upkeep kept owned fit) : radio.stopScan.Upholds kept fit :=
  .bind (.lift upkeep.requestStop) fun _ => upkeep.abort

/-- Closing keeps what is kept between calls. -/
theorem close (upkeep : radio.Upkeep kept owned fit) :
    Action.Keeps kept (fun _ => True) radio.close :=
  .bind upkeep.requestStop fun _ _ => upkeep.detach

/-- Following alternate frequencies keeps what is kept between calls. -/
theorem activateAf (upkeep : radio.Upkeep kept owned fit) : radio.activateAf.Upholds kept fit := by
  refine .bind (upkeep.operate (fun _ => by trivial) _) fun _ => .bind .core fun core => ?_
  split
  · exact .pure _
  · exact .throw (upkeep.unconfirmed _)

/-- Asking for a fresh status keeps what is kept between calls. -/
theorem refreshStatus (upkeep : radio.Upkeep kept owned fit) :
    radio.refreshStatus.Upholds kept fit :=
  fun _ keeping => (upkeep.session (upkeep.awaited (by trivial)) keeping).bind
    fun _ => .bind .core fun _ => .pure _

/-- Reporting an update of the radio texts keeps what is kept between calls. -/
theorem readRds (upkeep : radio.Upkeep kept owned fit) :
    Action.Keeps kept (fun _ => True) (readRds : Action σ UInt16) := by
  refine .bind .core fun core _ => ?_
  split
  · exact fun system keeping => ⟨upkeep.drain system keeping, trivial⟩
  · exact .pure trivial

/-- Changing the region keeps what is kept between calls: the slot is free when the band is
replaced. -/
theorem setRegion (upkeep : radio.Upkeep kept owned fit) (region : Region) :
    (radio.setRegion region).Upholds kept fit := by
  intro system keeping
  have suits : ∀ band, Command.Suits band (.setRegion region (Band.preset region).deemphasis) :=
    fun _ => trivial
  have ends := upkeep.operate suits (reportsRegion region) system keeping
  rcases ran : (radio.operate (.setRegion region (Band.preset region).deemphasis)
    (reportsRegion region)).run.run system with ⟨result, after⟩
  unfold Attempt.Ends at ends ⊢
  rw [ran] at ends
  obtain ⟨keeping', fits⟩ := ends
  unfold Radio.setRegion
  cases result with
  | error fault =>
    rw [Attempt.bind_of_error ran]
    exact ⟨keeping', fun _ same => Except.error.inj same ▸ fits fault rfl⟩
  | ok done =>
    rw [Attempt.bind_of_ok ran]
    split
    next fixed =>
      obtain ⟨_, _, _, _, rfl⟩ := Controller.session_ok ran
      exact ⟨upkeep.rebanded _ region keeping' rfl (Option.isNone_iff_eq_none.1 fixed), nofun⟩
    next => exact ⟨keeping', nofun⟩

/-! ### Calls -/

/-- A call that answers what an attempt comes to reports a fit fault if the attempt fails for fit
reasons only. -/
theorem attempt_answers {attempt : Attempt σ α} (upholds : attempt.Upholds kept fit)
    {wrap : Except Fault α → Answer}
    (reports : ∀ result, (wrap result).reported? = Fault.ofResult? result) :
    Action.Keeps kept (fun answer => ∀ fault, answer.reported? = some fault → fit fault)
      (wrap <$> attempt.run) := by
  refine Action.Keeps.map upholds.keeps fun result fits fault reported => ?_
  rw [reports] at reported
  cases result with
  | ok value => contradiction
  | error cause =>
    obtain rfl := Option.some.inj reported
    exact fits cause rfl

/-- A look at what is known reports no fault. -/
theorem look_answers (read : Core → α) {wrap : α → Answer}
    (faultless : ∀ value, (wrap value).reported? = none) :
    Action.Keeps kept (fun answer => ∀ fault, answer.reported? = some fault → fit fault)
      (wrap <$> do return read (← Action.core)) := by
  refine fun system keeping => ⟨keeping, fun fault reported => ?_⟩
  exact absurd ((faultless (read system.core)).symm.trans reported) nofun

/-- Every call keeps what is kept between calls, and reports no fault but a fit one. -/
theorem answer (upkeep : radio.Upkeep kept owned fit) (call : Call) :
    Action.Keeps kept (fun answer => ∀ fault, answer.reported? = some fault → fit fault)
      (radio.answer call) := by
  have operated {β : Type} {command : Command} (suits : ∀ band, command.Suits band)
      (outcome : Event → Option β) : (radio.operate command outcome).Upholds kept fit :=
    upkeep.operate suits outcome
  cases call with
  | attach => exact attempt_answers upkeep.attach fun _ => rfl
  | close => exact .bind upkeep.close fun _ _ => .pure nofun
  | isOpen => exact look_answers _ fun _ => rfl
  | powerUp frequency => exact attempt_answers (upkeep.powerUp frequency) fun _ => rfl
  | powerDown => exact attempt_answers upkeep.powerDown fun _ => rfl
  | tune frequency => exact attempt_answers (upkeep.tuneTo frequency) fun _ => rfl
  | tunedFrequency => exact look_answers _ fun _ => rfl
  | seek direction =>
    exact attempt_answers (fun _ => upkeep.seekHere (by trivial)) fun _ => rfl
  | seekFrom frequency direction =>
    exact attempt_answers (upkeep.seekFrom frequency direction) fun _ => rfl
  | seekRds direction condition value =>
    exact attempt_answers (fun _ => upkeep.seekHere (by trivial)) fun _ => rfl
  | seekRange first last direction =>
    exact attempt_answers (upkeep.seekRange first last direction) fun _ => rfl
  | autoScan =>
    intro system keeping
    obtain ⟨keeping', outcome⟩ := upkeep.session_ends upkeep.sweepBand keeping
    refine ⟨keeping', fun fault reported => ?_⟩
    change Answer.reported?
      (.swept (radio.controller.session radio.sweepBand |>.run.run system).1) =
        some fault at reported
    rcases outcome with ⟨⟨found, channels, stop⟩, swept, fits⟩ | ⟨cause, failed, fits⟩
    · rw [swept] at reported
      cases stop with
      | failed cause =>
        obtain rfl := Option.some.inj reported
        exact fits cause rfl
      | _ => contradiction
    · rw [failed] at reported
      obtain rfl := Option.some.inj reported
      exact fits
  | stopScan => exact attempt_answers upkeep.stopScan fun _ => rfl
  | setRds on => exact attempt_answers (operated (fun _ => by trivial) _) fun _ => rfl
  | activateAf => exact attempt_answers upkeep.activateAf fun _ => rfl
  | readRds => exact upkeep.readRds.map fun _ _ => nofun
  | programService | radioText => exact look_answers _ fun _ => rfl
  | setMute on => exact attempt_answers (operated (fun _ => by trivial) _) fun _ => rfl
  | rdsSupport | switchAntenna | settings => exact .pure nofun
  | setAudioMode mode =>
    exact attempt_answers (operated (fun _ => by trivial) _) fun _ => rfl
  | setAudioPath path =>
    exact attempt_answers (operated (fun _ => by trivial) _) fun _ => rfl
  | setVolume volume =>
    exact attempt_answers (operated (fun _ => by trivial) _) fun _ => rfl
  | setRegion region => exact attempt_answers (upkeep.setRegion region) fun _ => rfl
  | estimateNoiseFloor precision =>
    exact attempt_answers (operated (fun _ => by trivial) _) fun _ => rfl
  | setLivePolling | setSnrThreshold | setStepSize =>
    exact attempt_answers (upkeep.perform fun _ => by trivial) fun _ => rfl
  | refreshStatus => exact attempt_answers upkeep.refreshStatus fun _ => rfl
  | band => exact look_answers Core.band fun _ => rfl

end Upkeep

end Radio

end Tuner
