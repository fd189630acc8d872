import Tuner.Proofs.Caller
import Tuner.Proofs.Radio

/-!
# Runs

A run begins with nothing attached and goes on with whatever happens to a radio, or to a bare
controller, from outside: calls, notifications, time. That is a script, of the same kind as the
reactions of a peer; any cut of a script is a script too, so what holds after every script holds
between any two of its calls. The systems that come about are `Reached`, and `Reached.steps` says
that they come about in steps.

The cores in the history and the present one are all the cores of a run, and every entry of the
history makes the core before it into the core after it. These are the two views of a history in
which properties of runs are stated: `System.cores` and `System.transitions`.
-/
namespace Tuner

variable {σ : Type}

namespace Radio

/-- Carry out a script with a radio. -/
def play (radio : Radio σ) (script : Reaction σ Call Answer) : Action σ Acceptance :=
  script.run fun call => some <$> radio.answer call

/-- The system after a script. -/
def played (radio : Radio σ) (script : Reaction σ Call Answer) (system : System σ) : System σ :=
  ((radio.play script).run system).2

/-- The answer to a call. -/
def replyTo (radio : Radio σ) (call : Call) (system : System σ) : Answer :=
  ((radio.answer call).run system).1

/-- The system after a call. -/
def after (radio : Radio σ) (call : Call) (system : System σ) : System σ :=
  ((radio.answer call).run system).2

/-- The answer to a seek is what it comes to. -/
theorem replyTo_seek (radio : Radio σ) (direction : Direction) (system : System σ) :
    radio.replyTo (.seek direction) system = .sought ((radio.seek direction).run.run system).1 :=
  rfl

end Radio

namespace Controller

/-- The controller over a peer that may call back into it, with calls nested up to a depth. -/
def ofPeer (timeout : Nat) (token : Token σ) (peer : Peer σ Call Answer) (depth : Nat) :
    Controller σ :=
  ⟨peer.link (fun link => (Controller.mk link timeout).serve token) depth, timeout⟩

/-- Carry out a script with a controller whose caller may hold a session. -/
def play (controller : Controller σ) (token : Token σ) (script : Reaction σ Call Answer) :
    Action σ Acceptance :=
  script.run fun call => some <$> controller.serve token call

end Controller

/-- The systems that come about under some terms, with a radio or with a bare controller. The
peer may do anything, calls are nested to any depth, and so far a script was carried out. -/
inductive Reached : Terms → System σ → Prop
  /-- With a radio whose settings make sense. -/
  | radio {settings : Settings} {own : σ} {start : System σ}
      (started : Radio.start settings own = .ok start)
      (peer : Peer σ Radio.Call Radio.Answer) (depth : Nat)
      (script : Reaction σ Radio.Call Radio.Answer) :
      Reached (Radio.terms settings) ((Radio.ofPeer settings peer depth).played script start)
  /-- With a controller, where no session is held at first and nobody but its caller passes one
  on. -/
  | controller (band : Band) (timeout : Nat) (token : Controller.Token σ) {own : σ}
      (unheld : token.held own = false)
      {peer : Peer σ Controller.Call Controller.Answer} (fair : peer.Honest token.held)
      (depth : Nat) {script : Reaction σ Controller.Call Controller.Answer}
      (honest : script.Honest token.held) :
      Reached (Controller.terms timeout)
        (((Controller.ofPeer timeout token peer depth).play token script).run
          { core := { band := band }, peer := own }).2

/-- A peer that is attached at once and tells its first listener the same event twice for every
command. -/
def Peer.insistent {κ ρ : Type} (event : Event) : Peer Unit κ ρ
  | .attach listener => .notify listener .attached (.finish .ok)
  | .submit _ => .notify 0 (.event event) (.notify 0 (.event event) (.finish .ok))
  | .detach | .await | .pause => .finish .ok

/-- A script in which a radio is attached and powered up, and what comes after it. -/
def Radio.attachAndPowerUp (frequency : Frequency) (next : Reaction σ Radio.Call Radio.Answer) :
    Reaction σ Radio.Call Radio.Answer :=
  .call .attach fun _ => .call (.powerUp frequency) fun _ => next

namespace System

/-- The system in which nothing has happened, over a band. -/
def fresh (band : Band) : System Unit := { core := { band := band }, peer := () }

/-- All cores that there ever were, the present one first. -/
def cores (system : System σ) : List Core := system.core :: system.history.map Moment.core

/-- Everything that happened with the core after it, newest first. -/
def transitions (system : System σ) : List (Moment × Core) := system.history.zip system.cores

variable {terms : Terms} {system system' : System Unit}

/-- A step is recorded with the core before it. An installation is followed by another record, as
the command is submitted at once. -/
theorem Step.recorded (taken : Step terms system system') :
    ∃ moment : Moment, moment.core = system.core ∧
      (system'.history = moment :: system.history ∨
        ∃ moment' : Moment, moment'.core = system'.core ∧
          system'.history = moment' :: moment :: system.history) := by
  cases taken with
  | install => exact ⟨_, rfl, .inr ⟨_, rfl, rfl⟩⟩
  | aside taken => cases taken <;> exact ⟨_, rfl, .inl rfl⟩
  | claim | release | sweep | seek | refuse | settle => exact ⟨_, rfl, .inl rfl⟩

/-- A step adds to the history. -/
theorem Step.grows (taken : Step terms system system') :
    ∃ newer, system'.history = newer ++ system.history := by
  obtain ⟨moment, _, recorded | ⟨moment', _, recorded⟩⟩ := taken.recorded
  · exact ⟨[moment], recorded⟩
  · exact ⟨[moment', moment], recorded⟩

/-- All cores after a step are the cores before it and the present one. -/
theorem Step.cores (taken : Step terms system system') {core : Core}
    (present : core ∈ system'.cores) : core ∈ system.cores ∨ core = system'.core := by
  obtain ⟨moment, before, recorded | ⟨moment', after, recorded⟩⟩ := taken.recorded
  · simp only [System.cores, recorded, List.map_cons, before, List.mem_cons] at present ⊢
    exact present.symm
  · simp only [System.cores, recorded, List.map_cons, before, after, List.mem_cons] at present ⊢
    rcases present with rfl | rfl | earlier
    · exact .inr rfl
    · exact .inr rfl
    · exact .inl earlier

/-- A step adds the transition from the core before it to the core after it, and maybe one that
changes nothing. -/
theorem Step.transitions (taken : Step terms system system') :
    ∃ moment : Moment, moment.core = system.core ∧
      (system'.transitions = (moment, system'.core) :: system.transitions ∨
        ∃ moment' : Moment, moment'.core = system'.core ∧
          system'.transitions =
            (moment', system'.core) :: (moment, system'.core) :: system.transitions) := by
  obtain ⟨moment, before, recorded | ⟨moment', after, recorded⟩⟩ := taken.recorded
  · refine ⟨moment, before, .inl ?_⟩
    simp only [System.transitions, System.cores, recorded, List.map_cons, before,
      List.zip_cons_cons]
  · refine ⟨moment, before, .inr ⟨moment', after, ?_⟩⟩
    simp only [System.transitions, System.cores, recorded, List.map_cons, before, after,
      List.zip_cons_cons]

end System

namespace Radio

/-- Carrying out a script with a radio is orderly. -/
theorem play_orderly (settings : Settings) (peer : Peer σ Call Answer) (depth : Nat)
    (script : Reaction σ Call Answer) :
    Action.Orderly nobody (terms settings) ((ofPeer settings peer depth).play script) := by
  have answers : ∀ call, Action.Orderly nobody (terms settings)
      ((ofPeer settings peer depth).answer call) :=
    @answer_orderly σ (ofPeer settings peer depth) (ofPeer_link settings peer depth)
  exact script.run_orderly (fun call => (answers call).map some) script.honest_nobody

/-- A radio starts at rest, with nothing attached. -/
theorem start_eq_ok {settings : Settings} {own : σ} {start : System σ}
    (started : Radio.start settings own = .ok start) :
    start = { core := { band := settings.band }, peer := own } := by
  unfold Radio.start at started
  split at started
  · exact (Except.ok.inj started).symm
  · contradiction

/-- The band of settings that are accepted makes sense. -/
theorem band_wellFormed {settings : Settings} (valid : settings.validate = .ok ()) :
    settings.band.WellFormed := by
  unfold Settings.validate at valid
  unfold Settings.band
  split at valid
  · contradiction
  · cases given : settings.band? with
    | none => exact Band.preset_wellFormed settings.region
    | some band =>
      rw [given] at valid
      dsimp only at valid
      cases checked : band.check with
      | error cause =>
        rw [checked] at valid
        contradiction
      | ok same =>
        obtain ⟨rfl, wellFormed⟩ := Band.ofLimits_eq_ok_iff.1 checked
        exact wellFormed

/-- The band that a radio starts with makes sense. -/
theorem start_wellFormed {settings : Settings} {own : σ} {start : System σ}
    (started : Radio.start settings own = .ok start) : settings.band.WellFormed := by
  unfold Radio.start at started
  split at started
  next valid => exact band_wellFormed valid
  next => contradiction

/-- A script with a radio leads from the start, in steps, to rest. -/
theorem play_steps {settings : Settings} {own : σ} {start : System σ}
    (started : Radio.start settings own = .ok start) (peer : Peer σ Call Answer) (depth : Nat)
    (script : Reaction σ Call Answer) :
    System.AtRest nobody ((ofPeer settings peer depth).played script start) ∧
      System.Steps (terms settings) (.fresh settings.band)
        ((ofPeer settings peer depth).played script start).bare := by
  obtain rfl := start_eq_ok started
  exact (play_orderly settings peer depth script _).quiet ⟨rfl, rfl⟩

/-- When the slot is claimed after a script, a session is between two commands. -/
theorem claim_steps {settings : Settings} {own : σ} {start : System σ}
    (started : Radio.start settings own = .ok start) (peer : Peer σ Call Answer) (depth : Nat)
    (script : Reaction σ Call Answer) {claimed : Except Fault Unit × System σ}
    (claims : (ofPeer settings peer depth).controller.claim.run.run
      ((ofPeer settings peer depth).played script start) = claimed)
    (allowed : claimed.1 = .ok ()) :
    System.Poised nobody claimed.2 ∧
      System.Steps (terms settings) (.fresh settings.band) claimed.2.bare := by
  obtain ⟨rest, taken⟩ := play_steps started peer depth script
  rw [Controller.claim_run] at claims
  split at claims
  next core free =>
    subst claims
    exact ⟨Controller.claim_poised rest free, taken.tail (.claim _ core free)⟩
  next =>
    subst claims
    cases allowed

end Radio

/-- The link of a controller is orderly at every depth, whatever the peer does. -/
theorem Controller.ofPeer_link (timeout : Nat) {token : Token σ} {peer : Peer σ Call Answer}
    (fair : peer.Honest token.held) (depth : Nat) :
    (ofPeer timeout token peer depth).link.Orderly token.held (terms timeout) :=
  Peer.link_orderly fair (fun link orderly => @serve_orderly σ ⟨link, timeout⟩ token orderly) depth

/-- Carrying out a script with a controller is orderly. -/
theorem Controller.play_orderly (timeout : Nat) {token : Token σ} {peer : Peer σ Call Answer}
    (fair : peer.Honest token.held) (depth : Nat) {script : Reaction σ Call Answer}
    (honest : script.Honest token.held) :
    Action.Orderly token.held (terms timeout)
      ((ofPeer timeout token peer depth).play token script) := by
  have answers : ∀ call, Action.Orderly token.held (terms timeout)
      ((ofPeer timeout token peer depth).serve token call) :=
    @serve_orderly σ (ofPeer timeout token peer depth) token (ofPeer_link timeout fair depth)
  exact script.run_orderly (fun call => (answers call).map some) honest

/-- What is reached is reached in steps. -/
theorem Reached.steps {terms : Terms} {system : System σ} (reached : Reached terms system) :
    ∃ band, System.Steps terms (.fresh band) system.bare := by
  cases reached with
  | radio started peer depth script => exact ⟨_, (Radio.play_steps started peer depth script).2⟩
  | @controller band timeout token own unheld peer fair depth script honest =>
    have orderly := Controller.play_orderly timeout fair depth honest
      { core := { band := band }, peer := own }
    exact ⟨band, (orderly.quiet ⟨unheld.symm, rfl⟩).2⟩

end Tuner
