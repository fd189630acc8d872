import Tuner.Control.Link

/-!
# Links that follow rules

A link for trials of the control core, which answers on the spot. Whatever reaches it is answered
by the first rule that applies; where none does, it behaves like a receiver that does as it is
told and reports so. It keeps a log of what reached it and of what it did in vain.
-/
namespace Tuner.Bench

/-- What the link does when something reaches it, in terms of the actions `α`. -/
structure Rule (α : Type) where
  /-- The name of what the rule applies to; absent, it applies to all commands. -/
  trigger : Option String
  /-- The one command that the rule applies to. -/
  only : Option Command
  /-- How many more times the rule applies. -/
  uses : Option Nat
  /-- The acceptance code that is answered. -/
  code : Acceptance
  /-- What is done before that. -/
  actions : List α

/-- What a step of a trial consists in. -/
inductive Deed (κ : Type) where
  /-- Tell a listener something; by default the current one. -/
  | notify (listener : Option Nat) (notification : Notification)
  /-- Let time pass. -/
  | pass (ms : Nat)
  /-- Do nothing. -/
  | rest
  /-- Call the core. -/
  | call (request : κ)

/-- A step of a trial, in terms of the actions `α` of rules and the calls `κ` of the core. -/
structure Step (α κ : Type) where
  /-- What the step is called in the log. -/
  label : String
  /-- The rules that are in force from this step on. -/
  rules : Option (List (Rule α))
  /-- What is done. -/
  deed : Deed κ

/-- Something that the link does when a rule applies. -/
inductive Act (κ : Type) where
  /-- Tell the current listener something. -/
  | notify (notification : Notification)
  /-- Let time pass. -/
  | pass (ms : Nat)
  /-- Make a step. -/
  | make (step : Step (Act κ) κ)
  /-- Do as told and report so. -/
  | echo

/-- An entry of the log. -/
inductive Entry (ρ : Type) where
  /-- The core reached the link and was answered with a code. -/
  | reached (stimulus : Stimulus) (code : Acceptance)
  /-- There was nobody to tell something to. -/
  | dropped
  /-- A step was made, unless it could not be; it may have an answer. -/
  | made (label : String) (answer : Option (Option ρ))

/-- A receiver that does as it is told, as far as a plain status report shows. -/
structure Echo where
  /-- The frequency. -/
  frequency : Frequency := ⟨8750⟩
  /-- Whether the radio is on. -/
  radioOn : Bool := false
  /-- Whether the audio is muted. -/
  muted : Bool := false

/-- The state of the link. -/
structure Rig (κ ρ : Type) where
  /-- The rules, the first of which that applies is followed. -/
  rules : List (Rule (Act κ))
  /-- Whether commands without a rule are done and reported. -/
  cooperative : Bool
  /-- The listener that is told things. -/
  listener : Option Nat := none
  /-- What reports are made of. -/
  echo : Echo := {}
  /-- What happened since the log was last taken, newest first. -/
  log : List (Entry ρ) := []
  /-- Whether a session is held over several steps. -/
  held : Bool := false

/-- What the link does, step by step, when something reaches it. -/
abbrev Rig.Course (κ ρ : Type) := Reaction (Rig κ ρ) (Step (Act κ) κ) (Option ρ)

/-- The receiver after a command. -/
def Echo.after (echo : Echo) : Command → Echo
  | .turnOn _ => { echo with radioOn := true }
  | .turnOff => { echo with radioOn := false }
  | .tune frequency => { echo with frequency := frequency }
  | .mute on => { echo with muted := on }
  | _ => echo

/-- The event that reports that a command was done. -/
def Echo.report? (echo : Echo) : Command → Option Event
  | .turnOn _ | .turnOff | .tune _ | .getStatus | .mute _ =>
    some (.plainStatus echo.frequency echo.radioOn echo.muted)
  | .setRds setting => some (.rdsMode setting.mode (setting.af == .on))
  | .setAudioMode mode => some (.audioMode mode)
  | .setAudioPath path => some (.audioPath path)
  | .setVolume volume => some (.volume 0 volume)
  | .setRegion region _ => some (.worldRegion region)
  | .estimateNoiseFloor _ => some (.noiseFloor (-100))
  | _ => none

/-- The name of what reaches the link. -/
def reachName : Stimulus → String
  | .attach _ => "attach"
  | .detach => "detach"
  | .submit command => command.name
  | .await => "await"
  | .pause => "pause"

/-- The command that reaches the link. -/
def submitted? : Stimulus → Option Command
  | .submit command => some command
  | _ => none

/-- Whether a rule applies. -/
def Rule.applies {α : Type} (rule : Rule α) (stimulus : Stimulus) : Bool :=
  let named := match rule.trigger with
    | some trigger => trigger == reachName stimulus
    | none => (submitted? stimulus).isSome
  named && rule.uses != some 0 && (rule.only.isNone || rule.only == submitted? stimulus)

/-- A rule after it was followed once. -/
def Rule.used {α : Type} (rule : Rule α) : Rule α := { rule with uses := rule.uses.map (· - 1) }

namespace Rig

variable {κ ρ : Type}

/-- The rule to follow, and the rules that are left after it. -/
def choose (stimulus : Stimulus) :
    List (Rule (Act κ)) → Option (Rule (Act κ) × List (Rule (Act κ)))
  | [] => none
  | rule :: rules =>
    if rule.applies stimulus then some (rule, rule.used :: rules)
    else (choose stimulus rules).map fun (chosen, rest) => (chosen, rule :: rest)

/-- Add to the log. -/
def note (rig : Rig κ ρ) (entry : Entry ρ) : Rig κ ρ := { rig with log := entry :: rig.log }

/-- Tell the current listener something. -/
def tell (notification : Notification) (next : Course κ ρ) : Course κ ρ :=
  .look fun _ rig =>
    match rig.listener with
    | some listener => .notify listener notification next
    | none => .update (note · .dropped) next

/-- Do as a command says and report so. -/
def obey (command : Command) (next : Course κ ρ) : Course κ ρ :=
  .update (fun rig => { rig with echo := rig.echo.after command })
    (.look fun _ rig =>
      match rig.echo.report? command with
      | some event => tell (.event event) next
      | none => next)

/-- Carry out the actions of a rule one after another. -/
def act (stimulus : Stimulus) (next : Course κ ρ) : List (Act κ) → Course κ ρ
  | [] => next
  | .notify notification :: acts => tell notification (act stimulus next acts)
  | .pass ms :: acts => .pass ms (act stimulus next acts)
  | .make step :: acts =>
    .call step fun answer =>
      .update (note · (.made step.label answer)) (act stimulus next acts)
  | .echo :: acts =>
    match stimulus with
    | .submit command => obey command (act stimulus next acts)
    | _ => act stimulus next acts

/-- What is done when no rule applies. -/
def custom (rig : Rig κ ρ) : Stimulus → List (Act κ)
  | .attach _ => [.notify .attached]
  | .detach => [.notify .detached]
  | .submit _ => if rig.cooperative then [.echo] else []
  | .await | .pause => []

/-- Answer what reached the link. -/
def reply (stimulus : Stimulus) (next : Acceptance → Course κ ρ) : Course κ ρ :=
  .look fun _ rig =>
    match choose stimulus rig.rules with
    | some (rule, rules) =>
      .update (fun rig => note { rig with rules := rules } (.reached stimulus rule.code))
        (act stimulus (next rule.code) rule.actions)
    | none =>
      .update (note · (.reached stimulus .ok)) (act stimulus (next .ok) (rig.custom stimulus))

/-- The link. A listener is told things from the moment it is attached until the link is
released, the end of the reaction to that included. Nothing comes without being asked for. -/
def peer : Peer (Rig κ ρ) (Step (Act κ) κ) (Option ρ)
  | .attach listener =>
    .update (fun rig => { rig with listener := some listener }) (reply (.attach listener) .finish)
  | .detach =>
    reply .detach fun code =>
      .update (fun rig => { rig with listener := none }) (.finish code)
  | .submit command => reply (.submit command) .finish
  | .await | .pause => .finish .ok

/-- Replace the rules, if there are others. -/
def adopt (rig : Rig κ ρ) (rules : Option (List (Rule (Act κ)))) : Rig κ ρ :=
  { rig with rules := rules.getD rig.rules }

end Rig

/-- Tell a listener something. Without a listener, or with one that was never attached, there is
nobody to tell. -/
def tellListener {κ ρ : Type} (listener : Option Nat) (notification : Notification)
    (system : System (Rig κ ρ)) : System (Rig κ ρ) :=
  match listener with
  | some listener =>
    if listener < system.listeners.length then system.deliver listener notification
    else system.withPeer (·.note .dropped)
  | none => system.withPeer (·.note .dropped)

/-- Make a step, given how the core is called. -/
def Step.run {κ ρ : Type} (call : κ → Action (Rig κ ρ) ρ) (step : Step (Act κ) κ) :
    Action (Rig κ ρ) (Option ρ) := do
  modify fun system => system.withPeer (·.adopt step.rules)
  match step.deed with
  | .notify listener notification =>
    modify (tellListener (listener.or (← get).peer.listener) notification)
    return none
  | .pass ms =>
    modify fun system => system.pass ms
    return none
  | .rest => return none
  | .call request => some <$> call request

end Tuner.Bench
