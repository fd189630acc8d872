import Mathlib.Data.List.TakeWhile
import Tuner.Proofs.Keeping

/-!
# A radio and its receiver never miss each other

A radio that has a simulated receiver to itself, with delays shorter than the deadline of commands,
goes through any number of calls with any arguments, and any time between them. Core and receiver
are in step from the start, every call keeps them so, and so does time, while what is due is
delivered. So no call ends for want of its confirmation, and nothing is owed between two calls.
-/
namespace Tuner

/-! ## While time passes -/

namespace System

/-- The system when some time has passed and what was due by then was delivered. -/
def waited (system : System Receiver) (ms : Nat) : System Receiver :=
  let told := (system.peer.courier.dueBy (system.clock + ms)).foldl receive system
  told.pass (system.clock + ms - told.clock)

variable {timeout : Nat} {aired : List Station} {busy : Bool} {system : System Receiver}

/-- With core and receiver in step, whatever is due within some time is harmless. -/
theorem InStep.ignores (inStep : system.InStep timeout aired busy) (ms : Nat) :
    system.Ignores (system.clock + ms) (system.peer.courier.dueBy (system.clock + ms)) where
  harmless envelope member :=
    inStep.harmless envelope ((List.takeWhile_prefix _).subset member)
  unconcerned := inStep.unconcerned
  due _ member := Courier.due_of_mem_dueBy member
  clock := Nat.le_add_right _ _

/-- Time makes nothing of a system in step but what may become of it when nobody does anything. -/
theorem InStep.waited (inStep : system.InStep timeout aired busy) (ms : Nat) :
    Idles system (system.waited ms) := by
  obtain ⟨idles, _, _⟩ := (inStep.ignores ms).all (Courier.dueBy_append_after _ _).symm
  exact idles.trans (.pass _ _)

/-- What outlasts deliveries outlasts a time in which nobody does anything. -/
theorem OutlastsDelivery.waited {kept : System Receiver → Prop} (outlasts : OutlastsDelivery kept)
    (ms : Nat) (keeping : kept system) : kept (system.waited ms) := by
  have delivered : ∀ (envelopes rest : List Envelope) (system : System Receiver),
      system.peer.courier.queue = envelopes ++ rest → kept system →
        kept (envelopes.foldl System.receive system) := by
    intro envelopes rest
    induction envelopes with
    | nil => exact fun _ _ keeping => keeping
    | cons envelope envelopes ih =>
      intro system queue keeping
      have left : (system.receive envelope).peer.courier.queue = envelopes ++ rest := by
        rw [receive_peer]
        exact congrArg List.tail queue
      exact ih _ left (outlasts.receive system envelope _ queue keeping)
  have queue := (system.peer.courier.dueBy_append_after (system.clock + ms)).symm
  exact outlasts.pass _ _ (delivered _ _ system queue keeping)

end System

namespace Radio

variable {radio : Radio Receiver} {aired : List Station}

/-! ## One call after another -/

/-- What is done with a radio and its receiver from outside. -/
inductive Turn where
  /-- Make a call. -/
  | call (request : Call)
  /-- Let time pass, while what is due is delivered. -/
  | wait (ms : Nat)
deriving DecidableEq, Repr

/-- The script of a turn and of what comes after it. -/
def Turn.before (next : Reaction Receiver Call Answer) : Turn → Reaction Receiver Call Answer
  | .call request => .call request fun _ => next
  | .wait ms =>
    .look fun now receiver =>
      Receiver.deliverAll (receiver.courier.dueBy (now + ms))
        (.look fun moment _ => .pass (now + ms - moment) next)

/-- The script of one turn after another. -/
def script (turns : List Turn) : Reaction Receiver Call Answer :=
  turns.foldr (fun turn next => turn.before next) (.finish .ok)

/-- After some time comes what is next. -/
theorem played_wait (radio : Radio Receiver) (ms : Nat) (next : Reaction Receiver Call Answer)
    (system : System Receiver) :
    radio.played ((Turn.wait ms).before next) system = radio.played next (system.waited ms) :=
  congrArg Prod.snd (Receiver.run_deliverAll _ _ _ system)

/-- What every call keeps, and the time between calls, is kept through any number of turns. -/
theorem script_keeps {kept : System Receiver → Prop}
    (calls : ∀ request system, kept system → kept (radio.after request system))
    (waits : ∀ ms system, kept system → kept (system.waited ms)) (turns : List Turn)
    {system : System Receiver} (keeping : kept system) :
    kept (radio.played (script turns) system) := by
  induction turns generalizing system with
  | nil => exact keeping
  | cons turn turns ih =>
    cases turn with
    | call request => exact ih (calls request system keeping)
    | wait ms =>
      rw [script, List.foldr_cons, played_wait]
      exact ih (waits ms system keeping)

/-- Through any number of turns, core and receiver stay in step. -/
theorem script_inStep (receiver : radio.link.ToReceiver) (turns : List Turn)
    {system : System Receiver} (inStep : system.InStep radio.controller.timeout aired false) :
    (radio.played (script turns) system).InStep radio.controller.timeout aired false :=
  script_keeps
    (fun request system inStep => (answer_keeps receiver request system inStep).1)
    (fun ms _ inStep => inStep.idles (inStep.waited ms)) turns inStep

/-- A radio and a receiver that was just switched on are in step. -/
theorem start_inStep {settings : Settings} {band : Band} {stations : List Station}
    {eventLatency seekLatency : Nat} {noiseFloor : Int32} {start : System Receiver}
    (started : Radio.start settings
      (Receiver.start band stations eventLatency seekLatency noiseFloor) = .ok start)
    (events : eventLatency < settings.timeoutMs.toNat)
    (seeks : seekLatency < settings.timeoutMs.toNat) :
    start.InStep settings.timeoutMs.toNat (Station.sort stations) false := by
  have band := start_wellFormed started
  obtain rfl := start_eq_ok started
  exact
    { slot := rfl
      idle := rfl
      settled := rfl
      band := band
      power := rfl
      loud := rfl
      stations := rfl
      eventLatency := events
      seekLatency := seeks
      still := nofun
      attached := nofun
      detached := fun _ => ⟨rfl, rfl⟩
      stamps := List.forall_mem_nil _
      ordered := .nil
      harmless := List.forall_mem_nil _ }

/-- What a radio keeps up alongside holds between any two turns with a receiver that was just
switched on. -/
theorem Alongside.script {also : System Receiver → Prop} {settings : Settings} {band : Band}
    {stations : List Station} {eventLatency seekLatency : Nat} {noiseFloor : Int32} {depth : Nat}
    (alongside : (ofPeer settings Receiver.peer depth).Alongside
      (System.InStep settings.timeoutMs.toNat (Station.sort stations) false)
      (System.InSession settings.timeoutMs.toNat (Station.sort stations)) also)
    (waits : ∀ ms system,
      system.InStep settings.timeoutMs.toNat (Station.sort stations) false → also system →
        also (system.waited ms))
    {start : System Receiver}
    (started : Radio.start settings
      (Receiver.start band stations eventLatency seekLatency noiseFloor) = .ok start)
    (events : eventLatency < settings.timeoutMs.toNat)
    (seeks : seekLatency < settings.timeoutMs.toNat) (begun : also start) (turns : List Turn) :
    let before := (ofPeer settings Receiver.peer depth).played (script turns) start
    before.InStep settings.timeoutMs.toNat (Station.sort stations) false ∧ also before := by
  have receiver : (ofPeer settings Receiver.peer depth).link.ToReceiver :=
    Peer.link_toReceiver _ depth
  have upkeep := alongside.upkeep (inStep_upkeep receiver)
  exact script_keeps
    (fun request system keeping => (upkeep.answer request system keeping).1)
    (fun ms system ⟨inStep, kept⟩ =>
      ⟨inStep.idles (inStep.waited ms), waits ms system inStep kept⟩)
    turns ⟨start_inStep started events seeks, begun⟩

end Radio

/-- A radio and its receiver never miss each other. Over a simulated receiver whose delays are
shorter than the deadline of commands, with any band, stations and noise floor, whatever was called
before and however much time passed in between: nothing is owed between two calls, and no call ends
because its confirmation did not come in time, the link was lost, somebody else was at work or
another frequency was confirmed, nor does a sweep end so. -/
theorem Radio.never_misses {settings : Settings} {band : Band} {stations : List Station}
    {eventLatency seekLatency : Nat} {noiseFloor : Int32} {start : System Receiver}
    (started : Radio.start settings
      (Receiver.start band stations eventLatency seekLatency noiseFloor) = .ok start)
    (events : eventLatency < settings.timeoutMs.toNat)
    (seeks : seekLatency < settings.timeoutMs.toNat) (depth : Nat) (turns : List Turn) :
    ((ofPeer settings Receiver.peer depth).played (script turns) start).core.ledger.entries = [] ∧
    ∀ call fault,
      ((ofPeer settings Receiver.peer depth).replyTo call
        ((ofPeer settings Receiver.peer depth).played (script turns) start)).reported? =
          some fault →
      fault.isMiss = false := by
  have receiver : (ofPeer settings Receiver.peer depth).link.ToReceiver :=
    Peer.link_toReceiver _ depth
  have inStep := script_inStep receiver turns (start_inStep started events seeks)
  exact ⟨inStep.settled, fun call => (answer_keeps receiver call _ inStep).2⟩

/-- Stations on both bounds of the band and one beyond, and between them two that can be heard, one
of which shares its frequency with a weak one, and another that is too weak. -/
def Radio.onTheAir : List Station :=
  [{ frequency := ⟨8750⟩, rssi := -60 }, { frequency := ⟨8930⟩, rssi := -112 },
    { frequency := ⟨8930⟩, rssi := -60 }, { frequency := ⟨9550⟩, rssi := -112 },
    { frequency := ⟨10170⟩, rssi := -55 }, { frequency := ⟨10800⟩, rssi := -70 },
    { frequency := ⟨10900⟩, rssi := -40 }]

/-- A radio with default settings over a receiver that was just switched on. -/
def Radio.switchedOn : System Receiver where
  core := { band := Settings.band {} }
  peer := {
    chip := {
      band := Band.preset .na
      stations := onTheAir
      eventLatency := 30
      seekLatency := 200
      noiseFloor := -118 } }

/-- A radio over a receiver that was just switched on starts that way. -/
theorem Radio.start_switchedOn :
    Radio.start {} (Receiver.start (Band.preset .na) onTheAir 30 200 (-118)) = .ok switchedOn := by
  have sorted : Station.sort onTheAir = onTheAir := List.mergeSort_of_pairwise (by decide)
  rw [Receiver.start, sorted]
  rfl

/-- The radio is opened and turned on, closed while samples of the quality and radio data are on
their way, and opened and turned on again. -/
def Radio.reopening : List Turn :=
  [.call .attach, .call (.powerUp ⟨8930⟩), .call (.setRds true),
    .call (.setLivePolling true 40000), .wait 25, .call .close, .call .attach, .wait 70,
    .call (.powerUp ⟨9870⟩)]

/-- What is left after that. -/
def Radio.reopened : System Receiver :=
  (ofPeer {} Receiver.peer 0).played (script reopening) switchedOn

/-- After it was reopened nothing is owed, and a sweep ends in time. -/
theorem Radio.never_misses_reopened :
    Radio.reopened.core.ledger.entries = [] ∧
      ((ofPeer {} Receiver.peer 0).replyTo .autoScan reopened).reported? ≠ some (.timeout 5000) ∧
      reopened.listeners = [1, 3] ∧ reopened.core.state.tuned = some ⟨9870⟩ := by
  obtain ⟨settled, unmissed⟩ :=
    Radio.never_misses start_switchedOn (by decide) (by decide) 0 reopening
  have listeners : Radio.reopened.listeners = [1, 3] := by decide +kernel
  have tuned : Radio.reopened.core.state.tuned = some ⟨9870⟩ := by decide +kernel
  refine ⟨?_, fun late => ?_, listeners, tuned⟩
  · rw [Radio.reopened]
    exact settled
  · rw [Radio.reopened] at late
    have missed := unmissed .autoScan _ late
    exact absurd missed (by decide)

end Tuner
