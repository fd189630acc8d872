import Tuner.Proofs.Concord
import Tuner.Proofs.Interlude
import Tuner.Proofs.Lawful
import Tuner.Proofs.Nearest

/-!
# What seeks find

A seek ends at a station, or where the band is entered again. So with every station on a channel,
what it finds is a channel, or else the upper bound of the band, which need not be one: the grid
starts at the lower bound, and nothing makes the bounds lie a whole number of steps apart.

That is so for every receiver of the band, however late it reports and whatever it reports, since
the end of every seek that is on its way, or that an operation waits with, came from the chip. It
lasts as long as the band does, which a radio changes with the region, and a receiver when it is
turned on for another one.

Main statement: `Radio.found_channel_or_edge`.
-/
namespace Tuner

/-- A channel of a band, or its upper bound. -/
def Band.ChannelOrEdge (band : Band) (frequency : Frequency) : Prop :=
  band.isTunable frequency = true ∨ frequency = band.high

/-- An event that is not the end of a seek at a place that is no channel and not the upper bound. -/
def Event.OnGrid (band : Band) (event : Event) : Prop :=
  ∀ report, event = .seekComplete report → report.success = true →
    band.ChannelOrEdge report.frequency

/-- No background event is the end of a seek. -/
theorem Event.onGrid_of_background {event : Event} (background : event.isBackground = true)
    (band : Band) : event.OnGrid band := by
  rintro report rfl
  contradiction

namespace Chip

/-- A chip with a band, and with all stations on its channels. -/
structure OnGrid (chip : Chip) (band : Band) : Prop where
  /-- The chip has the band. -/
  same : chip.band = band
  /-- The stations are on channels. -/
  stations : ∀ station ∈ chip.stations, band.isTunable station.frequency = true

variable {chip : Chip} {band : Band} {now : Nat}

/-- A seek through the band ends on the grid. -/
theorem OnGrid.seekTarget (onGrid : chip.OnGrid band) (wellFormed : band.WellFormed)
    {mode : SeekMode} {minSignal : UInt8} {condition : RdsCondition} {value : UInt8}
    {target : Frequency}
    (aim : chip.seekTarget mode (chip.candidates minSignal condition value) = some target) :
    band.ChannelOrEdge target := by
  have aired : ∀ station ∈ chip.candidates minSignal condition value,
      band.isTunable station.frequency = true :=
    fun station member => onGrid.stations station (List.mem_filter.1 member).1
  cases mode with
  | full =>
    obtain ⟨station, member, rfl⟩ := Station.strongest?_eq_some aim
    exact .inl (aired station (List.mem_filter.1 member).1)
  | seek direction method =>
    obtain ⟨target', aim', near⟩ := chip.seekTarget_nearest direction method
      (chip.candidates minSignal condition value)
    obtain rfl := Option.some.inj (aim'.symm.trans aim)
    rw [onGrid.same] at near
    cases near with
    | ahead on _ _ _ =>
      obtain ⟨station, member, rfl⟩ := on
      exact .inl (aired station member)
    | around entered _ =>
      cases direction with
      | up => exact .inl (entered ▸ Band.isTunable_low wellFormed)
      | down => exact .inr entered

/-- A seek within bounds ends on the grid. -/
theorem OnGrid.rangeTarget (onGrid : chip.OnGrid band) {range : RangeSeek} {target : Frequency}
    (aim : Chip.rangeTarget range
      (chip.candidates range.minSignal range.condition range.value) = some target) :
    band.ChannelOrEdge target := by
  obtain ⟨⟨station, member, rfl⟩, _⟩ := rangeTarget_eq_some aim
  exact .inl (onGrid.stations station (List.mem_filter.1 member).1)

/-- A seek reports that it ended well only at its target. -/
theorem startSeek_onGrid (chip : Chip) (now : Nat) {target : Option Frequency}
    (aims : ∀ frequency, target = some frequency → band.ChannelOrEdge frequency) :
    ∀ dispatch ∈ (chip.startSeek now target).2, dispatch.event.OnGrid band := by
  intro dispatch member
  rcases List.mem_cons.1 member with rfl | arrived
  · rintro _ ⟨⟩ success
    obtain ⟨frequency, rfl⟩ := Option.isSome_iff_exists.1 success
    exact aims frequency rfl
  · split at arrived
    · exact Event.onGrid_of_background (arrival_background _ _ _ dispatch arrived) band
    · exact absurd arrived List.not_mem_nil

/-- Whatever a chip is asked to do, what it sends is on the grid. -/
theorem OnGrid.execute (onGrid : chip.OnGrid band) (wellFormed : band.WellFormed)
    (command : Command) :
    ∀ dispatch ∈ (chip.execute now command).2, dispatch.event.OnGrid band := by
  have alone : ∀ (dispatch : Dispatch), (∀ report, dispatch.event ≠ .seekComplete report) →
      ∀ sent ∈ [dispatch], sent.event.OnGrid band := by
    intro dispatch other sent member report same
    rw [List.mem_singleton.1 member] at same
    exact absurd same (other report)
  cases command with
  | seek mode minSignal =>
    exact startSeek_onGrid chip now fun _ aim => onGrid.seekTarget wellFormed aim
  | seekRds mode minSignal condition value =>
    exact startSeek_onGrid chip now fun _ aim => onGrid.seekTarget wellFormed aim
  | seekRange range =>
    exact startSeek_onGrid chip now fun _ aim => onGrid.rangeTarget aim
  | abortSeek =>
    unfold Chip.execute
    dsimp only
    split
    · intro dispatch member report same success
      rw [List.mem_singleton.1 member] at same
      cases same
      contradiction
    · exact List.forall_mem_nil _
  | tune frequency =>
    intro dispatch member
    rcases List.mem_cons.1 member with rfl | arrived
    · rintro _ ⟨⟩
    · exact Event.onGrid_of_background (arrival_background _ _ _ dispatch arrived) band
  | setRds setting =>
    intro dispatch member
    rcases List.mem_cons.1 member with rfl | told
    · rintro _ ⟨⟩
    · obtain ⟨event, reported, rfl⟩ := List.mem_map.1 told
      exact Event.onGrid_of_background (radioData_background _ event reported) band
  | setLivePolling enabled interval =>
    intro dispatch member
    obtain ⟨interval, _, rfl⟩ := Option.map_eq_some_iff.1 (Option.mem_toList.1 member)
    rintro _ ⟨⟩
  | setStepSize | setSnrThreshold => exact List.forall_mem_nil _
  | _ => exact alone _ nofun

end Chip

/-! ## As long as the band lasts -/

/-- A command that leaves a chip with a band. -/
def Command.KeepsBand (band : Band) : Command → Prop
  | .turnOn functionality => functionality.region = band.region
  | .setRegion region deemphasis => { Band.preset region with deemphasis := deemphasis } = band
  | _ => True

instance (band : Band) (command : Command) : Decidable (command.KeepsBand band) := by
  unfold Command.KeepsBand
  split <;> infer_instance

/-- Something that leaves core and chip with a band: no such command is submitted as would change
it, and no other is put in place. -/
def Occurrence.KeepsBand (band : Band) : Occurrence → Prop
  | .submitting command => command.KeepsBand band
  | .settingBand other => other = band
  | _ => True

instance (band : Band) (occurrence : Occurrence) : Decidable (occurrence.KeepsBand band) := by
  unfold Occurrence.KeepsBand
  split <;> infer_instance

/-- Nothing happened that would have changed the band. -/
def System.Unmoved {σ : Type} (band : Band) (system : System σ) : Prop :=
  ∀ moment ∈ system.history, moment.occurrence.KeepsBand band

instance {σ : Type} (band : Band) (system : System σ) : Decidable (system.Unmoved band) :=
  inferInstanceAs (Decidable (∀ moment ∈ system.history, _))

/-- Nothing changed the band exactly if the latest entry leaves it and nothing before changed it. -/
theorem System.unmoved_record {σ : Type} (band : Band) (system : System σ)
    (occurrence : Occurrence) :
    (system.record occurrence).Unmoved band ↔
      occurrence.KeepsBand band ∧ system.Unmoved band :=
  List.forall_mem_cons

namespace Chip

variable {chip : Chip} {band : Band} {now : Nat}

/-- A command that keeps the band leaves the chip on the grid. -/
theorem OnGrid.executed (onGrid : chip.OnGrid band) {command : Command}
    (keeps : command.KeepsBand band) : (chip.execute now command).1.OnGrid band where
  same := by
    have superseded : (chip.supersede now).2.band = chip.band := by rw [supersede_eq]
    cases command with
    | turnOn functionality =>
      have region : functionality.region = chip.band.region := onGrid.same.symm ▸ keeps
      unfold Chip.execute
      dsimp only
      rw [if_pos region]
      exact onGrid.same
    | setRegion region deemphasis => exact keeps
    | turnOff | tune | seek | seekRds | seekRange => exact superseded.trans onGrid.same
    | abortSeek =>
      unfold Chip.execute
      dsimp only
      split
      next start after supersedes => exact (supersedes ▸ superseded).trans onGrid.same
      next after supersedes => exact (supersedes ▸ superseded).trans onGrid.same
    | _ => exact onGrid.same
  stations := by
    rw [(chip.execute_keeps now command).stations]
    exact onGrid.stations

end Chip

/-! ## What is on its way -/

/-- An envelope with nothing but an event on the grid. -/
def Envelope.OnGrid (band : Band) (envelope : Envelope) : Prop :=
  ∀ event, envelope.notification = .event event → event.OnGrid band

/-- What a courier takes is on its way with what was. -/
theorem Courier.mem_send {courier : Courier} {due : Nat} {notification : Notification}
    {guard? : Option Nat} {envelope : Envelope}
    (member : envelope ∈ (courier.send due notification guard?).queue) :
    envelope ∈ courier.queue ∨ envelope.notification = notification := by
  obtain ⟨fresh, queue, _, taken⟩ := courier.send_adds due notification guard?
  rcases List.mem_append.1 (queue.subset member) with new | old
  · exact .inr (taken envelope new).2.1
  · exact .inl old

namespace Receiver

/-- A receiver on the grid of a band, with what is on its way. -/
structure OnGrid (receiver : Receiver) (band : Band) : Prop where
  /-- The chip is. -/
  chip : receiver.chip.OnGrid band
  /-- What is on its way lies on the grid. -/
  queue : ∀ envelope ∈ receiver.courier.queue, envelope.OnGrid band

variable {receiver : Receiver} {band : Band}

/-- Events on the grid may be sent. -/
theorem OnGrid.send (onGrid : receiver.OnGrid band) (now : Nat) {dispatches : List Chip.Dispatch}
    (sound : ∀ dispatch ∈ dispatches, dispatch.event.OnGrid band) :
    (receiver.send now dispatches).OnGrid band := by
  unfold Receiver.send
  split
  · exact onGrid
  · refine ⟨onGrid.chip, ?_⟩
    apply List.foldlRecOn (motive := fun courier : Courier =>
      ∀ envelope ∈ courier.queue, envelope.OnGrid band)
    · exact onGrid.queue
    · intro courier queue dispatch sent envelope member event holds
      rcases Courier.mem_send member with old | new
      · exact queue envelope old event holds
      · obtain rfl := Notification.event.inj (new.symm.trans holds)
        exact sound dispatch sent

/-- A command may be submitted that keeps the band. -/
theorem OnGrid.submit (onGrid : receiver.OnGrid band) (wellFormed : band.WellFormed) (now : Nat)
    {command : Command} (keeps : command.KeepsBand band) :
    (receiver.submit now command).OnGrid band := by
  unfold Receiver.submit
  dsimp only
  split
  · have executed : ({ receiver with
        commands := receiver.commands ++ [command]
        chip := (receiver.chip.execute now command).1 } : Receiver).OnGrid band :=
      ⟨onGrid.chip.executed keeps, onGrid.queue⟩
    exact executed.send now (onGrid.chip.execute wellFormed command)
  · exact ⟨onGrid.chip, onGrid.queue⟩

/-- A listener may be attached. -/
theorem OnGrid.attach (onGrid : receiver.OnGrid band) (now listener : Nat) :
    (receiver.attach now listener).OnGrid band := by
  refine ⟨onGrid.chip, fun envelope member event holds => ?_⟩
  rcases Courier.mem_send member with old | new
  · exact onGrid.queue envelope old event holds
  · have same := new.symm.trans holds
    contradiction

/-- The receiver may go away. -/
theorem OnGrid.shutDown (onGrid : receiver.OnGrid band) (now : Nat) :
    (receiver.shutDown now).OnGrid band := by
  have same : (receiver.chip.supersede now).2.band = receiver.chip.band := by
    rw [Chip.supersede_eq]
  refine ⟨⟨same.trans onGrid.chip.same, ?_⟩, fun envelope member event holds => ?_⟩
  · change ∀ station ∈ (receiver.chip.supersede now).2.stations, _
    rw [Chip.supersede_eq]
    exact onGrid.chip.stations
  · rcases Courier.mem_send member with old | new
    · exact onGrid.queue envelope old event holds
    · have same := new.symm.trans holds
      contradiction

end Receiver

namespace System

/-- Core and receiver have a band, and all they have to do with is on its grid. -/
structure OnGrid (band : Band) (system : System Receiver) : Prop where
  /-- The core has the band. -/
  same : system.core.band = band
  /-- The receiver is on its grid. -/
  receiver : system.peer.OnGrid band
  /-- The event that an operation waits with lies on the grid. -/
  held : ∀ event, system.core.Holds event → event.OnGrid band

variable {band : Band} {system system' : System Receiver}

/-- Whether a system is on the grid is a matter of its core and of its receiver. -/
theorem OnGrid.of_core (onGrid : system.OnGrid band) (peer : system'.peer.OnGrid band)
    (same : system'.core.band = system.core.band)
    (holds : ∀ event, system'.core.Holds event → system.core.Holds event) :
    system'.OnGrid band where
  same := same.trans onGrid.same
  receiver := peer
  held event has := onGrid.held event (holds event has)

/-- A system on the grid stays there while what is on its way is delivered. -/
theorem onGrid_outlasts (band : Band) : OutlastsDelivery (OnGrid band) where
  pass _ _ onGrid := onGrid.of_core onGrid.receiver rfl fun _ => id
  receive system envelope rest next onGrid := by
    have first : envelope.OnGrid band :=
      onGrid.receiver.queue envelope (next ▸ List.mem_cons_self)
    have advanced : (system.receive envelope).peer.OnGrid band := by
      rw [receive_peer]
      refine ⟨onGrid.receiver.chip, fun later member => ?_⟩
      exact onGrid.receiver.queue later (List.mem_of_mem_tail member)
    refine ⟨?_, advanced, fun event has => ?_⟩
    · refine Eq.trans ?_ onGrid.same
      unfold receive deliver become
      dsimp only
      split
      · dsimp only
        split
        · exact Core.notify_band _ _ _ _
        · rfl
      · rfl
    · unfold receive deliver become at has
      dsimp only at has
      split at has
      · dsimp only at has
        split at has
        · rcases has.of_notify with before | ⟨_, told, _⟩
          · exact onGrid.held event before
          · exact first event told
        · exact onGrid.held event has
      · exact onGrid.held event has

/-- A delivery does not change the band. -/
theorem unmoved_receive (band : Band) (system : System Receiver) (envelope : Envelope) :
    (system.receive envelope).Unmoved band ↔ system.Unmoved band := by
  have waited : (system.pass (envelope.due - system.clock)).Unmoved band ↔ system.Unmoved band :=
    (system.unmoved_record band (.passing _)).trans (and_iff_right trivial)
  unfold receive
  dsimp only
  split
  · exact (List.forall_mem_cons.trans (and_iff_right trivial)).trans waited
  · exact waited

/-- Nothing has changed the band, and core and receiver are on its grid. -/
def StaysOnGrid (band : Band) (system : System Receiver) : Prop :=
  system.Unmoved band ∧ system.OnGrid band

/-- As long as nothing has changed the band, core and receiver are on its grid. -/
def OnGridUnlessMoved (band : Band) (system : System Receiver) : Prop :=
  system.Unmoved band → system.OnGrid band

/-- Deliveries change no band, and so leave core and receiver on the grid of one that nothing has
changed. -/
theorem staysOnGrid_outlasts (band : Band) : OutlastsDelivery (StaysOnGrid band) where
  pass system ms := fun ⟨unmoved, onGrid⟩ =>
    ⟨(system.unmoved_record band (.passing ms)).2 ⟨trivial, unmoved⟩,
      (onGrid_outlasts band).pass system ms onGrid⟩
  receive system envelope rest next := fun ⟨unmoved, onGrid⟩ =>
    ⟨(unmoved_receive band system envelope).2 unmoved,
      (onGrid_outlasts band).receive system envelope rest next onGrid⟩

/-- Deliveries keep core and receiver on the grid unless the band was changed before. -/
theorem onGridUnlessMoved_outlasts (band : Band) : OutlastsDelivery (OnGridUnlessMoved band) where
  pass system ms keeping unmoved :=
    (onGrid_outlasts band).pass system ms
      (keeping ((system.unmoved_record band (.passing ms)).1 unmoved).2)
  receive system envelope rest next keeping unmoved :=
    (onGrid_outlasts band).receive system envelope rest next
      (keeping ((unmoved_receive band system envelope).1 unmoved))

/-- A command that keeps the band may be submitted. -/
theorem OnGrid.submitting (onGrid : system.OnGrid band) (wellFormed : band.WellFormed)
    {command : Command} {expected : Option Frequency} {generation : Nat} {core : Core}
    (installed : system.core.install command expected = .ok (generation, core))
    (keeps : command.KeepsBand band) : (system.submitting command core).OnGrid band :=
  onGrid.of_core (onGrid.receiver.submit wellFormed system.clock keeps)
    (Core.install_known installed).2.1 fun event has =>
      absurd has (Core.install_fresh installed event)

/-- When nobody waits any more, nothing is held. -/
theorem OnGrid.idle (onGrid : system.OnGrid band) {occurrence : Occurrence} {core : Core}
    (same : core.band = system.core.band) (idle : core.waiter = none) :
    (system.become occurrence core).OnGrid band := by
  refine onGrid.of_core onGrid.receiver same ?_
  rintro event ⟨waiter, waiting, _⟩
  rw [become, idle] at waiting
  contradiction

end System

/-! ## Commands -/

namespace Controller

variable {controller : Controller Receiver} {band : Band} {system after : System Receiver}
  {command : Command} {expected : Option Frequency}

/-- A command that keeps the band leaves core and receiver on its grid. -/
theorem run_staysOnGrid (receiver : controller.link.ToReceiver) (wellFormed : band.WellFormed)
    (keeps : command.KeepsBand band) (stays : system.StaysOnGrid band) :
    ((controller.run command expected).run.run system).2.StaysOnGrid band := by
  cases installed : system.core.install command expected with
  | error fault =>
    rw [run_of_uninstalled installed]
    exact stays
  | ok outcome =>
    obtain ⟨generation, core⟩ := outcome
    obtain ⟨unmoved, onGrid⟩ := stays
    refine run_lasts receiver installed (System.staysOnGrid_outlasts band) ?_ ?_ ⟨?_, ?_⟩
    · rintro system code ⟨unmoved, onGrid⟩
      exact ⟨(system.unmoved_record band (.refusing code)).2 ⟨trivial, unmoved⟩,
        onGrid.idle rfl rfl⟩
    · rintro system ⟨unmoved, onGrid⟩
      exact ⟨(system.unmoved_record band .settling).2 ⟨trivial, unmoved⟩,
        onGrid.idle (Core.settle_known _ _ _ _ _).2 (Core.settle_idle _ _ _ _ _).1⟩
    · exact List.forall_mem_cons.2 ⟨trivial, List.forall_mem_cons.2 ⟨keeps,
        List.forall_mem_cons.2 ⟨trivial, unmoved⟩⟩⟩
    · exact onGrid.submitting wellFormed installed keeps

/-- The event that a command which keeps the band ends with is on the grid. -/
theorem run_onGrid (receiver : controller.link.ToReceiver) (wellFormed : band.WellFormed)
    (keeps : command.KeepsBand band) (stays : system.StaysOnGrid band) {event : Event}
    (done : (controller.run command expected).run.run system = (.ok (some event), after)) :
    event.OnGrid band := by
  obtain ⟨generation, core, awaited, installed, lasts, settled⟩ := run_awaited receiver done
  have onGrid := lasts (System.OnGrid band) (System.onGrid_outlasts band)
    (stays.2.submitting wellFormed installed keeps)
  exact onGrid.held event (.of_settle settled)

/-- Whatever a command does, core and receiver are on the grid unless the band was changed. -/
theorem run_onGridUnlessMoved (receiver : controller.link.ToReceiver)
    (wellFormed : band.WellFormed) (keeping : system.OnGridUnlessMoved band) :
    ((controller.run command expected).run.run system).2.OnGridUnlessMoved band := by
  cases installed : system.core.install command expected with
  | error fault =>
    rw [run_of_uninstalled installed]
    exact keeping
  | ok outcome =>
    obtain ⟨generation, core⟩ := outcome
    refine run_lasts receiver installed (System.onGridUnlessMoved_outlasts band) ?_ ?_ ?_
    · intro system code keeping unmoved
      exact (keeping ((system.unmoved_record band (.refusing code)).1 unmoved).2).idle rfl rfl
    · intro system keeping unmoved
      exact (keeping ((system.unmoved_record band .settling).1 unmoved).2).idle
        (Core.settle_known _ _ _ _ _).2 (Core.settle_idle _ _ _ _ _).1
    · intro unmoved
      obtain ⟨_, unmoved⟩ := List.forall_mem_cons.1 unmoved
      obtain ⟨keeps, unmoved⟩ := List.forall_mem_cons.1 unmoved
      obtain ⟨_, unmoved⟩ := List.forall_mem_cons.1 unmoved
      exact (keeping unmoved).submitting wellFormed installed keeps

end Controller

namespace Radio

variable {radio : Radio Receiver} {band : Band}

/-- Whatever a radio does that has the receiver to itself, core and receiver are on the grid unless
the band was changed. -/
theorem onGrid_alongside (receiver : radio.link.ToReceiver) (wellFormed : band.WellFormed)
    (kept : System Receiver → Prop) (owned : Band → System Receiver → Prop) :
    radio.Alongside kept owned (System.OnGridUnlessMoved band) where
  attach system _ keeping := by
    refine Controller.attach_lasts receiver (System.onGridUnlessMoved_outlasts band) keeping ?_
    intro unmoved
    have onGrid := keeping (List.forall_mem_cons.1 unmoved).2
    exact onGrid.of_core (onGrid.receiver.attach _ _) rfl fun _ => id
  detach system _ keeping := by
    rw [Controller.detach_run receiver]
    intro unmoved
    have onGrid := keeping (List.forall_mem_cons.1 (List.forall_mem_cons.1 unmoved).2).2
    exact onGrid.of_core (onGrid.receiver.shutDown _) rfl fun _ has => has.of_detached
  run _ _ _ _ _ _ _ keeping := Controller.run_onGridUnlessMoved receiver wellFormed keeping
  abort system _ keeping := by
    rw [Controller.submitUnawaited_run]
    cases system.core.check .abortSeek with
    | error fault => exact keeping
    | ok passed =>
      have receiver : radio.controller.link.ToReceiver := receiver
      rw [receiver.submit_run]
      intro unmoved
      have onGrid := keeping (List.forall_mem_cons.1 (List.forall_mem_cons.1 unmoved).2).2
      exact onGrid.of_core (onGrid.receiver.submit wellFormed _ trivial) rfl fun _ => id
  pause _ system _ keeping := by
    have receiver : radio.controller.link.ToReceiver := receiver
    have same : radio.link.pause.run system = ((), system) := receiver.pause_run
    rw [same]
    exact keeping
  own system occurrence system' besides keeping unmoved := by
    rw [System.Unmoved, besides.history] at unmoved
    obtain ⟨keeps, unmoved⟩ := List.forall_mem_cons.1 unmoved
    have onGrid := keeping unmoved
    refine ⟨?_, besides.peer ▸ onGrid.receiver, fun event has => ?_⟩
    · rw [besides.band]
      cases occurrence with
      | settingBand other => exact keeps
      | _ => exact onGrid.same
    · rcases besides.waiter with idle | same
      · obtain ⟨waiter, waiting, _⟩ := has
        rw [idle] at waiting
        contradiction
      · exact onGrid.held event (has.of_same same)

/-! ## What seeks answer -/

section Found

variable {system after : System Receiver} {frequency : Frequency}
  (receiver : radio.link.ToReceiver) (wellFormed : band.WellFormed)
  (stays : system.StaysOnGrid band)

include stays

/-- A session that comes to something began on the grid. -/
theorem session_onGrid {α : Type} {body : Attempt Receiver α} {value : α}
    (done : (radio.controller.session body).run.run system = (.ok value, after)) :
    ∃ begun ended : System Receiver, begun.StaysOnGrid band ∧
      body.run.run begun = (.ok value, ended) := by
  obtain ⟨core, ended, claimed, ran, _⟩ := Controller.session_ok done
  obtain ⟨_, _, rfl⟩ := Core.claim_eq_ok claimed
  obtain ⟨unmoved, onGrid⟩ := stays
  refine ⟨system.become .claiming _, ended, ⟨?_, ?_⟩, ran⟩
  · exact (system.unmoved_record band .claiming).2 ⟨trivial, unmoved⟩
  · exact onGrid.of_core onGrid.receiver rfl fun _ => id

include receiver wellFormed

/-- What a seek finds is on the grid. -/
theorem seekWith_onGrid {command : Command} {start : Option Frequency}
    (done : (radio.seekWith command start).run.run system = (.ok (some frequency), after))
    (keeps : command.KeepsBand band) : band.ChannelOrEdge frequency := by
  obtain ⟨report, run, success, rfl⟩ := seekWith_ok done
  exact Controller.run_onGrid receiver wellFormed keeps stays run report rfl success

/-- What a seek from the tuned frequency finds is on the grid. -/
theorem seekHere_onGrid {command : Command}
    (done : (radio.controller.session do
      radio.seekWith command (← Attempt.core).state.tuned).run.run system =
        (.ok (some frequency), after)) (keeps : command.KeepsBand band) :
    band.ChannelOrEdge frequency := by
  obtain ⟨begun, ended, stays', ran⟩ := session_onGrid stays done
  exact seekWith_onGrid receiver wellFormed stays' ran keeps

/-- What a seek from another frequency finds is on the grid. -/
theorem seekFrom_onGrid {start : Frequency} {direction : Direction}
    (done : (radio.seekFrom start direction).run.run system = (.ok (some frequency), after)) :
    band.ChannelOrEdge frequency := by
  obtain ⟨_, sought⟩ := requireTunable_bind_ok done
  obtain ⟨begun, ended, stays', ran⟩ := session_onGrid stays sought
  obtain ⟨event, tuned, tuning, ran⟩ := Attempt.ok_of_bind ran
  obtain ⟨event?, between, run, same⟩ := Attempt.ok_of_bind tuning
  have stays'' : ((radio.controller.run (.tune start) (some start)).run.run
      begun).2.StaysOnGrid band :=
    Controller.run_staysOnGrid receiver wellFormed trivial stays'
  rw [run] at stays''
  have reached : between = tuned := by
    cases event? with
    | some event => exact (Prod.mk.inj same).2
    | none => cases same
  rw [reached] at stays''
  exact seekWith_onGrid receiver wellFormed stays'' ran trivial

/-- What a seek within bounds finds is on the grid. -/
theorem seekRange_onGrid {first last : Frequency} {direction : Direction}
    (done : (radio.seekRange first last direction).run.run system =
      (.ok (some frequency), after)) : band.ChannelOrEdge frequency := by
  obtain ⟨_, passed⟩ := requireTunable_bind_ok done
  obtain ⟨_, sought⟩ := requireTunable_bind_ok passed
  exact seekHere_onGrid receiver wellFormed stays sought trivial

/-- What any call found in a seek is on the grid. -/
theorem answer_onGrid {call : Call}
    (found : radio.replyTo call system = .sought (.ok (some frequency))) :
    band.ChannelOrEdge frequency := by
  cases call with
  | seek direction =>
    have done : (radio.seek direction).run.run system = (.ok (some frequency), _) :=
      Prod.ext (Answer.sought.inj found) rfl
    exact seekHere_onGrid receiver wellFormed stays done trivial
  | seekFrom start direction =>
    have done : (radio.seekFrom start direction).run.run system = (.ok (some frequency), _) :=
      Prod.ext (Answer.sought.inj found) rfl
    exact seekFrom_onGrid receiver wellFormed stays done
  | seekRds direction condition value =>
    have done : (radio.seekRds direction condition value).run.run system =
        (.ok (some frequency), _) := Prod.ext (Answer.sought.inj found) rfl
    exact seekHere_onGrid receiver wellFormed stays done trivial
  | seekRange first last direction =>
    have done : (radio.seekRange first last direction).run.run system =
        (.ok (some frequency), _) := Prod.ext (Answer.sought.inj found) rfl
    exact seekRange_onGrid receiver wellFormed stays done
  | _ => cases found

end Found

end Radio

/-- What seeks find are channels, or the upper bound. With a receiver that has the band of the radio
and all its stations on channels, however late it reports, and whatever was called before that did
not change the band: whatever a seek of any kind finds can be tuned, unless it is the upper bound of
the band and that is no channel. -/
theorem Radio.found_channel_or_edge {settings : Settings} {receiver : Receiver}
    {start before : System Receiver} (started : Radio.start settings receiver = .ok start)
    (same : receiver.chip.band = settings.band)
    (channels : ∀ station ∈ receiver.chip.stations,
      settings.band.isTunable station.frequency = true)
    (fresh : receiver.courier.queue = []) {depth : Nat} {turns : List Turn}
    (reached : (ofPeer settings Receiver.peer depth).played (script turns) start = before)
    (unmoved : before.Unmoved settings.band) :
    before.core.band = settings.band ∧
    ∀ call frequency,
      (ofPeer settings Receiver.peer depth).replyTo call before =
        .sought (.ok (some frequency)) →
      before.core.band.isTunable frequency = true ∨
        (frequency = before.core.band.high ∧
          before.core.band.isTunable before.core.band.high = false) := by
  have toReceiver : (ofPeer settings Receiver.peer depth).link.ToReceiver :=
    Peer.link_toReceiver _ depth
  have wellFormed := start_wellFormed started
  obtain rfl := start_eq_ok started
  have upkeep := (@onGrid_alongside (ofPeer settings Receiver.peer depth) settings.band toReceiver
    wellFormed _ _).upkeep (lawful_upkeep (ofPeer_lawful settings Receiver.peer depth) [] none)
  have begun : System.OnGridUnlessMoved settings.band
      { core := { band := settings.band }, peer := receiver } := by
    intro _
    refine ⟨rfl, ⟨⟨same, channels⟩, ?_⟩, ?_⟩
    · rw [fresh]
      exact List.forall_mem_nil _
    · rintro event ⟨waiter, waiting, _⟩
      cases waiting
  have lawful : System.Lawful settings [] none
      ({ core := { band := settings.band }, peer := receiver } : System Receiver) :=
    played_lawful (σ := Receiver) started Receiver.peer 0 (.finish .ok)
  have kept := script_keeps
    (fun request system keeping => (upkeep.answer request system keeping).1)
    (fun ms system ⟨lawful, keeping⟩ =>
      ⟨System.Lawful.outlasts.delivery.waited ms lawful,
        (System.onGridUnlessMoved_outlasts settings.band).waited ms keeping⟩)
    turns ⟨lawful, begun⟩
  rw [reached] at kept
  have onGrid := kept.2 unmoved
  rw [onGrid.same]
  refine ⟨rfl, fun call frequency found => ?_⟩
  have grid := answer_onGrid toReceiver wellFormed ⟨unmoved, onGrid⟩ found
  by_cases channel : settings.band.isTunable frequency = true
  · exact .inl channel
  · have edge := grid.resolve_left channel
    rw [edge] at channel
    exact .inr ⟨edge, Bool.eq_false_iff.2 channel⟩

/-- Two stations on channels. -/
def Radio.onChannels : List Station :=
  [{ frequency := ⟨8930⟩, rssi := -60 }, { frequency := ⟨10170⟩, rssi := -55 }]

/-- A radio with default settings over a receiver with these stations. -/
def Radio.overChannels : System Receiver where
  core := { band := Settings.band {} }
  peer := {
    chip := {
      band := Band.preset .na
      stations := onChannels
      eventLatency := 30
      seekLatency := 200
      noiseFloor := -118 } }

/-- The radio over a receiver with these stations is one that starts. -/
theorem Radio.start_overChannels : Radio.start {} overChannels.peer = .ok overChannels := rfl

/-- What is left when it was opened and turned on at a frequency. -/
def Radio.turnedOnAt (frequency : Frequency) : System Receiver :=
  (ofPeer {} Receiver.peer 0).played (script [.call .attach, .call (.powerUp frequency)])
    overChannels

/-- A seek downward from between the stations finds a channel. -/
theorem Radio.found_channel_or_edge_turnedOn :
    (ofPeer {} Receiver.peer 0).replyTo (.seek .down) (turnedOnAt ⟨9870⟩) =
        .sought (.ok (some ⟨8930⟩)) ∧
      (turnedOnAt ⟨9870⟩).core.band.isTunable ⟨8930⟩ = true := by
  have answered : ((ofPeer {} Receiver.peer 0).seek .down |>.run.run (turnedOnAt ⟨9870⟩)).1 =
      .ok (some ⟨8930⟩) := by decide +kernel
  have found : (ofPeer {} Receiver.peer 0).replyTo (.seek .down) (turnedOnAt ⟨9870⟩) =
      .sought (.ok (some ⟨8930⟩)) := by rw [replyTo_seek, answered]
  have unmoved : (turnedOnAt ⟨9870⟩).Unmoved (Settings.band {}) := by decide +kernel
  have channels : ∀ station ∈ onChannels,
      (Settings.band {}).isTunable station.frequency = true := by decide
  obtain ⟨band, channel⟩ := Radio.found_channel_or_edge start_overChannels rfl channels rfl
    (by rw [turnedOnAt]) unmoved
  have answer := channel (.seek .down) ⟨8930⟩ found
  rw [band] at answer ⊢
  refine ⟨found, answer.resolve_right ?_⟩
  rintro ⟨edge, _⟩
  exact absurd edge (by decide)

/-- A seek downward from the lower one of them finds the upper bound, which cannot be tuned. -/
theorem Radio.found_untunable :
    Radio.start {} overChannels.peer = .ok overChannels ∧
      (∀ station ∈ onChannels, (Band.preset .na).isTunable station.frequency = true) ∧
      (turnedOnAt ⟨8930⟩).core.band = Band.preset .na ∧
      ((ofPeer {} Receiver.peer 0).seek .down |>.run.run (turnedOnAt ⟨8930⟩)).1 =
        .ok (some ⟨10800⟩) ∧
      (Band.preset .na).isTunable ⟨10800⟩ = false ∧
      ((ofPeer {} Receiver.peer 0).tune ⟨10800⟩ |>.run.run
          ((ofPeer {} Receiver.peer 0).after (.seek .down) (turnedOnAt ⟨8930⟩))).1 =
        .error (.invalidParameter (.notTunable 10800)) :=
  ⟨rfl, by decide, by decide +kernel, by decide +kernel, by decide, by decide +kernel⟩

end Tuner
