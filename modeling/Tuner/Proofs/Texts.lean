import Tuner.Proofs.Landing

/-!
# Radio texts arrive

What is decoded of a station tells of each field once, and when the tuner has come there it is on
its way with nothing else that tells of the same. So when it was delivered, and before anything else
is called, the name of the program service, the radio text and the program type are those of the
station, if it broadcasts them, and the texts are to be reported as updated. The texts in the status
report that came first make no difference, and texts may be empty.
-/
namespace Tuner

/-! ## Program types in digits -/

/-- The number of a byte in digits stands for the byte. -/
theorem Text.byte_of_digits :
    ∀ value < UInt8.size, Text.byte? (toString value) = some (UInt8.ofNat value) := by
  decide +kernel

/-! ## What radio data tells -/

/-- The field of the radio data that an event tells of. -/
def Event.field? : Event → Option RdsField
  | .rdsData field _ _ => some field
  | _ => none

namespace RadioState

/-- What an event of the radio data tells is known, and a text is to be reported as updated. -/
def Notes (state : RadioState) : Event → Prop
  | .rdsData .programType _ text =>
    ∀ programType, Text.byte? text = some programType → state.programType = some programType
  | .rdsData .programService _ text =>
    state.programService = some text ∧ state.updates.programService = true
  | .rdsData .radioText _ text => state.radioText = some text ∧ state.updates.radioText = true
  | _ => True

variable {state : RadioState}

/-- What an event of the radio data tells is noted when it was just heard while the decoder runs. -/
theorem notes_apply (on : state.rdsMode.isOn = true) (band : Band) (event : Event) :
    (state.apply band event).Notes event := by
  cases event with
  | rdsData field index text =>
    change (state.applyRdsData field text).Notes _
    unfold applyRdsData
    rw [on, Bool.not_true, if_neg Bool.false_ne_true]
    cases field with
    | programType =>
      intro programType stands
      simp only [stands]
    | programService | radioText => exact ⟨rfl, rfl⟩
    | programTypeName | other => trivial
  | _ => trivial

/-- What was noted stays so when something else is heard in passing. -/
theorem Notes.apply {noted event : Event} (notes : state.Notes noted)
    (background : event.isBackground = true) (elsewhere : event.field? ≠ noted.field?)
    (band : Band) : (state.apply band event).Notes noted := by
  cases event with
  | rdsData field index text =>
    change (state.applyRdsData field text).Notes noted
    unfold applyRdsData
    split
    · exact notes
    · cases noted with
      | rdsData field' index' text' =>
        cases field with
        | programType =>
          dsimp only
          split
          · cases field' <;> first | exact notes | contradiction
          · exact notes
        | _ => cases field' <;> first | exact notes | contradiction
      | _ => trivial
  | liveQuality =>
    cases noted with
    | rdsData field index text => cases field <;> exact notes
    | _ => trivial
  | _ => contradiction

end RadioState

namespace Chip

variable {chip : Chip}

/-- What is decoded tells of each field once. -/
theorem eq_of_field {event event' : Event} (member : event ∈ chip.radioData)
    (member' : event' ∈ chip.radioData) (same : event.field? = event'.field?) :
    event = event' := by
  obtain ⟨station, decoded⟩ := decoded_of_mem member
  rw [mem_radioData decoded] at member member'
  rcases member with rfl | ⟨text, broadcast, rfl⟩ | ⟨text, broadcast, rfl⟩
  · rcases member' with rfl | ⟨_, _, rfl⟩ | ⟨_, _, rfl⟩
    · rfl
    all_goals cases same
  · rcases member' with rfl | ⟨text', broadcast', rfl⟩ | ⟨_, _, rfl⟩
    · cases same
    · rw [Option.some.inj (broadcast.symm.trans broadcast')]
    · cases same
  · rcases member' with rfl | ⟨_, _, rfl⟩ | ⟨text', broadcast', rfl⟩
    · cases same
    · cases same
    · rw [Option.some.inj (broadcast.symm.trans broadcast')]

/-- What is decoded is that of the station on the tuned frequency. -/
theorem decoded_of_station {station : Station} (on : chip.rdsMode.isOn = true)
    (heard : chip.stationAt chip.frequency = some station) : chip.decoded = some station := by
  rw [decoded, if_pos on, heard]

/-- Nothing is decoded while the decoder is off. -/
theorem on_of_decoded {station : Station} (decoded : chip.decoded = some station) :
    chip.rdsMode.isOn = true := by
  unfold Chip.decoded at decoded
  split at decoded
  next on => exact on
  next => contradiction

end Chip

/-! ## Deliveries -/

namespace System

variable {system : System Receiver} {envelope : Envelope} {noted : Event}

/-- A harmless envelope changes nothing of what is known, or what it holds is heard in passing. -/
theorem receive_state (harmless : envelope.Harmless system.listeners system.core.epoch) :
    (system.receive envelope).core.state = system.core.state ∨
      ∃ event, envelope.notification = .event event ∧ event.isBackground = true ∧
        (system.receive envelope).core.state = system.core.state.apply system.core.band event := by
  obtain ⟨stamp, stamped, kind⟩ := harmless
  rw [receive_core stamped]
  split
  · unfold Core.notify
    split
    next current =>
      obtain ⟨event, holds, background⟩ := kind.resolve_left fun stale =>
        absurd stale (current ▸ Nat.lt_irrefl _)
      rw [holds]
      dsimp only
      rw [Core.hear_state]
      split
      · exact .inr ⟨event, rfl, background, rfl⟩
      · exact .inl rfl
    next => exact .inl rfl
  · exact .inl rfl

/-- An event for the listener that may speak is folded into the state when it is delivered. -/
theorem receive_heard (attached : system.core.state.attached = true)
    (holds : envelope.notification = .event noted)
    (current : system.listeners[envelope.listener]? = some system.core.epoch)
    (delivered : envelope.isCurrent system.peer.chip.epoch = true) :
    (system.receive envelope).core.state = system.core.state.apply system.core.band noted := by
  rw [receive_current current delivered, holds]
  unfold Core.notify
  rw [if_pos rfl]
  dsimp only
  rw [Core.hear_state, if_pos attached]

/-- What another event tells of is another field than that of some radio data, if no radio data but
that tells of it. -/
theorem field_ne_of_alone {event : Event} (data : noted.tag = .rdsData)
    (holds : envelope.notification = .event event) (other : event ≠ noted)
    (alone : ∀ event, envelope.data? = some event →
      event = noted ∨ event.field? ≠ noted.field?) : event.field? ≠ noted.field? := by
  by_cases tag : event.tag = .rdsData
  · have held : envelope.data? = some event := by
      rw [Envelope.data?, holds]
      exact if_pos tag
    exact (alone event held).resolve_left other
  · cases noted with
    | rdsData field index text =>
      cases event with
      | rdsData => exact absurd rfl tag
      | _ => nofun
    | _ => contradiction

/-- What is known of some radio data stays so through a harmless envelope, if that holds no other
radio data that tells of the same field. -/
theorem receive_notes (harmless : envelope.Harmless system.listeners system.core.epoch)
    (on : system.core.state.rdsMode.isOn = true) (data : noted.tag = .rdsData)
    (alone : ∀ event, envelope.data? = some event → event = noted ∨ event.field? ≠ noted.field?)
    (notes : system.core.state.Notes noted) : (system.receive envelope).core.state.Notes noted := by
  rcases receive_state harmless with same | ⟨event, holds, background, state⟩
  · rw [same]
    exact notes
  · rw [state]
    by_cases same : event = noted
    · rw [same]
      exact RadioState.notes_apply on _ _
    · exact notes.apply background (field_ne_of_alone data holds same alone) _

/-- Radio data that is delivered is known in the end, if nothing else that is delivered tells of the
same field. -/
theorem Ignores.notes {moment : Nat} {envelopes : List Envelope}
    (ignores : system.Ignores moment envelopes) (attached : system.core.state.attached = true)
    (on : system.core.state.rdsMode.isOn = true) (data : noted.tag = .rdsData)
    (alone : ∀ envelope ∈ envelopes, ∀ event, envelope.data? = some event →
      event = noted ∨ event.field? ≠ noted.field?)
    (told : system.core.state.Notes noted ∨ ∃ envelope ∈ envelopes,
      envelope.notification = .event noted ∧
      system.listeners[envelope.listener]? = some system.core.epoch ∧
      envelope.isCurrent system.peer.chip.epoch = true) :
    (envelopes.foldl receive system).core.state.Notes noted := by
  induction envelopes generalizing system with
  | nil => exact told.resolve_right fun ⟨_, absent, _⟩ => absurd absent List.not_mem_nil
  | cons first rest ih =>
    obtain ⟨idles, ignores'⟩ := ignores.first
    have harmless := ignores.harmless first List.mem_cons_self
    have attached' : (system.receive first).core.state.attached = true :=
      (congrArg (fun core => core.state.attached) idles.core :).trans attached
    have mode : (system.receive first).core.state.rdsMode = system.core.state.rdsMode :=
      (congrArg (fun core => core.state.rdsMode) idles.core :)
    have chip : (system.receive first).peer.chip = system.peer.chip :=
      (congrArg Receiver.chip idles.peer :)
    refine ih ignores' attached' (mode ▸ on)
      (fun envelope member => alone envelope (List.mem_cons_of_mem _ member)) ?_
    rcases told with notes | ⟨envelope, member, holds, current, delivered⟩
    · exact .inl (receive_notes harmless on data (alone first List.mem_cons_self) notes)
    · rcases List.mem_cons.1 member with rfl | later
      · left
        rw [receive_heard attached holds current delivered]
        exact RadioState.notes_apply on _ _
      · refine .inr ⟨envelope, later, holds, ?_, chip ▸ delivered⟩
        rw [idles.listeners, idles.epoch]
        exact current

variable {timeout : Nat} {aired : List Station} {busy : Bool}

/-- When all that is due was delivered, the core knows what is decoded. -/
theorem Landed.notes (landed : system.Landed timeout aired busy) (ms : Nat) {event : Event}
    (member : event ∈ system.peer.chip.radioData) : (system.waited ms).core.state.Notes event := by
  obtain ⟨station, decoded⟩ := Chip.decoded_of_mem member
  have on := landed.decoding.known (Chip.on_of_decoded decoded)
  have data := system.peer.chip.radioData_tag event member
  obtain ⟨envelope, queued, due, holds, current, delivered⟩ := landed.coming event member
  have among : envelope ∈ system.peer.courier.dueBy (system.clock + ms) :=
    Courier.mem_dueBy landed.inStep.ordered queued (due.trans (Nat.le_add_right _ _))
  refine (landed.inStep.ignores ms).notes landed.attached on data ?_
    (.inr ⟨envelope, among, holds, current, delivered⟩)
  intro other among event' data'
  have member' := landed.alone other ((List.takeWhile_prefix _).subset among) event' data'
  by_cases same : event'.field? = event.field?
  · exact .inl (Chip.eq_of_field member' member same)
  · exact .inr same

end System

/-! ## What a caller reads -/

namespace RadioState

variable {state : RadioState}

/-- An update of the name of the program service is reported first. -/
theorem takeUpdate_programService (on : state.rdsMode.isOn = true)
    (pending : state.updates.programService = true) : state.takeUpdate.1 = 0x0008 := by
  rw [takeUpdate, if_pos on, RdsUpdates.takeNext, if_pos pending]
  rfl

/-- An update of the radio text is reported next. -/
theorem takeUpdate_radioText (on : state.rdsMode.isOn = true)
    (pending : state.updates.radioText = true) :
    state.takeUpdate.1 = 0x0040 ∨
      state.takeUpdate.1 = 0x0008 ∧ state.takeUpdate.2.takeUpdate.1 = 0x0040 := by
  cases before : state.updates.programService with
  | true =>
    refine .inr ⟨takeUpdate_programService on before, ?_⟩
    have taken : state.takeUpdate.2 =
        { state with updates := { state.updates with programService := false } } := by
      rw [takeUpdate, if_pos on, RdsUpdates.takeNext, if_pos before]
    rw [taken, takeUpdate, if_pos on, RdsUpdates.takeNext, if_neg Bool.false_ne_true,
      if_pos pending]
    rfl
  | false =>
    left
    rw [takeUpdate, if_pos on, RdsUpdates.takeNext, before, if_neg Bool.false_ne_true,
      if_pos pending]
    rfl

end RadioState

namespace Radio

variable {σ : Type} (radio : Radio σ) {system : System σ}

/-- With the decoder running, the name of the program service is given as it is known. -/
theorem replyTo_programService (attached : system.core.state.attached = true)
    (on : system.core.state.rdsMode.isOn = true) :
    radio.replyTo .programService system = .text system.core.state.programService := by
  change Answer.text (if system.core.state.attached && system.core.state.rdsMode.isOn then _ else _)
    = _
  rw [attached, on]
  rfl

/-- With the decoder running, the radio text is given as it is known. -/
theorem replyTo_radioText (attached : system.core.state.attached = true)
    (on : system.core.state.rdsMode.isOn = true) :
    radio.replyTo .radioText system = .text system.core.state.radioText := by
  change Answer.text (if system.core.state.attached && system.core.state.rdsMode.isOn then _ else _)
    = _
  rw [attached, on]
  rfl

/-- With the link attached, an update of the radio texts is reported and forgotten. -/
theorem readRds_run (attached : system.core.state.attached = true) :
    (readRds : Action σ UInt16).run system =
      (system.core.state.takeUpdate.1, system.become .draining system.core.drain.2) := by
  change (if system.core.state.attached then Action.drain else return 0 : Action σ UInt16).run
    system = _
  rw [attached]
  rfl

/-- With the link attached, the next update of the radio texts is the answer. -/
theorem replyTo_readRds (attached : system.core.state.attached = true) :
    radio.replyTo .readRds system = .number system.core.state.takeUpdate.1 :=
  congrArg Answer.number (congrArg Prod.fst (readRds_run attached))

/-- The next answer is the next update. -/
theorem replyTo_readRds_again (attached : system.core.state.attached = true) :
    radio.replyTo .readRds (radio.after .readRds system) =
      .number system.core.state.takeUpdate.2.takeUpdate.1 := by
  have drained : radio.after .readRds system = system.become .draining system.core.drain.2 :=
    congrArg Prod.snd (readRds_run attached)
  rw [drained]
  exact radio.replyTo_readRds (system.core.state.takeUpdate_attached.trans attached)

end Radio

/-- The radio data of a station arrives. Over a simulated receiver whose delays are shorter than the
deadline of commands, with any band, stations and noise floor, whatever was called before and
however much time passed in between: when a call turned the decoder on, or with the decoder running
went to a frequency by a tune or a seek, and there is a station, then its program type is known once
what is due was delivered. So is the name of its program service and its radio text, if it
broadcasts them, even if they are empty. They are given to a caller, and are reported as updated. -/
theorem Radio.texts_arrive {settings : Settings} {band : Band} {stations : List Station}
    {eventLatency seekLatency : Nat} {noiseFloor : Int32} {start before after : System Receiver}
    (started : Radio.start settings
      (Receiver.start band stations eventLatency seekLatency noiseFloor) = .ok start)
    (events : eventLatency < settings.timeoutMs.toNat)
    (seeks : seekLatency < settings.timeoutMs.toNat) (depth : Nat) (turns : List Turn)
    (reached : (ofPeer settings Receiver.peer depth).played (script turns) start = before)
    {call : Call} {answer : Answer} {frequency : Frequency}
    (answered : (ofPeer settings Receiver.peer depth).replyTo call before = answer)
    (ended : (ofPeer settings Receiver.peer depth).after call before = after)
    (came : call.ComesTo after.peer.chip answer frequency)
    {station : Station} (broadcasts : after.peer.chip.stationAt frequency = some station)
    (ms : Nat) :
    let radio := ofPeer settings Receiver.peer depth
    let settled := radio.played (script [.wait ms]) after
    settled.core.state.programType = some station.programType ∧
    (∀ text, station.programService = some text →
      radio.replyTo .programService settled = .text (some text) ∧
      settled.core.state.updates.programService = true ∧
      radio.replyTo .readRds settled = .number 0x0008) ∧
    ∀ text, station.radioText = some text →
      radio.replyTo .radioText settled = .text (some text) ∧
      settled.core.state.updates.radioText = true ∧
      (radio.replyTo .readRds settled = .number 0x0040 ∨
        radio.replyTo .readRds settled = .number 0x0008 ∧
          radio.replyTo .readRds (radio.after .readRds settled) = .number 0x0040) := by
  have receiver : (ofPeer settings Receiver.peer depth).link.ToReceiver :=
    Peer.link_toReceiver _ depth
  obtain ⟨inStep, decoding⟩ := script_decodes started events seeks depth turns
  rw [reached] at inStep decoding
  obtain ⟨landed, on, stands⟩ := came.landed receiver inStep decoding answered ended
  have decoded : after.peer.chip.decoded = some station := by
    subst stands
    exact Chip.decoded_of_station on broadcasts
  have idles := landed.inStep.waited ms
  have attached : (after.waited ms).core.state.attached = true :=
    (congrArg (fun core => core.state.attached) idles.core :).trans landed.attached
  have mode : (after.waited ms).core.state.rdsMode = after.core.state.rdsMode :=
    (congrArg (fun core => core.state.rdsMode) idles.core :)
  have running : (after.waited ms).core.state.rdsMode.isOn = true :=
    mode ▸ landed.decoding.known on
  have noted : ∀ event ∈ after.peer.chip.radioData, (after.waited ms).core.state.Notes event :=
    fun event member => landed.notes ms member
  intro radio settled
  have waited : settled = after.waited ms := played_wait radio ms _ after
  rw [waited]
  refine ⟨?_, fun text broadcast => ?_, fun text broadcast => ?_⟩
  · have told := noted _ ((Chip.mem_radioData decoded _).2 (.inl rfl))
    refine told station.programType ?_
    rw [Text.byte_of_digits _ station.programType.toNat_lt, UInt8.ofNat_toNat]
  · obtain ⟨known, pending⟩ :=
      noted _ ((Chip.mem_radioData decoded _).2 (.inr (.inl ⟨text, broadcast, rfl⟩)))
    refine ⟨?_, pending, ?_⟩
    · rw [radio.replyTo_programService attached running, known]
    · rw [radio.replyTo_readRds attached, RadioState.takeUpdate_programService running pending]
  · obtain ⟨known, pending⟩ :=
      noted _ ((Chip.mem_radioData decoded _).2 (.inr (.inr ⟨text, broadcast, rfl⟩)))
    refine ⟨?_, pending, ?_⟩
    · rw [radio.replyTo_radioText attached running, known]
    · rw [radio.replyTo_readRds_again attached, radio.replyTo_readRds attached]
      exact (RadioState.takeUpdate_radioText running pending).imp (congrArg _) fun ⟨first, next⟩ =>
        ⟨congrArg _ first, congrArg _ next⟩

/-- Two stations with texts, one of them empty. -/
def Radio.broadcasting : List Station :=
  [{ frequency := ⟨8930⟩, rssi := -60, programService := some "NEWS", radioText := some "",
      programType := 10 },
    { frequency := ⟨10170⟩, rssi := -55, radioText := some "Now playing" }]

/-- A radio with default settings over a receiver that was just switched on within their reach. -/
def Radio.withinReach : System Receiver where
  core := { band := Settings.band {} }
  peer := {
    chip := {
      band := Band.preset .na
      stations := broadcasting
      eventLatency := 30
      seekLatency := 200
      noiseFloor := -118 } }

/-- The radio over a receiver within reach is one that starts. -/
theorem Radio.start_withinReach :
    Radio.start {} (Receiver.start (Band.preset .na) broadcasting 30 200 (-118)) =
      .ok withinReach := by
  have sorted : Station.sort broadcasting = broadcasting :=
    List.mergeSort_of_pairwise (by decide)
  rw [Receiver.start, sorted]
  rfl

/-- The radio is opened and turned on at the second station, and then the decoder is turned on. -/
def Radio.turningOnThere : List Turn :=
  [.call .attach, .call (.powerUp ⟨10170⟩), .call (.setRds true)]

/-- What is left after that. -/
def Radio.decodingThere : System Receiver :=
  (ofPeer {} Receiver.peer 0).played (script turningOnThere) withinReach

/-- What is left after a seek down. -/
def Radio.soughtDown : System Receiver :=
  (ofPeer {} Receiver.peer 0).after (.seek .down) decodingThere

/-- When what was due by then was delivered, the texts of the first station are known. -/
theorem Radio.texts_arrive_soughtDown :
    let settled := (ofPeer {} Receiver.peer 0).played (script [.wait 0]) soughtDown
    (ofPeer {} Receiver.peer 0).replyTo .programService settled = .text (some "NEWS") ∧
      (ofPeer {} Receiver.peer 0).replyTo .readRds settled = .number 0x0008 ∧
      (ofPeer {} Receiver.peer 0).replyTo .radioText settled = .text (some "") := by
  have found : ((ofPeer {} Receiver.peer 0).seek .down |>.run.run decodingThere).1 =
      .ok (some ⟨8930⟩) := by decide +kernel
  have answered : (ofPeer {} Receiver.peer 0).replyTo (.seek .down) decodingThere =
      .sought (.ok (some ⟨8930⟩)) := by rw [replyTo_seek, found]
  have reached : (ofPeer {} Receiver.peer 0).played (script turningOnThere) withinReach =
      decodingThere := rfl
  have ended : (ofPeer {} Receiver.peer 0).after (.seek .down) decodingThere = soughtDown := rfl
  have on : soughtDown.peer.chip.rdsMode.isOn = true := by decide +kernel
  have broadcasts : soughtDown.peer.chip.stationAt ⟨8930⟩ = broadcasting.head? := by
    decide +kernel
  obtain ⟨_, service, text⟩ := Radio.texts_arrive start_withinReach (by decide) (by decide) 0
    turningOnThere reached answered ended (.sought on) broadcasts 0
  obtain ⟨known, _, update⟩ := service "NEWS" rfl
  exact ⟨known, update, (text "" rfl).1⟩

end Tuner
