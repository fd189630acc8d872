import Tuner.Proofs.Run

/-!
# Nothing outlives the link

While no link is attached, the core knows nothing of a receiver: its state is the initial one, no
submission is owed an event, and an operation that still waits was told that the link is lost. What
an old listener says, what a deadline does late, and what an application asks for in the meantime
all leave it so. Only the band and the operation slot survive the loss of the link.
-/
namespace Tuner

/-- Whether an occurrence belongs to the loss of the link: it is asked to go away, says that it
went, or what it said is forgotten. -/
def Occurrence.losesLink : Occurrence → Bool
  | .detaching | .forgetting | .hearing _ .detached => true
  | _ => false

namespace RadioState

variable (state : RadioState)

/-- A reported frequency says nothing of the link. -/
theorem setTuned_attached (frequency : Frequency) (band : Band) :
    (state.setTuned frequency band).attached = state.attached := by
  unfold setTuned
  split <;> rfl

/-- The texts of a status report say nothing of the link. -/
theorem applyStatusTexts_attached (report : StatusReport) :
    (state.applyStatusTexts report).attached = state.attached := by
  unfold applyStatusTexts
  split <;> rfl

/-- Radio data says nothing of the link. -/
theorem applyRdsData_attached (field : RdsField) (text : String) :
    (state.applyRdsData field text).attached = state.attached := by
  unfold applyRdsData
  split
  · rfl
  · split
    case h_4 => split <;> rfl
    all_goals rfl

/-- An event says nothing of the link. -/
theorem apply_attached (band : Band) (event : Event) :
    (state.apply band event).attached = state.attached := by
  cases event with
  | status report =>
    rw [apply, applyStatusTexts_attached]
    exact state.setTuned_attached _ _
  | seekComplete report =>
    rw [apply]
    split
    · exact state.setTuned_attached _ _
    · rfl
  | rdsData field index text => exact state.applyRdsData_attached field text
  | rdsMode | audioMode | audioPath | noiseFloor | liveQuality | worldRegion | volume => rfl

/-- Reporting an update says nothing of the link. -/
theorem takeUpdate_attached : state.takeUpdate.2.attached = state.attached := by
  unfold takeUpdate
  split <;> rfl

/-- In the initial state there is no update to report. -/
theorem takeUpdate_initial : (takeUpdate {}).2 = {} := rfl

end RadioState

namespace Core

/-- Nothing is known of a receiver. -/
structure Blank (core : Core) : Prop where
  /-- The state is the initial one. -/
  state : core.state = {}
  /-- No submission is owed an event, live or retired. -/
  entries : core.ledger.entries = []
  /-- An operation that waits was told that the link is lost. -/
  lost : ∀ waiter, core.waiter = some waiter → waiter.reply = some .linkLost

/-- Without a link, nothing is known of a receiver. -/
def Clean (core : Core) : Prop := core.state.attached = false → core.Blank

variable {core core' : Core}

/-- A core with a link is clean, whatever it knows. -/
theorem Clean.of_attached (attached : core.state.attached = true) : core.Clean :=
  fun closed => absurd attached (by simp [closed])

/-- A core stays clean if a step changes nothing of a blank one that matters. -/
theorem Clean.of_same (clean : core.Clean) (state : core'.state = core.state)
    (ledger : core'.ledger = core.ledger) (waiter : core'.waiter = core.waiter) :
    core'.Clean := by
  intro closed
  rw [state] at closed
  have blank := clean closed
  refine ⟨state.trans blank.state, ?_, ?_⟩
  · rw [ledger]
    exact blank.entries
  · rw [waiter]
    exact blank.lost

/-- Losing the link leaves nothing. -/
theorem detached_blank (core : Core) : core.detached.Blank where
  state := rfl
  entries := rfl
  lost waiter waiting := by
    obtain ⟨waiter', _, rfl⟩ := Option.map_eq_some_iff.1 waiting
    rfl

/-- Waking an operation says nothing of the link. -/
theorem answer_state (core : Core) (generation : Nat) (event : Event) :
    (core.answer generation event).state = core.state := by
  unfold answer
  split
  · split <;> rfl
  · rfl

/-- Handing a late answer over says nothing of the link. -/
theorem handOver_state (core : Core) (now : Nat) (event : Event) :
    (core.handOver now event).state = core.state := by
  unfold handOver
  split
  · split
    · rfl
    · split <;> rfl
  · rfl

/-- An event is folded into the state over a link that is attached, and only then. -/
theorem hear_state (core : Core) (now : Nat) (event : Event) :
    (core.hear now event).state =
      if core.state.attached then core.state.apply core.band event else core.state := by
  unfold hear
  split
  · dsimp only
    split
    · exact answer_state _ _ _
    · exact handOver_state _ _ _
    · rfl
  · rfl

/-- An event neither attaches the link nor releases it. -/
theorem hear_attached (core : Core) (now : Nat) (event : Event) :
    (core.hear now event).state.attached = core.state.attached := by
  rw [hear_state]
  split
  · exact core.state.apply_attached core.band event
  · rfl

/-- Without a link, no event is heard. -/
theorem Clean.hear (clean : core.Clean) (now : Nat) (event : Event) :
    (core.hear now event).Clean := by
  cases attached : core.state.attached with
  | true => exact .of_attached ((core.hear_attached now event).trans attached)
  | false =>
    have unheard : core.hear now event = core := by simp [Core.hear, attached]
    rw [unheard]
    exact clean

/-- Whatever a listener is told, the core stays clean. -/
theorem Clean.notify (clean : core.Clean) (epoch now : Nat) (notification : Notification) :
    (core.notify epoch now notification).Clean := by
  unfold Core.notify
  split
  next current =>
    cases notification with
    | attached => exact .of_attached rfl
    | detached => exact fun _ => core.detached_blank
    | event event => exact clean.hear now event
  next => exact clean

/-- Reporting an update leaves a clean core clean. -/
theorem Clean.drain (clean : core.Clean) : core.drain.2.Clean := by
  intro closed
  have blank := clean (core.state.takeUpdate_attached.symm.trans closed)
  refine ⟨?_, blank.entries, blank.lost⟩
  change core.state.takeUpdate.2 = {}
  rw [blank.state, RadioState.takeUpdate_initial]

/-- The slot is claimed with a link only. -/
theorem Clean.claim {now timeout : Nat} (claimed : core.claim now timeout = .ok core') :
    core'.Clean := by
  obtain ⟨_, attached, rfl⟩ := claim_eq_ok claimed
  exact .of_attached attached

/-- A command is installed with a link only. -/
theorem Clean.install {command : Command} {expected : Option Frequency} {generation : Nat}
    (installed : core.install command expected = .ok (generation, core')) : core'.Clean := by
  obtain ⟨checked, _, _, rfl⟩ := install_eq_ok installed
  have attached := attached_of_check checked
  cases command.awaited? <;> exact .of_attached attached

/-- A command that is taken back leaves no trace. -/
theorem Clean.refuse (clean : core.Clean) (generation : Nat) : (core.refuse generation).Clean := by
  intro closed
  have blank := clean closed
  refine ⟨blank.state, ?_, fun _ waiting => nomatch waiting⟩
  change core.ledger.entries.filter _ = []
  rw [blank.entries]
  rfl

/-- An operation that ends late, after its link was lost, finds no entry to retire. -/
theorem Clean.settle (clean : core.Clean) (generation : Nat) (expected : Option Frequency)
    (now timeout : Nat) : (core.settle generation expected now timeout).2.Clean := by
  unfold Core.settle
  split
  next => exact clean
  next waiter waiting =>
    dsimp only
    have ended : Clean { core with waiter := none } := by
      intro closed
      have blank := clean closed
      exact ⟨blank.state, blank.entries, fun _ waits => nomatch waits⟩
    split
    · exact ended
    · exact ended
    next unanswered =>
      -- An operation without a reply has a link.
      have attached : core.state.attached = true := by
        cases attached : core.state.attached with
        | true => rfl
        | false =>
          have replied := (clean attached).lost waiter waiting
          rw [unanswered] at replied
          contradiction
      split <;> exact .of_attached attached

end Core

namespace System

variable {terms : Terms} {system system' : System Unit}

/-- A core that is clean stays so with every step. -/
theorem Step.clean (taken : Step terms system system') (clean : system.core.Clean) :
    system'.core.Clean := by
  cases taken with
  | aside taken =>
    cases taken with
    | pass | detach | submit | reach | stop => exact clean
    | attach | setBand => exact clean.of_same rfl rfl rfl
    | drain => exact clean.drain
    | forget => exact fun _ => system.core.detached_blank
    | hear listener notification =>
      unfold deliver become
      dsimp only
      split
      · exact clean.notify _ _ _
      · exact clean
  | claim core claimed => exact .claim claimed
  | release busy idle => exact clean.of_same rfl rfl idle.symm
  | sweep | seek => exact clean
  | install command expected generation core busy installed => exact .install installed
  | refuse code generation busy own => exact clean.refuse generation
  | settle waiter expected busy waiting => exact clean.settle _ _ _ _

/-- Losing the link keeps the band and the operation slot. -/
def Survives (transition : Moment × Core) : Prop :=
  transition.1.occurrence.losesLink = true →
    transition.2.band = transition.1.core.band ∧ transition.2.busy = transition.1.core.busy

/-- Whichever listener is told that the link went away, the band and the slot stay. -/
theorem survives_deliver (system : System Unit) (listener : Nat) :
    (system.deliver listener .detached).core.band = system.core.band ∧
      (system.deliver listener .detached).core.busy = system.core.busy := by
  unfold deliver become Core.notify
  dsimp only
  split
  · split <;> exact ⟨rfl, rfl⟩
  · exact ⟨rfl, rfl⟩

/-- The band and the operation slot survive every step in which the link is lost. -/
theorem Step.survives (taken : Step terms system system') {transition : Moment × Core}
    (present : transition ∈ system'.transitions) :
    transition ∈ system.transitions ∨ Survives transition := by
  cases taken with
  | aside taken =>
    cases taken with
    | detach | forget =>
      rcases List.mem_cons.1 present with rfl | earlier
      · exact .inr fun _ => ⟨rfl, rfl⟩
      · exact .inl earlier
    | hear listener notification =>
      rcases List.mem_cons.1 present with rfl | earlier
      · cases notification with
        | detached => exact .inr fun _ => survives_deliver system listener
        | attached | event => exact .inr nofun
      · exact .inl earlier
    | pass | submit | reach | stop | attach | drain | setBand =>
      rcases List.mem_cons.1 present with rfl | earlier
      · exact .inr nofun
      · exact .inl earlier
  | install command expected generation core busy installed =>
    rcases List.mem_cons.1 present with rfl | present
    · exact .inr nofun
    · rcases List.mem_cons.1 present with rfl | earlier
      · exact .inr nofun
      · exact .inl earlier
  | claim | release | sweep | seek | refuse | settle =>
    rcases List.mem_cons.1 present with rfl | earlier
    · exact .inr nofun
    · exact .inl earlier

/-- In a run that is made of steps every core is clean, and the band and the slot survive every loss
of the link. -/
theorem Steps.clean {band : Band} (taken : Steps terms (.fresh band) system) :
    (∀ core ∈ system.cores, core.Clean) ∧
      ∀ transition ∈ system.transitions, Survives transition := by
  induction taken with
  | refl =>
    refine ⟨fun core present => ?_, fun _ absent => absurd absent List.not_mem_nil⟩
    obtain rfl := List.mem_singleton.1 present
    exact fun _ => ⟨rfl, rfl, fun _ waiting => nomatch waiting⟩
  | tail _ last before =>
    obtain ⟨clean, survives⟩ := before
    refine ⟨fun core present => ?_, fun transition present => ?_⟩
    · rcases last.cores present with earlier | rfl
      · exact clean core earlier
      · exact last.clean (clean _ List.mem_cons_self)
    · rcases last.survives present with earlier | kept
      · exact survives transition earlier
      · exact kept

end System

/-- Throughout every run, while no link is attached the state is the initial one, the ledger is
empty, and an operation that waits was told that the link is lost. So a radio that is on, a tuned
frequency, a text of the radio data or an entry of the ledger means that a link is attached. Losing
the link, asked for or not, leaves the band and the operation slot as they were. -/
theorem Reached.blank_without_link {σ : Type} {terms : Terms} {system : System σ}
    (reached : Reached terms system) :
    (∀ core ∈ system.cores,
      (core.state.attached = false → core.Blank) ∧
      (core.state.radioOn = true ∨ core.state.tuned ≠ none ∨ core.state.programService ≠ none ∨
          core.state.radioText ≠ none ∨ core.state.programTypeName ≠ none ∨
          core.ledger.entries ≠ [] →
        core.state.attached = true)) ∧
    ∀ transition ∈ system.transitions, transition.1.occurrence.losesLink = true →
      transition.2.band = transition.1.core.band ∧
        transition.2.busy = transition.1.core.busy := by
  obtain ⟨band, taken⟩ := reached.steps
  obtain ⟨clean, survives⟩ := System.Steps.clean taken
  refine ⟨fun core present => ⟨clean core present, fun known => ?_⟩, survives⟩
  cases attached : core.state.attached with
  | true => rfl
  | false =>
    have blank := clean core present attached
    simp [blank.state, blank.entries] at known

/-- What is left when a radio with default settings was attached, powered up and closed again. -/
def Radio.closedAgain : System Unit :=
  let frequency : Frequency := ⟨9870⟩
  let radio := Radio.ofPeer {} (.insistent (.plainStatus frequency true false)) 0
  radio.played (attachAndPowerUp frequency (.call .close fun _ => .finish .ok))
    { core := { band := Settings.band {} }, peer := () }

/-- A radio that was closed again knows nothing, and it was on before. -/
theorem Reached.blank_without_link_closedAgain :
    Radio.closedAgain.core.Blank ∧ Radio.closedAgain.cores.any (·.state.radioOn) = true := by
  have reached : Reached (Radio.terms {}) Radio.closedAgain := .radio rfl _ _ _
  have blank := (Reached.blank_without_link reached).1 _ List.mem_cons_self
  exact ⟨blank.1 (by decide +kernel), by decide +kernel⟩

end Tuner
