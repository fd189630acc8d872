import Tuner.Proofs.Texts

/-!
# Updates of the radio texts and their drains

An update of a radio text is to be reported once, by the next drain that gets to it. Whether it is
still to be reported depends on what happened since the text was told: the update is settled by the
drain that reports it, by the decoder being turned off and by the state being cleared, and by
nothing else. So the two flags of the state are what its whole past says they are, however events,
drains and clears are mixed.

What one change does to a flag is one lemma, `RadioState.changed_has`; what a past says of it
follows the same recursion, `RadioState.due_cons`. Drains that follow each other use up what there
is to report, and nothing but an event adds to it.

Main statement: `RadioState.drains_after`.
-/
namespace Tuner

/-- An update that a drain may report. -/
inductive TextUpdate where
  /-- The update of the name of the program service. -/
  | programService
  /-- The update of the radio text. -/
  | radioText
deriving DecidableEq, Repr

namespace TextUpdate

/-- The field of the radio data that brings it. -/
def field : TextUpdate → RdsField
  | programService => .programService
  | radioText => .radioText

/-- What a drain reports for it. -/
def code : TextUpdate → UInt16
  | programService => programServiceUpdate
  | radioText => radioTextUpdate

/-- Zero stands for no update. -/
theorem code_ne_zero (update : TextUpdate) : update.code ≠ 0 := by
  cases update <;> decide

end TextUpdate

namespace RdsUpdates

/-- Whether an update is to be reported. -/
def has (updates : RdsUpdates) : TextUpdate → Bool
  | .programService => updates.programService
  | .radioText => updates.radioText

/-- How many updates are to be reported. -/
def count (updates : RdsUpdates) : Nat := updates.programService.toNat + updates.radioText.toNat

/-- At most two updates are to be reported. -/
theorem count_le_two (updates : RdsUpdates) : updates.count ≤ 2 :=
  Nat.add_le_add (Bool.toNat_le _) (Bool.toNat_le _)

/-- An update that is to be reported still is after the next report, unless it was that one. -/
theorem takeNext_has (updates : RdsUpdates) (update : TextUpdate) :
    updates.takeNext.2.has update = true ↔
      updates.has update = true ∧ updates.takeNext.1 ≠ update.code := by
  obtain ⟨service, text⟩ := updates
  revert service text
  cases update <;> decide

/-- There is nothing to report if there is no update. -/
theorem isEmpty_iff (updates : RdsUpdates) :
    updates.isEmpty = true ↔ ∀ update, updates.has update = false := by
  rw [isEmpty, Bool.and_eq_true_iff, Bool.not_eq_true', Bool.not_eq_true']
  constructor
  · rintro ⟨service, text⟩ update
    cases update
    · exact service
    · exact text
  · intro none
    exact ⟨none .programService, none .radioText⟩

/-- The name of the program service is reported whenever it is to be. -/
theorem takeNext_eq_service (updates : RdsUpdates) :
    updates.takeNext.1 = TextUpdate.programService.code ↔ updates.has .programService = true := by
  obtain ⟨service, text⟩ := updates
  revert service text
  decide

/-- The radio text is reported when it alone is to be. -/
theorem takeNext_eq_text (updates : RdsUpdates) :
    updates.takeNext.1 = TextUpdate.radioText.code ↔
      updates.has .radioText = true ∧ updates.has .programService = false := by
  obtain ⟨service, text⟩ := updates
  revert service text
  decide

/-- Zero is reported when nothing is to be. -/
theorem takeNext_eq_zero (updates : RdsUpdates) :
    updates.takeNext.1 = 0 ↔ updates.isEmpty = true := by
  obtain ⟨service, text⟩ := updates
  revert service text
  decide

/-- A report that is not zero uses up one of the updates. -/
theorem takeNext_count (updates : RdsUpdates) :
    updates.takeNext.2.count + (if updates.takeNext.1 ≠ 0 then 1 else 0) = updates.count := by
  obtain ⟨service, text⟩ := updates
  revert service text
  decide

end RdsUpdates

namespace RadioState

/-- What may happen to a state. -/
inductive Change where
  /-- An event arrives, with the band in force then. -/
  | heard (band : Band) (event : Event)
  /-- An update is reported. -/
  | drained
  /-- All that is known is forgotten. -/
  | cleared
deriving DecidableEq, Repr

/-- The state after a change. -/
def changed (state : RadioState) : Change → RadioState
  | .heard band event => state.apply band event
  | .drained => state.takeUpdate.2
  | .cleared => {}

/-- The state after changes to the initial one, the latest first. -/
def after (changes : List Change) : RadioState :=
  changes.foldr (fun change state => state.changed change) {}

/-- The reports of the drains among changes, given those before them; the latest first. -/
def reports : List Change → List Change → List UInt16
  | [], _ => []
  | .drained :: newer, older => (after (newer ++ older)).takeUpdate.1 :: reports newer older
  | _ :: newer, older => reports newer older

/-- Radio data tells of an update while the decoder runs. -/
def Change.Tells (update : TextUpdate) (state : RadioState) : Change → Prop
  | .heard _ (.rdsData field _ _) => field = update.field ∧ state.rdsMode.isOn = true
  | _ => False

/-- An update need not be reported any more: it is just being reported, the decoder is turned off,
or all is forgotten. -/
def Change.Settles (update : TextUpdate) (state : RadioState) : Change → Prop
  | .heard _ (.rdsMode mode _) => mode.isOn = false
  | .heard _ _ => False
  | .drained => state.takeUpdate.1 = update.code
  | .cleared => True

/-- The radio data told of an update at some time, and nothing settled it since. -/
def Due (update : TextUpdate) (changes : List Change) : Prop :=
  ∃ newer told older, changes = newer ++ told :: older ∧ told.Tells update (after older) ∧
    ∀ later settling earlier, newer = later ++ settling :: earlier →
      ¬settling.Settles update (after (earlier ++ told :: older))

/-- The texts that are known of a station, and the type of its program. -/
def texts (state : RadioState) : Option String × Option String × Option UInt8 × Option String :=
  (state.programService, state.radioText, state.programType, state.programTypeName)

/-! ## One change -/

section Change

variable (state : RadioState)

/-- The texts of a status report bring no updates. -/
theorem applyStatusTexts_updates (report : StatusReport) :
    (state.applyStatusTexts report).updates = state.updates := by
  unfold applyStatusTexts
  split <;> rfl

/-- A tuned frequency brings no updates. -/
theorem setTuned_updates (frequency : Frequency) (band : Band) :
    (state.setTuned frequency band).updates = state.updates := by
  unfold setTuned
  split <;> rfl

/-- While the decoder runs, radio data brings the update of its field. -/
theorem applyRdsData_has (field : RdsField) (text : String) (update : TextUpdate) :
    (state.applyRdsData field text).updates.has update = true ↔
      field = update.field ∧ state.rdsMode.isOn = true ∨ state.updates.has update = true := by
  unfold applyRdsData
  cases state.rdsMode.isOn with
  | false => simp
  | true =>
    cases field with
    | programType =>
      cases update <;> cases Text.byte? text <;> simp [TextUpdate.field]
    | programService | radioText | programTypeName | other =>
      cases update <;> simp [TextUpdate.field, RdsUpdates.has]

/-- Nothing is reported while the decoder is off. -/
theorem takeUpdate_of_off (off : state.rdsMode.isOn = false) : state.takeUpdate = (0, state) := by
  rw [takeUpdate, off, if_neg Bool.false_ne_true]

/-- The next update is reported while the decoder runs. -/
theorem takeUpdate_of_on (on : state.rdsMode.isOn = true) :
    state.takeUpdate =
      (state.updates.takeNext.1, { state with updates := state.updates.takeNext.2 }) := by
  rw [takeUpdate, if_pos on]

/-- A drain settles the update that it reports, and no other. -/
theorem takeUpdate_has (update : TextUpdate) :
    state.takeUpdate.2.updates.has update = true ↔
      state.updates.has update = true ∧ state.takeUpdate.1 ≠ update.code := by
  cases mode : state.rdsMode.isOn with
  | false =>
    rw [state.takeUpdate_of_off mode]
    exact (and_iff_left update.code_ne_zero.symm).symm
  | true =>
    rw [state.takeUpdate_of_on mode]
    exact state.updates.takeNext_has update

/-- A report that is not zero uses up one update. -/
theorem takeUpdate_count :
    state.takeUpdate.2.updates.count + (if state.takeUpdate.1 ≠ 0 then 1 else 0) =
      state.updates.count := by
  cases mode : state.rdsMode.isOn with
  | false =>
    rw [state.takeUpdate_of_off mode]
    rfl
  | true =>
    rw [state.takeUpdate_of_on mode]
    exact state.updates.takeNext_count

/-- An update is to be reported after a change that tells of it, or if it was before and the change
does not settle it. -/
theorem changed_has (change : Change) (update : TextUpdate) :
    (state.changed change).updates.has update = true ↔
      change.Tells update state ∨
        state.updates.has update = true ∧ ¬change.Settles update state := by
  cases change with
  | heard band event =>
    cases event with
    | status report =>
      have kept : (state.apply band (.status report)).updates = state.updates :=
        (applyStatusTexts_updates _ report).trans (state.setTuned_updates report.frequency band)
      simp [changed, kept, Change.Tells, Change.Settles]
    | seekComplete report =>
      have kept : (state.apply band (.seekComplete report)).updates = state.updates := by
        rw [apply]
        split
        · exact state.setTuned_updates report.frequency band
        · rfl
      simp [changed, kept, Change.Tells, Change.Settles]
    | rdsMode mode afEnabled =>
      cases running : mode.isOn <;> cases update <;>
        simp [changed, apply, Change.Tells, Change.Settles, RdsUpdates.has, running]
    | rdsData field index text =>
      simpa [changed, apply, Change.Tells, Change.Settles] using
        state.applyRdsData_has field text update
    | audioMode | audioPath | noiseFloor | liveQuality | worldRegion | volume =>
      simp [changed, apply, Change.Tells, Change.Settles]
  | drained => simpa [changed, Change.Tells, Change.Settles] using state.takeUpdate_has update
  | cleared => cases update <;> simp [changed, RdsUpdates.has, Change.Tells, Change.Settles]

/-- What is to be reported was told while the decoder ran, and it is running still. -/
theorem changed_isOn {change : Change} {update : TextUpdate}
    (running : ∀ update, state.updates.has update = true → state.rdsMode.isOn = true)
    (pending : (state.changed change).updates.has update = true) :
    (state.changed change).rdsMode.isOn = true := by
  rcases (state.changed_has change update).1 pending with told | ⟨before, unsettled⟩
  · cases change with
    | heard band event =>
      cases event with
      | rdsData =>
        rw [changed, apply_rdsMode]
        exact told.2
      | _ => exact told.elim
    | drained | cleared => exact told.elim
  · have on := running update before
    cases change with
    | heard band event =>
      rw [changed, apply_rdsMode]
      cases event with
      | rdsMode mode afEnabled => exact Bool.of_not_eq_false unsettled
      | _ => exact on
    | drained =>
      rw [changed, state.takeUpdate_of_on on]
      exact on
    | cleared => exact absurd trivial unsettled

/-- While the decoder is off, an event leaves all texts as they are. -/
theorem apply_texts (off : state.rdsMode.isOn = false) (band : Band) (event : Event) :
    (state.apply band event).texts = state.texts := by
  have tuned : ∀ frequency,
      (state.setTuned frequency band).texts = state.texts ∧
        (state.setTuned frequency band).rdsMode = state.rdsMode := by
    intro frequency
    unfold setTuned
    split <;> exact ⟨rfl, rfl⟩
  cases event with
  | status report =>
    obtain ⟨same, mode⟩ := tuned report.frequency
    rw [apply, applyStatusTexts, mode, off, if_neg Bool.false_ne_true]
    exact same
  | seekComplete report =>
    rw [apply]
    split
    · exact (tuned report.frequency).1
    · rfl
  | rdsData field index text =>
    change (state.applyRdsData field text).texts = state.texts
    unfold applyRdsData
    rw [off, Bool.not_false, if_pos rfl]
  | rdsMode | audioMode | audioPath | noiseFloor | liveQuality | worldRegion | volume => rfl

end Change

/-! ## A whole past -/

/-- An update is due after a change that tells of it, or if it was due before and the change does
not settle it. -/
theorem due_cons (change : Change) (changes : List Change) (update : TextUpdate) :
    Due update (change :: changes) ↔
      change.Tells update (after changes) ∨
        Due update changes ∧ ¬change.Settles update (after changes) := by
  constructor
  · rintro ⟨newer, told, older, split, tells, unsettled⟩
    cases newer with
    | nil =>
      obtain ⟨rfl, rfl⟩ := List.cons.inj split
      exact .inl tells
    | cons last newer =>
      obtain ⟨rfl, rfl⟩ := List.cons.inj split
      refine .inr ⟨⟨newer, told, older, rfl, tells, ?_⟩, unsettled [] change newer rfl⟩
      intro later settling earlier found
      exact unsettled (change :: later) settling earlier (congrArg (change :: ·) found)
  · rintro (tells | ⟨⟨newer, told, older, rfl, tells, unsettled⟩, last⟩)
    · refine ⟨[], change, changes, rfl, tells, ?_⟩
      intro later settling earlier found
      simp at found
    · refine ⟨change :: newer, told, older, rfl, tells, ?_⟩
      intro later settling earlier found
      cases later with
      | nil =>
        obtain ⟨rfl, rfl⟩ := List.cons.inj found
        exact last
      | cons first later =>
        obtain ⟨rfl, rest⟩ := List.cons.inj found
        exact unsettled later settling earlier rest

/-- The flags say which updates are due after a history of changes. -/
theorem after_has (changes : List Change) (update : TextUpdate) :
    (after changes).updates.has update = true ↔ Due update changes := by
  induction changes with
  | nil =>
    have blank : (after []).updates.has update = false := by cases update <;> rfl
    rw [blank]
    refine ⟨nofun, ?_⟩
    rintro ⟨newer, told, older, split, _⟩
    simp at split
  | cons change changes ih =>
    change ((after changes).changed change).updates.has update = true ↔ _
    rw [changed_has, due_cons, ih]

/-- What is due was told while the decoder ran, and it is running still. -/
theorem after_isOn (changes : List Change) (update : TextUpdate)
    (pending : (after changes).updates.has update = true) :
    (after changes).rdsMode.isOn = true := by
  induction changes generalizing update with
  | nil => cases update <;> cases pending
  | cons change changes ih => exact (after changes).changed_isOn ih pending

/-- Drains that are not zero use up what there is to report, if no event is heard in between. -/
theorem reports_count (older : List Change) {quiet : List Change}
    (silent : ∀ band event, .heard band event ∉ quiet) :
    (after (quiet ++ older)).updates.count + (reports quiet older).countP (· ≠ 0) ≤
      (after older).updates.count := by
  induction quiet with
  | nil => exact Nat.le_refl _
  | cons change quiet ih =>
    have fewer := ih fun band event heard => silent band event (List.mem_cons_of_mem _ heard)
    cases change with
    | heard band event => exact absurd List.mem_cons_self (silent band event)
    | drained =>
      have used := (after (quiet ++ older)).takeUpdate_count
      rw [reports, List.countP_cons]
      simp only [decide_eq_true_eq]
      change (after (quiet ++ older)).takeUpdate.2.updates.count + _ ≤ _
      omega
    | cleared =>
      change 0 + (reports quiet older).countP (· ≠ 0) ≤ _
      omega

/-! ## What drains report -/

/-- If there are updates only while the decoder runs, a drain reports the next of them. -/
theorem takeUpdate_report {state : RadioState}
    (running : ∀ update, state.updates.has update = true → state.rdsMode.isOn = true) :
    state.takeUpdate.1 = state.updates.takeNext.1 := by
  cases mode : state.rdsMode.isOn with
  | false =>
    have none : state.updates.isEmpty = true := state.updates.isEmpty_iff.2 fun update =>
      Bool.eq_false_iff.2 fun pending => absurd (mode.symm.trans (running update pending)) nofun
    rw [state.takeUpdate_of_off mode, state.updates.takeNext_eq_zero.2 none]
  | true => rw [state.takeUpdate_of_on mode]

/-- How updates and drains go together after any changes. -/
structure Drains (changes : List Change) : Prop where
  /-- An update is to be reported if the radio data told of it while the decoder ran, and no drain
  that reported it, no decoder that was turned off and no clear came after that. -/
  due : ∀ update, (after changes).updates.has update = true ↔ Due update changes
  /-- A drain reports the name of the program service if that is to be reported. -/
  service : (after changes).takeUpdate.1 = TextUpdate.programService.code ↔
    (after changes).updates.has .programService = true
  /-- A drain reports the radio text if only that is to be reported. -/
  text : (after changes).takeUpdate.1 = TextUpdate.radioText.code ↔
    (after changes).updates.has .radioText = true ∧
      (after changes).updates.has .programService = false
  /-- A drain reports zero if nothing is to be reported. -/
  nothing : (after changes).takeUpdate.1 = 0 ↔ (after changes).updates.isEmpty = true
  /-- With no event in between, at most two drains report something. -/
  twice : ∀ quiet, (∀ band event, .heard band event ∉ quiet) →
    (reports quiet changes).countP (· ≠ 0) ≤ 2
  /-- Something is to be reported only while the decoder runs. -/
  running : (after changes).updates.isEmpty = false → (after changes).rdsMode.isOn = true
  /-- While it is off, no event changes the texts. -/
  ignored : (after changes).rdsMode.isOn = false → ∀ band event,
    ((after changes).apply band event).texts = (after changes).texts

/-- Whatever events, drains and clears there were, the updates that are to be reported are those
that the past says are due, and drains report them one after the other. -/
theorem drains_after (changes : List Change) : Drains changes := by
  have report := takeUpdate_report (after_isOn changes)
  exact
    { due := after_has changes
      service := report ▸ RdsUpdates.takeNext_eq_service _
      text := report ▸ RdsUpdates.takeNext_eq_text _
      nothing := report ▸ RdsUpdates.takeNext_eq_zero _
      twice := by
        intro quiet silent
        have used := reports_count changes silent
        have few := (after changes).updates.count_le_two
        omega
      running := by
        intro pending
        by_contra off
        have none : (after changes).updates.isEmpty = true :=
          (RdsUpdates.isEmpty_iff _).2 fun update =>
            Bool.eq_false_iff.2 fun due => off (after_isOn changes update due)
        exact absurd (none.symm.trans pending) nofun
      ignored := fun off band event => (after changes).apply_texts off band event }

/-- A name and a text are told, the decoder is turned off and on again, and another text is told. -/
def resumed : List Change :=
  [.heard default (.rdsData .radioText 0 "b"), .heard default (.rdsMode .rds false),
    .heard default (.rdsMode .off false), .heard default (.rdsData .radioText 0 "a"),
    .heard default (.rdsData .programService 0 "s"), .heard default (.rdsMode .rds false)]

/-- The name was settled with the decoder, and the second text is due: the next drain reports it,
and the one after that zero. -/
theorem drains_after_resumed :
    Drains resumed ∧ ¬Due .programService resumed ∧ Due .radioText resumed ∧
      reports [.drained, .drained] resumed = [0, 0x0040] := by
  have drains := drains_after resumed
  have service : (after resumed).updates.has .programService = false := by decide +kernel
  have text : (after resumed).updates.has .radioText = true := by decide +kernel
  refine ⟨drains, fun due => ?_, (drains.due _).1 text, by decide +kernel⟩
  exact absurd (service.symm.trans ((drains.due _).2 due)) Bool.false_ne_true

end RadioState

end Tuner
