import Mathlib.Data.List.Infix
import Tuner.Proofs.Concord
import Tuner.Proofs.Hygiene
import Tuner.Proofs.Lawful

/-!
# The tuned frequency and the band

A reported frequency is taken over only if it lies in the band at that time, and nothing brings
another frequency in. The band is replaced without a second look at the frequency that is tuned, so
one that no longer lies in the band is left over from the band before, and stays until the next
report. That is the only way for a tuned frequency to lie outside: it does not happen to a radio
whose settings fix a band, and to any other only when its region changes.

The history tells which of the two it is, so the invariant speaks of every core of a run together
with the history before it.
-/
namespace Tuner

/-! ## What an event does to the tuned frequency -/

namespace RadioState

variable (state : RadioState)

/-- A frequency that is tuned after a report was tuned before, or lies in the band. -/
theorem setTuned_within {frequency reported : Frequency} {band : Band}
    (tuned : (state.setTuned reported band).tuned = some frequency) :
    state.tuned = some frequency ∨ band.contains frequency = true := by
  unfold setTuned at tuned
  split at tuned
  next inside =>
    obtain rfl := Option.some.inj tuned
    exact .inr inside
  next => exact .inl tuned

/-- The texts of a status report say nothing of the tuned frequency. -/
theorem applyStatusTexts_tuned (report : StatusReport) :
    (state.applyStatusTexts report).tuned = state.tuned := by
  unfold applyStatusTexts
  split <;> rfl

/-- Radio data says nothing of the tuned frequency. -/
theorem applyRdsData_tuned (field : RdsField) (text : String) :
    (state.applyRdsData field text).tuned = state.tuned := by
  unfold applyRdsData
  split
  · rfl
  · split
    case h_4 => split <;> rfl
    all_goals rfl

/-- After any event, the tuned frequency is an old one or lies in the band. -/
theorem apply_within {band : Band} {event : Event} {frequency : Frequency}
    (tuned : (state.apply band event).tuned = some frequency) :
    state.tuned = some frequency ∨ band.contains frequency = true := by
  cases event with
  | status report =>
    rw [apply, applyStatusTexts_tuned] at tuned
    exact state.setTuned_within tuned
  | seekComplete report =>
    rw [apply] at tuned
    split at tuned
    · exact state.setTuned_within tuned
    · exact .inl tuned
  | rdsData field index text =>
    rw [apply, applyRdsData_tuned] at tuned
    exact .inl tuned
  | rdsMode | audioMode | audioPath | noiseFloor | liveQuality | worldRegion | volume =>
    exact .inl tuned

/-- Reporting an update of the radio texts says nothing of the tuned frequency. -/
theorem takeUpdate_tuned : state.takeUpdate.2.tuned = state.tuned := by
  unfold takeUpdate
  split <;> rfl

end RadioState

/-! ## What a step does to it -/

namespace Core

/-- The band stays, and a frequency that is tuned afterwards was tuned before or lies in the band.
-/
structure TunedWithin (core core' : Core) : Prop where
  /-- The band stays. -/
  band : core'.band = core.band
  /-- A tuned frequency is an old one or lies in the band. -/
  tuned : ∀ frequency, core'.state.tuned = some frequency →
    core.state.tuned = some frequency ∨ core.band.contains frequency = true

variable {core core' : Core}

/-- Where band and state stay as they are, the tuned frequency is an old one. -/
theorem TunedWithin.of_same (band : core'.band = core.band) (state : core'.state = core.state) :
    core.TunedWithin core' :=
  ⟨band, fun _ tuned => .inl (state ▸ tuned)⟩

/-- When the link is lost, nothing is tuned any more. -/
theorem detached_tunedWithin (core : Core) : core.TunedWithin core.detached :=
  ⟨rfl, fun _ => nofun⟩

/-- An event that a core hears leaves an old tuned frequency or one that lies in the band. -/
theorem hear_tunedWithin (core : Core) (now : Nat) (event : Event) :
    core.TunedWithin (core.hear now event) := by
  refine ⟨core.hear_band now event, fun frequency tuned => ?_⟩
  rw [hear_state] at tuned
  split at tuned
  · exact core.state.apply_within tuned
  · exact .inl tuned

/-- A notification leaves an old tuned frequency or one that lies in the band. -/
theorem notify_tunedWithin (core : Core) (epoch now : Nat) (notification : Notification) :
    core.TunedWithin (core.notify epoch now notification) := by
  unfold notify
  split
  · cases notification with
    | attached => exact ⟨rfl, fun _ tuned => .inl tuned⟩
    | detached => exact detached_tunedWithin core
    | event event => exact hear_tunedWithin core now event
  · exact .of_same rfl rfl

/-- Ending an operation leaves the band and the state. -/
theorem settle_tunedWithin (core : Core) (generation : Nat) (expected : Option Frequency)
    (now timeout : Nat) :
    core.TunedWithin (core.settle generation expected now timeout).2 := by
  unfold settle
  split
  · exact .of_same rfl rfl
  · dsimp only
    split
    · exact .of_same rfl rfl
    · exact .of_same rfl rfl
    · split <;> exact .of_same rfl rfl

end Core

namespace System

variable {terms : Terms} {system system' : System Unit}

/-- A step replaces the band, or leaves it and the tuned frequency old or within it. -/
theorem Step.tunedWithin (taken : Step terms system system') :
    system.core.TunedWithin system'.core ∨
      ∃ band, system' = system.become (.settingBand band) { system.core with band := band } := by
  cases taken with
  | aside taken =>
    cases taken with
    | setBand band => exact .inr ⟨band, rfl⟩
    | hear listener notification =>
      refine .inl ?_
      unfold deliver become
      dsimp only
      split
      · exact Core.notify_tunedWithin _ _ _ _
      · exact .of_same rfl rfl
    | forget => exact .inl (Core.detached_tunedWithin _)
    | drain =>
      exact .inl ⟨rfl, fun frequency tuned => .inl (system.core.state.takeUpdate_tuned ▸ tuned)⟩
    | pass | attach | detach | submit | reach | stop => exact .inl (.of_same rfl rfl)
  | claim core claimed =>
    obtain ⟨_, _, rfl⟩ := Core.claim_eq_ok claimed
    exact .inl (.of_same rfl rfl)
  | install command expected generation core busy installed =>
    obtain ⟨_, _, _, rfl⟩ := Core.install_eq_ok installed
    refine .inl (.of_same ?_ ?_)
    · dsimp only [become, record]
      split <;> rfl
    · dsimp only [become, record]
      split <;> rfl
  | settle waiter expected busy waiting => exact .inl (Core.settle_tunedWithin _ _ _ _ _)
  | release | sweep | seek | refuse => exact .inl (.of_same rfl rfl)

end System

/-! ## Left over -/

/-- A tuned frequency is left over from a band that was replaced: it lay in that band and not in the
new one, and it has been the tuned frequency ever since. -/
def LeftOver (history : List Moment) (frequency : Frequency) : Prop :=
  ∃ newer replacing older band, history = newer ++ replacing :: older ∧
    replacing.occurrence = .settingBand band ∧
    replacing.core.band.contains frequency = true ∧ band.contains frequency = false ∧
    ∀ moment ∈ newer ++ [replacing], moment.core.state.tuned = some frequency

/-- What is left over stays so while it is tuned. -/
theorem LeftOver.later {history : List Moment} {frequency : Frequency}
    (left : LeftOver history frequency) {moment : Moment}
    (tuned : moment.core.state.tuned = some frequency) :
    LeftOver (moment :: history) frequency := by
  obtain ⟨newer, replacing, older, band, rfl, replaced, inside, outside, since⟩ := left
  exact ⟨moment :: newer, replacing, older, band, rfl, replaced, inside, outside,
    List.forall_mem_cons.2 ⟨tuned, since⟩⟩

namespace Core

/-- The tuned frequency lies in the band or is left over, given what happened before. -/
def TunedOrLeft (core : Core) (history : List Moment) : Prop :=
  ∀ frequency, core.state.tuned = some frequency →
    core.band.contains frequency = true ∨ LeftOver history frequency

variable {core core' : Core} {history : List Moment} {moment : Moment}

/-- After a step that leaves the band, the tuned frequency still lies in the band or is left over.
-/
theorem TunedOrLeft.within (before : core.TunedOrLeft history) (within : core.TunedWithin core')
    (same : moment.core = core) : core'.TunedOrLeft (moment :: history) := by
  intro frequency tuned
  rw [within.band]
  rcases within.tuned frequency tuned with old | inside
  · exact (before frequency old).imp_right fun left => left.later (same ▸ old)
  · exact .inl inside

/-- After the band was replaced, the tuned frequency lies in the new one or is left over. -/
theorem TunedOrLeft.replaced (before : core.TunedOrLeft history) {band : Band} (clock : Nat) :
    { core with band := band }.TunedOrLeft (⟨.settingBand band, core, clock⟩ :: history) := by
  intro frequency tuned
  rcases before frequency tuned with inside | left
  · by_cases still : band.contains frequency = true
    · exact .inl still
    · exact .inr ⟨[], _, history, band, rfl, rfl, inside, Bool.eq_false_iff.2 still,
        List.forall_mem_singleton.2 tuned⟩
  · exact .inr (left.later tuned)

/-- The tuned frequency lies in the band or is left over throughout a history, up to the present
core. -/
structure TunedThroughout (core : Core) (history : List Moment) : Prop where
  /-- At present it lies there, or is left over. -/
  present : core.TunedOrLeft history
  /-- At every point before, it lay there or was left over. -/
  past : ∀ moment earlier, moment :: earlier <:+ history → moment.core.TunedOrLeft earlier

/-- One more moment is one more core to look at. -/
theorem TunedThroughout.next (throughout : core.TunedThroughout history)
    (same : moment.core = core) (present : core'.TunedOrLeft (moment :: history)) :
    core'.TunedThroughout (moment :: history) where
  present := present
  past last earlier within := by
    rcases List.suffix_cons_iff.1 within with cut | within
    · obtain ⟨rfl, rfl⟩ := List.cons.inj cut
      exact same ▸ throughout.present
    · exact throughout.past last earlier within

end Core

namespace System

variable {terms : Terms} {system system' : System Unit}

/-- With every step, the tuned frequency lies in the band or is left over throughout. -/
theorem Step.tunedThroughout (taken : Step terms system system')
    (throughout : system.core.TunedThroughout system.history) :
    system'.core.TunedThroughout system'.history := by
  rcases taken.tunedWithin with within | ⟨band, rfl⟩
  · obtain ⟨moment, before, recorded | ⟨moment', after, recorded⟩⟩ := taken.recorded
    · rw [recorded]
      exact throughout.next before (throughout.present.within within before)
    · have once := throughout.next before (throughout.present.within within before)
      rw [recorded]
      exact once.next after (once.present.within (.of_same rfl rfl) after)
  · exact throughout.next rfl (throughout.present.replaced system.clock)

/-- In every run the tuned frequency lies in the band or is left over throughout. -/
theorem Steps.tunedThroughout {band : Band} (taken : Steps terms (.fresh band) system) :
    system.core.TunedThroughout system.history := by
  induction taken with
  | refl => exact ⟨fun _ => nofun, fun _ _ within => nomatch List.suffix_nil.1 within⟩
  | tail _ step before => exact step.tunedThroughout before

end System

/-! ## Channels -/

namespace Band

/-- The channel number of a frequency counts the steps from the lower bound, in 16 bits. -/
theorem channelOf_toNat {band : Band} {frequency : Frequency} (above : band.low ≤ frequency) :
    (band.channelOf frequency).toNat =
      (frequency.units.toNat - band.low.units.toNat) / band.step.toNat % UInt16.size := by
  have ordered : band.low.units ≤ frequency.units := above
  have offset : ((if frequency ≤ band.low then 0 else frequency.units - band.low.units) :
      UInt32).toNat = frequency.units.toNat - band.low.units.toNat := by
    split
    next below =>
      rw [Frequency.le_iff_toNat_le] at below
      rw [Nat.sub_eq_zero_of_le below]
      rfl
    next => exact UInt32.toNat_sub_of_le _ _ ordered
  rw [channelOf, UInt32.toNat_toUInt16, UInt32.toNat_div, offset]

/-- A frequency in the band has a channel number up to that of the upper bound, if these numbers fit
in 16 bits. -/
theorem channelOf_le_maxChannel {band : Band} {frequency : Frequency}
    (inside : band.contains frequency = true)
    (fits : (band.high.units.toNat - band.low.units.toNat) / band.step.toNat < UInt16.size) :
    band.channelOf frequency ≤ band.maxChannel := by
  obtain ⟨above, below⟩ := Bool.and_eq_true_iff.1 inside
  have above : band.low ≤ frequency := of_decide_eq_true above
  have below : frequency ≤ band.high := of_decide_eq_true below
  have wide : band.low ≤ band.high := UInt32.le_trans above below
  rw [Frequency.le_iff_toNat_le] at below
  have steps : (frequency.units.toNat - band.low.units.toNat) / band.step.toNat ≤
      (band.high.units.toNat - band.low.units.toNat) / band.step.toNat :=
    Nat.div_le_div_right (Nat.sub_le_sub_right below _)
  rw [UInt16.le_iff_toNat_le, maxChannel, channelOf_toNat above, channelOf_toNat wide,
    Nat.mod_eq_of_lt fits, Nat.mod_eq_of_lt (steps.trans_lt fits)]
  exact steps

end Band

namespace Radio

variable {σ : Type} {radio : Radio σ} {system : System σ}

/-- The answer to a call for alternate frequencies is a channel, or why there is none. -/
theorem replyTo_activateAf (radio : Radio σ) (system : System σ) :
    radio.replyTo .activateAf system = .channel (radio.activateAf.run.run system).1 := rfl

/-- The channel that is given for alternate frequencies is that of the tuned frequency. -/
theorem activateAf_channel {channel : UInt16}
    (given : radio.replyTo .activateAf system = .channel (.ok channel)) :
    ∃ frequency, (radio.after .activateAf system).core.state.tuned = some frequency ∧
      channel = (radio.after .activateAf system).core.band.channelOf frequency := by
  have done : radio.activateAf.run.run system = (.ok channel, radio.after .activateAf system) :=
    Prod.ext (Answer.channel.inj given) rfl
  exact (activateAf_ok done).2

/-- The tuned frequency lies in the band of a radio, or its settings fix none and the frequency is
left over, given what happened before. -/
def TunesInBand (settings : Settings) (core : Core) (history : List Moment) : Prop :=
  ∀ frequency, core.state.tuned = some frequency →
    core.band.contains frequency = true ∨ (settings.band? = none ∧ LeftOver history frequency)

/-- A frequency is left over only if the settings fix no band. -/
theorem tunesInBand {settings : Settings} {core : Core} {history : List Moment}
    (tuned : core.TunedOrLeft history)
    (rebanded : ∀ moment ∈ history, ∀ band, moment.occurrence = .settingBand band →
      FollowsRegion settings band) : TunesInBand settings core history := by
  intro frequency present
  rcases tuned frequency present with inside | left
  · exact .inl inside
  · obtain ⟨newer, replacing, older, band, same, replaced, _⟩ := id left
    have member : replacing ∈ history := by simp [same]
    exact .inr ⟨(rebanded replacing member band replaced).1, left⟩

end Radio

/-- The tuned frequency stays in the band, or is left over. In every run of a radio over any peer,
with calls nested to any depth, a frequency that was ever tuned lay in the band at that time, unless
the settings fix no band: then the band may have been replaced by that of another region in the
meantime, and the frequency was kept. So the channel that is given for alternate frequencies is one
of the band, if its numbers fit in 16 bits, or else that of a frequency that is left over. -/
theorem Radio.tuned_in_band_or_left_over {σ : Type} {settings : Settings} {own : σ}
    {start system : System σ} (started : Radio.start settings own = .ok start)
    (peer : Peer σ Call Answer) (depth : Nat) {script : Reaction σ Call Answer}
    (reached : (ofPeer settings peer depth).played script start = system) :
    TunesInBand settings system.core system.history ∧
    (∀ moment earlier, moment :: earlier <:+ system.history →
      TunesInBand settings moment.core earlier) ∧
    ∀ channel, (ofPeer settings peer depth).replyTo .activateAf system = .channel (.ok channel) →
      let after := (ofPeer settings peer depth).after .activateAf system
      ∃ frequency, after.core.state.tuned = some frequency ∧
        channel = after.core.band.channelOf frequency ∧
        ((after.core.band.high.units.toNat - after.core.band.low.units.toNat) /
            after.core.band.step.toNat < UInt16.size →
          channel ≤ after.core.band.maxChannel ∨
            (settings.band? = none ∧ LeftOver after.history frequency)) := by
  subst reached
  obtain ⟨rest, taken⟩ := play_steps started peer depth script
  have lawful := played_lawful started peer depth script
  have rebanded := lawful.rebanded
  have throughout := taken.tunedThroughout
  refine ⟨tunesInBand throughout.present rebanded, fun moment earlier within => ?_, ?_⟩
  · refine tunesInBand (throughout.past moment earlier within) fun before member => ?_
    have earlier : before ∈ moment :: earlier := List.mem_cons_of_mem _ member
    exact rebanded before (within.subset earlier)
  · intro channel given after
    obtain ⟨frequency, tuned, same⟩ := activateAf_channel given
    obtain ⟨_, taken'⟩ := (@answer_orderly σ (ofPeer settings peer depth)
      (ofPeer_link settings peer depth) .activateAf _).quiet rest
    have rebanded' : after.Rebanded (FollowsRegion settings) :=
      (@answer_lawful σ (ofPeer settings peer depth) (ofPeer_lawful settings peer depth) [] none
        .activateAf _ lawful).1.rebanded
    have throughout' : after.core.TunedThroughout after.history :=
      System.Steps.tunedThroughout (taken.trans taken')
    refine ⟨frequency, tuned, same, fun fits => ?_⟩
    rcases tunesInBand throughout'.present rebanded' frequency tuned with inside | left
    · rw [same]
      exact .inl (Band.channelOf_le_maxChannel inside fits)
    · exact .inr left

/-- A radio is opened and turned on, and then its region changes. -/
def Radio.changingRegion : List Turn :=
  [.call .attach, .call (.powerUp ⟨9870⟩), .call (.setRegion .jp)]

/-- What is left after that. -/
def Radio.regionChanged : System Receiver :=
  (ofPeer {} Receiver.peer 0).played (script changingRegion) switchedOn

/-- The tuned frequency is left over from before the region was changed. -/
theorem Radio.tuned_in_band_or_left_over_regionChanged :
    LeftOver Radio.regionChanged.history ⟨9870⟩ := by
  have tuned : Radio.regionChanged.core.state.tuned = some ⟨9870⟩ := by decide +kernel
  have outside : Radio.regionChanged.core.band.contains ⟨9870⟩ = false := by decide +kernel
  have reached : (ofPeer {} Receiver.peer 0).played (script changingRegion) switchedOn =
      regionChanged := rfl
  obtain ⟨tunes, _, _⟩ :=
    Radio.tuned_in_band_or_left_over start_switchedOn Receiver.peer 0 reached
  rcases tunes ⟨9870⟩ tuned with inside | ⟨_, left⟩
  · exact absurd (outside.symm.trans inside) Bool.false_ne_true
  · exact left

/-- With the radio on, what is tuned need not lie in the band, and the channel that is given for
alternate frequencies may be above its highest one. -/
theorem Radio.tuned_outside_band :
    Radio.regionChanged.core.state.radioOn = true ∧
      (∃ frequency, Radio.regionChanged.core.state.tuned = some frequency ∧
        Radio.regionChanged.core.band.contains frequency = false) ∧
      ∃ channel,
        (ofPeer {} Receiver.peer 0).replyTo .activateAf regionChanged = .channel (.ok channel) ∧
          Radio.regionChanged.core.band.maxChannel < channel := by
  have on : Radio.regionChanged.core.state.radioOn = true := by decide +kernel
  have tuned : Radio.regionChanged.core.state.tuned = some ⟨9870⟩ := by decide +kernel
  have band : Radio.regionChanged.core.band = Band.preset .jp := by decide +kernel
  have given : ((ofPeer {} Receiver.peer 0).activateAf.run.run regionChanged).1 = .ok 227 := by
    decide +kernel
  rw [band, replyTo_activateAf, given]
  exact ⟨on, ⟨⟨9870⟩, tuned, by decide⟩, 227, rfl, by decide⟩

end Tuner
