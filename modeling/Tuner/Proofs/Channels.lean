import Tuner.Proofs.Stopping
import Tuner.Proofs.Tuned

/-!
# Channel numbers of a sweep

A sweep gets further with every station, and numbers the stations afterwards. Numbers count whole
channels, so of two stations less than a channel apart both may get the same number. Whether the
numbers of a sweep increase strictly therefore depends on the frequencies that the receiver
reports: they do if the stations lie on the grid of the band, as all that can be tuned do, and
otherwise exactly if no two stations share a channel.

Numbers also have to fit in 16 bits, or else they start over. That is a condition on the band alone.
-/
namespace Tuner

namespace Band

/-- The whole channels from the lower bound up to a frequency. -/
def channelsTo (band : Band) (frequency : Frequency) : Nat :=
  (frequency.units.toNat - band.low.units.toNat) / band.step.toNat

/-- The numbers of all channels of a band fit in 16 bits. -/
def IsNumbered (band : Band) : Prop := band.channelsTo band.high < UInt16.size

instance (band : Band) : Decidable band.IsNumbered := inferInstanceAs (Decidable (_ < _))

variable {band : Band} {frequency other : Frequency}

/-- A frequency further up is not fewer channels away. -/
theorem channelsTo_mono (ordered : frequency ≤ other) :
    band.channelsTo frequency ≤ band.channelsTo other := by
  rw [Frequency.le_iff_toNat_le] at ordered
  exact Nat.div_le_div_right (Nat.sub_le_sub_right ordered _)

/-- In a band whose numbers fit, the number of a frequency is how many channels it is away. -/
theorem channelOf_eq_channelsTo (numbered : band.IsNumbered)
    (inside : band.contains frequency = true) :
    (band.channelOf frequency).toNat = band.channelsTo frequency := by
  obtain ⟨above, below⟩ := Bool.and_eq_true_iff.1 inside
  have few : band.channelsTo frequency < UInt16.size :=
    (channelsTo_mono (of_decide_eq_true below)).trans_lt numbered
  rw [channelOf_toNat (of_decide_eq_true above)]
  exact Nat.mod_eq_of_lt few

/-- What can be tuned lies a whole number of channels from the lower bound. -/
theorem units_of_tunable (tunable : band.isTunable frequency = true) :
    frequency.units.toNat =
      band.low.units.toNat + band.step.toNat * band.channelsTo frequency := by
  obtain ⟨inside, onGrid⟩ := isTunable_iff.1 tunable
  have above : band.low.units ≤ frequency.units :=
    of_decide_eq_true (Bool.and_eq_true_iff.1 inside).1
  have ordered := UInt32.le_iff_toNat_le.1 above
  rw [channelsTo, Nat.mul_div_cancel' onGrid]
  omega

/-- Two frequencies that can be tuned do not share a channel. -/
theorem eq_of_channelsTo_eq (tunable : band.isTunable frequency = true)
    (tunable' : band.isTunable other = true)
    (same : band.channelsTo frequency = band.channelsTo other) : frequency = other := by
  have units : frequency.units.toNat = other.units.toNat := by
    rw [units_of_tunable tunable, units_of_tunable tunable', same]
  have units : frequency.units = other.units := UInt32.toNat_inj.1 units
  cases frequency
  cases other
  exact congrArg Frequency.mk units

end Band

namespace Sweep

/-- What the channel numbers in the report of a sweep are. -/
structure Report.Numbered (report : Report) (band : Band) : Prop where
  /-- Each station has its number, in the order in which they were found. -/
  channels : report.channels = report.frequencies.map band.channelOf
  /-- The frequencies increase strictly. -/
  further : report.frequencies.Pairwise (· < ·)
  /-- The frequencies lie strictly between the bounds. -/
  between : ∀ frequency ∈ report.frequencies, band.low < frequency ∧ frequency < band.high
  /-- The numbers do not decrease, if those of the band fit in 16 bits. -/
  ascending : band.IsNumbered → report.channels.Pairwise (· ≤ ·)
  /-- The numbers then increase strictly exactly if no two stations share a channel. -/
  distinct : band.IsNumbered →
    (report.channels.Pairwise (· < ·) ↔ (report.frequencies.map band.channelsTo).Nodup)
  /-- The numbers increase strictly if all stations lie on the grid. -/
  onGrid : band.IsNumbered → (∀ frequency ∈ report.frequencies, band.isTunable frequency = true) →
    report.channels.Pairwise (· < ·)

variable {report : Report} {band : Band} {listeners : List Nat} {window : List Moment}

/-- A report that can be relied on is numbered as its stations lie. -/
theorem Report.Sound.numbered (sound : report.Sound band band.low listeners window) :
    report.Numbered band := by
  have inside : ∀ frequency ∈ report.frequencies, band.contains frequency = true := by
    intro frequency found
    obtain ⟨above, below⟩ := sound.between frequency found
    exact Bool.and_eq_true_iff.2 ⟨decide_eq_true above.le, decide_eq_true below.le⟩
  have number : band.IsNumbered → ∀ frequency ∈ report.frequencies,
      (band.channelOf frequency).toNat = band.channelsTo frequency :=
    fun numbered frequency found => Band.channelOf_eq_channelsTo numbered (inside frequency found)
  have ascending : band.IsNumbered → report.channels.Pairwise (· ≤ ·) := by
    intro numbered
    rw [sound.channels, List.pairwise_map]
    refine sound.ascending.imp_of_mem fun found found' ordered => ?_
    rw [UInt16.le_iff_toNat_le, number numbered _ found, number numbered _ found']
    exact Band.channelsTo_mono ordered.le
  have distinct : band.IsNumbered →
      (report.channels.Pairwise (· < ·) ↔ (report.frequencies.map band.channelsTo).Nodup) := by
    intro numbered
    rw [sound.channels, List.pairwise_map, List.Nodup, List.pairwise_map]
    constructor
    · intro increasing
      refine increasing.imp_of_mem fun found found' ordered => ?_
      rw [UInt16.lt_iff_toNat_lt, number numbered _ found, number numbered _ found'] at ordered
      exact ordered.ne
    · intro apart
      refine (sound.ascending.and apart).imp_of_mem fun found found' both => ?_
      rw [UInt16.lt_iff_toNat_lt, number numbered _ found, number numbered _ found']
      exact lt_of_le_of_ne (Band.channelsTo_mono both.1.le) both.2
  exact
    { channels := sound.channels
      further := sound.ascending
      between := sound.between
      ascending := ascending
      distinct := distinct
      onGrid := by
        intro numbered tunable
        refine (distinct numbered).2 (List.pairwise_map.2 ?_)
        refine sound.ascending.imp_of_mem fun found found' ordered same => ?_
        exact ordered.ne (Band.eq_of_channelsTo_eq (tunable _ found) (tunable _ found') same) }

end Sweep

/-- Channel numbers come from the frequencies that a sweep is told. Whatever the other end does,
with calls nested to any depth, the frequencies that a radio reports after a sweep increase
strictly, and the numbers are theirs in the band that the radio had. If the numbers of that band fit
in 16 bits they do not decrease, and they increase strictly exactly if no two stations share a
channel, as stations on the grid do not. -/
theorem Radio.autoScan_numbered {σ : Type} (settings : Settings) (peer : Peer σ Call Answer)
    (depth : Nat) {system : System σ} {report : Sweep.Report}
    (swept : (ofPeer settings peer depth).replyTo .autoScan system = .swept (.ok report)) :
    report.Numbered system.core.band := by
  have asks : ∀ system : System σ, (do return (← get).stopRequested : Action σ Bool).run system =
      (system.stopRequested, system) := fun _ => rfl
  obtain ⟨core, ended, _, band, engaged, ran, _⟩ := autoScan_made swept
  obtain ⟨_, _, _, _, sound⟩ :=
    Sweep.run_traced (ofPeer_link settings peer depth) engaged asks ran
  exact band ▸ sound.numbered

/-- With default settings, the stations that a sweep finds have different numbers. -/
theorem Radio.autoScan_numbered_opened :
    (ofPeer {} Receiver.peer 0).replyTo .autoScan opened =
        .swept (.ok ⟨[⟨8930⟩, ⟨10170⟩], [9, 71], .bandEdge⟩) ∧
      Sweep.Report.Numbered ⟨[⟨8930⟩, ⟨10170⟩], [9, 71], .bandEdge⟩ (Band.preset .na) := by
  have found : ((ofPeer {} Receiver.peer 0).autoScan.run.run opened).1 =
      .ok ⟨[⟨8930⟩, ⟨10170⟩], [9, 71], .bandEdge⟩ := by decide +kernel
  have swept : (ofPeer {} Receiver.peer 0).replyTo .autoScan opened =
      .swept (.ok ⟨[⟨8930⟩, ⟨10170⟩], [9, 71], .bandEdge⟩) := by rw [replyTo_autoScan, found]
  have band : Radio.opened.core.band = Band.preset .na := by decide +kernel
  exact ⟨swept, band ▸ Radio.autoScan_numbered {} Receiver.peer 0 swept⟩

/-- Two stations that are a channel apart on the grid of one region, and less than that on the
grid of another. -/
def Radio.closeTogether : List Station :=
  [{ frequency := ⟨8770⟩, rssi := -60 }, { frequency := ⟨8780⟩, rssi := -60 }]

/-- A radio with default settings over a receiver of the region where they are a channel apart. -/
def Radio.overCloseTogether : System Receiver where
  core := { band := Settings.band {} }
  peer := {
    chip := {
      band := Band.preset .eur
      stations := closeTogether
      eventLatency := 0
      seekLatency := 0
      noiseFloor := -110 } }

/-- The channel numbers of a sweep may repeat: here both stations are on channel 1. -/
theorem Radio.channels_repeat :
    Radio.start {} (Receiver.start (Band.preset .eur) closeTogether 0 0 (-110)) =
        .ok overCloseTogether ∧
      (Settings.band {}).WellFormed ∧ (Settings.band {}).IsNumbered ∧
      ∃ report,
        (ofPeer {} Receiver.peer 0).replyTo .autoScan
            ((ofPeer {} Receiver.peer 0).played
              (script [.call .attach, .call (.powerUp ⟨8750⟩)]) overCloseTogether) =
          .swept (.ok report) ∧
        report.frequencies = [⟨8770⟩, ⟨8780⟩] ∧ report.channels = [1, 1] ∧
        ¬report.channels.Nodup := by
  have sorted : Station.sort closeTogether = closeTogether :=
    List.mergeSort_of_pairwise (by decide)
  have found : ((ofPeer {} Receiver.peer 0).autoScan.run.run
      ((ofPeer {} Receiver.peer 0).played (script [.call .attach, .call (.powerUp ⟨8750⟩)])
        overCloseTogether)).1 = .ok ⟨[⟨8770⟩, ⟨8780⟩], [1, 1], .noProgress⟩ := by decide +kernel
  refine ⟨?_, by decide, by decide, ⟨[⟨8770⟩, ⟨8780⟩], [1, 1], .noProgress⟩, ?_, rfl, rfl,
    by decide⟩
  · rw [Receiver.start, sorted]
    rfl
  · rw [replyTo_autoScan, found]

end Tuner
