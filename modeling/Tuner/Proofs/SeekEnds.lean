import Tuner.Proofs.Instants

/-!
# How seeks end

A seek that was accepted ends on its own when its time has come, and its end is reported then. What
supersedes it before that keeps this report from being delivered, and all else that the seek was to
report; if it is superseded by a command to end it, another report says that it failed, and where it
started. So every seek is reported to end once, or not at all.

What is under way carries the proof. While a seek is in progress, its end is all that is at stake.
Otherwise nothing is, unless seeks take no time: then none is ever in progress, and no epoch ends.

Main statement: `Receiver.seeks_end_once`.
-/
namespace Tuner

/-! ## The ends that are owed -/

namespace Chip.Quest

open Receiver (Instant)

/-- The call that supersedes a seek, the first of them before it ends. -/
def superseded? (quest : Quest) (later : List Instant) : Option Instant :=
  later.find? fun instant => decide (instant.now < quest.due) && instant.supersedes

/-- The ends of a seek that are told: its own, unless it is superseded, or else that of a command to
end it. -/
def ends (quest : Quest) (later : List Instant) : List Ending :=
  match quest.superseded? later with
  | none => [quest.ending]
  | some instant => if instant.aborts then [instant.cutShort quest.start] else []

variable {quest : Quest} {instant : Instant} {later : List Instant}

/-- A seek that has come to its end is not superseded. -/
theorem superseded?_of_over (elapsed : ∀ instant ∈ later, quest.due ≤ instant.now) :
    quest.superseded? later = none := by
  refine List.find?_eq_none.2 fun instant member => ?_
  have ended := Nat.not_lt.2 (elapsed instant member)
  simp [ended]

/-- A seek that has come to its end ends on its own. -/
theorem ends_of_over (elapsed : ∀ instant ∈ later, quest.due ≤ instant.now) :
    quest.ends later = [quest.ending] := by
  rw [ends, superseded?_of_over elapsed]

/-- A call that supersedes no seek makes no difference to when a seek is superseded. -/
theorem superseded?_cons_of_leaves (leaves : instant.supersedes = false) :
    quest.superseded? (instant :: later) = quest.superseded? later :=
  List.find?_cons_of_neg (by simp [leaves])

/-- A call that supersedes no seek makes no difference to how a seek ends. -/
theorem ends_cons_of_leaves (leaves : instant.supersedes = false) :
    quest.ends (instant :: later) = quest.ends later := by
  rw [ends, ends, superseded?_cons_of_leaves leaves]

/-- The first call that supersedes a seek, before it ends, decides how it ends. -/
theorem ends_cons_of_supersedes (underway : instant.now < quest.due)
    (supersedes : instant.supersedes = true) :
    quest.ends (instant :: later) =
      if instant.aborts then [instant.cutShort quest.start] else [] := by
  have first : quest.superseded? (instant :: later) = some instant :=
    List.find?_cons_of_pos (by simp [underway, supersedes])
  rw [ends, first]

end Chip.Quest

/-- The ends of all seeks that are begun by some calls. -/
def Receiver.owed : List Receiver.Instant → List Ending
  | [] => []
  | instant :: later => (instant.begun?.elim [] fun quest => quest.ends later) ++ owed later

namespace Receiver

variable {receiver : Receiver} {instant : Instant} {now : Nat}

/-! ## What is under way leads every seek to its end -/

/-- Events are sent, what is under way is delivered in order and from now on, and no guard is of an
epoch to come. -/
structure Sound (receiver : Receiver) (now : Nat) : Prop where
  /-- Events are not kept back. -/
  loud : receiver.silent = false
  /-- What is due earlier is delivered earlier. -/
  ordered : Courier.Ordered receiver.courier.queue
  /-- Nothing is overdue, and guards are of epochs that have begun. -/
  due : ∀ envelope ∈ receiver.courier.queue, now ≤ envelope.due ∧
    ∀ guard, envelope.guard? = some guard → guard ≤ receiver.chip.epoch

/-- A call that does not keep events back leaves what is under way sound. -/
theorem Instant.Adds.sound {fresh : List Envelope} (adds : instant.Adds fresh)
    (sound : instant.receiver.Sound instant.now) (quiet : instant.call ≠ .setSilent true) :
    instant.after.Sound instant.now where
  loud := instant.does.loud sound.loud quiet
  ordered := adds.ordered
  due := by
    intro envelope member
    rcases List.mem_append.1 (adds.queue.subset member) with new | old
    · obtain ⟨due, guarded⟩ := adds.due envelope new
      exact ⟨due, fun guard guards => (guarded guard guards).le⟩
    · obtain ⟨due, guarded⟩ := sound.due envelope old
      exact ⟨due, fun guard guards => (guarded guard guards).trans instant.epoch_le_after⟩

/-- The seek in progress has its end at stake, and nothing else is. While none is in progress
nothing is at stake, unless seeks take no time. -/
inductive Pursues (receiver : Receiver) (now : Nat) : Option Chip.Quest → Prop
  /-- No seek is in progress. -/
  | still (still : receiver.chip.Still now)
      (nothing : Courier.endings (some receiver.chip.epoch) receiver.courier.queue = [] ∨
        receiver.chip.seekLatency = 0) : Pursues receiver now none
  /-- One is. -/
  | seeking {quest : Chip.Quest} (sought : receiver.chip.seek = some quest.toSeek)
      (underway : now < quest.due)
      (atStake :
        Courier.endings (some receiver.chip.epoch) receiver.courier.queue = [quest.ending]) :
      Pursues receiver now (some quest)

/-- The ends of seeks that come of what is at stake, with the calls that come later. -/
def pending (receiver : Receiver) (later : List Instant) : Option Chip.Quest → List Ending
  | none => Courier.endings (some receiver.chip.epoch) receiver.courier.queue
  | some quest => quest.ends later

/-- The ends of seeks that are still to be told, with the calls that come later. -/
def ahead (receiver : Receiver) (later : List Instant) (quest? : Option Chip.Quest) :
    List Ending :=
  Courier.endings none receiver.courier.queue ++ receiver.pending later quest?

/-- What is to be told after a call is what was to be told before it, and the end of the seek that
it begins. -/
def Instant.Leads (instant : Instant) (quest? quest?' : Option Chip.Quest) : Prop :=
  ∀ later : List Instant, (∀ other ∈ later, instant.now ≤ other.now) →
    (instant.after.ahead later quest?').Perm
      (instant.receiver.ahead (instant :: later) quest? ++
        instant.begun?.elim [] fun quest => quest.ends later)

/-- The seek that was just begun is pursued, and what was at stake before is still told. -/
theorem exists_pursues {begun? : Option Chip.Quest} {old : List Ending}
    (seek : receiver.chip.seek = begun?.map (·.toSeek))
    (due : ∀ quest, begun? = some quest → quest.due = now + receiver.chip.seekLatency)
    (atStake : (Courier.endings (some receiver.chip.epoch) receiver.courier.queue).Perm
      ((begun?.map (·.ending)).toList ++ old))
    (nothing : old = [] ∨ receiver.chip.seekLatency = 0) :
    ∃ quest?, receiver.Pursues now quest? ∧
      ∀ later : List Instant, (∀ instant ∈ later, now ≤ instant.now) →
        (receiver.pending later quest?).Perm
          ((begun?.elim [] fun quest => quest.ends later) ++ old) := by
  by_cases timeless : receiver.chip.seekLatency = 0
  · -- The seek is over as soon as it was begun, with its end under way.
    refine ⟨none, .still ?_ (.inr timeless), fun later from_now => atStake.trans ?_⟩
    · intro current sought
      obtain ⟨quest, begun, rfl⟩ := Option.map_eq_some_iff.1 (seek.symm.trans sought)
      have ends := due quest begun
      omega
    · cases begun? with
      | none => exact .refl _
      | some quest =>
        have ends := due quest rfl
        have ended : quest.ends later = [quest.ending] :=
          Chip.Quest.ends_of_over fun instant member => by
            have notBefore := from_now instant member
            omega
        simp [ended]
  · obtain rfl := nothing.resolve_right timeless
    rw [List.append_nil] at atStake
    cases begun? with
    | none =>
      refine ⟨none, .still ?_ (.inl atStake.eq_nil), fun later _ => atStake⟩
      intro current sought
      have absent := seek.symm.trans sought
      contradiction
    | some quest =>
      have ends := due quest rfl
      refine ⟨some quest, .seeking seek (by omega) (List.perm_singleton.1 atStake), ?_⟩
      intro later _
      simp [pending]

namespace Instant.Adds

variable {fresh : List Envelope} {quest? : Option Chip.Quest}

/-- What is told after the call is what was told before and what the call adds. -/
theorem endings_after (adds : instant.Adds fresh) (guard? : Option Nat) :
    (Courier.endings guard? instant.after.courier.queue).Perm
      (Courier.endings guard? fresh ++
        Courier.endings guard? instant.receiver.courier.queue) := by
  have same := Courier.endings_perm adds.queue guard?
  rwa [Courier.endings_append] at same

/-- A call that supersedes no seek leaves the seek in progress, with its end at stake. -/
theorem pursues_of_leaves (adds : instant.Adds fresh)
    (pursues : instant.receiver.Pursues instant.now quest?)
    (leaves : instant.supersedes = false) :
    instant.after.Pursues instant.now quest? ∧ instant.Leads quest? quest? := by
  obtain ⟨seek, epoch, aimless⟩ := Instant.after_of_leaves leaves
  have latency := instant.does.seekLatency
  have nothing : Courier.endings none fresh = [] := by
    rw [adds.sure, Instant.aborts, leaves]
    rfl
  have sure := adds.endings_after none
  have atStake := adds.endings_after (some instant.after.chip.epoch)
  rw [nothing, List.nil_append] at sure
  rw [adds.atStake, aimless, epoch] at atStake
  simp only [Leads, ahead, aimless, Option.elim_none, List.append_nil]
  cases pursues with
  | still still nothing =>
    refine ⟨.still ?_ ?_, fun later _ => sure.append ?_⟩
    · intro current sought
      exact still current (seek.symm.trans sought)
    · rw [epoch]
      rcases nothing with nothing | timeless
      · rw [nothing] at atStake
        exact .inl atStake.eq_nil
      · exact .inr (latency.trans timeless)
    · rw [pending, epoch]
      exact atStake
  | @seeking quest sought underway staked =>
    rw [staked] at atStake
    refine ⟨.seeking (seek.trans sought) underway ?_, fun later _ => ?_⟩
    · rw [epoch]
      exact List.perm_singleton.1 atStake
    · rw [pending, pending, Chip.Quest.ends_cons_of_leaves leaves]
      exact sure.append_right _

/-- A call that supersedes the seek in progress leads it to its end. It may begin another. -/
theorem pursues_of_supersedes (adds : instant.Adds fresh)
    (sound : instant.receiver.Sound instant.now)
    (pursues : instant.receiver.Pursues instant.now quest?)
    (supersedes : instant.supersedes = true) :
    ∃ quest?', instant.after.Pursues instant.now quest?' ∧ instant.Leads quest? quest?' := by
  obtain ⟨seek, epoch⟩ := Instant.after_of_supersedes supersedes
  have latency := instant.does.seekLatency
  have due : ∀ quest, instant.begun? = some quest →
      quest.due = instant.now + instant.after.chip.seekLatency :=
    fun quest begun => latency ▸ Instant.due_of_begun begun
  have sure := adds.endings_after none
  have atStake := adds.endings_after (some instant.after.chip.epoch)
  rw [adds.atStake] at atStake
  cases pursues with
  | still still nothing =>
    -- No epoch ends, so what is at stake stays so.
    rw [Chip.supersede_of_still still] at epoch
    have unended : Courier.endings none fresh = [] := by
      rw [adds.sure, Chip.supersede_of_still still]
      split <;> rfl
    have same : Courier.endings (some instant.after.chip.epoch) instant.receiver.courier.queue =
        Courier.endings (some instant.receiver.chip.epoch) instant.receiver.courier.queue := by
      rw [epoch]
    rw [unended, List.nil_append] at sure
    rw [same] at atStake
    obtain ⟨quest?', pursues, leads⟩ :=
      exists_pursues seek due atStake (nothing.imp_right latency.trans)
    refine ⟨quest?', pursues, fun later from_now => ?_⟩
    refine (sure.append (leads later from_now)).trans ?_
    rw [ahead, List.append_assoc]
    exact List.perm_append_comm.append_left _
  | @seeking quest sought underway staked =>
    -- An epoch ends, and with it the guard of the seek that was in progress.
    rw [Chip.supersede_of_underway sought underway] at epoch
    have ended : Courier.endings none fresh =
        if instant.aborts then [instant.cutShort quest.start] else [] := by
      rw [adds.sure, Chip.supersede_of_underway sought underway]
      rfl
    have outdated :
        Courier.endings (some instant.after.chip.epoch) instant.receiver.courier.queue = [] := by
      refine Courier.endings_of_others fun envelope member guards => ?_
      have bound := (sound.due envelope member).2 _ guards
      have begun : instant.after.chip.epoch = instant.receiver.chip.epoch + 1 := epoch
      omega
    rw [outdated] at atStake
    obtain ⟨quest?', pursues, leads⟩ := exists_pursues seek due atStake (.inl rfl)
    refine ⟨quest?', pursues, fun later from_now => ?_⟩
    rw [ahead, ahead, pending, Chip.Quest.ends_cons_of_supersedes underway supersedes, ← ended]
    refine (sure.append (leads later from_now)).trans ?_
    rw [List.append_nil]
    exact List.perm_append_comm.append_right _

/-- A call leads the seek in progress to its end if it supersedes it, and begins another if it is an
accepted command to seek. -/
theorem pursues (adds : instant.Adds fresh) (sound : instant.receiver.Sound instant.now)
    (pursues : instant.receiver.Pursues instant.now quest?) :
    ∃ quest?', instant.after.Pursues instant.now quest?' ∧ instant.Leads quest? quest?' := by
  by_cases supersedes : instant.supersedes = true
  · exact adds.pursues_of_supersedes sound pursues supersedes
  · exact ⟨quest?, adds.pursues_of_leaves pursues (Bool.eq_false_iff.2 supersedes)⟩

end Instant.Adds

/-! ## Deliveries -/

/-- What is not overdue is delivered when it is due. -/
theorem deliveries_endings {delivered : List Envelope}
    (due : ∀ envelope ∈ delivered, now ≤ envelope.due) :
    (deliveries now delivered).filterMap (·.ending?) = delivered.filterMap (·.ending?) := by
  rw [deliveries, List.filterMap_map]
  refine List.filterMap_congr fun envelope member => ?_
  have onTime : max now envelope.due = envelope.due := Nat.max_eq_right (due envelope member)
  simp only [Function.comp_apply, onTime]
  rfl

/-- The ends that are told by a moment are those that are sure and those that are at stake, as far
as they are due by then. -/
theorem delivered_endings (sound : receiver.Sound now) (moment : Nat) :
    ((deliveries now (receiver.deliverBy moment).1).filterMap (·.ending?)).Perm
      (Courier.endings none (receiver.courier.dueBy moment) ++
        Courier.endings (some receiver.chip.epoch) (receiver.courier.dueBy moment)) := by
  rw [deliveries_endings]
  · exact Courier.current_perm receiver.chip.epoch (receiver.courier.dueBy moment)
  · intro envelope member
    have under : envelope ∈ receiver.courier.queue :=
      (List.takeWhile_prefix _).subset (List.mem_filter.1 member).1
    exact (sound.due envelope under).1

/-- When time passes and what is due is delivered, the rest is sound. -/
theorem Sound.wait (sound : receiver.Sound now) (moment : Nat) :
    (receiver.deliverBy moment).2.Sound moment where
  loud := sound.loud
  ordered := sound.ordered.sublist (List.dropWhile_sublist _)
  due := by
    intro envelope member
    have under : envelope ∈ receiver.courier.queue := (List.dropWhile_suffix _).subset member
    exact ⟨(Courier.lt_due_of_mem_after sound.ordered member).le, (sound.due envelope under).2⟩

/-- A seek in progress comes to its end when its time has come. -/
theorem Pursues.wait {quest? : Option Chip.Quest} (pursues : receiver.Pursues now quest?)
    (sound : receiver.Sound now) (ms : Nat) :
    ∃ quest?', (receiver.deliverBy (now + ms)).2.Pursues (now + ms) quest?' ∧
      ∀ later : List Instant, (∀ instant ∈ later, now + ms ≤ instant.now) →
        ((deliveries now (receiver.deliverBy (now + ms)).1).filterMap (·.ending?) ++
          (receiver.deliverBy (now + ms)).2.ahead later quest?').Perm
            (receiver.ahead later quest?) := by
  have split := receiver.courier.dueBy_append_after (now + ms)
  have sure := congrArg (Courier.endings none) split
  have atStake := congrArg (Courier.endings (some receiver.chip.epoch)) split
  rw [Courier.endings_append] at sure
  rw [Courier.endings_append] at atStake
  have regroup (rest : List Ending) :
      ((deliveries now (receiver.deliverBy (now + ms)).1).filterMap (·.ending?) ++
        (Courier.endings none (receiver.courier.after (now + ms)).queue ++ rest)).Perm
      (Courier.endings none receiver.courier.queue ++
        (Courier.endings (some receiver.chip.epoch) (receiver.courier.dueBy (now + ms)) ++
          rest)) := by
    refine ((delivered_endings sound (now + ms)).append_right _).trans ?_
    rw [← sure, List.append_assoc, List.append_assoc]
    exact (List.perm_append_comm_assoc _ _ _).append_left _
  cases pursues with
  | still still nothing =>
    rw [← atStake] at nothing
    refine ⟨none, .still (still.later (Nat.le_add_right _ _)) ?_, fun later _ => ?_⟩
    · exact nothing.imp_left fun nothing => (List.append_eq_nil_iff.1 nothing).2
    · rw [ahead, ahead, pending, pending, ← atStake]
      exact regroup _
  | @seeking quest sought underway staked =>
    rw [← atStake] at staked
    obtain ⟨early, late⟩ := Courier.endings_of_single staked
    by_cases elapsed : quest.due ≤ now + ms
    · -- Its end is among what is delivered.
      have none := late fun envelope under => by
        have later := Courier.lt_due_of_mem_after sound.ordered under
        exact (elapsed.trans_lt later).ne'
      refine ⟨.none, .still ?_ (.inl none), fun later from_now => ?_⟩
      · intro current progress
        obtain rfl := Option.some.inj (sought.symm.trans progress)
        exact elapsed
      · have ends : quest.ends later = [quest.ending] :=
          Chip.Quest.ends_of_over fun instant member => elapsed.trans (from_now instant member)
        rw [ahead, ahead, pending, pending, ends, ← staked]
        exact regroup _
    · -- Its end is still to come.
      have before : now + ms < quest.due := Nat.lt_of_not_le elapsed
      have none := early fun envelope under =>
        ((Courier.due_of_mem_dueBy under).trans_lt before).ne
      rw [none, List.nil_append] at staked
      refine ⟨some quest, .seeking sought before staked, fun later _ => ?_⟩
      have told := regroup (quest.ends later)
      rwa [none, List.nil_append] at told

/-! ## Whole runs -/

/-- Calls come no earlier than the run begins. -/
theorem le_now_of_mem_instants (receiver : Receiver) (now : Nat) (turns : List Turn) :
    ∀ instant ∈ receiver.instants now turns, now ≤ instant.now := by
  induction turns generalizing receiver now with
  | nil => exact List.forall_mem_nil _
  | cons turn turns ih =>
    cases turn with
    | call request => exact List.forall_mem_cons.2 ⟨Nat.le_refl _, ih _ _⟩
    | wait ms =>
      intro instant member
      exact (Nat.le_add_right now ms).trans (ih _ _ instant member)

/-- Calls come one after another. -/
theorem instants_sorted (receiver : Receiver) (now : Nat) (turns : List Turn) :
    (receiver.instants now turns).Pairwise fun instant later => instant.now ≤ later.now := by
  induction turns generalizing receiver now with
  | nil => exact .nil
  | cons turn turns ih =>
    cases turn with
    | call request => exact .cons (le_now_of_mem_instants _ _ _) (ih _ _)
    | wait ms => exact ih _ _

/-- The ends of seeks that are told during a run and after it are those that were still to be told
before it, and those of the seeks that are begun. -/
theorem told_endings {turns : List Turn} {quest? : Option Chip.Quest}
    (sound : receiver.Sound now) (pursues : receiver.Pursues now quest?)
    (quiet : ∀ turn ∈ turns, turn ≠ .call (.setSilent true)) :
    ((receiver.told now turns).filterMap (·.ending?)).Perm
      (receiver.ahead (receiver.instants now turns) quest? ++
        owed (receiver.instants now turns)) := by
  induction turns generalizing receiver now quest? with
  | nil =>
    have ends : ((receiver.told now []).filterMap (·.ending?)).Perm
        (Courier.endings none receiver.courier.queue ++
          Courier.endings (some receiver.chip.epoch) receiver.courier.queue) := by
      rw [told, deliveries_endings fun envelope member =>
        (sound.due envelope (List.mem_filter.1 member).1).1]
      exact Courier.current_perm receiver.chip.epoch receiver.courier.queue
    have same : receiver.pending [] quest? =
        Courier.endings (some receiver.chip.epoch) receiver.courier.queue := by
      cases pursues with
      | still => rfl
      | seeking _ _ staked => exact staked.symm
    rw [instants, owed, List.append_nil, ahead, same]
    exact ends
  | cons turn turns ih =>
    obtain ⟨first, others⟩ := List.forall_mem_cons.1 quiet
    cases turn with
    | call request =>
      let instant : Instant := ⟨receiver, now, request⟩
      have loud : instant.call ≠ .setSilent true := fun same => first (congrArg Turn.call same)
      obtain ⟨fresh, adds⟩ := @Instant.exists_adds instant sound.loud sound.ordered
      obtain ⟨quest?', pursues', leads⟩ := adds.pursues sound pursues
      have rest := ih (adds.sound sound loud) pursues' others
      refine rest.trans ?_
      rw [instants, owed, ← List.append_assoc]
      exact (leads _ (le_now_of_mem_instants _ _ _)).append_right _
    | wait ms =>
      obtain ⟨quest?', pursues', leads⟩ := pursues.wait sound ms
      have rest := ih (sound.wait (now + ms)) pursues' others
      rw [told, List.filterMap_append]
      refine (rest.append_left _).trans ?_
      rw [← List.append_assoc]
      exact (leads _ (le_now_of_mem_instants _ _ _)).append_right _

/-! ## What is never told -/

/-- What is guarded with an epoch that is over is never delivered. -/
theorem not_told_of_outdated {turns : List Turn} {envelope : Envelope} {guard : Nat}
    (receiver : Receiver) (now : Nat) (guarded : envelope.guard? = some guard)
    (outdated : guard < receiver.chip.epoch) :
    ∀ delivery ∈ receiver.told now turns, delivery.envelope ≠ envelope := by
  have dropped (receiver : Receiver) (now : Nat) (outdated : guard < receiver.chip.epoch)
      (queue : List Envelope) : ∀ delivery ∈ deliveries now (queue.filter receiver.delivers),
      delivery.envelope ≠ envelope := by
    rintro _ member rfl
    obtain ⟨envelope, among, rfl⟩ := List.mem_map.1 member
    have current : envelope.isCurrent receiver.chip.epoch = true := (List.mem_filter.1 among).2
    rw [Envelope.isCurrent, guarded] at current
    have same : guard = receiver.chip.epoch := by simpa using current
    omega
  induction turns generalizing receiver now with
  | nil => exact dropped receiver now outdated _
  | cons turn turns ih =>
    cases turn with
    | call request =>
      exact ih _ _ (outdated.trans_le (Instant.epoch_le_after ⟨receiver, now, request⟩))
    | wait ms =>
      intro delivery member
      rcases List.mem_append.1 member with due | later
      · exact dropped receiver now outdated _ delivery due
      · exact ih (receiver.deliverBy (now + ms)).2 (now + ms) outdated delivery later

/-- What is delivered while time passes was due. -/
theorem due_of_mem_deliveries {moment : Nat} {delivery : Delivery}
    (member : delivery ∈ deliveries now (receiver.deliverBy moment).1) :
    delivery.envelope.due ≤ moment := by
  obtain ⟨envelope, among, rfl⟩ := List.mem_map.1 member
  exact Courier.due_of_mem_dueBy (List.mem_filter.1 among).1

/-- While a seek is in progress that will be superseded, nothing that it is to report is delivered,
and nothing of it is afterwards. -/
theorem not_told_of_superseded {turns : List Turn} {quest : Chip.Quest} {envelope : Envelope}
    (receiver : Receiver) (now : Nat) (sought : receiver.chip.seek = some quest.toSeek)
    (underway : now < quest.due) (guarded : envelope.guard? = some receiver.chip.epoch)
    (late : quest.due ≤ envelope.due)
    (superseded : quest.superseded? (receiver.instants now turns) ≠ none) :
    ∀ delivery ∈ receiver.told now turns, delivery.envelope ≠ envelope := by
  induction turns generalizing receiver now with
  | nil => exact absurd rfl superseded
  | cons turn turns ih =>
    cases turn with
    | call request =>
      let instant : Instant := ⟨receiver, now, request⟩
      by_cases supersedes : instant.supersedes = true
      · have epoch : instant.after.chip.epoch = receiver.chip.epoch + 1 := by
          rw [(Instant.after_of_supersedes supersedes).2,
            Chip.supersede_of_underway sought underway]
        have outdated : receiver.chip.epoch < instant.after.chip.epoch := by omega
        exact not_told_of_outdated instant.after now guarded outdated
      · have leaves := Bool.eq_false_iff.2 supersedes
        obtain ⟨seek, epoch, _⟩ := Instant.after_of_leaves leaves
        rw [instants, Chip.Quest.superseded?_cons_of_leaves leaves] at superseded
        exact ih _ _ (seek.trans sought) underway (guarded.trans (congrArg some epoch.symm))
          superseded
    | wait ms =>
      have ahead : now + ms < quest.due := by
        refine Nat.lt_of_not_le fun elapsed => superseded ?_
        exact Chip.Quest.superseded?_of_over fun instant member =>
          elapsed.trans (le_now_of_mem_instants _ _ _ instant member)
      intro delivery member
      rcases List.mem_append.1 member with due | later
      · rintro rfl
        have early := due_of_mem_deliveries due
        omega
      · exact ih (receiver.deliverBy (now + ms)).2 (now + ms) sought ahead guarded superseded
          delivery later

namespace Instant

/-- What a command to seek sends is guarded, and due no earlier than the end of the seek. -/
theorem due_of_mem_sent {quest : Chip.Quest} (begun : instant.begun? = some quest)
    {envelope : Envelope} (member : envelope ∈ instant.sent) :
    envelope.guard? = some instant.after.chip.epoch ∧ quest.due ≤ envelope.due := by
  obtain ⟨command, target, submitted, accepted, seeks, rfl⟩ := begun?_eq_some.1 begun
  obtain ⟨listener, served⟩ := served_of_accepted accepted
  have chip : instant.after.chip = (instant.receiver.chip.execute instant.now command).1 := by
    unfold after answer
    rw [submitted]
    exact (submit_chip accepted instant.now).1
  unfold sent at member
  rw [submitted, served] at member
  dsimp only at member
  rw [if_pos accepted] at member
  rw [chip]
  exact (Chip.sendings_of_target listener seeks).2.2 envelope member

/-- A command to end a seek sends nothing if none is in progress. -/
theorem abort_of_still (ends : instant.call = .submit .abortSeek)
    (still : instant.receiver.chip.Still instant.now) :
    instant.after.courier = instant.receiver.courier := by
  unfold after answer
  rw [ends]
  dsimp only
  by_cases accepted : (instant.receiver.acceptance .abortSeek).isOk = true
  · have nothing : (instant.receiver.chip.execute instant.now .abortSeek).2 = [] := by
      rw [Chip.execute_abortSeek, Chip.supersede_of_still still]
      rfl
    unfold submit
    dsimp only
    rw [if_pos accepted, nothing, send]
    split <;> rfl
  · rw [submit_refused (Bool.eq_false_iff.2 accepted)]

end Instant

/-- Nothing that a seek was to report is delivered if it is superseded. -/
theorem not_told_of_begun {turns : List Turn} {before later : List Instant} {quest : Chip.Quest}
    {envelope : Envelope} (receiver : Receiver) (now : Nat)
    (run : receiver.instants now turns = before ++ instant :: later)
    (begun : instant.begun? = some quest) (superseded : quest.superseded? later ≠ none)
    (sent : envelope ∈ instant.sent) :
    ∀ delivery ∈ receiver.told now turns, delivery.envelope ≠ envelope := by
  obtain ⟨guarded, late⟩ := Instant.due_of_mem_sent begun sent
  have underway : instant.now < quest.due := by
    have sorted := receiver.instants_sorted now turns
    rw [run] at sorted
    have after := (List.pairwise_cons.1 (List.pairwise_append.1 sorted).2.1).1
    refine Nat.lt_of_not_le fun elapsed => superseded ?_
    exact Chip.Quest.superseded?_of_over fun other member => elapsed.trans (after other member)
  induction turns generalizing receiver now before with
  | nil =>
    have nothing := congrArg List.length run
    simp [instants] at nothing
  | cons turn turns ih =>
    cases turn with
    | call request =>
      cases before with
      | nil =>
        obtain ⟨rfl, rfl⟩ := List.cons.inj run
        have seek := (Instant.after_of_supersedes (Instant.supersedes_of_begun begun).1).1
        rw [begun] at seek
        exact not_told_of_superseded (Instant.after ⟨receiver, now, request⟩) now seek underway
          guarded late superseded
      | cons first before => exact ih _ _ (List.cons.inj run).2
    | wait ms =>
      have from_now : now + ms ≤ instant.now := by
        refine le_now_of_mem_instants (receiver.deliverBy (now + ms)).2 _ turns instant ?_
        have same : instants (receiver.deliverBy (now + ms)).2 (now + ms) turns = _ := run
        rw [same]
        exact List.mem_append_right _ List.mem_cons_self
      intro delivery member
      rcases List.mem_append.1 member with due | later
      · rintro rfl
        have early := due_of_mem_deliveries due
        omega
      · exact ih _ _ run delivery later

end Receiver

/-- Every seek ends once, or is superseded. From when a receiver was switched on, whatever is called
and however much time passes, unless events are kept back: the ends of seeks that are told are, with
their times and reports, those owed by the seeks that were accepted. A seek that is not superseded
before its time has come ends then, with what it found; one that is superseded by a command to end
it fails where it started, and this is told after the usual delay; one that is superseded by
anything else does not end. Nothing that a superseded seek was to report is ever told, and a command
to end a seek where none is in progress sends nothing. -/
theorem Receiver.seeks_end_once (band : Band) (stations : List Station)
    (eventLatency seekLatency : Nat) (noiseFloor : Int32) (now : Nat) {turns : List Turn}
    (quiet : ∀ turn ∈ turns, turn ≠ .call (.setSilent true)) :
    let receiver := start band stations eventLatency seekLatency noiseFloor
    ((receiver.told now turns).filterMap (·.ending?)).Perm (owed (receiver.instants now turns)) ∧
    (∀ before instant later quest, receiver.instants now turns = before ++ instant :: later →
      instant.begun? = some quest → quest.superseded? later ≠ none →
      ∀ envelope ∈ instant.sent, ∀ delivery ∈ receiver.told now turns,
        delivery.envelope ≠ envelope) ∧
    ∀ instant ∈ receiver.instants now turns, instant.call = .submit .abortSeek →
      instant.receiver.chip.Still instant.now →
      instant.after.courier = instant.receiver.courier := by
  intro receiver
  have sound : receiver.Sound now := ⟨rfl, .nil, List.forall_mem_nil _⟩
  have pursues : receiver.Pursues now none := .still nofun (.inl rfl)
  refine ⟨told_endings sound pursues quiet, ?_, ?_⟩
  · intro before instant later quest run begun superseded envelope sent
    exact not_told_of_begun receiver now run begun superseded sent
  · intro instant _ ends still
    exact Instant.abort_of_still ends still

/-- A receiver with two stations on the air. -/
def Receiver.overTwo : Receiver where
  chip := {
    band := Band.preset .na
    stations := [{ frequency := ⟨8930⟩, rssi := -60, programService := some "DAWN" },
      { frequency := ⟨10170⟩, rssi := -55 }]
    eventLatency := 30
    seekLatency := 200
    noiseFloor := -118 }

/-- The receiver with those stations is one that was switched on. -/
theorem Receiver.start_overTwo :
    start (Band.preset .na) overTwo.chip.stations 30 200 (-118) = overTwo := by
  have sorted : Station.sort overTwo.chip.stations = overTwo.chip.stations :=
    List.mergeSort_of_pairwise (by decide)
  rw [start, sorted]
  rfl

/-- With the decoder and the reports of the quality on, a seek is ended on command after half of its
time, and another is not. -/
def Receiver.seekingTwice : List Turn :=
  [.call (.attach 0), .call (.submit (.turnOn .powerUp)), .wait 40,
    .call (.submit (.setRds ⟨.default, .union .programService .radioText, .off, 105⟩)),
    .call (.submit (.setLivePolling true 500)), .wait 60,
    .call (.submit (.seek (.seek .up .normal) 105)), .wait 100, .call (.submit .abortSeek),
    .wait 50, .call (.submit (.seek (.seek .up .normal) 105)), .wait 400,
    .call (.submit .abortSeek)]

/-- The first fails where it started, and the second ends at the first station. Of what the first
was to report, its end with the radio data and the quality there, nothing is told. A command to end
a seek sends nothing after that. -/
theorem Receiver.seeks_end_once_seekingTwice :
    ((overTwo.told 0 seekingTwice).filterMap (·.ending?)).Perm
        [⟨230, ⟨⟨8750⟩, -118, 0, false⟩⟩, ⟨450, ⟨⟨8930⟩, -60, 25, true⟩⟩] ∧
      (∃ before instant later, overTwo.instants 0 seekingTwice = before ++ instant :: later ∧
        instant.now = 100 ∧ instant.sent.length = 4 ∧
        ∀ envelope ∈ instant.sent, ∀ delivery ∈ overTwo.told 0 seekingTwice,
          delivery.envelope ≠ envelope) ∧
      ∃ instant ∈ overTwo.instants 0 seekingTwice, instant.now = 650 ∧
        instant.after.courier = instant.receiver.courier := by
  have quiet : ∀ turn ∈ seekingTwice, turn ≠ .call (.setSilent true) := by decide
  obtain ⟨told, never, idle⟩ := Receiver.seeks_end_once (Band.preset .na) overTwo.chip.stations 30
    200 (-118) 0 quiet
  rw [start_overTwo] at told never idle
  have ends : owed (overTwo.instants 0 seekingTwice) =
      [⟨230, ⟨⟨8750⟩, -118, 0, false⟩⟩, ⟨450, ⟨⟨8930⟩, -60, 25, true⟩⟩] := by decide +kernel
  rw [ends] at told
  have run : overTwo.instants 0 seekingTwice = (overTwo.instants 0 seekingTwice).take 4 ++
      _ :: (overTwo.instants 0 seekingTwice).drop 5 := rfl
  refine ⟨told, ⟨_, _, _, run, by decide +kernel, by decide +kernel, ?_⟩, ?_⟩
  · exact never _ _ _ (Chip.quest _ _ _) run rfl (by decide +kernel)
  · refine ⟨List.get _ ⟨7, by decide +kernel⟩, List.get_mem _ _, by decide +kernel, ?_⟩
    exact idle _ (List.get_mem _ _) (by decide +kernel) (by decide +kernel)

end Tuner
