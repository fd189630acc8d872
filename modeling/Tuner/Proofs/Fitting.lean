import Tuner.Proofs.Coupling

/-!
# Operations are told what they wait for

An operation waits for the events of one tag, and so does its entry in the ledger. An event reaches
it by way of that entry, or as the late answer to another submission, after a look at the tag. So
whatever it is told, as its reply or in reserve, is an event that serves it; and an operation that
ends well does so with an event of its kind, even if the event is not looked at any further.

Main statement: `System.Steps.fitting`.
-/
namespace Tuner

namespace Ledger

variable {ledger : Ledger}

/-- A credit to a waiting operation goes to one that is served by such events. -/
theorem credit_accepts {tag : Tag} {frequency : Option Frequency} {generation : Nat}
    (credited : (ledger.credit tag frequency).1 = .live generation) :
    ∃ owed, (owed, generation) ∈ ledger.live ∧ owed.accepts tag = true := by
  unfold credit at credited
  cases expecting : frequency.bind (ledger.liveExpecting? tag) with
  | some entry =>
    rw [expecting] at credited
    obtain rfl := Credit.live.inj credited
    obtain ⟨reported, _, found⟩ := Option.bind_eq_some_iff.1 expecting
    have suits := List.find?_some found
    simp only [Bool.and_eq_true] at suits
    exact ⟨entry.tag, mem_live (List.mem_of_find?_eq_some found) suits.1.1, suits.1.2⟩
  | none =>
    rw [expecting] at credited
    unfold creditOldest at credited
    cases oldest : ledger.entries.find? (fun entry => entry.accepts tag) with
    | none =>
      rw [oldest] at credited
      contradiction
    | some entry =>
      rw [oldest] at credited
      cases alive : entry.isLive with
      | true =>
        have same : entry.credit = .live entry.generation := by rw [Entry.credit, alive, if_pos rfl]
        obtain rfl := Credit.live.inj (same.symm.trans credited)
        have accepts := List.find?_some oldest
        exact ⟨entry.tag, mem_live (List.mem_of_find?_eq_some oldest) alive, accepts⟩
      | false =>
        have same : entry.credit = .retired entry.generation := by
          rw [Entry.credit, alive, if_neg Bool.false_ne_true]
        have retired := same.symm.trans credited
        contradiction

end Ledger

namespace Core

/-- Whatever the operation that waits was told, as its reply or in reserve, serves it. -/
def Fitting (core : Core) : Prop :=
  ∀ waiter, core.waiter = some waiter → ∀ event,
    waiter.reply = some (.event event) ∨ waiter.spare = some event →
      waiter.tag.accepts event.tag = true

variable {core core' : Core}

/-- Whether the operation that waits was told what serves it depends on that operation and on
nothing else. -/
theorem Fitting.of_same (fitting : core.Fitting) (same : core'.waiter = core.waiter) :
    core'.Fitting := by
  rwa [Fitting, same]

/-- Where nothing waits, nothing was told that does not serve. -/
theorem Fitting.of_idle (idle : core.waiter = none) : core.Fitting := by
  intro waiter waiting
  rw [idle] at waiting
  contradiction

/-- An operation that is credited with an event is served by it. -/
theorem Fitting.answer (fitting : core.Fitting) {generation : Nat} {event : Event}
    (serves : ∀ waiter, core.waiter = some waiter → waiter.generation = generation →
      waiter.tag.accepts event.tag = true) : (core.answer generation event).Fitting := by
  unfold Core.answer
  split
  next waiter waiting =>
    split
    next own =>
      rintro _ ⟨⟩ told (replied | kept)
      · obtain rfl := Reply.event.inj (Option.some.inj replied)
        exact serves waiter waiting own
      · exact fitting waiter waiting told (.inr kept)
    next => exact fitting
  next => exact fitting

/-- A late answer is looked at before it is handed over. -/
theorem Fitting.handOver (fitting : core.Fitting) (now : Nat) (event : Event) :
    (core.handOver now event).Fitting := by
  unfold Core.handOver
  split
  next waiter waiting =>
    split
    next => exact fitting
    next wanted =>
      have serves : waiter.tag.accepts event.tag = true := by
        simp only [Bool.or_eq_true, Bool.not_eq_true', not_or, Bool.not_eq_false] at wanted
        exact wanted.2
      split
      · rintro _ ⟨⟩ told (replied | kept)
        · exact fitting waiter waiting told (.inl replied)
        · exact Option.some.inj kept ▸ serves
      · rintro _ ⟨⟩ told (replied | kept)
        · exact Reply.event.inj (Option.some.inj replied) ▸ serves
        · exact fitting waiter waiting told (.inr kept)
  next => exact fitting

/-- An event that is heard tells the operation that waits nothing that does not serve it. -/
theorem Fitting.hear (fitting : core.Fitting) (coupled : core.Coupled) (now : Nat) (event : Event) :
    (core.hear now event).Fitting := by
  unfold Core.hear
  split
  next =>
    rcases credited : core.ledger.credit event.tag event.frequency? with ⟨credit, ledger⟩
    have folded : Fitting
        { core with state := core.state.apply core.band event, ledger := ledger } :=
      fitting.of_same rfl
    cases credit with
    | live generation =>
      obtain ⟨owed, present, accepts⟩ :=
        Ledger.credit_accepts (congrArg Prod.fst credited : _ = Credit.live generation)
      refine folded.answer fun waiter waiting own => ?_
      -- The entry that is credited is that of the operation which waits.
      obtain ⟨waiter', waiting', own', unanswered⟩ := coupled.awaits present
      obtain rfl := Option.some.inj (waiting.symm.trans waiting')
      have submission : (owed, generation) = waiter.submission := by
        simpa [coupled.live, Core.owed, waiting', unanswered] using present
      have tag : owed = waiter.tag := congrArg Prod.fst submission
      exact tag ▸ accepts
    | retired generation => exact folded.handOver now event
    | unsolicited => exact folded
  next => exact fitting

/-- Losing the link brings no event. -/
theorem Fitting.detached (fitting : core.Fitting) : core.detached.Fitting := by
  intro waiter' waiting event told
  obtain ⟨waiter, waiting', rfl⟩ := Option.map_eq_some_iff.1 waiting
  rcases told with replied | kept
  · exact absurd (Option.some.inj replied) nofun
  · exact fitting waiter waiting' event (.inr kept)

/-- Whatever a listener says, the operation that waits is told nothing that does not serve it. -/
theorem Fitting.notify (fitting : core.Fitting) (coupled : core.Coupled) (epoch now : Nat)
    (notification : Notification) : (core.notify epoch now notification).Fitting := by
  unfold Core.notify
  split
  · cases notification with
    | attached => exact fitting.of_same rfl
    | detached => exact fitting.detached
    | event event => exact fitting.hear coupled now event
  · exact fitting

/-- An operation that was just installed was told nothing. -/
theorem Fitting.install {command : Command} {expected : Option Frequency} {generation : Nat}
    (installed : core.install command expected = .ok (generation, core')) : core'.Fitting := by
  intro waiter waiting event told
  obtain ⟨tag, _, rfl⟩ := Option.map_eq_some_iff.1 ((install_waiter installed).2.symm.trans waiting)
  rcases told with replied | kept <;> contradiction

end Core

namespace System

variable {terms : Terms} {system system' : System Unit}

/-- With every step, the operation that waits is told nothing that does not serve it. -/
theorem Step.fitting (taken : Step terms system system') (coupled : system.core.Coupled)
    (fitting : system.core.Fitting) : system'.core.Fitting := by
  cases taken with
  | aside taken =>
    cases taken with
    | pass | attach | detach | submit | reach | stop | drain | setBand => exact fitting.of_same rfl
    | forget => exact fitting.detached
    | hear listener notification =>
      unfold deliver become
      dsimp only
      split
      · exact fitting.notify coupled _ _ _
      · exact fitting
  | claim core claimed =>
    obtain ⟨_, _, rfl⟩ := Core.claim_eq_ok claimed
    exact fitting.of_same rfl
  | release busy idle => exact .of_idle rfl
  | sweep | seek => exact fitting.of_same rfl
  | install command expected generation core busy installed => exact .install installed
  | refuse code generation busy own => exact .of_idle rfl
  | settle waiter expected busy waiting => exact .of_idle (Core.settle_idle _ _ _ _ _).1

/-- Throughout every run, an operation is only told what it waits for. -/
theorem Steps.fitting {band : Band} (taken : Steps terms (.fresh band) system) :
    ∀ core ∈ system.cores, core.Fitting := by
  induction taken with
  | refl =>
    intro core member
    obtain rfl := List.mem_singleton.1 member
    exact .of_idle rfl
  | @tail middle last before step ih =>
    intro core member
    rcases step.cores member with earlier | rfl
    · exact ih core earlier
    · have present : middle.core ∈ middle.cores := List.mem_cons_self
      exact step.fitting ((Steps.accounted before).coupled _ present) (ih _ present)

end System

end Tuner
