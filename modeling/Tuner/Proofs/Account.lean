import Tuner.Proofs.Interlude
import Tuner.Proofs.Hygiene

/-!
# The state is what was told

What a core knows of its receiver is nothing but what it was told, in the order in which it was
told. Commands, their answers, sessions and deadlines make no difference to it except through the
notifications that come of them; and an event is folded into the state in the same step in which it
reaches an operation.

An entry of the history adds to the account in one of four ways, its tiding, or not at all. That is
proved for each step, and then read off the history: from its beginning, where any two runs with the
same account know the same, and from the moment at which the link was attached, where the account is
that of one listener.
-/
namespace Tuner

/-! ## Tidings -/

/-- What an entry of the history may change of what is known. -/
inductive Tiding where
  /-- The listener that may speak said something. -/
  | said (notification : Notification)
  /-- What the link said was forgotten. -/
  | forgotten
  /-- An update of the radio texts was reported. -/
  | drained
  /-- The band was replaced. -/
  | rebanded (band : Band)
deriving DecidableEq, Repr

/-- What is known of the receiver after a tiding, and the band, given both before it. -/
def Tiding.retell : Tiding → RadioState × Band → RadioState × Band
  | .said .attached, (state, band) => ({ state with attached := true }, band)
  | .said .detached, (_, band) => ({}, band)
  | .said (.event event), (state, band) =>
    (if state.attached then state.apply band event else state, band)
  | .forgotten, (_, band) => ({}, band)
  | .drained, (state, band) => (state.takeUpdate.2, band)
  | .rebanded band, (state, _) => (state, band)

namespace Moment

/-- The tiding of an entry, given the epochs of the listeners: only the one that may speak counts.
-/
def tiding? (listeners : List Nat) (moment : Moment) : Option Tiding :=
  match moment.occurrence with
  | .hearing listener notification =>
    if listeners[listener]? = some moment.core.epoch then some (.said notification) else none
  | .forgetting => some .forgotten
  | .draining => some .drained
  | .settingBand band => some (.rebanded band)
  | _ => none

/-- What a listener says is its tiding if it may speak, and none otherwise. -/
theorem tiding?_hearing {listeners : List Nat} {moment : Moment} {listener : Nat}
    {notification : Notification} (said : moment.occurrence = .hearing listener notification) :
    moment.tiding? listeners =
      if listeners[listener]? = some moment.core.epoch then some (.said notification)
      else none := by
  rw [tiding?, said]

/-- What is known after an entry, as one listener has it over a link that is attached: an event is
folded in under the band in force at its delivery. -/
def retell (listener : Nat) (moment : Moment) (state : RadioState) : RadioState :=
  match moment.occurrence with
  | .hearing told (.event event) =>
    if told = listener then state.apply moment.core.band event else state
  | .draining => state.takeUpdate.2
  | _ => state

/-- What an entry and the core after it say of what is known, given the epochs of the listeners. -/
structure Tells (listeners : List Nat) (moment : Moment) (after : Core) : Prop where
  /-- What is known changes as the tiding has it, and else not at all. -/
  known : (after.state, after.band) =
    (moment.tiding? listeners).toList.foldr Tiding.retell (moment.core.state, moment.core.band)
  /-- No epoch begins while the link is attached. -/
  epoch : after.state.attached = true → after.epoch = moment.core.epoch
  /-- An operation is woken with an event that is reported just then. -/
  answer : ∀ event, after.waiter.bind Waiter.event? = some event →
    moment.core.waiter.bind Waiter.event? = some event ∨ moment.Reports listeners event
  /-- An event that an operation keeps in reserve was kept before, or is reported just then. -/
  spare : ∀ event, after.waiter.bind Waiter.spare = some event →
    moment.core.waiter.bind Waiter.spare = some event ∨ moment.Reports listeners event

variable {listeners : List Nat} {moment : Moment} {after : Core}

/-- An entry without a tiding, after which nothing waits but what did before or was never told
anything. -/
theorem Tells.of_quiet (silent : moment.tiding? listeners = none)
    (state : after.state = moment.core.state) (band : after.band = moment.core.band)
    (epoch : after.state.attached = true → after.epoch = moment.core.epoch)
    (waits : ∀ waiter, after.waiter = some waiter →
      moment.core.waiter = some waiter ∨ (waiter.reply = none ∧ waiter.spare = none)) :
    moment.Tells listeners after where
  known := by rw [silent, state, band]; rfl
  epoch := epoch
  answer event woken := by
    obtain ⟨waiter, waiting, answered⟩ := Option.bind_eq_some_iff.1 woken
    rcases waits waiter waiting with before | ⟨unanswered, _⟩
    · exact .inl (Option.bind_eq_some_iff.2 ⟨waiter, before, answered⟩)
    · rw [Waiter.event?, unanswered] at answered
      contradiction
  spare event kept := by
    obtain ⟨waiter, waiting, spare⟩ := Option.bind_eq_some_iff.1 kept
    rcases waits waiter waiting with before | ⟨_, unspared⟩
    · exact .inl (Option.bind_eq_some_iff.2 ⟨waiter, before, spare⟩)
    · rw [unspared] at spare
      contradiction

end Moment

/-! ## What is heard -/

namespace Core

/-- Losing the link wakes no operation with an event. -/
theorem detached_event (core : Core) : core.detached.waiter.bind Waiter.event? = none := by
  cases waiting : core.waiter <;> simp [detached, waiting, Waiter.event?]

/-- Losing the link leaves what an operation keeps in reserve. -/
theorem detached_spare (core : Core) :
    core.detached.waiter.bind Waiter.spare = core.waiter.bind Waiter.spare := by
  cases waiting : core.waiter <;> simp [detached, waiting]

end Core

/-- An operation that an event reaches is woken with that event, or has the reply it had. -/
theorem Waiter.Hears.answer {event told : Event} {waiter? waiter?' : Option Waiter}
    (hears : Waiter.Hears event waiter? waiter?')
    (woken : waiter?'.bind Waiter.event? = some told) :
    waiter?.bind Waiter.event? = some told ∨ told = event := by
  cases hears with
  | nothing => exact .inl woken
  | keeps waiter unanswered => exact .inl woken
  | wakes waiter unanswered => exact .inr (Option.some.inj woken).symm

/-- An operation that an event reaches keeps that event in reserve, or what it kept. -/
theorem Waiter.Hears.spare {event told : Event} {waiter? waiter?' : Option Waiter}
    (hears : Waiter.Hears event waiter? waiter?')
    (kept : waiter?'.bind Waiter.spare = some told) :
    waiter?.bind Waiter.spare = some told ∨ told = event := by
  cases hears with
  | nothing => exact .inl kept
  | keeps waiter unanswered => exact .inr (Option.some.inj kept).symm
  | wakes waiter unanswered => exact .inl kept

namespace Moment

variable {listeners : List Nat} {moment : Moment} {after : Core}

/-- An entry in which a listener says something tells just that. -/
theorem Dated.tells (dated : moment.Dated listeners after) (coupled : moment.core.Coupled)
    {listener : Nat} {notification : Notification}
    (said : moment.occurrence = .hearing listener notification) :
    moment.Tells listeners after := by
  have heard := dated.hearing listener notification said
  by_cases current : listeners[listener]? = some moment.core.epoch
  · have tiding : moment.tiding? listeners = some (.said notification) :=
      (tiding?_hearing said).trans (if_pos current)
    rw [current] at heard
    cases notification with
    | attached =>
      obtain rfl : after =
          { moment.core with state := { moment.core.state with attached := true } } :=
        heard.trans (if_pos rfl)
      exact ⟨by rw [tiding]; rfl, fun _ => rfl, fun _ => .inl, fun _ => .inl⟩
    | detached =>
      obtain rfl : after = moment.core.detached := heard.trans (if_pos rfl)
      refine ⟨by rw [tiding]; rfl, nofun, fun event woken => ?_, fun event kept => ?_⟩
      · exact absurd (moment.core.detached_event.symm.trans woken) nofun
      · exact .inl (moment.core.detached_spare.symm.trans kept)
    | event event =>
      obtain rfl : after = moment.core.hear moment.clock event := heard.trans (if_pos rfl)
      have known : ((moment.core.hear moment.clock event).state,
          (moment.core.hear moment.clock event).band) =
          (moment.tiding? listeners).toList.foldr Tiding.retell
            (moment.core.state, moment.core.band) := by
        rw [tiding, Core.hear_state, Core.hear_band]
        rfl
      by_cases attached : moment.core.state.attached = true
      · have reached := (coupled.hear moment.clock event).waiter
        have reports : moment.Reports listeners event := ⟨listener, said, current, attached⟩
        refine ⟨known, fun _ => Core.hear_epoch _ _ _, fun told woken => ?_, fun told kept => ?_⟩
        · exact (reached.answer woken).imp_right fun (same : told = event) => same ▸ reports
        · exact (reached.spare kept).imp_right fun (same : told = event) => same ▸ reports
      · have unheard : moment.core.hear moment.clock event = moment.core := if_neg attached
        rw [unheard] at known ⊢
        exact ⟨known, fun _ => rfl, fun _ => .inl, fun _ => .inl⟩
  · have silent : moment.tiding? listeners = none :=
      (tiding?_hearing said).trans (if_neg current)
    have unheeded : after = moment.core := by
      rw [heard]
      split
      next epoch stamped =>
        exact Core.notify_of_stale (fun same => current (stamped.trans (by rw [same]))) _ _
      next => rfl
    subst unheeded
    exact .of_quiet silent rfl rfl (fun _ => rfl) fun _ => .inl

/-- An entry tells the same whichever listeners there are, or is what one of them said. -/
def TellsOrHears (moment : Moment) (after : Core) : Prop :=
  (∃ listener notification, moment.occurrence = .hearing listener notification) ∨
    ∀ listeners, moment.Tells listeners after

/-- An entry without a tiding that leaves everything as it was tells the same whichever listeners
there are. -/
theorem TellsOrHears.of_quiet (silent : ∀ listeners, moment.tiding? listeners = none)
    (state : after.state = moment.core.state) (band : after.band = moment.core.band)
    (epoch : after.state.attached = true → after.epoch = moment.core.epoch)
    (waits : ∀ waiter, after.waiter = some waiter →
      moment.core.waiter = some waiter ∨ (waiter.reply = none ∧ waiter.spare = none)) :
    moment.TellsOrHears after :=
  .inr fun listeners => .of_quiet (silent listeners) state band epoch waits

end Moment

/-! ## Steps -/

namespace System

variable {terms : Terms} {system system' : System Unit}

/-- What anyone does tells something in one of these ways, or lets a listener say something. -/
theorem Aside.tells {unawaited : List Moment → Command → Prop}
    (taken : Aside unawaited system system') {transition : Moment × Core}
    (present : transition ∈ system'.transitions) :
    transition ∈ system.transitions ∨ transition.1.TellsOrHears transition.2 := by
  cases taken with
  | hear listener notification =>
    refine (List.mem_cons.1 present).symm.imp_right ?_
    rintro rfl
    exact .inl ⟨listener, notification, rfl⟩
  | forget =>
    refine (List.mem_cons.1 present).symm.imp_right ?_
    rintro rfl
    refine .inr fun listeners => ⟨rfl, nofun, fun event woken => ?_, fun event kept => ?_⟩
    · exact absurd (system.core.detached_event.symm.trans woken) nofun
    · exact .inl (system.core.detached_spare.symm.trans kept)
  | drain | setBand =>
    refine (List.mem_cons.1 present).symm.imp_right ?_
    rintro rfl
    exact .inr fun listeners => ⟨rfl, fun _ => rfl, fun _ => .inl, fun _ => .inl⟩
  | attach unattached =>
    refine (List.mem_cons.1 present).symm.imp_right ?_
    rintro rfl
    refine .of_quiet (fun _ => rfl) rfl rfl (fun attached => ?_) fun _ => .inl
    exact absurd (unattached.symm.trans attached) Bool.false_ne_true
  | pass | detach | submit | reach | stop =>
    refine (List.mem_cons.1 present).symm.imp_right ?_
    rintro rfl
    exact .of_quiet (fun _ => rfl) rfl rfl (fun _ => rfl) fun _ => .inl

/-- Every step tells something in one of these ways, or lets a listener say something. -/
theorem Step.tells (taken : Step terms system system') {transition : Moment × Core}
    (present : transition ∈ system'.transitions) :
    transition ∈ system.transitions ∨ transition.1.TellsOrHears transition.2 := by
  cases taken with
  | aside taken => exact taken.tells present
  | claim core claimed =>
    refine (List.mem_cons.1 present).symm.imp_right ?_
    rintro rfl
    obtain ⟨_, _, rfl⟩ := Core.claim_eq_ok claimed
    exact .of_quiet (fun _ => rfl) rfl rfl (fun _ => rfl) fun _ => .inl
  | sweep | seek =>
    refine (List.mem_cons.1 present).symm.imp_right ?_
    rintro rfl
    exact .of_quiet (fun _ => rfl) rfl rfl (fun _ => rfl) fun _ => .inl
  | release | refuse =>
    refine (List.mem_cons.1 present).symm.imp_right ?_
    rintro rfl
    exact .of_quiet (fun _ => rfl) rfl rfl (fun _ => rfl) fun _ => nofun
  | install command expected generation core busy installed =>
    obtain ⟨state, band, epoch⟩ := Core.install_known installed
    have waits : ∀ waiter, core.waiter = some waiter →
        system.core.waiter = some waiter ∨ (waiter.reply = none ∧ waiter.spare = none) := by
      intro waiter waiting
      rw [(Core.install_waiter installed).2] at waiting
      obtain ⟨tag, _, rfl⟩ := Option.map_eq_some_iff.1 waiting
      exact .inr ⟨rfl, rfl⟩
    rcases List.mem_cons.1 present with rfl | present
    · exact .inr (.of_quiet (fun _ => rfl) rfl rfl (fun _ => rfl) fun _ => .inl)
    · refine (List.mem_cons.1 present).symm.imp_right ?_
      rintro rfl
      exact .of_quiet (fun _ => rfl) state band (fun _ => epoch) waits
  | settle waiter expected busy waiting =>
    refine (List.mem_cons.1 present).symm.imp_right ?_
    rintro rfl
    obtain ⟨state, band⟩ := system.core.settle_known waiter.generation expected system.clock
      terms.timeout
    obtain ⟨idle, _⟩ := system.core.settle_idle waiter.generation expected system.clock
      terms.timeout
    refine .of_quiet (fun _ => rfl) state band (fun _ => Core.settle_epoch _ _ _ _ _)
      fun waiter waits => ?_
    exact absurd (idle.symm.trans waits) nofun

/-- Every run tells something in one of these ways at every entry, given all of its listeners. -/
theorem Steps.tells {band : Band} (taken : Steps terms (.fresh band) system) :
    ∀ transition ∈ system.transitions, transition.1.Tells system.listeners transition.2 := by
  have told : ∀ transition ∈ system.transitions, transition.1.TellsOrHears transition.2 := by
    induction taken with
    | refl => exact fun _ absent => absurd absent List.not_mem_nil
    | tail _ last before =>
      intro transition present
      rcases last.tells present with earlier | told
      · exact before transition earlier
      · exact told
  intro transition present
  rcases told transition present with ⟨listener, notification, said⟩ | told
  · have member : transition.1.core ∈ system.cores :=
      List.mem_cons_of_mem _ (List.mem_map_of_mem (List.of_mem_zip present).1)
    exact ((Steps.dated taken).dated transition present).tells
      ((Steps.accounted taken).coupled _ member) said
  · exact told system.listeners

/-- A run begins with a fresh core. -/
theorem Steps.first {band : Band} (taken : Steps terms (.fresh band) system) :
    system.cores.getLast? = some { band := band } := by
  induction taken with
  | refl => rfl
  | tail _ last before =>
    obtain ⟨moment, same, recorded | ⟨moment', same', recorded⟩⟩ := last.recorded
    · rw [cores, recorded, List.map_cons, same]
      exact before
    · rw [cores, recorded, List.map_cons, List.map_cons, same]
      exact before

end System

/-! ## Accounts -/

namespace System

variable {σ : Type} {system : System σ}

/-- The points of a run: every core that there was, with what had happened by then. -/
inductive Passed (system : System σ) : Core → List Moment → Prop
  /-- The present. -/
  | present : Passed system system.core system.history
  /-- The point at which an entry of the history was made. -/
  | past {moment : Moment} {earlier : List Moment} (before : moment :: earlier <:+ system.history) :
    Passed system moment.core earlier

variable {core : Core} {earlier : List Moment}

/-- The cores up to a point are the last of all cores. -/
theorem Passed.cores (passed : system.Passed core earlier) :
    core :: earlier.map Moment.core <:+ system.cores := by
  cases passed with
  | present => exact List.suffix_rfl
  | past before => exact (before.map Moment.core).trans (List.suffix_cons _ _)

/-- The first of the cores up to a point is the first of all cores. -/
theorem Passed.first (passed : system.Passed core earlier) :
    (core :: earlier.map Moment.core).getLast? = system.cores.getLast? := by
  obtain ⟨newer, same⟩ := passed.cores
  rw [← same, List.getLast?_append_of_ne_nil _ (List.cons_ne_nil _ _)]

/-- The transitions up to a point are the last of all transitions. -/
theorem Passed.transitions (passed : system.Passed core earlier) :
    earlier.zip (core :: earlier.map Moment.core) <:+ system.transitions := by
  have cut : ∀ (history : List Moment) (present : Core) {moment : Moment},
      moment :: earlier <:+ history →
        earlier.zip (moment.core :: earlier.map Moment.core) <:+
          history.zip (present :: history.map Moment.core) := by
    intro history
    induction history with
    | nil => exact fun _ _ before => nomatch List.suffix_nil.1 before
    | cons newest history ih =>
      intro present moment before
      rw [List.map_cons, List.zip_cons_cons]
      rcases List.suffix_cons_iff.1 before with same | within
      · obtain ⟨rfl, rfl⟩ := List.cons.inj same
        exact List.suffix_cons _ _
      · exact (ih newest.core within).trans (List.suffix_cons _ _)
  cases passed with
  | present => exact List.suffix_rfl
  | past before => exact cut _ _ before

end System

namespace Core

end Core

namespace Moment

variable {listeners : List Nat} {moment : Moment} {after : Core}

/-- While the link stays attached, what is known changes as the listener that may speak has it. -/
theorem Tells.retell (tells : moment.Tells listeners after) (distinct : listeners.Nodup)
    {listener : Nat} (current : listeners[listener]? = some moment.core.epoch)
    (attached : moment.core.state.attached = true) (attached' : after.state.attached = true) :
    after.state = moment.retell listener moment.core.state := by
  have known := congrArg Prod.fst tells.known
  have lost : after.state ≠ {} := fun blank => by
    rw [blank] at attached'
    contradiction
  cases happened : moment.occurrence with
  | hearing told notification =>
    by_cases own : told = listener
    · subst own
      have said : moment.tiding? listeners = some (.said notification) :=
        (tiding?_hearing happened).trans (if_pos current)
      rw [said] at known
      rw [Moment.retell, happened]
      cases notification with
      | attached =>
        have same : { moment.core.state with attached := true } = moment.core.state := by
          rw [← attached]
        exact known.trans same
      | detached => exact absurd known lost
      | event event => exact (known.trans (if_pos attached)).trans (if_pos rfl).symm
    · have silent : moment.tiding? listeners = none := by
        rw [tiding?, happened]
        refine if_neg fun stamped => own ?_
        have handedOut := (List.getElem?_eq_some_iff.1 stamped).1
        exact (List.getElem?_inj handedOut distinct).1 (stamped.trans current.symm)
      rw [silent] at known
      rw [Moment.retell, happened]
      cases notification with
      | attached | detached => exact known
      | event event => exact known.trans (if_neg own).symm
  | forgetting =>
    rw [tiding?, happened] at known
    exact absurd known lost
  | _ =>
    rw [tiding?, happened] at known
    rw [Moment.retell, happened]
    exact known

/-- Where a link becomes attached, the listener that may speak reports it. -/
theorem Tells.attaches (tells : moment.Tells listeners after)
    (unattached : moment.core.state.attached = false) (attached : after.state.attached = true) :
    after.state = { moment.core.state with attached := true } ∧
      ∃ listener, moment.occurrence = .hearing listener .attached ∧
        listeners[listener]? = some moment.core.epoch := by
  have known := congrArg Prod.fst tells.known
  have other : after.state ≠ moment.core.state := fun same => by
    rw [same, unattached] at attached
    contradiction
  have lost : after.state ≠ {} := fun blank => by
    rw [blank] at attached
    contradiction
  cases happened : moment.occurrence with
  | hearing told notification =>
    by_cases current : listeners[told]? = some moment.core.epoch
    · have said : moment.tiding? listeners = some (.said notification) :=
        (tiding?_hearing happened).trans (if_pos current)
      rw [said] at known
      cases notification with
      | attached => exact ⟨known, told, rfl, current⟩
      | detached => exact absurd known lost
      | event event =>
        have unheard : ¬moment.core.state.attached = true := by simp [unattached]
        exact absurd (known.trans (if_neg unheard)) other
    · have silent : moment.tiding? listeners = none :=
        (tiding?_hearing happened).trans (if_neg current)
      rw [silent] at known
      exact absurd known other
  | forgetting =>
    rw [tiding?, happened] at known
    exact absurd known lost
  | draining =>
    rw [tiding?, happened] at known
    have same : after.state.attached = moment.core.state.attached :=
      (congrArg RadioState.attached known).trans (RadioState.takeUpdate_attached _)
    rw [same, unattached] at attached
    contradiction
  | _ =>
    rw [tiding?, happened] at known
    exact absurd known other

end Moment

section Told

variable {listeners : List Nat} {history : List Moment} {present : Core}

end Told

/-- What is left when a radio was attached and then left alone, and its listener was told the same
as often as by a peer that answers every command of a power-up twice. -/
def Radio.leftAlone : System Unit :=
  let report : Notification := .event (.plainStatus ⟨9870⟩ true false)
  (Radio.ofPeer {} (.insistent (.plainStatus ⟨9870⟩ true false)) 0).played
    (.call .attach fun _ =>
      .notify 0 report (.notify 0 report (.notify 0 report (.notify 0 report
        (.notify 0 report (.notify 0 report (.finish .ok)))))))
    { core := { band := Settings.band {} }, peer := () }

end Tuner
