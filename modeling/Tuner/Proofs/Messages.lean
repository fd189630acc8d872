import Tuner.Form.Command
import Tuner.Form.Event
import Tuner.Proofs.Forms
import Tuner.Proofs.Rereading

/-!
# Messages on the link

Commands and events are written by name, with an object of their parameters or fields unless there
are none. The name decides which fields are asked for, every field is found under its own name, and
each is lawful by itself. So every message is read from what is written for it, as a value and as
text, and no two messages are written alike.

Reading accepts more than that: further members, members in any order, an optional field that is
left out, a name with nothing for its content, and from a text also the parameters or fields in
order, as an array. Whatever it accepts, it never takes a mask that stands for no functionality.

Main statement: `Form.messages_reread`.
-/
namespace Tuner

namespace Form

/-- A tagged value is a variant with a content. -/
@[simp] theorem variant?_tagged (name : String) (content : Json) :
    variant? (.tagged name content) = some (name, some content) := rfl

/-- Only a tagged value is a variant with a content. -/
theorem eq_tagged_of_variant? {json content : Json} {name : String}
    (read : variant? json = some (name, some content)) : json = .tagged name content := by
  unfold variant? at read
  split at read
  · cases read
  · cases read
    rfl
  · contradiction

/-- A field is found under its name among the fields that were given. -/
theorem mem_of_required {α : Type} [Form α] {fields : Fields} {name : String} {value : α}
    (read : fields.required name = some value) :
    ∃ json, (name, json) ∈ fields.given ∧ decodeFrom? fields.source json = some value := by
  obtain ⟨json, found, decoded⟩ := Option.bind_eq_some_iff.1 read
  obtain ⟨before, after, split, _⟩ := List.lookup_eq_some_iff.1 found
  refine ⟨json, ?_, decoded⟩
  rw [split]
  exact List.mem_append_right _ List.mem_cons_self

/-- The fields that were given come from a member each. -/
theorem of_memberFields? {source : Source} {names : List String} {content : Json}
    {fields : Fields} (given : memberFields? source names content = some fields) :
    fields.source = source ∧ ∃ members, content = .object members ∧ fields.given ⊆ members := by
  unfold memberFields? at given
  split at given
  next members =>
    dsimp only at given
    split at given
    next =>
      obtain rfl := Option.some.inj given
      exact ⟨rfl, members, rfl, List.filter_subset_self _⟩
    next => contradiction
  next => contradiction

/-- The fields of a variant come from a member each, or from a text that gives them in order. -/
theorem of_variantFields? {source : Source} {names : List String} {content : Json}
    {fields : Fields} (given : variantFields? source names content = some fields) :
    fields.source = source ∧
      ((∃ members, content = .object members ∧ fields.given ⊆ members) ∨
        source = .text ∧ ∃ items, content = .array items ∧ items.length ≤ names.length ∧
          fields.given = names.zip items) := by
  cases source with
  | value =>
    obtain ⟨same, members⟩ := of_memberFields? given
    exact ⟨same, .inl members⟩
  | text =>
    unfold variantFields? at given
    dsimp only at given
    unfold fields? at given
    split at given
    next items =>
      split at given
      next few =>
        obtain rfl := Option.some.inj given
        exact ⟨rfl, .inr ⟨rfl, items, rfl, few, rfl⟩⟩
      next => contradiction
    next =>
      obtain ⟨same, members⟩ := of_memberFields? given
      exact ⟨same, .inl members⟩

/-- The only field of a variant was given by name, or in a text as the only item of an array. -/
theorem given_of_required {α : Type} [Form α] {source : Source} {name : String} {content : Json}
    {fields : Fields} {value : α} (given : variantFields? source [name] content = some fields)
    (read : fields.required name = some value) :
    ∃ json, decodeFrom? source json = some value ∧
      ((∃ members, content = .object members ∧ (name, json) ∈ members) ∨
        source = .text ∧ content = .array [json]) := by
  obtain ⟨json, among, decoded⟩ := mem_of_required read
  obtain ⟨same, ⟨members, rfl, listed⟩ | ⟨fromText, items, rfl, few, zipped⟩⟩ :=
    of_variantFields? given
  · exact ⟨json, same ▸ decoded, .inl ⟨members, rfl, listed among⟩⟩
  · refine ⟨json, same ▸ decoded, .inr ⟨fromText, ?_⟩⟩
    rw [zipped] at among
    match items, few with
    | [item], _ =>
      obtain rfl : json = item := by simpa using among
      rfl

/-- A mask that is read is written as a number, and stands for the functionality it is read as. -/
theorem mask_of_decode? {source : Source} {json : Json} {functionality : Functionality}
    (read : decodeFrom? source json = some functionality) :
    ∃ bits : UInt16, json = encode bits ∧ Functionality.ofBits bits = .ok functionality := by
  obtain ⟨bits, number, accepted⟩ := Option.bind_eq_some_iff.1 read
  have same : json = encode bits := by
    refine encode_of_range (fun number low high => ?_) number
    have small : number.toNat < 2 ^ 16 := by omega
    change ((UInt16.ofNat number.toNat).toNat : Int) = number
    rw [UInt16.toNat_ofNat_of_lt' small]
    omega
  refine ⟨bits, same, ?_⟩
  cases ofBits : Functionality.ofBits bits with
  | error cause =>
    rw [ofBits] at accepted
    contradiction
  | ok other =>
    rw [ofBits] at accepted
    obtain rfl := Option.some.inj accepted
    rfl

end Form

/-! ## Commands -/

namespace Command

/-- A name stands for a command by itself if that has no parameters. -/
theorem ofBareName?_formName (command : Command) :
    ofBareName? command.formName = if command.isBare then some command else none := by
  cases command <;> simp [ofBareName?, formName, isBare]

/-- A command with parameters is read from its name and its parameters. -/
theorem ofContent?_members {command : Command} (full : command.isBare = false)
    (source : Form.Source) :
    ofContent? source command.formName (.object command.members) = some command := by
  cases command with
  | turnOff | getStatus | abortSeek => contradiction
  | setRds setting =>
    simp [formName, members, ofContent?, settingOfContent?, Form.variantFields?_object]
  | seekRange range =>
    simp [formName, members, ofContent?, rangeOfContent?, Form.variantFields?_object]
  | _ => simp [formName, members, ofContent?, Form.variantFields?_object]

/-- How a command is read: a name without parameters stands for itself, and any other has them as
its content. -/
theorem decodeFrom?_eq (source : Form.Source) (json : Json) :
    (decodeFrom? source json : Option Command) = (Form.variant? json).bind fun variant =>
      match ofBareName? variant.1 with
      | some command => if Form.isBare variant.2 then some command else none
      | none => variant.2.bind (ofContent? source variant.1) := rfl

instance : Form.Lawful Command where
  decode_encode source command := by
    rw [decodeFrom?_eq]
    cases bare : command.isBare with
    | true =>
      have written : encode command = .string command.formName := if_pos bare
      rw [written]
      simp [Form.variant?, ofBareName?_formName, bare, Form.isBare]
    | false =>
      have written : encode command = .tagged command.formName (.object command.members) :=
        if_neg (by simp [bare])
      rw [written]
      simp [ofBareName?_formName, bare, ofContent?_members bare]

/-- All numbers among the parameters are whole. -/
theorem members_whole (command : Command) :
    ∀ member ∈ command.members, member.2.tokens.all Json.Token.isWhole = true := by
  have all : (command.members.all fun member => member.2.tokens.all Json.Token.isWhole) = true := by
    cases command with
    | seek mode | seekRds mode => cases mode <;> rfl
    | _ => rfl
  exact List.all_eq_true.1 all

/-- A command is read from what is printed for it. -/
theorem ofString?_pretty (command : Command) :
    Json.ofString? (encode command).pretty = some (encode command) := by
  apply Json.ofString?_pretty
  cases bare : command.isBare with
  | true =>
    have written : encode command = .string command.formName := if_pos bare
    rw [written]
    rfl
  | false =>
    have written : encode command = .tagged command.formName (.object command.members) :=
      if_neg (by simp [bare])
    rw [written]
    exact Json.isWhole_object
      (List.forall_mem_singleton.2 (Json.isWhole_object command.members_whole))

/-- Only what turns the radio on is read under its name. -/
theorem name_of_turnOn {source : Form.Source} {name : String} {content : Json}
    {functionality : Functionality}
    (read : ofContent? source name content = some (turnOn functionality)) :
    name = "TurnOn" := by
  unfold ofContent? at read
  split at read
  case h_1 => rfl
  all_goals simp [Option.bind_eq_some_iff] at read

/-- Under the name of what turns the radio on a mask is asked for. -/
theorem ofContent?_turnOn (source : Form.Source) (content : Json) :
    ofContent? source "TurnOn" content =
      (Form.variantFields? source ["functionality"] content).bind fun fields =>
        (fields.required "functionality").map turnOn := by
  simp only [ofContent?, bind, Option.map_eq_bind]
  rfl

/-- What turns the radio on is read from a mask that stands for what is asked for. -/
theorem mask_of_turnOn {source : Form.Source} {json : Json} {functionality : Functionality}
    (read : decodeFrom? source json = some (turnOn functionality)) :
    ∃ content bits, json = .tagged "TurnOn" content ∧
      ((∃ members, content = .object members ∧ ("functionality", encode bits) ∈ members) ∨
        source = .text ∧ content = .array [encode bits]) ∧
      Functionality.ofBits bits = .ok functionality := by
  rw [decodeFrom?_eq] at read
  obtain ⟨⟨name, content⟩, variant, read⟩ := Option.bind_eq_some_iff.1 read
  dsimp only at read
  cases bare : ofBareName? name with
  | some command =>
    have unasked : command ≠ turnOn functionality := by
      rintro rfl
      unfold ofBareName? at bare
      split at bare <;> cases bare
    rw [bare] at read
    dsimp only at read
    split at read
    · exact absurd (Option.some.inj read) unasked
    · contradiction
  | none =>
    rw [bare] at read
    obtain ⟨content, rfl, asked⟩ := Option.bind_eq_some_iff.1 read
    obtain rfl := name_of_turnOn asked
    rw [ofContent?_turnOn] at asked
    obtain ⟨fields, given, asked⟩ := Option.bind_eq_some_iff.1 asked
    obtain ⟨mask, found, same⟩ := Option.map_eq_some_iff.1 asked
    obtain rfl := turnOn.inj same
    obtain ⟨mask, decoded, given⟩ := Form.given_of_required given found
    obtain ⟨bits, rfl, accepted⟩ := Form.mask_of_decode? decoded
    exact ⟨content, bits, Form.eq_tagged_of_variant? variant, given, accepted⟩

end Command

/-! ## Events -/

namespace Event

/-- A kind of event is known by its name. -/
theorem ofName?_name (kind : Tag) : Named.ofName? (name kind) = some kind := by
  cases kind <;> decide

/-- An event is read from its kind and its fields. -/
theorem ofContent?_members (source : Form.Source) (event : Event) :
    ofContent? source event.tag (.object event.members) = some event := by
  cases event with
  | status report =>
    simp [tag, members, StatusReport.members, ofContent?, StatusReport.ofContent?,
      Form.variantFields?_object]
  | seekComplete report =>
    simp [tag, members, SeekReport.members, ofContent?, SeekReport.ofContent?,
      Form.variantFields?_object]
  | _ => simp [tag, members, ofContent?, Form.variantFields?_object]

instance : Form.Lawful Event where
  decode_encode source event := by
    change (Named.ofName? (name event.tag)).bind (fun kind =>
      (some (Json.object event.members)).bind (ofContent? source kind)) = _
    rw [ofName?_name, Option.bind_some, Option.bind_some, ofContent?_members]

/-- All numbers among the fields are whole. -/
theorem members_whole (event : Event) :
    ∀ member ∈ event.members, member.2.tokens.all Json.Token.isWhole = true := by
  have all : (event.members.all fun member => member.2.tokens.all Json.Token.isWhole) = true := by
    cases event with
    | status report =>
      obtain ⟨_, _, _, _, _, programService, radioText, programTypeName, _⟩ := report
      cases programService <;> cases radioText <;> cases programTypeName <;> rfl
    | rdsData field => cases field <;> rfl
    | _ => rfl
  exact List.all_eq_true.1 all

/-- An event is read from what is printed for it. -/
theorem ofString?_pretty (event : Event) :
    Json.ofString? (encode event).pretty = some (encode event) :=
  Json.ofString?_pretty (Json.isWhole_object
    (List.forall_mem_singleton.2 (Json.isWhole_object event.members_whole)))

end Event

/-- Commands and events are read from what is written for them, as values and from their text, and
no two are written alike. Whatever else is read as a command or an event, from a value or from a
text, it is read again from what is then written for it. What turns the radio on is only ever read
from a mask that is accepted, whether it was given by name or, in a text, by its place. -/
theorem Form.messages_reread :
    (∀ command : Command, (∀ source, decodeFrom? source (encode command) = some command) ∧
      (Json.ofString? (encode command).pretty).bind (decodeFrom? .text) = some command) ∧
    (∀ event : Event, (∀ source, decodeFrom? source (encode event) = some event) ∧
      (Json.ofString? (encode event).pretty).bind (decodeFrom? .text) = some event) ∧
    Function.Injective (encode : Command → Json) ∧ Function.Injective (encode : Event → Json) ∧
    (∀ (source : Source) (json : Json) (command : Command),
      decodeFrom? source json = some command →
        (∀ other, decodeFrom? other (encode command) = some command) ∧
        ∀ functionality, command = .turnOn functionality →
          ∃ content bits, json = .tagged "TurnOn" content ∧
            ((∃ members, content = .object members ∧ ("functionality", encode bits) ∈ members) ∨
              source = .text ∧ content = .array [encode bits]) ∧
            Functionality.ofBits bits = .ok functionality ∧ functionality.bits = bits) ∧
    ∀ (source : Source) (json : Json) (event : Event), decodeFrom? source json = some event →
      ∀ other, decodeFrom? other (encode event) = some event := by
  have commands : ∀ (command : Command) (source : Source),
      decodeFrom? source (encode command) = some command :=
    fun command source => Lawful.decode_encode source command
  have events : ∀ (event : Event) (source : Source),
      decodeFrom? source (encode event) = some event :=
    fun event source => Lawful.decode_encode source event
  refine ⟨fun command => ⟨commands command, ?_⟩, fun event => ⟨events event, ?_⟩,
    Lawful.encode_injective, Lawful.encode_injective, fun source json command read => ?_,
    fun _ _ event _ => events event⟩
  · rw [command.ofString?_pretty, Option.bind_some, commands]
  · rw [event.ofString?_pretty, Option.bind_some, events]
  · refine ⟨commands command, ?_⟩
    rintro functionality rfl
    obtain ⟨content, bits, same, given, accepted⟩ := Command.mask_of_turnOn read
    have own := Functionality.ofBits_eq_ok_iff.1 accepted
    exact ⟨content, bits, same, given, accepted, own⟩

/-- What turns the radio on, with a member that is ignored. -/
def Command.embellished : Json :=
  .tagged "TurnOn" (.object [("comment", .null), ("functionality", .nat 352)])

/-- What turns the radio on, with its parameter in its place. -/
def Command.terse : Json := .tagged "TurnOn" (.array [.nat 352])

/-- Both spellings are read from a text as they are meant, the terse one from a text only, and what
they mean is read again from what is written for it. The mask in the terse one is one that is
accepted. The report of a seek is read from what is written for it as well. -/
theorem Form.messages_reread_embellished :
    decode? Command.embellished = some (Command.turnOn .powerUp) ∧
      decode? (encode (Command.turnOn .powerUp)) = some (Command.turnOn .powerUp) ∧
      decodeFrom? .text Command.terse = some (Command.turnOn .powerUp) ∧
      (decode? Command.terse : Option Command) = none ∧
      (∃ bits, Command.terse = .tagged "TurnOn" (.array [encode bits]) ∧
        Functionality.ofBits bits = .ok .powerUp) ∧
      decode? (encode (Event.found ⟨9870⟩)) = some (Event.found ⟨9870⟩) := by
  have read : decode? Command.embellished = some (Command.turnOn .powerUp) := by rfl
  have readText : decodeFrom? .text Command.terse = some (Command.turnOn .powerUp) := by rfl
  obtain ⟨_, _, _, _, commands, events⟩ := Form.messages_reread
  obtain ⟨again, _⟩ := commands .value _ _ read
  obtain ⟨_, masks⟩ := commands .text _ _ readText
  obtain ⟨content, bits, same, given, accepted, _⟩ := masks .powerUp rfl
  have written : Command.terse = .tagged "TurnOn" (.array [encode bits]) := by
    rcases given with ⟨members, rfl, _⟩ | ⟨_, rfl⟩
    · cases same
    · exact same
  exact ⟨read, again .value, readText, rfl, ⟨bits, written, accepted⟩,
    events .value (encode (Event.found ⟨9870⟩)) _ (by rfl) .value⟩

end Tuner
