import Tuner.Proofs.Forms
import Tuner.Proofs.Rereading
import Tuner.Settings.File

/-!
# What is written to settings files

Settings that pass the check are read from the text that is written for them, and those that do not
are refused for what is wrong with them. A file may also be rewritten by hand: its fields may come
in any order, and those that have their defaults may be left out.

Main statement: `Settings.written_read`.
-/
namespace Tuner

namespace Settings

/-- The members of the object that is written for settings. -/
def saved (settings : Settings) : List (String × Json) :=
  [("region", encode settings.region), ("band", encode settings.band?),
    ("command_timeout_ms", encode settings.timeoutMs),
    ("functionality", encode settings.functionality),
    ("audio_path", encode settings.audioPath), ("volume", encode settings.volume),
    ("min_signal_strength", encode settings.minSignal),
    ("af_threshold", encode settings.afThreshold),
    ("scan_method", encode settings.scanMethod)]

/-- The settings are written with these members. -/
theorem encode_eq (settings : Settings) : encode settings = .object settings.saved := rfl

/-- Each field is written once. -/
theorem saved_distinct (settings : Settings) : (settings.saved.map Prod.fst).Nodup := by
  change fieldNames.Nodup
  decide

/-- What the members say of settings, if nothing is left out but what has its default. -/
def Abridged (settings : Settings) (members : List (String × Json)) : Prop :=
  Form.Abridges members settings.saved ({} : Settings).saved

variable {settings : Settings} {members : List (String × Json)}

/-- The settings are read from such members. -/
theorem decode_of_abridged (abridged : settings.Abridged members) :
    decodeFrom? .text (.object members) = some settings := by
  have names : members.map Prod.fst ⊆ fieldNames := by
    intro name named
    obtain ⟨member, among, rfl⟩ := List.mem_map.1 named
    exact List.mem_map_of_mem (abridged.subset among)
  have fields : Form.fields? .text fieldNames (.object members) =
      some ⟨members, false, .text⟩ :=
    Form.fields?_object names (abridged.distinct settings.saved_distinct) .text
  have read {α : Type} [Form α] [Form.Lawful α] (name : String) (value default : α)
      (member : (name, encode value) ∈ settings.saved)
      (member' : (name, encode default) ∈ ({} : Settings).saved) :
      (⟨members, false, .text⟩ : Form.Fields).withDefault name default = some value :=
    abridged.withDefault settings.saved_distinct (saved_distinct _) member member'
  have region := read "region" settings.region Region.na (by simp [saved]) (by simp [saved])
  have band := read "band" settings.band? none (by simp [saved]) (by simp [saved])
  have timeoutMs :=
    read "command_timeout_ms" settings.timeoutMs 5000 (by simp [saved]) (by simp [saved])
  have functionality :=
    read "functionality" settings.functionality .powerUp (by simp [saved]) (by simp [saved])
  have audioPath :=
    read "audio_path" settings.audioPath .digital (by simp [saved]) (by simp [saved])
  have volume := read "volume" settings.volume maxVolume (by simp [saved]) (by simp [saved])
  have minSignal :=
    read "min_signal_strength" settings.minSignal defaultMinSignal (by simp [saved])
      (by simp [saved])
  have afThreshold :=
    read "af_threshold" settings.afThreshold defaultMinSignal (by simp [saved]) (by simp [saved])
  have scanMethod :=
    read "scan_method" settings.scanMethod .normal (by simp [saved]) (by simp [saved])
  change (Form.fields? .text fieldNames (.object members)).bind _ = _
  rw [fields, Option.bind_some]
  change ((⟨members, false, .text⟩ : Form.Fields).withDefault "region" Region.na).bind _ = _
  rw [region, band, timeoutMs, functionality, audioPath, volume, minSignal, afThreshold, scanMethod]
  rfl

/-- All numbers among the members are whole. -/
theorem saved_whole (settings : Settings) :
    ∀ member ∈ settings.saved, member.2.tokens.all Json.Token.isWhole = true := by
  have band : (encode settings.band?).tokens.all Json.Token.isWhole = true := by
    cases settings.band? <;> rfl
  unfold saved
  simp only [List.forall_mem_cons]
  exact ⟨rfl, band, rfl, rfl, rfl, rfl, rfl, rfl, rfl, List.forall_mem_nil _⟩

/-- An object of such members is read from what is printed for it. -/
theorem ofString?_of_abridged (abridged : settings.Abridged members) :
    Json.ofString? (Json.object members).pretty = some (.object members) :=
  Json.ofString?_pretty (Json.isWhole_object fun member among =>
    settings.saved_whole member (abridged.subset among))

/-- The members that are written for settings leave nothing out. -/
theorem abridged_saved (settings : Settings) : settings.Abridged settings.saved where
  kept := ⟨settings.saved, .refl _, .refl _⟩
  omitted _ member omitted := absurd member omitted

/-- What is written for settings is read as the settings, before they are checked. -/
theorem decode_text (settings : Settings) :
    (Json.ofString? settings.text).bind (decodeFrom? .text) = some settings := by
  have read := ofString?_of_abridged settings.abridged_saved
  rw [text, encode_eq, read, Option.bind_some, decode_of_abridged settings.abridged_saved]

/-- Settings that pass the check are read from the text that is written for them, and others are
refused with what the check finds. So whatever settings are read from a text, they are read again
from their own text. Settings that pass the check are also read from a text that has their members
in any order and without some that have their defaults, however it is laid out. -/
theorem written_read :
    (∀ settings : Settings, settings.validate = .ok () → ofText settings.text = .ok settings) ∧
    (∀ (settings : Settings) (cause : ParameterFault), settings.validate = .error cause →
      ofText settings.text = .error (.invalid cause)) ∧
    (∀ (text : String) (settings : Settings), ofText text = .ok settings →
      ofText settings.text = .ok settings) ∧
    ∀ (settings : Settings) (members : List (String × Json)), settings.validate = .ok () →
      settings.Abridged members →
      ofText (Json.object members).pretty = .ok settings ∧
        ∀ text, Json.ofString? text = some (.object members) → ofText text = .ok settings := by
  have written : ∀ settings : Settings, settings.validate = .ok () →
      ofText settings.text = .ok settings :=
    fun settings valid => ofText_eq_ok_iff.2 ⟨settings.decode_text, valid⟩
  refine ⟨written, fun settings cause invalid => ?_, fun text settings accepted => ?_,
    fun settings members valid abridged => ?_⟩
  · rw [ofText, settings.decode_text]
    dsimp only
    rw [invalid]
  · exact written settings (ofText_eq_ok_iff.1 accepted).2
  · have accepts : ∀ text, Json.ofString? text = some (.object members) →
        ofText text = .ok settings := by
      intro text read
      refine ofText_eq_ok_iff.2 ⟨?_, valid⟩
      rw [read, Option.bind_some, decode_of_abridged abridged]
    exact ⟨accepts _ (ofString?_of_abridged abridged), accepts⟩

/-- Settings for another region, with a band of its own and a lower volume. -/
def abroad : Settings := { region := .jp, band? := some (Band.preset .jp), volume := 20 }

/-- What is not as usual about them, in reverse. -/
def abroadMembers : List (String × Json) :=
  [("volume", encode abroad.volume), ("band", encode abroad.band?),
    ("region", encode abroad.region)]

/-- Everything else has its default. -/
theorem abroad_abridged : abroad.Abridged abroadMembers := by
  refine ⟨⟨abroadMembers.reverse, (List.reverse_perm _).symm, ?_⟩, fun member saved omitted => ?_⟩
  · exact .cons_cons _ (.cons_cons _ (.cons _ (.cons _ (.cons _ (.cons_cons _
      (List.nil_sublist _))))))
  · simp only [Settings.saved, abroadMembers, List.mem_cons, not_or] at saved omitted ⊢
    obtain ⟨volume, band, region, _⟩ := omitted
    rcases saved with rfl | rfl | rfl | rfl | rfl | rfl | rfl | rfl | rfl | nothing
    · exact absurd rfl region
    · exact absurd rfl band
    · simp [abroad]
    · simp [abroad]
    · simp [abroad]
    · exact absurd rfl volume
    · simp [abroad]
    · simp [abroad]
    · simp [abroad]
    · exact absurd nothing List.not_mem_nil

/-- Those settings are read from this file, too, while a deadline of zero is found when it is read.
-/
theorem written_read_abroad :
    ofText abroad.text = .ok abroad ∧ ofText (Json.object abroadMembers).pretty = .ok abroad ∧
      ofText (text { timeoutMs := 0 }) =
        .error (.invalid (.outOfRange "command timeout is zero")) := by
  obtain ⟨written, refused, _, abridged⟩ := written_read
  exact ⟨written abroad rfl, (abridged abroad abroadMembers rfl abroad_abridged).1,
    refused { timeoutMs := 0 } _ rfl⟩

end Settings

end Tuner
