import Mathlib.Data.List.Nodup
import Tuner.Code.Audio
import Tuner.Form.Code

/-!
# Lawful forms

What is written in the form of a type is read as the value it was written for. For a structure this
holds field by field, and no matter in which order its fields are given, and it still holds when
fields are left out that have the values they have by default.

Main statement: `Form.Fields.withDefault_of_abridges`.
-/
namespace Tuner

namespace Form

/-- A whole number is read as it was written if it lies between the bounds of its type. -/
theorem range_decode_encode {α : Type} {low high : Int} {toInt : α → Int} {ofInt : Int → α}
    (bounded : ∀ value, low ≤ toInt value ∧ toInt value ≤ high)
    (inverse : ∀ value, ofInt (toInt value) = value) (source : Source) (value : α) :
    (range low high toInt ofInt).decodeFrom? source ((range low high toInt ofInt).encode value) =
      some value := by
  change (if low ≤ toInt value ∧ toInt value ≤ high then some (ofInt (toInt value)) else none) = _
  rw [if_pos (bounded value), inverse]

instance : Lawful UInt8 where
  decode_encode := range_decode_encode
    (fun value => by have bound := value.toNat_lt; omega) fun _ => UInt8.ofNat_toNat

instance : Lawful UInt16 where
  decode_encode := range_decode_encode
    (fun value => by have bound := value.toNat_lt; omega) fun _ => UInt16.ofNat_toNat

instance : Lawful UInt32 where
  decode_encode := range_decode_encode
    (fun value => by have bound := value.toNat_lt; omega) fun _ => UInt32.ofNat_toNat

instance : Lawful UInt64 where
  decode_encode := range_decode_encode
    (fun value => by have bound := value.toNat_lt; omega) fun _ => UInt64.ofNat_toNat

instance : Lawful Int32 where
  decode_encode := range_decode_encode
    (fun value => by have low := value.le_toInt; have high := value.toInt_lt; omega)
    fun value => value.ofInt_toInt

/-- What is read as a whole number is written just so. -/
theorem encode_of_range {α : Type} {low high : Int} {toInt : α → Int} {ofInt : Int → α}
    (inverse : ∀ number, low ≤ number → number ≤ high → toInt (ofInt number) = number)
    {source : Source} {json : Json} {value : α}
    (read : (range low high toInt ofInt).decodeFrom? source json = some value) :
    json = (range low high toInt ofInt).encode value := by
  cases json with
  | number numeral =>
    cases numeral with
    | integer number =>
      change (if low ≤ number ∧ number ≤ high then some (ofInt number) else none) =
        some value at read
      by_cases bounded : low ≤ number ∧ number ≤ high
      · rw [if_pos bounded] at read
        obtain rfl := Option.some.inj read
        have same := inverse number bounded.1 bounded.2
        exact congrArg (Json.number ∘ Json.Number.integer) same.symm
      · rw [if_neg bounded] at read
        contradiction
    | decimal => contradiction
  | _ => contradiction

instance : Lawful Bool where
  decode_encode _ _ := rfl

instance : Lawful String where
  decode_encode _ _ := rfl

/-- No two values are written alike. -/
theorem Lawful.encode_injective {α : Type} [Form α] [Lawful α] :
    Function.Injective (encode : α → Json) := by
  intro value other same
  have read : some value = some other := by
    rw [← Lawful.decode_encode .value value, same, Lawful.decode_encode]
  exact Option.some.inj read

/-- A value with a name is read as it was written if its name stands for it. -/
theorem named_decode_encode {α : Type} [Named α]
    (named : ∀ value : α, Named.ofName? (name value) = some value) : Lawful α where
  decode_encode _ := named

instance : Lawful Region := named_decode_encode fun value => by cases value <;> decide

instance : Lawful Deemphasis := named_decode_encode fun value => by cases value <;> decide

instance : Lawful AudioPath := named_decode_encode fun value => by cases value <;> decide

instance : Lawful SeekMethod := named_decode_encode fun value => by cases value <;> decide

instance : Lawful Direction := named_decode_encode fun value => by cases value <;> decide

instance : Lawful StepSize := named_decode_encode fun value => by cases value <;> decide

instance : Lawful AudioMode := named_decode_encode fun value => by cases value <;> decide

instance : Lawful FloorPrecision := named_decode_encode fun value => by cases value <;> decide

instance : Lawful RdsMode := named_decode_encode fun value => by cases value <;> decide

instance : Lawful AfMode := named_decode_encode fun value => by cases value <;> decide

instance : Lawful RdsCondition := named_decode_encode fun value => by cases value <;> decide

instance : Lawful SeekMode where
  decode_encode source mode := by
    cases mode with
    | full => rfl
    | seek direction method => cases source <;> cases direction <;> cases method <;> rfl

instance : Lawful RdsField where
  decode_encode source field := by
    cases field with
    | other code =>
      change (decodeFrom? source (encode code)).map RdsField.other = _
      rw [Lawful.decode_encode]
      rfl
    | _ => rfl

instance : Lawful RdsFeatures where
  decode_encode source features := by
    change (decodeFrom? source (encode features.bits)).map RdsFeatures.mk = _
    rw [Lawful.decode_encode]
    rfl

instance : Lawful Frequency where
  decode_encode source frequency := by
    change (decodeFrom? source (encode frequency.units)).map Frequency.mk = _
    rw [Lawful.decode_encode]
    rfl

end Form

namespace Functionality

/-- The mask of a functionality is that of no other. -/
theorem ofBits_bits (functionality : Functionality) :
    ofBits functionality.bits = .ok functionality := by
  obtain ⟨region, standard, af, softMute⟩ := functionality
  cases region <;> cases standard <;> cases af <;> cases softMute <;> decide

variable {bits : UInt16} {functionality : Functionality}

/-- A mask with a bit above the ninth is refused. -/
theorem lt_of_ofBits (accepted : ofBits bits = .ok functionality) : bits.toNat < 512 := by
  have defined : bits &&& ~~~(0x177 : UInt16) = 0 := by
    by_contra undefined
    simp [ofBits, undefined] at accepted
  have undefined : bits.toNat &&& 65160 = 0 := congrArg UInt16.toNat defined
  have high : bits.toNat >>> 9 &&& 127 = 0 := by
    rw [show 127 = 65160 >>> 9 by rfl, ← Nat.shiftRight_and_distrib, undefined]
    rfl
  rw [Nat.and_two_pow_sub_one_eq_mod _ 7, Nat.shiftRight_eq_div_pow] at high
  have bound := bits.toNat_lt
  omega

/-- Any other mask that is accepted is that of the functionality it stands for. -/
theorem bits_of_ofBits_of_lt : ∀ value < 512,
    ∀ functionality ∈ (ofBits (UInt16.ofNat value)).toOption,
      functionality.bits = UInt16.ofNat value := by
  decide +kernel

/-- A mask is accepted exactly if it is that of a functionality. -/
theorem ofBits_eq_ok_iff : ofBits bits = .ok functionality ↔ functionality.bits = bits := by
  constructor
  · intro accepted
    have same := bits_of_ofBits_of_lt _ (lt_of_ofBits accepted) functionality
    rw [UInt16.ofNat_toNat, accepted] at same
    exact same rfl
  · rintro rfl
    exact functionality.ofBits_bits

end Functionality

namespace Form

instance : Lawful Functionality where
  decode_encode source functionality := by
    change ((decodeFrom? source (encode functionality.bits)).bind fun bits =>
      (Functionality.ofBits bits).toOption) = _
    rw [Lawful.decode_encode, Option.bind_some, Functionality.ofBits_bits]
    rfl

/-- A value that may be absent is read as it was written, if no value is written like an absent one.
-/
theorem option_decode_encode {α : Type} [Form α] [Lawful α]
    (present : ∀ value : α, encode value ≠ Json.null) : Lawful (Option α) where
  decode_encode source value := by
    have read : ∀ json : Json, json ≠ .null →
        (decodeFrom? source json : Option (Option α)) =
          (decodeFrom? source json : Option α).map some := by
      intro json given
      cases json with
      | null => contradiction
      | _ => rfl
    cases value with
    | none => rfl
    | some value =>
      change (decodeFrom? source (encode value) : Option (Option α)) = _
      rw [read _ (present value), Lawful.decode_encode]
      rfl

instance : Lawful (Option String) := option_decode_encode nofun

/-! ## Structures -/

/-- The members of an object are its fields if their names are among those of the fields, each
once. -/
theorem memberFields?_object {names : List String} {members : List (String × Json)}
    (known : members.map Prod.fst ⊆ names) (distinct : (members.map Prod.fst).Nodup)
    (source : Source) :
    memberFields? source names (.object members) = some ⟨members, false, source⟩ := by
  have kept : members.filter (fun member => names.contains member.1) = members :=
    List.filter_eq_self.2 fun member among =>
      List.contains_iff_mem.2 (known (List.mem_map_of_mem among))
  rw [memberFields?, kept, if_pos distinct]

/-- The fields of a structure are the members of its object. -/
theorem fields?_object {names : List String} {members : List (String × Json)}
    (known : members.map Prod.fst ⊆ names) (distinct : (members.map Prod.fst).Nodup)
    (source : Source) :
    fields? source names (.object members) = some ⟨members, false, source⟩ := by
  rw [fields?]
  · exact memberFields?_object known distinct source
  · nofun

/-- The fields of a variant are the members of its object. -/
theorem variantFields?_object {names : List String} {members : List (String × Json)}
    (known : members.map Prod.fst ⊆ names) (distinct : (members.map Prod.fst).Nodup)
    (source : Source) :
    variantFields? source names (.object members) = some ⟨members, false, source⟩ := by
  cases source with
  | value => exact memberFields?_object known distinct .value
  | text => exact fields?_object known distinct .text

/-- A member is found under its name, if no other has that. -/
theorem lookup_of_mem {members : List (String × Json)} {name : String} {value : Json}
    (distinct : (members.map Prod.fst).Nodup) (member : (name, value) ∈ members) :
    members.lookup name = some value := by
  obtain ⟨before, after, rfl⟩ := List.append_of_mem member
  refine List.lookup_eq_some_iff.2 ⟨before, after, rfl, fun other earlier => ?_⟩
  rw [List.map_append, List.map_cons, List.nodup_append] at distinct
  have apart := distinct.2.2 other.1 (List.mem_map_of_mem earlier) name List.mem_cons_self
  exact bne_iff_ne.2 apart.symm

namespace Fields

variable {α : Type} [Form α] {source : Source} {members : List (String × Json)} {name : String}
  {value : α}

/-- The first field is read as it was written. -/
@[simp] theorem required_first [Lawful α] (inOrder : Bool) :
    (⟨(name, encode value) :: members, inOrder, source⟩ : Fields).required name = some value := by
  simp [required, Lawful.decode_encode]

/-- The first field is not taken for another. -/
@[simp] theorem required_later {other : String} (apart : name ≠ other) (json : Json)
    (inOrder : Bool) :
    (⟨(other, json) :: members, inOrder, source⟩ : Fields).required name =
      ((⟨members, inOrder, source⟩ : Fields).required name : Option α) := by
  simp [required, List.lookup_cons, beq_false_of_ne apart]

/-- The first field is found where fields may be left out. -/
@[simp] theorem optional_first {value : Option α} [Lawful (Option α)] (inOrder : Bool) :
    (⟨(name, encode value) :: members, inOrder, source⟩ : Fields).optional name = some value := by
  simp [optional, Lawful.decode_encode]

/-- Where fields may be left out, too, the first field is not taken for another. -/
@[simp] theorem optional_later {other : String} (apart : name ≠ other) (json : Json)
    (inOrder : Bool) :
    (⟨(other, json) :: members, inOrder, source⟩ : Fields).optional name =
      ((⟨members, inOrder, source⟩ : Fields).optional name : Option (Option α)) := by
  simp [optional, List.lookup_cons, beq_false_of_ne apart]

/-- A field that is given is read as it was written. -/
theorem required_of_mem [Lawful α] (distinct : (members.map Prod.fst).Nodup)
    (member : (name, encode value) ∈ members) :
    (⟨members, false, source⟩ : Fields).required name = some value := by
  rw [required, lookup_of_mem distinct member, Option.bind_some, Lawful.decode_encode]

/-- A field that may be left out, but is given, is read as it was written. -/
theorem withDefault_of_mem [Lawful α] (distinct : (members.map Prod.fst).Nodup)
    (member : (name, encode value) ∈ members) (default : α) :
    (⟨members, false, source⟩ : Fields).withDefault name default = some value := by
  rw [withDefault, lookup_of_mem distinct member]
  exact Lawful.decode_encode source value

/-- A field that is left out has its default. -/
theorem withDefault_of_not_mem (omitted : name ∉ members.map Prod.fst) (default : α) :
    (⟨members, false, source⟩ : Fields).withDefault name default = some default := by
  have nothing : members.lookup name = none :=
    List.lookup_eq_none_iff.2 fun member among => bne_iff_ne.2 fun same =>
      omitted (same ▸ List.mem_map_of_mem among)
  rw [withDefault, nothing]

end Fields

/-- Some of the saved members of a structure, in any order, without nothing but what has its
default. -/
structure Abridges (members saved defaults : List (String × Json)) : Prop where
  /-- Some members are kept, and put in another order. -/
  kept : ∃ kept, members.Perm kept ∧ kept.Sublist saved
  /-- The others have their defaults. -/
  omitted : ∀ member ∈ saved, member ∉ members → member ∈ defaults

namespace Abridges

variable {members saved defaults : List (String × Json)}

/-- What is given was saved. -/
theorem subset (abridges : Abridges members saved defaults) : members ⊆ saved := by
  obtain ⟨kept, perm, sublist⟩ := abridges.kept
  exact fun member among => sublist.subset (perm.mem_iff.1 among)

/-- The names of what is given are distinct if all are. -/
theorem distinct (abridges : Abridges members saved defaults)
    (distinct : (saved.map Prod.fst).Nodup) : (members.map Prod.fst).Nodup := by
  obtain ⟨kept, perm, sublist⟩ := abridges.kept
  exact (perm.map Prod.fst).nodup_iff.2 (distinct.sublist (sublist.map Prod.fst))

/-- A field has its value whether or not it is given. -/
theorem withDefault (abridges : Abridges members saved defaults)
    (distinct : (saved.map Prod.fst).Nodup) (distinct' : (defaults.map Prod.fst).Nodup)
    {α : Type} [Form α] [Lawful α] {source : Source} {name : String} {value default : α}
    (member : (name, encode value) ∈ saved) (member' : (name, encode default) ∈ defaults) :
    (⟨members, false, source⟩ : Fields).withDefault name default = some value := by
  by_cases given : (name, encode value) ∈ members
  · exact Fields.withDefault_of_mem (abridges.distinct distinct) given default
  · -- What is left out is written as its default is, and no other value is.
    have same : encode value = encode default := by
      have found := lookup_of_mem distinct' (abridges.omitted _ member given)
      exact Option.some.inj (found.symm.trans (lookup_of_mem distinct' member'))
    have nameless : name ∉ members.map Prod.fst := by
      intro named
      obtain ⟨⟨name, other⟩, among, rfl⟩ := List.mem_map.1 named
      have found := lookup_of_mem distinct (abridges.subset among)
      obtain rfl := Option.some.inj (found.symm.trans (lookup_of_mem distinct member))
      exact given among
    have read : some value = some default := by
      rw [← Lawful.decode_encode source value, same, Lawful.decode_encode]
    rw [Fields.withDefault_of_not_mem nameless, read]

end Abridges

/-! ## Bands -/

instance : Lawful Band where
  decode_encode source band := by
    obtain ⟨low, high, step, deemphasis, region⟩ := band
    let members : List (String × Json) :=
      [("low", encode low), ("high", encode high), ("step", encode step),
        ("deemphasis", encode deemphasis), ("region", encode region)]
    have distinct : (members.map Prod.fst).Nodup := by
      change ["low", "high", "step", "deemphasis", "region"].Nodup
      decide
    have fields : fields? source (members.map Prod.fst) (.object members) =
        some ⟨members, false, source⟩ :=
      fields?_object (List.Subset.refl _) distinct source
    have lowRead : (⟨members, false, source⟩ : Fields).required "low" = some low :=
      Fields.required_of_mem distinct (by simp [members])
    have highRead : (⟨members, false, source⟩ : Fields).required "high" = some high :=
      Fields.required_of_mem distinct (by simp [members])
    have stepRead : (⟨members, false, source⟩ : Fields).required "step" = some step :=
      Fields.required_of_mem distinct (by simp [members])
    have deemphasisRead :
        (⟨members, false, source⟩ : Fields).required "deemphasis" = some deemphasis :=
      Fields.required_of_mem distinct (by simp [members])
    have regionRead : (⟨members, false, source⟩ : Fields).required "region" = some region :=
      Fields.required_of_mem distinct (by simp [members])
    change ((fields? source (members.map Prod.fst) (.object members)).bind fun fields => _) = _
    rw [fields, Option.bind_some]
    change ((⟨members, false, source⟩ : Fields).required "low").bind _ = _
    rw [lowRead, highRead, stepRead, deemphasisRead, regionRead]
    rfl

instance : Lawful (Option Band) := option_decode_encode nofun

end Form

end Tuner
