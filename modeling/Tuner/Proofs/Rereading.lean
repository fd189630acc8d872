import Tuner.Json.Reader
import Tuner.Proofs.Lexing

/-!
# Reading what was printed

The tokens of a value bring a reading from where a value is waited for to behind that value, with
whatever was open around it. So a value whose numbers are whole is read from its own text.

Main statement: `Json.ofString?_pretty`.
-/
namespace Tuner.Json

namespace Reading

/-- No value starts with the end of an array. -/
theorem exists_tokens (value : Json) :
    ∃ first others, value.tokens = first :: others ∧ first ≠ Token.closeArray := by
  cases value with
  | array items => cases items <;> simp [Json.tokens]
  | object members => cases members <;> simp [Json.tokens]
  | _ => simp [Json.tokens]

/-- The first item of an array is read as any other. -/
theorem foldlM_firstItem (value : Json) (rest : List Token) (frames : List Frame) :
    (value.tokens ++ rest).foldlM step (.inside frames .firstItem) =
      (value.tokens ++ rest).foldlM step (.inside frames .value) := by
  obtain ⟨first, others, same, item⟩ := exists_tokens value
  have step : step (.inside frames .firstItem) first = step (.inside frames .value) first :=
    if_neg item
  rw [same, List.cons_append, List.foldlM_cons, List.foldlM_cons, step]

/-- One token is read in one step. -/
theorem foldlM_token (reading : Reading) (token : Token) :
    [token].foldlM step reading = step reading token := bind_pure _

/-- The tokens of a value are read as the value, and those of the items and the members after some
others as what they complete. -/
theorem foldlM_tokens :
    (∀ (value : Json) (frames : List Frame),
      value.tokens.foldlM step (.inside frames .value) = complete value frames) ∧
    (∀ (members done : List (String × Json)) (frames : List Frame),
      (memberTokens members).foldlM step (.inside (.object done true :: frames) .next) =
        complete (.object (done.reverse ++ members)) frames) ∧
    ∀ (items done : List Json) (frames : List Frame),
      (itemTokens items).foldlM step (.inside (.array done :: frames) .next) =
        complete (.array (done.reverse ++ items)) frames := by
  refine Json.tokens.mutual_induct _ _ _ ?null ?bool ?number ?string ?illFormed ?emptyArray ?array
    ?emptyObject ?object ?noItems ?items ?noMembers ?members
  case null | bool | number | string | illFormed =>
    intros
    rw [Json.tokens]
    exact foldlM_token _ _
  case emptyArray =>
    intro frames
    rw [Json.tokens, List.foldlM_cons]
    exact foldlM_token (.inside (.array [] :: frames) .firstItem) .closeArray
  case emptyObject =>
    intro frames
    rw [Json.tokens, List.foldlM_cons]
    exact foldlM_token (.inside (.object [] true :: frames) .firstName) .closeObject
  case array =>
    intro item items readItem readItems frames
    rw [Json.tokens, List.foldlM_cons]
    change (item.tokens ++ itemTokens items).foldlM step
      (.inside (.array [] :: frames) .firstItem) = _
    rw [foldlM_firstItem, List.foldlM_append, readItem]
    exact readItems [item] frames
  case noItems =>
    intro done frames
    rw [itemTokens, List.append_nil]
    exact foldlM_token _ _
  case items =>
    intro item items readItem readItems done frames
    rw [itemTokens, List.foldlM_cons]
    change (item.tokens ++ itemTokens items).foldlM step
      (.inside (.array done :: frames) .value) = _
    rw [List.foldlM_append, readItem]
    refine (readItems (item :: done) frames).trans ?_
    rw [List.reverse_cons, List.append_assoc]
    rfl
  case object =>
    intro name value members readValue readMembers frames
    rw [Json.tokens, List.foldlM_cons]
    change (value.tokens ++ memberTokens members).foldlM step
      (.inside (.member [] true (some name) :: frames) .value) = _
    rw [List.foldlM_append, readValue]
    exact readMembers [(name, value)] frames
  case noMembers =>
    intro done frames
    rw [memberTokens, List.append_nil]
    exact foldlM_token _ _
  case members =>
    intro name value members readValue readMembers done frames
    rw [memberTokens, List.foldlM_cons]
    change (value.tokens ++ memberTokens members).foldlM step
      (.inside (.member done true (some name) :: frames) .value) = _
    rw [List.foldlM_append, readValue]
    refine (readMembers ((name, value) :: done) frames).trans ?_
    rw [List.reverse_cons, List.append_assoc]
    rfl

end Reading

/-- The numbers of an object are whole if those of its members are. -/
theorem isWhole_object {members : List (String × Json)}
    (whole : ∀ member ∈ members, member.2.tokens.all Token.isWhole = true) :
    (object members).tokens.all Token.isWhole = true := by
  have others : ∀ members : List (String × Json),
      (∀ member ∈ members, member.2.tokens.all Token.isWhole = true) →
      (memberTokens members).all Token.isWhole = true := by
    intro members whole
    induction members with
    | nil =>
      rw [memberTokens]
      rfl
    | cons member members ih =>
      obtain ⟨first, rest⟩ := List.forall_mem_cons.1 whole
      simp only [memberTokens, List.all_cons, List.all_append, first, ih rest, Token.isWhole,
        Bool.and_self]
  cases members with
  | nil =>
    rw [Json.tokens]
    rfl
  | cons member members =>
    obtain ⟨first, rest⟩ := List.forall_mem_cons.1 whole
    simp only [Json.tokens, List.all_cons, List.all_append, first, others members rest,
      Token.isWhole, Bool.and_self]

/-- A value whose numbers are whole is read from what is printed for it. -/
theorem ofString?_pretty {value : Json} (whole : value.tokens.all Token.isWhole = true) :
    ofString? value.pretty = some value := by
  rw [ofString?, tokens?_pretty whole, Option.bind_some, ofTokens?, Reading.foldlM_tokens.1]
  rfl

end Tuner.Json
