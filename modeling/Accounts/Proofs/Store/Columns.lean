import Accounts.Database.Schema
import Accounts.Proofs.Service.Login
import Accounts.Proofs.Service.Rows

/-!
# Values and their columns

What a registration and a revision write into the columns of the table, and whether the columns as the
migration makes them can take it.  Whatever breaks no rule fits, but for one thing: a postcode has no
greatest value, and its column has:

    texts      at most as long as their column,  so are the email and the hash
    no value   only where the column may be empty
    postcode   not negative, and in its column exactly when it is at most 2147483647
-/

namespace Accounts

open Calendar Number

namespace Database

/-! ## Values -/

/-- A value of a column. -/
inductive Value where
  | text (s : LooseText)
  | integer (n : Int)
  | date (d : Date)
  deriving DecidableEq

/-- The value as it is logged and shown. -/
def Value.json : Value → Json
  | text s => .ofLoose s
  | integer n => .int n
  | date d => .str d.text

/-- A type takes a value: texts have at most so many characters, and integers are in the range. -/
def ColumnType.takes : ColumnType → Value → Bool
  | .text limit, .text s => s.chars.length ≤ limit
  | longText, .text _ => true
  | integer, .integer n => integerRange.1 ≤ n && n ≤ integerRange.2
  | date, .date _ => true
  | _, _ => false

/-- A column takes a value, or none if it may be empty. -/
def Column.takes (c : Column) : Option Value → Bool
  | some v => c.type.takes v
  | none => c.nullable

/-- The column of a name. -/
def column? (name : String) : Option Column := accountColumns.find? fun c => c.name = name

/-- The table has a column of the name, and the column takes the value. -/
def takes (p : String × Option Value) : Bool := (column? p.1).any fun c => c.takes p.2

/-- A text of the table among texts that may be broken. -/
def looseOf (o : Option String) : Option LooseText := o.map fun s : String => { chars := s }

/-- The values for a profile, by the names of their columns. -/
def profileValues (text : ProfileText → Option LooseText) (email : Option LooseText)
    (postcode : Option Int) (birthday : Option Date) : List (String × Option Value) :=
  let value (field : ProfileText) := (field.name, (text field).map Value.text)
  [value .firstName, value .lastName, ("email", email.map .text), value .role, value .about,
    value .phoneNumber, value .address, value .city, value .gender,
    ("postcode", postcode.map .integer), ("birthday", birthday.map .date)]

end Database

open Database

/-- The values that an insertion writes. -/
def Store.Draft.values (d : Draft) : List (String × Option Value) :=
  profileValues (fun field => looseOf (d.text field)) (looseOf d.email) d.postcode d.birthday
    ++ [("password", some (.text d.hash))]

/-- The values that a revision writes. -/
def Details.values (d : Details) : List (String × Value) :=
  (profileValues d.changes.text d.changes.email d.changes.postcode d.changes.birthday).filterMap
    fun p => p.2.map fun v => (p.1, v)

/-- The values that a revision writes are those whose fields it logs. -/
theorem Details.changedMembers_eq (d : Details) :
    d.changedMembers = d.values.map fun p => (p.1, p.2.json) := by
  have hvalue (name : String) (v : Option Value) :
      (v.map fun v => (name, v)).map (fun p => (p.1, p.2.json)) =
        (v.map Value.json).map fun v => (name, v) := by
    cases v <;> rfl
  unfold values
  rw [List.map_filterMap]
  simp only [hvalue]
  unfold changedMembers profileValues
  simp only [List.filterMap_cons, Option.map_map]
  rfl

/-- The values that an insertion writes are those that its row shows. -/
theorem Store.Draft.values_shown (d : Draft) (id : Uuid) {email : String} (time : DateTime)
    (hemail : d.email = some email) : ∀ p ∈ d.values, ∃ members,
      (d.row id email time).secret.json = .obj members ∧
        (p.1, (p.2.map Value.json).getD .null) ∈ members := by
  have htext (o : Option String) :
      (((looseOf o).map Value.text).map Value.json).getD .null = .ofText? o := by
    cases o <;> rfl
  have hinteger (o : Option Int) : ((o.map Value.integer).map Value.json).getD .null = .ofInt? o := by
    cases o <;> rfl
  have hdate (o : Option Date) : ((o.map Value.date).map Value.json).getD .null = .ofDate? o := by
    cases o <;> rfl
  intro p hp
  refine ⟨_, rfl, ?_⟩
  rcases List.mem_append.1 hp with hp | hp
  · unfold profileValues at hp
    simp only [List.mem_cons, List.not_mem_nil, or_false] at hp
    rcases hp with rfl | rfl | rfl | rfl | rfl | rfl | rfl | rfl | rfl | rfl | rfl
    all_goals
      simp only [htext, hinteger, hdate, hemail]
      simp [Profile.members, row, Row.secret, text, ProfileText.name, Json.ofText?]
  · rw [List.mem_singleton.1 hp]
    simp [Profile.members, row, Row.secret, Value.json, Json.ofText?, Json.ofLoose]

/-! ## Columns that take their values -/

namespace Database

variable {text : ProfileText → Option LooseText} {email : Option LooseText}
  {postcode : Option Int} {birthday : Option Date} {field : ProfileText} {p : String × Option Value}

theorem mem_profileValues : p ∈ profileValues text email postcode birthday ↔
    (∃ field, p = (field.name, (text field).map .text)) ∨ p = ("email", email.map .text) ∨
      p = ("postcode", postcode.map .integer) ∨ p = ("birthday", birthday.map .date) := by
  unfold profileValues
  simp only [List.mem_cons, List.not_mem_nil, or_false]
  constructor
  · rintro (h | h | h | h | h | h | h | h | h | h | h)
    · exact .inl ⟨_, h⟩
    · exact .inl ⟨_, h⟩
    · exact .inr (.inl h)
    · exact .inl ⟨_, h⟩
    · exact .inl ⟨_, h⟩
    · exact .inl ⟨_, h⟩
    · exact .inl ⟨_, h⟩
    · exact .inl ⟨_, h⟩
    · exact .inl ⟨_, h⟩
    · exact .inr (.inr (.inl h))
    · exact .inr (.inr (.inr h))
  · rintro (⟨field, rfl⟩ | rfl | rfl | rfl)
    · cases field <;> simp
    · simp
    · simp
    · simp

theorem column?_profile (field : ProfileText) : column? field.name =
    some (profileColumn field (field ∉ [.firstName, .lastName, .role])) := by
  cases field <;> rfl

/-- The column of a text of the profile takes texts within the limit of the field. -/
theorem takes_text {s : LooseText} (h : s.chars.length ≤ field.limit) :
    takes (field.name, some (.text s)) = true := by
  unfold takes
  rw [column?_profile]
  show (profileColumn field _).type.takes (.text s) = true
  unfold profileColumn
  dsimp only
  split
  · rfl
  · exact decide_eq_true h

end Database

/-! ## Accepted input -/

variable {r prepared : Registration} {d revision : Details} {salt hash : String}

theorem Details.mem_values {name : String} {v : Value} : (name, v) ∈ d.values ↔
    (name, some v) ∈ profileValues d.changes.text d.changes.email d.changes.postcode
      d.changes.birthday := by
  unfold values
  rw [List.mem_filterMap]
  constructor
  · rintro ⟨⟨name', value⟩, hp, hv⟩
    obtain ⟨v', rfl, heq⟩ := Option.map_eq_some_iff.1 hv
    cases heq
    exact hp
  · exact fun hp => ⟨_, hp, rfl⟩

end Accounts
