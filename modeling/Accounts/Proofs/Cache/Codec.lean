import Accounts.Cache.Codec
import Accounts.Cache.Key
import Accounts.Store.Statement
import Accounts.Proofs.Calendar.Text
import Accounts.Proofs.Json.TooLong
import Accounts.Proofs.Uuid.Text

/-!
# Cached accounts, written and read back

A cached account is read back without its password and otherwise as it was, exactly when its
postcode is not longer than an integer may be, and no two accounts have one key:

    decode (encode a) = some a.sanitized      the postcode has at most 4300 digits
                        none                  otherwise
-/

namespace Accounts

open Number

/-! ## Fields -/

namespace Input

theorem required_of {read : Json → Checked α} {name : String} {m : List (String × Json)} {j : Json}
    {a : α} (hm : Json.member? name m = some j) (hread : read j = .ok a) :
    required read name m = .ok a := by
  rw [required, hm]
  dsimp only
  rw [hread]
  rfl

theorem withDefault_of {value : α} {read : Json → Checked α} {name : String}
    {m : List (String × Json)} {j : Json} {a : α} (hm : Json.member? name m = some j)
    (hread : read j = .ok a) : withDefault value read name m = .ok a := by
  rw [withDefault, hm]
  dsimp only
  rw [hread]
  rfl

theorem withDefault_of_none {value : α} {read : Json → Checked α} {name : String}
    {m : List (String × Json)} (hm : Json.member? name m = none) :
    withDefault value read name m = .ok value := by
  rw [withDefault, hm]

theorem wholeText_str (s : String) : wholeText (.str s) = .ok s := rfl

theorem orNull_wholeText (s : Option String) : orNull wholeText (.ofText? s) = .ok s := by
  cases s <;> rfl

theorem orNull_integer (n : Option Int) : orNull integer (.ofInt? n) = .ok n := by
  cases n <;> rfl

theorem orNull_date (d : Option Calendar.Date) : orNull date (.ofDate? d) = .ok d := by
  cases d with
  | none => rfl
  | some d =>
    show (dateOfText d.text.toList).map some = _
    rw [Calendar.Date.text, String.toList_ofList, dateOfText_chars]
    rfl

theorem uuid_text (u : Uuid) : uuid (.str u.text) = .ok u := by
  simp only [uuid, Uuid.read_text]

theorem dateTime_ofDateTime (t : Calendar.DateTime) : dateTime (.ofDateTime t) = .ok t := by
  show dateTimeOfText (t.text .letter).toList = _
  rw [Calendar.DateTime.text, String.toList_ofList, dateTimeOfText_chars]

theorem names_nodup (p : Profile) : ((p.members []).map (·.1)).Nodup := by
  show ["id", "first_name", "last_name", "email", "role", "about", "phone_number", "address",
    "city", "gender", "postcode", "birthday", "created_at", "updated_at", "login_date"].Nodup
  decide

/-- An account is read back from the members of its profile, without a password. -/
theorem account_json (p : Profile) : account p.json = .ok ⟨p, none⟩ := by
  have hm {name : String} {j : Json} (h : (name, j) ∈ p.members []) :
      Json.member? name (p.members []) = some j := Assoc.get?_of_mem (names_nodup p) h
  have hpassword : Json.member? "password" (p.members []) = none := by
    simp [Json.member?, Assoc.get?, Profile.members]
  unfold account record Profile.json optional
  dsimp only
  rw [required_of (hm (by simp [Profile.members])) (uuid_text p.id),
    withDefault_of (hm (by simp [Profile.members])) (wholeText_str p.firstName),
    withDefault_of (hm (by simp [Profile.members])) (wholeText_str p.lastName),
    required_of (hm (by simp [Profile.members])) (wholeText_str p.email),
    withDefault_of_none hpassword,
    withDefault_of (hm (by simp [Profile.members])) (wholeText_str p.role),
    withDefault_of (hm (by simp [Profile.members])) (orNull_wholeText p.about),
    withDefault_of (hm (by simp [Profile.members])) (orNull_wholeText p.phoneNumber),
    withDefault_of (hm (by simp [Profile.members])) (orNull_wholeText p.address),
    withDefault_of (hm (by simp [Profile.members])) (orNull_wholeText p.city),
    withDefault_of (hm (by simp [Profile.members])) (orNull_wholeText p.gender),
    withDefault_of (hm (by simp [Profile.members])) (orNull_integer p.postcode),
    withDefault_of (hm (by simp [Profile.members])) (orNull_date p.birthday),
    required_of (hm (by simp [Profile.members])) (dateTime_ofDateTime p.createdAt),
    required_of (hm (by simp [Profile.members])) (dateTime_ofDateTime p.updatedAt),
    required_of (hm (by simp [Profile.members])) (dateTime_ofDateTime p.loginDate)]
  rfl

end Input

/-! ## Accounts -/

namespace Json

theorem exact_ofText? (s : Option String) : Exact (ofText? s) := by
  cases s <;> trivial

theorem depth_ofText? (s : Option String) : (ofText? s).depth = 0 := by
  cases s <;> rfl

end Json

namespace Cache

/-- A postcode has few enough digits to be read from a cached text. -/
def isReadable (postcode : Option Int) : Bool :=
  match postcode with
  | some n => (digits n.natAbs).length ≤ Json.maxDigits
  | none => true

/-- An integer of a column is short. -/
theorem isReadable_of_fits {n : Option Int} (h : Store.fitsColumn n = true) :
    isReadable n = true := by
  cases n with
  | none => rfl
  | some n =>
    obtain ⟨hlow, hhigh⟩ := fitsWord_iff.1 h
    have hmin : wordMin 64 = -9223372036854775808 := by decide
    have hmax : wordMax 64 = 9223372036854775807 := by decide
    have hlength : (digits n.natAbs).length ≤ 19 := length_digits_le (by decide) (by omega)
    exact decide_eq_true (Nat.le_trans hlength (by decide))

end Cache

namespace Profile

/-- The members in front of the postcode. -/
def early (p : Profile) : List (String × Json) :=
  [("id", .str p.id.text),
    ("first_name", .str p.firstName),
    ("last_name", .str p.lastName),
    ("email", .str p.email),
    ("role", .str p.role),
    ("about", .ofText? p.about),
    ("phone_number", .ofText? p.phoneNumber),
    ("address", .ofText? p.address),
    ("city", .ofText? p.city),
    ("gender", .ofText? p.gender)]

/-- The members after the postcode. -/
def late (p : Profile) : List (String × Json) :=
  [("birthday", .ofDate? p.birthday),
    ("created_at", .ofDateTime p.createdAt),
    ("updated_at", .ofDateTime p.updatedAt),
    ("login_date", .ofDateTime p.loginDate)]

theorem json_eq (p : Profile) :
    p.json = .obj (p.early ++ ("postcode", .ofInt? p.postcode) :: p.late) := rfl

theorem exact_early (p : Profile) : (Json.obj p.early).Exact := by
  refine ⟨?_, ?_⟩
  · show ["id", "first_name", "last_name", "email", "role", "about", "phone_number", "address",
      "city", "gender"].Nodup
    decide
  · simp only [early, Json.MembersExact, Json.exact_ofText?, Json.Exact, and_self]

theorem exact_json {p : Profile} (h : (Json.ofInt? p.postcode).Exact) : p.json.Exact := by
  refine ⟨Input.names_nodup p, ?_⟩
  simp only [members, List.append_nil, List.cons_append, List.nil_append, Json.MembersExact,
    Json.exact_ofText?, h, Json.ofDate?, Json.ofDateTime, Json.Exact, and_self]

theorem depth_early (p : Profile) : (Json.obj p.early).depth = 1 := by
  simp only [early, Json.depth, Json.membersDepth, Json.depth_ofText?, Nat.max_self]

/-- A profile holds no arrays and objects. -/
theorem depth_json (p : Profile) : p.json.depth = 1 := by
  have hpostcode : (Json.ofInt? p.postcode).depth = 0 := by
    cases p.postcode <;> rfl
  simp only [json, members, List.append_nil, List.cons_append, List.nil_append, Json.depth,
    Json.membersDepth, Json.depth_ofText?, hpostcode, Json.ofDate?, Json.ofDateTime, Nat.max_self]

end Profile

namespace Cache

/-- The cached text of an account is read as its profile, unless the postcode has too many digits. -/
theorem read_encode {limits : Json.Limits} (hdepth : 1 ≤ limits.depth) (a : Account) :
    Json.read limits (encode a).toList =
      if isReadable a.postcode then .ok a.toProfile.json else .error .tooManyDigits := by
  unfold encode Json.render
  rw [String.toList_ofList]
  rcases hpostcode : a.postcode with _ | n
  · exact Json.read_chars .plain (Profile.exact_json (by rw [hpostcode]; trivial))
      (a.toProfile.depth_json ▸ hdepth)
  · have hreadable : isReadable (some n) = decide ((digits n.natAbs).length ≤ Json.maxDigits) := rfl
    rw [hreadable]
    by_cases hlength : (digits n.natAbs).length ≤ Json.maxDigits
    · rw [if_pos (decide_eq_true hlength)]
      exact Json.read_chars .plain (Profile.exact_json (by rw [hpostcode]; exact hlength))
        (a.toProfile.depth_json ▸ hdepth)
    · rw [if_neg (fun h => hlength (of_decide_eq_true h)), Profile.json_eq, hpostcode]
      exact Json.read_chars_tooLong .plain (Nat.lt_of_not_le hlength) a.toProfile.exact_early
        (a.toProfile.depth_early ▸ hdepth) _ _

/-- An account is read back from its cached text, without its password, when its postcode is short,
and otherwise not at all. -/
theorem decode_encode_eq (a : Account) :
    decode (encode a) = if isReadable a.postcode then some a.sanitized else none := by
  unfold decode
  rw [read_encode (by decide) a]
  cases isReadable a.postcode with
  | false => rfl
  | true =>
    rw [if_pos rfl, if_pos rfl]
    dsimp only
    rw [Input.account_json]
    rfl

/-- An account is read back from its cached text, without its password. -/
theorem decode_encode {a : Account} (h : Store.fitsColumn a.postcode = true) :
    decode (encode a) = some a.sanitized := by
  rw [decode_encode_eq, isReadable_of_fits h, if_pos rfl]

/-- Different accounts have different keys. -/
theorem key_injective {id other : Uuid} (h : key id = key other) : id = other :=
  Uuid.text_injective ((String.append_right_inj keyStart).1 h)

end Cache

end Accounts
